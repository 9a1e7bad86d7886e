import JobShell.Proofs.Program.Keeps
import JobShell.Proofs.Session.Ending
import JobShell.Proofs.Session.Turns
import JobShell.Proofs.Terminal.Claiming

namespace JobShell

/-!
# Undoing the setup

However a program ends as the process that it began as, it undoes what it has set
up, and that is the last that it does: it goes back to the modes that were saved
when the terminal was claimed, and then SIGCHLD does again what it did before the
reaper was installed. Each is attempted once, whether the other fails or not. A
program that could not install the reaper only goes back to the modes.
-/

open Host (Adds Silent)

instance : Telling (Silent Event.isAct) where
  note := Noting.note
  aside history _ children _ _ :=
    Host.silent_of_same history (congrArg Prod.fst children)
  output _ := Host.silent_emit_of_unchosen rfl
  complaint _ := Host.silent_emit_of_unchosen rfl
  unwritten _ := Host.silent_emit_of_unchosen rfl

namespace Event

theorem isAct_of_isSetting
    {event : Event}
    (setting : event.isSetting = true) :
    event.isAct = true := by
  unfold isSetting at setting
  split at setting <;> first | rfl | contradiction

end Event

/-- A trail of fewer events has what it keeps of the other. -/
theorem Host.Adds.refine
    {keep fewer : Event → Bool}
    {added : History}
    {before after : Host}
    (keeps : ∀ event, fewer event = true → keep event = true)
    (adds : Adds keep added before after) :
    Adds fewer (added.filter fewer) before after where
  grows := adds.grows
  forks := adds.forks
  trail := by
    obtain ⟨events, grown, rfl⟩ := adds.exists_events
    have both (event : Event) :
        (fewer event && keep event) = fewer event := by
      cases chosen : fewer event with
      | false =>
          rfl
      | true =>
          exact keeps event chosen
    simp only [grown, List.filter_append, List.filter_filter, both]

namespace Terminal

/-- The modes that the terminal was claimed with, if they were saved. -/
def modes? : Terminal → Option Modes
  | claimed _ modes => modes
  | detached _ | recorder _ _ => none

/-- The modes that are saved are those of the terminal before it was claimed. -/
theorem modes_of_claim
    {host claiming : Host}
    {terminal : Terminal}
    {modes : Modes}
    (claims : claim.run host = (.ok terminal, claiming))
    (isSaved : terminal.modes? = some modes) :
    modes = host.modes := by
  have answered : (claim.run host).1 = .ok terminal :=
    congrArg Prod.fst claims
  cases isTerminal : host.stdinIsTerminal with
  | true =>
      obtain ⟨rfl, -⟩ := (makes_claim isTerminal).ensures terminal answered
      change saved host.modes _ = some modes at isSaved
      cases fault : Host.Faults.next host.script.faults .tcgetattr with
      | none =>
          rw [fault] at isSaved
          exact (Option.some.inj isSaved).symm
      | some errno =>
          rw [fault] at isSaved
          contradiction
  | false =>
      have leaves :
          (claim.run host).1 = .ok (detached host.group) ∧
            Silent Event.isActive host (claim.run host).2 :=
        claim_detached isTerminal
      rw [leaves.1] at answered
      obtain rfl := Except.ok.inj answered
      contradiction

/-- Releasing a terminal attempts to set the saved modes, if there are any. -/
theorem adds_release (terminal : Terminal) (host : Host) :
    ∃ restored,
      Adds Event.isAct (restoring restored terminal.modes?)
        host (terminal.release host).2 := by
  cases terminal with
  | claimed group modes =>
      exact claimed_release Event.isAct group modes host
  | detached group =>
      exact ⟨none, detached_release group host⟩
  | recorder failForeground failReclaim =>
      exact ⟨none, Adds.refl host⟩

end Terminal

namespace Host

/-- Installing the reaper is one attempt, whose failure is an error. -/
theorem installReaper_answer (host : Host) :
    (installReaper.run host).1 =
      match (attempt .sigaction (.setHandling .reaper) host).1 with
      | none => .ok host.handling
      | some errno => .error (.sys "sigaction(SIGCHLD)" errno) := by
  have lifted :
      (liftM (setHandling .reaper) :
        HostE (Except Errno Handling)).run host =
        (.ok (setHandling .reaper host).1, (setHandling .reaper host).2) :=
    rfl
  unfold installReaper
  rw [run_bind_ok (congrArg Prod.fst lifted), lifted]
  simp only [setHandling, run_bind, run_get]
  cases (attempt .sigaction (.setHandling .reaper) host).1 <;> rfl

/-- An installed reaper answers with what SIGCHLD did before. -/
theorem installReaper_ok
    {host : Host}
    {previous : Handling}
    (installed : (installReaper.run host).1 = .ok previous) :
    previous = host.handling := by
  rw [installReaper_answer] at installed
  split at installed
  · exact (Except.ok.inj installed).symm
  · contradiction

/-- Removing the reaper is one attempt, whether it fails or not. -/
theorem adds_removeReaper (previous : Handling) (host : Host) :
    ∃ undone,
      Adds Event.isAct [.call (.setHandling previous) undone]
        host (removeReaper previous host).2 := by
  have called :
      Adds Event.isAct
        [.call (.setHandling previous)
          (attempt .sigaction (.setHandling previous) host).1]
        host (attempt .sigaction (.setHandling previous) host).2 :=
    adds_attempt Event.isAct .sigaction (.setHandling previous) host
  refine ⟨_, called.then_silent ?_⟩
  simp only [removeReaper, setHandling, run_bind, run_get]
  cases (attempt .sigaction (.setHandling previous) host).1 with
  | none =>
      exact silent_of_same rfl rfl
  | some errno =>
      exact keeps_note _ _ _

end Host

namespace Program

/-- Undoing a setup: the saved modes, and then what SIGCHLD did before. -/
def undoing
    (modes : Option Modes)
    (previous : Handling)
    (restored undone : Option Errno) :
    History :=
  Terminal.restoring restored modes ++ [.call (.setHandling previous) undone]

theorem adds_tearDown (setup : Setup) (host : Host) :
    ∃ restored undone,
      Adds Event.isAct
        (undoing setup.session.terminal.modes? setup.previous restored undone)
        host (tearDown setup host).2 := by
  obtain ⟨restored, releases⟩ := setup.session.terminal.adds_release host
  obtain ⟨undone, removes⟩ :=
    Host.adds_removeReaper setup.previous
      (setup.session.terminal.release host).2
  exact ⟨restored, undone, releases.trans removes⟩

theorem filter_undoing
    (modes : Option Modes)
    (previous : Handling)
    (restored undone : Option Errno) :
    (undoing modes previous restored undone).filter Event.isSetting =
      undoing modes previous restored undone := by
  cases modes <;> rfl

section SetUp

variable
  (settings : Settings)
  {host claimed watched : Host}
  {terminal : Terminal}

theorem setUp_unclaimed
    {e : ShellError}
    (claims : Terminal.claim.run host = (.error e, claimed)) :
    setUp settings host = (.error e, claimed) := by
  unfold setUp
  rw [run_bind, claims]
  rfl

/-- A setup that cannot install the reaper releases the terminal. -/
theorem setUp_unwatched
    {e : ShellError}
    (claims : Terminal.claim.run host = (.ok terminal, claimed))
    (installs : Host.installReaper.run claimed = (.error e, watched)) :
    setUp settings host = (.error e, (terminal.release watched).2) := by
  unfold setUp
  rw [run_bind, claims]
  dsimp only
  rw [run_bind, installs]
  rfl

theorem setUp_watched
    {previous : Handling}
    (claims : Terminal.claim.run host = (.ok terminal, claimed))
    (installs : Host.installReaper.run claimed = (.ok previous, watched)) :
    ∃ setup,
      setUp settings host = (.ok setup, watched) ∧
        setup.session.terminal = terminal ∧
        setup.previous = previous := by
  unfold setUp
  rw [run_bind, claims]
  dsimp only
  rw [run_bind, installs]
  exact ⟨_, rfl, rfl, rfl⟩

end SetUp

/-- After a setup that fails, the program only says so. -/
theorem silent_unready
    {settings : Settings}
    {host ready : Host}
    {e : ShellError}
    (sets : setUp settings host = (.error e, ready))
    (input : Session.Input) :
    Silent Event.isAct ready (runAsProgram settings input host).2 := by
  rw [runAsProgram_unready sets]
  exact keeps_reportFatal settings.name "jobsh: setup failed: " e ready

/-- The end of a program that is no child undoes the setup. -/
theorem adds_conclude
    (settings : Settings)
    (setup : Setup)
    {result : SessionResult}
    {after : Shell}
    (stays : Session.Stays result after) :
    ∃ restored undone,
      Adds Event.isAct
        (undoing setup.session.terminal.modes? setup.previous restored undone)
        after.host (conclude settings setup result after.host).2 := by
  obtain ⟨last, reports, ends⟩ :=
    conclude_undoes settings setup (Silent Event.isAct) stays
  obtain ⟨restored, undone, undoes⟩ := adds_tearDown setup last
  rw [ends]
  exact ⟨restored, undone, reports.after_silent undoes⟩

/--
For every input and every script that never makes the program a child: a program
that cannot claim the terminal does nothing after the claim. One that claims it but
cannot install the reaper goes back to the modes that were saved, if there are any,
and does nothing else. In all other cases, however its session ends and even if the
process panics, the program goes back to these modes after the session and then
makes SIGCHLD do again what it did before, by one attempt each and whether the other
fails or not; these attempts are the last that it does, and the only ones of their
kind since the last line was handled. The modes that are saved are those that the
terminal had.
-/
theorem runAsProgram_undoes
    (settings : Settings)
    (input : Session.Input)
    {host : Host}
    (asParent : ForkAnswer.child ∉ host.script.forks) :
    (∀ e denied,
        Terminal.claim.run host = (.error e, denied) →
        Silent Event.isAct denied (runAsProgram settings input host).2) ∧
      ∀ terminal claimed,
        Terminal.claim.run host = (.ok terminal, claimed) →
        (∀ modes, terminal.modes? = some modes → modes = host.modes) ∧
          (∀ e unwatched,
            Host.installReaper.run claimed = (.error e, unwatched) →
            ∃ restored,
              Adds Event.isAct
                (Terminal.restoring restored terminal.modes?)
                unwatched (runAsProgram settings input host).2) ∧
          ∀ previous watched,
            Host.installReaper.run claimed = (.ok previous, watched) →
            previous = claimed.handling ∧
              ∃ setup result after count last restored undone,
                setUp settings host = (.ok setup, watched) ∧
                  setup.session.terminal = terminal ∧
                  setup.session.run input { host := watched } =
                    (result, after) ∧
                  setup.session.Handles 0 (input.lines.take count)
                    (setup.session.opened { host := watched }) last ∧
                  Adds Event.isSetting
                    (undoing terminal.modes? previous restored undone)
                    last.host (runAsProgram settings input host).2 ∧
                  Adds Event.isAct
                    (undoing terminal.modes? previous restored undone)
                    after.host (runAsProgram settings input host).2 := by
  refine
    ⟨fun e denied claims =>
        silent_unready (setUp_unclaimed settings claims) input,
      fun terminal claimed claims =>
        ⟨fun modes => Terminal.modes_of_claim claims,
          fun e unwatched installs => ?_, fun previous watched installs => ?_⟩⟩
  · obtain ⟨restored, releases⟩ := terminal.adds_release unwatched
    exact
      ⟨restored,
        releases.then_silent
          (silent_unready (setUp_unwatched settings claims installs) input)⟩
  · obtain ⟨setup, sets, rfl, rfl⟩ := setUp_watched settings claims installs
    have ready : Silent Event.isTurn host (setUp settings host).2 :=
      keeps_setUp settings host
    rw [sets] at ready
    cases plays : setup.session.run input { host := watched } with
    | mk result after =>
        have stays :=
          Session.stays_of_asParent plays (ready.asParent asParent)
        obtain ⟨count, last, handles, closes⟩ :=
          Session.handles_of_course (Session.run_course plays)
        obtain ⟨restored, undone, undoes⟩ := adds_conclude settings setup stays
        rw [← runAsProgram_played sets plays] at undoes
        have settings := undoes.refine fun _ => Event.isAct_of_isSetting
        rw [filter_undoing] at settings
        exact
          ⟨Host.installReaper_ok (congrArg Prod.fst installs), setup, result,
            after, count, last, restored, undone, sets, rfl, plays, handles,
            closes.after_silent settings, undoes⟩

/--
A host with a terminal and one program, whose child stops; the modes can be set
once, and the handling of SIGCHLD too.
-/
def spoiled : Host :=
  { stdinIsTerminal := true
    script :=
      { forks := [.parent 7]
        waits := fun _ => [.ok (.stopped .tstp)]
        faults := fun syscall =>
          match syscall with
          | .tcsetattr => [none, some .eio]
          | .sigaction => [none, some .einval]
          | _ => [] }
    space := { tree := { entries := [([[112]], .file 0o755 [])] } } }

/-- What undoes the setup of the spoiled host fails twice, and is all attempted. -/
theorem runAsProgram_undoes_spoiled :
    ForkAnswer.child ∉ spoiled.script.forks ∧
      (runAsProgram { logDirectory := [] } (.ok [47, 112, 10])
          spoiled).2.history.calls.reverse.take 2 =
        ["sigaction(SIGCHLD,default)=EINVAL", "tcsetattr(TCSADRAIN)=EIO"] ∧
      ∃ after restored undone,
        Adds Event.isAct
          [.call (.setModes {}) restored,
            .call (.setHandling .default) undone]
          after
          (runAsProgram { logDirectory := [] } (.ok [47, 112, 10])
            spoiled).2 := by
  have asParent : ForkAnswer.child ∉ spoiled.script.forks := by decide
  have fails :
      (runAsProgram { logDirectory := [] } (.ok [47, 112, 10])
          spoiled).2.history.calls.reverse.take 2 =
        ["sigaction(SIGCHLD,default)=EINVAL", "tcsetattr(TCSADRAIN)=EIO"] := by
    decide +kernel
  have claims :
      Terminal.claim.run spoiled =
        (.ok (.claimed 500 (some {})), (Terminal.claim.run spoiled).2) :=
    run_of_toOption (by decide +kernel)
  have installs :
      Host.installReaper.run (Terminal.claim.run spoiled).2 =
        (.ok .default,
          (Host.installReaper.run (Terminal.claim.run spoiled).2).2) :=
    run_of_toOption (by decide +kernel)
  obtain ⟨-, undoes⟩ :=
    runAsProgram_undoes { logDirectory := [] } (.ok [47, 112, 10]) asParent
  obtain ⟨-, -, undoes⟩ := undoes _ _ claims
  obtain
    ⟨-, setup, result, after, count, last, restored, undone, -, -, -, -, -,
      adds⟩ := undoes _ _ installs
  exact ⟨asParent, fails, after.host, restored, undone, adds⟩

end Program
end JobShell

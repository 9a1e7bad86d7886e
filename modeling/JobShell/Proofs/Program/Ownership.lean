import JobShell.Proofs.Program.Keeps
import JobShell.Proofs.Session.Turns

namespace JobShell

/-!
# Who owns the terminal during a run

The active events of a whole run are those of claiming the terminal, of the
session, and of leaving the terminal as it was found. A shell that never fails
to give the terminal away therefore owns it again at every prompt and at the
end.
-/

open Host (Adds Silent)

namespace Event

/-- Who owns the terminal after the event. -/
def owner (before : Option Pid) : Event → Option Pid
  | .call (.setOwner group) none => some group
  | _ => before

/-- The event fails to give the terminal to a group. -/
def isDenial : Event → Bool
  | .call (.setOwner _) (some _) => true
  | _ => false

end Event

namespace History

/-- Who owns the terminal after a history. -/
def ownerFrom (before : Option Pid) (history : History) : Option Pid :=
  history.foldl Event.owner before

theorem ownerFrom_append
    (before : Option Pid)
    (first second : History) :
    ownerFrom before (first ++ second) =
      ownerFrom (ownerFrom before first) second :=
  List.foldl_append

/-- Only active events change the owner. -/
theorem ownerFrom_filter (before : Option Pid) (history : History) :
    ownerFrom before (history.filter Event.isActive) =
      ownerFrom before history := by
  induction history generalizing before with
  | nil =>
      rfl
  | cons event rest inductionHypothesis =>
      rw [List.filter_cons]
      split
      · exact inductionHypothesis _
      · rename_i idle
        have same : Event.owner before event = before := by
          unfold Event.owner
          split
          · simp [Event.isActive] at idle
          · rfl
        rw [inductionHypothesis]
        simp only [ownerFrom, List.foldl_cons, same]

end History

/--
The terminal is the group's at each prompt and at the end, given who owned it at
the start.
-/
structure Returns
    (start : Option Pid)
    (group : Pid)
    (trail : History) :
    Prop where
  atPrompt :
    ∀ before number text after,
      trail = before ++ .prompt number text :: after →
      History.ownerFrom start before = some group
  atEnd : History.ownerFrom start trail = some group

namespace Returns

variable {start : Option Pid} {group : Pid}

/-- Without prompts only the end counts. -/
theorem of_noPrompt
    {trail : History}
    (noPrompt : ∀ number text, .prompt number text ∉ trail)
    (atEnd : History.ownerFrom start trail = some group) :
    Returns start group trail where
  atPrompt := by
    rintro before number text after rfl
    exact absurd (by simp) (noPrompt number text)
  atEnd := atEnd

theorem prompt (group : Pid) (number : Nat) (text : Text) :
    Returns (some group) group [.prompt number text] where
  atPrompt := by
    intro before other shown after same
    cases before with
    | nil =>
        rfl
    | cons event rest =>
        simp at same
  atEnd := rfl

/-- One stretch after the other. -/
theorem append
    {first second : History}
    (firstReturns : Returns start group first)
    (secondReturns : Returns (some group) group second) :
    Returns start group (first ++ second) where
  atPrompt := by
    intro before number text after same
    rcases List.append_eq_append_iff.mp same with
      ⟨between, rfl, inSecond⟩ | ⟨between, inFirst, rest⟩
    · rw [History.ownerFrom_append, firstReturns.atEnd]
      exact secondReturns.atPrompt between number text after inSecond
    · cases between with
      | nil =>
          simp only [List.append_nil] at inFirst
          rw [← inFirst]
          exact firstReturns.atEnd
      | cons event between =>
          obtain ⟨rfl, -⟩ : Event.prompt number text = event ∧ _ := by
            simpa using rest
          exact firstReturns.atPrompt before number text between inFirst
  atEnd := by
    rw [History.ownerFrom_append, firstReturns.atEnd, secondReturns.atEnd]

/-- Events that are not active make no difference. -/
theorem of_filter
    {events : History}
    (returns : Returns start group (events.filter Event.isActive)) :
    Returns start group events where
  atPrompt := by
    rintro before number text after rfl
    rw [← History.ownerFrom_filter]
    apply returns.atPrompt _ number text (after.filter Event.isActive)
    rw [List.filter_append]
    rfl
  atEnd := by
    rw [← History.ownerFrom_filter]
    exact returns.atEnd

end Returns

theorem Terminal.ownerFrom_restoring
    (owner : Option Pid)
    (restored : Option Errno)
    (modes : Option Modes) :
    History.ownerFrom owner (restoring restored modes) = owner := by
  cases modes <;> rfl

theorem Terminal.restoring_returns
    (group : Pid)
    (restored : Option Errno)
    (modes : Option Modes) :
    Returns (some group) group (restoring restored modes) :=
  Returns.of_noPrompt
    (by cases modes <;> simp [restoring])
    (ownerFrom_restoring _ _ _)

/-- A launch takes the terminal back from the job it handed it to. -/
theorem Shell.Launching.returns
    {background : Bool}
    {group : Pid}
    {modes : Option Modes}
    {body : History}
    (launching : Launching background group modes body)
    (noDenial : ∀ event ∈ body, event.isDenial = false) :
    Returns (some group) group body := by
  cases launching with
  | refused =>
      exact Returns.of_noPrompt (by simp) rfl
  | failed errno =>
      exact Returns.of_noPrompt (by simp) rfl
  | background child isBackground =>
      exact Returns.of_noPrompt (by simp) rfl
  | foreground child handed answers taken restored isForeground answered =>
      cases taken with
      | some errno =>
          have denial :=
            noDenial (.call (.setOwner group) (some errno))
              (by simp [Terminal.reclaiming])
          contradiction
      | none =>
          apply Returns.of_noPrompt
          · intro number text
            cases modes <;>
              simp [Terminal.reclaiming, Terminal.restoring]
          · rw [History.ownerFrom_append]
            exact Terminal.ownerFrom_restoring (some group) restored modes

/-- The rounds of a session begin and end with the terminal in the shell's hands. -/
theorem Session.Rounds.returns
    {settings : Settings}
    {group : Pid}
    {modes : Option Modes}
    {panics : Prop}
    {number : Nat}
    {lines : List Bytes}
    {trail : History}
    (rounds : Rounds settings group modes panics number lines trail)
    (noDenial : ∀ event ∈ trail, event.isDenial = false) :
    Returns (some group) group trail := by
  have line (number : Nat) (raw : Bytes) :
      Returns (some group) group [.line number raw] :=
    Returns.of_noPrompt (by simp) rfl
  induction rounds with
  | panicked number lines panicked =>
      exact Returns.of_noPrompt (by simp) rfl
  | unprompted number errno lines =>
      exact Returns.of_noPrompt (by simp) rfl
  | stop number text =>
      exact Returns.prompt group number text
  | leave number text raw rest =>
      exact (Returns.prompt group number text).append (line number raw)
  | line number text raw rest body later launching rounds inductionHypothesis =>
      have bodyReturns : Returns (some group) group body :=
        launching.returns fun event member => noDenial event (by simp [member])
      have laterReturns : Returns (some group) group later :=
        inductionHypothesis fun event member =>
          noDenial event (by simp [member])
      have whole :=
        (((Returns.prompt group number text).append (line number raw)).append
          bodyReturns).append laterReturns
      simpa using whole

theorem Session.Run.returns
    {settings : Settings}
    {group : Pid}
    {modes : Option Modes}
    {panics : Prop}
    {trail : History}
    {input : Session.Input}
    (run : Session.Run settings group modes panics trail input)
    (noDenial : ∀ event ∈ trail, event.isDenial = false) :
    Returns (some group) group trail :=
  Session.Rounds.returns run noDenial

namespace Program

/--
The active events of a run on a terminal, by what came of claiming it: those of
the claim, of the session, and of restoring the modes at the end. A session in
which the process panics, if it does, is cut short, and no more.
-/
inductive Owning
    (settings : Settings)
    (input : Session.Input)
    (panics : Prop)
    (group : Pid) :
    Except ShellError Terminal → History → Prop
  /-- The terminal is not claimed, and the program ends. -/
  | unclaimed (e : ShellError) (claim : History) :
      Terminal.Claiming group (.error e) claim →
      Owning settings input panics group (.error e) claim
  /-- The reaper cannot be installed, and the program ends. -/
  | unwatched
      (modes : Option Modes)
      (claim : History)
      (restored : Option Errno) :
      Terminal.Claiming group (.ok (.claimed group modes)) claim →
      Owning settings input panics group (.ok (.claimed group modes))
        (claim ++ Terminal.restoring restored modes)
  /-- There is a session. -/
  | session
      (modes : Option Modes)
      (claim rounds : History)
      (restored : Option Errno) :
      Terminal.Claiming group (.ok (.claimed group modes)) claim →
      Session.Run settings group modes panics rounds input →
      Owning settings input panics group (.ok (.claimed group modes))
        (claim ++ rounds ++ Terminal.restoring restored modes)

/-- Asking for the terminal gives it to nobody. -/
theorem ownerFrom_asked
    (start : Option Pid)
    {asked : History}
    (asking : ∀ event ∈ asked, Terminal.isAsking event = true) :
    History.ownerFrom start asked = start := by
  induction asked generalizing start with
  | nil =>
      rfl
  | cons event rest inductionHypothesis =>
      have same : Event.owner start event = start := by
        have isAsking := asking event (by simp)
        unfold Event.owner
        split
        · contradiction
        · rfl
      change History.ownerFrom (Event.owner start event) rest = start
      rw [same]
      exact inductionHypothesis start fun event member =>
        asking event (by simp [member])

/-- There is no prompt while the terminal is claimed. -/
theorem claiming_noPrompt
    {group : Pid}
    {answer : Except ShellError Terminal}
    {claim : History}
    (claiming : Terminal.Claiming group answer claim)
    (number : Nat)
    (text : Text) :
    .prompt number text ∉ claim := by
  have notAsked
      {asked : History}
      (asking : ∀ event ∈ asked, Terminal.isAsking event = true) :
      .prompt number text ∉ asked :=
    fun member => absurd (asking _ member) (by simp [Terminal.isAsking])
  cases claiming with
  | waiting e _ asking =>
      exact notAsked asking
  | denied e asked errno asking =>
      simpa using notAsked asking
  | claimed asked image fault asking =>
      simpa using notAsked asking

/-- A claim that succeeds makes the shell's group the owner. -/
theorem claiming_returns
    {group : Pid}
    {terminal : Terminal}
    {claim : History}
    (claiming : Terminal.Claiming group (.ok terminal) claim) :
    Returns none group claim := by
  refine Returns.of_noPrompt (claiming_noPrompt claiming) ?_
  cases claiming with
  | claimed asked image fault asking =>
      rw [History.ownerFrom_append]
      rfl

/-- A claim that fails makes nobody the owner. -/
theorem claiming_noOwner
    {group : Pid}
    {e : ShellError}
    {claim : History}
    (claiming : Terminal.Claiming group (.error e) claim) :
    History.ownerFrom none claim = none := by
  cases claiming with
  | waiting _ _ asking =>
      exact ownerFrom_asked none asking
  | denied _ asked errno asking =>
      rw [History.ownerFrom_append, ownerFrom_asked none asking]
      rfl

namespace Owning

variable
  {settings : Settings}
  {input : Session.Input}
  {panics : Prop}
  {group : Pid}
  {trail : History}

/-- A run that claims the terminal returns it to the shell's group. -/
theorem returns
    {terminal : Terminal}
    (owning : Owning settings input panics group (.ok terminal) trail)
    (noDenial : ∀ event ∈ trail, event.isDenial = false) :
    Returns none group trail := by
  cases owning with
  | unwatched modes claim restored claiming =>
      exact
        (claiming_returns claiming).append
          (Terminal.restoring_returns group restored modes)
  | session modes claim rounds restored claiming run =>
      have roundsReturn : Returns (some group) group rounds :=
        run.returns fun event member => noDenial event (by simp [member])
      exact
        ((claiming_returns claiming).append roundsReturn).append
          (Terminal.restoring_returns group restored modes)

/-- A run that cannot claim the terminal has no prompt and no owner. -/
theorem unowned
    {e : ShellError}
    (owning : Owning settings input panics group (.error e) trail) :
    (∀ number text, .prompt number text ∉ trail) ∧
      History.ownerFrom none trail = none := by
  cases owning with
  | unclaimed _ _ claiming =>
      exact ⟨claiming_noPrompt claiming, claiming_noOwner claiming⟩

end Owning

/-- A claim that succeeds answers with the terminal of the shell's group. -/
theorem claiming_ok
    {group : Pid}
    {terminal : Terminal}
    {claim : History}
    (claiming : Terminal.Claiming group (.ok terminal) claim) :
    ∃ modes, terminal = .claimed group modes := by
  cases claiming with
  | claimed asked image fault asking =>
      exact ⟨_, rfl⟩

section Claimed

variable
  (settings : Settings)
  (input : Session.Input)
  {host : Host}

/-- A setup that fails is a whole run; one that succeeds is a claimed terminal. -/
theorem claimed_setUp
    (panics : Prop)
    (isTerminal : host.stdinIsTerminal = true) :
    ∃ added,
      Adds Event.isActive added host (setUp settings host).2 ∧
        ((∃ e, (setUp settings host).1 = .error e ∧
            Owning settings input panics (Terminal.claim.run host).2.group
              (Terminal.claim.run host).1 added) ∨
          ∃ setup modes,
            (setUp settings host).1 = .ok setup ∧
              setup.session.settings = settings ∧
              setup.session.terminal =
                .claimed (Terminal.claim.run host).2.group modes ∧
              (Terminal.claim.run host).1 = .ok setup.session.terminal ∧
              Terminal.Claiming (Terminal.claim.run host).2.group
                (.ok setup.session.terminal) added) := by
  obtain ⟨added, claiming, claims⟩ := Terminal.claim_claiming isTerminal
  unfold setUp
  rw [run_bind]
  generalize Terminal.claim.run host = claim at claiming claims ⊢
  obtain ⟨answer, claimed⟩ := claim
  cases answer with
  | error e =>
      exact ⟨added, claims, .inl ⟨e, rfl, .unclaimed e added claiming⟩⟩
  | ok terminal =>
      dsimp only at claiming claims ⊢
      obtain ⟨modes, rfl⟩ := claiming_ok claiming
      have installs :
          Silent Event.isActive claimed (Host.installReaper.run claimed).2 :=
        Host.keeps_installReaper claimed
      rw [run_bind]
      generalize Host.installReaper.run claimed = install at installs ⊢
      obtain ⟨answer, installed⟩ := install
      have watched := claims.then_silent installs
      cases answer with
      | error e =>
          obtain ⟨restored, releases⟩ :=
            Terminal.claimed_release Event.isActive claimed.group modes
              installed
          exact
            ⟨_, watched.trans releases,
              .inl ⟨e, rfl, .unwatched modes added restored claiming⟩⟩
      | ok previous =>
          exact ⟨added, watched, .inr ⟨_, modes, rfl, rfl, rfl, rfl, claiming⟩⟩

/-- Undoing the setup restores the modes. -/
theorem claimed_tearDown
    {setup : Setup}
    {group : Pid}
    {modes : Option Modes}
    (claimed : setup.session.terminal = .claimed group modes)
    (host : Host) :
    ∃ restored,
      Adds Event.isActive (Terminal.restoring restored modes)
        host (tearDown setup host).2 := by
  obtain ⟨restored, releases⟩ := Terminal.claimed_release Event.isActive group modes host
  refine ⟨restored, ?_⟩
  unfold tearDown
  rw [claimed]
  exact releases.then_silent (Host.keeps_removeReaper setup.previous _)

/-- The end of a program that is no child restores the modes. -/
theorem claimed_conclude
    {setup : Setup}
    {group : Pid}
    {modes : Option Modes}
    (claimed : setup.session.terminal = .claimed group modes)
    {result : SessionResult}
    {after : Shell}
    (stays : Session.Stays result after) :
    ∃ restored,
      Adds Event.isActive (Terminal.restoring restored modes)
        after.host (conclude settings setup result after.host).2 := by
  obtain ⟨last, reports, ends⟩ :=
    conclude_undoes settings setup (Silent Event.isActive) stays
  obtain ⟨restored, undoes⟩ := claimed_tearDown claimed last
  rw [ends]
  exact ⟨restored, reports.after_silent undoes⟩

/-- A run on a terminal adds the events of a claim, a session and its end. -/
theorem claimed_runAsProgram
    (isTerminal : host.stdinIsTerminal = true)
    (asParent : ForkAnswer.child ∉ host.script.forks) :
    ∃ added,
      Owning settings input
          (¬ (runAsProgram settings input host).2.history.Written)
          (Terminal.claim.run host).2.group
          (Terminal.claim.run host).1 added ∧
        Adds Event.isActive added host (runAsProgram settings input host).2 := by
  obtain ⟨added, ready, failed | succeeded⟩ :=
    claimed_setUp settings input
      (¬ (runAsProgram settings input host).2.history.Written) isTerminal
  · obtain ⟨e, answer, owning⟩ := failed
    refine ⟨added, owning, ?_⟩
    rw [runAsProgram_unready (Prod.ext answer rfl)]
    exact ready.then_silent (keeps_reportFatal settings.name _ e _)
  · obtain ⟨setup, modes, answer, rfl, claimed, claim, claiming⟩ := succeeded
    have stillParent :
        ForkAnswer.child ∉
          (Shell.mk (setUp setup.session.settings host).2 {} none).host.script.forks :=
      ready.asParent asParent
    obtain ⟨rounds, run, adds⟩ :=
      Session.claimed_run claimed stillParent input
    cases plays :
        setup.session.run input
          { host := (setUp setup.session.settings host).2 } with
    | mk result after =>
        rw [plays] at run adds
        have stays := Session.stays_of_asParent plays stillParent
        obtain ⟨restored, concludes⟩ :=
          claimed_conclude setup.session.settings claimed stays
        rw [runAsProgram_played (Prod.ext answer rfl) plays]
        rw [claim, claimed]
        rw [claimed] at claiming
        have unwritten :
            ¬ after.host.history.Written →
              ¬ (conclude setup.session.settings setup result
                after.host).2.history.Written :=
          fun unwritten written => unwritten (written.of_prefix concludes.grows)
        exact
          ⟨_, .session modes added rounds restored claiming
            (Session.Rounds.imp unwritten run),
            (ready.trans adds).trans concludes⟩

end Claimed

/-- A run without a terminal makes no call about one, in a child neither. -/
theorem detached_runAsProgram
    (settings : Settings)
    (input : Session.Input)
    {host : Host}
    (noTerminal : host.stdinIsTerminal = false) :
    Silent Event.isTerminal host (runAsProgram settings input host).2 := by
  have claims :
      (Terminal.claim.run host).1 = .ok (.detached host.group) ∧
        Silent Event.isTerminal host (Terminal.claim.run host).2 :=
    Terminal.claim_detached noTerminal
  have sets :
      Silent Event.isTerminal host (setUp settings host).2 ∧
        ∀ setup, (setUp settings host).1 = .ok setup →
          setup.session.terminal = .detached host.group := by
    unfold setUp
    rw [run_bind]
    generalize Terminal.claim.run host = claim at claims ⊢
    obtain ⟨answer, claimed⟩ := claim
    obtain ⟨rfl, claims⟩ := claims
    dsimp only at claims ⊢
    rw [run_bind]
    have installs :
        Silent Event.isTerminal claimed (Host.installReaper.run claimed).2 :=
      Host.keeps_installReaper claimed
    generalize Host.installReaper.run claimed = install at installs ⊢
    obtain ⟨answer, installed⟩ := install
    have watched := claims.then_silent installs
    cases answer with
    | error e =>
        have released :=
          watched.then_silent (Terminal.detached_release host.group installed)
        exact ⟨released, fun setup same => by simp [run_bind, run_pure] at same⟩
    | ok previous =>
        refine ⟨watched, ?_⟩
        rintro setup ⟨⟩
        rfl
  obtain ⟨sets, detached⟩ := sets
  apply runAsProgram_keeps input sets
  · intro setup answered
    exact Session.detached_sustains (detached setup answered)
  · intro setup answered
    unfold tearDown
    rw [detached setup answered]
    exact
      Keeps.bind (Terminal.detached_release host.group)
        fun _ => Host.keeps_removeReaper setup.previous

/--
Whatever the input, the faults and the fates of children are: a run without a
terminal never makes a call about one. A run with a terminal claims it, hands it
to each foreground job by one attempt, takes it back by one attempt before the
next prompt, and leaves it alone otherwise; if none of these attempts fails, the
group of the shell owns the terminal at every prompt and at the end. That holds
as well of a run that ends because a line for the user cannot be written.
-/
theorem runAsProgram_owns
    (settings : Settings)
    (input : Session.Input)
    {host : Host}
    (asParent : ForkAnswer.child ∉ host.script.forks) :
    ∃ events,
      (runAsProgram settings input host).2.history = host.history ++ events ∧
        (host.stdinIsTerminal = false →
          ∀ event ∈ events, event.isTerminal = false) ∧
        (host.stdinIsTerminal = true →
          Owning settings input
              (¬ (runAsProgram settings input host).2.history.Written)
              (Terminal.claim.run host).2.group
              (Terminal.claim.run host).1 (events.filter Event.isActive) ∧
            match (Terminal.claim.run host).1 with
            | .error _ =>
                (∀ number text, .prompt number text ∉ events) ∧
                  History.ownerFrom none events = none
            | .ok _ =>
                (∀ event ∈ events, event.isDenial = false) →
                  Returns none (Terminal.claim.run host).2.group events) := by
  cases isTerminal : host.stdinIsTerminal with
  | false =>
      obtain ⟨events, history, silent⟩ :=
        (detached_runAsProgram settings input isTerminal).exists_events
      refine ⟨events, history, fun _ event member => ?_, nofun⟩
      simpa using List.filter_eq_nil_iff.mp silent event member
  | true =>
      obtain ⟨added, owning, adds⟩ :=
        claimed_runAsProgram settings input isTerminal asParent
      obtain ⟨events, history, rfl⟩ := adds.exists_events
      refine ⟨events, history, nofun, fun _ => ⟨owning, ?_⟩⟩
      generalize (Terminal.claim.run host).1 = claim at owning ⊢
      cases claim with
      | error e =>
          obtain ⟨noPrompt, noOwner⟩ := owning.unowned
          refine ⟨fun number text member => ?_, ?_⟩
          · exact
              noPrompt number text (List.mem_filter.mpr ⟨member, rfl⟩)
          · rwa [History.ownerFrom_filter] at noOwner
      | ok terminal =>
          intro noDenial
          apply Returns.of_filter
          exact
            owning.returns fun event member =>
              noDenial event (List.mem_filter.mp member).1

/-- A host with a terminal and one program, whose child stops. -/
def stopping : Host :=
  { stdinIsTerminal := true
    script :=
      { forks := [.parent 7]
        waits := fun _ => [.ok (.stopped .tstp)] }
    space := { tree := { entries := [([[112]], .file 0o755 [])] } } }

/-- A job that is handed the terminal and stops. -/
theorem runAsProgram_owns_stopping :
    ForkAnswer.child ∉ stopping.script.forks ∧
      ∃ events,
        (runAsProgram { logDirectory := [] } (.ok [47, 112, 10]) stopping).2.history =
            events ∧
          events.filterMap (Event.owner none) = [500, 7, 500] ∧
          Owning { logDirectory := [] } (.ok [47, 112, 10]) False 500
            (.ok (.claimed 500 (some {}))) (events.filter Event.isActive) ∧
          Returns none 500 events := by
  have asParent : ForkAnswer.child ∉ stopping.script.forks := by decide
  obtain ⟨events, history, _, owns⟩ :=
    runAsProgram_owns { logDirectory := [] } (.ok [47, 112, 10]) asParent
  have answer :
      (Terminal.claim.run stopping).1.toOption =
        some (.claimed 500 (some {})) := by
    decide +kernel
  have claim :
      (Terminal.claim.run stopping).1 = .ok (.claimed 500 (some {})) := by
    cases answered : (Terminal.claim.run stopping).1 with
    | error e =>
        simp [answered, Except.toOption] at answer
    | ok terminal =>
        rw [answered] at answer
        exact congrArg Except.ok (Option.some.inj answer)
  have group : (Terminal.claim.run stopping).2.group = 500 := by
    decide +kernel
  have written :
      (runAsProgram { logDirectory := [] } (.ok [47, 112, 10])
        stopping).2.history.Written := by
    decide +kernel
  rw [claim, group, eq_false (not_not_intro written)] at owns
  obtain ⟨owning, returns⟩ := owns rfl
  have start : stopping.history = [] := rfl
  rw [start, List.nil_append] at history
  have owners : events.filterMap (Event.owner none) = [500, 7, 500] := by
    rw [← history]
    decide +kernel
  have noDenial : ∀ event ∈ events, event.isDenial = false := by
    rw [← history]
    decide +kernel
  exact ⟨asParent, events, history, owners, owning, returns noDenial⟩

end Program
end JobShell

import JobShell.Proofs.Host.Trail
import JobShell.Proofs.Terminal.Keeps

namespace JobShell

/-!
# What the terminal's owner adds to a trail

A claimed terminal changes hands by attempts that either succeed or are logged:
one attempt for a job, one attempt for the shell, and after a successful one the
saved modes. A detached terminal adds nothing at all.
-/

namespace Terminal

/-- Going back to the saved modes, if there are any. -/
def restoring (restored : Option Errno) : Option Modes → History
  | none => []
  | some modes => [.call (.setModes modes) restored]

/--
Taking the terminal back for the shell's group: one attempt, and if it succeeds
the saved modes.
-/
def reclaiming
    (group : Pid)
    (modes : Option Modes)
    (taken restored : Option Errno) :
    History :=
  .call (.setOwner group) taken ::
    match taken with
    | none => restoring restored modes
    | some _ => []

section Detached

variable {keep : Event → Bool}

theorem detached_handOver (group pid : Pid) :
    Keeps (Host.Silent keep) ((detached group).handOver pid) :=
  fun host => Host.Adds.refl host

theorem detached_takeBack (group : Pid) :
    Keeps (Host.Silent keep) (detached group).takeBack :=
  fun host => Host.Adds.refl host

theorem detached_release (group : Pid) :
    Keeps (Host.Silent keep) (detached group).release :=
  fun host => Host.Adds.refl host

end Detached

/-- A choice of events that has the calls about the terminal, but no messages. -/
class Watching (keep : Event → Bool) : Prop
    extends Noting (Host.Silent keep) where
  terminal : ∀ event : Event, event.isTerminal = true → keep event = true

instance : Watching Event.isActive where
  note := Noting.note
  terminal event terminal := by
    unfold Event.isTerminal at terminal
    unfold Event.isActive
    split <;> simp_all

section Claimed

open Host (Adds Silent)

variable {keep : Event → Bool} [Watching keep]

/-- A call about the terminal is chosen, failed or not. -/
theorem filter_terminal
    {event : Event}
    (terminal : event.isTerminal = true) :
    [event].filter keep = [event] := by
  simp [Watching.terminal event terminal]

/-- A computation whose failure is only logged adds what it added. -/
theorem adds_logged
    {added : History}
    {action : HostE Unit}
    {host : Host}
    (adds : Adds keep added host (action.run host).2)
    (level : Level)
    (message : ShellError → String) :
    Adds keep added host
      ((do
        match ← action.run with
        | .ok () => return
        | .error e => Host.note level (message e) : HostM Unit) host).2 := by
  apply adds.then_silent
  rw [run_bind]
  cases (action.run host).1 with
  | ok answer =>
      exact Adds.refl _
  | error e =>
      exact Host.keeps_note _ _ _

variable (keep)

/-- Giving the terminal away adds the call, and fails as it does. -/
theorem adds_giving (pid : Pid) (host : Host) :
    ∃ fault,
      Adds keep [.call (.setOwner pid) fault]
          host ((Host.setOwner pid).run host).2 ∧
        ((Host.setOwner pid).run host).1 =
          match fault with
          | none => .ok ()
          | some errno => .error (.sys "tcsetpgrp" errno) := by
  obtain ⟨fault, adds, answered⟩ := Host.adds_setOwner keep pid host
  rw [filter_terminal rfl] at adds
  exact ⟨fault, adds, answered⟩

variable (group : Pid) (modes : Option Modes)

/-- Handing over is one attempt, whether it fails or not. -/
theorem claimed_handOver (pid : Pid) (host : Host) :
    ∃ handed,
      Adds keep [.call (.setOwner pid) handed]
        host ((claimed group modes).handOver pid host).2 := by
  have noted :
      Silent keep host
        (Host.note .debug s!"jobsh: terminal -> group {pid}" host).2 :=
    Host.keeps_note _ _ host
  obtain ⟨handed, attempted, _⟩ :=
    adds_giving keep pid
      (Host.note .debug s!"jobsh: terminal -> group {pid}" host).2
  exact ⟨handed, adds_logged (noted.after_silent attempted) _ _⟩

/-- The saved modes are set again by one attempt. -/
theorem claimed_restoreModes (host : Host) :
    ∃ restored,
      Adds keep (restoring restored modes)
        host ((claimed group modes).restoreModes.run host).2 := by
  cases modes with
  | none =>
      exact ⟨none, Adds.refl host⟩
  | some image =>
      obtain ⟨restored, adds⟩ := Host.adds_setModes keep image host
      rw [filter_terminal rfl] at adds
      exact ⟨restored, adds⟩

/-- Taking back is one attempt, with the saved modes after it if it succeeds. -/
theorem claimed_reclaim (host : Host) :
    ∃ taken restored,
      Adds keep (reclaiming group modes taken restored)
        host ((claimed group modes).reclaim.run host).2 := by
  have noted :
      Silent keep host
        (Host.note .debug
          s!"jobsh: terminal -> shell group {group}" host).2 :=
    Host.keeps_note _ _ host
  obtain ⟨taken, attempted, answered⟩ :=
    adds_giving keep group
      (Host.note .debug s!"jobsh: terminal -> shell group {group}" host).2
  have asked := noted.after_silent attempted
  have run :
      (claimed group modes).reclaim.run host =
        (do
          Host.setOwner group
          (claimed group modes).restoreModes : HostE Unit).run
          (Host.note .debug s!"jobsh: terminal -> shell group {group}" host).2 :=
    rfl
  rw [run]
  cases taken with
  | some errno =>
      rw [run_bind_error answered]
      exact ⟨some errno, none, asked⟩
  | none =>
      rw [run_bind_ok answered]
      obtain ⟨restored, restores⟩ :=
        claimed_restoreModes keep group modes _
      exact ⟨none, restored, asked.trans restores⟩

/-- Taking back from a job adds the same, whether it fails or not. -/
theorem claimed_takeBack (host : Host) :
    ∃ taken restored,
      Adds keep (reclaiming group modes taken restored)
        host ((claimed group modes).takeBack host).2 := by
  obtain ⟨taken, restored, adds⟩ :=
    claimed_reclaim keep group modes host
  exact ⟨taken, restored, adds_logged adds _ _⟩

/-- Releasing the terminal sets the saved modes. -/
theorem claimed_release (host : Host) :
    ∃ restored,
      Adds keep (restoring restored modes)
        host ((claimed group modes).release host).2 := by
  obtain ⟨restored, adds⟩ :=
    claimed_restoreModes keep group modes host
  exact ⟨restored, adds_logged adds _ _⟩

end Claimed

section Claim

open Host (Adds Silent)

/-- Between two states the terminal was only asked for. -/
def Asks (before after : Host) : Prop :=
  ∃ asked,
    (∀ event ∈ asked, isAsking event = true) ∧
      Adds Event.isActive asked before after

theorem asks_of_silent
    {before after : Host}
    (silent : Silent Event.isActive before after) :
    Asks before after :=
  ⟨[], by simp, silent⟩

instance : Asking Asks where
  refl host := asks_of_silent (Adds.refl host)
  trans := by
    rintro first second third
      ⟨earlier, allEarlier, before⟩ ⟨later, allLater, after⟩
    exact
      ⟨earlier ++ later, List.forall_mem_append.mpr ⟨allEarlier, allLater⟩,
        before.trans after⟩
  same history _ children _ :=
    asks_of_silent (Host.silent_of_same history (congrArg Prod.fst children))
  plain event plain host :=
    asks_of_silent
      (Host.silent_emit (Event.isActive_of_isPlain plain) host)
  ask event asking host := by
    refine ⟨_, ?_, Host.adds_emit Event.isActive event host⟩
    intro other member
    obtain rfl := List.mem_singleton.mp (List.mem_filter.mp member).1
    exact asking

/-- The modes that are saved are those that could be read. -/
def saved (image : Modes) : Option Errno → Option Modes
  | none => some image
  | some _ => none

/--
What claiming a terminal adds, by its outcome: the group of the shell is given
the terminal once it has been asked for, and then the modes are read.
-/
inductive Claiming
    (group : Pid) :
    Except ShellError Terminal → History → Prop
  /-- It is never the shell's turn. -/
  | waiting (e : ShellError) (asked : History) :
      (∀ event ∈ asked, isAsking event = true) →
      Claiming group (.error e) asked
  /-- The shell is not given the terminal. -/
  | denied (e : ShellError) (asked : History) (errno : Errno) :
      (∀ event ∈ asked, isAsking event = true) →
      Claiming group (.error e)
        (asked ++ [.call (.setOwner group) (some errno)])
  /-- The shell is given the terminal. -/
  | claimed (asked : History) (image : Modes) (fault : Option Errno) :
      (∀ event ∈ asked, isAsking event = true) →
      Claiming group (.ok (claimed group (saved image fault)))
        (asked ++
          [.call (.setOwner group) none, .call (.getModes image) fault])

/-- What claiming does once the shell leads a group. -/
def takeOver : HostE Terminal := do
  let group := (← getThe Host).group
  Host.setOwner group
  let modes ← saveModes
  Host.note .debug s!"jobsh: terminal claimed by group {group}"
  return claimed group modes

/-- The modes are read once, and a failure is only logged. -/
theorem adds_saveModes (host : Host) :
    ∃ fault,
      Adds Event.isActive [.call (.getModes host.modes) fault]
          host (saveModes host).2 ∧
        (saveModes host).1 = saved host.modes fault ∧
        (saveModes host).2.group = host.group := by
  obtain ⟨fault, adds, answered⟩ :=
    Host.adds_getModes Event.isActive host
  have group : (Host.getModes host).2.group = host.group := by
    rw [Host.getModes_host]
    rfl
  unfold saveModes
  rw [run_bind, answered]
  cases fault with
  | none =>
      exact ⟨none, adds, rfl, group⟩
  | some errno =>
      exact
        ⟨some errno, adds.then_silent (Host.keeps_note _ _ _), rfl, group⟩

/-- The shell is denied the terminal, or given it and reads the modes. -/
theorem takeOver_claiming (host : Host) :
    ∃ added,
      (∀ asked : History,
        (∀ event ∈ asked, isAsking event = true) →
        Claiming (takeOver.run host).2.group (takeOver.run host).1
          (asked ++ added)) ∧
        Adds Event.isActive added host (takeOver.run host).2 := by
  obtain ⟨fault, adds, answered⟩ :=
    Host.adds_setOwner Event.isActive host.group host
  have group : ((Host.setOwner host.group).run host).2.group = host.group := by
    unfold Host.setOwner
    rw [Host.demand_host]
    rfl
  have run :
      takeOver.run host =
        (do
          Host.setOwner host.group
          let modes ← saveModes
          Host.note .debug s!"jobsh: terminal claimed by group {host.group}"
          return claimed host.group modes : HostE Terminal).run host := by
    have read :
        (getThe Host : HostE Host).run host = (.ok host, host) := rfl
    unfold takeOver
    rw [run_bind_ok (congrArg Prod.fst read), read]
  rw [run]
  cases fault with
  | some errno =>
      rw [run_bind_error answered, group]
      exact ⟨_, fun asked asking => .denied _ asked errno asking, adds⟩
  | none =>
      rw [run_bind_ok answered]
      generalize ((Host.setOwner host.group).run host).2 = owning at adds group ⊢
      obtain ⟨fault, reads, modes, same⟩ := adds_saveModes owning
      have noted :=
        (adds.trans reads).then_silent
          (Host.keeps_note .debug
            s!"jobsh: terminal claimed by group {host.group}" _)
      have rest :
          (do
            let modes ← saveModes
            Host.note .debug s!"jobsh: terminal claimed by group {host.group}"
            return claimed host.group modes : HostE Terminal).run owning =
            (.ok (claimed host.group (saved owning.modes fault)),
              (Host.note .debug
                s!"jobsh: terminal claimed by group {host.group}"
                (saveModes owning).2).2) := by
        rw [← modes]
        rfl
      rw [rest]
      have kept :
          (Host.note .debug
            s!"jobsh: terminal claimed by group {host.group}"
            (saveModes owning).2).2.group = host.group :=
        same.trans group
      rw [kept]
      exact
        ⟨_, fun asked asking => .claimed asked owning.modes fault asking,
          noted⟩

/-- On a terminal the shell waits, ignores job control, leads a group, takes over. -/
theorem claim_run
    {host : Host}
    (isTerminal : host.stdinIsTerminal = true) :
    claim.run host =
      (do
        awaitForeground host.script.owners.length
        Host.ignoreJobControl
        leadGroup
        takeOver : HostE Terminal).run host := by
  have read :
      ((getThe Host : HostE Host).run host).1 = .ok host := rfl
  unfold claim
  rw [run_bind_ok read]
  simp only [isTerminal, Bool.not_true]
  rfl

/-- Claiming a terminal asks for it, and then the shell is given it or not. -/
theorem claim_claiming
    {host : Host}
    (isTerminal : host.stdinIsTerminal = true) :
    ∃ added,
      Claiming (claim.run host).2.group (claim.run host).1 added ∧
        Adds Event.isActive added host (claim.run host).2 := by
  let prepare : HostE Unit := do
    awaitForeground host.script.owners.length
    Host.ignoreJobControl
    leadGroup
  have prepares : Keeps Asks prepare.run := by
    refine Keeps.bindE (keeps_awaitForeground _) fun _ => ?_
    exact Keeps.bindE Host.keeps_ignoreJobControl fun _ => keeps_leadGroup
  obtain ⟨asked, asking, asks⟩ := prepares host
  have run : claim.run host = (prepare >>= fun _ => takeOver).run host := by
    rw [claim_run isTerminal]
    simp only [prepare, bind_assoc]
  rw [run]
  cases prepared : (prepare.run host).1 with
  | error e =>
      rw [run_bind_error prepared]
      exact ⟨asked, .waiting e asked asking, asks⟩
  | ok done =>
      rw [run_bind_ok prepared]
      obtain ⟨added, claiming, adds⟩ := takeOver_claiming (prepare.run host).2
      exact ⟨asked ++ added, claiming asked asking, asks.trans adds⟩

/-- Without a terminal there is nothing to claim. -/
theorem claim_detached
    {keep : Event → Bool}
    [Overlooks keep]
    {host : Host}
    (noTerminal : host.stdinIsTerminal = false) :
    (claim.run host).1 = .ok (detached host.group) ∧
      Silent keep host (claim.run host).2 := by
  have run :
      claim.run host =
        (.ok (detached host.group),
          (Host.note .debug
            "jobsh: stdin is not a terminal, job control disabled" host).2) := by
    have read :
        ((getThe Host : HostE Host).run host).1 = .ok host := rfl
    unfold claim
    rw [run_bind_ok read]
    simp only [noTerminal, Bool.not_false]
    rfl
  rw [run]
  exact ⟨rfl, Host.keeps_note _ _ host⟩

end Claim

end Terminal
end JobShell

import JobShell.Proofs.Host.Keeps

namespace JobShell

/-!
# What computations add to the history

A computation on the host only ever adds to the history, and most of what it
adds is idle. A trail keeps the events that a statement is about and overlooks
the idle ones, so that each computation can be described by the few events that
it adds to a trail.
-/

namespace Event

/--
The event is a prompt or a line, a fork, waiting for a child, or a call about
the terminal.
-/
def isActive : Event → Bool
  | .call (.fork _) _ => true
  | .call (.wait _ _) _ => true
  | .call (.getOwner _) _ => true
  | .call (.setOwner _) _ => true
  | .call (.getModes _) _ => true
  | .call (.setModes _) _ => true
  | .call (.killGroup _ _) _ => true
  | .prompt _ _ => true
  | .unprompted _ _ => true
  | .line _ _ => true
  | _ => false

theorem isActive_of_isPlain
    {event : Event}
    (plain : event.isPlain = true) :
    event.isActive = false := by
  unfold isPlain at plain
  unfold isActive
  split <;> simp_all

theorem isActive_of_isMasking
    {event : Event}
    (masking : event.isMasking = true) :
    event.isActive = false := by
  unfold isMasking at masking
  split at masking <;> first | rfl | contradiction

end Event

/-- A choice of events that are all active. -/
class Overlooks (keep : Event → Bool) : Prop where
  idle : ∀ event : Event, event.isActive = false → keep event = false

instance : Overlooks Event.isActive where
  idle _ idle := idle

instance : Overlooks Event.isTerminal where
  idle event idle := by
    unfold Event.isActive at idle
    unfold Event.isTerminal
    split <;> simp_all

namespace Host

/--
What happened between two states of the host: the history grew, forks were
answered from the front of the script, and the chosen events among the new ones
are `added`.
-/
structure Adds
    (keep : Event → Bool)
    (added : History)
    (before after : Host) :
    Prop where
  grows : before.history <+: after.history
  forks : after.script.forks <:+ before.script.forks
  trail :
    after.history.filter keep = before.history.filter keep ++ added

/-- Nothing that is chosen happened between two states. -/
abbrev Silent (keep : Event → Bool) : Host → Host → Prop :=
  Adds keep []

namespace Adds

variable {keep : Event → Bool} {first second third : Host}

theorem refl (host : Host) : Silent keep host host where
  grows := List.prefix_rfl
  forks := List.suffix_rfl
  trail := by simp

/-- The events of two stretches, one after the other. -/
theorem trans
    {earlier later : History}
    (before : Adds keep earlier first second)
    (after : Adds keep later second third) :
    Adds keep (earlier ++ later) first third where
  grows := before.grows.trans after.grows
  forks := after.forks.trans before.forks
  trail := by
    rw [after.trail, before.trail, List.append_assoc]

/-- A silent stretch before another. -/
theorem after_silent
    {later : History}
    (before : Silent keep first second)
    (after : Adds keep later second third) :
    Adds keep later first third :=
  before.trans after

/-- A silent stretch after another. -/
theorem then_silent
    {earlier : History}
    (before : Adds keep earlier first second)
    (after : Silent keep second third) :
    Adds keep earlier first third := by
  simpa using before.trans after

/-- The events that were added, the idle ones included. -/
theorem exists_events
    {added : History}
    (adds : Adds keep added first second) :
    ∃ events,
      second.history = first.history ++ events ∧
        events.filter keep = added := by
  obtain ⟨events, grown⟩ := adds.grows
  refine ⟨events, grown.symm, ?_⟩
  have same := adds.trail
  rw [← grown, List.filter_append] at same
  exact List.append_cancel_left same

/-- The script still never makes the shell the child. -/
theorem asParent
    {added : History}
    (adds : Adds keep added first second)
    (asParent : ForkAnswer.child ∉ first.script.forks) :
    ForkAnswer.child ∉ second.script.forks :=
  fun member => asParent (adds.forks.subset member)

end Adds

instance (keep : Event → Bool) : Frame (Silent keep) where
  refl := Adds.refl
  trans before after := before.then_silent after

section Events

variable {keep : Event → Bool}

/-- A change of the host that leaves the history and the forks alone. -/
theorem silent_of_same
    {before after : Host}
    (history : after.history = before.history)
    (forks : after.script.forks = before.script.forks) :
    Silent keep before after where
  grows := by simp [history]
  forks := by simp [forks]
  trail := by simp [history]

variable (keep)

/-- One event is added; it is chosen or not. -/
theorem adds_emit (event : Event) (host : Host) :
    Adds keep ([event].filter keep) host (emit event host).2 where
  grows := List.prefix_append _ _
  forks := List.suffix_rfl
  trail := List.filter_append _ _

/-- A call adds itself, with its error. -/
theorem adds_attempt
    (syscall : Syscall)
    (call : Call)
    (host : Host) :
    Adds keep
      ([Event.call call (attempt syscall call host).1].filter keep)
      host (attempt syscall call host).2 where
  grows := List.prefix_append _ _
  forks := by
    change (host.script.dropFault syscall).forks <:+ host.script.forks
    unfold Script.dropFault
    split <;> exact List.suffix_rfl
  trail := List.filter_append _ _

omit keep in
/-- A call that must succeed is the attempt, and fails with its error. -/
theorem demand_run
    (context : String)
    (syscall : Syscall)
    (call : Call)
    (host : Host) :
    (demand context syscall call).run host =
      (match (attempt syscall call host).1 with
        | none => .ok ()
        | some errno => .error (.sys context errno),
        (attempt syscall call host).2) := by
  have lifted :
      (liftM (attempt syscall call) : HostE (Option Errno)).run host =
        (.ok (attempt syscall call host).1, (attempt syscall call host).2) :=
    rfl
  unfold demand
  rw [run_bind_ok (congrArg Prod.fst lifted), lifted]
  cases (attempt syscall call host).1 <;> rfl

omit keep in
/-- A call that must succeed leaves the host as the attempt does. -/
theorem demand_host
    (context : String)
    (syscall : Syscall)
    (call : Call)
    (host : Host) :
    ((demand context syscall call).run host).2 =
      (attempt syscall call host).2 := by
  rw [demand_run]

/-- A call that must succeed adds itself, with the error that it fails with. -/
theorem adds_demand
    (context : String)
    (syscall : Syscall)
    (call : Call)
    (host : Host) :
    ∃ fault,
      Adds keep ([Event.call call fault].filter keep)
          host ((demand context syscall call).run host).2 ∧
        ((demand context syscall call).run host).1 =
          match fault with
          | none => .ok ()
          | some errno => .error (.sys context errno) := by
  rw [demand_run]
  exact
    ⟨(attempt syscall call host).1, adds_attempt keep syscall call host, rfl⟩

end Events

section Unchosen

variable {keep : Event → Bool}

/-- The history grew by events that are not chosen. -/
theorem silent_of_unchosen
    {before after : Host}
    {events : History}
    (history : after.history = before.history ++ events)
    (unchosen : ∀ event ∈ events, keep event = false)
    (forks : after.script.forks = before.script.forks) :
    Silent keep before after where
  grows := by simp [history]
  forks := by simp [forks]
  trail := by
    have dropped : events.filter keep = [] := by
      rw [List.filter_eq_nil_iff]
      intro event member
      simp [unchosen event member]
    rw [history, List.filter_append, dropped]

theorem silent_emit_of_unchosen
    {event : Event}
    (unchosen : keep event = false) :
    Ignores (Silent keep) event :=
  fun _ => silent_of_unchosen rfl (by simpa using unchosen) rfl

/-- A run of the reaper adds the answers that it received. -/
theorem silent_reap
    (unchosen : ∀ answer, keep (.call (.waitAny answer) none) = false) :
    Keeps (Silent keep) reap := by
  intro host
  refine silent_of_unchosen rfl ?_ rfl
  intro event member
  obtain ⟨answer, _, rfl⟩ := List.mem_map.mp member
  exact unchosen answer

/-- Asking for a slot adds that it was asked for, and perhaps a message. -/
theorem silent_track
    [Noting (Silent keep)]
    {pid : Pid}
    (unchosen : ∀ granted, keep (.tracked pid granted) = false) :
    Keeps (Silent keep) (track pid) := by
  intro host
  change
    Silent keep host
      ((do
        emit (.tracked pid (host.slots.track pid).1)
        if !(host.slots.track pid).1 then
          note .warn s!"jobsh: job table full, {pid} will not be reported"
        return (host.slots.track pid).1 : HostM Bool)
        { host with slots := (host.slots.track pid).2 }).2
  have tracked :
      Silent keep host { host with slots := (host.slots.track pid).2 } :=
    silent_of_same rfl rfl
  apply tracked.then_silent
  refine
    Keeps.bind (silent_emit_of_unchosen (unchosen _)) (fun _ => ?_) _
  split
  · exact Keeps.bind (keeps_note _ _) (fun _ => Keeps.pure _)
  · exact Keeps.bind (Keeps.pure _) (fun _ => Keeps.pure _)

end Unchosen

section Silence

variable {keep : Event → Bool} [Overlooks keep]

/-- The history grew by idle events. -/
theorem silent_of_idle
    {before after : Host}
    {events : History}
    (history : after.history = before.history ++ events)
    (idle : ∀ event ∈ events, event.isActive = false)
    (forks : after.script.forks = before.script.forks) :
    Silent keep before after :=
  silent_of_unchosen history
    (fun event member => Overlooks.idle event (idle event member)) forks

theorem silent_emit
    {event : Event}
    (idle : event.isActive = false) :
    Ignores (Silent keep) event :=
  silent_emit_of_unchosen (Overlooks.idle event idle)

instance : Reapable (Silent keep) where
  same history _ children _ :=
    silent_of_same history (congrArg Prod.fst children)
  plain _ plain := silent_emit (Event.isActive_of_isPlain plain)
  mask _ _ := silent_of_same rfl rfl
  masking _ masking := silent_emit (Event.isActive_of_isMasking masking)
  reap := silent_reap fun _ => Overlooks.idle _ rfl

theorem keeps_track (pid : Pid) : Keeps (Silent keep) (track pid) :=
  silent_track fun _ => Overlooks.idle _ rfl

theorem keeps_drain : Keeps (Silent keep) drain := by
  intro host
  have drained :
      (drain host).2.history =
        host.history ++ [.drained host.slots.drain.1] :=
    rfl
  exact silent_of_idle drained (by simp [Event.isActive]) rfl

end Silence

section Active

variable (keep : Event → Bool)

/-- Reading the modes answers with them, or with the error of the call. -/
theorem adds_getModes (host : Host) :
    ∃ fault,
      Adds keep ([Event.call (.getModes host.modes) fault].filter keep)
          host (getModes host).2 ∧
        (getModes host).1 =
          match fault with
          | none => .ok host.modes
          | some errno => .error errno := by
  have adds :=
    adds_attempt keep .tcgetattr (.getModes host.modes) host
  refine ⟨(attempt .tcgetattr (.getModes host.modes) host).1, ?_⟩
  simp only [getModes, run_bind, run_get]
  cases answered :
      (attempt .tcgetattr (.getModes host.modes) host).1 with
  | none =>
      rw [answered] at adds
      exact ⟨adds, rfl⟩
  | some errno =>
      rw [answered] at adds
      exact ⟨adds, rfl⟩

omit keep in
/-- Reading the modes leaves the host as the attempt does. -/
theorem getModes_host (host : Host) :
    (getModes host).2 =
      (attempt .tcgetattr (.getModes host.modes) host).2 := by
  simp only [getModes, run_bind, run_get]
  cases (attempt .tcgetattr (.getModes host.modes) host).1 <;> rfl

/-- Giving the terminal away succeeds unless the call fails. -/
theorem adds_setOwner (group : Pid) (host : Host) :
    ∃ fault,
      Adds keep ([Event.call (.setOwner group) fault].filter keep)
          host ((setOwner group).run host).2 ∧
        ((setOwner group).run host).1 =
          match fault with
          | none => .ok ()
          | some errno => .error (.sys "tcsetpgrp" errno) :=
  adds_demand keep _ _ _ _

/-- Setting the modes is one call. -/
theorem adds_setModes (modes : Modes) (host : Host) :
    ∃ fault,
      Adds keep ([Event.call (.setModes modes) fault].filter keep)
        host ((setModes modes).run host).2 := by
  obtain ⟨fault, adds, _⟩ :=
    adds_demand keep "tcsetattr" .tcsetattr (.setModes modes) host
  refine ⟨fault, adds.then_silent ?_⟩
  unfold setModes
  cases answered :
      ((demand "tcsetattr" .tcsetattr (.setModes modes)).run host).1 with
  | error e =>
      rw [run_bind_error answered]
      exact Adds.refl _
  | ok answer =>
      rw [run_bind_ok answered]
      exact silent_of_same rfl rfl

theorem adds_fork (host : Host) :
    Adds keep ([Event.call (.fork (fork host).1) none].filter keep)
      host (fork host).2 := by
  obtain ⟨answer, history, forks, _⟩ := fork_eq host
  rw [answer]
  constructor
  · simp [history]
  · rw [forks]
    exact List.tail_suffix _
  · simp [history]

/-- A script without the child's answer makes the shell the parent. -/
theorem fork_ne_child
    {host : Host}
    (asParent : ForkAnswer.child ∉ host.script.forks) :
    (fork host).1 ≠ .child := by
  rw [(fork_eq host).1]
  cases answers : host.script.forks with
  | nil =>
      simp
  | cons answer rest =>
      intro same
      apply asParent
      simp [answers, ← same]

theorem adds_wait (pid : Pid) (host : Host) :
    Adds keep
      (((wait pid host).1.answers.map fun answer =>
        Event.call (.wait pid answer) none).filter keep)
      host (wait pid host).2 := by
  obtain ⟨history, forks, _⟩ := wait_eq pid host
  constructor
  · simp [history]
  · simp [forks]
  · simp [history]

end Active
end Host

/-- A wait ends with an answer. -/
theorem Settled.answers_ne_nil (answers : List WaitAnswer) :
    (Settled.ofAnswers answers).answers ≠ [] := by
  induction answers with
  | nil =>
      simp [ofAnswers]
  | cons answer rest inductionHypothesis =>
      rcases answer with errno | report
      · simp only [ofAnswers]
        split <;> simp [after]
      · simp only [ofAnswers]
        split <;> simp [after]

end JobShell

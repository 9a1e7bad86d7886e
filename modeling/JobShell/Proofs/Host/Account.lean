import JobShell.Proofs.Host.Keeps
import JobShell.Proofs.Job.Standing

namespace JobShell

/-!
# What the host does to standings

A quiet stretch of the host concerns no process. A stretch in which only the
reaper runs changes standings by the changes it collects, and leaves the slots
as it should: whatever phase the shell is in, as long as the reaper may run.
-/

open Standing (Run)

namespace Event

theorem concerns_of_isPlain
    {event : Event}
    (plain : event.isPlain = true)
    (pid : Pid) :
    event.concerns pid = false := by
  cases event with
  | call call fault =>
      cases call with
      | fork answer =>
          contradiction
      | wait child answer =>
          contradiction
      | waitAny event =>
          contradiction
      | _ =>
          rfl
  | tracked child granted =>
      contradiction
  | drained events =>
      contradiction
  | collected jobs =>
      contradiction
  | _ =>
      rfl

theorem concerns_of_isMasking
    {event : Event}
    (masking : event.isMasking = true)
    (pid : Pid) :
    event.concerns pid = false := by
  unfold isMasking at masking
  split at masking <;> first | rfl | contradiction

theorem concerns_of_isTerminal
    {event : Event}
    (terminal : event.isTerminal = true)
    (pid : Pid) :
    event.concerns pid = false := by
  unfold isTerminal at terminal
  split at terminal <;> first | rfl | contradiction

end Event

namespace Host

/-- The history grew by events that concern no process; the slots are the same. -/
structure Quiet (before after : Host) : Prop where
  grows :
    ∃ added,
      after.history = before.history ++ added ∧
        ∀ event ∈ added, ∀ pid, event.concerns pid = false
  slots : after.slots = before.slots

/-- Only the reaper changed slots, and the history tells how. -/
structure Reaping (before after : Host) : Prop where
  wellFormed : before.slots.WellFormed → after.slots.WellFormed
  holds :
    ∀ pid,
      (after.slots.watch pid).isSome = (before.slots.watch pid).isSome
  grows :
    ∃ added,
      after.history = before.history ++ added ∧
        ∀ (unique : Prop) (pid : Pid) (phase : Phase) (inTable : Bool),
          phase.isOpen = true →
          Run unique pid ⟨phase, inTable, before.slots.watch pid⟩ added
            ⟨phase, inTable, after.slots.watch pid⟩

theorem quiet_emit
    {event : Event}
    (apart : ∀ pid, event.concerns pid = false) :
    Ignores Quiet event := by
  intro host
  refine ⟨⟨[event], rfl, ?_⟩, rfl⟩
  intro other member pid
  obtain rfl := List.mem_singleton.mp member
  exact apart pid

instance : Unowned Quiet where
  refl host := ⟨⟨[], by simp, by simp⟩, rfl⟩
  trans := by
    intro first second third before after
    obtain ⟨earlier, grown, apart⟩ := before.grows
    obtain ⟨later, grownLater, apartLater⟩ := after.grows
    refine ⟨⟨earlier ++ later, ?_, ?_⟩, after.slots.trans before.slots⟩
    · rw [grownLater, grown, List.append_assoc]
    · intro event member
      rcases List.mem_append.mp member with isEarlier | isLater
      · exact apart event isEarlier
      · exact apartLater event isLater
  same history slots _ _ := ⟨⟨[], by simp [history], by simp⟩, slots⟩
  plain _ plain := quiet_emit (Event.concerns_of_isPlain plain)
  terminal _ terminal := quiet_emit (Event.concerns_of_isTerminal terminal)

/-- A quiet stretch is one in which the reaper does nothing. -/
theorem Quiet.reaping
    {before after : Host}
    (quiet : Quiet before after) :
    Reaping before after := by
  obtain ⟨added, grown, apart⟩ := quiet.grows
  constructor
  · rw [quiet.slots]
    exact id
  · simp [quiet.slots]
  · refine ⟨added, grown, fun unique pid phase inTable _ => ?_⟩
    rw [quiet.slots]
    exact Run.others (fun event member => apart event member pid) _

/-- An answer that tells no change of a process does not concern it. -/
theorem concerns_waitAny
    {event : Option ChildEvent}
    {pid : Pid}
    (silent : (Event.call (.waitAny event) none).change? pid = none) :
    (Event.call (.waitAny event) none).concerns pid = false := by
  unfold Event.concerns
  rw [silent]
  rfl

/-- The reaper collects a report, and marks the slot of its process. -/
theorem step_recordReport
    {unique : Prop}
    {pid : Pid}
    {phase : Phase}
    {inTable : Bool}
    (isOpen : phase.isOpen = true)
    (slots : SlotTable)
    (child : Pid)
    (report : Report) :
    Standing.Step unique pid ⟨phase, inTable, slots.watch pid⟩
      (.call (.waitAny (some ⟨child, .ok report⟩)) none)
      ⟨phase, inTable, (slots.recordReport child report).watch pid⟩ := by
  rw [SlotTable.watch_recordReport]
  cases told : report.change? with
  | none =>
      apply Standing.Step.other
      apply concerns_waitAny
      simp [Event.change?, told]
  | some status =>
      by_cases same : pid = child
      · subst same
        simp only [if_true]
        exact .changed _ _ _ _ status isOpen (by simp [Event.change?, told])
      · simp only [same, if_false]
        apply Standing.Step.other
        apply concerns_waitAny
        simp [Event.change?, Ne.symm same]

/-- The answers of one run of the reaper, from any table of slots. -/
theorem reaping_ofPending (slots : SlotTable) (pending : List ChildEvent) :
    (slots.WellFormed →
        (Reaped.ofPending slots pending).slots.WellFormed) ∧
      (∀ pid,
        ((Reaped.ofPending slots pending).slots.watch pid).isSome =
          (slots.watch pid).isSome) ∧
      ∀ (unique : Prop) (pid : Pid) (phase : Phase) (inTable : Bool),
        phase.isOpen = true →
        Run unique pid ⟨phase, inTable, slots.watch pid⟩
          ((Reaped.ofPending slots pending).answers.map fun event =>
            .call (.waitAny event) none)
          ⟨phase, inTable,
            (Reaped.ofPending slots pending).slots.watch pid⟩ := by
  induction pending generalizing slots with
  | nil =>
      refine ⟨id, fun _ => rfl, fun unique pid phase inTable _ => ?_⟩
      exact .single (.other _ _ rfl)
  | cons event rest inductionHypothesis =>
      obtain ⟨child, answer⟩ := event
      have skips
          (unique : Prop)
          (pid : Pid)
          (standing : Standing)
          (silent :
            (Event.call (.waitAny (some ⟨child, answer⟩)) none).change? pid =
              none) :
          Standing.Step unique pid standing
            (.call (.waitAny (some ⟨child, answer⟩)) none) standing :=
        .other _ _ (concerns_waitAny silent)
      cases answer with
      | error errno =>
          obtain ⟨wellFormed, holds, runs⟩ := inductionHypothesis slots
          cases errno with
          | eintr =>
              refine ⟨wellFormed, holds, ?_⟩
              intro unique pid phase inTable isOpen
              exact
                .cons (skips unique pid _ rfl)
                  (runs unique pid phase inTable isOpen)
          | _ =>
              refine ⟨id, fun _ => rfl, ?_⟩
              intro unique pid phase inTable isOpen
              exact .single (skips unique pid _ rfl)
      | ok report =>
          by_cases alive : report = .alive
          · subst alive
            refine ⟨id, fun _ => rfl, ?_⟩
            intro unique pid phase inTable isOpen
            exact .single (skips unique pid _ (by simp [Event.change?, Report.change?]))
          · have recorded :
                Reaped.ofPending slots (⟨child, .ok report⟩ :: rest) =
                  (Reaped.ofPending (slots.recordReport child report) rest).after
                    ⟨child, .ok report⟩ 1 := by
              cases report <;> first | rfl | contradiction
            obtain ⟨wellFormed, holds, runs⟩ :=
              inductionHypothesis (slots.recordReport child report)
            rw [recorded]
            refine ⟨fun before => ?_, fun pid => ?_, ?_⟩
            · exact
                wellFormed
                  (SlotTable.recordReport_wellFormed before child report)
            · exact
                (holds pid).trans
                  (SlotTable.isSome_watch_recordReport slots child report pid)
            · intro unique pid phase inTable isOpen
              exact
                .cons (step_recordReport isOpen slots child report)
                  (runs unique pid phase inTable isOpen)

instance : Reapable Reaping where
  refl host := (Frame.refl host : Quiet host host).reaping
  trans := by
    intro first second third before after
    obtain ⟨earlier, grown, runs⟩ := before.grows
    obtain ⟨later, grownLater, runsLater⟩ := after.grows
    refine
      ⟨fun wellFormed => after.wellFormed (before.wellFormed wellFormed),
        fun pid => (after.holds pid).trans (before.holds pid),
        earlier ++ later, ?_, fun unique pid phase inTable isOpen => ?_⟩
    · rw [grownLater, grown, List.append_assoc]
    · exact
        (runs unique pid phase inTable isOpen).append
          (runsLater unique pid phase inTable isOpen)
  same history slots children mask :=
    (Indifferent.same history slots children mask : Quiet _ _).reaping
  plain event plain := by
    intro host
    have quiet : Quiet host (emit event host).2 :=
      Indifferent.plain event plain host
    exact quiet.reaping
  mask host blocked := by
    have quiet : Quiet host { host with blocked := blocked } :=
      ⟨⟨[], by simp, by simp⟩, rfl⟩
    exact quiet.reaping
  masking event masking host :=
    (quiet_emit (Event.concerns_of_isMasking masking) host).reaping
  reap := by
    intro host
    obtain ⟨wellFormed, holds, runs⟩ :=
      reaping_ofPending host.slots host.pending
    exact ⟨wellFormed, holds, _, rfl, runs⟩

/-- The answer to asking for a slot, and the messages after it. -/
theorem track_account (pid : Pid) (host : Host) :
    (track pid host).1 = (host.slots.track pid).1 ∧
      (track pid host).2.slots = (host.slots.track pid).2 ∧
      ∃ messages,
        (track pid host).2.history =
            host.history ++
              .tracked pid (host.slots.track pid).1 :: messages ∧
          ∀ event ∈ messages, ∀ other, event.concerns other = false := by
  cases answered : (host.slots.track pid).1 with
  | true =>
      simp only [track, run_bind, run_get, run_set, answered]
      exact ⟨rfl, rfl, [], rfl, by simp⟩
  | false =>
      simp only [track, run_bind, run_get, run_set, answered]
      refine
        ⟨rfl, rfl,
          [.note .warn s!"jobsh: job table full, {pid} will not be reported"],
          ?_, ?_⟩
      · exact List.append_assoc _ _ _
      · intro event member other
        obtain rfl := List.mem_singleton.mp member
        rfl

end Host
end JobShell

import JobShell.Proofs.Reaper.Grouping
import JobShell.Proofs.Reaper.Register

namespace JobShell

/-!
# Slots replayed from a history

What the slots hold follows from the history: the reaper writes down what it is
told, a child is entered that asks for a slot, a draining empties them all. A
slot keeps its number when it is freed and when it is claimed again, but a mark
of a death or a stop is only ever written together with the number of a signal.
So along a replay every such mark can be read, whatever the slot was used for
before.
-/

/-- A mark of a death or a stop comes with the number of a signal. -/
def Slot.Legible (slot : Slot) : Prop :=
  slot.mark = .signaled ∨ slot.mark = .stopped →
  ∃ signal, Signal.ofNumber? slot.detail = some signal

theorem Slot.legible_of_unmarked
    {slot : Slot}
    (unmarked : slot.mark = .none) :
    slot.Legible := by
  rintro (dead | stopped)
  · rw [unmarked] at dead
    contradiction
  · rw [unmarked] at stopped
    contradiction

/-- What the reaper writes can be read. -/
theorem ChildEvent.legible_marking
    {event : ChildEvent}
    {marking : Marking}
    (written : event.marking? = some marking) :
    Slot.Legible ⟨marking.pid, marking.mark, marking.detail⟩ := by
  obtain ⟨pid, answer⟩ := event
  cases answer with
  | error errno =>
      contradiction
  | ok report =>
      cases report with
      | exited code =>
          cases written
          rintro (dead | stopped) <;> contradiction
      | signaled signal core =>
          cases written
          exact fun _ => ⟨signal, signal.ofNumber?_number⟩
      | stopped signal =>
          cases written
          exact fun _ => ⟨signal, signal.ofNumber?_number⟩
      | _ =>
          contradiction

/-- The event is an answer to the reaper, or work of the shell on its slots. -/
def Event.touchesSlots : Event → Bool
  | .call (.waitAny _) _ => true
  | .tracked _ _ => true
  | .drained _ => true
  | _ => false

namespace SlotTable

/-- The slots after an event. -/
def after (table : SlotTable) : Event → SlotTable
  | .call (.waitAny (some event)) _ => table.markAll event.marking?.toList
  | .tracked pid _ => (table.track pid).2
  | .drained _ => table.drain.2
  | _ => table

/-- The event says what the slots answer. -/
def Fits (table : SlotTable) : Event → Prop
  | .tracked pid granted => granted = (table.track pid).1
  | .drained events => events = table.drain.1
  | _ => True

/-- The slots after the events of a history. -/
def replay (table : SlotTable) (history : History) : SlotTable :=
  history.foldl after table

/-- Each event says what the slots answer by then. -/
def FitsAll (table : SlotTable) : History → Prop
  | [] => True
  | event :: rest => table.Fits event ∧ (table.after event).FitsAll rest

@[simp] theorem replay_nil (table : SlotTable) : table.replay [] = table :=
  rfl

@[simp] theorem replay_cons
    (table : SlotTable)
    (event : Event)
    (rest : History) :
    table.replay (event :: rest) = (table.after event).replay rest :=
  rfl

@[simp] theorem replay_append
    (table : SlotTable)
    (earlier later : History) :
    table.replay (earlier ++ later) = (table.replay earlier).replay later :=
  List.foldl_append

theorem fitsAll_append
    (table : SlotTable)
    (earlier later : History) :
    table.FitsAll (earlier ++ later) ↔
      table.FitsAll earlier ∧ (table.replay earlier).FitsAll later := by
  induction earlier generalizing table with
  | nil =>
      simp [FitsAll]
  | cons event rest inductionHypothesis =>
      simp only [List.cons_append, FitsAll, inductionHypothesis, replay_cons,
        and_assoc]

theorem after_of_not_touches
    {event : Event}
    (apart : event.touchesSlots = false)
    (table : SlotTable) :
    table.after event = table ∧ table.Fits event := by
  cases event with
  | call call fault =>
      cases call with
      | waitAny event =>
          contradiction
      | _ =>
          exact ⟨rfl, trivial⟩
  | tracked pid granted =>
      contradiction
  | drained events =>
      contradiction
  | _ =>
      exact ⟨rfl, trivial⟩

/-- Events that leave the slots alone change nothing. -/
theorem replay_of_not_touches
    {history : History}
    (apart : ∀ event ∈ history, event.touchesSlots = false)
    (table : SlotTable) :
    table.replay history = table ∧ table.FitsAll history := by
  induction history with
  | nil =>
      exact ⟨rfl, trivial⟩
  | cons event rest inductionHypothesis =>
      rw [List.forall_mem_cons] at apart
      obtain ⟨same, fits⟩ := after_of_not_touches apart.1 table
      rw [replay_cons, FitsAll, same]
      exact
        ⟨(inductionHypothesis apart.2).1, fits, (inductionHypothesis apart.2).2⟩

/-- Answers to the reaper are replayed by writing what they tell. -/
theorem replay_answers
    (answers : List (Option ChildEvent))
    (table : SlotTable) :
    table.replay (answers.map fun answer => .call (.waitAny answer) none) =
        table.markAll
          (answers.filterMap fun answer => answer.bind ChildEvent.marking?) ∧
      table.FitsAll (answers.map fun answer => .call (.waitAny answer) none) := by
  induction answers generalizing table with
  | nil =>
      exact ⟨rfl, trivial⟩
  | cons answer rest inductionHypothesis =>
      cases answer with
      | none =>
          obtain ⟨replayed, fits⟩ := inductionHypothesis table
          exact ⟨replayed, trivial, fits⟩
      | some event =>
          obtain ⟨replayed, fits⟩ :=
            inductionHypothesis (table.markAll event.marking?.toList)
          refine ⟨?_, trivial, fits⟩
          rw [List.map_cons, replay_cons, after, replayed]
          cases marked : event.marking? <;> simp [marked]

/-- Every mark of a death or a stop can be read. -/
def Legible (table : SlotTable) : Prop :=
  ∀ slot ∈ table.slots, slot.Legible

theorem legible_empty : Legible empty := by
  intro slot member
  obtain rfl := List.eq_of_mem_replicate member
  exact Slot.legible_of_unmarked rfl

theorem legible_record
    {table : SlotTable}
    (legible : table.Legible)
    {pid : Pid}
    {mark : Mark}
    {detail : Int}
    (written : Slot.Legible ⟨pid, mark, detail⟩) :
    (table.record pid mark detail).Legible := by
  by_cases held : ∃ slot ∈ table.slots, slot.pid = pid
  · obtain ⟨before, slot, later, split, -, marked⟩ :=
      markFirst_split held mark detail
    unfold Legible at legible ⊢
    rw [split] at legible
    rw [record, marked]
    simp only [List.forall_mem_append, List.forall_mem_cons] at legible ⊢
    exact ⟨legible.1, written, legible.2.2⟩
  · have unheld : ∀ slot ∈ table.slots, slot.pid ≠ pid :=
      fun slot member same => held ⟨slot, member, same⟩
    rwa [record, markFirst_of_unheld unheld]

theorem legible_track
    {table : SlotTable}
    (legible : table.Legible)
    (pid : Pid) :
    (table.track pid).2.Legible := by
  unfold track
  split
  · exact legible
  · split
    · rename_i claimed claims
      obtain ⟨before, slot, later, split, -, rfl⟩ := claim?_split claims
      unfold Legible at legible ⊢
      rw [split] at legible
      simp only [List.forall_mem_append, List.forall_mem_cons] at legible ⊢
      exact ⟨legible.1, Slot.legible_of_unmarked rfl, legible.2.2⟩
    · exact legible

theorem legible_drain
    {table : SlotTable}
    (legible : table.Legible) :
    table.drain.2.Legible := by
  intro drained member
  obtain ⟨slot, old, rfl⟩ := List.mem_map.mp member
  by_cases free : slot.pid = 0
  · rw [drain_free free]
    exact legible slot old
  · rw [drain_taken free]
    exact Slot.legible_of_unmarked rfl

theorem legible_after
    {table : SlotTable}
    (legible : table.Legible)
    (event : Event) :
    (table.after event).Legible := by
  unfold after
  split
  · rename_i told _
    cases written : told.marking? with
    | none =>
        exact legible
    | some marking =>
        exact legible_record legible (told.legible_marking written)
  · exact legible_track legible _
  · exact legible_drain legible
  · exact legible

theorem legible_replay
    {table : SlotTable}
    (legible : table.Legible)
    (history : History) :
    (table.replay history).Legible := by
  induction history generalizing table with
  | nil =>
      exact legible
  | cons event rest inductionHypothesis =>
      exact inductionHypothesis (legible_after legible event)

end SlotTable
end JobShell

import JobShell.Proofs.Reaper.Grouping
import JobShell.Proofs.Reaper.Watch
import Mathlib.Data.List.Forall2

namespace JobShell

/-!
# What one run of the reaper does

A run takes what is pending up to the first answer that ends it, and counts the
changes among it. Of each child the last exit, death or stop stands in the slot
of the child afterwards; a slot that nothing was told for is as it was, and no
slot changes hands.
-/

/-- The slot once it is marked, if it is. -/
def Slot.marked (slot : Slot) : Option Marking → Slot
  | none => slot
  | some marking => { slot with mark := marking.mark, detail := marking.detail }

/--
A slot keeps its process, and holds the last marking of it. Of a free slot this
is said only when nothing is told of a process without a number.
-/
structure Slot.Updated
    (markings : List Marking)
    (before after : Slot) :
    Prop where
  pid : after.pid = before.pid
  marked :
    (before.pid = 0 → ∀ marking ∈ markings, marking.pid ≠ 0) →
    after =
      before.marked (markings.filter (·.pid = before.pid)).getLast?

namespace Slot.Updated

variable {before between after : Slot}

theorem unmarked (slot : Slot) : Updated [] slot slot :=
  ⟨rfl, fun _ => rfl⟩

/-- A marking of another process leaves the slot alone. -/
theorem other
    {marking : Marking}
    (apart : marking.pid ≠ before.pid) :
    Updated [marking] before before := by
  refine ⟨rfl, fun _ => ?_⟩
  rw [List.filter_cons_of_neg (by simpa using apart)]
  rfl

/-- One marking after the others. -/
theorem cons
    {marking : Marking}
    {rest : List Marking}
    (first : Updated [marking] before between)
    (later : Updated rest between after) :
    Updated (marking :: rest) before after := by
  refine ⟨later.pid.trans first.pid, fun free => ?_⟩
  simp only [List.forall_mem_cons] at free
  have marked := first.marked fun zero => by simpa using (free zero).1
  have markedLater := later.marked fun zero => (free (first.pid ▸ zero)).2
  rw [first.pid] at markedLater
  rw [markedLater, marked]
  by_cases same : marking.pid = before.pid
  · have last :
        ((marking :: rest).filter (·.pid = before.pid)).getLast? =
          some ((rest.filter (·.pid = before.pid)).getLast?.getD marking) := by
      rw [List.filter_cons_of_pos (by simpa using same), List.getLast?_cons]
    rw [last, List.filter_cons_of_pos (by simpa using same)]
    cases (rest.filter (·.pid = before.pid)).getLast? <;> rfl
  · rw [List.filter_cons_of_neg (by simpa using same),
      List.filter_cons_of_neg (by simpa using same)]
    rfl

/-- The same for all slots. -/
theorem cons_all
    {marking : Marking}
    {rest : List Marking}
    {slots changed last : List Slot}
    (first : List.Forall₂ (Updated [marking]) slots changed)
    (later : List.Forall₂ (Updated rest) changed last) :
    List.Forall₂ (Updated (marking :: rest)) slots last := by
  induction first generalizing last with
  | nil =>
      cases later
      exact .nil
  | cons head _ inductionHypothesis =>
      cases later with
      | cons headLater tailLater =>
          exact .cons (head.cons headLater) (inductionHypothesis tailLater)

end Slot.Updated

namespace SlotTable

/-- A marking goes to the one slot of its process. -/
theorem updated_markFirst
    {slots : List Slot}
    (distinct :
      (slots.map Slot.pid).Pairwise fun first second =>
        first = second → first = 0)
    (marking : Marking) :
    List.Forall₂ (Slot.Updated [marking]) slots
      (markFirst marking.pid marking.mark marking.detail slots) := by
  induction slots with
  | nil =>
      exact .nil
  | cons slot rest inductionHypothesis =>
      simp only [List.map_cons, List.pairwise_cons, List.mem_map,
        forall_exists_index, and_imp, forall_apply_eq_imp_iff₂] at distinct
      obtain ⟨apart, distinctLater⟩ := distinct
      rw [markFirst]
      split
      · rename_i here
        refine .cons ⟨rfl, fun _ => by simp [here, Slot.marked]⟩ ?_
        refine List.forall₂_same.mpr fun other member => ?_
        refine ⟨rfl, fun free => ?_⟩
        have elsewhere : marking.pid ≠ other.pid := by
          intro same
          have zero := apart other member (here.trans same)
          have none := free (same.symm.trans (here.symm.trans zero))
          exact none marking (by simp) (here.symm.trans zero)
        simp [elsewhere, Slot.marked]
      · rename_i elsewhere
        exact .cons (.other (Ne.symm elsewhere)) (inductionHypothesis distinctLater)

/-- Of markings one after the other, the last of each process stands. -/
theorem updated_markAll
    {table : SlotTable}
    (wellFormed : table.WellFormed)
    (markings : List Marking) :
    List.Forall₂ (Slot.Updated markings) table.slots
      (table.markAll markings).slots := by
  induction markings generalizing table with
  | nil =>
      exact List.forall₂_same.mpr fun slot _ => .unmarked slot
  | cons marking rest inductionHypothesis =>
      have stays :=
        record_wellFormed wellFormed marking.pid marking.mark marking.detail
      exact
        Slot.Updated.cons_all (updated_markFirst wellFormed.distinct marking)
          (inductionHypothesis stays)

end SlotTable

namespace Host

/--
One run of the reaper takes what is pending up to the first error other than an
interruption or the first answer that nothing changed, and leaves the rest. It
asks once for each result, and once more if none of them ended it. The answer is
the number of changes among them. Each slot holds what was told last of its
process, and is as it was if nothing was told.
-/
theorem reap_takes
    {host : Host}
    (wellFormed : host.slots.WellFormed) :
    ∃ taken left slots,
      Cut host.pending taken left ∧
        reap host =
          (taken.countP ChildEvent.isCounted,
            { host with
              slots := slots
              pending := left
              history :=
                host.history ++
                  (answersOf taken).map fun answer =>
                    .call (.waitAny answer) none }) ∧
        (answersOf taken).length ≤ host.pending.length + 1 ∧
        List.Forall₂
          (Slot.Updated (taken.filterMap ChildEvent.marking?))
          host.slots.slots slots.slots := by
  obtain ⟨taken, left, cut⟩ := exists_cut host.pending
  refine
    ⟨taken, left, host.slots.markAll (taken.filterMap ChildEvent.marking?), cut,
      ?_, ?_, SlotTable.updated_markAll wellFormed _⟩
  · simp only [reap, run_bind, run_get, run_set, run_pure,
      Reaped.ofPending_eq cut]
  · have whole := congrArg List.length cut.whole
    rw [List.length_append] at whole
    unfold answersOf
    split <;> simp <;> omega

/-- Two jobs with slots, and what is told of them, and of a third process. -/
def mixed : Host :=
  { slots := ((SlotTable.empty.track 5).2.track 6).2
    pending :=
      [⟨5, .ok .continued⟩, ⟨5, .ok (.stopped .tstp)⟩, ⟨0, .error .eintr⟩,
        ⟨9, .ok (.exited 1)⟩, ⟨5, .ok (.signaled .kill true)⟩, ⟨0, .ok .alive⟩,
        ⟨6, .ok (.exited 0)⟩] }

/-- The run ends before the second job is told of; the first one was killed. -/
theorem reap_takes_mixed :
    mixed.slots.WellFormed ∧
      (reap mixed).1 = 4 ∧
      (reap mixed).2.slots.watch 5 = some (some (.killed .kill)) ∧
      (reap mixed).2.slots.watch 6 = some none ∧
      ∃ taken left,
        Cut mixed.pending taken left ∧
          (reap mixed).1 = taken.countP ChildEvent.isCounted ∧
          (reap mixed).2.pending = left ∧
          List.Forall₂
            (Slot.Updated (taken.filterMap ChildEvent.marking?))
            mixed.slots.slots (reap mixed).2.slots.slots := by
  have wellFormed : mixed.slots.WellFormed :=
    SlotTable.track_wellFormed
      (SlotTable.track_wellFormed SlotTable.empty_wellFormed 5) 6
  obtain ⟨taken, left, slots, cut, ran, -, updated⟩ := reap_takes wellFormed
  refine
    ⟨wellFormed, by decide +kernel, by decide +kernel, by decide +kernel, taken,
      left, cut, congrArg Prod.fst ran, ?_, ?_⟩
  · rw [ran]
  · rw [ran]
    exact updated

end Host
end JobShell

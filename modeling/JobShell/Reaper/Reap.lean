import JobShell.Reaper.Slots

namespace JobShell

/-!
# One run of the reaper

The reaper asks for any child that changed until there is nothing to report. An
interruption is asked again and not counted; another error ends the run. What
comes after the end of the run stays pending.
-/

/-- What one run of the reaper did. -/
structure Reaped where
  /-- The number of changes collected. -/
  count : Nat
  /-- The answers received; the last is `none` when nothing was pending. -/
  answers : List (Option ChildEvent)
  slots : SlotTable
  /-- The events that stay pending. -/
  rest : List ChildEvent

namespace Reaped

/-- A run that received one more answer at its start, counted or not. -/
def after (event : ChildEvent) (counted : Nat) (reaped : Reaped) : Reaped :=
  { reaped with
    count := reaped.count + counted
    answers := some event :: reaped.answers }

/-- Run over the pending events. -/
def ofPending (slots : SlotTable) : List ChildEvent → Reaped
  | [] => ⟨0, [none], slots, []⟩
  | event :: rest =>
      match event.answer with
      | .ok .alive => ⟨0, [some event], slots, rest⟩
      | .ok report =>
          (ofPending (slots.recordReport event.pid report) rest).after event 1
      | .error .eintr => (ofPending slots rest).after event 0
      | .error _ => ⟨0, [some event], slots, rest⟩

end Reaped
end JobShell

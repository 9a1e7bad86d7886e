import JobShell.Job.Status

namespace JobShell

/-!
# Reaper slots

The handler that collects children runs between any two steps of the shell, so
all it may touch is a fixed number of slots. The shell claims a slot for each
job left in the background; the handler marks the slot of a child that changed
with the kind of change and a number; the shell drains the marks, and frees the
slots of children that are finished.

A slot with process number 0 is free. Freeing a slot leaves its number behind,
which no mark refers to any more.
-/

/-- The kind of change a slot is marked with. -/
inductive Mark where
  | none
  | exited
  | signaled
  | stopped
  deriving DecidableEq, Repr

/-- A slot of the reaper. -/
structure Slot where
  pid : Pid := 0
  mark : Mark := .none
  /--
  The exit code, from 0 to 255, or the number of the signal, from 1 to 31. It is
  kept in 32 bits, where 128 more than it has room too.
  -/
  detail : Int := 0
  deriving DecidableEq, Repr

/-- A change of a child that the handler saw. -/
structure ReapEvent where
  pid : Pid
  status : Status
  deriving DecidableEq, Repr

namespace Slot

/--
The state that a slot's mark stands for. A number that is no signal's stands for
the exit code 128 more than it, which never leaves the range of 32 bits.
-/
def status? (slot : Slot) : Option Status :=
  match slot.mark with
  | .none => none
  | .exited => some (.done slot.detail)
  | .signaled =>
      match Signal.ofNumber? slot.detail with
      | some signal => some (.killed signal)
      | none => some (.done (128 + slot.detail))
  | .stopped => some (.stopped ((Signal.ofNumber? slot.detail).getD .stop))

/-- Take the event out of a slot, and free the slot if its child is finished. -/
def drain (slot : Slot) : Option ReapEvent × Slot :=
  if slot.pid = 0 then (none, slot)
  else
    match slot.status? with
    | none => (none, { slot with mark := .none })
    | some status =>
        (some ⟨slot.pid, status⟩,
          { slot with
            mark := .none
            pid := if status.isFinished then 0 else slot.pid })

end Slot

/-- The slots of the reaper. -/
structure SlotTable where
  slots : List Slot
  deriving DecidableEq, Repr

namespace SlotTable

/-- How many children can be tracked at a time. -/
def capacity : Nat := 64

/-- Slots that are all free. -/
def empty : SlotTable := ⟨List.replicate capacity {}⟩

/-- Claim the first free slot, if there is one. -/
def claim? (pid : Pid) : List Slot → Option (List Slot)
  | [] => none
  | slot :: rest =>
      if slot.pid = 0 then some ({ slot with pid := pid, mark := .none } :: rest)
      else (claim? pid rest).map (slot :: ·)

/-- Some slot has this process number. -/
def holds (table : SlotTable) (pid : Pid) : Bool :=
  table.slots.any (·.pid = pid)

/-- Claim a slot for a process, unless it has one. -/
def track (table : SlotTable) (pid : Pid) : Bool × SlotTable :=
  if table.holds pid then (true, table)
  else
    match claim? pid table.slots with
    | some slots => (true, ⟨slots⟩)
    | none => (false, table)

/-- Mark the first slot of a process. -/
def markFirst (pid : Pid) (mark : Mark) (detail : Int) : List Slot → List Slot
  | [] => []
  | slot :: rest =>
      if slot.pid = pid then { slot with mark := mark, detail := detail } :: rest
      else slot :: markFirst pid mark detail rest

/-- Record a change of a process; one without a slot is not recorded. -/
def record
    (table : SlotTable)
    (pid : Pid)
    (mark : Mark)
    (detail : Int) :
    SlotTable :=
  ⟨markFirst pid mark detail table.slots⟩

/-- Take all events out, in the order of the slots. -/
def drain (table : SlotTable) : List ReapEvent × SlotTable :=
  (table.slots.filterMap (·.drain.1), ⟨table.slots.map (·.drain.2)⟩)

/-- Record what a report says about a process. -/
def recordReport
    (table : SlotTable)
    (pid : Pid) :
    Report → SlotTable
  | .exited code => table.record pid .exited code
  | .signaled signal _ => table.record pid .signaled signal.number
  | .stopped signal => table.record pid .stopped signal.number
  | .continued | .alive | .traced | .atSystemCall => table

end SlotTable
end JobShell

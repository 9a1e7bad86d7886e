import JobShell.Proofs.Job.Recorded

namespace JobShell

/-!
# Processes in the background

Once it is left in the background, a process is kept by the table until a drain
finds that it has finished, whatever its slot says and also when it has none.
Before that, with unique numbers, it has no slot.
-/

/-- The state that a process will be handed out in. -/
def Phase.due : Phase → Option Status
  | drained due => due
  | _ => none

namespace Standing

variable
  {unique : Prop}
  {pid : Pid}
  {watch : Option (Option Status)}
  {before after : Standing}
  {event : Event}

/-- The process is in the background, and is not about to leave the table. -/
structure Kept
    (watch : Option (Option Status))
    (standing : Standing) :
    Prop where
  isOpen : standing.phase.isOpen = true
  inTable : standing.inTable = true
  watch : standing.watch = watch
  due : standing.phase.due.any Status.isFinished = false

theorem kept_of_granted
    (step : Step unique pid before (.tracked pid true) after) :
    Kept (some (before.watch.getD none)) after := by
  obtain ⟨-, rfl⟩ := step.of_granted
  exact ⟨rfl, rfl, rfl, rfl⟩

/-- Between drains a process is kept, and is not handed out as finished. -/
theorem Kept.step
    (kept : Kept watch before)
    (step : Step unique pid before event after)
    (undrained : event.isDrain = false)
    (unforked : event.forks pid = false) :
    Kept (watch.map (event.change? pid).or) after ∧
      ∀ status ∈ event.returned pid, status.isFinished = false := by
  obtain ⟨isOpen, inTable, rfl, keeps⟩ := kept
  cases step with
  | forked =>
      simp [Event.forks] at unforked
  | watched phase watch closed =>
      simp [isOpen] at closed
  | changed phase _ watch event status _ changed =>
      obtain ⟨-, -, uncollected⟩ := Event.of_change? changed
      refine ⟨⟨isOpen, inTable, ?_, keeps⟩, ?_⟩
      · cases watch <;> simp [changed]
      · simp [Event.returned_of_not_isCollection uncollected]
  | drained =>
      contradiction
  | collected _ watch due jobs handed =>
      obtain rfl := inTable
      have unfinished : due.any Status.isFinished = false := keeps
      refine ⟨⟨rfl, by simp [unfinished], ?_, rfl⟩, ?_⟩
      · cases watch <;> rfl
      · intro status member
        simp only [Event.returned, handed, Option.mem_toList] at member
        obtain rfl := member
        simpa using unfinished
  | other _ event apart =>
      obtain ⟨-, -, uncollected, unchanged, -⟩ := Event.of_not_concerns apart
      refine ⟨⟨isOpen, inTable, ?_, keeps⟩, ?_⟩
      · rw [unchanged]
        cases before.watch <;> rfl
      · simp [Event.returned_of_not_isCollection uncollected]
  | _ =>
      contradiction

/-- A calm event leaves a process as it is kept. -/
theorem Kept.calm
    (kept : Kept watch before)
    (step : Step unique pid before event after)
    (undrained : event.isDrain = false)
    (unchanged : event.change? pid = none)
    (unforked : event.forks pid = false) :
    Kept watch after := by
  have keptAfter := (kept.step step undrained unforked).1
  rw [unchanged] at keptAfter
  cases watch <;> exact keptAfter

/-- A drain that does not find the process finished keeps it. -/
theorem Kept.drained
    (kept : Kept watch before)
    {batch : List ReapEvent}
    (step : Step unique pid before (.drained batch) after)
    (unfinished : watch.join.any Status.isFinished = false) :
    Kept (watch.map fun _ => none) after := by
  obtain ⟨isOpen, inTable, rfl, keeps⟩ := kept
  obtain ⟨-, rfl⟩ := step.of_drained
  rw [inTable]
  refine ⟨rfl, rfl, ?_, unfinished⟩
  generalize before.watch = watch at unfinished ⊢
  rcases watch with _ | _ | status
  · rfl
  · rfl
  · have goesOn : status.isFinished = false := unfinished
    simp [SlotTable.afterDrain, goesOn]

/-- Before it is left in the background, a process has no slot. -/
def Fresh (standing : Standing) : Prop :=
  standing.phase.isOpen = false → standing.watch = none

theorem Fresh.step
    (fresh : Fresh before)
    (step : Step True pid before event after) :
    Fresh after := by
  cases step with
  | forked inTable watch unused =>
      intro _
      exact (unused trivial).2
  | waited =>
      exact fresh
  | halted =>
      intro _
      exact fresh rfl
  | changed phase inTable watch event status isOpen changed =>
      intro closed
      simp [isOpen] at closed
  | other =>
      exact fresh
  | _ =>
      simp [Fresh, Phase.isOpen]

theorem fresh_of_run
    {history : History}
    {standing : Standing}
    (run : Run True pid unknown history standing) :
    Fresh standing :=
  run.invariant (fun fresh (_ : True) step => fresh.step step)
    (by simp) (by simp [Fresh, unknown])

end Standing
end JobShell

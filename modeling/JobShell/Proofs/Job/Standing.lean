import JobShell.Host.Event
import JobShell.Proofs.Job.Table
import JobShell.Proofs.Reaper.Watch

namespace JobShell

/-!
# The standing of one process

The table, the slots and the answers of the system meet in a process number.
The standing of a process is whether it is in the table, what its slot is marked
with, and what the shell is about to do with it. `Standing.Step` says which
events may come next and where they lead; a history is lawful for a process
when its events are a run of such steps.

Everything that happens to jobs left in the background is read off these runs,
so that the shell itself has to be looked at only to show that its histories
are lawful.
-/

/-- What an answer to waiting for a child makes of it, unless the wait goes on. -/
def Settled.outcome? : WaitAnswer → Option Status
  | .ok report => report.change?
  | .error errno => if errno = .eintr then none else some (.done 0)

namespace Event

/-- The change of a process that the reaper collects by the event. -/
def change? (pid : Pid) : Event → Option Status
  | .call (.waitAny (some ⟨child, .ok report⟩)) _ =>
      if child = pid then report.change? else none
  | _ => none

/-- The change of a process that anybody in the shell collects by the event. -/
def told? (pid : Pid) : Event → Option Status
  | .call (.waitAny (some ⟨child, .ok report⟩)) _ =>
      if child = pid then report.change? else none
  | .call (.wait child (.ok report)) _ =>
      if child = pid then report.change? else none
  | _ => none

/-- The event makes the shell the parent of a process. -/
def forks (pid : Pid) : Event → Bool
  | .call (.fork (.parent child)) _ => child = pid
  | _ => false

/-- The event is a drain of the slots. -/
def isDrain : Event → Bool
  | .drained _ => true
  | _ => false

/-- The event hands out jobs. -/
def isCollection : Event → Bool
  | .collected _ => true
  | _ => false

/-- The event is a drain that frees the slot of a process. -/
def frees (pid : Pid) : Event → Bool
  | .drained events =>
      (SlotTable.statusesOf pid events).any Status.isFinished
  | _ => false

/-- The states in which the event hands out jobs of a process. -/
def returned (pid : Pid) : Event → List Status
  | .collected jobs => JobTable.statusesOf pid jobs
  | _ => []

/-- The event may change the standing of a process. -/
def concerns (pid : Pid) (event : Event) : Bool :=
  event.forks pid || event.isDrain || event.isCollection ||
    (event.change? pid).isSome ||
    match event with
    | .call (.wait child _) _ => child = pid
    | .tracked child _ => child = pid
    | _ => false

theorem eq_of_isDrain
    {event : Event}
    (drain : event.isDrain = true) :
    ∃ batch, event = .drained batch := by
  cases event <;> first | contradiction | exact ⟨_, rfl⟩

theorem eq_of_isCollection
    {event : Event}
    (collection : event.isCollection = true) :
    ∃ jobs, event = .collected jobs := by
  cases event <;> first | contradiction | exact ⟨_, rfl⟩

theorem frees_of_not_isDrain
    {event : Event}
    (undrained : event.isDrain = false)
    (pid : Pid) :
    event.frees pid = false := by
  cases event <;> first | contradiction | rfl

theorem returned_of_not_isCollection
    {event : Event}
    (uncollected : event.isCollection = false)
    (pid : Pid) :
    event.returned pid = [] := by
  cases event <;> first | contradiction | rfl

/-- A change that the reaper collects is told by an answer for any child. -/
theorem eq_of_change?
    {pid : Pid}
    {event : Event}
    {status : Status}
    (changed : event.change? pid = some status) :
    ∃ report fault,
      event = .call (.waitAny (some ⟨pid, .ok report⟩)) fault ∧
        report.change? = some status := by
  unfold change? at changed
  split at changed
  · split at changed
    · rename_i child report fault same
      subst same
      exact ⟨report, fault, rfl, changed⟩
    · contradiction
  · contradiction

/-- A change that the reaper collects is nothing else. -/
theorem of_change?
    {pid : Pid}
    {event : Event}
    {status : Status}
    (changed : event.change? pid = some status) :
    event.forks pid = false ∧
      event.isDrain = false ∧ event.isCollection = false := by
  obtain ⟨report, fault, rfl, -⟩ := eq_of_change? changed
  exact ⟨rfl, rfl, rfl⟩

/-- What does not concern a process does nothing that its standing tells of. -/
theorem of_not_concerns
    {pid : Pid}
    {event : Event}
    (apart : event.concerns pid = false) :
    event.forks pid = false ∧
      event.isDrain = false ∧
      event.isCollection = false ∧
      event.change? pid = none ∧
      (∀ granted, event ≠ .tracked pid granted) ∧
      ∀ answer fault, event ≠ .call (.wait pid answer) fault := by
  simp only [concerns, Bool.or_eq_false_iff, Option.isSome_eq_false_iff,
    Option.isNone_iff_eq_none] at apart
  obtain ⟨⟨⟨⟨forks, drain⟩, collection⟩, change⟩, rest⟩ := apart
  refine ⟨forks, drain, collection, change, ?_, ?_⟩
  · rintro granted rfl
    simp at rest
  · rintro answer fault rfl
    simp at rest

end Event

/-- What the shell is about to do with a process. -/
inductive Phase where
  /-- Nothing, or nothing that the process is told about. -/
  | idle
  /-- It was forked, and will be waited for or left in the background. -/
  | forked
  /-- It stopped while it was waited for, and will be left in the background. -/
  | halted
  /-- The slots were drained; it is handed out in this state, if any. -/
  | drained (due : Option Status)
  deriving DecidableEq, Repr

/-- The reaper may run, for the shell holds no process back from it. -/
def Phase.isOpen : Phase → Bool
  | idle | drained _ => true
  | forked | halted => false

/-- The standing of a process. -/
structure Standing where
  phase : Phase
  /-- There is a job of the process in the table. -/
  inTable : Bool
  /-- The slot of the process, with the change it is marked with. -/
  watch : Option (Option Status)
  deriving DecidableEq, Repr

namespace Standing

/-- Nothing is known of the process. -/
def unknown : Standing := ⟨.idle, false, none⟩

/--
How an event changes the standing of a process. With `unique`, a fork answers
only with the numbers of processes that neither the table nor a slot holds.
-/
inductive Step (unique : Prop) (pid : Pid) : Standing → Event → Standing → Prop
  | forked (inTable : Bool) (watch : Option (Option Status)) :
      (unique → inTable = false ∧ watch = none) →
      Step unique pid ⟨.idle, inTable, watch⟩
        (.call (.fork (.parent pid)) none) ⟨.forked, true, watch⟩
  /-- The wait for the process goes on. -/
  | waited (watch : Option (Option Status)) (answer : WaitAnswer) :
      Settled.outcome? answer = none →
      Step unique pid ⟨.forked, true, watch⟩
        (.call (.wait pid answer) none) ⟨.forked, true, watch⟩
  /-- The wait ends with the process, or with an error. -/
  | ended
      (watch : Option (Option Status))
      (answer : WaitAnswer)
      (status : Status) :
      Settled.outcome? answer = some status →
      status.isFinished = true →
      Step unique pid ⟨.forked, true, watch⟩
        (.call (.wait pid answer) none) ⟨.idle, false, watch⟩
  /-- The wait ends with a stop. -/
  | halted (watch : Option (Option Status)) (signal : Signal) :
      Step unique pid ⟨.forked, true, watch⟩
        (.call (.wait pid (.ok (.stopped signal))) none)
        ⟨.halted, true, watch⟩
  /-- The process is left in the background, with a slot. -/
  | watched (phase : Phase) (watch : Option (Option Status)) :
      phase.isOpen = false →
      Step unique pid ⟨phase, true, watch⟩ (.tracked pid true)
        ⟨.idle, true, some (watch.getD none)⟩
  /-- The process is refused a slot, and is forgotten. -/
  | dropped :
      Step unique pid ⟨.forked, true, none⟩ (.tracked pid false)
        ⟨.idle, false, none⟩
  /-- The stopped process is refused a slot, and stays in the table. -/
  | unwatched :
      Step unique pid ⟨.halted, true, none⟩ (.tracked pid false)
        ⟨.idle, true, none⟩
  /-- The reaper collects a change of the process. -/
  | changed
      (phase : Phase)
      (inTable : Bool)
      (watch : Option (Option Status))
      (event : Event)
      (status : Status) :
      phase.isOpen = true →
      event.change? pid = some status →
      Step unique pid ⟨phase, inTable, watch⟩ event
        ⟨phase, inTable, watch.map fun _ => some status⟩
  /-- The slots are drained. -/
  | drained
      (inTable : Bool)
      (watch : Option (Option Status))
      (events : List ReapEvent) :
      SlotTable.statusesOf pid events = watch.join.toList →
      Step unique pid ⟨.idle, inTable, watch⟩ (.drained events)
        ⟨.drained (if inTable then watch.join else none), inTable,
          SlotTable.afterDrain watch⟩
  /-- The jobs that changed are handed out. -/
  | collected
      (inTable : Bool)
      (watch : Option (Option Status))
      (due : Option Status)
      (jobs : List Job) :
      JobTable.statusesOf pid jobs = due.toList →
      Step unique pid ⟨.drained due, inTable, watch⟩ (.collected jobs)
        ⟨.idle, inTable && !due.any Status.isFinished, watch⟩
  | other (standing : Standing) (event : Event) :
      event.concerns pid = false →
      Step unique pid standing event standing

namespace Step

variable
  {unique : Prop}
  {pid : Pid}
  {before after : Standing}

theorem of_forked
    (step :
      Step unique pid before (.call (.fork (.parent pid)) none) after) :
    before.phase = .idle ∧ after = ⟨.forked, true, before.watch⟩ := by
  cases step with
  | forked =>
      exact ⟨rfl, rfl⟩
  | changed phase inTable watch event status isOpen changed =>
      contradiction
  | other _ _ apart =>
      simp [Event.concerns, Event.forks] at apart

theorem of_stopped
    {signal : Signal}
    (step :
      Step unique pid before
        (.call (.wait pid (.ok (.stopped signal))) none) after) :
    after = ⟨.halted, true, before.watch⟩ := by
  cases step with
  | waited watch answer goesOn =>
      contradiction
  | ended watch answer status settles finished =>
      obtain rfl := Option.some.inj settles
      contradiction
  | halted =>
      rfl
  | changed phase inTable watch event status isOpen changed =>
      contradiction
  | other _ _ apart =>
      simp [Event.concerns] at apart

theorem of_granted
    (step : Step unique pid before (.tracked pid true) after) :
    before.phase.isOpen = false ∧
      after = ⟨.idle, true, some (before.watch.getD none)⟩ := by
  cases step with
  | watched phase watch closed =>
      exact ⟨closed, rfl⟩
  | changed phase inTable watch event status isOpen changed =>
      contradiction
  | other _ _ apart =>
      simp [Event.concerns] at apart

/-- A process that is refused a slot stays in the table if it stopped. -/
theorem of_refused
    (step : Step unique pid before (.tracked pid false) after) :
    (before.phase = .forked ∧ after = ⟨.idle, false, none⟩) ∨
      (before.phase = .halted ∧ after = ⟨.idle, true, none⟩) := by
  cases step with
  | dropped =>
      exact .inl ⟨rfl, rfl⟩
  | unwatched =>
      exact .inr ⟨rfl, rfl⟩
  | changed phase inTable watch event status isOpen changed =>
      contradiction
  | other _ _ apart =>
      simp [Event.concerns] at apart

theorem of_drained
    {batch : List ReapEvent}
    (step : Step unique pid before (.drained batch) after) :
    before.phase = .idle ∧
      after =
        ⟨.drained (if before.inTable then before.watch.join else none),
          before.inTable, SlotTable.afterDrain before.watch⟩ := by
  cases step with
  | drained =>
      exact ⟨rfl, rfl⟩
  | changed phase inTable watch event status isOpen changed =>
      contradiction
  | other _ _ apart =>
      simp [Event.concerns, Event.isDrain] at apart

theorem of_collected
    {jobs : List Job}
    (step : Step unique pid before (.collected jobs) after) :
    ∃ due,
      before.phase = .drained due ∧
        JobTable.statusesOf pid jobs = due.toList ∧
        after =
          ⟨.idle, before.inTable && !due.any Status.isFinished,
            before.watch⟩ := by
  cases step with
  | collected inTable watch due jobs handed =>
      exact ⟨due, rfl, handed, rfl⟩
  | changed phase inTable watch event status isOpen changed =>
      contradiction
  | other _ _ apart =>
      simp [Event.concerns, Event.isCollection] at apart

/-- With unique numbers, a process in the table or in a slot is not forked. -/
theorem unforked
    {event : Event}
    (step : Step True pid before event after)
    (used : before.inTable = true ∨ before.watch.isSome = true) :
    event.forks pid = false := by
  cases step with
  | forked inTable watch unused =>
      obtain ⟨absent, unheld⟩ := unused trivial
      simp [absent, unheld] at used
  | changed phase inTable watch event status isOpen changed =>
      exact (Event.of_change? changed).1
  | other _ _ apart =>
      exact (Event.of_not_concerns apart).1
  | _ =>
      rfl

end Step

/-- A lawful history, from one standing of a process to another. -/
inductive Run (unique : Prop) (pid : Pid) : Standing → History → Standing → Prop
  | nil (standing : Standing) : Run unique pid standing [] standing
  | cons
      {first second third : Standing}
      {event : Event}
      {rest : History} :
      Step unique pid first event second →
      Run unique pid second rest third →
      Run unique pid first (event :: rest) third

namespace Run

variable
  {unique : Prop}
  {pid : Pid}
  {start middle finish : Standing}
  {first second : History}

theorem single
    {event : Event}
    (step : Step unique pid start event finish) :
    Run unique pid start [event] finish :=
  .cons step (.nil finish)

theorem append
    (before : Run unique pid start first middle)
    (after : Run unique pid middle second finish) :
    Run unique pid start (first ++ second) finish := by
  induction before with
  | nil standing =>
      exact after
  | cons step rest inductionHypothesis =>
      exact .cons step (inductionHypothesis after)

/-- A lawful history can be cut anywhere. -/
theorem append_iff :
    Run unique pid start (first ++ second) finish ↔
      ∃ middle,
        Run unique pid start first middle ∧
          Run unique pid middle second finish := by
  constructor
  · intro run
    induction first generalizing start with
    | nil =>
        exact ⟨start, .nil start, run⟩
    | cons event rest inductionHypothesis =>
        cases run with
        | cons step later =>
            obtain ⟨middle, before, after⟩ := inductionHypothesis later
            exact ⟨middle, .cons step before, after⟩
  · rintro ⟨middle, before, after⟩
    exact before.append after

/-- The standings around one event of a lawful history. -/
theorem around
    {event : Event}
    (run : Run unique pid start (first ++ event :: second) finish) :
    ∃ before after,
      Run unique pid start first before ∧
        Step unique pid before event after ∧
        Run unique pid after second finish := by
  obtain ⟨before, earlier, later⟩ := append_iff.mp run
  cases later with
  | cons step later =>
      exact ⟨before, _, earlier, step, later⟩

/-- Events that do not concern the process leave its standing alone. -/
theorem others
    {history : History}
    (apart : ∀ event ∈ history, event.concerns pid = false)
    (standing : Standing) :
    Run unique pid standing history standing := by
  induction history with
  | nil =>
      exact .nil standing
  | cons event rest inductionHypothesis =>
      have here : event.concerns pid = false := apart event (by simp)
      have later :=
        inductionHypothesis fun event member => apart event (by simp [member])
      exact .cons (.other standing event here) later

/--
What holds at the start and is kept by each step that may occur holds at the
end, and what each such step shows is shown by every event.
-/
theorem throughout
    {holds : Standing → Prop}
    {may shows : Event → Prop}
    (keeps :
      ∀ {before event after},
        holds before → may event →
        Step unique pid before event after →
        holds after ∧ shows event)
    {history : History}
    (run : Run unique pid start history finish)
    (all : ∀ event ∈ history, may event)
    (atStart : holds start) :
    holds finish ∧ ∀ event ∈ history, shows event := by
  induction run with
  | nil standing =>
      exact ⟨atStart, by simp⟩
  | cons step rest inductionHypothesis =>
      obtain ⟨here, shown⟩ := keeps atStart (all _ (by simp)) step
      obtain ⟨atEnd, later⟩ :=
        inductionHypothesis (fun event member => all event (by simp [member])) here
      exact ⟨atEnd, by simpa using ⟨shown, later⟩⟩

/-- What holds at the start and is kept by each step that may occur holds at the end. -/
theorem invariant
    {holds : Standing → Prop}
    {may : Event → Prop}
    (keeps :
      ∀ {before event after},
        holds before → may event →
        Step unique pid before event after → holds after)
    {history : History}
    (run : Run unique pid start history finish)
    (all : ∀ event ∈ history, may event)
    (atStart : holds start) :
    holds finish := by
  have keepsToo
      {before after : Standing}
      {event : Event}
      (held : holds before)
      (mayEvent : may event)
      (step : Step unique pid before event after) :
      holds after ∧ True :=
    ⟨keeps held mayEvent step, trivial⟩
  exact (throughout keepsToo run all atStart).1

/-- Induction on a lawful history from its end. -/
theorem induction_end
    {motive :
      ∀ (history : History) (finish : Standing),
        Run unique pid start history finish → Prop}
    (nil : motive [] start (.nil start))
    (snoc :
      ∀ {history before event after}
        (earlier : Run unique pid start history before)
        (step : Step unique pid before event after),
        motive history before earlier →
        motive (history ++ [event]) after (earlier.append (.single step)))
    {history : History}
    {finish : Standing}
    (run : Run unique pid start history finish) :
    motive history finish run := by
  -- What is left of the run is consumed from the front, behind what was seen.
  have consume
      {middle last : Standing}
      {rest : History}
      (later : Run unique pid middle rest last) :
      ∀ {seen} (earlier : Run unique pid start seen middle),
        motive seen middle earlier →
        motive (seen ++ rest) last (earlier.append later) := by
    induction later with
    | nil standing =>
        intro seen earlier holds
        simpa only [List.append_nil] using holds
    | cons step later inductionHypothesis =>
        intro seen earlier holds
        have next := inductionHypothesis _ (snoc earlier step holds)
        simpa only [List.append_assoc, List.singleton_append] using next
  exact consume run (.nil start) nil

end Run
end Standing
end JobShell

import JobShell.Proofs.Job.Standing

namespace JobShell

/-!
# What histories record

Whether a process has a slot, which change the slot is marked with, and where a
drain finds it can be read off the history alone. The predicates on histories
here say so without standings; that lawful histories agree with them is proved
by induction on the history from its end.
-/

namespace History

/-- The process got a slot, and no drain has freed it since. -/
def Held (pid : Pid) (history : History) : Prop :=
  ∃ before after,
    history = before ++ .tracked pid true :: after ∧
      ∀ event ∈ after, event.frees pid = false

/--
The last change of the process that the reaper collected, while the process had
a slot, and which no drain has taken out since.
-/
def Marked (pid : Pid) (status : Status) (history : History) : Prop :=
  ∃ before event after,
    history = before ++ event :: after ∧
      Held pid before ∧
      event.change? pid = some status ∧
      ∀ later ∈ after, later.isDrain = false ∧ later.change? pid = none

/-- Nothing is drained or handed out, and the process is not forked. -/
def Undisturbed (pid : Pid) (history : History) : Prop :=
  ∀ event ∈ history,
    event.isDrain = false ∧
      event.isCollection = false ∧
      event.forks pid = false

/-- A history can be cut at the first event of a kind, if it has one. -/
theorem first_split (isKind : Event → Bool) (history : History) :
    (∀ event ∈ history, isKind event = false) ∨
      ∃ before event after,
        history = before ++ event :: after ∧
          isKind event = true ∧
          ∀ other ∈ before, isKind other = false := by
  cases found : history.find? isKind with
  | none =>
      exact .inl (by simpa using found)
  | some event =>
      obtain ⟨isOne, before, after, split, earlier⟩ :=
        List.find?_eq_some_iff_append.mp found
      exact .inr ⟨before, event, after, split, isOne, by simpa using earlier⟩

/-- An event of a history with one more event is that one, or an earlier one. -/
theorem snoc_split
    {history before after : History}
    {last event : Event} :
    history ++ [last] = before ++ event :: after ↔
      (history = before ∧ last = event ∧ after = []) ∨
        ∃ middle,
          history = before ++ event :: middle ∧ after = middle ++ [last] := by
  constructor
  · intro same
    rcases List.eq_nil_or_concat after with rfl | ⟨middle, final, rfl⟩
    · obtain ⟨sameBefore, sameLast⟩ := List.append_inj' same rfl
      exact .inl ⟨sameBefore, List.cons.inj sameLast |>.1, rfl⟩
    · rw [List.concat_eq_append, ← List.cons_append, ← List.append_assoc] at same
      obtain ⟨sameBefore, sameLast⟩ := List.append_inj' same rfl
      obtain ⟨rfl, -⟩ := List.cons.inj sameLast
      exact .inr ⟨middle, sameBefore, List.concat_eq_append⟩
  · rintro (⟨rfl, rfl, rfl⟩ | ⟨middle, rfl, rfl⟩)
    · rfl
    · simp

/-- There is a last fork that answers with the process. -/
def Forked (pid : Pid) (history : History) : Prop :=
  ∃ before after,
    history = before ++ .call (.fork (.parent pid)) none :: after ∧
      ∀ event ∈ after, event.forks pid = false

theorem Forked.snoc
    {pid : Pid}
    {history : History}
    (forked : Forked pid history)
    {last : Event}
    (unforked : last.forks pid = false) :
    Forked pid (history ++ [last]) := by
  obtain ⟨before, after, rfl, kept⟩ := forked
  exact
    ⟨before, after ++ [last], by simp,
      List.forall_mem_append.mpr ⟨kept, List.forall_mem_singleton.mpr unforked⟩⟩

theorem held_snoc {pid : Pid} {history : History} {last : Event} :
    Held pid (history ++ [last]) ↔
      last = .tracked pid true ∨
        (Held pid history ∧ last.frees pid = false) := by
  constructor
  · rintro ⟨before, after, split, kept⟩
    rcases snoc_split.mp split with ⟨-, isLast, -⟩ | ⟨middle, earlier, rfl⟩
    · exact .inl isLast
    · refine .inr ⟨⟨before, middle, earlier, fun event member => ?_⟩, ?_⟩
      · exact kept event (by simp [member])
      · exact kept last (by simp)
  · rintro (rfl | ⟨⟨before, after, rfl, kept⟩, lastKept⟩)
    · exact ⟨history, [], rfl, by simp⟩
    · exact
        ⟨before, after ++ [last], by simp,
          List.forall_mem_append.mpr
            ⟨kept, List.forall_mem_singleton.mpr lastKept⟩⟩

theorem marked_snoc
    {pid : Pid}
    {status : Status}
    {history : History}
    {last : Event} :
    Marked pid status (history ++ [last]) ↔
      (Held pid history ∧ last.change? pid = some status) ∨
        (Marked pid status history ∧
          last.isDrain = false ∧ last.change? pid = none) := by
  constructor
  · rintro ⟨before, event, after, split, held, changed, kept⟩
    rcases snoc_split.mp split with ⟨rfl, rfl, -⟩ | ⟨middle, rfl, rfl⟩
    · exact .inl ⟨held, changed⟩
    · refine
        .inr
          ⟨⟨before, event, middle, rfl, held, changed, fun later member => ?_⟩,
            kept last (by simp)⟩
      exact kept later (by simp [member])
  · rintro (⟨held, changed⟩ |
      ⟨⟨before, event, after, rfl, held, changed, kept⟩, lastKept⟩)
    · exact ⟨history, last, [], rfl, held, changed, by simp⟩
    · exact
        ⟨before, event, after ++ [last], by simp, held, changed,
          List.forall_mem_append.mpr
            ⟨kept, List.forall_mem_singleton.mpr lastKept⟩⟩

end History

namespace Standing.Run

variable
  {unique : Prop}
  {pid : Pid}
  {standing : Standing}
  {history : History}

/-- A process has a slot exactly if the history says so. -/
theorem isSome_watch_iff
    (run : Run unique pid unknown history standing) :
    standing.watch.isSome = true ↔ history.Held pid := by
  induction run using induction_end with
  | nil =>
      simp [unknown, History.Held]
  | snoc earlier step inductionHypothesis =>
      rw [History.held_snoc, ← inductionHypothesis]
      cases step with
      | forked =>
          simp [Event.frees]
      | waited =>
          simp [Event.frees]
      | ended =>
          simp [Event.frees]
      | halted =>
          simp [Event.frees]
      | watched =>
          simp
      | dropped =>
          simp
      | unwatched =>
          simp
      | changed phase inTable watch event status isOpen changed =>
          obtain ⟨report, fault, rfl, -⟩ := Event.eq_of_change? changed
          simp [Event.frees]
      | drained inTable watch events told =>
          simp only [Event.frees, told, reduceCtorEq, false_or]
          rcases watch with _ | _ | status
          · simp [SlotTable.afterDrain]
          · simp [SlotTable.afterDrain]
          · cases finished : status.isFinished <;>
              simp [SlotTable.afterDrain, finished]
      | collected =>
          simp [Event.frees]
      | other _ event apart =>
          obtain ⟨-, drain, -, -, tracked, -⟩ := Event.of_not_concerns apart
          simp [tracked true, Event.frees_of_not_isDrain drain pid]

/-- A slot is marked with a change exactly if the history says so. -/
theorem watch_eq_iff
    (run : Run unique pid unknown history standing)
    (status : Status) :
    standing.watch = some (some status) ↔ history.Marked pid status := by
  induction run using induction_end with
  | nil =>
      simp [unknown, History.Marked]
  | snoc earlier step inductionHypothesis =>
      rw [History.marked_snoc, ← inductionHypothesis, ← earlier.isSome_watch_iff]
      cases step with
      | forked =>
          simp [Event.change?, Event.isDrain]
      | waited =>
          simp [Event.change?, Event.isDrain]
      | ended =>
          simp [Event.change?, Event.isDrain]
      | halted =>
          simp [Event.change?, Event.isDrain]
      | watched phase watch =>
          cases watch <;> simp [Event.change?, Event.isDrain]
      | dropped =>
          simp [Event.change?, Event.isDrain]
      | unwatched =>
          simp [Event.change?, Event.isDrain]
      | changed phase inTable watch event found isOpen changed =>
          cases watch <;> simp [changed]
      | drained inTable watch events told =>
          rcases watch with _ | _ | found
          · simp [SlotTable.afterDrain, Event.change?, Event.isDrain]
          · simp [SlotTable.afterDrain, Event.change?, Event.isDrain]
          · cases finished : found.isFinished <;>
              simp [SlotTable.afterDrain, finished, Event.change?, Event.isDrain]
      | collected =>
          simp [Event.change?, Event.isDrain]
      | other _ event apart =>
          obtain ⟨-, drain, -, changed, -, -⟩ := Event.of_not_concerns apart
          simp [drain, changed]

/--
The last drain found the process in the state that is due, if it was in the
table.
-/
def Found
    (unique : Prop)
    (pid : Pid)
    (due : Option Status)
    (history : History) :
    Prop :=
  ∃ earlier batch between before,
    history = earlier ++ .drained batch :: between ∧
      History.Undisturbed pid between ∧
      Run unique pid unknown earlier before ∧
      before.phase = .idle ∧
      due = if before.inTable then before.watch.join else none

theorem Found.snoc
    {due : Option Status}
    (found : Found unique pid due history)
    {event : Event}
    (quiet : History.Undisturbed pid [event]) :
    Found unique pid due (history ++ [event]) := by
  obtain ⟨first, batch, between, start, rfl, earlier, run, idle, known⟩ := found
  exact
    ⟨first, batch, between ++ [event], start, by simp,
      List.forall_mem_append.mpr ⟨earlier, quiet⟩, run, idle, known⟩

/-- A process that is about to be handed out was found by a drain. -/
theorem found_of_drained
    (run : Run unique pid unknown history standing)
    {due : Option Status}
    (drained : standing.phase = .drained due) :
    Found unique pid due history := by
  induction run using induction_end with
  | nil =>
      simp [unknown] at drained
  | @snoc history before event after earlier step inductionHypothesis =>
      cases step with
      | changed phase inTable watch event status isOpen changed =>
          obtain ⟨forks, drain, collection⟩ := Event.of_change? changed
          apply (inductionHypothesis drained).snoc
          simp [History.Undisturbed, forks, drain, collection]
      | drained inTable watch events told =>
          obtain rfl := Phase.drained.inj drained
          exact
            ⟨history, events, [], _, rfl, by simp [History.Undisturbed],
              earlier, rfl, rfl⟩
      | other _ event apart =>
          obtain ⟨forks, drain, collection, -⟩ := Event.of_not_concerns apart
          apply (inductionHypothesis drained).snoc
          simp [History.Undisturbed, forks, drain, collection]
      | _ =>
          contradiction

/-- What is handed out was found by the drain of the same collection. -/
theorem found_of_collected
    {rest : History}
    {jobs : List Job}
    (run :
      Run unique pid unknown (history ++ .collected jobs :: rest) standing) :
    ∃ due,
      JobTable.statusesOf pid jobs = due.toList ∧
        Found unique pid due history := by
  obtain ⟨before, after, earlier, step, -⟩ := run.around
  obtain ⟨due, drained, handed, -⟩ := step.of_collected
  exact ⟨due, handed, earlier.found_of_drained drained⟩

/-- A process in the table was forked. -/
theorem forked_of_inTable
    (run : Run unique pid unknown history standing)
    (inTable : standing.inTable = true) :
    History.Forked pid history := by
  induction run using induction_end with
  | nil =>
      simp [unknown] at inTable
  | @snoc history before event after earlier step inductionHypothesis =>
      cases step with
      | forked =>
          exact ⟨history, [], rfl, by simp⟩
      | ended =>
          contradiction
      | dropped =>
          contradiction
      | changed phase _ watch event status isOpen changed =>
          exact (inductionHypothesis inTable).snoc (Event.of_change? changed).1
      | collected _ watch due jobs handed =>
          simp only [Bool.and_eq_true] at inTable
          exact (inductionHypothesis inTable.1).snoc rfl
      | other _ event apart =>
          exact (inductionHypothesis inTable).snoc (Event.of_not_concerns apart).1
      | _ =>
          exact (inductionHypothesis inTable).snoc rfl

end Standing.Run
end JobShell

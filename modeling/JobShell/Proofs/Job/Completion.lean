import JobShell.Proofs.Job.Background

namespace JobShell

/-!
# From a recorded end to the collection that hands it out

A process in the background with a slot is kept until its end is recorded and
drained; then it is due; then it is handed out; then it is gone, until it is
forked again. Each of these is a condition on the standing of the process that
the events of the next stretch do not change.
-/

/-- No job of the process is handed out as finished. -/
def History.KeptBack (pid : Pid) (history : History) : Prop :=
  ∀ event ∈ history, ∀ status ∈ event.returned pid, status.isFinished = false

/--
The first collection that drains the slots hands the process out, in a state in
which it is finished, and no other collection does.
-/
def History.HandsOut (pid : Pid) (status : Status) (history : History) : Prop :=
  ∃ earlier batch between jobs later,
    history = earlier ++ .drained batch :: between ++ .collected jobs :: later ∧
      (∀ event ∈ earlier, event.isDrain = false) ∧
      History.KeptBack pid earlier ∧
      (∀ event ∈ between,
        event.isDrain = false ∧ event.isCollection = false) ∧
      JobTable.statusesOf pid jobs = [status] ∧
      ∀ event ∈ later, event.returned pid = []

/--
The process got a slot, then its end was recorded, and the history ends with the
first drain after that.
-/
def History.Completed (pid : Pid) (status : Status) (history : History) : Prop :=
  ∃ before mid event own batch between,
    history =
        before ++ .tracked pid true :: mid ++ event :: own ++
          .drained batch :: between ∧
      event.change? pid = some status ∧
      (∀ other ∈ mid ++ own, other.forks pid = false) ∧
      (∀ other ∈ own, other.isDrain = false) ∧
      History.Undisturbed pid between

/-- Once a process has ended, nothing is told of it before it is forked again. -/
def History.EndsOnce (pid : Pid) (history : History) : Prop :=
  ∀ before event between later after,
    history = before ++ event :: between ++ later :: after →
    (event.told? pid).any Status.isFinished = true →
    (∀ other ∈ between, other.forks pid = false) →
    later.told? pid = none

/-- A process of which one thing is told ends once. -/
theorem History.endsOnce_of_count
    {pid : Pid}
    {history : History}
    (single : (history.countP fun event => (event.told? pid).isSome) ≤ 1) :
    History.EndsOnce pid history := by
  rintro before event between later after rfl ends -
  have told : (event.told? pid).isSome = true := by
    cases known : event.told? pid with
    | none =>
        rw [known] at ends
        contradiction
    | some status =>
        rfl
  cases toldLater : later.told? pid with
  | none =>
      rfl
  | some status =>
      simp only [List.countP_append, List.countP_cons, told, toldLater,
        Option.isSome_some, if_true] at single
      omega

namespace Standing

variable
  {unique : Prop}
  {pid : Pid}
  {before after : Standing}
  {event : Event}

/-- The process will be handed out in a state, and its slot is free again. -/
def Leaving (status : Status) : Standing :=
  ⟨.drained (some status), true, none⟩

/-- The process is in no table and no slot. -/
structure Gone (standing : Standing) : Prop where
  isOpen : standing.phase.isOpen = true
  inTable : standing.inTable = false
  watch : standing.watch = none
  due : standing.phase.due = none

/-- A drain that finds a finished process is about to hand it out. -/
theorem Kept.leaving
    {status : Status}
    (kept : Kept (some (some status)) before)
    (finished : status.isFinished = true)
    {batch : List ReapEvent}
    (step : Step unique pid before (.drained batch) after) :
    after = Leaving status := by
  obtain ⟨-, inTable, watched, -⟩ := kept
  obtain ⟨-, rfl⟩ := step.of_drained
  simp [Leaving, inTable, watched, SlotTable.afterDrain, finished]

/-- A process that is about to be handed out waits for that. -/
theorem leaving_step
    {status : Status}
    (step : Step unique pid (Leaving status) event after)
    (uncollected : event.isCollection = false) :
    after = Leaving status ∧ event.isDrain = false := by
  unfold Leaving at step
  cases step with
  | watched phase watch closed =>
      contradiction
  | changed phase inTable watch event found isOpen changed =>
      exact ⟨rfl, (Event.of_change? changed).2.1⟩
  | collected =>
      contradiction
  | other _ event apart =>
      exact ⟨rfl, (Event.of_not_concerns apart).2.1⟩

/-- A finished process is handed out, and is gone. -/
theorem gone_of_collected
    {status : Status}
    (finished : status.isFinished = true)
    {jobs : List Job}
    (step : Step unique pid (Leaving status) (.collected jobs) after) :
    JobTable.statusesOf pid jobs = [status] ∧ Gone after := by
  obtain ⟨due, drained, handed, rfl⟩ := step.of_collected
  obtain rfl := Phase.drained.inj drained
  exact ⟨handed, rfl, by simp [finished], rfl, rfl⟩

/-- A process that is gone is not handed out, until it is forked again. -/
theorem Gone.step
    (gone : Gone before)
    (step : Step unique pid before event after)
    (unforked : event.forks pid = false) :
    Gone after ∧ event.returned pid = [] := by
  obtain ⟨isOpen, inTable, watched, due⟩ := gone
  cases step with
  | forked =>
      simp [Event.forks] at unforked
  | watched phase watch closed =>
      simp [isOpen] at closed
  | changed phase _ watch event status _ changed =>
      obtain ⟨-, -, uncollected⟩ := Event.of_change? changed
      obtain rfl := watched
      exact
        ⟨⟨isOpen, inTable, rfl, due⟩,
          Event.returned_of_not_isCollection uncollected pid⟩
  | drained _ watch events told =>
      obtain rfl := inTable
      obtain rfl := watched
      exact ⟨⟨rfl, rfl, rfl, rfl⟩, rfl⟩
  | collected _ watch found jobs handed =>
      obtain rfl := inTable
      obtain rfl := due
      exact ⟨⟨rfl, rfl, watched, rfl⟩, handed⟩
  | other _ event apart =>
      obtain ⟨-, -, uncollected, -⟩ := Event.of_not_concerns apart
      exact
        ⟨⟨isOpen, inTable, watched, due⟩,
          Event.returned_of_not_isCollection uncollected pid⟩
  | _ =>
      contradiction

variable {start finish : Standing} {history : History}

/-- Until its end is recorded, a process stays and is not handed out as finished. -/
theorem Kept.run
    {mark : Option Status}
    (kept : Kept (some mark) start)
    (unfinished : mark.any Status.isFinished = false)
    (run : Run True pid start history finish)
    (goesOn :
      ∀ event ∈ history, (event.change? pid).any Status.isFinished = false) :
    (∃ mark, Kept (some mark) finish) ∧ history.KeptBack pid := by
  have keeps
      {before after : Standing}
      {event : Event}
      (holds :
        ∃ mark, Kept (some mark) before ∧ mark.any Status.isFinished = false)
      (changes : (event.change? pid).any Status.isFinished = false)
      (step : Step True pid before event after) :
      (∃ mark, Kept (some mark) after ∧ mark.any Status.isFinished = false) ∧
        ∀ status ∈ event.returned pid, status.isFinished = false := by
    obtain ⟨mark, kept, unfinished⟩ := holds
    cases drain : event.isDrain with
    | false =>
        obtain ⟨keptAfter, shown⟩ :=
          kept.step step drain (step.unforked (.inl kept.inTable))
        refine ⟨⟨_, keptAfter, ?_⟩, shown⟩
        cases changed : event.change? pid with
        | none =>
            exact unfinished
        | some status =>
            rwa [changed] at changes
    | true =>
        obtain ⟨batch, rfl⟩ := Event.eq_of_isDrain drain
        have keptAfter : Kept (some none) after := kept.drained step unfinished
        exact ⟨⟨none, keptAfter, rfl⟩, by simp [Event.returned]⟩
  obtain ⟨⟨last, keptLast, -⟩, shown⟩ :=
    run.throughout keeps goesOn ⟨mark, kept, unfinished⟩
  exact ⟨⟨last, keptLast⟩, shown⟩

/-- Until it is drained, a recorded end stays and is not handed out. -/
theorem Kept.run_undrained
    {status : Status}
    (kept : Kept (some (some status)) start)
    (run : Run True pid start history finish)
    (silent :
      ∀ event ∈ history, event.isDrain = false ∧ event.change? pid = none) :
    Kept (some (some status)) finish ∧ history.KeptBack pid := by
  refine run.throughout ?_ silent kept
  rintro before event after kept ⟨undrained, unchanged⟩ step
  have unforked := step.unforked (.inl kept.inTable)
  obtain ⟨-, shown⟩ := kept.step step undrained unforked
  exact ⟨kept.calm step undrained unchanged unforked, shown⟩

/-- Until it is handed out, a process that is due stays so. -/
theorem leaving_run
    {status : Status}
    (run : Run unique pid (Leaving status) history finish)
    (uncollected : ∀ event ∈ history, event.isCollection = false) :
    finish = Leaving status ∧ ∀ event ∈ history, event.isDrain = false := by
  have keeps
      {before after : Standing}
      {event : Event}
      (leaves : before = Leaving status)
      (uncollected : event.isCollection = false)
      (step : Step unique pid before event after) :
      after = Leaving status ∧ event.isDrain = false := by
    subst leaves
    exact leaving_step step uncollected
  exact run.throughout keeps uncollected rfl

/-- Until it is forked again, a process that is gone is not handed out. -/
theorem Gone.run
    (gone : Gone start)
    (run : Run unique pid start history finish)
    (unforked : ∀ event ∈ history, event.forks pid = false) :
    Gone finish ∧ ∀ event ∈ history, event.returned pid = [] :=
  run.throughout (fun gone unforked step => gone.step step unforked)
    unforked gone

/-- With unique numbers, a process in the table is not forked next. -/
theorem eq_nil_of_inTable
    (inTable : start.inTable = true)
    {next : History}
    (run : Run True pid start next finish)
    (cut : ∀ event ∈ next.head?, event.forks pid = true) :
    next = [] ∧ finish = start := by
  cases run with
  | nil =>
      exact ⟨rfl, rfl⟩
  | cons step later =>
      have forks := cut _ rfl
      rw [step.unforked (.inl inTable)] at forks
      contradiction

/--
An end that is recorded waits for the next drain, and the collection of that
drain hands the process out.
-/
theorem Kept.fate
    {status : Status}
    (kept : Kept (some (some status)) start)
    (finished : status.isFinished = true)
    {own next : History}
    (run : Run True pid start (own ++ next) finish)
    (idle : finish.phase = .idle)
    (silent :
      ∀ event ∈ own, event.change? pid = none ∧ event.forks pid = false)
    (cut : ∀ event ∈ next.head?, event.forks pid = true) :
    (next = [] ∧
        (∀ event ∈ own, event.isDrain = false) ∧
        History.KeptBack pid own ∧
        finish.inTable = true ∧ finish.watch = some (some status)) ∨
      (History.HandsOut pid status own ∧
        (next = [] → finish.inTable = false ∧ finish.watch = none)) := by
  obtain ⟨middle, ownRun, nextRun⟩ := Run.append_iff.mp run
  rcases History.first_split Event.isDrain own with
    undrained | ⟨earlier, drain, rest, rfl, isDrain, undrained⟩
  · have quiet :
        ∀ event ∈ own, event.isDrain = false ∧ event.change? pid = none :=
      fun event member => ⟨undrained event member, (silent event member).1⟩
    obtain ⟨keptMiddle, keptBack⟩ := kept.run_undrained ownRun quiet
    obtain ⟨rfl, rfl⟩ := eq_nil_of_inTable keptMiddle.inTable nextRun cut
    exact
      .inl
        ⟨rfl, undrained, keptBack, keptMiddle.inTable, keptMiddle.watch⟩
  · right
    rw [List.forall_mem_append, List.forall_mem_cons] at silent
    obtain ⟨silentEarlier, -, silentRest⟩ := silent
    obtain ⟨beforeDrain, _, earlierRun, step, restRun⟩ := ownRun.around
    have quiet :
        ∀ event ∈ earlier,
          event.isDrain = false ∧ event.change? pid = none :=
      fun event member =>
        ⟨undrained event member, (silentEarlier event member).1⟩
    obtain ⟨keptEarlier, keptBack⟩ := kept.run_undrained earlierRun quiet
    obtain ⟨batch, rfl⟩ := Event.eq_of_isDrain isDrain
    obtain rfl := keptEarlier.leaving finished step
    rcases History.first_split Event.isCollection rest with
      uncollected | ⟨between, collection, later, rfl, isCollection, uncollected⟩
    · obtain ⟨rfl, -⟩ := leaving_run restRun uncollected
      obtain ⟨-, rfl⟩ := eq_nil_of_inTable rfl nextRun cut
      contradiction
    · obtain ⟨jobs, rfl⟩ := Event.eq_of_isCollection isCollection
      obtain ⟨_, _, betweenRun, step, laterRun⟩ := restRun.around
      obtain ⟨rfl, undrainedBetween⟩ := leaving_run betweenRun uncollected
      obtain ⟨handed, gone⟩ := gone_of_collected finished step
      have unforked : ∀ event ∈ later, event.forks pid = false :=
        fun event member => (silentRest event (by simp [member])).2
      obtain ⟨goneLater, silentLater⟩ := gone.run laterRun unforked
      refine
        ⟨⟨earlier, batch, between, jobs, later, by simp, undrained, keptBack,
            fun event member =>
              ⟨undrainedBetween event member, uncollected event member⟩,
            handed, silentLater⟩,
          ?_⟩
      rintro rfl
      cases nextRun with
      | nil =>
          exact ⟨goneLater.inTable, goneLater.watch⟩

/-- What the reaper collects of a process is told of it. -/
theorem Event.told?_of_change?
    {event : Event}
    {status : Status}
    (changed : event.change? pid = some status) :
    event.told? pid = some status := by
  obtain ⟨report, fault, rfl, told⟩ := Event.eq_of_change? changed
  simpa [Event.told?] using told

theorem Event.change?_of_told?
    {event : Event}
    (silent : event.told? pid = none) :
    event.change? pid = none := by
  cases changed : event.change? pid with
  | none =>
      rfl
  | some status =>
      rw [Event.told?_of_change? changed] at silent
      contradiction

/-- The end of a process with a slot is handed out once, and not before. -/
theorem Run.completion
    {before mid own next : History}
    {event : Event}
    {status : Status}
    (run :
      Run True pid unknown
        (before ++ .tracked pid true :: mid ++ event :: own ++ next) finish)
    (idle : finish.phase = .idle)
    (once :
      History.EndsOnce pid
        (before ++ .tracked pid true :: mid ++ event :: own ++ next))
    (ended : event.change? pid = some status)
    (finished : status.isFinished = true)
    (unforked : ∀ other ∈ mid ++ own, other.forks pid = false)
    (cut : ∀ other ∈ next.head?, other.forks pid = true) :
    History.KeptBack pid mid ∧
      ((next = [] ∧
          (∀ other ∈ own, other.isDrain = false) ∧
          History.KeptBack pid own ∧
          finish.inTable = true ∧ finish.watch = some (some status)) ∨
        (History.HandsOut pid status own ∧
          (next = [] → finish.inTable = false ∧ finish.watch = none))) := by
  obtain ⟨unforkedMid, unforkedOwn⟩ := List.forall_mem_append.mp unforked
  have told : event.told? pid = some status := Event.told?_of_change? ended
  -- An earlier end would be the last that is told of the process.
  have goesOn :
      ∀ other ∈ mid, (other.change? pid).any Status.isFinished = false := by
    intro other member
    obtain ⟨first, second, rfl⟩ := List.append_of_mem member
    cases changed : other.change? pid with
    | none =>
        rfl
    | some found =>
        cases ends : found.isFinished with
        | false =>
            exact ends
        | true =>
            have silent : event.told? pid = none := by
              refine
                once (before ++ .tracked pid true :: first) other second event
                  (own ++ next) (by simp) ?_ fun another there => ?_
              · rw [Event.told?_of_change? changed]
                exact ends
              · exact unforkedMid another (by simp [there])
            rw [told] at silent
            contradiction
  have silent :
      ∀ other ∈ own,
        other.change? pid = none ∧ other.forks pid = false := by
    intro other member
    obtain ⟨first, second, rfl⟩ := List.append_of_mem member
    refine ⟨Event.change?_of_told? ?_, unforkedOwn other member⟩
    refine
      once (before ++ .tracked pid true :: mid) event first other
        (second ++ next) (by simp) ?_ fun another there => ?_
    · rw [told]
      exact finished
    · exact unforkedOwn another (by simp [there])
  simp only [List.append_assoc, List.cons_append] at run
  obtain ⟨beforeSlot, _, earlierRun, step, run⟩ := run.around
  have kept := kept_of_granted step
  rw [fresh_of_run earlierRun step.of_granted.1] at kept
  obtain ⟨_, _, midRun, step, run⟩ := run.around
  obtain ⟨⟨mark, keptMid⟩, keptBack⟩ := kept.run rfl midRun goesOn
  obtain ⟨unforkedEnd, undrainedEnd, -⟩ := Event.of_change? ended
  obtain ⟨keptEnd, -⟩ := keptMid.step step undrainedEnd unforkedEnd
  rw [ended] at keptEnd
  exact ⟨keptBack, keptEnd.fate finished run idle silent cut⟩

/-- With unique numbers, a process with a slot is not forked. -/
theorem unforked_of_held
    (held : start.watch.isSome = true)
    (run : Run True pid start history finish)
    (kept : ∀ event ∈ history, event.frees pid = false) :
    ∀ event ∈ history, event.forks pid = false := by
  have keeps
      {before after : Standing}
      {event : Event}
      (held : before.watch.isSome = true)
      (kept : event.frees pid = false)
      (step : Step True pid before event after) :
      after.watch.isSome = true ∧ event.forks pid = false := by
    have unforked := step.unforked (.inr held)
    refine ⟨?_, unforked⟩
    cases step with
    | forked =>
        simp [Event.forks] at unforked
    | watched =>
        rfl
    | changed =>
        simpa using held
    | drained inTable watch events told =>
        simp only [Event.frees, told] at kept
        rcases watch with _ | _ | status
        · contradiction
        · rfl
        · have goesOn : status.isFinished = false := by simpa using kept
          simp [SlotTable.afterDrain, goesOn]
    | _ =>
        exact held
  exact (run.throughout keeps kept held).2

/-- What is handed out as finished has ended while it had a slot. -/
theorem Run.completed
    {rest : History}
    {jobs : List Job}
    {status : Status}
    (run : Run True pid unknown (history ++ .collected jobs :: rest) finish)
    (handed : status ∈ JobTable.statusesOf pid jobs) :
    History.Completed pid status history := by
  obtain ⟨due, states, found⟩ := run.found_of_collected
  rw [states, Option.mem_toList] at handed
  obtain rfl := handed
  obtain ⟨earlier, batch, between, middle, rfl, quiet, earlierRun, -, known⟩ :=
    found
  have marked : middle.watch = some (some status) := by
    split at known
    · exact Option.join_eq_some_iff.mp known.symm
    · contradiction
  obtain ⟨_, event, own, rfl, ⟨before, mid, rfl, keptMid⟩, changed, silent⟩ :=
    (earlierRun.watch_eq_iff status).mp marked
  refine
    ⟨before, mid, event, own, batch, between, by simp, changed, ?_,
      fun other member => (silent other member).1, quiet⟩
  simp only [List.append_assoc, List.cons_append] at earlierRun
  rw [List.append_cons] at earlierRun
  obtain ⟨slotted, slotRun, later⟩ := Run.append_iff.mp earlierRun
  have held : slotted.watch.isSome = true :=
    slotRun.isSome_watch_iff.mpr ⟨before, [], rfl, by simp⟩
  have kept : ∀ other ∈ mid ++ event :: own, other.frees pid = false := by
    refine List.forall_mem_append.mpr ⟨keptMid, ?_⟩
    refine List.forall_mem_cons.mpr ⟨?_, fun other member => ?_⟩
    · exact Event.frees_of_not_isDrain (Event.of_change? changed).2.1 pid
    · exact Event.frees_of_not_isDrain (silent other member).1 pid
  have unforked := unforked_of_held held later kept
  rw [List.forall_mem_append, List.forall_mem_cons] at unforked
  exact List.forall_mem_append.mpr ⟨unforked.1, unforked.2.2⟩

end Standing
end JobShell

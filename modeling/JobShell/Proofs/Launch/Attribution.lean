import JobShell.Proofs.Job.Background
import JobShell.Proofs.Launch.Reached

namespace JobShell

/-!
# Whose change a job is handed out with

A slot is found by the number of its process. When a fork answers with a number
whose slot still holds the change of an earlier process, the new process gets
the slot with the change in it, and the next collection hands the new job out
in a state that it was never in. This happens to no other jobs.
-/

namespace Event

/-- The event may take the job of a process out of the table. -/
def removes (pid : Pid) : Event → Bool
  | .call (.wait child answer) _ =>
      decide (child = pid) && (Settled.outcome? answer).any Status.isFinished
  | .tracked child granted => decide (child = pid) && !granted
  | .collected jobs => (JobTable.statusesOf pid jobs).any Status.isFinished
  | _ => false

/-- Neither a drain, nor a change or a fork of the process. -/
def Calm (pid : Pid) (event : Event) : Prop :=
  event.isDrain = false ∧
    event.change? pid = none ∧ event.forks pid = false

end Event

namespace History

/--
The change was collected after the last fork of the process, and the first drain
after that ends the history.
-/
def Own (pid : Pid) (status : Status) (history : History) : Prop :=
  ∃ before mid event after batch between,
    history =
        before ++ .call (.fork (.parent pid)) none :: mid ++ event :: after ++
          .drained batch :: between ∧
      event.change? pid = some status ∧
      (∀ other ∈ mid ++ after, other.forks pid = false) ∧
      (∀ other ∈ after,
        other.isDrain = false ∧ other.change? pid = none) ∧
      Undisturbed pid between

/--
The change was collected before the last fork of the process, and neither a
drain nor a change of the process came between it and the drain that ends the
history.
-/
def Inherited (pid : Pid) (status : Status) (history : History) : Prop :=
  ∃ before after batch between,
    history =
        before ++ .call (.fork (.parent pid)) none :: after ++
          .drained batch :: between ∧
      Marked pid status before ∧
      (∀ other ∈ after, other.Calm pid) ∧
      Undisturbed pid between

/-- Two events of one history: one is before the other, or they are the same. -/
theorem two_cuts
    {before after beforeToo afterToo : History}
    {event eventToo : Event}
    (same : before ++ event :: after = beforeToo ++ eventToo :: afterToo) :
    (∃ between,
        before = beforeToo ++ eventToo :: between ∧
          afterToo = between ++ event :: after) ∨
      (event = eventToo ∧ after = afterToo) ∨
      ∃ between,
        beforeToo = before ++ event :: between ∧
          after = between ++ eventToo :: afterToo := by
  rcases List.append_eq_append_iff.mp same with
    ⟨between, rfl, rest⟩ | ⟨between, rfl, rest⟩
  · cases between with
    | nil =>
        exact .inr (.inl (List.cons.inj rest))
    | cons first between =>
        obtain ⟨rfl, rfl⟩ := List.cons.inj rest
        exact .inr (.inr ⟨between, rfl, rfl⟩)
  · cases between with
    | nil =>
        obtain ⟨rfl, rfl⟩ := List.cons.inj rest
        exact .inr (.inl ⟨rfl, rfl⟩)
    | cons first between =>
        obtain ⟨rfl, rfl⟩ := List.cons.inj rest
        exact .inl ⟨between, rfl, rfl⟩

/-- A change of its own comes after the last fork of the process. -/
theorem Own.mem_of_forked
    {pid : Pid}
    {status : Status}
    {before after : History}
    (own :
      Own pid status (before ++ .call (.fork (.parent pid)) none :: after))
    (unforked : ∀ event ∈ after, event.forks pid = false) :
    ∃ event ∈ after, event.change? pid = some status := by
  obtain
    ⟨first, mid, event, later, batch, between, split, changed, unforkedOwn, -,
      quiet⟩ := own
  simp only [List.append_assoc, List.cons_append] at split
  rcases two_cuts split with ⟨rest, rfl, same⟩ | ⟨-, rfl⟩ | ⟨rest, rfl, rfl⟩
  · have member :
        Event.call (.fork (.parent pid)) none ∈
          mid ++ event :: (later ++ .drained batch :: between) := by
      rw [same]
      simp
    have forks : (Event.call (.fork (.parent pid)) none).forks pid = true := by
      simp [Event.forks]
    have none :
        ∀ other ∈ mid ++ event :: (later ++ .drained batch :: between),
          other.forks pid = false := by
      obtain ⟨unforkedMid, unforkedLater⟩ := List.forall_mem_append.mp unforkedOwn
      refine List.forall_mem_append.mpr ⟨unforkedMid, ?_⟩
      refine List.forall_mem_cons.mpr ⟨(Event.of_change? changed).1, ?_⟩
      refine List.forall_mem_append.mpr ⟨unforkedLater, ?_⟩
      exact
        List.forall_mem_cons.mpr
          ⟨rfl, fun other member => (quiet other member).2.2⟩
    rw [none _ member] at forks
    contradiction
  · exact ⟨event, by simp, changed⟩
  · have forks := unforked (.call (.fork (.parent pid)) none) (by simp)
    simp [Event.forks] at forks

/-- Events without a drain or a change of the process leave its mark alone. -/
theorem marked_append
    {pid : Pid}
    {status : Status}
    {history later : History}
    (quiet :
      ∀ event ∈ later, event.isDrain = false ∧ event.change? pid = none) :
    Marked pid status (history ++ later) ↔ Marked pid status history := by
  induction later generalizing history with
  | nil =>
      rw [List.append_nil]
  | cons event rest inductionHypothesis =>
      rw [List.forall_mem_cons] at quiet
      obtain ⟨⟨undrained, unchanged⟩, quietRest⟩ := quiet
      rw [List.append_cons, inductionHypothesis quietRest, marked_snoc,
        undrained, unchanged]
      simp

end History

namespace Standing

variable
  {unique : Prop}
  {pid : Pid}
  {start before after finish standing : Standing}
  {event : Event}
  {history : History}

/-- Between its drain and its end, a collection hands out what the drain found. -/
theorem Run.collects
    {batch : List ReapEvent}
    {between rest : History}
    {jobs : List Job}
    (run :
      Run unique pid start
        (.drained batch :: between ++ .collected jobs :: rest) finish)
    (uncollected : ∀ event ∈ between, event.isCollection = false) :
    start.phase = .idle ∧
      JobTable.statusesOf pid jobs =
        (if start.inTable then start.watch.join else none).toList := by
  have keeps
      {due : Option Status}
      {before after : Standing}
      {event : Event}
      (drained : before.phase = .drained due)
      (uncollected : event.isCollection = false)
      (step : Step unique pid before event after) :
      after.phase = .drained due := by
    cases step with
    | watched phase watch closed =>
        obtain rfl : phase = .drained due := drained
        contradiction
    | changed =>
        exact drained
    | other =>
        exact drained
    | _ =>
        contradiction
  cases run with
  | cons drains later =>
      obtain ⟨idle, rfl⟩ := drains.of_drained
      obtain ⟨_, _, betweenRun, collects, -⟩ := later.around
      obtain ⟨due, drained, handed, -⟩ := collects.of_collected
      have found := betweenRun.invariant keeps uncollected rfl
      obtain rfl := Phase.drained.inj (found.symm.trans drained)
      exact ⟨idle, handed⟩

/-- A job is handed out with a change of its own, or with an inherited one. -/
theorem Run.attributed
    {rest : History}
    {jobs : List Job}
    {status : Status}
    (run :
      Run unique pid unknown (history ++ .collected jobs :: rest) finish)
    (handed : status ∈ JobTable.statusesOf pid jobs) :
    History.Own pid status history ∨ History.Inherited pid status history := by
  obtain ⟨due, states, found⟩ := run.found_of_collected
  rw [states, Option.mem_toList] at handed
  obtain rfl := handed
  obtain ⟨earlier, batch, between, middle, rfl, quiet, earlierRun, -, known⟩ :=
    found
  split at known
  · rename_i inTable
    have watched : middle.watch = some (some status) :=
      Option.join_eq_some_iff.mp known.symm
    obtain ⟨first, after, rfl, unforked⟩ := earlierRun.forked_of_inTable inTable
    obtain ⟨prior, event, own, split, held, changed, silent⟩ :=
      (earlierRun.watch_eq_iff status).mp watched
    rcases History.two_cuts split with
      ⟨mid, rfl, rfl⟩ | ⟨same, -⟩ | ⟨mid, rfl, rfl⟩
    · right
      rw [List.forall_mem_append, List.forall_mem_cons] at silent
      obtain ⟨silentMid, -, silentAfter⟩ := silent
      refine
        ⟨_, after, batch, between, by simp,
          ⟨prior, event, mid, rfl, held, changed, silentMid⟩,
          fun other member => ?_, quiet⟩
      obtain ⟨undrained, unchanged⟩ := silentAfter other member
      exact ⟨undrained, unchanged, unforked other member⟩
    · subst same
      contradiction
    · left
      rw [List.forall_mem_append, List.forall_mem_cons] at unforked
      exact
        ⟨first, mid, event, own, batch, between, by simp, changed,
          List.forall_mem_append.mpr ⟨unforked.1, unforked.2.2⟩, silent,
          quiet⟩
  · contradiction

/-- A mark stays until a drain or another change. -/
theorem watch_of_quiet
    {mark : Option Status}
    (marked : before.watch = some mark)
    (undrained : event.isDrain = false)
    (unchanged : event.change? pid = none)
    (step : Step unique pid before event after) :
    after.watch = some mark := by
  cases step with
  | watched phase watch closed =>
      obtain rfl := marked
      rfl
  | changed phase inTable watch event status isOpen changed =>
      rw [changed] at unchanged
      contradiction
  | drained =>
      contradiction
  | _ =>
      exact marked

/-- The process is marked, and is not left in the background. -/
structure Waited (mark : Option Status) (standing : Standing) : Prop where
  watch : standing.watch = some mark
  inTable : standing.phase.isOpen = true → standing.inTable = false

theorem waited_of_forked
    {mark : Option Status}
    (marked : before.watch = some mark)
    (step :
      Step unique pid before (.call (.fork (.parent pid)) none) after) :
    Waited mark after := by
  obtain ⟨-, rfl⟩ := step.of_forked
  exact ⟨marked, by simp [Phase.isOpen]⟩

theorem Waited.step
    {mark : Option Status}
    (waited : Waited mark before)
    (calm : event.Calm pid)
    (ungranted : event ≠ .tracked pid true)
    (step : Step unique pid before event after) :
    Waited mark after := by
  obtain ⟨marked, gone⟩ := waited
  obtain ⟨undrained, unchanged, unforked⟩ := calm
  refine ⟨watch_of_quiet marked undrained unchanged step, ?_⟩
  cases step with
  | forked =>
      simp [Event.forks] at unforked
  | watched =>
      contradiction
  | unwatched =>
      contradiction
  | changed phase inTable watch event status isOpen changed =>
      rw [changed] at unchanged
      contradiction
  | drained =>
      exact fun _ => gone rfl
  | collected inTable watch due jobs handed =>
      intro _
      have absent : inTable = false := gone rfl
      simp [absent]
  | other =>
      exact gone
  | _ =>
      simp [Phase.isOpen]

/--
A process of which nothing was told between its fork and a drain is found by the
drain in the state that its slot was marked with at the fork, if it got a slot.
-/
theorem Run.inherits_iff
    {earlier mid : History}
    {status : Status}
    (run :
      Run unique pid unknown
        (earlier ++ .call (.fork (.parent pid)) none :: mid) finish)
    (calm : ∀ event ∈ mid, event.Calm pid)
    (idle : finish.phase = .idle) :
    (finish.inTable = true ∧ finish.watch = some (some status)) ↔
      History.Marked pid status earlier ∧ .tracked pid true ∈ mid := by
  have quiet :
      ∀ event ∈ Event.call (.fork (.parent pid)) none :: mid,
        event.isDrain = false ∧ event.change? pid = none := by
    refine List.forall_mem_cons.mpr ⟨⟨rfl, rfl⟩, fun event member => ?_⟩
    obtain ⟨undrained, unchanged, -⟩ := calm event member
    exact ⟨undrained, unchanged⟩
  obtain ⟨atFork, forked, earlierRun, step, midRun⟩ := run.around
  rw [run.watch_eq_iff, History.marked_append quiet,
    ← earlierRun.watch_eq_iff, and_comm]
  refine and_congr_right fun marked => ?_
  have waited : Waited (some status) forked := waited_of_forked marked step
  constructor
  · intro inTable
    by_cases granted : .tracked pid true ∈ mid
    · exact granted
    · have keeps
          {before after : Standing}
          {event : Event}
          (waited : Waited (some status) before)
          (ungranted : event.Calm pid ∧ event ≠ .tracked pid true)
          (step : Step unique pid before event after) :
          Waited (some status) after :=
        waited.step ungranted.1 ungranted.2 step
      have atEnd : Waited (some status) finish :=
        midRun.invariant keeps
          (fun event member =>
            ⟨calm event member, fun same => granted (same ▸ member)⟩)
          waited
      rw [atEnd.inTable (by rw [idle]; rfl)] at inTable
      contradiction
  · intro granted
    obtain ⟨first, second, rfl⟩ := List.append_of_mem granted
    rw [List.forall_mem_append, List.forall_mem_cons] at calm
    obtain ⟨calmFirst, -, calmSecond⟩ := calm
    obtain ⟨_, _, firstRun, tracks, secondRun⟩ := midRun.around
    have watched :=
      firstRun.invariant
        (fun marked (calm : Event.Calm pid _) step =>
          watch_of_quiet marked calm.1 calm.2.1 step)
        calmFirst waited.watch
    have kept := kept_of_granted tracks
    rw [watched] at kept
    have keeps
        {before after : Standing}
        {event : Event}
        (kept : Kept (some (some status)) before)
        (calm : event.Calm pid)
        (step : Step unique pid before event after) :
        Kept (some (some status)) after :=
      kept.calm step calm.1 calm.2.1 calm.2.2
    exact (secondRun.invariant keeps calmSecond kept).inTable

/-- A job leaves the table only by an event that may take it out. -/
theorem inTable_step
    (inTable : before.inTable = true)
    (stays : event.removes pid = false)
    (step : Step unique pid before event after) :
    after.inTable = true := by
  cases step with
  | ended watch answer status settles finished =>
      simp [Event.removes, settles, finished] at stays
  | dropped =>
      simp [Event.removes] at stays
  | collected _ watch due jobs handed =>
      obtain rfl := inTable
      simp only [Event.removes, handed] at stays
      cases due with
      | none =>
          rfl
      | some status =>
          have goesOn : status.isFinished = false := by simpa using stays
          simp [goesOn]
  | changed =>
      exact inTable
  | drained =>
      exact inTable
  | other =>
      exact inTable
  | _ =>
      rfl

/-- A process that was forked and is not in the table was taken out. -/
theorem Run.removed
    {earlier later : History}
    (run :
      Run unique pid unknown
        (earlier ++ .call (.fork (.parent pid)) none :: later) finish)
    (absent : finish.inTable = false) :
    ∃ event ∈ later, event.removes pid = true := by
  obtain ⟨_, forked, -, step, laterRun⟩ := run.around
  have entered : forked.inTable = true := by rw [step.of_forked.2]
  rcases History.first_split (Event.removes pid) later with
    stays | ⟨_, event, _, rfl, removes, -⟩
  · have inTable := laterRun.invariant inTable_step stays entered
    rw [absent] at inTable
    contradiction
  · exact ⟨event, by simp, removes⟩

end Standing
namespace Shell

/-- What a collection returns is what its last event hands out. -/
theorem collect_history
    {before after : Shell}
    {jobs : List Job}
    (ran : collect before = (jobs, after)) :
    jobs = [] ∨ ∃ history, after.host.history = history ++ [.collected jobs] := by
  cases collect_collected ran with
  | notBlocked =>
      exact .inl rfl
  | handedOut previous blocked jobs blocking handed =>
      exact .inr ⟨(emptied previous blocked).history, rfl⟩

/--
In a reached shell, a job is handed out with a change that was collected after
its own fork, or with one that its slot was marked with at the fork. It is handed
out with such an inherited change exactly if it got a slot and nothing else was
told of it before the drain. A job leaves the table only by an event after its
own fork: its wait, the refusal of a slot, or a collection that hands it out.
-/
theorem reached_attributions
    {unique : Prop}
    {shell : Shell}
    (reached : Reached unique shell)
    {pid : Pid}
    (valid : pid ≠ 0) :
    (∀ history jobs rest status,
      shell.host.history = history ++ .collected jobs :: rest →
      status ∈ JobTable.statusesOf pid jobs →
      History.Own pid status history ∨ History.Inherited pid status history) ∧
      (∀ before mid batch between jobs rest status,
        shell.host.history =
            before ++ .call (.fork (.parent pid)) none :: mid ++
              .drained batch :: between ++ .collected jobs :: rest →
        (∀ event ∈ mid, event.Calm pid) →
        (∀ event ∈ between, event.isCollection = false) →
        (status ∈ JobTable.statusesOf pid jobs ↔
          History.Marked pid status before ∧ .tracked pid true ∈ mid)) ∧
      (∀ before after,
        shell.host.history =
            before ++ .call (.fork (.parent pid)) none :: after →
        shell.jobs.get? pid = none →
        ∃ event ∈ after, event.removes pid = true) ∧
      ∀ jobs after,
        collect shell = (jobs, after) →
        jobs = [] ∨
          ∃ history, after.host.history = history ++ [.collected jobs] := by
  have run := reached.run valid
  refine ⟨?_, ?_, ?_, fun jobs after ran => collect_history ran⟩
  · intro history jobs rest status split handed
    rw [split] at run
    exact run.attributed handed
  · intro before mid batch between jobs rest status split calm uncollected
    rw [split, List.append_assoc, List.append_assoc] at run
    rw [← List.append_assoc] at run
    obtain ⟨atDrain, earlier, later⟩ := Standing.Run.append_iff.mp run
    obtain ⟨idle, handed⟩ := later.collects uncollected
    rw [handed, Option.mem_toList, ← earlier.inherits_iff calm idle]
    cases atDrain.inTable <;> simp [Option.join_eq_some_iff]
  · intro before after split absent
    rw [split] at run
    refine run.removed ?_
    change (shell.jobs.get? pid).isSome = false
    rw [absent]
    rfl

/--
A shell whose second child has the number of the first, which exited and was not
collected yet when the second was forked.
-/
def reusing : Shell :=
  (play? false
    { host :=
        { handling := .reaper
          script := { forks := [.parent 301, .parent 301] } } }
    [.start true, .signal [⟨301, .ok (.exited 5)⟩], .start true, .collect]).get
    (by decide +kernel)

theorem reusing_reached : Reached False reusing :=
  Reached.of_play? (fun impossible => impossible.elim)
    (.fresh
      { handling := .reaper
        script := { forks := [.parent 301, .parent 301] } } rfl rfl)
    (Option.some_get _).symm

/-- The jobs that the shell handed out. -/
def reused : List Job :=
  reusing.host.history.getLast?.elim [] fun event =>
    match event with
    | .collected jobs => jobs
    | _ => []

theorem reusing_split :
    reusing.host.history =
      reusing.host.history.take 20 ++ .collected reused :: [] := by
  rfl

theorem reused_status : .done 5 ∈ JobTable.statusesOf 301 reused := by
  decide +kernel

/-- Nothing was told of the second child. -/
theorem reusing_not_own :
    ¬History.Own 301 (.done 5) (reusing.host.history.take 20) := by
  have split :
      reusing.host.history.take 20 =
        reusing.host.history.take 12 ++ .call (.fork (.parent 301)) none ::
          (reusing.host.history.take 20).drop 13 := by
    rfl
  have later :
      ∀ event ∈ (reusing.host.history.take 20).drop 13,
        event.forks 301 = false ∧ event.change? 301 = none := by
    decide +kernel
  intro own
  rw [split] at own
  obtain ⟨event, member, changed⟩ :=
    own.mem_of_forked fun event member => (later event member).1
  rw [(later event member).2] at changed
  contradiction

/-- A job that is handed out with the exit of an earlier process. -/
theorem reached_attributions_reusing :
    Reached False reusing ∧
      (301 : Pid) ≠ 0 ∧
      .done 5 ∈ JobTable.statusesOf 301 reused ∧
      History.Inherited 301 (.done 5) (reusing.host.history.take 20) := by
  have valid : (301 : Pid) ≠ 0 := by decide
  obtain ⟨attributed, -⟩ := reached_attributions reusing_reached valid
  rcases attributed _ _ _ _ reusing_split reused_status with own | inherited
  · exact absurd own reusing_not_own
  · exact ⟨reusing_reached, valid, reused_status, inherited⟩

/-- Not every job is handed out with a change of its own. -/
theorem not_all_own :
    ¬∀ shell,
      Reached False shell →
      ∀ pid,
        pid ≠ 0 →
        ∀ history jobs rest status,
          shell.host.history = history ++ .collected jobs :: rest →
          status ∈ JobTable.statusesOf pid jobs →
          History.Own pid status history := by
  intro all
  have own :=
    all reusing reusing_reached 301 (by decide) _ _ _ _ reusing_split
      reused_status
  exact reusing_not_own own

end Shell
end JobShell

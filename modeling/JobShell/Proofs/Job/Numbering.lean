import JobShell.Proofs.Job.Order
import Mathlib.Data.List.Infix
import Mathlib.Order.Bounds.Defs

namespace JobShell

/-!
# Job numbers

A job that is added gets the least positive number that no job of the table has.
Counting up to it ends in any table, since jobs have no more numbers than there
are jobs: the search makes at most one test more than that. As long as no live
process is added once more, the processes of the table are those added and not
removed since, so a job's number never exceeds the jobs there are once it is
added, and the job keeps it until its process is removed. A live process added
again takes the place of its old job only after the number is chosen, which may
then exceed the jobs by one.
-/

namespace JobTable

/-- The positive numbers that no job of the table has. -/
def free (table : JobTable) : Set Nat :=
  {number | 1 ≤ number ∧ ∀ job ∈ table.jobs, job.index ≠ number}

/--
Counting up from a candidate while some job has it ends at a number after some
tests. No bound is set to the counting.
-/
inductive CountsUp (table : JobTable) : Nat → Nat → Nat → Prop where
  | stops
      {candidate : Nat}
      (unused : ∀ job ∈ table.jobs, job.index ≠ candidate) :
      CountsUp table candidate 1 candidate
  | goesOn
      {candidate tests found : Nat}
      (used : ∃ job ∈ table.jobs, job.index = candidate)
      (later : CountsUp table (candidate + 1) tests found) :
      CountsUp table candidate (tests + 1) found

variable {table : JobTable}

/-- Counting up ends in one way only. -/
theorem CountsUp.unique
    {candidate tests found otherTests other : Nat}
    (first : CountsUp table candidate tests found)
    (second : CountsUp table candidate otherTests other) :
    otherTests = tests ∧ other = found := by
  induction first generalizing otherTests with
  | stops unused =>
      cases second with
      | stops =>
          exact ⟨rfl, rfl⟩
      | goesOn used =>
          obtain ⟨job, member, same⟩ := used
          exact absurd same (unused job member)
  | goesOn used _ inductionHypothesis =>
      cases second with
      | stops unused =>
          obtain ⟨job, member, same⟩ := used
          exact absurd same (unused job member)
      | goesOn _ later =>
          obtain ⟨rfl, rfl⟩ := inductionHypothesis later
          exact ⟨rfl, rfl⟩

/-- Past numbers in use, counting up ends at the first that is free. -/
theorem countsUp_of_first
    {candidate distance : Nat}
    (passed :
      ∀ number, candidate ≤ number → number < candidate + distance →
        ∃ job ∈ table.jobs, job.index = number)
    (unused : ∀ job ∈ table.jobs, job.index ≠ candidate + distance) :
    CountsUp table candidate (distance + 1) (candidate + distance) := by
  induction distance generalizing candidate with
  | zero =>
      exact .stops unused
  | succ distance inductionHypothesis =>
      have step : candidate + (distance + 1) = candidate + 1 + distance := by
        omega
      rw [step] at passed unused ⊢
      refine .goesOn (passed candidate le_rfl (by omega)) ?_
      apply inductionHypothesis _ unused
      exact fun number later => passed number (Nat.le_of_succ_le later)

theorem leastFree_le (used : List Nat) (tests candidate : Nat) :
    leastFree used tests candidate ≤ candidate + tests := by
  induction tests generalizing candidate with
  | zero =>
      exact le_rfl
  | succ tests inductionHypothesis =>
      rw [leastFree]
      split
      · have later := inductionHypothesis (candidate + 1)
        omega
      · omega

/-- Every positive number below the next index is in use. -/
theorem used_of_lt_freeIndex
    {number : Nat}
    (positive : 1 ≤ number)
    (below : number < table.freeIndex) :
    ∃ job ∈ table.jobs, job.index = number :=
  List.mem_map.mp (mem_of_lt_leastFree positive below)

theorem freeIndex_isLeast (table : JobTable) :
    IsLeast table.free table.freeIndex := by
  refine ⟨table.freeIndex_free, ?_⟩
  rintro number ⟨positive, unused⟩
  by_contra above
  obtain ⟨job, member, same⟩ :=
    used_of_lt_freeIndex positive (Nat.lt_of_not_le above)
  exact unused job member same

theorem freeIndex_le (table : JobTable) :
    table.freeIndex ≤ table.jobs.length + 1 := by
  have bound := leastFree_le (table.jobs.map Job.index) table.entries.length 1
  rw [freeIndex, jobs, List.length_map]
  rw [jobs] at bound
  omega

/-- Counting up from one finds the next index, in as many tests. -/
theorem countsUp_freeIndex (table : JobTable) :
    CountsUp table 1 table.freeIndex table.freeIndex := by
  obtain ⟨positive, unused⟩ := table.freeIndex_free
  obtain ⟨distance, reached⟩ := Nat.exists_eq_add_of_le positive
  have counts : CountsUp table 1 (distance + 1) (1 + distance) := by
    rw [reached] at unused
    apply countsUp_of_first _ unused
    exact fun number from_one below =>
      used_of_lt_freeIndex from_one (reached ▸ below)
  rwa [Nat.add_comm distance 1, ← reached] at counts

/-- A change of what a table holds. -/
inductive Edit where
  | add (descriptor : Descriptor)
  | remove (pid : Pid)
  deriving DecidableEq, Repr

/-- The table after an edit. -/
def edit (table : JobTable) : Edit → JobTable
  | .add descriptor => (table.add descriptor).2
  | .remove pid => (table.remove pid).2

/-- The table after edits one after the other. -/
def edited (table : JobTable) (edits : List Edit) : JobTable :=
  edits.foldl edit table

/-- The live processes after an edit. -/
def Edit.alive (pids : List Pid) : Edit → List Pid
  | .add descriptor => pids ++ descriptor.pid.toList
  | .remove pid => pids.filter (· ≠ pid)

/-- The processes added and not removed since, once for each addition. -/
def live (edits : List Edit) : List Pid :=
  edits.foldl Edit.alive []

/-- At no time is a process live twice. -/
def DistinctLive (edits : List Edit) : Prop :=
  ∀ earlier, earlier <+: edits → (live earlier).Nodup

instance (edits : List Edit) : Decidable (DistinctLive edits) :=
  decidable_of_iff (∀ earlier ∈ edits.inits, (live earlier).Nodup)
    (by simp [DistinctLive, List.mem_inits])

theorem DistinctLive.of_append
    {earlier later : List Edit}
    (distinct : DistinctLive (earlier ++ later)) :
    DistinctLive earlier :=
  fun first isPrefix =>
    distinct first (isPrefix.trans (List.prefix_append earlier later))

theorem edited_append (earlier later : List Edit) :
    table.edited (earlier ++ later) = (table.edited earlier).edited later :=
  List.foldl_append

theorem live_snoc (earlier : List Edit) (last : Edit) :
    live (earlier ++ [last]) = last.alive (live earlier) :=
  List.foldl_append

/-- The processes of the table. -/
def processes (table : JobTable) : List Pid :=
  table.entries.map Prod.fst

/-- A process that is live only once when it is added was not in the table. -/
theorem absent_of_alive
    {descriptor : Descriptor}
    {pid : Pid}
    (numbered : descriptor.pid = some pid)
    (distinct : ((Edit.add descriptor).alive table.processes).Nodup) :
    table.get? pid = none := by
  rw [Edit.alive, numbered] at distinct
  have apart := (List.nodup_append.mp distinct).2.2
  exact get?_eq_none_iff.mpr fun member => apart pid member pid (by simp) rfl

theorem length_jobs_add
    {descriptor : Descriptor}
    {pid : Pid}
    (numbered : descriptor.pid = some pid)
    (absent : table.get? pid = none) :
    (table.add descriptor).2.jobs.length = table.jobs.length + 1 := by
  simp [add, numbered, jobs, entries_put_of_absent absent]

/-- One edit changes the processes of a table as it changes the live ones. -/
theorem processes_edit
    {change : Edit}
    (distinct : (change.alive table.processes).Nodup) :
    (table.edit change).processes = change.alive table.processes := by
  cases change with
  | add descriptor =>
      cases numbered : descriptor.pid with
      | none =>
          simp [edit, add, Edit.alive, numbered]
      | some pid =>
          have absent := absent_of_alive numbered distinct
          simp [edit, add, Edit.alive, processes, numbered,
            entries_put_of_absent absent]
  | remove pid =>
      simp [edit, remove, Edit.alive, processes, List.filter_map,
        Function.comp_def]

/-- A new table that was edited holds the live processes. -/
theorem processes_edited
    {edits : List Edit}
    (distinct : DistinctLive edits) :
    (edited {} edits).processes = live edits := by
  induction edits using List.reverseRecOn with
  | nil =>
      rfl
  | append_singleton earlier last inductionHypothesis =>
      have same := inductionHypothesis distinct.of_append
      have after := distinct _ List.prefix_rfl
      rw [live_snoc, ← same] at after ⊢
      rw [edited_append]
      exact processes_edit after

/-- An edit leaves no process of the edited table live twice. -/
theorem DistinctLive.alive
    {earlier : List Edit}
    {last : Edit}
    (distinct : DistinctLive (earlier ++ [last])) :
    (last.alive (edited {} earlier).processes).Nodup := by
  have after := distinct _ List.prefix_rfl
  rwa [live_snoc, ← processes_edited distinct.of_append] at after

/-- A job stays as it is in an edit that does not remove its process. -/
theorem get?_edit
    {change : Edit}
    (distinct : (change.alive table.processes).Nodup)
    {pid : Pid}
    {job : Job}
    (found : table.get? pid = some job)
    (unremoved : change ≠ .remove pid) :
    (table.edit change).get? pid = some job := by
  cases change with
  | add descriptor =>
      cases numbered : descriptor.pid with
      | none =>
          simpa [edit, add, numbered] using found
      | some other =>
          have absent := absent_of_alive numbered distinct
          have different : pid ≠ other := by
            rintro rfl
            simp [absent] at found
          rw [edit, get?_add table numbered, if_neg different, found]
  | remove other =>
      have different : pid ≠ other := fun same => unremoved (same ▸ rfl)
      rw [edit, get?_remove, if_neg different, found]

theorem get?_edited
    {earlier later : List Edit}
    (distinct : DistinctLive (earlier ++ later))
    {pid : Pid}
    {job : Job}
    (found : (edited {} earlier).get? pid = some job)
    (unremoved : .remove pid ∉ later) :
    (edited {} (earlier ++ later)).get? pid = some job := by
  induction later using List.reverseRecOn with
  | nil =>
      rwa [List.append_nil]
  | append_singleton between last inductionHypothesis =>
      rw [← List.append_assoc] at distinct ⊢
      simp only [List.mem_append, List.mem_singleton, not_or] at unremoved
      obtain ⟨unremoved, kept⟩ := unremoved
      rw [edited_append]
      apply get?_edit distinct.alive _ (Ne.symm kept)
      exact inductionHypothesis distinct.of_append unremoved

/--
A process that is added to a table gets a number: the least that is free then,
and at most the jobs there are with the new one. It has this number as long as
later edits do not remove it.
-/
structure Numbered
    (table : JobTable)
    (descriptor : Descriptor)
    (later : List Edit)
    (pid : Pid)
    (number : Nat) :
    Prop where
  answer : (table.add descriptor).1 = some number
  least : IsLeast table.free number
  within : number ≤ (table.add descriptor).2.jobs.length
  kept :
    ∀ between,
      between <+: later →
      .remove pid ∉ between →
      ((table.add descriptor).2.edited between).get? pid =
        some ⟨number, descriptor, .running⟩

/--
In any table counting up from one ends, in one way, after at most one test more
than there are jobs, with the least positive number that no job has. Of a table
that was new, whatever was added and removed since, every job that is added gets
this number, which is at most the number of jobs once it is added.
-/
theorem edited_smallestFree :
    (∀ table : JobTable,
      IsLeast table.free table.freeIndex ∧
        table.freeIndex ≤ table.jobs.length + 1 ∧
        ∀ tests found,
          CountsUp table 1 tests found ↔
            tests = table.freeIndex ∧ found = table.freeIndex) ∧
      ∀ edits : List Edit,
        DistinctLive edits →
        ∀ earlier descriptor later pid,
          edits = earlier ++ .add descriptor :: later →
          descriptor.pid = some pid →
          ∃ number,
            Numbered (edited {} earlier) descriptor later pid number := by
  refine ⟨fun table => ⟨table.freeIndex_isLeast, table.freeIndex_le, ?_⟩, ?_⟩
  · intro tests found
    refine ⟨table.countsUp_freeIndex.unique, ?_⟩
    rintro ⟨rfl, rfl⟩
    exact table.countsUp_freeIndex
  · rintro edits distinct earlier descriptor later pid rfl numbered
    rw [List.append_cons] at distinct
    -- The new job takes no other's place, so there is one job more than before.
    have absent := absent_of_alive numbered distinct.of_append.alive
    refine
      ⟨(edited {} earlier).freeIndex,
        { answer := by rw [add, numbered]
          least := freeIndex_isLeast _
          within := ?_
          kept := ?_ }⟩
    · rw [length_jobs_add numbered absent]
      exact freeIndex_le _
    · rintro between ⟨rest, rfl⟩ unremoved
      rw [← List.append_assoc] at distinct
      have added :
          (edited {} (earlier ++ [.add descriptor])).get? pid =
            some ⟨(edited {} earlier).freeIndex, descriptor, .running⟩ := by
        rw [edited_append]
        exact (get?_add _ numbered pid).trans (if_pos rfl)
      have still := get?_edited distinct.of_append added unremoved
      rwa [edited_append, edited_append] at still

/-- A process that was started in the background. -/
def sleeper (pid : Pid) : Descriptor :=
  { program := Utf8.ofString "/bin/sleep"
    arguments := ["sleep".toList, "5".toList]
    redirection := none
    background := true
    pid := some pid
    group := some pid }

/-- Three processes, of which the second has ended. -/
def gapped : List Edit :=
  [.add (sleeper 101), .add (sleeper 102), .add (sleeper 103), .remove 102]

/-- The number that became free is given again, and kept when the first job ends. -/
theorem edited_smallestFree_gapped :
    DistinctLive (gapped ++ .add (sleeper 104) :: [.remove 101]) ∧
      (edited {} gapped).jobs.map Job.index = [1, 3] ∧
      CountsUp (edited {} gapped) 1 2 2 ∧
      Numbered (edited {} gapped) (sleeper 104) [.remove 101] 104 2 := by
  have distinct :
      DistinctLive (gapped ++ .add (sleeper 104) :: [.remove 101]) := by
    decide
  obtain ⟨searched, given⟩ := edited_smallestFree
  obtain ⟨-, -, counts⟩ := searched (edited {} gapped)
  obtain ⟨number, numbered⟩ :=
    given _ distinct gapped (sleeper 104) [.remove 101] 104 rfl rfl
  obtain rfl : 2 = number := Option.some.inj numbered.answer
  exact
    ⟨distinct, by decide, (counts 2 2).mpr ⟨by decide, by decide⟩, numbered⟩

/-- A live process that is added again has a number beyond the jobs there are. -/
example :
    (edited {} [.add (sleeper 101), .add (sleeper 101)]).jobs.map Job.index =
      [2] := by
  decide

end JobTable
end JobShell

import JobShell.Proofs.Job.Table
import Mathlib.Data.List.Nodup

namespace JobShell

/-!
# Tables in order

A table is in order when each job stands once under its own process and group,
with a positive index that no other job has, and is not over. Every operation
keeps that, also for a process that is in the table already. An update decides
whether a job of the foreground leaves the table or joins the background, and
what updates of different processes hand out has different indexes.
-/

/-- What the table says about a job under a process number. -/
structure Job.Stands (key : Pid) (job : Job) : Prop where
  pid : job.descriptor.pid = some key
  group : job.descriptor.group = some key
  positive : 1 ≤ job.index
  unfinished : job.status.isFinished = false

/-- A job in a new state; one that stops is in the background. -/
def Job.turned (status : Status) (job : Job) : Job :=
  match status with
  | .stopped _ =>
      { job with
        status := status
        descriptor := { job.descriptor with background := true } }
  | _ => { job with status := status }

theorem Job.turned_index (status : Status) (job : Job) :
    (job.turned status).index = job.index := by
  cases status <;> rfl

theorem Job.turned_isBackground
    (status : Status)
    {job : Job}
    (background : job.isBackground = true) :
    (job.turned status).isBackground = true := by
  cases status with
  | stopped signal =>
      rfl
  | _ =>
      exact background

namespace JobTable

section LeastFree

variable {used : List Nat}

theorem le_leastFree (tests candidate : Nat) :
    candidate ≤ leastFree used tests candidate := by
  induction tests generalizing candidate with
  | zero =>
      exact Nat.le_refl _
  | succ tests inductionHypothesis =>
      rw [leastFree]
      split
      · exact Nat.le_of_succ_le (inductionHypothesis (candidate + 1))
      · exact Nat.le_refl _

/-- Every number that the search passes is used. -/
theorem mem_of_lt_leastFree
    {tests candidate number : Nat}
    (from_candidate : candidate ≤ number)
    (passed : number < leastFree used tests candidate) :
    number ∈ used := by
  induction tests generalizing candidate with
  | zero =>
      rw [leastFree] at passed
      omega
  | succ tests inductionHypothesis =>
      rw [leastFree] at passed
      split at passed
      · rename_i isUsed
        rcases Nat.eq_or_lt_of_le from_candidate with rfl | later
        · exact isUsed
        · exact inductionHypothesis later passed
      · omega

/-- The search ends with a used number only after all its tests. -/
theorem leastFree_of_mem
    {tests candidate : Nat}
    (isUsed : leastFree used tests candidate ∈ used) :
    leastFree used tests candidate = candidate + tests := by
  induction tests generalizing candidate with
  | zero =>
      rfl
  | succ tests inductionHypothesis =>
      rw [leastFree] at isUsed ⊢
      split
      · rename_i first
        rw [if_pos first] at isUsed
        have last := inductionHypothesis isUsed
        omega
      · rename_i first
        rw [if_neg first] at isUsed
        exact absurd isUsed first

/-- With a test for each used number the search finds one that is free. -/
theorem leastFree_not_mem
    {tests : Nat}
    (enough : used.length ≤ tests)
    (candidate : Nat) :
    leastFree used tests candidate ∉ used := by
  intro isUsed
  have last := leastFree_of_mem isUsed
  have allUsed : List.range' candidate (tests + 1) ⊆ used := by
    intro number member
    obtain ⟨lower, upper⟩ := List.mem_range'_1.mp member
    by_cases final : number = candidate + tests
    · rw [final, ← last]
      exact isUsed
    · have earlier : number < leastFree used tests candidate := by
        omega
      exact mem_of_lt_leastFree lower earlier
  have distinct : (List.range' candidate (tests + 1)).Nodup :=
    List.nodup_range' 1
  have lengths := distinct.length_le_of_subset allUsed
  rw [List.length_range'] at lengths
  omega

end LeastFree

/-- The next index is positive, and no job has it. -/
theorem freeIndex_free (table : JobTable) :
    1 ≤ table.freeIndex ∧
      ∀ job ∈ table.jobs, job.index ≠ table.freeIndex := by
  refine ⟨le_leastFree _ _, fun job member same => ?_⟩
  have free :
      table.freeIndex ∉ table.jobs.map Job.index :=
    leastFree_not_mem (by simp [jobs]) 1
  exact free (same ▸ List.mem_map_of_mem member)

/-- Each job stands once under its own process, and no index is used twice. -/
structure Ordered (table : JobTable) : Prop where
  keys : (table.entries.map Prod.fst).Nodup
  stands : ∀ entry ∈ table.entries, entry.2.Stands entry.1
  indexes : (table.jobs.map Job.index).Nodup

/-- A table in order with jobs of the background only. -/
structure Orderly (table : JobTable) : Prop extends table.Ordered where
  background : ∀ entry ∈ table.entries, entry.2.isBackground = true

variable {table : JobTable}

theorem mem_put {pid : Pid} {job : Job} {entry : Pid × Job} :
    entry ∈ (table.put pid job).entries ↔
      (entry ∈ table.entries ∧ entry.1 ≠ pid) ∨ entry = (pid, job) := by
  simp [put]

theorem mem_remove {pid : Pid} {entry : Pid × Job} :
    entry ∈ (table.remove pid).2.entries ↔
      entry ∈ table.entries ∧ entry.1 ≠ pid := by
  simp [remove]

theorem empty_orderly : Orderly {} where
  keys := .nil
  stands := by simp
  indexes := .nil
  background := by simp

/-- Two entries with one index are one entry. -/
theorem Ordered.eq_of_index
    (ordered : table.Ordered)
    {first second : Pid × Job}
    (firstMember : first ∈ table.entries)
    (secondMember : second ∈ table.entries)
    (same : first.2.index = second.2.index) :
    first = second := by
  have indexes := ordered.indexes
  rw [jobs, List.map_map] at indexes
  exact List.inj_on_of_nodup_map indexes firstMember secondMember same

/-- A job can be put in place of another, under an index that no other has. -/
theorem Ordered.put
    (ordered : table.Ordered)
    {pid : Pid}
    {job : Job}
    (stands : job.Stands pid)
    (free : ∀ entry ∈ table.entries, entry.1 ≠ pid → entry.2.index ≠ job.index) :
    (table.put pid job).Ordered where
  keys := by
    have kept :
        ((table.entries.filter (·.1 ≠ pid)).map Prod.fst).Sublist
          (table.entries.map Prod.fst) :=
      List.filter_sublist.map Prod.fst
    simpa [JobTable.put, List.nodup_append] using kept.nodup ordered.keys
  stands := by
    intro entry member
    rcases mem_put.mp member with ⟨old, -⟩ | rfl
    · exact ordered.stands entry old
    · exact stands
  indexes := by
    have kept :
        ((table.entries.filter (·.1 ≠ pid)).map (Job.index ∘ Prod.snd)).Sublist
          (table.entries.map (Job.index ∘ Prod.snd)) :=
      List.filter_sublist.map _
    have indexes := ordered.indexes
    rw [jobs, List.map_map] at indexes ⊢
    rw [JobTable.put, List.map_append, List.nodup_append]
    refine ⟨kept.nodup indexes, List.nodup_singleton _, ?_⟩
    intro first firstMember last lastMember
    obtain ⟨entry, old, rfl⟩ := List.mem_map.mp firstMember
    obtain ⟨member, apart⟩ := List.mem_filter.mp old
    obtain rfl := List.mem_singleton.mp lastMember
    exact free entry member (of_decide_eq_true apart)

theorem Ordered.remove
    (ordered : table.Ordered)
    (pid : Pid) :
    (table.remove pid).2.Ordered where
  keys := (List.filter_sublist.map Prod.fst).nodup ordered.keys
  stands entry member := ordered.stands entry (mem_remove.mp member).1
  indexes :=
    ((List.filter_sublist.map Prod.snd).map Job.index).nodup ordered.indexes

/-- A process is added under a free index, even if it is in the table already. -/
theorem Ordered.add
    (ordered : table.Ordered)
    {descriptor : Descriptor}
    {pid : Pid}
    (numbered : descriptor.pid = some pid)
    (grouped : descriptor.group = some pid) :
    (table.add descriptor).2.Ordered := by
  obtain ⟨positive, free⟩ := table.freeIndex_free
  unfold JobTable.add
  rw [numbered]
  refine ordered.put ⟨numbered, grouped, positive, rfl⟩ ?_
  exact fun entry member _ => free entry.2 (List.mem_map_of_mem member)

/-- Updating hands the job out in its new state. -/
theorem update_handed
    (table : JobTable)
    (pid : Pid)
    {status : Status}
    (moves : status ≠ .running) :
    (table.update pid status).1 = (table.get? pid).map (Job.turned status) := by
  unfold update
  cases table.get? pid with
  | none =>
      rfl
  | some job =>
      cases status <;> first | rfl | contradiction

/-- A job that is over leaves the table; any other has its new state. -/
theorem get?_update_eq
    {pid : Pid}
    {job : Job}
    (found : table.get? pid = some job)
    (status : Status) :
    (table.update pid status).2.get? pid =
      if status.isFinished then none else some (job.turned status) := by
  unfold update
  rw [found]
  cases status <;>
    simp [Status.isFinished, Job.turned, get?_put, get?_remove]

/--
An update puts a table in order in which only its own job was in the foreground.
-/
theorem Ordered.update
    (ordered : table.Ordered)
    {pid : Pid}
    (others :
      ∀ entry ∈ table.entries, entry.1 ≠ pid → entry.2.isBackground = true)
    {status : Status}
    (moves : status ≠ .running) :
    (table.update pid status).2.Orderly := by
  have removed : (table.remove pid).2.Orderly :=
    { toOrdered := ordered.remove pid
      background := fun entry member =>
        others entry (mem_remove.mp member).1 (mem_remove.mp member).2 }
  unfold JobTable.update
  cases found : table.get? pid with
  | none =>
      refine { toOrdered := ordered, background := fun entry member => ?_ }
      apply others entry member
      rintro rfl
      exact get?_eq_none_iff.mp found (List.mem_map_of_mem member)
  | some job =>
      have member := mem_of_get? found
      have stands := ordered.stands (pid, job) member
      cases status with
      | running =>
          contradiction
      | stopped signal =>
          refine { toOrdered := ordered.put ?_ ?_, background := ?_ }
          · exact
              { pid := stands.pid
                group := stands.group
                positive := stands.positive
                unfinished := rfl }
          · intro entry other apart same
            obtain rfl := ordered.eq_of_index other member same
            exact apart rfl
          · intro entry put
            rcases mem_put.mp put with ⟨old, apart⟩ | rfl
            · exact others entry old apart
            · rfl
      | done code =>
          exact removed
      | killed signal =>
          exact removed

/-- Updates of different processes hand out what each of them does on its own. -/
theorem updateAll_handed
    {changes : List (Pid × Status)}
    (distinct : (changes.map Prod.fst).Nodup)
    (moves : ∀ change ∈ changes, change.2 ≠ .running) :
    (table.updateAll changes).1 =
      changes.filterMap fun change =>
        (table.get? change.1).map (Job.turned change.2) := by
  induction changes generalizing table with
  | nil =>
      rfl
  | cons change rest inductionHypothesis =>
      obtain ⟨pid, status⟩ := change
      simp only [List.map_cons, List.nodup_cons] at distinct
      obtain ⟨apart, distinct⟩ := distinct
      simp only [List.forall_mem_cons] at moves
      have later :
          (rest.filterMap fun change =>
              ((table.update pid status).2.get? change.1).map
                (Job.turned change.2)) =
            rest.filterMap fun change =>
              (table.get? change.1).map (Job.turned change.2) := by
        apply List.filterMap_congr
        intro change member
        have other : change.1 ≠ pid := fun same =>
          apart (same ▸ List.mem_map_of_mem member)
        rw [get?_update_ne table pid status other]
      rw [updateAll]
      simp only [inductionHypothesis distinct moves.2, later,
        update_handed table pid moves.1, List.filterMap_cons]
      cases table.get? pid <;> rfl

theorem Orderly.updateAll
    (orderly : table.Orderly)
    {changes : List (Pid × Status)}
    (moves : ∀ change ∈ changes, change.2 ≠ .running) :
    (table.updateAll changes).2.Orderly := by
  induction changes generalizing table with
  | nil =>
      exact orderly
  | cons change rest inductionHypothesis =>
      simp only [List.forall_mem_cons] at moves
      rw [JobTable.updateAll]
      apply inductionHypothesis _ moves.2
      apply orderly.toOrdered.update _ moves.1
      exact fun entry member _ => orderly.background entry member

/-- What updates of different processes hand out has different indexes. -/
theorem Orderly.handed
    (orderly : table.Orderly)
    {changes : List (Pid × Status)}
    (distinct : (changes.map Prod.fst).Nodup)
    (moves : ∀ change ∈ changes, change.2 ≠ .running) :
    ((table.updateAll changes).1.map Job.index).Nodup ∧
      ∀ job ∈ (table.updateAll changes).1, job.isBackground = true := by
  rw [updateAll_handed distinct moves]
  constructor
  · rw [List.nodup_iff_pairwise_ne, List.pairwise_map]
    rw [List.nodup_iff_pairwise_ne, List.pairwise_map] at distinct
    refine distinct.filterMap _ fun first second apart => ?_
    intro job handed other handedToo same
    obtain ⟨firstJob, found, rfl⟩ := Option.map_eq_some_iff.mp handed
    obtain ⟨secondJob, foundToo, rfl⟩ := Option.map_eq_some_iff.mp handedToo
    rw [Job.turned_index, Job.turned_index] at same
    have one :=
      orderly.eq_of_index (mem_of_get? found) (mem_of_get? foundToo) same
    exact apart (Prod.mk.inj one).1
  · intro job member
    obtain ⟨change, -, handed⟩ := List.mem_filterMap.mp member
    obtain ⟨old, found, rfl⟩ := Option.map_eq_some_iff.mp handed
    exact
      Job.turned_isBackground change.2
        (orderly.background _ (mem_of_get? found))

/-- Jobs with different indexes are sorted strictly. -/
theorem sortByIndex_increasing
    {jobs : List Job}
    (distinct : (jobs.map Job.index).Nodup) :
    ((sortByIndex jobs).map Job.index).Pairwise (· < ·) := by
  have same : (sortByIndex jobs).Perm jobs :=
    List.mergeSort_perm jobs _
  have apart := ((same.map Job.index).nodup_iff).mpr distinct
  have sorted :
      (sortByIndex jobs).Pairwise fun first second =>
        decide (first.index ≤ second.index) = true := by
    apply List.pairwise_mergeSort
    · intro first second third lower upper
      simp only [decide_eq_true_eq] at lower upper ⊢
      exact Nat.le_trans lower upper
    · intro first second
      simpa using Nat.le_total first.index second.index
  rw [List.nodup_iff_pairwise_ne, List.pairwise_map] at apart
  rw [List.pairwise_map]
  refine sorted.imp₂ (fun first second lower different => ?_) apart
  exact Nat.lt_of_le_of_ne (of_decide_eq_true lower) different

/-- Jobs with different indexes are sorted in one way only. -/
theorem sortByIndex_of_perm
    {jobs sorted : List Job}
    (same : sorted.Perm jobs)
    (increasing : (sorted.map Job.index).Pairwise (· < ·)) :
    sortByIndex jobs = sorted := by
  have distinct : (jobs.map Job.index).Nodup :=
    (same.map Job.index).nodup_iff.mp (increasing.imp Nat.ne_of_lt)
  have increasingToo := sortByIndex_increasing distinct
  rw [List.pairwise_map] at increasing increasingToo
  have permuted : (sortByIndex jobs).Perm sorted :=
    (List.mergeSort_perm jobs _).trans same.symm
  exact
    permuted.eq_of_pairwise
      (fun first second _ _ lower upper =>
        absurd lower (Nat.lt_asymm upper))
      increasingToo increasing

end JobTable
end JobShell

import JobShell.Job.Table

namespace JobShell

/-!
# The job of one process

What the operations of the table do to the job of one process, and which jobs of
that process they hand out. A table is keyed when each job stands under its own
process number; every operation keeps that.
-/

namespace JobTable

/-- The states that jobs of one process are handed out with. -/
def statusesOf (pid : Pid) (jobs : List Job) : List Status :=
  (jobs.filter (·.descriptor.pid = some pid)).map Job.status

/-- Each job stands under its own process number. -/
def Keyed (table : JobTable) : Prop :=
  ∀ entry ∈ table.entries, entry.2.descriptor.pid = some entry.1

theorem empty_keyed : Keyed {} := by
  simp [Keyed]

/-- The entry that a process number finds. -/
theorem mem_of_get?
    {table : JobTable}
    {pid : Pid}
    {job : Job}
    (found : table.get? pid = some job) :
    (pid, job) ∈ table.entries := by
  obtain ⟨before, after, entries, -⟩ := List.lookup_eq_some_iff.mp found
  simp [entries]

/-- A process number that finds nothing has no entry. -/
theorem get?_eq_none_iff {table : JobTable} {pid : Pid} :
    table.get? pid = none ↔ pid ∉ table.entries.map Prod.fst := by
  rw [get?, List.lookup_eq_none_iff, List.mem_map]
  constructor
  · rintro others ⟨entry, member, rfl⟩
    simpa using others entry member
  · intro absent entry member
    exact bne_iff_ne.mpr fun same => absent ⟨entry, member, same.symm⟩

theorem Keyed.pid_of_get?
    {table : JobTable}
    (keyed : table.Keyed)
    {pid : Pid}
    {job : Job}
    (found : table.get? pid = some job) :
    job.descriptor.pid = some pid :=
  keyed (pid, job) (mem_of_get? found)

theorem lookup_entry
    (key : Pid)
    (job : Job)
    (rest : List (Pid × Job))
    (pid : Pid) :
    ((key, job) :: rest).lookup pid =
      if pid = key then some job else rest.lookup pid := by
  rw [List.lookup_cons]
  by_cases here : pid = key
  · simp [here]
  · simp [beq_false_of_ne here, here]

theorem lookup_filter_ne (entries : List (Pid × Job)) (pid other : Pid) :
    (entries.filter (·.1 ≠ pid)).lookup other =
      if other = pid then none else entries.lookup other := by
  induction entries with
  | nil =>
      simp
  | cons entry rest inductionHypothesis =>
      obtain ⟨key, job⟩ := entry
      rw [List.filter_cons, lookup_entry]
      by_cases removed : key = pid
      · rw [if_neg (by simp [removed]), inductionHypothesis, removed]
        split <;> rfl
      · rw [if_pos (by simp [removed]), lookup_entry, inductionHypothesis]
        by_cases here : other = key
        · simp [here, removed]
        · simp [here]

theorem get?_put (table : JobTable) (pid : Pid) (job : Job) (other : Pid) :
    (table.put pid job).get? other =
      if other = pid then some job else table.get? other := by
  have kept := lookup_filter_ne table.entries pid other
  unfold put get?
  rw [List.lookup_append, kept, lookup_entry]
  by_cases same : other = pid
  · simp [same]
  · simp [same]

theorem get?_remove (table : JobTable) (pid other : Pid) :
    (table.remove pid).2.get? other =
      if other = pid then none else table.get? other :=
  lookup_filter_ne table.entries pid other

theorem put_keyed
    {table : JobTable}
    (keyed : table.Keyed)
    {pid : Pid}
    {job : Job}
    (own : job.descriptor.pid = some pid) :
    (table.put pid job).Keyed := by
  intro entry member
  rcases List.mem_append.mp member with old | new
  · exact keyed entry (List.mem_filter.mp old).1
  · obtain rfl := List.mem_singleton.mp new
    exact own

theorem remove_keyed
    {table : JobTable}
    (keyed : table.Keyed)
    (pid : Pid) :
    (table.remove pid).2.Keyed :=
  fun entry member => keyed entry (List.mem_filter.mp member).1

theorem remove_put (table : JobTable) (pid : Pid) (job : Job) :
    ((table.put pid job).remove pid).2 = (table.remove pid).2 := by
  simp [remove, put]

theorem remove_remove (table : JobTable) (pid : Pid) :
    ((table.remove pid).2.remove pid).2 = (table.remove pid).2 := by
  simp [remove]

/-- Taking out a process that is not in the table changes nothing. -/
theorem remove_of_absent
    {table : JobTable}
    {pid : Pid}
    (absent : table.get? pid = none) :
    (table.remove pid).2 = table := by
  have kept : table.entries.filter (·.1 ≠ pid) = table.entries := by
    rw [List.filter_eq_self]
    intro entry member
    apply decide_eq_true
    rintro rfl
    exact get?_eq_none_iff.mp absent (List.mem_map_of_mem member)
  exact congrArg JobTable.mk kept

/-- The job of a process that is not in the table is put behind the others. -/
theorem entries_put_of_absent
    {table : JobTable}
    {pid : Pid}
    (absent : table.get? pid = none)
    (job : Job) :
    (table.put pid job).entries = table.entries ++ [(pid, job)] := by
  have same : (table.remove pid).2.entries = table.entries :=
    congrArg entries (remove_of_absent absent)
  exact congrArg (· ++ [(pid, job)]) same

theorem get?_add
    (table : JobTable)
    {descriptor : Descriptor}
    {pid : Pid}
    (numbered : descriptor.pid = some pid)
    (other : Pid) :
    (table.add descriptor).2.get? other =
      if other = pid then some ⟨table.freeIndex, descriptor, .running⟩
      else table.get? other := by
  unfold add
  rw [numbered]
  exact get?_put table pid _ other

theorem add_keyed
    {table : JobTable}
    (keyed : table.Keyed)
    (descriptor : Descriptor) :
    (table.add descriptor).2.Keyed := by
  unfold add
  cases numbered : descriptor.pid with
  | none =>
      exact keyed
  | some pid =>
      exact put_keyed keyed numbered

/-- Without the process that is added, the table is as it was without it. -/
theorem remove_add
    (table : JobTable)
    {descriptor : Descriptor}
    {pid : Pid}
    (numbered : descriptor.pid = some pid) :
    ((table.add descriptor).2.remove pid).2 = (table.remove pid).2 := by
  unfold add
  rw [numbered]
  exact remove_put table pid _

/-- An update of another process changes nothing about this one. -/
theorem get?_update_ne
    (table : JobTable)
    (pid : Pid)
    (status : Status)
    {other : Pid}
    (different : other ≠ pid) :
    (table.update pid status).2.get? other = table.get? other := by
  unfold update
  split
  · rfl
  · split <;> simp [get?_put, get?_remove, different]

/-- Nor does it change what else the table holds, and in which order. -/
theorem remove_update (table : JobTable) (pid : Pid) (status : Status) :
    ((table.update pid status).2.remove pid).2 = (table.remove pid).2 := by
  unfold update
  split
  · rfl
  · split
    · exact remove_remove table pid
    · exact remove_remove table pid
    · exact remove_put table pid _
    · exact remove_put table pid _

theorem get?_update
    (table : JobTable)
    (pid : Pid)
    (status : Status) :
    ((table.update pid status).2.get? pid).isSome =
      ((table.get? pid).isSome && !status.isFinished) := by
  unfold update
  cases found : table.get? pid with
  | none =>
      simp [found]
  | some job =>
      cases status <;> simp [get?_put, get?_remove, Status.isFinished]

theorem update_keyed
    {table : JobTable}
    (keyed : table.Keyed)
    (pid : Pid)
    (status : Status) :
    (table.update pid status).2.Keyed := by
  unfold update
  cases found : table.get? pid with
  | none =>
      exact keyed
  | some job =>
      have own := keyed.pid_of_get? found
      cases status with
      | running =>
          exact put_keyed keyed own
      | stopped signal =>
          exact put_keyed keyed own
      | done code =>
          exact remove_keyed keyed pid
      | killed signal =>
          exact remove_keyed keyed pid

/-- A job that is handed out is the one of the process, in its new state. -/
theorem update_job
    {table : JobTable}
    (keyed : table.Keyed)
    {pid : Pid}
    {status : Status}
    {job : Job}
    (handed : (table.update pid status).1 = some job) :
    job.descriptor.pid = some pid ∧ job.status = status := by
  unfold update at handed
  cases found : table.get? pid with
  | none =>
      simp [found] at handed
  | some old =>
      have own := keyed.pid_of_get? found
      rw [found] at handed
      cases status with
      | running =>
          simp at handed
      | stopped signal =>
          obtain rfl := Option.some.inj handed
          exact ⟨own, rfl⟩
      | done code =>
          obtain rfl := Option.some.inj handed
          exact ⟨own, rfl⟩
      | killed signal =>
          obtain rfl := Option.some.inj handed
          exact ⟨own, rfl⟩

/-- The process of an update is handed out unless it merely goes on. -/
theorem statusesOf_update
    {table : JobTable}
    (keyed : table.Keyed)
    (pid : Pid)
    {status : Status}
    (changed : status ≠ .running) :
    statusesOf pid (table.update pid status).1.toList =
      if (table.get? pid).isSome then [status] else [] := by
  unfold update
  cases found : table.get? pid with
  | none =>
      rfl
  | some job =>
      have own := keyed.pid_of_get? found
      cases status with
      | running =>
          contradiction
      | stopped signal =>
          simp [statusesOf, own]
      | done code =>
          simp [statusesOf, own]
      | killed signal =>
          simp [statusesOf, own]

theorem statusesOf_update_ne
    {table : JobTable}
    (keyed : table.Keyed)
    (pid : Pid)
    (status : Status)
    {other : Pid}
    (different : other ≠ pid) :
    statusesOf other (table.update pid status).1.toList = [] := by
  cases handed : (table.update pid status).1 with
  | none =>
      rfl
  | some job =>
      obtain ⟨own, _⟩ := update_job keyed handed
      simp [statusesOf, own, Ne.symm different]

theorem statusesOf_append (pid : Pid) (first second : List Job) :
    statusesOf pid (first ++ second) =
      statusesOf pid first ++ statusesOf pid second := by
  simp [statusesOf]

theorem updateAll_keyed
    {table : JobTable}
    (keyed : table.Keyed)
    (changes : List (Pid × Status)) :
    (table.updateAll changes).2.Keyed := by
  induction changes generalizing table with
  | nil =>
      exact keyed
  | cons change rest inductionHypothesis =>
      exact inductionHypothesis (update_keyed keyed change.1 change.2)

/-- Changes of other processes change nothing about this one. -/
theorem updateAll_ne
    {table : JobTable}
    (keyed : table.Keyed)
    {changes : List (Pid × Status)}
    {pid : Pid}
    (others : ∀ change ∈ changes, change.1 ≠ pid) :
    statusesOf pid (table.updateAll changes).1 = [] ∧
      (table.updateAll changes).2.get? pid = table.get? pid := by
  induction changes generalizing table with
  | nil =>
      exact ⟨rfl, rfl⟩
  | cons change rest inductionHypothesis =>
      obtain ⟨key, status⟩ := change
      have different : pid ≠ key := Ne.symm (others (key, status) (by simp))
      obtain ⟨handed, kept⟩ :=
        inductionHypothesis (update_keyed keyed key status)
          fun change member => others change (by simp [member])
      rw [updateAll]
      refine ⟨?_, ?_⟩
      · rw [statusesOf_append, statusesOf_update_ne keyed key status different,
          handed, List.nil_append]
      · exact kept.trans (get?_update_ne table key status different)

/-- The state of the only change of a process is the one it is handed out with. -/
theorem updateAll_only
    {table : JobTable}
    (keyed : table.Keyed)
    {changes : List (Pid × Status)}
    {pid : Pid}
    {due : Option Status}
    (only :
      (changes.filter (·.1 = pid)).map Prod.snd = due.toList)
    (changed : due ≠ some .running) :
    statusesOf pid (table.updateAll changes).1 =
        (if (table.get? pid).isSome then due.toList else []) ∧
      ((table.updateAll changes).2.get? pid).isSome =
        ((table.get? pid).isSome && !due.any Status.isFinished) := by
  induction changes generalizing table with
  | nil =>
      cases due with
      | none =>
          simp [updateAll, statusesOf]
      | some status =>
          simp at only
  | cons change rest inductionHypothesis =>
      obtain ⟨key, status⟩ := change
      by_cases here : key = pid
      · subst here
        cases due with
        | none =>
            simp at only
        | some told =>
            simp only [List.filter_cons, decide_true, if_true, List.map_cons,
              Option.toList_some, List.cons.injEq, List.map_eq_nil_iff,
              List.filter_eq_nil_iff, decide_eq_true_eq] at only
            obtain ⟨rfl, others⟩ := only
            have moves : status ≠ .running := by simpa using changed
            obtain ⟨handed, kept⟩ :=
              updateAll_ne (update_keyed keyed key status) others
            rw [updateAll]
            refine ⟨?_, ?_⟩
            · rw [statusesOf_append, handed, statusesOf_update keyed key moves,
                List.append_nil]
              rfl
            · change ((JobTable.updateAll _ rest).2.get? key).isSome = _
              rw [kept, get?_update]
              rfl
      · have different : pid ≠ key := Ne.symm here
        simp only [List.filter_cons, here, decide_false, Bool.false_eq_true,
          if_false] at only
        obtain ⟨handed, kept⟩ :=
          inductionHypothesis (update_keyed keyed key status) only
        rw [get?_update_ne table key status different] at handed kept
        rw [updateAll]
        refine ⟨?_, kept⟩
        rw [statusesOf_append, statusesOf_update_ne keyed key status different,
          List.nil_append]
        exact handed

/-- Sorting hands out the same jobs; one job of a process stays one. -/
theorem statusesOf_sortByIndex
    {pid : Pid}
    {jobs : List Job}
    {due : Option Status}
    (only : statusesOf pid jobs = due.toList) :
    statusesOf pid (sortByIndex jobs) = due.toList := by
  have same :
      (statusesOf pid (sortByIndex jobs)).Perm (statusesOf pid jobs) :=
    ((List.mergeSort_perm jobs _).filter _).map _
  rw [only] at same
  cases due with
  | none =>
      exact List.perm_nil.mp same
  | some status =>
      exact List.perm_singleton.mp same

end JobTable
end JobShell

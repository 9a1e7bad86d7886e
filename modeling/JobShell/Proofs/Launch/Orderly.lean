import JobShell.Proofs.Job.Order
import JobShell.Proofs.Launch.Reached

namespace JobShell

/-!
# The tables of reached shells

Whatever children do and whatever numbers they have, the table of a reached
shell is in order, with jobs of the background only, and a collection hands out
such jobs by increasing index.
-/

namespace Shell

/-- Leaving a job in the background can only remove it. -/
theorem leaveInBackground_jobs (child : Pid) (before : Shell) :
    (leaveInBackground child before).2.jobs = before.jobs ∨
      (leaveInBackground child before).2.jobs =
        (before.jobs.remove child).2 := by
  rw [leaveInBackground_eq]
  split
  · exact .inl rfl
  · exact .inr rfl

/-- Running a job in the foreground enters the state that settles it. -/
theorem runInForeground_jobs
    (terminal : Terminal)
    (child : Pid)
    (before : Shell) :
    ∃ status,
      status ≠ .running ∧
        (runInForeground terminal child before).2.jobs =
          (before.jobs.update child status).2 := by
  refine ⟨(Host.wait child (lent terminal child before).host).1.status, ?_, ?_⟩
  · exact (Settled.run_ofAnswers True child none _).1
  · rw [runInForeground_eq, waitForeground_eq]
    rfl

/-- A child that is adopted leaves the table in order. -/
theorem orderly_adopt
    (terminal : Terminal)
    (descriptor : Descriptor)
    (child : Pid)
    {before : Shell}
    (orderly : before.jobs.Orderly) :
    (adopt terminal descriptor child before).2.jobs.Orderly := by
  have ordered : (entered descriptor child before).jobs.Ordered := by
    rw [entered_jobs]
    exact orderly.toOrdered.add rfl rfl
  have others :
      ∀ entry ∈ (entered descriptor child before).jobs.entries,
        entry.1 ≠ child → entry.2.isBackground = true := by
    rw [entered_jobs]
    intro entry member apart
    rcases JobTable.mem_put.mp member with ⟨old, -⟩ | rfl
    · exact orderly.background entry old
    · exact absurd rfl apart
  rw [adopt_eq]
  split
  · rename_i inBackground
    have inOrder : (entered descriptor child before).jobs.Orderly :=
      { toOrdered := ordered
        background := by
          rw [entered_jobs]
          intro entry member
          rcases JobTable.mem_put.mp member with ⟨old, -⟩ | rfl
          · exact orderly.background entry old
          · exact inBackground }
    rcases leaveInBackground_jobs child (entered descriptor child before) with
      kept | removed
    · rw [kept]
      exact inOrder
    · rw [removed]
      exact
        { toOrdered := inOrder.toOrdered.remove child
          background := fun entry member =>
            inOrder.background entry (JobTable.mem_remove.mp member).1 }
  · obtain ⟨status, moves, same⟩ :=
      runInForeground_jobs terminal child (entered descriptor child before)
    rw [same]
    exact ordered.update others moves

theorem changes_distinct
    {host : Host}
    (wellFormed : host.slots.WellFormed) :
    ((changes host).map Prod.fst).Nodup := by
  unfold changes
  rw [List.map_map]
  exact SlotTable.nodup_drained wellFormed

theorem changes_ne_running (host : Host) :
    ∀ change ∈ changes host, change.2 ≠ .running := by
  intro change member
  obtain ⟨event, drained, rfl⟩ := List.mem_map.mp member
  exact SlotTable.drained_ne_running drained

/-- A collection keeps the table in order, and goes by increasing index. -/
theorem orderly_collect
    {before after : Shell}
    {jobs : List Job}
    (orderly : before.jobs.Orderly)
    (wellFormed : before.host.slots.WellFormed)
    (ran : collect before = (jobs, after)) :
    after.jobs.Orderly ∧
      (jobs.map Job.index).Pairwise (· < ·) ∧
      ∀ job ∈ jobs, job.isBackground = true := by
  have blocks : Host.Tidy before.host (Host.block before.host).2 :=
    Host.keeps_block before.host
  cases collect_collected ran with
  | notBlocked errno unblocked message blocking =>
      exact ⟨orderly, .nil, List.forall_mem_nil _⟩
  | handedOut previous blocked jobs blocking handed =>
      rw [blocking] at blocks
      have moves := changes_ne_running blocked
      obtain ⟨distinct, background⟩ :=
        orderly.handed (changes_distinct (blocks wellFormed)) moves
      rw [← handed]
      refine
        ⟨orderly.updateAll moves, JobTable.sortByIndex_increasing distinct, ?_⟩
      intro job member
      exact background job ((List.mergeSort_perm _ _).mem_iff.mp member)

theorem Reached.orderly
    {unique : Prop}
    {shell : Shell}
    (reached : Reached unique shell) :
    shell.jobs.Orderly := by
  induction reached with
  | fresh host slots history =>
      exact JobTable.empty_orderly
  | launched terminal descriptor child _ ran _ inductionHypothesis =>
      cases execute_executed ran with
      | parent previous blocked _ adopted blocking forked adopts =>
          rw [← adopts]
          exact orderly_adopt terminal descriptor child inductionHypothesis
  | refused terminal descriptor e _ ran inductionHypothesis =>
      rw [(execute_refused ran).1]
      exact inductionHypothesis
  | collected jobs earlier ran inductionHypothesis =>
      exact (orderly_collect inductionHypothesis earlier.sound.wellFormed ran).1
  | signalled events _ inductionHypothesis =>
      exact inductionHypothesis
  | elsewhere host _ quiet inductionHypothesis =>
      exact inductionHypothesis

/--
The table of a reached shell is in order: each job stands under its own process
and group, with a positive index of its own, runs or is stopped, and is in the
background. What is collected comes from the background, by increasing index.
-/
theorem reached_orderly
    {unique : Prop}
    {shell : Shell}
    (reached : Reached unique shell) :
    shell.jobs.Orderly ∧
      ∀ jobs after,
        collect shell = (jobs, after) →
        (jobs.map Job.index).Pairwise (· < ·) ∧
          ∀ job ∈ jobs, job.isBackground = true :=
  ⟨reached.orderly, fun _ _ ran =>
    (orderly_collect reached.orderly reached.sound.wellFormed ran).2⟩

/--
A shell in which a second child has the number of the first, a third one stopped
in the foreground, and then both ended.
-/
def shuffled : Shell :=
  (play? false
    { host :=
        { handling := .reaper
          script :=
            { forks := [.parent 301, .parent 301, .parent 302]
              waits := fun _ => [.ok (.stopped .tstp)] } } }
    [.start true, .start true, .start false,
      .signal [⟨301, .ok (.exited 0)⟩, ⟨302, .ok (.exited 3)⟩]]).get
    (by decide +kernel)

/-- The job in the first slot has the second index, and is handed out last. -/
theorem reached_orderly_shuffled :
    Reached False shuffled ∧
      shuffled.jobs.Orderly ∧
      shuffled.jobs.entries.map (fun entry => (entry.1, entry.2.index)) =
        [(301, 2), (302, 1)] ∧
      shuffled.host.slots.drain.1.map ReapEvent.pid = [301, 302] ∧
      (collect shuffled).1.map
          (fun job => (job.index, job.descriptor.pid, job.status)) =
        [(1, some 302, .done 3), (2, some 301, .done 0)] ∧
      ((collect shuffled).1.map Job.index).Pairwise (· < ·) ∧
      ∀ job ∈ (collect shuffled).1, job.isBackground = true := by
  have reached : Reached False shuffled :=
    Reached.of_play? (fun impossible => impossible.elim)
      (.fresh
        { handling := .reaper
          script :=
            { forks := [.parent 301, .parent 301, .parent 302]
              waits := fun _ => [.ok (.stopped .tstp)] } } rfl rfl)
      (Option.some_get _).symm
  have blocks :
      Host.block shuffled.host =
        (.ok false, (Host.block shuffled.host).2) :=
    run_of_toOption (by decide +kernel)
  -- The slots tell of the jobs in the other order.
  have handed :
      (collect shuffled).1.map
          (fun job => (job.index, job.descriptor.pid, job.status)) =
        [(1, some 302, .done 3), (2, some 301, .done 0)] := by
    rw [collect_changed blocks,
      JobTable.sortByIndex_of_perm (List.reverse_perm _) (by decide +kernel)]
    decide +kernel
  obtain ⟨orderly, collects⟩ := reached_orderly reached
  exact
    ⟨reached, orderly, by decide +kernel, by decide +kernel, handed,
      collects _ _ rfl⟩

end Shell
end JobShell

import JobShell.Proofs.Job.Order
import JobShell.Proofs.Launch.Reached
import JobShell.Proofs.Reaper.Grouping

namespace JobShell

/-!
# Collections after regrouped events

What a collection hands out depends on the jobs and the slots, on whether
SIGCHLD can be blocked and on what happens before it is, but on nothing that
happened earlier. So after runs of the reaper that wrote the same markings for
each child, it hands out the same jobs in the same order.
-/

/--
A computation gives related states the same answer, and leaves related states.
-/
def Respects
    (relation : State → State → Prop)
    (action : StateM State α) :
    Prop :=
  ∀ first second,
    relation first second →
    (action first).1 = (action second).1 ∧
      relation (action first).2 (action second).2

namespace Respects

section

variable {State : Type} {relation : State → State → Prop}

theorem pure (answer : α) :
    Respects relation (Pure.pure answer : StateM State α) :=
  fun _ _ related => ⟨rfl, related⟩

theorem bind
    {first : StateM State α}
    {next : α → StateM State β}
    (firstRespects : Respects relation first)
    (nextRespects : ∀ answer, Respects relation (next answer)) :
    Respects relation (first >>= next) := by
  intro state other related
  obtain ⟨same, after⟩ := firstRespects state other related
  rw [run_bind, run_bind, ← same]
  exact nextRespects _ _ _ after

/-- A computation that reads of the state what related states share. -/
theorem get_bind
    {next : State → StateM State α}
    (shared :
      ∀ {first second}, relation first second → next first = next second)
    (respects : ∀ state, Respects relation (next state)) :
    Respects relation (MonadState.get >>= next) := by
  intro first second related
  rw [run_bind, run_bind, run_get, run_get, ← shared related]
  exact respects first first second related

end

end Respects

namespace Host

/-- The hosts differ in nothing but what happened so far. -/
def Alike (first second : Host) : Prop :=
  ∃ history, second = { first with history := history }

theorem Alike.slots
    {first second : Host}
    (alike : Alike first second) :
    first.slots = second.slots := by
  obtain ⟨history, rfl⟩ := alike
  rfl

theorem respects_emit (event : Event) : Respects Alike (emit event) := by
  rintro first _ ⟨history, rfl⟩
  exact ⟨rfl, history ++ [event], rfl⟩

theorem respects_note (level : Level) (message : String) :
    Respects Alike (note level message) :=
  respects_emit _

theorem respects_attempt (syscall : Syscall) (call : Call) :
    Respects Alike (attempt syscall call) := by
  rintro first _ ⟨history, rfl⟩
  exact ⟨rfl, _, rfl⟩

theorem respects_deliver : Respects Alike deliver := by
  rintro first _ ⟨history, rfl⟩
  refine ⟨rfl, ?_⟩
  rw [deliver_eq, deliver_eq]
  have same :
      ({ first with history := history } : Host).canDeliver =
        first.canDeliver :=
    rfl
  rw [same]
  split
  · exact ⟨_, rfl⟩
  · exact ⟨history, rfl⟩

theorem respects_raiseChild (events : List ChildEvent) :
    Respects Alike (raiseChild events) := by
  refine Respects.bind ?_ fun _ => respects_deliver
  rintro first _ ⟨history, rfl⟩
  exact ⟨rfl, history, rfl⟩

theorem respects_nextBatch : Respects Alike nextBatch := by
  rintro first _ ⟨history, rfl⟩
  refine ⟨rfl, ?_⟩
  simp only [nextBatch, run_bind, run_get]
  cases first.script.batches with
  | nil =>
      exact ⟨history, rfl⟩
  | cons batch rest =>
      simp only [run_bind, run_set]
      let taken : Host :=
        { first with script := { first.script with batches := rest } }
      cases batch.isEmpty with
      | true =>
          exact ⟨history, rfl⟩
      | false =>
          exact (respects_raiseChild batch taken _ ⟨history, rfl⟩).2

theorem respects_block : Respects Alike block := by
  refine Respects.bind respects_nextBatch fun _ => ?_
  refine Respects.get_bind ?_ fun host => ?_
  · rintro first _ ⟨history, rfl⟩
    rfl
  refine Respects.bind (respects_attempt _ _) fun fault => ?_
  cases fault with
  | some errno =>
      exact Respects.pure _
  | none =>
      rintro host _ ⟨history, rfl⟩
      exact ⟨rfl, history, rfl⟩

theorem respects_setMask (blocked : Bool) :
    Respects Alike (setMask blocked) := by
  refine Respects.bind (respects_attempt _ _) fun fault => ?_
  cases fault with
  | some errno =>
      exact Respects.pure _
  | none =>
      refine Respects.bind ?_ fun _ => ?_
      · rintro host _ ⟨history, rfl⟩
        exact ⟨rfl, history, rfl⟩
      · exact Respects.bind respects_deliver fun _ => Respects.pure _

theorem respects_unblock (previous : Bool) :
    Respects Alike (unblock previous) := by
  refine Respects.bind (respects_setMask previous) fun fault => ?_
  cases fault with
  | none =>
      exact Respects.pure _
  | some errno =>
      exact respects_note _ _

theorem respects_drain : Respects Alike drain := by
  rintro first _ ⟨history, rfl⟩
  exact ⟨rfl, _, rfl⟩

end Host

namespace Shell

/-- The shells differ in nothing but what happened so far. -/
def Alike (first second : Shell) : Prop :=
  ∃ host, Host.Alike first.host host ∧ second = first.on host

theorem Alike.jobs
    {first second : Shell}
    (alike : Alike first second) :
    first.jobs = second.jobs := by
  obtain ⟨host, -, rfl⟩ := alike
  rfl

theorem Alike.slots
    {first second : Shell}
    (alike : Alike first second) :
    first.host.slots = second.host.slots := by
  obtain ⟨host, hosts, rfl⟩ := alike
  exact hosts.slots

/-- A computation on the host, run by a shell. -/
theorem respects_lift
    {action : HostM α}
    (respects : Respects Host.Alike action) :
    Respects Alike (liftM action : ShellM α) := by
  rintro first _ ⟨host, hosts, rfl⟩
  obtain ⟨same, after⟩ := respects first.host host hosts
  exact ⟨same, _, after, rfl⟩

/-- What a collection hands out and leaves does not depend on what happened. -/
theorem respects_collect : Respects Alike collect := by
  refine Respects.bind (respects_lift Host.respects_block) fun answer => ?_
  cases answer with
  | error errno =>
      exact
        Respects.bind (respects_lift (Host.respects_note _ _))
          fun _ => Respects.pure _
  | ok previous =>
      refine Respects.bind (respects_lift Host.respects_drain) fun events => ?_
      refine
        Respects.bind (respects_lift (Host.respects_unblock previous))
          fun _ => ?_
      rintro first _ ⟨host, ⟨history, rfl⟩, rfl⟩
      exact ⟨rfl, _, ⟨_, rfl⟩, rfl⟩

/--
Two ways to order the same events and to cut them into runs of the reaper, where
each child has the same exits, deaths and stops in the same order, with any
interruptions and other answers between them. Whatever the jobs and the slots
were, the slots are the same after both, the next collection hands out the same
jobs in the same order, and it leaves the same jobs and slots.
-/
theorem collect_regrouped
    {shell : Shell}
    (attentive : shell.host.Attentive)
    {batches others : List (List ChildEvent)}
    (spent : ∀ batch ∈ batches, Spent batch)
    (spentToo : ∀ batch ∈ others, Spent batch)
    (same :
      ∀ pid, markingsOf pid batches.flatten = markingsOf pid others.flatten) :
    let first := shell.on (Host.raiseEach batches shell.host).2
    let second := shell.on (Host.raiseEach others shell.host).2
    first.host.slots = second.host.slots ∧
      (collect first).1 = (collect second).1 ∧
      (collect first).2.jobs = (collect second).2.jobs ∧
      (collect first).2.host.slots = (collect second).2.host.slots := by
  intro first second
  obtain ⟨history, runs⟩ := Host.raiseEach_of_attentive attentive spent
  obtain ⟨other, runsToo⟩ := Host.raiseEach_of_attentive attentive spentToo
  have alike : Alike first second := by
    refine ⟨(Host.raiseEach others shell.host).2, ⟨other, ?_⟩, rfl⟩
    rw [runsToo, ← SlotTable.markAll_eq_of_same same]
    change _ = { (Host.raiseEach batches shell.host).2 with history := other }
    rw [runs]
  obtain ⟨handed, after⟩ := respects_collect first second alike
  exact ⟨alike.slots, handed, after.jobs, after.slots⟩

/-- A shell with two jobs in the background. -/
def busy : Shell :=
  (play? true { host := { handling := .reaper } }
    [.start true, .start true]).get (by decide +kernel)

/--
One job exits, the other stops and is killed: told in one order with an
interruption and a last question, or in another without them. Both are handed out.
-/
theorem collect_regrouped_busy :
    let batches : List (List ChildEvent) :=
      [[⟨1001, .ok (.exited 5)⟩, ⟨0, .error .eintr⟩,
          ⟨1002, .ok (.stopped .tstp)⟩, ⟨0, .ok .alive⟩],
        [⟨1002, .ok (.signaled .kill true)⟩]]
    let others : List (List ChildEvent) :=
      [[⟨1002, .ok (.stopped .tstp)⟩, ⟨1002, .ok (.signaled .kill false)⟩,
          ⟨1001, .ok (.exited 5)⟩]]
    let first := busy.on (Host.raiseEach batches busy.host).2
    let second := busy.on (Host.raiseEach others busy.host).2
    first.host.slots.watch 1001 = some (some (.done 5)) ∧
      first.host.slots.watch 1002 = some (some (.killed .kill)) ∧
      first.host.slots = second.host.slots ∧
      (collect second).1.map
          (fun job => (job.index, job.descriptor.pid, job.status)) =
        [(1, some 1001, .done 5), (2, some 1002, .killed .kill)] ∧
      (collect first).1 = (collect second).1 := by
  intro batches others first second
  have attentive : busy.host.Attentive := by
    constructor <;> decide +kernel
  have same (pid : Pid) :
      markingsOf pid batches.flatten = markingsOf pid others.flatten := by
    by_cases exits : (1001 : Pid) = pid
    · subst exits
      rfl
    · by_cases dies : (1002 : Pid) = pid
      · subst dies
        rfl
      · have none :
            ∀ events ∈ [batches.flatten, others.flatten],
              markingsOf pid events = [] := by
          intro events member
          have told :
              ∀ marking ∈ events.filterMap ChildEvent.marking?,
                marking.pid = 1001 ∨ marking.pid = 1002 := by
            revert events
            decide
          refine List.filter_eq_nil_iff.mpr fun marking marks => ?_
          rcases told marking marks with own | own <;> simpa [own]
        rw [none _ (by simp), none _ (by simp)]
  have blocks :
      Host.block second.host = (.ok false, (Host.block second.host).2) :=
    run_of_toOption (by decide +kernel)
  have jobs :
      (collect second).1.map
          (fun job => (job.index, job.descriptor.pid, job.status)) =
        [(1, some 1001, .done 5), (2, some 1002, .killed .kill)] := by
    rw [collect_changed blocks,
      JobTable.sortByIndex_of_perm (List.Perm.refl _) (by decide +kernel)]
    decide +kernel
  obtain ⟨slots, handed, -, -⟩ :=
    collect_regrouped attentive (by decide) (by decide) same
  exact ⟨by decide +kernel, by decide +kernel, slots, jobs, handed⟩

end Shell
end JobShell

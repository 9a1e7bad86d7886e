import JobShell.Proofs.Job.Completion
import JobShell.Proofs.Launch.Reached

namespace JobShell

/-!
# No end of a background job is lost or reported twice

In a shell that is reached with unique process numbers, the end of a process
with a slot is handed out by the first collection that drains the slots after
it was recorded, and by no other; and nothing else is handed out as finished.
-/

open Host (Reaping)

/-- The history grew, but by no drain and by no collection. -/
def Host.Uncollecting (before after : Host) : Prop :=
  ∃ added,
    after.history = before.history ++ added ∧
      ∀ event ∈ added, event.isDrain = false ∧ event.isCollection = false

namespace Host

theorem uncollecting_emit
    {event : Event}
    (drain : event.isDrain = false)
    (collection : event.isCollection = false) :
    Ignores Uncollecting event :=
  fun _ => ⟨[event], rfl, by simp [drain, collection]⟩

instance : Launchable Uncollecting where
  refl host := ⟨[], by simp, by simp⟩
  trans := by
    rintro first second third
      ⟨earlier, grown, apart⟩ ⟨later, grownLater, apartLater⟩
    refine
      ⟨earlier ++ later, ?_, List.forall_mem_append.mpr ⟨apart, apartLater⟩⟩
    rw [grownLater, grown, List.append_assoc]
  same history _ _ _ := ⟨[], by simp [history], by simp⟩
  plain event plain := by
    obtain ⟨-, drain, collection, -⟩ :=
      Event.of_not_concerns (Event.concerns_of_isPlain plain 0)
    exact uncollecting_emit drain collection
  mask host _ := ⟨[], by simp, by simp⟩
  masking event masking := by
    obtain ⟨-, drain, collection, -⟩ :=
      Event.of_not_concerns (Event.concerns_of_isMasking masking 0)
    exact uncollecting_emit drain collection
  terminal event terminal := by
    obtain ⟨-, drain, collection, -⟩ :=
      Event.of_not_concerns (Event.concerns_of_isTerminal terminal 0)
    exact uncollecting_emit drain collection
  reap host := by
    refine ⟨_, rfl, ?_⟩
    intro event member
    obtain ⟨answer, _, rfl⟩ := List.mem_map.mp member
    exact ⟨rfl, rfl⟩
  fork host := ⟨_, (fork_eq host).2.1, by simp [Event.isDrain, Event.isCollection]⟩
  wait pid host := by
    refine ⟨_, (wait_eq pid host).1, ?_⟩
    intro event member
    obtain ⟨answer, _, rfl⟩ := List.mem_map.mp member
    exact ⟨rfl, rfl⟩
  track pid host := by
    obtain ⟨-, -, messages, grown, apart⟩ := track_account pid host
    refine ⟨_, grown, List.forall_mem_cons.mpr ⟨⟨rfl, rfl⟩, ?_⟩⟩
    intro event member
    obtain ⟨-, drain, collection, -⟩ :=
      Event.of_not_concerns (apart event member 0)
    exact ⟨drain, collection⟩

/-- A failed blocking changes no slot after what the reaper did before it. -/
theorem slots_of_not_blocked
    {host unblocked : Host}
    {errno : Errno}
    (blocking : block host = (.error errno, unblocked)) :
    unblocked.slots = (nextBatch host).2.slots := by
  let batched : Host := (nextBatch host).2
  have attempts : Quiet batched (attempt .sigprocmask .blockChild batched).2 :=
    keeps_attempt (fun _ => quiet_emit fun _ => rfl) .sigprocmask batched
  simp only [block, run_bind, run_get] at blocking
  cases answered : (attempt .sigprocmask .blockChild batched).1 with
  | none =>
      rw [answered] at blocking
      simp only [run_bind, run_pure] at blocking
      obtain ⟨succeeds, -⟩ := Prod.mk.inj blocking
      contradiction
  | some fault =>
      rw [answered] at blocking
      obtain ⟨-, rfl⟩ := Prod.mk.inj blocking
      exact attempts.slots

end Host

namespace Shell

/-- A collection that cannot block SIGCHLD hands out nothing and changes nothing. -/
theorem collect_of_not_blocked
    {before after : Shell}
    {jobs : List Job}
    (ran : collect before = (jobs, after))
    {errno : Errno}
    (fails : (Host.block before.host).1 = .error errno) :
    jobs = [] ∧
      after.jobs = before.jobs ∧
      after.host.slots = (Host.nextBatch before.host).2.slots ∧
      Host.Uncollecting before.host after.host := by
  have blocks : Host.Uncollecting before.host (Host.block before.host).2 :=
    Host.keeps_block before.host
  cases collect_collected ran with
  | notBlocked errno unblocked message blocking =>
      rw [blocking] at blocks
      have notes :
          Host.Uncollecting unblocked (Host.note .error message unblocked).2 :=
        Host.keeps_note _ _ unblocked
      have slots : unblocked.slots = (Host.nextBatch before.host).2.slots :=
        Host.slots_of_not_blocked blocking
      exact ⟨rfl, rfl, slots, Frame.trans blocks notes⟩
  | handedOut previous blocked jobs blocking handed =>
      rw [blocking] at fails
      contradiction

/-- Any other collection drains the slots once and hands out what it returns. -/
theorem collect_of_blocked
    {before after : Shell}
    {jobs : List Job}
    (ran : collect before = (jobs, after))
    {previous : Bool}
    (blocks : (Host.block before.host).1 = .ok previous) :
    ∃ first batch between,
      after.host.history =
          before.host.history ++ first ++ .drained batch :: between ++
            [.collected jobs] ∧
        ∀ event ∈ first ++ between,
          event.isDrain = false ∧ event.isCollection = false := by
  have blocking : Host.Uncollecting before.host (Host.block before.host).2 :=
    Host.keeps_block before.host
  cases collect_collected ran with
  | notBlocked errno unblocked message failed =>
      rw [failed] at blocks
      contradiction
  | handedOut previous blocked jobs succeeds handed =>
      rw [succeeds] at blocking
      obtain ⟨first, grown, apart⟩ := blocking
      have unblocks :
          Host.Uncollecting (Host.drain blocked).2 (emptied previous blocked) :=
        Host.keeps_unblock previous _
      obtain ⟨between, grownLater, apartLater⟩ := unblocks
      refine
        ⟨first, blocked.slots.drain.1, between, ?_,
          List.forall_mem_append.mpr ⟨apart, apartLater⟩⟩
      have drains :
          (Host.drain blocked).2.history =
            blocked.history ++ [.drained blocked.slots.drain.1] :=
        rfl
      change (emptied previous blocked).history ++ [.collected jobs] = _
      rw [grownLater, drains, grown]
      simp

/--
In a reached shell in which no process number is in use twice, for a process
that ends once: an end that the reaper recorded waits in the slot for the first
collection that blocks SIGCHLD, is handed out by it and by no other, and leaves
neither a job nor a slot behind; and nothing is handed out as finished without
such an end. A collection that cannot block SIGCHLD hands out nothing and leaves
the jobs alone, and the slots too after what the reaper does before it; any other
collection drains the slots once. Launches and signals never do.
-/
theorem reached_completions
    {shell : Shell}
    (reached : Reached True shell)
    {pid : Pid}
    (valid : pid ≠ 0)
    (once : History.EndsOnce pid shell.host.history) :
    (∀ before mid event own next status,
      shell.host.history =
          before ++ .tracked pid true :: mid ++ event :: own ++ next →
      event.change? pid = some status →
      status.isFinished = true →
      (∀ other ∈ mid ++ own, other.forks pid = false) →
      (∀ other ∈ next.head?, other.forks pid = true) →
      History.KeptBack pid mid ∧
        ((next = [] ∧
            (∀ other ∈ own, other.isDrain = false) ∧
            History.KeptBack pid own ∧
            (shell.jobs.get? pid).isSome = true ∧
            shell.host.slots.watch pid = some (some status)) ∨
          (History.HandsOut pid status own ∧
            (next = [] →
              shell.jobs.get? pid = none ∧
                shell.host.slots.holds pid = false)))) ∧
      (∀ history jobs rest status,
        shell.host.history = history ++ .collected jobs :: rest →
        status ∈ JobTable.statusesOf pid jobs →
        status.isFinished = true →
        History.Completed pid status history) ∧
      (∀ jobs after,
        collect shell = (jobs, after) →
        (∀ errno,
          (Host.block shell.host).1 = .error errno →
          jobs = [] ∧
            after.jobs = shell.jobs ∧
            after.host.slots = (Host.nextBatch shell.host).2.slots ∧
            Host.Uncollecting shell.host after.host) ∧
          ∀ previous,
            (Host.block shell.host).1 = .ok previous →
            ∃ first batch between,
              after.host.history =
                  shell.host.history ++ first ++ .drained batch :: between ++
                    [.collected jobs] ∧
                ∀ event ∈ first ++ between,
                  event.isDrain = false ∧ event.isCollection = false) ∧
      (∀ terminal descriptor launch after,
        execute terminal descriptor shell = (launch, after) →
        Host.Uncollecting shell.host after.host) ∧
      ∀ events,
        Host.Uncollecting shell.host (Host.raiseChild events shell.host).2 := by
  have run := reached.run valid
  refine ⟨?_, ?_, ?_, ?_, fun events => Host.keeps_raiseChild events shell.host⟩
  · intro before mid event own next status split ended finished unforked cut
    rw [split] at run once
    obtain ⟨keptBack, fate⟩ :=
      run.completion rfl once ended finished unforked cut
    refine ⟨keptBack, ?_⟩
    rcases fate with waits | ⟨handsOut, gone⟩
    · exact .inl waits
    · refine .inr ⟨handsOut, fun atEnd => ?_⟩
      obtain ⟨absent, unwatched⟩ := gone atEnd
      have noJob : (shell.jobs.get? pid).isSome = false := absent
      have noSlot : shell.host.slots.watch pid = none := unwatched
      exact
        ⟨by simpa using noJob, by rw [SlotTable.holds_eq_isSome, noSlot]; rfl⟩
  · intro history jobs rest status split handed _
    rw [split] at run
    exact run.completed handed
  · intro jobs after ran
    exact
      ⟨fun errno fails => collect_of_not_blocked ran fails,
        fun previous blocks => collect_of_blocked ran blocks⟩
  · intro terminal descriptor launch after ran
    have launches : OnHost Host.Uncollecting shell _ :=
      follows_execute Host.Uncollecting terminal descriptor shell
    rwa [ran] at launches

/-- A shell with one job in the background, which exits and is collected. -/
def exiting : Shell :=
  (play? true { host := { handling := .reaper } }
    [.start true, .signal [⟨1001, .ok (.exited 5)⟩], .collect]).get
    (by decide +kernel)

/-- The exit of a job in the background is handed out. -/
theorem reached_completions_exiting :
    Reached True exiting ∧
      (1001 : Pid) ≠ 0 ∧
      History.EndsOnce 1001 exiting.host.history ∧
      History.HandsOut 1001 (.done 5) (exiting.host.history.drop 9) ∧
      exiting.jobs.get? 1001 = none ∧
      exiting.host.slots.holds 1001 = false := by
  have reached : Reached True exiting :=
    Reached.of_play? (fun _ => rfl) (.fresh { handling := .reaper } rfl rfl)
      (Option.some_get _).symm
  have once : History.EndsOnce 1001 exiting.host.history :=
    History.endsOnce_of_count (by decide +kernel)
  have split :
      exiting.host.history =
        exiting.host.history.take 5 ++ .tracked 1001 true ::
          (exiting.host.history.drop 6).take 2 ++
          .call (.waitAny (some ⟨1001, .ok (.exited 5)⟩)) none ::
          exiting.host.history.drop 9 ++ [] := by
    rfl
  have valid : (1001 : Pid) ≠ 0 := by decide
  obtain ⟨ends, -⟩ := reached_completions reached valid once
  obtain ⟨-, fate⟩ :=
    ends _ _ _ _ _ (.done 5) split (by decide +kernel) rfl (by decide +kernel)
      (by simp)
  have absent : (exiting.jobs.get? 1001).isSome = false := by decide +kernel
  rcases fate with ⟨-, -, -, isSome, -⟩ | ⟨handsOut, gone⟩
  · rw [absent] at isSome
    contradiction
  · exact ⟨reached, valid, once, handsOut, gone rfl⟩

end Shell
end JobShell

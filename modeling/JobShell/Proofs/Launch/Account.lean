import JobShell.Proofs.Host.Account
import JobShell.Proofs.Launch.Keeps
import JobShell.Proofs.Terminal.Keeps

namespace JobShell

/-!
# What launches and collections do to standings

Every call of a shell takes a standing of each process to another by a lawful
history. A call is cut into stretches, and each stretch is described from the
phase it starts in to the phase it ends in: for the process of the launch these
are the phases of a fork and a wait, and for every other process the shell is
idle all along.
-/

open Host (Quiet Reaping)
open Standing (Run)

theorem Report.change?_ne_running (report : Report) :
    report.change? ≠ some .running := by
  cases report <;> simp [change?]

namespace Settled

theorem outcome?_ne_running (answer : WaitAnswer) :
    outcome? answer ≠ some .running := by
  cases answer with
  | error errno =>
      simp only [outcome?]
      split <;> simp
  | ok report =>
      exact report.change?_ne_running

/-- A wait settles at the first answer with an outcome. -/
theorem ofAnswers_cons (answer : WaitAnswer) (rest : List WaitAnswer) :
    (outcome? answer = none ∧
        ofAnswers (answer :: rest) = (ofAnswers rest).after answer) ∨
      ∃ status,
        outcome? answer = some status ∧
          (ofAnswers (answer :: rest)).answers = [answer] ∧
          (ofAnswers (answer :: rest)).status = status := by
  rcases answer with errno | report
  · by_cases interrupted : errno = .eintr
    · exact
        .inl
          ⟨by simp [outcome?, interrupted], by simp [ofAnswers, interrupted]⟩
    · exact
        .inr
          ⟨.done 0, by simp [outcome?, interrupted],
            by simp [ofAnswers, interrupted]⟩
  · cases report with
    | exited code =>
        exact .inr ⟨_, rfl, rfl, rfl⟩
    | signaled signal core =>
        exact .inr ⟨_, rfl, rfl, rfl⟩
    | stopped signal =>
        exact .inr ⟨_, rfl, rfl, rfl⟩
    | continued =>
        exact .inl ⟨rfl, rfl⟩
    | alive =>
        exact .inl ⟨rfl, rfl⟩
    | traced =>
        exact .inl ⟨rfl, rfl⟩
    | atSystemCall =>
        exact .inl ⟨rfl, rfl⟩

/-- An outcome is a stop only if the answer tells of one. -/
theorem eq_of_outcome?_stopped
    {answer : WaitAnswer}
    {signal : Signal}
    (stops : outcome? answer = some (.stopped signal)) :
    answer = .ok (.stopped signal) := by
  rcases answer with errno | report
  · simp only [outcome?] at stops
    split at stops <;> simp at stops
  · cases report <;> simp_all [outcome?, Report.change?]

/-- The phase a process is in once a wait for it has settled. -/
def phase (status : Status) : Phase :=
  if status.isFinished then .idle else .halted

/-- The answers of a wait, from the first to the one that settles it. -/
theorem run_ofAnswers
    (unique : Prop)
    (pid : Pid)
    (watch : Option (Option Status))
    (answers : List WaitAnswer) :
    (ofAnswers answers).status ≠ .running ∧
      Run unique pid ⟨.forked, true, watch⟩
        ((ofAnswers answers).answers.map fun answer =>
          .call (.wait pid answer) none)
        ⟨phase (ofAnswers answers).status,
          !(ofAnswers answers).status.isFinished, watch⟩ := by
  induction answers with
  | nil =>
      exact
        ⟨nofun, .single (.ended watch (.ok (.exited 0)) (.done 0) rfl rfl)⟩
  | cons answer rest inductionHypothesis =>
      rcases ofAnswers_cons answer rest with
        ⟨goesOn, same⟩ | ⟨status, settles, only, settled⟩
      · obtain ⟨moves, run⟩ := inductionHypothesis
        rw [same]
        exact ⟨moves, .cons (.waited watch answer goesOn) run⟩
      · rw [only, settled]
        refine ⟨fun running => ?_, .single ?_⟩
        · exact outcome?_ne_running answer (running ▸ settles)
        · cases status with
          | running =>
              exact absurd settles (outcome?_ne_running answer)
          | stopped signal =>
              obtain rfl := eq_of_outcome?_stopped settles
              exact .halted watch signal
          | done code =>
              exact .ended watch answer (.done code) settles rfl
          | killed signal =>
              exact .ended watch answer (.killed signal) settles rfl

end Settled

namespace Shell

/-- The standing of a process with a shell in a phase. -/
def standing (pid : Pid) (phase : Phase) (shell : Shell) : Standing :=
  ⟨phase, (shell.jobs.get? pid).isSome, shell.host.slots.watch pid⟩

/-- The table is keyed, and the slots are well formed. -/
structure Sound (shell : Shell) : Prop where
  keyed : shell.jobs.Keyed
  wellFormed : shell.host.slots.WellFormed

/-- A stretch of the shell that is lawful for a process. -/
def Moves
    (unique : Prop)
    (pid : Pid)
    (first second : Phase)
    (before after : Shell) :
    Prop :=
  ∃ added,
    after.host.history = before.host.history ++ added ∧
      Run unique pid (before.standing pid first) added
        (after.standing pid second)

namespace Moves

variable
  {unique : Prop}
  {pid : Pid}
  {first second third : Phase}
  {before middle after : Shell}

theorem trans
    (earlier : Moves unique pid first second before middle)
    (later : Moves unique pid second third middle after) :
    Moves unique pid first third before after := by
  obtain ⟨added, grown, run⟩ := earlier
  obtain ⟨addedLater, grownLater, runLater⟩ := later
  refine ⟨added ++ addedLater, ?_, run.append runLater⟩
  rw [grownLater, grown, List.append_assoc]

/-- A quiet stretch, in any phase. -/
theorem of_quiet
    (quiet : Quiet before.host after.host)
    (jobs : (after.jobs.get? pid).isSome = (before.jobs.get? pid).isSome) :
    Moves unique pid first first before after := by
  obtain ⟨added, grown, apart⟩ := quiet.grows
  refine ⟨added, grown, ?_⟩
  unfold standing
  rw [jobs, quiet.slots]
  exact Run.others (fun event member => apart event member pid) _

/-- A stretch of the reaper, in a phase in which it may run. -/
theorem of_reaping
    (reaping : Reaping before.host after.host)
    (jobs : (after.jobs.get? pid).isSome = (before.jobs.get? pid).isSome)
    (isOpen : first.isOpen = true) :
    Moves unique pid first first before after := by
  obtain ⟨added, grown, runs⟩ := reaping.grows
  refine ⟨added, grown, ?_⟩
  unfold standing
  rw [jobs]
  exact runs unique pid first _ isOpen

end Moves

/-- The phase for one process while a child is launched. -/
def phaseFor (pid child : Pid) (phase : Phase) : Phase :=
  if pid = child then phase else .idle

theorem concerns_tracked_ne
    {pid child : Pid}
    (different : pid ≠ child)
    (granted : Bool) :
    (Event.tracked child granted).concerns pid = false := by
  simp [Event.concerns, Event.forks, Event.isDrain, Event.isCollection,
    Event.change?, Ne.symm different]

/-- A slot that is granted leaves the child to the reaper, in any phase. -/
theorem run_granted
    {unique : Prop}
    {pid child : Pid}
    (valid : pid ≠ 0)
    {slots : SlotTable}
    (granted : (slots.track child).1 = true)
    {phase : Phase}
    (closed : phase.isOpen = false)
    {inTable : Bool}
    (entered : pid = child → inTable = true) :
    Run unique pid
      ⟨phaseFor pid child phase, inTable, slots.watch pid⟩
      [.tracked child true]
      ⟨.idle, inTable, (slots.track child).2.watch pid⟩ := by
  rw [SlotTable.watch_track granted valid]
  by_cases same : pid = child
  · subst same
    rw [phaseFor, if_pos rfl, if_pos rfl, entered rfl]
    exact .single (.watched phase _ closed)
  · rw [phaseFor, if_neg same, if_neg same]
    exact .single (.other _ _ (concerns_tracked_ne same true))

/-- A refusal concerns the child only, and its phase decides what remains. -/
theorem run_refused
    {unique : Prop}
    {pid child : Pid}
    {slots : SlotTable}
    (refused : (slots.track child).1 = false)
    {phase : Phase}
    {inTable remains : Bool}
    (step :
      pid = child →
      Standing.Step unique pid ⟨phase, inTable, none⟩ (.tracked pid false)
        ⟨.idle, remains, none⟩)
    (kept : pid ≠ child → remains = inTable) :
    Run unique pid
      ⟨phaseFor pid child phase, inTable, slots.watch pid⟩
      [.tracked child false]
      ⟨.idle, remains, (slots.track child).2.watch pid⟩ := by
  rw [SlotTable.track_refused refused]
  by_cases same : pid = child
  · subst same
    rw [((SlotTable.track_eq_false_iff slots pid).mp refused).1,
      phaseFor, if_pos rfl]
    exact .single (step rfl)
  · rw [phaseFor, if_neg same, kept same]
    exact .single (.other _ _ (concerns_tracked_ne same false))

/-- Asking for a slot, and the messages about it, as one stretch. -/
theorem run_track
    {unique : Prop}
    {pid child : Pid}
    {first second : Standing}
    {host : Host}
    (run :
      Run unique pid first [.tracked child (host.slots.track child).1] second) :
    ∃ added,
      (Host.track child host).2.history = host.history ++ added ∧
        Run unique pid first added second := by
  obtain ⟨_, _, messages, history, apart⟩ := Host.track_account child host
  refine ⟨_, history, run.append (Run.others ?_ second)⟩
  exact fun event member => apart event member pid

/-- A job is left in the background with a slot, or it is not left in the table. -/
theorem leaveInBackground_eq (child : Pid) (before : Shell) :
    (leaveInBackground child before).2 =
      if (before.host.slots.track child).1 then
        { before with
          host := (Host.track child before.host).2
          lastStatus := none }
      else
        { before with
          host :=
            (Host.note .warn s!"jobsh: {child} runs untracked"
              (Host.track child before.host).2).2
          jobs := (before.jobs.remove child).2
          lastStatus := none } := by
  obtain ⟨answer, -, -⟩ := Host.track_account child before.host
  unfold leaveInBackground
  rw [run_bind, run_lift, answer]
  cases (before.host.slots.track child).1 <;> rfl

/-- A job that is left in the background is watched, or forgotten. -/
theorem moves_leaveInBackground
    {unique : Prop}
    {pid child : Pid}
    (valid : pid ≠ 0)
    {before : Shell}
    (entered : (before.jobs.get? child).isSome = true) :
    Moves unique pid (phaseFor pid child .forked) .idle before
      (leaveInBackground child before).2 := by
  obtain ⟨-, slots, -⟩ := Host.track_account child before.host
  have inTable : pid = child → (before.jobs.get? pid).isSome = true := by
    rintro rfl
    exact entered
  cases granted : (before.host.slots.track child).1 with
  | true =>
      have run :
          Run unique pid (before.standing pid (phaseFor pid child .forked))
            [.tracked child (before.host.slots.track child).1]
            ⟨.idle, (before.jobs.get? pid).isSome,
              (before.host.slots.track child).2.watch pid⟩ := by
        rw [granted]
        exact run_granted valid granted rfl inTable
      obtain ⟨added, history, run⟩ := run_track run
      rw [leaveInBackground_eq, if_pos granted]
      refine ⟨added, history, ?_⟩
      unfold standing
      dsimp only
      rw [slots]
      exact run
  | false =>
      have removed := JobTable.get?_remove before.jobs child pid
      have run :
          Run unique pid (before.standing pid (phaseFor pid child .forked))
            [.tracked child (before.host.slots.track child).1]
            ⟨.idle, ((before.jobs.remove child).2.get? pid).isSome,
              (before.host.slots.track child).2.watch pid⟩ := by
        rw [granted]
        refine run_refused granted ?_ ?_
        · intro same
          rw [inTable same, removed, if_pos same]
          exact .dropped
        · intro different
          rw [removed, if_neg different]
      obtain ⟨added, history, run⟩ := run_track run
      have tracked :
          Moves unique pid (phaseFor pid child .forked) .idle before
            { before with
              host := (Host.track child before.host).2
              jobs := (before.jobs.remove child).2 } := by
        refine ⟨added, history, ?_⟩
        unfold standing
        dsimp only
        rw [slots]
        exact run
      rw [leaveInBackground_eq, granted, if_neg Bool.false_ne_true]
      apply tracked.trans
      exact Moves.of_quiet (Host.keeps_note _ _ _) rfl

/-- The host once a wait for a child has settled and the log says so. -/
def waited (child : Pid) (host : Host) : Host :=
  ((do
    noteTrouble child (Host.wait child host).1.trouble
    Host.note .debug
      s!"jobsh: foreground {child} -> {(Host.wait child host).1.status.logged}"
    : HostM Unit) (Host.wait child host).2).2

/-- A job that stops is left in the background, and every outcome is entered. -/
theorem waitForeground_eq (child : Pid) (before : Shell) :
    (waitForeground child before).2 =
      { before with
        host :=
          match (Host.wait child before.host).1.status with
          | .stopped _ => (Host.track child (waited child before.host)).2
          | _ => waited child before.host
        jobs :=
          (before.jobs.update child
            (Host.wait child before.host).1.status).2 } := by
  unfold waitForeground waited
  simp only [run_bind, run_lift, on_host, on_on]
  cases (Host.wait child before.host).1.status <;> rfl

/-- The wait in the foreground answers the state that settles the job. -/
theorem waitForeground_status (child : Pid) (before : Shell) :
    (waitForeground child before).1 =
      (Host.wait child before.host).1.status := by
  unfold waitForeground
  simp only [run_bind, run_lift]
  cases (Host.wait child before.host).1.status <;> rfl

theorem waited_quiet (child : Pid) (host : Host) :
    Quiet (Host.wait child host).2 (waited child host) := by
  have notes :
      Keeps Quiet
        (do
          noteTrouble child (Host.wait child host).1.trouble
          Host.note .debug
            s!"jobsh: foreground {child} -> {(Host.wait child host).1.status.logged}"
          : HostM Unit) :=
    Keeps.bind (keeps_noteTrouble _ _) fun _ => Host.keeps_note _ _
  exact notes _

/-- The answers of a wait concern the child only. -/
theorem run_wait
    {unique : Prop}
    {pid child : Pid}
    {inTable : Bool}
    (entered : pid = child → inTable = true)
    (host : Host) :
    Run unique pid
      ⟨phaseFor pid child .forked, inTable, host.slots.watch pid⟩
      ((Host.wait child host).1.answers.map fun answer =>
        .call (.wait child answer) none)
      ⟨phaseFor pid child (Settled.phase (Host.wait child host).1.status),
        inTable &&
          !(decide (pid = child) &&
            (Host.wait child host).1.status.isFinished),
        host.slots.watch pid⟩ := by
  by_cases same : pid = child
  · subst same
    obtain ⟨_, run⟩ :=
      Settled.run_ofAnswers unique pid (host.slots.watch pid)
        (host.answersFor pid)
    rw [phaseFor, phaseFor, if_pos rfl, if_pos rfl, entered rfl]
    simp only [decide_true, Bool.true_and]
    exact run
  · rw [phaseFor, phaseFor, if_neg same, if_neg same]
    simp only [same, decide_false, Bool.false_and, Bool.not_false,
      Bool.and_true]
    apply Run.others
    intro event member
    obtain ⟨answer, _, rfl⟩ := List.mem_map.mp member
    simp [Event.concerns, Event.forks, Event.isDrain, Event.isCollection,
      Event.change?, Ne.symm same]

/-- The state that a wait ends with is entered into the table. -/
theorem isSome_get?_update
    (jobs : JobTable)
    (pid child : Pid)
    (status : Status) :
    ((jobs.update child status).2.get? pid).isSome =
      ((jobs.get? pid).isSome &&
        !(decide (pid = child) && status.isFinished)) := by
  by_cases same : pid = child
  · subst same
    simp [JobTable.get?_update]
  · simp [JobTable.get?_update_ne jobs child status same, same]

/-- The shell once a wait has settled, the slot of a stopped job apart. -/
def settled (child : Pid) (before : Shell) : Shell :=
  { before with
    host := waited child before.host
    jobs :=
      (before.jobs.update child (Host.wait child before.host).1.status).2 }

theorem moves_settled
    {unique : Prop}
    {pid child : Pid}
    {before : Shell}
    (entered : (before.jobs.get? child).isSome = true) :
    Moves unique pid (phaseFor pid child .forked)
      (phaseFor pid child
        (Settled.phase (Host.wait child before.host).1.status))
      before (settled child before) := by
  have inTable : pid = child → (before.jobs.get? pid).isSome = true := by
    rintro rfl
    exact entered
  obtain ⟨history, _, slots⟩ := Host.wait_eq child before.host
  obtain ⟨messages, grown, apart⟩ := (waited_quiet child before.host).grows
  have run := (run_wait inTable before.host : Run unique _ _ _ _)
  have noted := run.append (Run.others (fun e m => apart e m pid) _)
  refine ⟨_, (grown.trans (by rw [history, List.append_assoc])), ?_⟩
  have watch :
      (waited child before.host).slots.watch pid =
        before.host.slots.watch pid := by
    rw [(waited_quiet child before.host).slots, slots]
  unfold standing settled
  dsimp only
  rw [watch, isSome_get?_update]
  exact noted

/-- A job that is waited for leaves the table, or is left in the background. -/
theorem moves_waitForeground
    {unique : Prop}
    {pid child : Pid}
    (valid : pid ≠ 0)
    {before : Shell}
    (entered : (before.jobs.get? child).isSome = true) :
    Moves unique pid (phaseFor pid child .forked) .idle before
      (waitForeground child before).2 := by
  have settles : Moves unique pid _ _ before (settled child before) :=
    moves_settled entered
  have moves : (Host.wait child before.host).1.status ≠ .running :=
    (Settled.run_ofAnswers True pid none _).1
  have inTable :
      pid = child →
      (Host.wait child before.host).1.status.isFinished = false →
      ((settled child before).jobs.get? pid).isSome = true := by
    rintro rfl goesOn
    simp [settled, isSome_get?_update, entered, goesOn]
  rw [waitForeground_eq]
  unfold settled at settles inTable
  generalize (Host.wait child before.host).1.status = status
    at settles moves inTable ⊢
  cases status with
  | running =>
      contradiction
  | done code =>
      simpa [Settled.phase, Status.isFinished, phaseFor] using settles
  | killed signal =>
      simpa [Settled.phase, Status.isFinished, phaseFor] using settles
  | stopped signal =>
      apply settles.trans
      have entered := fun same => inTable same rfl
      obtain ⟨_, slots, -⟩ := Host.track_account child (waited child before.host)
      have run :
          Run unique pid
            ⟨phaseFor pid child .halted,
              ((before.jobs.update child (.stopped signal)).2.get? pid).isSome,
              (waited child before.host).slots.watch pid⟩
            [.tracked child
              ((waited child before.host).slots.track child).1]
            ⟨.idle,
              ((before.jobs.update child (.stopped signal)).2.get? pid).isSome,
              ((waited child before.host).slots.track child).2.watch pid⟩ := by
        cases granted : ((waited child before.host).slots.track child).1 with
        | true =>
            exact run_granted valid granted rfl entered
        | false =>
            refine run_refused granted (fun same => ?_) fun _ => rfl
            rw [entered same]
            exact .unwatched
      obtain ⟨added, history, run⟩ := run_track run
      refine ⟨added, history, ?_⟩
      unfold standing
      dsimp only
      rw [slots]
      exact run

/-- Entering a process adds it to the table, and does no more to it. -/
theorem addJob_jobs (descriptor : Descriptor) (shell : Shell) :
    (addJob descriptor shell).2.jobs = (shell.jobs.add descriptor).2 := by
  unfold addJob
  rw [run_bind, run_get]
  dsimp only
  cases (shell.jobs.add descriptor).1 <;> cases descriptor.pid <;> rfl

/-- A child enters the table as a running job; no other process is concerned. -/
theorem entered_jobs
    (descriptor : Descriptor)
    (child : Pid)
    (before : Shell) :
    (entered descriptor child before).jobs =
      (before.jobs.add
        { descriptor with pid := some child, group := some child }).2 := by
  unfold entered enter
  rw [run_bind, run_lift]
  cases (Host.setGroup child child before.host).1 <;>
    exact
      addJob_jobs { descriptor with pid := some child, group := some child } _

/-- A fork and the entry of its child into the table. -/
theorem moves_entered
    {unique : Prop}
    {pid child : Pid}
    {before : Shell}
    (forked : (Host.fork before.host).1 = .parent child)
    (unused :
      unique →
      (before.jobs.get? child).isSome = false ∧
        before.host.slots.watch child = none)
    (descriptor : Descriptor) :
    Moves unique pid .idle (phaseFor pid child .forked) before
      (entered descriptor child (before.on (Host.fork before.host).2)) := by
  obtain ⟨answer, history, _, slots⟩ := Host.fork_eq before.host
  rw [← answer, forked] at history
  have enters :
      Quiet (Host.fork before.host).2
        (entered descriptor child
          (before.on (Host.fork before.host).2)).host :=
    entered_keeps descriptor child (before.on (Host.fork before.host).2)
  obtain ⟨added, grown, apart⟩ := enters.grows
  have step :
      Standing.Step unique pid (before.standing pid .idle)
        (.call (.fork (.parent child)) none)
        ⟨phaseFor pid child .forked,
          ((before.jobs.add
            { descriptor with
              pid := some child
              group := some child }).2.get? pid).isSome,
          before.host.slots.watch pid⟩ := by
    rw [JobTable.get?_add before.jobs rfl]
    by_cases same : pid = child
    · subst same
      rw [phaseFor, if_pos rfl, if_pos rfl]
      exact .forked _ _ unused
    · rw [phaseFor, if_neg same, if_neg same]
      apply Standing.Step.other
      simp [Event.concerns, Event.forks, Event.isDrain, Event.isCollection,
        Event.change?, Ne.symm same]
  refine ⟨_, grown.trans (by rw [history, List.append_assoc]), ?_⟩
  unfold standing
  rw [enters.slots, slots, entered_jobs]
  exact .cons step (Run.others (fun event member => apart event member pid) _)

/-- A job in the foreground, with the terminal handed over and taken back. -/
theorem moves_runInForeground
    {unique : Prop}
    {pid child : Pid}
    (valid : pid ≠ 0)
    (terminal : Terminal)
    {before : Shell}
    (entered : (before.jobs.get? child).isSome = true) :
    Moves unique pid (phaseFor pid child .forked) .idle before
      (runInForeground terminal child before).2 := by
  have hands :
      Moves unique pid _ (phaseFor pid child .forked) before
        (lent terminal child before) :=
    Moves.of_quiet (Terminal.keeps_handOver terminal child before.host) rfl
  have waits :
      Moves unique pid _ .idle (lent terminal child before)
        (waitForeground child (lent terminal child before)).2 :=
    moves_waitForeground valid entered
  have takes :
      Moves unique pid .idle .idle
        (waitForeground child (lent terminal child before)).2
        (runInForeground terminal child before).2 := by
    rw [runInForeground_eq]
    exact Moves.of_quiet (Terminal.keeps_takeBack terminal _) rfl
  exact (hands.trans waits).trans takes

/-- What the shell does with a child that it entered into the table. -/
theorem moves_adopted
    {unique : Prop}
    {pid child : Pid}
    (valid : pid ≠ 0)
    (terminal : Terminal)
    (descriptor : Descriptor)
    (before : Shell) :
    Moves unique pid (phaseFor pid child .forked) .idle
      (entered descriptor child before)
      (adopt terminal descriptor child before).2 := by
  have inTable :
      ((entered descriptor child before).jobs.get? child).isSome = true := by
    rw [entered_jobs, JobTable.get?_add _ rfl, if_pos rfl]
    rfl
  rw [adopt_eq]
  split
  · exact moves_leaveInBackground valid inTable
  · exact moves_runInForeground valid terminal inTable

/-- A launch is lawful for every process. -/
theorem moves_execute
    {unique : Prop}
    {pid child : Pid}
    (valid : pid ≠ 0)
    {terminal : Terminal}
    {descriptor : Descriptor}
    {before after : Shell}
    (ran : execute terminal descriptor before = (.launched child, after))
    (unused :
      unique →
      (before.jobs.get? child).isSome = false ∧
        before.host.slots.watch child = none) :
    Moves unique pid .idle .idle before after := by
  cases execute_executed ran with
  | parent previous blocked _ adopted blocking forked adopts =>
      have announces :
          Reaping before.host (announced descriptor before.host) :=
        Host.keeps_note _ _ before.host
      have blocks : Reaping before.host blocked := by
        have blocks := Frame.trans announces (Host.keeps_block _)
        rwa [blocking] at blocks
      have stillUnused :
          unique →
          ((before.on blocked).jobs.get? child).isSome = false ∧
            (before.on blocked).host.slots.watch child = none := by
        intro isUnique
        obtain ⟨absent, unwatched⟩ := unused isUnique
        refine ⟨absent, ?_⟩
        have same := blocks.holds child
        rw [unwatched] at same
        simpa using same
      have prepares : Moves unique pid .idle .idle before (before.on blocked) :=
        Moves.of_reaping blocks rfl rfl
      have adoption :
          Moves unique pid .idle .idle (before.on blocked) adopted := by
        rw [← adopts]
        exact
          (moves_entered forked stillUnused descriptor).trans
            (moves_adopted valid terminal descriptor _)
      have unblocks : Reaping adopted.host (Host.unblock previous adopted.host).2 :=
        Host.keeps_unblock previous adopted.host
      exact
        (prepares.trans adoption).trans (Moves.of_reaping unblocks rfl rfl)

/-- A launch that is refused leaves no more than the reaper's work. -/
theorem execute_refused
    {terminal : Terminal}
    {descriptor : Descriptor}
    {before after : Shell}
    {e : ShellError}
    (ran : execute terminal descriptor before = (.refused e, after)) :
    after.jobs = before.jobs ∧ Reaping before.host after.host := by
  have fails
      {host : Host}
      {errno : Errno}
      (forked : (Host.fork host).1 = .failed errno) :
      Reaping host (Host.fork host).2 := by
    obtain ⟨answer, history, -, slots⟩ := Host.fork_eq host
    rw [← answer, forked] at history
    refine Quiet.reaping ⟨⟨_, history, ?_⟩, slots⟩
    intro event member pid
    obtain rfl := List.mem_singleton.mp member
    rfl
  obtain ⟨host, reaping, rfl⟩ := aside_of_refused fails ran
  exact ⟨rfl, reaping⟩

end Shell
end JobShell

import JobShell.Proofs.Job.Order
import JobShell.Proofs.Launch.Account
import JobShell.Proofs.Launch.Forks
import JobShell.Proofs.Reaper.Register

namespace JobShell

/-!
# How a launch settles

A job in the foreground is waited for up to the first answer that tells what
became of it, and no further. What the launch leaves follows from that answer:
the job is gone, or it is stopped and in the background, with a slot if one is
free. A job in the background is not waited for. Whatever becomes of the child,
the launch does nothing to the other jobs, and nothing to their slots before it
restores the mask.
-/

namespace Settled

/--
Of the answers to come, a wait skips those that tell nothing, and the next one
settles it with a status.
-/
structure SettlesAt
    (answers skipped : List WaitAnswer)
    (last : WaitAnswer)
    (status : Status) :
    Prop where
  first : skipped ++ [last] <+: answers
  skips : ∀ answer ∈ skipped, outcome? answer = none
  settles : outcome? last = some status

/-- A wait receives the answers up to the one that settles it. -/
theorem ofAnswers_settlesAt (answers : List WaitAnswer) :
    ∃ skipped last,
      (ofAnswers answers).answers = skipped ++ [last] ∧
        SettlesAt (answers ++ [.ok (.exited 0)]) skipped last
          (ofAnswers answers).status := by
  induction answers with
  | nil =>
      exact ⟨[], .ok (.exited 0), rfl, List.prefix_rfl, by simp, rfl⟩
  | cons answer rest inductionHypothesis =>
      rcases ofAnswers_cons answer rest with
        ⟨goesOn, same⟩ | ⟨status, settles, only, settled⟩
      · obtain ⟨skipped, last, received, settlesAt⟩ := inductionHypothesis
        rw [same]
        refine ⟨answer :: skipped, last, ?_, ?_, ?_, settlesAt.settles⟩
        · exact congrArg (answer :: ·) received
        · exact List.prefix_cons_inj answer |>.mpr settlesAt.first
        · exact List.forall_mem_cons.mpr ⟨goesOn, settlesAt.skips⟩
      · rw [only, settled]
        refine ⟨[], answer, rfl, ?_, by simp, settles⟩
        exact List.prefix_cons_inj answer |>.mpr List.nil_prefix

end Settled

namespace SlotTable

/--
A free slot is claimed for a process, and no other slot changes; if none is
free, nothing changes.
-/
inductive Claims (pid : Pid) (before : SlotTable) : Bool → SlotTable → Prop where
  | granted
      (earlier : List Slot)
      (slot : Slot)
      (later : List Slot)
      (shape : before.slots = earlier ++ slot :: later)
      (free : slot.pid = 0) :
      Claims pid before true
        ⟨earlier ++ { slot with pid := pid, mark := .none } :: later⟩
  | refused
      (taken : ∀ slot ∈ before.slots, slot.pid ≠ 0) :
      Claims pid before false before

theorem claims_track
    {table : SlotTable}
    {pid : Pid}
    (unheld : table.holds pid = false) :
    Claims pid table (table.track pid).1 (table.track pid).2 := by
  unfold track
  rw [unheld]
  cases claims : claim? pid table.slots with
  | none =>
      exact .refused ((claim?_eq_none_iff pid table.slots).mp claims)
  | some slots =>
      obtain ⟨earlier, slot, later, shape, free, rfl⟩ := claim?_split claims
      exact .granted earlier slot later shape free

theorem Claims.holds
    {table after : SlotTable}
    {pid : Pid}
    {granted : Bool}
    (claims : Claims pid table granted after)
    (unheld : table.holds pid = false) :
    after.holds pid = granted := by
  cases claims with
  | granted earlier slot later shape free =>
      simp [SlotTable.holds]
  | refused taken =>
      exact unheld

end SlotTable

namespace Event

/-- The event is an answer to waiting for one child. -/
def isWait : Event → Bool
  | .call (.wait _ _) _ => true
  | _ => false

theorem isActive_of_isWait
    {event : Event}
    (wait : event.isWait = true) :
    event.isActive = true ∧ event.isTerminal = false := by
  unfold isWait at wait
  split at wait
  · exact ⟨rfl, rfl⟩
  · contradiction

end Event

instance : Overlooks Event.isWait where
  idle event idle := by
    rw [Bool.eq_false_iff]
    intro wait
    rw [(Event.isActive_of_isWait wait).1] at idle
    contradiction

namespace Host

instance : Unowned (Silent Event.isWait) where
  terminal event terminal := by
    apply silent_emit_of_unchosen
    rw [Bool.eq_false_iff]
    intro wait
    rw [(Event.isActive_of_isWait wait).2] at terminal
    contradiction

/-- The answers to waiting for children are still to come. -/
def SameWaits (before after : Host) : Prop :=
  after.script.waits = before.script.waits

instance : Reapable SameWaits where
  refl _ := rfl
  trans before after := Eq.trans after before
  same _ _ children _ := congrArg Prod.snd children
  plain _ _ _ := rfl
  mask _ _ := rfl
  masking _ _ _ := rfl
  reap _ := rfl

instance : Unowned SameWaits where
  terminal _ _ _ := rfl

theorem sameWaits_fork : Keeps SameWaits fork := by
  intro host
  change (fork host).2.script.waits = host.script.waits
  simp only [fork, run_bind, run_get]
  cases host.script.forks <;> rfl

theorem wait_eq_ofAnswers
    {child : Pid}
    (valid : 0 < child)
    (host : Host) :
    (wait child host).1 = Settled.ofAnswers (host.script.waits child) := by
  have single : child ≠ anyChild := by
    rintro rfl
    contradiction
  exact congrArg Settled.ofAnswers (if_neg single)

end Host

namespace Shell

open Host (Adds Quiet Reaping SameWaits Silent)

/-- The slots once a wait has settled: a job that stopped asks for one. -/
def slotsAfter (child : Pid) (status : Status) (slots : SlotTable) : SlotTable :=
  match status with
  | .stopped _ => (slots.track child).2
  | _ => slots

theorem waitForeground_slots (child : Pid) (before : Shell) :
    (waitForeground child before).2.host.slots =
      slotsAfter child (Host.wait child before.host).1.status
        before.host.slots := by
  have waits : (waited child before.host).slots = before.host.slots :=
    (waited_quiet child before.host).slots.trans (Host.wait_eq child before.host).2.2
  rw [waitForeground_eq]
  cases (Host.wait child before.host).1.status with
  | stopped signal =>
      obtain ⟨-, slots, -⟩ := Host.track_account child (waited child before.host)
      exact slots.trans (by rw [waits]; rfl)
  | _ =>
      exact waits

/--
A job in the foreground is waited for up to the answer that settles it, which is
entered into the table and remembered.
-/
theorem runInForeground_settles
    (terminal : Terminal)
    {child : Pid}
    (valid : 0 < child)
    {before after : Shell}
    (ran : (runInForeground terminal child before).2 = after)
    {settled : Settled}
    (settles : Settled.ofAnswers (before.host.script.waits child) = settled) :
    after.lastStatus = some settled.status ∧
      after.jobs = (before.jobs.update child settled.status).2 ∧
      after.host.slots = slotsAfter child settled.status before.host.slots ∧
      Adds Event.isWait
        (settled.answers.map fun answer => .call (.wait child answer) none)
        before.host after.host := by
  have answers : (Host.wait child (lent terminal child before).host).1 = settled := by
    have same : SameWaits before.host (lent terminal child before).host :=
      Terminal.keeps_handOver terminal child before.host
    rw [Host.wait_eq_ofAnswers valid, same, settles]
  subst ran
  rw [runInForeground_eq, waitForeground_status, answers]
  refine ⟨rfl, ?_, ?_, ?_⟩
  · rw [waitForeground_eq, answers]
    rfl
  · have waits := waitForeground_slots child (lent terminal child before)
    have hands : Quiet before.host (lent terminal child before).host :=
      Terminal.keeps_handOver terminal child before.host
    rw [answers, hands.slots] at waits
    have takes :
        Quiet _ (terminal.takeBack
          (waitForeground child (lent terminal child before)).2.host).2 :=
      Terminal.keeps_takeBack terminal _
    exact takes.slots.trans waits
  · have hands : Silent Event.isWait before.host (lent terminal child before).host :=
      Terminal.keeps_handOver terminal child before.host
    have waits := adds_received Event.isWait child (lent terminal child before)
    rw [answers, List.filter_eq_self.mpr (by simp [Event.isWait])] at waits
    exact (hands.after_silent waits).then_silent (Terminal.keeps_takeBack terminal _)

/--
A launch comes to be the parent of a child: it can be handed to the system,
SIGCHLD is blocked, and the fork answers with the child.
-/
structure Launches
    (descriptor : Descriptor)
    (child : Pid)
    (before : Shell)
    (previous : Bool)
    (blocked : Host) :
    Prop where
  wellFormed : ∃ program arguments, WellFormed descriptor program arguments
  blocks : Host.block (announced descriptor before.host) = (.ok previous, blocked)
  forks : (Host.fork blocked).1 = .parent child

/-- A process is in neither the table nor the slots. -/
structure Unknown (child : Pid) (shell : Shell) : Prop where
  valid : 0 < child
  absent : shell.jobs.get? child = none
  unheld : shell.host.slots.holds child = false

/--
What a child in the foreground leaves that settled with a status. The status is
remembered. A child that stopped is in the table in the background, and has a
slot if one is free. Any other is not in the table, and no slot changed.
-/
structure Attended
    (descriptor : Descriptor)
    (child : Pid)
    (before : Shell)
    (blocked : Host)
    (worked : Shell)
    (status : Status) :
    Prop where
  remembered : worked.lastStatus = some status
  settled : status ≠ .running
  stopped :
    ∀ signal,
      status = .stopped signal →
      worked.jobs.get? child =
          some
            ⟨before.jobs.freeIndex,
              { descriptor with
                background := true
                pid := some child
                group := some child },
              .stopped signal⟩ ∧
        ∃ granted,
          SlotTable.Claims child blocked.slots granted worked.host.slots ∧
            worked.host.slots.holds child = granted
  finished :
    status.isFinished = true →
    worked.jobs.get? child = none ∧ worked.host.slots = blocked.slots

/--
What a child in the background leaves. It runs and has a slot, or there is no
free slot and it is not in the table.
-/
structure Unattended
    (descriptor : Descriptor)
    (child : Pid)
    (before : Shell)
    (blocked : Host)
    (worked : Shell)
    (granted : Bool) :
    Prop where
  forgotten : worked.lastStatus = none
  claims : SlotTable.Claims child blocked.slots granted worked.host.slots
  held : worked.host.slots.holds child = granted
  listed :
    worked.jobs.get? child =
      if granted then
        some
          ⟨before.jobs.freeIndex,
            { descriptor with pid := some child, group := some child },
            .running⟩
      else none

section Launch

variable
  {terminal : Terminal}
  {descriptor : Descriptor}
  {child : Pid}
  {before : Shell}
  {previous : Bool}
  {blocked : Host}

/-- The child has its entry in the table; it has no slot, and nobody waits yet. -/
structure Prepared
    (descriptor : Descriptor)
    (child : Pid)
    (before : Shell)
    (blocked : Host)
    (entry : Shell) :
    Prop where
  jobs :
    entry.jobs =
      (before.jobs.add
        { descriptor with pid := some child, group := some child }).2
  slots : entry.host.slots = blocked.slots
  unheld : blocked.slots.holds child = false
  waits : entry.host.script.waits = before.host.script.waits
  silent : Silent Event.isWait before.host entry.host

theorem prepared_entered
    (launches : Launches descriptor child before previous blocked)
    (unknown : Unknown child before) :
    Prepared descriptor child before blocked
      (entered descriptor child (before.on (Host.fork blocked).2)) := by
  have blocks {relation : Host → Host → Prop} [Reapable relation] :
      relation before.host blocked := by
    have announced :
        relation before.host (Host.block (announced descriptor before.host)).2 :=
      Frame.trans (Host.keeps_note _ _ before.host) (Host.keeps_block _)
    rwa [launches.blocks] at announced
  have enters {relation : Host → Host → Prop} [Indifferent relation] :
      relation (Host.fork blocked).2
        (entered descriptor child (before.on (Host.fork blocked).2)).host :=
    entered_keeps descriptor child (before.on (Host.fork blocked).2)
  have forks : Silent Event.isWait blocked (Host.fork blocked).2 :=
    Host.adds_fork Event.isWait blocked
  constructor
  · rw [entered_jobs]
    rfl
  · have entering : Quiet _ _ := enters
    exact entering.slots.trans (Host.fork_eq blocked).2.2.2
  · have reaping : Reaping before.host blocked := blocks
    have same := reaping.holds child
    rw [← SlotTable.holds_eq_isSome, ← SlotTable.holds_eq_isSome] at same
    exact same.trans unknown.unheld
  · have blocking : SameWaits before.host blocked := blocks
    have entering : SameWaits (Host.fork blocked).2 _ := enters
    exact entering.trans ((Host.sameWaits_fork blocked).trans blocking)
  · have blocking : Silent Event.isWait before.host blocked := blocks
    exact (blocking.then_silent forks).then_silent enters

variable {entry : Shell}

/-- The child is the running job that was entered last. -/
theorem Prepared.get?_child
    (prepared : Prepared descriptor child before blocked entry) :
    entry.jobs.get? child =
      some
        ⟨before.jobs.freeIndex,
          { descriptor with pid := some child, group := some child },
          .running⟩ := by
  rw [prepared.jobs, JobTable.get?_add before.jobs rfl, if_pos rfl]

theorem Prepared.remove_child
    (prepared : Prepared descriptor child before blocked entry)
    (unknown : Unknown child before) :
    (entry.jobs.remove child).2 = before.jobs := by
  rw [prepared.jobs, JobTable.remove_add before.jobs rfl,
    JobTable.remove_of_absent unknown.absent]

theorem Prepared.claims_track
    (prepared : Prepared descriptor child before blocked entry) :
    SlotTable.Claims child blocked.slots (entry.host.slots.track child).1
        (entry.host.slots.track child).2 ∧
      (entry.host.slots.track child).2.holds child =
        (entry.host.slots.track child).1 := by
  have claims := SlotTable.claims_track prepared.unheld
  rw [prepared.slots]
  exact ⟨claims, claims.holds prepared.unheld⟩

theorem unattended_leaveInBackground
    (prepared : Prepared descriptor child before blocked entry)
    (unknown : Unknown child before)
    {worked : Shell}
    (left : (leaveInBackground child entry).2 = worked) :
    (worked.jobs.remove child).2 = before.jobs ∧
      Silent Event.isWait before.host worked.host ∧
      ∃ granted, Unattended descriptor child before blocked worked granted := by
  obtain ⟨claims, held⟩ := prepared.claims_track
  obtain ⟨-, slots, -⟩ := Host.track_account child entry.host
  have others := prepared.remove_child unknown
  have silent : Silent Event.isWait before.host worked.host := by
    rw [← left]
    exact prepared.silent.then_silent (keeps_leaveInBackground child entry)
  subst left
  rw [leaveInBackground_eq] at silent ⊢
  cases granted : (entry.host.slots.track child).1 with
  | true =>
      rw [granted] at claims held silent
      refine ⟨others, silent, true, ?_⟩
      exact
        { forgotten := rfl
          claims := slots ▸ claims
          held := slots ▸ held
          listed := prepared.get?_child }
  | false =>
      rw [granted] at claims held silent
      refine ⟨?_, silent, false, ?_⟩
      · exact (JobTable.remove_remove entry.jobs child).trans others
      · exact
          { forgotten := rfl
            claims := slots ▸ claims
            held := slots ▸ held
            listed := (JobTable.get?_remove entry.jobs child child).trans (if_pos rfl) }

theorem attended_runInForeground
    (prepared : Prepared descriptor child before blocked entry)
    (unknown : Unknown child before)
    {worked : Shell}
    (ran : (runInForeground terminal child entry).2 = worked) :
    (worked.jobs.remove child).2 = before.jobs ∧
      ∃ skipped last status,
        Settled.SettlesAt
            (before.host.script.waits child ++ [.ok (.exited 0)])
            skipped last status ∧
          Adds Event.isWait
            ((skipped ++ [last]).map fun answer => .call (.wait child answer) none)
            before.host worked.host ∧
          Attended descriptor child before blocked worked status := by
  obtain ⟨skipped, last, received, settlesAt⟩ :=
    Settled.ofAnswers_settlesAt (before.host.script.waits child)
  obtain ⟨remembered, jobs, slots, adds⟩ :=
    runInForeground_settles terminal unknown.valid ran
      (congrArg (fun waits => Settled.ofAnswers (waits child)) prepared.waits)
  generalize Settled.ofAnswers (before.host.script.waits child) = settled
    at received settlesAt remembered jobs slots adds
  have found := JobTable.get?_update_eq prepared.get?_child settled.status
  rw [← jobs] at found
  refine ⟨?_, skipped, last, settled.status, settlesAt, ?_, ?_⟩
  · rw [jobs, JobTable.remove_update]
    exact prepared.remove_child unknown
  · rw [← received]
    exact prepared.silent.after_silent adds
  · refine ⟨remembered, ?_, ?_, ?_⟩
    · intro running
      exact Settled.outcome?_ne_running last (running ▸ settlesAt.settles)
    · intro signal stops
      rw [stops] at found slots
      have tracked : worked.host.slots = (entry.host.slots.track child).2 := slots
      obtain ⟨claims, held⟩ := prepared.claims_track
      exact ⟨found, _, tracked ▸ claims, tracked ▸ held⟩
    · intro finished
      rw [finished] at found
      refine ⟨found, slots.trans ?_⟩
      rw [← prepared.slots]
      cases status : settled.status with
      | stopped signal =>
          rw [status] at finished
          contradiction
      | _ =>
          rfl

/-- The parent adopts the child, and then restores the mask. -/
theorem execute_launched
    (launches : Launches descriptor child before previous blocked)
    {worked : Shell}
    (adopts :
      (adopt terminal descriptor child (before.on (Host.fork blocked).2)).2 =
        worked) :
    execute terminal descriptor before =
      (.launched child, worked.on (Host.unblock previous worked.host).2) := by
  obtain ⟨program, arguments, programOk, argumentsOk⟩ := launches.wellFormed
  rw [execute_eq programOk argumentsOk, run_bind, run_lift, on_host,
    launches.blocks]
  dsimp only
  unfold forkBlocked
  rw [run_bind, run_lift, on_on, on_host, launches.forks]
  subst adopts
  rfl

/--
A launch of a child that has neither a job nor a slot. In the foreground, the
child is waited for up to the first answer with an outcome, which decides what
is left; in the background, it is not waited for. The table without the child is
the one from before; the slots change for the child only until the mask is
restored, and then every process that has a slot keeps one.
-/
theorem execute_settles
    (launches : Launches descriptor child before previous blocked)
    (unknown : Unknown child before) :
    ∃ worked after : Shell,
      execute terminal descriptor before = (.launched child, after) ∧
        after = worked.on (Host.unblock previous worked.host).2 ∧
        (∀ pid, after.host.slots.holds pid = worked.host.slots.holds pid) ∧
        (worked.jobs.remove child).2 = before.jobs ∧
        (descriptor.background = false →
          ∃ skipped last status,
            Settled.SettlesAt
                (before.host.script.waits child ++ [.ok (.exited 0)])
                skipped last status ∧
              Adds Event.isWait
                ((skipped ++ [last]).map fun answer =>
                  .call (.wait child answer) none)
                before.host after.host ∧
              Attended descriptor child before blocked worked status) ∧
        (descriptor.background = true →
          Silent Event.isWait before.host after.host ∧
            ∃ granted,
              Unattended descriptor child before blocked worked granted) := by
  have prepared := prepared_entered launches unknown
  have adopts :=
    adopt_eq terminal descriptor child (before.on (Host.fork blocked).2)
  generalize adopted :
    (adopt terminal descriptor child (before.on (Host.fork blocked).2)).2 =
      worked at adopts
  have unblocks {relation : Host → Host → Prop} [Reapable relation] :
      relation worked.host (Host.unblock previous worked.host).2 :=
    Host.keeps_unblock previous worked.host
  have holds (pid : Pid) :
      (Host.unblock previous worked.host).2.slots.holds pid =
        worked.host.slots.holds pid := by
    have reaping : Reaping worked.host _ := unblocks
    rw [SlotTable.holds_eq_isSome, SlotTable.holds_eq_isSome, reaping.holds]
  refine ⟨worked, _, execute_launched launches adopted, rfl, holds, ?_⟩
  cases kind : descriptor.background with
  | false =>
      rw [kind, if_neg Bool.false_ne_true] at adopts
      obtain ⟨others, skipped, last, status, settlesAt, adds, attended⟩ :=
        attended_runInForeground prepared unknown adopts.symm
      refine ⟨others, fun _ => ?_, nofun⟩
      exact
        ⟨skipped, last, status, settlesAt, adds.then_silent unblocks, attended⟩
  | true =>
      rw [kind, if_pos rfl] at adopts
      obtain ⟨others, silent, granted, unattended⟩ :=
        unattended_leaveInBackground prepared unknown adopts.symm
      refine ⟨others, nofun, fun _ => ?_⟩
      exact ⟨silent.then_silent unblocks, granted, unattended⟩

end Launch

/-- A program in the foreground, or in the background. -/
def editor (background : Bool) : Descriptor :=
  { program := [47, 101]
    arguments := ["/e".toList]
    redirection := none
    background := background
    pid := none
    group := none }

/-- A shell whose child goes on after an interruption, and then stops. -/
def editing : Shell :=
  { host :=
      { handling := .reaper
        script :=
          { forks := [.parent 301]
            waits := fun _ =>
              [.error .eintr, .ok .continued, .ok (.stopped .tstp),
                .ok (.exited 3)] } } }

/--
In the foreground the child is waited for until it stops, and the exit after
that is not asked for; in the background it is not waited for.
-/
theorem execute_settles_editing :
    (∃ after : Shell,
        execute (.detached 500) (editor false) editing = (.launched 301, after) ∧
          (after.jobs.remove 301).2 = editing.jobs ∧
          ∃ skipped last status,
            Settled.SettlesAt
                [.error .eintr, .ok .continued, .ok (.stopped .tstp),
                  .ok (.exited 3), .ok (.exited 0)]
                skipped last status ∧
              after.lastStatus = some status) ∧
      ∃ after : Shell,
        execute (.detached 500) (editor true) editing = (.launched 301, after) ∧
          Silent Event.isWait editing.host after.host ∧
          after.lastStatus = none := by
  have unknown : Unknown 301 editing := ⟨by decide, rfl, by decide +kernel⟩
  have launches (background : Bool) :
      Launches (editor background) 301 editing false
        (Host.block (announced (editor background) editing.host)).2 :=
    ⟨⟨_, _, rfl, rfl⟩, rfl, rfl⟩
  obtain ⟨stopped, _, ran, rfl, -, others, waits, -⟩ :=
    execute_settles (launches false) unknown
  obtain ⟨left, _, ranToo, rfl, -, -, -, forgets⟩ :=
    execute_settles (launches true) unknown
  obtain ⟨skipped, last, status, settlesAt, -, attended⟩ := waits rfl
  obtain ⟨silent, granted, unattended⟩ := forgets rfl
  exact
    ⟨⟨_, ran, others, skipped, last, status, settlesAt, attended.remembered⟩,
      _, ranToo, silent, unattended.forgotten⟩

end Shell
end JobShell

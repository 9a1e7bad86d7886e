import JobShell.Proofs.Launch.Sound

namespace JobShell

/-!
# Shells that launches and collections lead to

A shell is reached by launches, collections and signals in any order, from a
shell with no jobs, free slots and an empty history. Whatever the order, the
history of a reached shell is lawful for each process.
-/

open Host (Reaping)
open Standing (Run)

namespace Shell

/-- The changes of a process that a collection applies. -/
theorem changes_of (host : Host) (pid : Pid) :
    ((changes host).filter (·.1 = pid)).map Prod.snd =
      SlotTable.statusesOf pid host.slots.drain.1 := by
  simp [changes, SlotTable.statusesOf, List.filter_map, Function.comp_def]

/-- A collection hands a job out in the state that its slot was marked with. -/
theorem run_collected
    {unique : Prop}
    {pid : Pid}
    (valid : pid ≠ 0)
    {before : Shell}
    (keyed : before.jobs.Keyed)
    {blocked : Host}
    (wellFormed : blocked.slots.WellFormed)
    (watch : Option (Option Status)) :
    Run unique pid
      ⟨.drained
          (if (before.jobs.get? pid).isSome then
            (blocked.slots.watch pid).join
          else none),
        (before.jobs.get? pid).isSome, watch⟩
      [.collected
        (JobTable.sortByIndex (before.jobs.updateAll (changes blocked)).1)]
      ⟨.idle,
        ((before.jobs.updateAll (changes blocked)).2.get? pid).isSome,
        watch⟩ := by
  have only :
      ((changes blocked).filter (·.1 = pid)).map Prod.snd =
        (blocked.slots.watch pid).join.toList := by
    rw [changes_of, SlotTable.statusesOf_drained wellFormed valid]
  obtain ⟨handed, kept⟩ :=
    JobTable.updateAll_only keyed only
      (SlotTable.join_watch_ne_running blocked.slots pid)
  rw [kept]
  cases entered : (before.jobs.get? pid).isSome with
  | true =>
      rw [entered, if_pos rfl] at handed
      exact
        .single (.collected true watch _ _ (JobTable.statusesOf_sortByIndex handed))
  | false =>
      rw [entered, if_neg Bool.false_ne_true] at handed
      have silent : JobTable.statusesOf pid _ = (none : Option Status).toList :=
        handed
      exact
        .single (.collected false watch none _ (JobTable.statusesOf_sortByIndex silent))

/-- A collection is lawful for every process. -/
theorem moves_collect
    {unique : Prop}
    {pid : Pid}
    (valid : pid ≠ 0)
    {before after : Shell}
    (sound : before.Sound)
    {jobs : List Job}
    (ran : collect before = (jobs, after)) :
    Moves unique pid .idle .idle before after := by
  have blocks : Reaping before.host (Host.block before.host).2 :=
    Host.keeps_block before.host
  cases collect_collected ran with
  | notBlocked errno unblocked message blocking =>
      rw [blocking] at blocks
      have notes : Reaping unblocked (Host.note .error message unblocked).2 :=
        Host.keeps_note _ _ unblocked
      exact Moves.of_reaping (Frame.trans blocks notes) rfl rfl
  | handedOut previous blocked jobs blocking handed =>
      rw [blocking] at blocks
      have wellFormed : blocked.slots.WellFormed :=
        blocks.wellFormed sound.wellFormed
      let due : Option Status :=
        if (before.jobs.get? pid).isSome then (blocked.slots.watch pid).join
        else none
      have prepares : Moves unique pid .idle .idle before (before.on blocked) :=
        Moves.of_reaping blocks rfl rfl
      have drains :
          Moves unique pid .idle (.drained due) (before.on blocked)
            (before.on (Host.drain blocked).2) := by
        refine ⟨[.drained blocked.slots.drain.1], rfl, .single ?_⟩
        unfold standing
        change
          Standing.Step unique pid _ _
            ⟨_, _, blocked.slots.drain.2.watch pid⟩
        rw [SlotTable.watch_drain wellFormed valid]
        exact .drained _ _ _ (SlotTable.statusesOf_drained wellFormed valid)
      have unblocks :
          Moves unique pid (.drained due) (.drained due)
            (before.on (Host.drain blocked).2)
            (before.on (emptied previous blocked)) :=
        Moves.of_reaping (Host.keeps_unblock previous _) rfl rfl
      refine ((prepares.trans drains).trans unblocks).trans ?_
      rw [← handed]
      exact ⟨_, rfl, run_collected valid sound.keyed wellFormed _⟩

theorem tidy_collect : Keeps Tidy collect := by
  intro before sound
  cases ran : collect before with
  | mk jobs after =>
      have blocks : Host.Tidy before.host (Host.block before.host).2 :=
        Host.keeps_block before.host
      cases collect_collected ran with
      | notBlocked errno unblocked message blocking =>
          rw [blocking] at blocks
          exact ⟨sound.keyed, blocks sound.wellFormed⟩
      | handedOut previous blocked jobs blocking handed =>
          rw [blocking] at blocks
          have unblocks : Host.Tidy (Host.drain blocked).2 (emptied previous blocked) :=
            Host.keeps_unblock previous _
          exact
            ⟨JobTable.updateAll_keyed sound.keyed _,
              unblocks (Host.tidy_drain blocked (blocks sound.wellFormed))⟩

/--
The shells that are reached from one with no jobs. With `unique`, a fork never
answers with the number of a process that is still in the table or in a slot.
-/
inductive Reached (unique : Prop) : Shell → Prop
  | fresh (host : Host) :
      host.slots = SlotTable.empty →
      host.history = [] →
      Reached unique { host := host }
  /-- A program is launched, in the background or not. -/
  | launched
      {before after : Shell}
      (terminal : Terminal)
      (descriptor : Descriptor)
      (pid : Pid) :
      Reached unique before →
      execute terminal descriptor before = (.launched pid, after) →
      (unique →
        before.jobs.get? pid = none ∧ before.host.slots.holds pid = false) →
      Reached unique after
  /-- A launch fails. -/
  | refused
      {before after : Shell}
      (terminal : Terminal)
      (descriptor : Descriptor)
      (e : ShellError) :
      Reached unique before →
      execute terminal descriptor before = (.refused e, after) →
      Reached unique after
  /-- The jobs that changed are collected, or SIGCHLD cannot be blocked. -/
  | collected {before after : Shell} (jobs : List Job) :
      Reached unique before →
      collect before = (jobs, after) →
      Reached unique after
  /-- Something happens to children. -/
  | signalled {before : Shell} (events : List ChildEvent) :
      Reached unique before →
      Reached unique (before.on (Host.raiseChild events before.host).2)
  /-- Something else happens that concerns no child, such as a prompt. -/
  | elsewhere {before : Shell} (host : Host) :
      Reached unique before →
      Host.Quiet before.host host →
      Reached unique (before.on host)

namespace Reached

variable {unique : Prop} {shell : Shell}

theorem sound (reached : Reached unique shell) : shell.Sound := by
  induction reached with
  | fresh host slots history =>
      refine ⟨JobTable.empty_keyed, ?_⟩
      rw [slots]
      exact SlotTable.empty_wellFormed
  | @launched before after terminal descriptor pid _ ran _ inductionHypothesis =>
      have tidy := tidy_execute terminal descriptor before inductionHypothesis
      rwa [ran] at tidy
  | @refused before after terminal descriptor e _ ran inductionHypothesis =>
      have tidy := tidy_execute terminal descriptor before inductionHypothesis
      rwa [ran] at tidy
  | @collected before after jobs _ ran inductionHypothesis =>
      have tidy := tidy_collect before inductionHypothesis
      rwa [ran] at tidy
  | @signalled before events _ inductionHypothesis =>
      have raises : Host.Tidy before.host _ :=
        Host.keeps_raiseChild events before.host
      exact
        ⟨inductionHypothesis.keyed, raises inductionHypothesis.wellFormed⟩
  | @elsewhere before host _ quiet inductionHypothesis =>
      exact
        ⟨inductionHypothesis.keyed,
          Host.tidy_of_slots quiet.slots inductionHypothesis.wellFormed⟩

/-- The history of a reached shell is lawful for each process. -/
theorem run
    (reached : Reached unique shell)
    {pid : Pid}
    (valid : pid ≠ 0) :
    Run unique pid Standing.unknown shell.host.history
      (shell.standing pid .idle) := by
  have moved
      {before after : Shell}
      (earlier :
        Run unique pid Standing.unknown before.host.history
          (before.standing pid .idle))
      (moves : Moves unique pid .idle .idle before after) :
      Run unique pid Standing.unknown after.host.history
        (after.standing pid .idle) := by
    obtain ⟨added, grown, later⟩ := moves
    rw [grown]
    exact earlier.append later
  induction reached with
  | fresh host slots history =>
      have start :
          Shell.standing pid .idle { host := host } = Standing.unknown := by
        simp [standing, Standing.unknown, slots, SlotTable.watch_empty valid,
          JobTable.get?]
      rw [start, history]
      exact .nil _
  | launched terminal descriptor child _ ran unused inductionHypothesis =>
      refine moved inductionHypothesis (moves_execute valid ran fun isUnique => ?_)
      obtain ⟨absent, unheld⟩ := unused isUnique
      refine ⟨by simp [absent], ?_⟩
      rwa [SlotTable.holds_eq_isSome, Option.isSome_eq_false_iff,
        Option.isNone_iff_eq_none] at unheld
  | refused terminal descriptor e _ ran inductionHypothesis =>
      obtain ⟨jobs, reaping⟩ := execute_refused ran
      exact
        moved inductionHypothesis
          (Moves.of_reaping reaping (by rw [jobs]) rfl)
  | collected jobs earlier ran inductionHypothesis =>
      exact moved inductionHypothesis (moves_collect valid earlier.sound ran)
  | @signalled before events _ inductionHypothesis =>
      exact
        moved inductionHypothesis
          (Moves.of_reaping (Host.keeps_raiseChild events before.host) rfl rfl)
  | elsewhere host _ quiet inductionHypothesis =>
      exact moved inductionHypothesis (Moves.of_quiet quiet rfl)

end Reached

/-- What is done to a shell from outside. -/
inductive Deed where
  | launch (terminal : Terminal) (descriptor : Descriptor)
  | collect
  | signal (events : List ChildEvent)

/--
The shell after a deed, unless it is a forked child by then. With `checks`, a
child must have a number that neither the table nor a slot holds.
-/
def Deed.play? (checks : Bool) (shell : Shell) : Deed → Option Shell
  | launch terminal descriptor =>
      match execute terminal descriptor shell with
      | (.launched pid, after) =>
          if checks &&
              ((shell.jobs.get? pid).isSome || shell.host.slots.holds pid) then
            none
          else some after
      | (.refused _, after) => some after
      | (.ended _, _) => none
  | collect => some (Shell.collect shell).2
  | signal events => some (shell.on (Host.raiseChild events shell.host).2)

/-- The launch of a program, without a terminal. -/
def Deed.start (background : Bool) : Deed :=
  .launch (.detached 500)
    { program := [47, 112]
      arguments := [['p']]
      redirection := none
      background := background
      pid := none
      group := none }

/-- The shell after deeds in order. -/
def play? (checks : Bool) (shell : Shell) : List Deed → Option Shell
  | [] => some shell
  | deed :: rest =>
      (deed.play? checks shell).bind fun next => next.play? checks rest

namespace Reached

variable {unique : Prop} {checks : Bool} {before after : Shell}

theorem of_deed
    (asked : unique → checks = true)
    (reached : Reached unique before)
    {deed : Deed}
    (played : deed.play? checks before = some after) :
    Reached unique after := by
  cases deed with
  | launch terminal descriptor =>
      simp only [Deed.play?] at played
      cases ran : execute terminal descriptor before with
      | mk launch next =>
          rw [ran] at played
          cases launch with
          | ended ending =>
              contradiction
          | refused e =>
              obtain rfl := Option.some.inj played
              exact .refused terminal descriptor e reached ran
          | launched pid =>
              dsimp only at played
              split at played
              · contradiction
              · rename_i passed
                obtain rfl := Option.some.inj played
                refine .launched terminal descriptor pid reached ran ?_
                intro isUnique
                simpa [asked isUnique] using passed
  | collect =>
      obtain rfl := Option.some.inj played
      exact .collected _ reached rfl
  | signal events =>
      obtain rfl := Option.some.inj played
      exact .signalled events reached

/-- What deeds lead to is reached. -/
theorem of_play?
    (asked : unique → checks = true)
    (reached : Reached unique before)
    {deeds : List Deed}
    (played : before.play? checks deeds = some after) :
    Reached unique after := by
  induction deeds generalizing before with
  | nil =>
      obtain rfl := Option.some.inj played
      exact reached
  | cons deed rest inductionHypothesis =>
      obtain ⟨next, first, later⟩ := Option.bind_eq_some_iff.mp played
      exact inductionHypothesis (of_deed asked reached first) later

end Reached
end Shell
end JobShell

import JobShell.Proofs.Launch.Keeps
import JobShell.Proofs.Terminal.Trail

namespace JobShell

/-!
# What a launch adds to a trail

A launch in the background adds its fork and nothing else. A launch in the
foreground adds its fork, one attempt to hand the terminal over, the answers to
waiting for the child, and the attempt to take the terminal back. Without a
terminal there are no such attempts, and a forked child makes none either.
-/

open Host (Adds Silent)

/-- What a computation on the host added, and silent ones after it. -/
theorem Keeps.then_silent
    {keep : Event → Bool}
    {added : History}
    {first : HostM α}
    {next : α → ShellM β}
    {shell : Shell}
    (adds : Adds keep added shell.host (first shell.host).2)
    (silent : ∀ answer, Keeps (OnHost (Silent keep)) (next answer)) :
    OnHost (Adds keep added) shell
      ((liftM first >>= next : ShellM β) shell).2 :=
  adds.then_silent
    (silent (first shell.host).1 (shell.on (first shell.host).2))

namespace Shell

section Silence

variable {keep : Event → Bool}

variable [Overlooks keep]

theorem keeps_collect : Keeps (OnHost (Silent keep)) collect :=
  keeps_collect_of_drain Host.keeps_drain fun _ => Host.silent_emit rfl

theorem keeps_leaveInBackground (pid : Pid) :
    Keeps (OnHost (Silent keep)) (leaveInBackground pid) := by
  have tracks : Keeps (Silent keep) (Host.track pid) := Host.keeps_track pid
  exact follows_leaveInBackground tracks

variable (keep) in
/-- Waiting adds the answers that were received. -/
theorem adds_received (pid : Pid) (shell : Shell) :
    Adds keep
      (((Host.wait pid shell.host).1.answers.map fun answer =>
        Event.call (.wait pid answer) none).filter keep)
      shell.host (waitForeground pid shell).2.host := by
  refine Keeps.then_silent (Host.adds_wait keep pid shell.host) ?_
  intro settled
  refine Keeps.bind (keeps_noteTrouble _ _).onHost fun _ => ?_
  refine Keeps.bind (Host.keeps_note _ _).onHost fun _ => ?_
  dsimp only
  split
  · refine Keeps.bind (Host.keeps_track pid).onHost fun _ => ?_
    exact Keeps.bind (keeps_updateJob _ _) fun _ => Keeps.pure _
  · exact Keeps.bind (keeps_updateJob _ _) fun _ => Keeps.pure _

variable (keep) in
/-- There is at least one of them. -/
theorem adds_waitForeground (pid : Pid) (shell : Shell) :
    ∃ answers : List WaitAnswer,
      answers ≠ [] ∧
        Adds keep
          ((answers.map fun answer =>
            Event.call (.wait pid answer) none).filter keep)
          shell.host (waitForeground pid shell).2.host :=
  ⟨_, Settled.answers_ne_nil _, adds_received keep pid shell⟩

section Unattended

variable
  {terminal : Terminal}
  (handsOver : ∀ pid : Pid, Keeps (Silent keep) (terminal.handOver pid))
  (takesBack : Keeps (Silent keep) terminal.takeBack)
  (unwaited :
    ∀ (pid : Pid) (answer : WaitAnswer),
      keep (.call (.wait pid answer) none) = false)

include handsOver takesBack unwaited

/-- A choice without waits and hand-overs overlooks a foreground job. -/
theorem silent_runInForeground (pid : Pid) :
    Keeps (OnHost (Silent keep)) (runInForeground terminal pid) := by
  refine Keeps.bind (handsOver pid).onHost fun _ => ?_
  refine Keeps.bind ?_ fun status => ?_
  · intro shell
    obtain ⟨answers, -, waits⟩ := adds_waitForeground keep pid shell
    have none :
        (answers.map fun answer =>
            Event.call (.wait pid answer) none).filter keep = [] := by
      simp [unwaited]
    rwa [none] at waits
  · refine Keeps.bind takesBack.onHost fun _ => ?_
    exact keeps_modify fun _ => rfl

/-- So it overlooks whatever the parent does about a child. -/
theorem silent_adopt (descriptor : Descriptor) (pid : Pid) :
    Keeps (OnHost (Silent keep)) (adopt terminal descriptor pid) := by
  intro shell
  have enters : Silent keep shell.host (entered descriptor pid shell).host :=
    entered_keeps descriptor pid shell
  change Silent keep shell.host (adopt terminal descriptor pid shell).2.host
  rw [adopt_eq]
  apply enters.then_silent
  split
  · exact keeps_leaveInBackground pid _
  · exact silent_runInForeground handsOver takesBack unwaited pid _

end Unattended

variable (keep) in
/-- A launch adds its fork, if adopting the child adds nothing. -/
theorem adds_execute
    {terminal : Terminal}
    {descriptor : Descriptor}
    (adopts :
      ∀ pid : Pid,
        Keeps (OnHost (Silent keep)) (adopt terminal descriptor pid))
    {before after : Shell}
    {launch : Launch}
    (ran : execute terminal descriptor before = (launch, after)) :
    Adds keep ((History.ofFork launch.answer?).filter keep)
      before.host after.host := by
  have announces : Silent keep before.host (announced descriptor before.host) :=
    Host.keeps_note _ _ before.host
  have blocks :
      Silent keep before.host
        (Host.block (announced descriptor before.host)).2 :=
    announces.then_silent (Host.keeps_block _)
  cases execute_executed ran with
  | malformed e problem =>
      obtain ⟨position, rfl⟩ := nul_of_malformed problem
      exact Adds.refl _
  | notBlocked errno unblocked blocking =>
      rw [blocking] at blocks
      exact blocks
  | notForked previous blocked errno blocking forked =>
      rw [blocking] at blocks
      have forks := Host.adds_fork keep blocked
      rw [forked] at forks
      exact
        (blocks.after_silent forks).then_silent (Host.keeps_unblock previous _)
  | child previous blocked program arguments blocking forked =>
      rw [blocking] at blocks
      have forks := Host.adds_fork keep blocked
      rw [forked] at forks
      exact
        (blocks.after_silent forks).then_silent
          (Child.keeps_runChild descriptor program arguments previous _)
  | parent previous blocked pid adopted blocking forked adopting =>
      rw [blocking] at blocks
      have forks := Host.adds_fork keep blocked
      rw [forked] at forks
      have works : Silent keep (Host.fork blocked).2 adopted.host := by
        rw [← adopting]
        exact adopts pid (before.on (Host.fork blocked).2)
      exact
        ((blocks.after_silent forks).then_silent works).then_silent
          (Host.keeps_unblock previous adopted.host)

end Silence

/-- A launch without a terminal leaves it alone, in the child as well. -/
theorem detached_execute (group : Pid) (descriptor : Descriptor) :
    Keeps (OnHost (Silent Event.isTerminal))
      (execute (.detached group) descriptor) := by
  intro shell
  have adopts (pid : Pid) :
      Keeps (OnHost (Silent Event.isTerminal))
        (adopt (.detached group) descriptor pid) :=
    silent_adopt (Terminal.detached_handOver group)
      (Terminal.detached_takeBack group) (fun _ _ => rfl) descriptor pid
  have adds :=
    adds_execute Event.isTerminal adopts
      (Prod.eta (execute (.detached group) descriptor shell)).symm
  have noFork :
      (History.ofFork
          (execute (.detached group) descriptor shell).1.answer?).filter
        Event.isTerminal = [] := by
    cases (execute (.detached group) descriptor shell).1.answer? <;> rfl
  rwa [noFork] at adds

/--
What a launch adds to the trail of active events of a shell with a claimed
terminal, in the background or not.
-/
inductive Launching
    (background : Bool)
    (group : Pid)
    (modes : Option Modes) :
    History → Prop
  /-- Nothing is forked. -/
  | refused : Launching background group modes []
  /-- The fork fails. -/
  | failed (errno : Errno) :
      Launching background group modes [.call (.fork (.failed errno)) none]
  /-- A child in the background is forked, and that is all. -/
  | background (child : Pid) :
      background = true →
      Launching background group modes [.call (.fork (.parent child)) none]
  /--
  A child in the foreground: one attempt to hand it the terminal, at least one
  answer to waiting for it, and one attempt to take the terminal back.
  -/
  | foreground
      (child : Pid)
      (handed : Option Errno)
      (answers : List WaitAnswer)
      (taken restored : Option Errno) :
      background = false →
      answers ≠ [] →
      Launching background group modes
        (.call (.fork (.parent child)) none ::
          .call (.setOwner child) handed ::
          answers.map (fun answer => .call (.wait child answer) none) ++
          Terminal.reclaiming group modes taken restored)

section Claimed

variable (group : Pid) (modes : Option Modes)

/-- A job in the foreground has the terminal while it is waited for. -/
theorem claimed_runInForeground (pid : Pid) (shell : Shell) :
    ∃ handed answers taken restored,
      answers ≠ [] ∧
        Adds Event.isActive
          (.call (.setOwner pid) handed ::
            answers.map (fun answer => .call (.wait pid answer) none) ++
            Terminal.reclaiming group modes taken restored)
          shell.host
          (runInForeground (.claimed group modes) pid shell).2.host := by
  obtain ⟨handed, handsOver⟩ :=
    Terminal.claimed_handOver Event.isActive group modes pid shell.host
  obtain ⟨answers, answered, waits⟩ :=
    adds_waitForeground Event.isActive pid
      (lent (.claimed group modes) pid shell)
  obtain ⟨taken, restored, takesBack⟩ :=
    Terminal.claimed_takeBack Event.isActive group modes
      (waitForeground pid (lent (.claimed group modes) pid shell)).2.host
  refine ⟨handed, answers, taken, restored, answered, ?_⟩
  have active :
      (answers.map fun answer =>
          Event.call (.wait pid answer) none).filter Event.isActive =
        answers.map fun answer => Event.call (.wait pid answer) none := by
    rw [List.filter_eq_self]
    intro event member
    obtain ⟨answer, _, rfl⟩ := List.mem_map.mp member
    rfl
  rw [active] at waits
  have whole :
      Adds Event.isActive _ shell.host
        (runInForeground (.claimed group modes) pid shell).2.host :=
    (handsOver.trans waits).trans takesBack
  simpa using whole

/-- What the parent does about a child of its own. -/
theorem claimed_adopt
    (descriptor : Descriptor)
    (child : Pid)
    (shell : Shell) :
    ∃ added,
      Launching descriptor.background group modes
          (.call (.fork (.parent child)) none :: added) ∧
        Adds Event.isActive added shell.host
          (adopt (.claimed group modes) descriptor child shell).2.host := by
  have enters :
      Silent Event.isActive shell.host (entered descriptor child shell).host :=
    entered_keeps descriptor child shell
  rw [adopt_eq]
  split
  · rename_i background
    refine ⟨[], .background child background, ?_⟩
    exact enters.then_silent (keeps_leaveInBackground child _)
  · rename_i foreground
    obtain ⟨handed, answers, taken, restored, answered, adds⟩ :=
      claimed_runInForeground group modes child
        (entered descriptor child shell)
    refine ⟨_, ?_, enters.after_silent adds⟩
    exact
      .foreground child handed answers taken restored
        (by simpa using foreground) answered

/-- A launch adds what its kind of job asks for, and never becomes the child. -/
theorem claimed_execute
    {shell : Shell}
    (asParent : ForkAnswer.child ∉ shell.host.script.forks)
    (descriptor : Descriptor) :
    (∃ added,
      Launching descriptor.background group modes added ∧
        Adds Event.isActive added shell.host
          (execute (.claimed group modes) descriptor shell).2.host) ∧
      ∀ ending,
        (execute (.claimed group modes) descriptor shell).1 ≠
          .ended ending := by
  have announces :
      Silent Event.isActive shell.host
        (announced descriptor shell.host) :=
    Host.keeps_note _ _ shell.host
  have blocks :
      Silent Event.isActive shell.host
        (Host.block (announced descriptor shell.host)).2 :=
    announces.then_silent (Host.keeps_block _)
  cases ran : execute (.claimed group modes) descriptor shell with
  | mk launch after =>
      cases execute_executed ran with
      | malformed e problem =>
          exact ⟨⟨[], .refused, Adds.refl _⟩, fun _ => nofun⟩
      | notBlocked errno unblocked blocking =>
          rw [blocking] at blocks
          exact ⟨⟨[], .refused, blocks⟩, fun _ => nofun⟩
      | notForked previous blocked errno blocking forked =>
          rw [blocking] at blocks
          have forks := Host.adds_fork Event.isActive blocked
          rw [forked] at forks
          refine ⟨⟨_, .failed errno, ?_⟩, fun _ => nofun⟩
          exact
            (blocks.after_silent forks).then_silent
              (Host.keeps_unblock previous _)
      | child previous blocked program arguments blocking forked =>
          rw [blocking] at blocks
          exact
            absurd forked (Host.fork_ne_child (blocks.asParent asParent))
      | parent previous blocked pid adopted blocking forked adopts =>
          rw [blocking] at blocks
          have forks := Host.adds_fork Event.isActive blocked
          rw [forked] at forks
          obtain ⟨added, launching, adds⟩ :=
            claimed_adopt group modes descriptor pid
              (shell.on (Host.fork blocked).2)
          rw [adopts] at adds
          refine ⟨⟨_, launching, ?_⟩, fun _ => nofun⟩
          exact
            (blocks.after_silent (forks.trans adds)).then_silent
              (Host.keeps_unblock previous _)

end Claimed

end Shell
end JobShell

import JobShell.Proofs.Launch.Trail

namespace JobShell

/-!
# Forks

Only a launch forks, and it forks once: when its program and its arguments can
be handed to the system and SIGCHLD can be blocked. What the fork answered is
told by what became of the launch, so the shell is the child exactly if the
launch has ended.
-/

namespace Event

/-- The event is a fork, successful or not. -/
def isFork : Event → Bool
  | .call (.fork _) _ => true
  | _ => false

/-- The event makes the shell a child of its own. -/
def isBirth : Event → Bool
  | .call (.fork .child) _ => true
  | _ => false

theorem not_isFork_of_idle
    {event : Event}
    (idle : event.isActive = false) :
    event.isFork = false := by
  fun_cases isFork event with
  | case1 answer fault =>
      cases idle
  | case2 =>
      rfl

theorem isFork_of_isTerminal
    {event : Event}
    (terminal : event.isTerminal = true) :
    event.isFork = false := by
  fun_cases isFork event with
  | case1 answer fault =>
      cases terminal
  | case2 =>
      rfl

end Event

/-- A choice of events that are all forks. -/
class Forkwise (keep : Event → Bool) : Prop where
  others : ∀ event : Event, event.isFork = false → keep event = false

instance : Forkwise Event.isFork where
  others _ other := other

instance : Forkwise Event.isBirth where
  others event other := by
    fun_cases Event.isBirth event with
    | case1 fault =>
        cases other
    | case2 =>
        rfl

instance (keep : Event → Bool) [Forkwise keep] : Overlooks keep where
  idle event idle := Forkwise.others event (Event.not_isFork_of_idle idle)

namespace Host

section Silence

variable {keep : Event → Bool} [Forkwise keep]

/-- An event that is no fork is overlooked. -/
theorem silent_of_not_fork
    {event : Event}
    (other : event.isFork = false) :
    Ignores (Silent keep) event := by
  intro host
  have adds := adds_emit keep event host
  simpa [Forkwise.others event other] using adds

instance : Unowned (Silent keep) where
  terminal _ terminal :=
    silent_of_not_fork (Event.isFork_of_isTerminal terminal)

end Silence

/-- The next blocking of SIGCHLD succeeds. -/
def CanBlock (host : Host) : Prop :=
  (host.script.faults .sigprocmask).head?.join = none

theorem deliver_script (host : Host) :
    (deliver host).2.script = host.script := by
  rw [deliver_eq]
  split <;> rfl

/-- What happens to children makes no call fail or succeed. -/
theorem nextBatch_faults (host : Host) :
    (nextBatch host).2.script.faults = host.script.faults := by
  simp only [nextBatch, run_bind, run_get]
  cases host.script.batches with
  | nil =>
      rfl
  | cons batch rest =>
      dsimp only
      rw [run_bind, run_set]
      cases batch.isEmpty with
      | true =>
          rfl
      | false =>
          have raises (taken : Host) :
              (raiseChild batch taken).2.script.faults = taken.script.faults :=
            congrArg Script.faults (deliver_script _)
          exact raises _

theorem block_ok_iff (host : Host) :
    (∃ previous, (block host).1 = .ok previous) ↔ host.CanBlock := by
  have fault :
      (attempt .sigprocmask .blockChild (nextBatch host).2).1 =
        (host.script.faults .sigprocmask).head?.join := by
    rw [← nextBatch_faults host]
    rfl
  unfold CanBlock
  simp only [block, run_bind, run_get]
  rw [fault]
  cases (host.script.faults .sigprocmask).head?.join with
  | none =>
      exact ⟨fun _ => rfl, fun _ => ⟨_, rfl⟩⟩
  | some errno =>
      exact ⟨nofun, nofun⟩

end Host

namespace Shell

/-- A launch adds its fork and no other. -/
theorem adds_fork
    (keep : Event → Bool)
    [Forkwise keep]
    {terminal : Terminal}
    {descriptor : Descriptor}
    {before after : Shell}
    {launch : Launch}
    (ran : execute terminal descriptor before = (launch, after)) :
    Host.Adds keep ((History.ofFork launch.answer?).filter keep)
      before.host after.host := by
  have unwaited (pid : Pid) (answer : WaitAnswer) :
      keep (.call (.wait pid answer) none) = false :=
    Forkwise.others _ rfl
  apply adds_execute keep (silent_adopt _ _ unwaited descriptor) ran
  · exact Terminal.keeps_handOver terminal
  · exact Terminal.keeps_takeBack terminal

/-- A launch forks exactly if nothing is in the way of it. -/
theorem isSome_answer?_iff
    {terminal : Terminal}
    {descriptor : Descriptor}
    {before after : Shell}
    {launch : Launch}
    (ran : execute terminal descriptor before = (launch, after)) :
    launch.answer?.isSome = true ↔
      (∃ program arguments, WellFormed descriptor program arguments) ∧
        before.host.CanBlock := by
  have blocks :
      (∃ previous,
          (Host.block (announced descriptor before.host)).1 = .ok previous) ↔
        before.host.CanBlock :=
    Host.block_ok_iff _
  rw [← blocks]
  cases execute_executed ran with
  | malformed e problem =>
      obtain ⟨position, rfl⟩ := nul_of_malformed problem
      refine ⟨nofun, ?_⟩
      rintro ⟨⟨program, arguments, programOk, argumentsOk⟩, -⟩
      rcases problem with refused | refused
      · rw [programOk] at refused
        contradiction
      · rw [argumentsOk] at refused
        contradiction
  | notBlocked errno unblocked blocking =>
      rw [blocking]
      exact ⟨nofun, nofun⟩
  | notForked previous blocked errno blocking forked wellFormed =>
      rw [blocking]
      exact ⟨fun _ => ⟨wellFormed, previous, rfl⟩, fun _ => rfl⟩
  | child previous blocked program arguments blocking forked wellFormed =>
      rw [blocking]
      exact ⟨fun _ => ⟨⟨_, _, wellFormed⟩, previous, rfl⟩, fun _ => rfl⟩
  | parent previous blocked pid adopted blocking forked adopts wellFormed =>
      rw [blocking]
      exact ⟨fun _ => ⟨wellFormed, previous, rfl⟩, fun _ => rfl⟩

end Shell
end JobShell

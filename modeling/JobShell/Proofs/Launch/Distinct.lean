import JobShell.Proofs.Job.Recorded
import JobShell.Proofs.Launch.Reached

namespace JobShell

/-!
# Distinct process numbers

Whatever is in the table or in a slot was forked. So when no two forks answer
with the same number, no fork answers with the number of a process that is still
in the table or in a slot.
-/

namespace Event

/-- The process that the event makes the shell the parent of. -/
def child? : Event → Option Pid
  | .call (.fork (.parent child)) _ => some child
  | _ => none

theorem child?_eq_some_iff
    {event : Event}
    {pid : Pid} :
    event.child? = some pid ↔ event.forks pid = true := by
  cases event with
  | call call fault =>
      cases call with
      | fork answer =>
          cases answer <;> simp [child?, forks]
      | _ =>
          simp [child?, forks]
  | _ =>
      simp [child?, forks]

end Event

namespace History

/-- No two forks answered with the same process, and none with 0. -/
def Distinct (history : History) : Prop :=
  (0 :: history.filterMap Event.child?).Nodup

theorem Distinct.of_append
    {earlier later : History}
    (distinct : Distinct (earlier ++ later)) :
    Distinct earlier := by
  unfold Distinct at distinct ⊢
  rw [List.filterMap_append, ← List.cons_append] at distinct
  exact distinct.sublist (List.sublist_append_left _ _)

/-- What is forked was not forked before. -/
theorem Distinct.unforked
    {pid : Pid}
    {earlier later : History}
    (distinct :
      Distinct (earlier ++ .call (.fork (.parent pid)) none :: later)) :
    pid ≠ 0 ∧ ∀ event ∈ earlier, event.forks pid = false := by
  unfold Distinct at distinct
  rw [List.filterMap_append, ← List.cons_append, List.nodup_append] at distinct
  obtain ⟨-, -, apart⟩ := distinct
  have new : ∀ other ∈ 0 :: earlier.filterMap Event.child?, other ≠ pid :=
    fun other member => apart other member pid (by simp [Event.child?])
  refine ⟨fun zero => new 0 (by simp) zero.symm, fun event member => ?_⟩
  cases forks : event.forks pid with
  | false =>
      rfl
  | true =>
      have known : event.child? = some pid := Event.child?_eq_some_iff.mpr forks
      exact
        absurd rfl
          (new pid
            (List.mem_cons_of_mem _
              (List.mem_filterMap.mpr ⟨event, member, known⟩)))

/-- A process with a last fork was forked. -/
theorem Forked.forks
    {pid : Pid}
    {history : History}
    (forked : Forked pid history) :
    ∃ event ∈ history, event.forks pid = true := by
  obtain ⟨before, after, rfl, -⟩ := forked
  exact
    ⟨.call (.fork (.parent pid)) none, by simp, by simp [Event.forks]⟩

end History

namespace Standing.Run

variable
  {unique : Prop}
  {pid : Pid}
  {standing : Standing}
  {history : History}

/-- A process with a slot was forked. -/
theorem forks_of_watch
    (run : Run unique pid unknown history standing)
    (held : standing.watch.isSome = true) :
    ∃ event ∈ history, event.forks pid = true := by
  obtain ⟨before, after, rfl, -⟩ := run.isSome_watch_iff.mp held
  -- A process gets its slot while it is in the table.
  obtain ⟨_, _, earlier, step, -⟩ := run.around
  obtain ⟨-, rfl⟩ := step.of_granted
  obtain ⟨event, member, forks⟩ :=
    ((earlier.append (.single step)).forked_of_inTable rfl).forks
  refine ⟨event, ?_, forks⟩
  rw [List.append_cons]
  exact List.mem_append_left _ member

/-- A process that was not forked is in neither the table nor a slot. -/
theorem unused_of_unforked
    (run : Run unique pid unknown history standing)
    (unforked : ∀ event ∈ history, event.forks pid = false) :
    standing.inTable = false ∧ standing.watch = none := by
  constructor
  · cases inTable : standing.inTable with
    | false =>
        rfl
    | true =>
        obtain ⟨event, member, forks⟩ := (run.forked_of_inTable inTable).forks
        rw [unforked event member] at forks
        contradiction
  · cases held : standing.watch with
    | none =>
        rfl
    | some mark =>
        obtain ⟨event, member, forks⟩ := run.forks_of_watch (by rw [held]; rfl)
        rw [unforked event member] at forks
        contradiction

end Standing.Run

namespace Shell

/-- A program that is launched was forked. -/
theorem execute_forks
    {terminal : Terminal}
    {descriptor : Descriptor}
    {before after : Shell}
    {pid : Pid}
    (ran : execute terminal descriptor before = (.launched pid, after)) :
    ∃ earlier later,
      after.host.history =
        before.host.history ++ earlier ++
          .call (.fork (.parent pid)) none :: later := by
  cases execute_executed ran with
  | parent previous blocked _ adopted blocking forked adopts =>
      have blocks : Host.Reaping before.host blocked := by
        have announces :
            Host.Reaping before.host (announced descriptor before.host) :=
          Host.keeps_note _ _ before.host
        have blocks := Frame.trans announces (Host.keeps_block _)
        rwa [blocking] at blocks
      obtain ⟨answer, forks, -, -⟩ := Host.fork_eq blocked
      rw [← answer, forked] at forks
      have enters :
          Host.Quiet (Host.fork blocked).2
            (entered descriptor pid
              (before.on (Host.fork blocked).2)).host :=
        entered_keeps descriptor pid (before.on (Host.fork blocked).2)
      have adopting :
          Moves False 1 _ .idle
            (entered descriptor pid (before.on (Host.fork blocked).2))
            (adopt terminal descriptor pid
              (before.on (Host.fork blocked).2)).2 :=
        moves_adopted (by decide) terminal descriptor _
      rw [adopts] at adopting
      have unblocks :
          Host.Reaping adopted.host (Host.unblock previous adopted.host).2 :=
        Host.keeps_unblock previous adopted.host
      obtain ⟨first, grown, -⟩ := blocks.grows
      obtain ⟨second, grownSecond, -⟩ := enters.grows
      obtain ⟨third, grownThird, -⟩ := adopting
      obtain ⟨fourth, grownFourth, -⟩ := unblocks.grows
      refine ⟨first, second ++ third ++ fourth, ?_⟩
      change (Host.unblock previous adopted.host).2.history = _
      rw [grownFourth, grownThird, grownSecond, forks, grown]
      simp

namespace Reached

variable {shell : Shell}

/-- With distinct process numbers, no number is in use twice. -/
theorem of_distinct
    (reached : Reached False shell)
    (distinct : shell.host.history.Distinct) :
    Reached True shell := by
  induction reached with
  | fresh host slots history =>
      exact .fresh host slots history
  | launched terminal descriptor pid earlier ran _ inductionHypothesis =>
      obtain ⟨first, later, grown⟩ := execute_forks ran
      rw [grown] at distinct
      obtain ⟨valid, unforked⟩ := distinct.unforked
      obtain ⟨absent, unheld⟩ :=
        (earlier.run valid).unused_of_unforked fun event member =>
          unforked event (by simp [member])
      refine
        .launched terminal descriptor pid
          (inductionHypothesis distinct.of_append.of_append) ran fun _ => ?_
      have noJob := Option.isSome_eq_false_iff.mp absent
      refine ⟨Option.isNone_iff_eq_none.mp noJob, ?_⟩
      rw [SlotTable.holds_eq_isSome]
      exact congrArg Option.isSome unheld
  | refused terminal descriptor e _ ran inductionHypothesis =>
      obtain ⟨-, reaping⟩ := execute_refused ran
      obtain ⟨added, grown, -⟩ := reaping.grows
      rw [grown] at distinct
      exact
        .refused terminal descriptor e (inductionHypothesis distinct.of_append)
          ran
  | collected jobs earlier ran inductionHypothesis =>
      have moves : Moves False 1 .idle .idle _ _ :=
        moves_collect (by decide) earlier.sound ran
      obtain ⟨added, grown, -⟩ := moves
      rw [grown] at distinct
      exact .collected jobs (inductionHypothesis distinct.of_append) ran
  | @signalled before events _ inductionHypothesis =>
      have raises : Host.Reaping before.host _ :=
        Host.keeps_raiseChild events before.host
      obtain ⟨added, grown, -⟩ := raises.grows
      change (Host.raiseChild events before.host).2.history.Distinct at distinct
      rw [grown] at distinct
      exact .signalled events (inductionHypothesis distinct.of_append)
  | elsewhere host _ quiet inductionHypothesis =>
      obtain ⟨added, grown, -⟩ := quiet.grows
      change host.history.Distinct at distinct
      rw [grown] at distinct
      exact .elsewhere host (inductionHypothesis distinct.of_append) quiet

end Reached
end Shell
end JobShell

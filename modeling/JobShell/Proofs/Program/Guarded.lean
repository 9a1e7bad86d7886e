import JobShell.Proofs.Launch.Window
import JobShell.Proofs.Program.Keeps

namespace JobShell

/-!
# The reaper and the work on slots never interleave

A whole run of the program is guarded: the shell claims slots, drains them and
waits for children only while SIGCHLD is blocked, and the reaper runs only while
it is not. Each launch does its work in one window, and launches and collections
leave the mask as they found it.
-/

namespace Session

/-- Whatever a session does is guarded. -/
theorem masked_sustains (session : Session) :
    session.Sustains Host.Masked where
  launch _ _ := Shell.masked_execute rfl
  collect _ := Shell.masked_collect rfl
  take _ _ := Host.masked_emit (fun _ => rfl) rfl
  prompt _ :=
    keeps_prompt (fun _ => Host.masked_emit (fun _ => rfl) rfl)
      (fun _ => Host.masked_emit (fun _ => rfl) rfl) session

end Session

namespace Program

/--
Whatever the input, the faults and the fates of children are: along a run of the
program the shell claims slots, drains them and waits for children only while
SIGCHLD is blocked, and the reaper runs only while it is not; so it never runs
between a blocking and the next setting of the mask, and a signal that is raised
meanwhile only pends. The window of a launch opens where the blocking ends and
closes where the child is adopted. It spans the fork and the registration of the
job, and then the attempt to get a slot in the background, or in the foreground
the wait and taking the terminal back. Unless restoring the mask
fails, a launch, successful or not, and a collection leave it as it was.
-/
theorem run_guarded
    (date : String)
    (input : Session.Input)
    (host : Host) :
    (∃ events,
      (run date input host).2.history = host.history ++ events ∧
        (run date input host).2.blocked =
          History.maskFrom host.blocked events ∧
        History.Guarded host.blocked events ∧
        ∀ before block inner after,
          events = before ++ block :: inner ++ after →
          block.isBlocking = true →
          (∀ event ∈ inner, event.isRestoring = false) →
          ∀ event ∈ inner, event.isReaping = false) ∧
      (∀ (host : Host) (events : List ChildEvent),
        host.blocked = true →
        (Host.raiseChild events host).2 =
          { host with pending := host.pending ++ events, raised := true }) ∧
      (∀ (terminal : Terminal) (descriptor : Descriptor)
          (before after : Shell) (pid : Pid),
        Shell.execute terminal descriptor before = (.launched pid, after) →
        ∃ window : Shell.Window before after,
          window.Frames terminal descriptor pid ∧
            Shell.Spans terminal descriptor pid before.jobs window.inner) ∧
      (∀ (terminal : Terminal) (descriptor : Descriptor)
          (before after : Shell) (launch : Launch),
        Shell.execute terminal descriptor before = (launch, after) →
        (∀ ending, launch ≠ .ended ending) →
        Host.Restores before.host after.host) ∧
      ∀ (before after : Shell) (jobs : List Job),
        Shell.collect before = (jobs, after) →
        Host.Restores before.host after.host := by
  obtain ⟨events, history, guarded, told⟩ :
      Host.Masked host (run date input host).2 :=
    keeps_run date input Session.masked_sustains host
  refine
    ⟨⟨events, history, told, guarded, ?_⟩,
      fun _ events blocked => Host.raiseChild_of_blocked blocked events,
      fun _ _ _ _ _ => Shell.launched_window,
      fun _ _ _ _ _ => Shell.restores_execute,
      fun _ _ _ => Shell.restores_collect⟩
  rintro before block inner after rfl blocking unrestored
  exact guarded.between blocking unrestored

/-- A host on which a child that nobody knows exits before the first blocking. -/
def interrupted : Host :=
  { script :=
      { forks := [.parent 7]
        waits := fun _ => [.ok (.stopped .tstp)]
        batches := [[⟨9, .ok (.exited 0)⟩]] } }

/-- A program in the foreground. -/
def foreground : Descriptor :=
  { program := [47, 112]
    arguments := [['/', 'p']]
    redirection := none
    background := false
    pid := none
    group := none }

/-- The host after the program was launched, and stopped. -/
def launched : Shell :=
  (Shell.execute (.claimed 500 none) foreground { host := interrupted }).2

/-- The reaper runs before the slots are drained; a stopped job is waited for. -/
theorem run_guarded_interrupted :
    (∃ before block work after,
      (run "2026-01-01" (.ok []) interrupted).2.history =
          before ++ block :: [work] ++ after ∧
        block.isBlocking = true ∧
        work.isSlotWork = true ∧
        work.isReaping = false) ∧
      (Host.raiseChild [⟨9, .ok (.exited 0)⟩]
          { interrupted with blocked := true }).2.history = [] ∧
      (∃ window : Shell.Window { host := interrupted } launched,
        window.Frames (.claimed 500 none) foreground 7 ∧
          Shell.Spans (.claimed 500 none) foreground 7 {} window.inner) ∧
      launched.host.blocked = false ∧
      (Shell.collect launched).2.host.blocked = false := by
  obtain ⟨⟨events, history, -, -, quiet⟩, pends, windows, restores, collects⟩ :=
    run_guarded "2026-01-01" (.ok []) interrupted
  have start : interrupted.history = [] := rfl
  rw [start, List.nil_append] at history
  have kinds :
      ((events.drop 9).take 2).map (fun event =>
        (event.isBlocking, event.isSlotWork, event.isRestoring)) =
        [(true, false, false), (false, true, false)] := by
    rw [← history]
    decide +kernel
  obtain ⟨block, rest, shape, blockKind, restKinds⟩ :=
    List.map_eq_cons_iff.mp kinds
  obtain ⟨work, others, rfl, workKind, noKinds⟩ :=
    List.map_eq_cons_iff.mp restKinds
  obtain rfl := List.map_eq_nil_iff.mp noKinds
  have blocking : block.isBlocking = true := congrArg Prod.fst blockKind
  obtain ⟨-, works, unrestored⟩ :
      work.isBlocking = false ∧ work.isSlotWork = true ∧
        work.isRestoring = false := by
    simpa using workKind
  have cut :
      events =
        events.take 9 ++ block :: [work] ++ (events.drop 9).drop 2 := by
    rw [← shape]
    simp only [List.append_assoc, List.take_append_drop]
  have ran :
      Shell.execute (.claimed 500 none) foreground { host := interrupted } =
        (.launched 7, launched) :=
    Prod.ext (by decide +kernel) rfl
  have launchRestores : launched.host.blocked = false := by
    obtain ⟨added, grown, restored⟩ := restores _ _ _ _ _ ran nofun
    have all : launched.host.history = added := grown
    apply restored
    rw [← all]
    decide +kernel
  have collectRestores : (Shell.collect launched).2.host.blocked = false := by
    have collected :
        Shell.collect launched =
          ((Shell.collect launched).1, (Shell.collect launched).2) :=
      rfl
    obtain ⟨added, grown, restored⟩ := collects _ _ _ collected
    rw [← launchRestores]
    apply restored
    have unfailed :
        ∀ event ∈ (Shell.collect launched).2.host.history,
          event.isRestoreFault = false := by
      decide +kernel
    intro event member
    apply unfailed
    rw [grown]
    exact List.mem_append_right _ member
  have undisturbed : work.isReaping = false :=
    quiet _ _ _ _ cut blocking (by simpa using unrestored) work (by simp)
  exact
    ⟨⟨_, _, _, _, history.trans cut, blocking, works, undisturbed⟩,
      congrArg Host.history (pends _ _ rfl),
      windows _ _ _ _ _ ran, launchRestores, collectRestores⟩

end Program
end JobShell

import JobShell.Proofs.Host.Account
import JobShell.Proofs.Host.Mask
import JobShell.Proofs.Launch.Trail

namespace JobShell

/-!
# The window of a launch

A launch does all that concerns its child in one window: it blocks SIGCHLD
before the fork, and restores the mask once a job in the background is
registered and has asked for its slot, or a job in the foreground has settled
and the terminal is taken back. No signal is delivered in between, and what a
launch does outside its window is no work on children, slots or the terminal.
Launches and collections leave the mask as they found it, unless restoring it
fails.
-/

namespace Host

/-- The event happened between two states of the host. -/
def Happens (event : Event) (before after : Host) : Prop :=
  ∃ earlier later,
    after.history = before.history ++ earlier ++ event :: later

namespace Happens

variable {event : Event} {first second third : Host}

/-- It happened after another stretch. -/
theorem after_inside
    (before : Inside first second)
    (happens : Happens event second third) :
    Happens event first third := by
  obtain ⟨added, grown, -⟩ := before.grows
  obtain ⟨earlier, later, shape⟩ := happens
  refine ⟨added ++ earlier, later, ?_⟩
  rw [shape, grown]
  simp

/-- Another stretch came after it. -/
theorem then_inside
    (happens : Happens event first second)
    (after : Inside second third) :
    Happens event first third := by
  obtain ⟨earlier, later, shape⟩ := happens
  obtain ⟨added, grown, -⟩ := after.grows
  refine ⟨earlier, later ++ added, ?_⟩
  rw [grown, shape]
  simp

/-- It is one of the events that were added. -/
theorem mem
    (happens : Happens event first second)
    {added : History}
    (grown : second.history = first.history ++ added) :
    event ∈ added := by
  obtain ⟨earlier, later, shape⟩ := happens
  rw [shape, List.append_assoc] at grown
  rw [← List.append_cancel_left grown]
  simp

end Happens

/-- The mask is as it was, unless setting it failed in between. -/
def Restores (before after : Host) : Prop :=
  ∃ added,
    after.history = before.history ++ added ∧
      ((∀ event ∈ added, event.isRestoreFault = false) →
        after.blocked = before.blocked)

theorem restores_of_steady
    {allowed : Bool → Event → Bool}
    {before after : Host}
    (steady : Steady allowed before after) :
    Restores before after := by
  obtain ⟨added, grown, -⟩ := steady.grows
  exact ⟨added, grown, fun _ => steady.mask⟩

instance : Frame Restores where
  refl host := ⟨[], by simp, fun _ => rfl⟩
  trans := by
    rintro first second third
      ⟨earlier, grown, restored⟩ ⟨later, grownLater, restoredLater⟩
    refine ⟨earlier ++ later, ?_, fun unfailed => ?_⟩
    · rw [grownLater, grown, List.append_assoc]
    · have fromSecond : third.blocked = second.blocked :=
        restoredLater fun event member => unfailed event (by simp [member])
      have fromFirst : second.blocked = first.blocked :=
        restored fun event member => unfailed event (by simp [member])
      exact fromSecond.trans fromFirst

/-- A blocking that fails leaves the mask as it is. -/
theorem restores_of_block_error
    {host unblocked : Host}
    {errno : Errno}
    (blocking : block host = (.error errno, unblocked)) :
    Restores host unblocked := by
  obtain ⟨opening, fault, grown, -, mask, answered⟩ := block_eq host
  rw [blocking] at grown mask answered
  cases fault with
  | none =>
      contradiction
  | some errno =>
      exact ⟨_, by rw [grown, List.append_assoc], fun _ => mask⟩

end Host

namespace Shell

open Host (Happens Inside Masked Outside Restores)

/--
One blocking of SIGCHLD and its undoing: the shells just after the one and just
before the other, and the events of the three stretches that they part.
-/
structure Window (before after : Shell) where
  blocked : Shell
  worked : Shell
  opening : History
  inner : History
  closing : History
  /-- The error that restoring the mask fails with. -/
  fault : Option Errno
  opens :
    blocked.host.history =
      before.host.history ++ opening ++ [.call .blockChild none]
  works : worked.host.history = blocked.host.history ++ inner
  closes :
    after.host.history =
      worked.host.history ++
        .call (.setMask before.host.blocked) fault :: closing
  idleBefore : ∀ event ∈ opening, event.isOutside before.host.blocked = true
  undisturbed : ∀ event ∈ inner, event.isInside true = true
  idleAfter : ∀ event ∈ closing, event.isOutside after.host.blocked = true
  isBlocked : blocked.host.blocked = true
  staysBlocked : worked.host.blocked = true
  /-- The table changes after the blocking. -/
  jobsBefore : blocked.jobs = before.jobs
  /-- It changes before the undoing. -/
  jobsAfter : after.jobs = worked.jobs
  mask : after.host.blocked = (fault.isSome || before.host.blocked)

/-- Work between a blocking that succeeds and its undoing is done in a window. -/
theorem exists_window
    {before worked : Shell}
    {prepared blocked : Host}
    {previous : Bool}
    (prepares : Outside before.host prepared)
    (blocking : Host.block prepared = (.ok previous, blocked))
    (works : Inside blocked worked.host) :
    ∃ window :
        Window before (worked.on (Host.unblock previous worked.host).2),
      window.blocked = before.on blocked ∧ window.worked = worked := by
  obtain ⟨opening, fault, grown, outside, mask, answered⟩ :=
    Host.block_eq prepared
  rw [blocking] at grown mask answered
  cases fault with
  | some errno =>
      contradiction
  | none =>
      obtain rfl : previous = prepared.blocked := Except.ok.inj answered
      obtain ⟨earlier, grownEarlier, outsideEarlier⟩ := prepares.grows
      obtain ⟨inner, grownInner, inside⟩ := works.grows
      obtain ⟨failed, closing, grownLast, outsideLast, restored⟩ :=
        Host.unblock_eq prepared.blocked worked.host
      have isBlocked : blocked.blocked = true := mask
      have staysBlocked : worked.host.blocked = true :=
        works.mask.trans isBlocked
      have same : prepared.blocked = before.host.blocked := prepares.mask
      rw [same] at grownLast outsideLast restored outside ⊢
      refine
        ⟨{ blocked := before.on blocked
           worked := worked
           opening := earlier ++ opening
           inner := inner
           closing := closing
           fault := failed
           opens := ?_
           works := grownInner
           closes := grownLast
           idleBefore := ?_
           undisturbed := inside
           idleAfter := outsideLast
           isBlocked := isBlocked
           staysBlocked := staysBlocked
           jobsBefore := rfl
           jobsAfter := rfl
           mask := ?_ }, rfl, rfl⟩
      · rw [on_host, grown, grownEarlier]
        simp
      · intro event member
        rcases List.mem_append.mp member with isEarlier | isLater
        · exact outsideEarlier event isEarlier
        · exact outside event isLater
      · rw [on_host, restored]
        cases failed with
        | none =>
            rfl
        | some errno =>
            exact staysBlocked

/-- A window leaves the mask as it was, unless restoring it fails. -/
theorem Window.restores
    {before after : Shell}
    (window : Window before after) :
    Restores before.host after.host := by
  refine
    ⟨window.opening ++ .call .blockChild none :: window.inner ++
      .call (.setMask before.host.blocked) window.fault :: window.closing,
      ?_, fun unfailed => ?_⟩
  · rw [window.closes, window.works, window.opens]
    simp
  · rw [window.mask]
    cases failed : window.fault with
    | none =>
        rfl
    | some errno =>
        have restoring :=
          unfailed (.call (.setMask before.host.blocked) (some errno))
            (by simp [failed])
        contradiction

/-- A job that is registered is logged with its index. -/
def registration
    (descriptor : Descriptor)
    (pid : Pid)
    (jobs : JobTable) :
    Event :=
  .note .debug
    (s!"jobsh: job [{jobs.freeIndex}] {pid} " ++
      String.ofList descriptor.commandLine)

theorem happens_addJob
    {descriptor : Descriptor}
    {pid : Pid}
    (numbered : descriptor.pid = some pid)
    (shell : Shell) :
    Happens (registration descriptor pid shell.jobs)
      shell.host (addJob descriptor shell).2.host := by
  refine ⟨[], [], ?_⟩
  unfold addJob JobTable.add
  rw [run_bind, run_get, numbered]
  simp
  rfl

/-- Entering a child registers it. -/
theorem happens_entered
    (descriptor : Descriptor)
    (pid : Pid)
    (shell : Shell) :
    Happens (registration descriptor pid shell.jobs)
      shell.host (entered descriptor pid shell).host := by
  have adds (host : Host) :
      Happens (registration descriptor pid shell.jobs) host
        (addJob { descriptor with pid := some pid, group := some pid }
          (shell.on host)).2.host :=
    happens_addJob rfl (shell.on host)
  have groups : Inside shell.host (Host.setGroup pid pid shell.host).2 :=
    Host.keeps_setGroup pid pid shell.host
  unfold entered enter
  rw [run_bind, run_lift]
  cases (Host.setGroup pid pid shell.host).1 with
  | none =>
      exact (adds _).after_inside groups
  | some errno =>
      have notes :
          Keeps Inside
            (Host.note .debug
              s!"jobsh: setpgid({pid}) from parent: {errno.callText}") :=
        Host.keeps_note _ _
      exact (adds _).after_inside (Frame.trans groups (notes _))

/-- What a computation on the host makes happen, and others after it. -/
theorem happens_bind
    {event : Event}
    {first : HostM α}
    {next : α → ShellM β}
    {shell : Shell}
    (happens : Happens event shell.host (first shell.host).2)
    (keeps : ∀ answer, Keeps (OnHost Inside) (next answer)) :
    Happens event shell.host ((liftM first >>= next : ShellM β) shell).2.host :=
  happens.then_inside
    (keeps (first shell.host).1 (shell.on (first shell.host).2))

/-- A job that is left in the background asks for its slot. -/
theorem happens_leaveInBackground (pid : Pid) (shell : Shell) :
    ∃ granted,
      Happens (.tracked pid granted)
        shell.host (leaveInBackground pid shell).2.host := by
  obtain ⟨-, -, messages, grown, -⟩ := Host.track_account pid shell.host
  have tracks :
      Happens (.tracked pid (shell.host.slots.track pid).1)
        shell.host (Host.track pid shell.host).2 :=
    ⟨[], messages, by simpa using grown⟩
  refine ⟨_, happens_bind tracks fun granted => ?_⟩
  dsimp only
  split
  · refine Keeps.bind (Host.keeps_note _ _).onHost fun _ => ?_
    exact
      Keeps.bind (keeps_removeJob pid) fun _ => keeps_modify fun _ => rfl
  · exact keeps_modify fun _ => rfl

/-- A foreground job is waited for. -/
theorem happens_waitForeground (pid : Pid) (shell : Shell) :
    ∃ answer,
      Happens (.call (.wait pid answer) none)
        shell.host (waitForeground pid shell).2.host := by
  obtain ⟨answers, answered, adds⟩ :=
    adds_waitForeground Event.isActive pid shell
  obtain ⟨events, grown, waits⟩ := adds.exists_events
  obtain ⟨answer, rest, rfl⟩ := List.exists_cons_of_ne_nil answered
  have waited :
      Event.call (.wait pid answer) none ∈ events.filter Event.isActive := by
    rw [waits]
    exact List.mem_filter.mpr ⟨by simp, rfl⟩
  obtain ⟨earlier, later, rfl⟩ :=
    List.append_of_mem (List.mem_filter.mp waited).1
  exact ⟨answer, earlier, later, by simpa using grown⟩

theorem happens_runInForeground
    (terminal : Terminal)
    (pid : Pid)
    (shell : Shell) :
    ∃ answer,
      Happens (.call (.wait pid answer) none)
        shell.host (runInForeground terminal pid shell).2.host := by
  have hands : Inside shell.host (terminal.handOver pid shell.host).2 :=
    Terminal.keeps_handOver terminal pid shell.host
  obtain ⟨answer, waits⟩ :=
    happens_waitForeground pid (shell.on (terminal.handOver pid shell.host).2)
  have takes (status : Status) :
      Keeps (OnHost Inside)
        (do
          terminal.takeBack
          modify fun shell => { shell with lastStatus := some status }
          : ShellM Unit) :=
    Keeps.bind (Terminal.keeps_takeBack terminal).onHost
      fun _ => keeps_modify fun _ => rfl
  exact ⟨answer, (waits.then_inside (takes _ _)).after_inside hands⟩

/-- Adopting a child registers it, and asks for its slot or waits for it. -/
theorem happens_adopt
    (terminal : Terminal)
    (descriptor : Descriptor)
    (pid : Pid)
    (shell : Shell) :
    Happens (registration descriptor pid shell.jobs)
        shell.host (adopt terminal descriptor pid shell).2.host ∧
      (descriptor.background = true →
        ∃ granted,
          Happens (.tracked pid granted)
            shell.host (adopt terminal descriptor pid shell).2.host) ∧
      (descriptor.background = false →
        ∃ answer,
          Happens (.call (.wait pid answer) none)
            shell.host (adopt terminal descriptor pid shell).2.host) := by
  have registers :
      Happens (registration descriptor pid shell.jobs)
        shell.host (entered descriptor pid shell).host :=
    happens_entered descriptor pid shell
  have enters : Inside shell.host (entered descriptor pid shell).host :=
    entered_keeps descriptor pid shell
  rw [adopt_eq]
  cases descriptor.background with
  | true =>
      have leaves : Keeps (OnHost Inside) (leaveInBackground pid) :=
        follows_leaveInBackground (Host.inside_track pid)
      obtain ⟨granted, tracks⟩ :=
        happens_leaveInBackground pid (entered descriptor pid shell)
      refine ⟨registers.then_inside (leaves _), fun _ => ?_, nofun⟩
      exact ⟨granted, tracks.after_inside enters⟩
  | false =>
      have runs : Keeps (OnHost Inside) (runInForeground terminal pid) :=
        follows_runInForeground Inside terminal pid
      obtain ⟨answer, waits⟩ :=
        happens_runInForeground terminal pid (entered descriptor pid shell)
      refine ⟨registers.then_inside (runs _), nofun, fun _ => ?_⟩
      exact ⟨answer, waits.after_inside enters⟩

/-- From the blocking to its undoing, a parent does its work inside. -/
theorem inside_adopted
    {terminal : Terminal}
    {descriptor : Descriptor}
    {pid : Pid}
    {before adopted : Shell}
    {blocked : Host}
    (adopts :
      (adopt terminal descriptor pid
        (before.on (Host.fork blocked).2)).2 = adopted) :
    Inside (Host.fork blocked).2 adopted.host ∧
      Inside blocked adopted.host := by
  have keeps : Keeps (OnHost Inside) (adopt terminal descriptor pid) :=
    follows_adopt Inside terminal descriptor pid
  have works : Inside (Host.fork blocked).2 adopted.host := by
    rw [← adopts]
    exact keeps (before.on (Host.fork blocked).2)
  exact ⟨works, Frame.trans (Host.inside_fork blocked) works⟩

/--
What the window of a launch spans: the fork, the registration of the job, and
for a job in the background the attempt to get a slot, for one in the foreground
the wait. With a claimed terminal it spans all active events of the launch, of
which taking the terminal back is the last.
-/
structure Spans
    (terminal : Terminal)
    (descriptor : Descriptor)
    (pid : Pid)
    (jobs : JobTable)
    (inner : History) :
    Prop where
  forks : inner.head? = some (.call (.fork (.parent pid)) none)
  registers : registration descriptor pid jobs ∈ inner
  tracks :
    descriptor.background = true → ∃ granted, .tracked pid granted ∈ inner
  waits :
    descriptor.background = false →
      ∃ answer, .call (.wait pid answer) none ∈ inner
  launching :
    ∀ group modes,
      terminal = .claimed group modes →
      Launching descriptor.background group modes
        (inner.filter Event.isActive)

/--
The window of a launch opens on the host that blocking leaves, and is closed on
the shell that adopting the child leaves.
-/
structure Window.Frames
    (terminal : Terminal)
    (descriptor : Descriptor)
    (pid : Pid)
    {before after : Shell}
    (window : Window before after) :
    Prop where
  blocked :
    window.blocked =
      before.on (Host.block (announced descriptor before.host)).2
  worked :
    window.worked =
      (adopt terminal descriptor pid
        (before.on (Host.fork window.blocked.host).2)).2

/-- A launch does its work in a window. -/
theorem launched_window
    {terminal : Terminal}
    {descriptor : Descriptor}
    {pid : Pid}
    {before after : Shell}
    (ran : execute terminal descriptor before = (.launched pid, after)) :
    ∃ window : Window before after,
      window.Frames terminal descriptor pid ∧
        Spans terminal descriptor pid before.jobs window.inner := by
  cases execute_executed ran with
  | parent previous blocked _ adopted blocking forked adopts =>
      have announces :
          Outside before.host (announced descriptor before.host) :=
        Host.keeps_note _ _ before.host
      obtain ⟨works, inside⟩ := inside_adopted adopts
      obtain ⟨window, isBlocked, worked⟩ :=
        exists_window announces blocking inside
      have frames : window.Frames terminal descriptor pid := by
        constructor
        · rw [isBlocked, blocking]
        · rw [worked, isBlocked, on_host, adopts]
      refine ⟨window, frames, ?_⟩
      -- The fork comes first, and what follows is added by adopting the child.
      obtain ⟨answered, forks, -⟩ := Host.fork_eq blocked
      rw [← answered, forked] at forks
      obtain ⟨rest, grown, -⟩ := works.grows
      have shape :
          window.inner = .call (.fork (.parent pid)) none :: rest := by
        have inner := window.works
        rw [isBlocked, worked, on_host, grown] at inner
        change (Host.fork blocked).2.history ++ rest = _ at inner
        rw [forks, List.append_assoc] at inner
        exact (List.append_cancel_left inner).symm
      rw [shape]
      let parent : Shell := before.on (Host.fork blocked).2
      obtain ⟨registers, tracks, waits⟩ :=
        happens_adopt terminal descriptor pid parent
      rw [adopts] at registers tracks waits
      constructor
      · rfl
      · exact List.mem_cons_of_mem _ (registers.mem grown)
      · intro background
        obtain ⟨granted, asks⟩ := tracks background
        exact ⟨granted, List.mem_cons_of_mem _ (asks.mem grown)⟩
      · intro foreground
        obtain ⟨answer, answers⟩ := waits foreground
        exact ⟨answer, List.mem_cons_of_mem _ (answers.mem grown)⟩
      · rintro group modes rfl
        obtain ⟨added, launching, adds⟩ :=
          claimed_adopt group modes descriptor pid parent
        obtain ⟨events, grownEvents, rfl⟩ := adds.exists_events
        rw [adopts, grown] at grownEvents
        rw [List.append_cancel_left grownEvents]
        exact launching

/-- A launch is guarded, in the child as well. -/
theorem masked_execute
    {terminal : Terminal}
    {descriptor : Descriptor}
    {before after : Shell}
    {launch : Launch}
    (ran : execute terminal descriptor before = (launch, after)) :
    Masked before.host after.host := by
  have announces : Masked before.host (announced descriptor before.host) :=
    Host.keeps_note _ _ before.host
  have blocks :
      Masked before.host (Host.block (announced descriptor before.host)).2 :=
    Frame.trans announces (Host.keeps_block _)
  cases execute_executed ran with
  | malformed e problem =>
      exact Frame.refl before.host
  | notBlocked errno unblocked blocking =>
      rwa [blocking] at blocks
  | notForked previous blocked errno blocking forked =>
      rw [blocking] at blocks
      have forks : Masked blocked (Host.fork blocked).2 :=
        Host.masked_of_inside (Host.inside_fork blocked)
          (Host.blocked_of_block blocking)
      exact
        Frame.trans (Frame.trans blocks forks) (Host.keeps_unblock previous _)
  | child previous blocked program arguments blocking forked =>
      rw [blocking] at blocks
      have forks : Masked blocked (Host.fork blocked).2 :=
        Host.masked_of_inside (Host.inside_fork blocked)
          (Host.blocked_of_block blocking)
      exact
        Frame.trans (Frame.trans blocks forks)
          (Child.keeps_runChild descriptor program arguments previous _)
  | parent previous blocked pid adopted blocking forked adopts =>
      rw [blocking] at blocks
      obtain ⟨-, inside⟩ := inside_adopted adopts
      have works : Masked blocked adopted.host :=
        Host.masked_of_inside inside (Host.blocked_of_block blocking)
      exact
        Frame.trans (Frame.trans blocks works)
          (Host.keeps_unblock previous adopted.host)

/-- So is a collection. -/
theorem masked_collect
    {before after : Shell}
    {jobs : List Job}
    (ran : collect before = (jobs, after)) :
    Masked before.host after.host := by
  have blocks : Masked before.host (Host.block before.host).2 :=
    Host.keeps_block before.host
  cases collect_collected ran with
  | notBlocked errno unblocked message blocking =>
      rw [blocking] at blocks
      exact Frame.trans blocks (Host.keeps_note _ _ unblocked)
  | handedOut previous blocked jobs blocking handed =>
      rw [blocking] at blocks
      have drains : Masked blocked (Host.drain blocked).2 :=
        Host.masked_of_inside (Host.inside_drain blocked)
          (Host.blocked_of_block blocking)
      have unblocks :
          Masked (Host.drain blocked).2 (emptied previous blocked) :=
        Host.keeps_unblock previous _
      have emits : Keeps Masked (Host.emit (.collected jobs)) :=
        Host.masked_emit (fun _ => rfl) rfl
      exact
        Frame.trans (Frame.trans blocks drains)
          (Frame.trans unblocks (emits (emptied previous blocked)))

/-- A launch leaves the mask as it was, unless it ends as a forked child. -/
theorem restores_execute
    {terminal : Terminal}
    {descriptor : Descriptor}
    {before after : Shell}
    {launch : Launch}
    (ran : execute terminal descriptor before = (launch, after))
    (notEnded : ∀ ending, launch ≠ .ended ending) :
    Restores before.host after.host := by
  have announces : Outside before.host (announced descriptor before.host) :=
    Host.keeps_note _ _ before.host
  cases execute_executed ran with
  | malformed e problem =>
      exact Frame.refl before.host
  | notBlocked errno unblocked blocking =>
      exact
        Frame.trans (Host.restores_of_steady announces)
          (Host.restores_of_block_error blocking)
  | notForked previous blocked errno blocking forked =>
      have forks : Inside blocked (before.on (Host.fork blocked).2).host :=
        Host.inside_fork blocked
      obtain ⟨window, -⟩ := exists_window announces blocking forks
      exact window.restores
  | child previous blocked program arguments blocking forked =>
      exact absurd rfl (notEnded _)
  | parent previous blocked pid adopted blocking forked adopts =>
      obtain ⟨window, -⟩ := launched_window ran
      exact window.restores

/-- So does a collection. -/
theorem restores_collect
    {before after : Shell}
    {jobs : List Job}
    (ran : collect before = (jobs, after)) :
    Restores before.host after.host := by
  cases collect_collected ran with
  | notBlocked errno unblocked message blocking =>
      have notes : Outside unblocked (Host.note .error message unblocked).2 :=
        Host.keeps_note _ _ unblocked
      exact
        Frame.trans (Host.restores_of_block_error blocking)
          (Host.restores_of_steady notes)
  | handedOut previous blocked jobs blocking handed =>
      have drains : Inside blocked (before.on (Host.drain blocked).2).host :=
        Host.inside_drain blocked
      obtain ⟨window, -⟩ :=
        exists_window (Frame.refl before.host) blocking drains
      have emits : Keeps Inside (Host.emit (.collected jobs)) :=
        Host.Steady.emit fun _ => rfl
      exact
        Frame.trans window.restores
          (Host.restores_of_steady (emits (emptied previous blocked)))

end Shell
end JobShell

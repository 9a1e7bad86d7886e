import JobShell.Launch.Execute
import JobShell.Proofs.Host.Trail

namespace JobShell

/-!
# The ways a launch and a collection can go

Every call of `execute`, `adopt` and `collect` goes one of a few ways, each with
the hosts between its steps. Statements about launches split along these ways
and never open the computations themselves.
-/

/-- What the fork of a launch answered, if there was one. -/
def Launch.answer? : Launch → Option ForkAnswer
  | refused (.fork errno) => some (.failed errno)
  | refused _ => none
  | launched pid => some (.parent pid)
  | ended _ => some .child

/-- The history of a fork that was made or not. -/
def History.ofFork : Option ForkAnswer → History
  | none => []
  | some answer => [.call (.fork answer) none]

namespace Shell

/-- The shell on another host. -/
def on (shell : Shell) (host : Host) : Shell :=
  { shell with host := host }

@[simp] theorem on_host (shell : Shell) (host : Host) :
    (shell.on host).host = host :=
  rfl

@[simp] theorem on_on (shell : Shell) (first second : Host) :
    (shell.on first).on second = shell.on second :=
  rfl

/-- A computation on the host changes nothing but the host. -/
theorem run_lift (action : HostM α) (shell : Shell) :
    (liftM action : ShellM α) shell =
      ((action shell.host).1, shell.on (action shell.host).2) :=
  rfl

/-- The host once the log says that a descriptor is launched. -/
def announced (descriptor : Descriptor) (host : Host) : Host :=
  (Host.note .debug
    ("jobsh: launching " ++ String.ofList descriptor.logged) host).2

/-- The program and the arguments of a descriptor can be handed to the system. -/
def WellFormed
    (descriptor : Descriptor)
    (program : Bytes)
    (arguments : List Bytes) :
    Prop :=
  descriptor.systemProgram = .ok program ∧
    descriptor.systemArguments = .ok arguments

/-- The ways a launch can go. -/
inductive Executed
    (terminal : Terminal)
    (descriptor : Descriptor)
    (before : Shell) :
    Launch → Shell → Prop
  /-- The program or an argument holds a NUL byte. -/
  | malformed (e : ShellError) :
      descriptor.systemProgram = .error e ∨
        descriptor.systemArguments = .error e →
      Executed terminal descriptor before (.refused e) before
  /-- SIGCHLD cannot be blocked. -/
  | notBlocked (errno : Errno) (unblocked : Host) :
      Host.block (announced descriptor before.host) =
        (.error errno, unblocked) →
      Executed terminal descriptor before
        (.refused (.sys "sigprocmask" errno)) (before.on unblocked)
  /-- The fork fails. -/
  | notForked (previous : Bool) (blocked : Host) (errno : Errno) :
      Host.block (announced descriptor before.host) =
        (.ok previous, blocked) →
      (Host.fork blocked).1 = .failed errno →
      (∃ program arguments, WellFormed descriptor program arguments) →
      Executed terminal descriptor before
        (.refused (.fork errno))
        (before.on (Host.unblock previous (Host.fork blocked).2).2)
  /-- The caller is the child. -/
  | child
      (previous : Bool)
      (blocked : Host)
      (program : Bytes)
      (arguments : List Bytes) :
      Host.block (announced descriptor before.host) =
        (.ok previous, blocked) →
      (Host.fork blocked).1 = .child →
      WellFormed descriptor program arguments →
      Executed terminal descriptor before
        (.ended
          (runChild descriptor program arguments previous
            (Host.fork blocked).2).1)
        (before.on
          (runChild descriptor program arguments previous
            (Host.fork blocked).2).2)
  /-- The caller is the parent of a new child. -/
  | parent
      (previous : Bool)
      (blocked : Host)
      (pid : Pid)
      (adopted : Shell) :
      Host.block (announced descriptor before.host) =
        (.ok previous, blocked) →
      (Host.fork blocked).1 = .parent pid →
      (adopt terminal descriptor pid
        (before.on (Host.fork blocked).2)).2 = adopted →
      (∃ program arguments, WellFormed descriptor program arguments) →
      Executed terminal descriptor before (.launched pid)
        (adopted.on (Host.unblock previous adopted.host).2)

/-- What cannot be handed to the system holds a NUL byte. -/
theorem nul_of_malformed
    {descriptor : Descriptor}
    {e : ShellError}
    (problem :
      descriptor.systemProgram = .error e ∨
        descriptor.systemArguments = .error e) :
    ∃ position, e = .nul position := by
  rcases problem with program | arguments
  · exact checkNul_error program
  · exact Descriptor.systemArguments_error arguments

/-- A well-formed launch is announced, and then SIGCHLD is blocked. -/
theorem execute_eq
    {terminal : Terminal}
    {descriptor : Descriptor}
    {program : Bytes}
    {arguments : List Bytes}
    (programOk : descriptor.systemProgram = .ok program)
    (argumentsOk : descriptor.systemArguments = .ok arguments)
    (before : Shell) :
    execute terminal descriptor before =
      (do
        match ← (Host.block : HostM (Except Errno Bool)) with
        | .error errno => return .refused (.sys "sigprocmask" errno)
        | .ok previous =>
            forkBlocked terminal descriptor program arguments previous
        : ShellM Launch)
        (before.on (announced descriptor before.host)) := by
  unfold execute
  rw [programOk, argumentsOk]
  rfl

/-- Forking while SIGCHLD is blocked goes one of the three ways of a fork. -/
theorem forkBlocked_executed
    {terminal : Terminal}
    {descriptor : Descriptor}
    {before : Shell}
    {previous : Bool}
    {blocked : Host}
    (blocking :
      Host.block (announced descriptor before.host) = (.ok previous, blocked))
    {program : Bytes}
    {arguments : List Bytes}
    (wellFormed : WellFormed descriptor program arguments) :
    Executed terminal descriptor before
      (forkBlocked terminal descriptor program arguments previous
        (before.on blocked)).1
      (forkBlocked terminal descriptor program arguments previous
        (before.on blocked)).2 := by
  unfold forkBlocked
  rw [run_bind, run_lift]
  simp only [on_host]
  cases forked : (Host.fork blocked).1 with
  | child =>
      exact .child previous blocked program arguments blocking forked wellFormed
  | failed errno =>
      exact
        .notForked previous blocked errno blocking forked ⟨_, _, wellFormed⟩
  | parent pid =>
      exact
        .parent previous blocked pid _ blocking forked rfl ⟨_, _, wellFormed⟩

/-- A launch goes one of these ways. -/
theorem executed_execute
    (terminal : Terminal)
    (descriptor : Descriptor)
    (before : Shell) :
    Executed terminal descriptor before
      (execute terminal descriptor before).1
      (execute terminal descriptor before).2 := by
  cases programOk : descriptor.systemProgram with
  | error e =>
      have refused :
          execute terminal descriptor before = (.refused e, before) := by
        unfold execute
        rw [programOk]
        rfl
      rw [refused]
      exact .malformed e (.inl programOk)
  | ok program =>
      cases argumentsOk : descriptor.systemArguments with
      | error e =>
          have refused :
              execute terminal descriptor before = (.refused e, before) := by
            unfold execute
            rw [programOk, argumentsOk]
            rfl
          rw [refused]
          exact .malformed e (.inr argumentsOk)
      | ok arguments =>
          rw [execute_eq programOk argumentsOk, run_bind, run_lift]
          simp only [on_host]
          cases blocking :
              Host.block (announced descriptor before.host) with
          | mk answer blocked =>
              cases answer with
              | error errno =>
                  exact .notBlocked errno blocked blocking
              | ok previous =>
                  exact forkBlocked_executed blocking ⟨programOk, argumentsOk⟩

/-- A launch with a known outcome went one of the ways to it. -/
theorem execute_executed
    {terminal : Terminal}
    {descriptor : Descriptor}
    {before after : Shell}
    {launch : Launch}
    (ran : execute terminal descriptor before = (launch, after)) :
    Executed terminal descriptor before launch after := by
  have result :
      Executed terminal descriptor before
        (execute terminal descriptor before).1
        (execute terminal descriptor before).2 :=
    executed_execute terminal descriptor before
  rwa [ran] at result

/-- What the parent does about a new child before it leaves it or waits for it. -/
def enter (descriptor : Descriptor) (pid : Pid) : ShellM Unit := do
  match ← Host.setGroup pid pid with
  | none => pure ()
  | some errno =>
      Host.note .debug s!"jobsh: setpgid({pid}) from parent: {errno.callText}"
  let _ ← addJob { descriptor with pid := some pid, group := some pid }

/-- The shell once a new child has its group and its entry in the table. -/
def entered (descriptor : Descriptor) (pid : Pid) (before : Shell) : Shell :=
  (enter descriptor pid before).2

/-- The parent enters the job, and then leaves it or waits for it. -/
theorem adopt_eq
    (terminal : Terminal)
    (descriptor : Descriptor)
    (pid : Pid)
    (before : Shell) :
    (adopt terminal descriptor pid before).2 =
      if descriptor.background then
        (leaveInBackground pid (entered descriptor pid before)).2
      else
        (runInForeground terminal pid (entered descriptor pid before)).2 := by
  unfold adopt entered enter
  rw [run_bind, run_bind, run_lift]
  cases (Host.setGroup pid pid before.host).1 with
  | none =>
      split <;> rename_i kind <;> simp only [run_bind, kind] <;> rfl
  | some errno =>
      split <;> rename_i kind <;> simp only [run_bind, kind] <;> rfl

/-- The shell once the terminal is handed to a child. -/
def lent (terminal : Terminal) (child : Pid) (before : Shell) : Shell :=
  before.on (terminal.handOver child before.host).2

/-- A job in the foreground is waited for while it has the terminal. -/
theorem runInForeground_eq
    (terminal : Terminal)
    (child : Pid)
    (before : Shell) :
    (runInForeground terminal child before).2 =
      { (waitForeground child (lent terminal child before)).2 with
        host :=
          (terminal.takeBack
            (waitForeground child (lent terminal child before)).2.host).2
        lastStatus := some (waitForeground child (lent terminal child before)).1 } :=
  rfl

/-- The changes that the slots of a host tell of. -/
def changes (host : Host) : List (Pid × Status) :=
  host.slots.drain.1.map fun event => (event.pid, event.status)

/-- The host once its slots are drained and SIGCHLD is unblocked. -/
def emptied (previous : Bool) (blocked : Host) : Host :=
  (Host.unblock previous (Host.drain blocked).2).2

/-- The ways a collection can go. -/
inductive Collected (before : Shell) : List Job → Shell → Prop
  /-- SIGCHLD cannot be blocked. -/
  | notBlocked (errno : Errno) (unblocked : Host) (message : String) :
      Host.block before.host = (.error errno, unblocked) →
      Collected before []
        (before.on (Host.note .error message unblocked).2)
  /-- The slots are drained, and the jobs that changed are handed out. -/
  | handedOut (previous : Bool) (blocked : Host) (jobs : List Job) :
      Host.block before.host = (.ok previous, blocked) →
      JobTable.sortByIndex (before.jobs.updateAll (changes blocked)).1 = jobs →
      Collected before jobs
        { before with
          host := (Host.emit (.collected jobs) (emptied previous blocked)).2
          jobs := (before.jobs.updateAll (changes blocked)).2 }

/-- A collection that blocks SIGCHLD hands out the jobs that changed. -/
theorem collect_changed
    {before : Shell}
    {previous : Bool}
    {blocked : Host}
    (blocking : Host.block before.host = (.ok previous, blocked)) :
    (collect before).1 =
      JobTable.sortByIndex (before.jobs.updateAll (changes blocked)).1 := by
  unfold collect
  rw [run_bind, run_lift, blocking]
  rfl

/-- A collection with a known outcome went one of the ways to it. -/
theorem collect_collected
    {before after : Shell}
    {jobs : List Job}
    (ran : collect before = (jobs, after)) :
    Collected before jobs after := by
  unfold collect at ran
  rw [run_bind, run_lift] at ran
  cases blocking : Host.block before.host with
  | mk answer blocked =>
      rw [blocking] at ran
      cases answer with
      | error errno =>
          obtain ⟨rfl, rfl⟩ := Prod.mk.inj ran
          exact .notBlocked errno blocked _ blocking
      | ok previous =>
          obtain ⟨rfl, rfl⟩ := Prod.mk.inj ran
          exact .handedOut previous blocked _ blocking rfl

end Shell
end JobShell

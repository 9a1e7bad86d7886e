import JobShell.Launch.Child
import JobShell.Terminal
import JobShell.Text.Escaped

namespace JobShell

/-!
# Launching jobs

A descriptor is launched by a fork. The child becomes the program; the parent
enters a job and, while SIGCHLD is still blocked, either waits for the job with
the terminal in its hands, or claims a slot of the reaper for it. Jobs of the
background are collected between lines.
-/

/-- The jobs of a shell, how the last foreground job ended, and the host. -/
structure Shell where
  host : Host
  jobs : JobTable := {}
  /-- There is none after a launch in the background. -/
  lastStatus : Option Status := none

/-- A computation on a shell. -/
abbrev ShellM := StateM Shell

/-- A computation on the host as one on the shell. -/
def onHost (action : HostM α) : ShellM α := fun shell =>
  let (answer, host) := action shell.host
  (answer, { shell with host := host })

instance : MonadLift HostM ShellM := ⟨onHost⟩

/-- What became of a launch. -/
inductive Launch where
  /-- There is no child. -/
  | refused (error : ShellError)
  /-- The child runs, or ran, as this process. -/
  | launched (pid : Pid)
  /-- The caller was the child, and has ended, or panics. -/
  | ended (ending : Ending)
  deriving DecidableEq, Repr

/-- A state as it is written in the log. -/
def Status.logged : Status → String
  | .running => "Running"
  | .stopped signal => s!"Stopped({signal.name})"
  | .done code => s!"Done({code})"
  | .killed signal => s!"Killed({signal.name})"

/-- A value that may be missing, as it is written in the log. -/
def loggedOption (value : Option Text) : Text :=
  match value with
  | none => "None".toList
  | some text => "Some(".toList ++ text ++ [')']

/-- Named fields between braces, as they are written in the log. -/
def loggedFields (name : String) (fields : List (String × Text)) : Text :=
  let field (entry : String × Text) : Text :=
    entry.1.toList ++ ": ".toList ++ entry.2
  name.toList ++ " \x7b ".toList ++
    ", ".toList.intercalate (fields.map field) ++ " \x7d".toList

/-- A redirection as it is written in the log. -/
def Redirection.logged (redirection : Redirection) : Text :=
  loggedFields "Redirection"
    [("operator",
        match redirection.direction with
        | .input => "Input".toList
        | .output => "Output".toList),
      ("filename", Escaped.text redirection.filename)]

/-- A process number as it is written in the log. -/
def loggedPid (pid : Pid) : Text :=
  "Pid(".toList ++ (toString pid).toList ++ [')']

/-- A descriptor as it is written in the log. -/
def Descriptor.logged (descriptor : Descriptor) : Text :=
  loggedFields "Process"
    [("program", Escaped.path descriptor.program),
      ("arguments", Escaped.texts descriptor.arguments),
      ("redirection", loggedOption (descriptor.redirection.map Redirection.logged)),
      ("background", (toString descriptor.background).toList),
      ("pid", loggedOption (descriptor.pid.map loggedPid)),
      ("pgid", loggedOption (descriptor.group.map loggedPid))]

namespace Shell

/-- Enter a process into the job table. -/
def addJob (descriptor : Descriptor) : ShellM (Option Nat) := do
  let shell ← get
  let (index, jobs) := shell.jobs.add descriptor
  match index, descriptor.pid with
  | some index, some pid =>
      Host.note .debug
        (s!"jobsh: job [{index}] {pid} " ++ String.ofList descriptor.commandLine)
  | _, _ => pure ()
  modify fun shell => { shell with jobs := jobs }
  return index

/-- Take a job out of the table. -/
def removeJob (pid : Pid) : ShellM (Option Job) := do
  let shell ← get
  let (job, jobs) := shell.jobs.remove pid
  set { shell with jobs := jobs }
  return job

/-- Give a job a new state. -/
def updateJob (pid : Pid) (status : Status) : ShellM Unit :=
  modify fun shell => { shell with jobs := (shell.jobs.update pid status).2 }

/-- What the log says about an error that ended a wait. -/
def noteTrouble (pid : Pid) : Option Errno → HostM Unit
  | none => return
  | some .echild =>
      Host.note .warn s!"jobsh: {pid} was reaped elsewhere, exit status lost"
  | some errno =>
      Host.note .error s!"jobsh: waitpid({pid}) failed: {errno.callText}"

/--
Wait until a foreground job exits, is killed or stops. A job that stops is in
the background from then on, and the reaper collects it when it dies.
-/
def waitForeground (pid : Pid) : ShellM Status := do
  let settled ← Host.wait pid
  noteTrouble pid settled.trouble
  Host.note .debug s!"jobsh: foreground {pid} -> {settled.status.logged}"
  match settled.status with
  | .stopped _ =>
      let _ ← Host.track pid
      pure ()
  | _ => pure ()
  updateJob pid settled.status
  return settled.status

/--
Collect the jobs that the reaper saw finish or stop, in the order of their
indexes. Nothing is collected when SIGCHLD cannot be blocked.
-/
def collect : ShellM (List Job) := do
  match ← Host.block with
  | .error errno =>
      let e := ShellError.sys "sigprocmask" errno
      Host.note .error s!"jobsh: cannot collect finished jobs: {e.message}"
      return []
  | .ok previous =>
      let events ← Host.drain
      Host.unblock previous
      let shell ← get
      let (changed, jobs) :=
        shell.jobs.updateAll (events.map fun event => (event.pid, event.status))
      let sorted := JobTable.sortByIndex changed
      set { shell with jobs := jobs }
      Host.emit (.collected sorted)
      return sorted

/-- Leave a job in the background, if the reaper can watch it. -/
def leaveInBackground (pid : Pid) : ShellM Unit := do
  if !(← Host.track pid) then
    Host.note .warn s!"jobsh: {pid} runs untracked"
    let _ ← removeJob pid
  modify fun shell => { shell with lastStatus := none }

/-- Run a job in the foreground until it settles. -/
def runInForeground (terminal : Terminal) (pid : Pid) : ShellM Unit := do
  terminal.handOver pid
  let status ← waitForeground pid
  terminal.takeBack
  modify fun shell => { shell with lastStatus := some status }

/-- What the parent does about a new child. -/
def adopt (terminal : Terminal) (descriptor : Descriptor) (pid : Pid) :
    ShellM Unit := do
  match ← Host.setGroup pid pid with
  | none => pure ()
  | some errno =>
      Host.note .debug s!"jobsh: setpgid({pid}) from parent: {errno.callText}"
  let _ ← addJob { descriptor with pid := some pid, group := some pid }
  if descriptor.background then leaveInBackground pid
  else runInForeground terminal pid

/-- Be the child. One that panics unwinds, and undoes the blocking it inherited. -/
def runChild
    (descriptor : Descriptor)
    (program : Bytes)
    (arguments : List Bytes)
    (previous : Bool) :
    HostM Ending := do
  let ending ← Child.run descriptor program arguments
  if ending = .panicked then Host.unblock previous
  return ending

/-- Fork, and be the parent or the child, while SIGCHLD is blocked. -/
def forkBlocked
    (terminal : Terminal)
    (descriptor : Descriptor)
    (program : Bytes)
    (arguments : List Bytes)
    (previous : Bool) :
    ShellM Launch := do
  match ← Host.fork with
  | .child => return .ended (← runChild descriptor program arguments previous)
  | .failed errno =>
      Host.unblock previous
      return .refused (.fork errno)
  | .parent pid =>
      adopt terminal descriptor pid
      Host.unblock previous
      return .launched pid

/-- Launch a descriptor in a new process group. -/
def execute (terminal : Terminal) (descriptor : Descriptor) : ShellM Launch := do
  match descriptor.systemProgram, descriptor.systemArguments with
  | .error e, _ => return .refused e
  | .ok _, .error e => return .refused e
  | .ok program, .ok arguments =>
      Host.note .debug ("jobsh: launching " ++ String.ofList descriptor.logged)
      match ← Host.block with
      | .error errno => return .refused (.sys "sigprocmask" errno)
      | .ok previous => forkBlocked terminal descriptor program arguments previous

end Shell
end JobShell

import JobShell.Builtin.Table
import JobShell.Host.Event
import JobShell.Job.Wait
import JobShell.Reaper.Reap

namespace JobShell

/-!
# The host

The state that system calls read and change: the script, the process and its
group, signals, slots, files, and the history so far. Each call is a small
computation that adds itself to the history.

SIGCHLD is raised when something happens to children. Raised, it is delivered
as soon as it is not blocked, the reaper handles it, and the process is not a
forked child: at once, or when the mask changes. The reaper then runs to its
end before anything else happens.
-/

/-- The state of the process and of what surrounds it. -/
structure Host where
  script : Script := {}
  /-- The process number of the shell. -/
  pid : Pid := 500
  /-- Its process group. -/
  group : Pid := 500
  /-- The number of the next child that the script does not name. -/
  nextChild : Pid := 1001
  /-- Events that nobody has waited for. -/
  pending : List ChildEvent := []
  /-- SIGCHLD was raised and is not delivered yet. -/
  raised : Bool := false
  /--
  SIGCHLD is blocked. It is the only signal of a mask that is kept: the mask
  that the process inherits is assumed to hold no other.
  -/
  blocked : Bool := false
  handling : Handling := .default
  /-- The process is a child made by `fork`. -/
  inChild : Bool := false
  slots : SlotTable := SlotTable.empty
  /-- Standard input is a terminal. -/
  stdinIsTerminal : Bool := false
  /-- Standard output is a terminal. -/
  stdoutIsTerminal : Bool := false
  /-- The modes of the terminal. -/
  modes : Modes := {}
  space : Workspace := {}
  history : History := []

/-- A computation on the host. -/
abbrev HostM := StateM Host

/-- A computation on the host that may fail. -/
abbrev HostE := ExceptT ShellError HostM

namespace Host

/-- Add an event to the history. -/
def emit (event : Event) : HostM Unit :=
  modify fun host => { host with history := host.history ++ [event] }

/-- Log a message. -/
def note (level : Level) (message : String) : HostM Unit :=
  emit (.note level message)

/-- The error of the next line on standard output, if it fails. -/
def nextNotice : HostM (Option Errno) := do
  let host ← get
  set { host with
    script := { host.script with notices := host.script.notices.tail } }
  return host.script.notices.head?.join

/-- The error of the next line on standard error, if it fails. -/
def nextComplaint : HostM (Option Errno) := do
  let host ← get
  set { host with
    script := { host.script with complaints := host.script.complaints.tail } }
  return host.script.complaints.head?.join

/-- What comes of writing a line; the answer is whether it was written. -/
def writeLine (fault : Option Errno) (written : Event) : HostM Bool :=
  match fault with
  | none => do
      emit written
      return true
  | some errno => do
      emit (.unwritten errno)
      return false

/--
Write a line to standard output. The answer is whether it was written: where it
was not, the process panics, and its caller has to see to that.
-/
def printLine (text : Text) : HostM Bool := do
  writeLine (← nextNotice) (.output (Utf8.encode (text ++ ['\n'])))

/-- Write a line to standard error, with the same answer. -/
def complain (text : Text) : HostM Bool := do
  writeLine (← nextComplaint) (.complaint (text ++ ['\n']))

/-- The error of the next call of a kind, if it fails. -/
def nextFault (syscall : Syscall) : HostM (Option Errno) := do
  let host ← get
  set { host with script := host.script.dropFault syscall }
  return (host.script.faults syscall).head?.join

/-- The error of the next prompt, if it fails. -/
def nextPrompt : HostM (Option Errno) := do
  let host ← get
  set { host with
    script := { host.script with prompts := host.script.prompts.tail } }
  return host.script.prompts.head?.join

/-- Make a call that has no answer but success or failure. -/
def attempt (syscall : Syscall) (call : Call) : HostM (Option Errno) := do
  let fault ← nextFault syscall
  emit (.call call fault)
  return fault

/-- Make a call whose failure is an error in a context. -/
def demand (context : String) (syscall : Syscall) (call : Call) : HostE Unit := do
  match ← attempt syscall call with
  | none => return
  | some errno => throw (.sys context errno)

/-- One run of the reaper; the answer is the number of changes collected. -/
def reap : HostM Nat := do
  let host ← get
  let reaped := Reaped.ofPending host.slots host.pending
  set { host with
    slots := reaped.slots
    pending := reaped.rest
    history :=
      host.history ++ reaped.answers.map fun event => Event.call (.waitAny event) none }
  return reaped.count

/-- A raised SIGCHLD would be delivered now. -/
def canDeliver (host : Host) : Bool :=
  host.raised && !host.blocked && host.handling = .reaper && !host.inChild

/-- Deliver SIGCHLD if it is raised and nothing is in the way. -/
def deliver : HostM Unit := do
  let host ← get
  if host.canDeliver then
    set { host with raised := false }
    emit (.call .deliver none)
    let _ ← reap
    return

/-- Something happens to children, and SIGCHLD tells so. -/
def raiseChild (events : List ChildEvent) : HostM Unit := do
  modify fun host =>
    { host with pending := host.pending ++ events, raised := true }
  deliver

/--
What happens to children before the next blocking of SIGCHLD; it may be nothing.
-/
def nextBatch : HostM Unit := do
  let host ← get
  match host.script.batches with
  | [] => return
  | batch :: rest =>
      set { host with script := { host.script with batches := rest } }
      if batch.isEmpty then return else raiseChild batch

/-- Block SIGCHLD; the answer is whether it was blocked before. -/
def block : HostM (Except Errno Bool) := do
  nextBatch
  let previous := (← get).blocked
  match ← attempt .sigprocmask .blockChild with
  | some errno => return .error errno
  | none =>
      modify fun host => { host with blocked := true }
      return .ok previous

/-- Set the mask. -/
def setMask (blocked : Bool) : HostM (Option Errno) := do
  match ← attempt .sigprocmask (.setMask blocked) with
  | some errno => return some errno
  | none =>
      modify fun host => { host with blocked := blocked }
      deliver
      return none

/-- Undo a blocking; a failure is only logged. -/
def unblock (previous : Bool) : HostM Unit := do
  match ← setMask previous with
  | none => return
  | some errno =>
      note .warn s!"jobsh: cannot restore signal mask: {errno.callText}"

/-- Give a signal its default handling. -/
def resetSignal (signal : Signal) : HostE Unit := do
  demand "signal" .signal (.resetSignal signal)
  if signal = .chld then
    modify fun host => { host with handling := .default }

/-- Ignore a signal. -/
def ignoreSignal (signal : Signal) : HostE Unit :=
  demand "signal" .signal (.ignoreSignal signal)

/-- Ignore the signals of job control, as an interactive shell must. -/
def ignoreJobControl : HostE Unit :=
  Signal.jobControl.forM ignoreSignal

/-- What a child must not inherit: handlings and a mask. -/
def resetForChild : HostE Unit := do
  (Signal.jobControl ++ [Signal.chld]).forM resetSignal
  match ← setMask false with
  | none => return
  | some errno => throw (.sys "signal" errno)

/-- Set what SIGCHLD does; the answer is what it did before. -/
def setHandling (handling : Handling) : HostM (Except Errno Handling) := do
  let previous := (← get).handling
  match ← attempt .sigaction (.setHandling handling) with
  | some errno => return .error errno
  | none =>
      modify fun host => { host with handling := handling }
      return .ok previous

/-- Install the reaper; the answer is what SIGCHLD did before. -/
def installReaper : HostE Handling := do
  match ← setHandling .reaper with
  | .error errno => throw (.sys "sigaction(SIGCHLD)" errno)
  | .ok previous =>
      note .debug "jobsh: SIGCHLD reaper installed"
      return previous

/-- Give SIGCHLD its earlier handling back; a failure is only logged. -/
def removeReaper (previous : Handling) : HostM Unit := do
  match ← setHandling previous with
  | .ok _ => return
  | .error errno =>
      note .warn s!"jobsh: cannot restore SIGCHLD disposition: {errno.callText}"

/-- Ask for a slot for a child; the answer is whether it has one. -/
def track (pid : Pid) : HostM Bool := do
  let host ← get
  let (granted, slots) := host.slots.track pid
  set { host with slots := slots }
  emit (.tracked pid granted)
  if !granted then
    note .warn s!"jobsh: job table full, {pid} will not be reported"
  return granted

/-- Take the recorded events out of the slots. -/
def drain : HostM (List ReapEvent) := do
  let host ← get
  let (events, slots) := host.slots.drain
  set { host with slots := slots }
  emit (.drained events)
  return events

/-- Fork. -/
def fork : HostM ForkAnswer := do
  let host ← get
  match host.script.forks with
  | [] =>
      set { host with nextChild := host.nextChild + 1 }
      emit (.call (.fork (.parent host.nextChild)) none)
      return .parent host.nextChild
  | answer :: rest =>
      set { host with
        script := { host.script with forks := rest }
        inChild := host.inChild || answer = ForkAnswer.child }
      emit (.call (.fork answer) none)
      return answer

/-- Move a process into a group. -/
def setGroup (pid group : Pid) : HostM (Option Errno) := do
  match ← attempt .setpgid (.setGroup pid group) with
  | some errno => return some errno
  | none =>
      modify fun host =>
        if pid = host.pid then { host with group := group } else host
      return none

/-- The process number that stands for any child. -/
def anyChild : Pid := -1

/--
The answers to come for a child: those of the script, or for any child those of
the pending events.
-/
def answersFor (host : Host) (pid : Pid) : List WaitAnswer :=
  if pid = anyChild then host.pending.map ChildEvent.answer
  else host.script.waits pid

/-- The host once a wait for a child has settled. -/
def afterWait (host : Host) (pid : Pid) (settled : Settled) : Host :=
  let history :=
    host.history ++
      settled.answers.map fun answer => Event.call (.wait pid answer) none
  if pid = anyChild then
    { host with
      pending := host.pending.drop settled.answers.length
      history := history }
  else
    { host with
      script := host.script.setWaits pid settled.rest
      history := history }

/-- Wait for a child until an answer settles what became of it. -/
def wait (pid : Pid) : HostM Settled := do
  let host ← get
  let settled := Settled.ofAnswers (host.answersFor pid)
  set (host.afterWait pid settled)
  return settled

/-- Ask which group owns the terminal. -/
def getOwner : HostE Pid := do
  let host ← get
  let owner := host.script.owners.headD host.group
  demand "tcgetpgrp" .tcgetpgrp (.getOwner owner)
  modify fun host =>
    { host with script := { host.script with owners := host.script.owners.tail } }
  return owner

/-- Give the terminal to a group. -/
def setOwner (group : Pid) : HostE Unit :=
  demand "tcsetpgrp" .tcsetpgrp (.setOwner group)

/-- Read the modes of the terminal. -/
def getModes : HostM (Except Errno Modes) := do
  let modes := (← get).modes
  match ← attempt .tcgetattr (.getModes modes) with
  | none => return .ok modes
  | some errno => return .error errno

/-- Set the modes of the terminal. -/
def setModes (modes : Modes) : HostE Unit := do
  demand "tcsetattr" .tcsetattr (.setModes modes)
  modify fun host => { host with modes := modes }

end Host
end JobShell

import JobShell.Host.Script
import JobShell.Job.Table
import JobShell.Reaper.Slots
import JobShell.Settings.Level
import JobShell.Text.Controls

namespace JobShell

/-!
# Histories

Everything a shell does is an event: a system call with its answer, output, a
log message, a step of the shell's own that later statements refer to. A
history is the list of events in order; what was called, printed or logged are
projections of it.
-/

/-- The modes of a terminal, as one saved value. -/
structure Modes where
  image : Nat := 0
  deriving DecidableEq, Repr

/-- What happens when SIGCHLD arrives. -/
inductive Handling where
  /-- Nothing. -/
  | default
  /-- The reaper runs. -/
  | reaper
  deriving DecidableEq, Repr

/-- A system call, with what it answered unless it failed. -/
inductive Call where
  | fork (answer : ForkAnswer)
  | setGroup (pid group : Pid)
  | wait (pid : Pid) (answer : WaitAnswer)
  /-- Wait for any child, without blocking; `none` when there is no change. -/
  | waitAny (event : Option ChildEvent)
  | blockChild
  /--
  Set the mask: SIGCHLD alone, or nothing. A mask with other signals in it is
  never set, since none is inherited.
  -/
  | setMask (blocked : Bool)
  | ignoreSignal (signal : Signal)
  | resetSignal (signal : Signal)
  | setHandling (handling : Handling)
  /-- The reaper starts. -/
  | deliver
  | getOwner (owner : Pid)
  | setOwner (group : Pid)
  | getModes (modes : Modes)
  | setModes (modes : Modes)
  | killGroup (group : Pid) (signal : Signal)
  /-- Put the file just opened in the place of a descriptor. -/
  | duplicate (target : Nat)
  | execute (program : Bytes) (arguments : List Bytes)
  /-- A note of somebody who watches the calls. -/
  | mark (text : String)

namespace Call

/-- The call as it is written in a trace. -/
def text : Call → String
  | fork (.parent child) => s!"fork={child}"
  | fork .child => "fork=child"
  | fork (.failed errno) => s!"fork={errno.name}"
  | setGroup pid group => s!"setpgid({pid},{group})"
  | wait pid _ => s!"waitpid({pid},WUNTRACED)"
  | waitAny _ => "waitpid(-1,WNOHANG|WUNTRACED)"
  | blockChild => "block(SIGCHLD)"
  | setMask true => "setmask(SIGCHLD)"
  | setMask false => "setmask()"
  | ignoreSignal signal => s!"signal({signal.name},ignore)"
  | resetSignal signal => s!"signal({signal.name},default)"
  | setHandling .reaper => "sigaction(SIGCHLD,handler,SA_RESTART)"
  | setHandling .default => "sigaction(SIGCHLD,default)"
  | deliver => "deliver(SIGCHLD)"
  | getOwner _ => "tcgetpgrp"
  | setOwner group => s!"tcsetpgrp({group})"
  | getModes _ => "tcgetattr"
  | setModes _ => "tcsetattr(TCSADRAIN)"
  | killGroup group signal => s!"killpg({group},{signal.name})"
  | duplicate target => s!"dup2(file,{target})"
  | execute _ _ => "execv"
  | mark text => text

end Call

/-- Something a shell does. -/
inductive Event where
  /-- A system call, and the error it failed with. -/
  | call (call : Call) (fault : Option Errno)
  /-- Bytes go to standard output. -/
  | output (bytes : Bytes)
  /-- The prompt for the line with this number goes to standard output. -/
  | prompt (number : Nat) (text : Text)
  /-- The prompt for the line with this number fails. -/
  | unprompted (number : Nat) (errno : Errno)
  /-- A text goes to standard error. -/
  | complaint (text : Text)
  /--
  A line for the user cannot be written, and the process panics. What the
  runtime says about it is left out.
  -/
  | unwritten (errno : Errno)
  /-- A message goes to the log. -/
  | note (level : Level) (message : String)
  /-- A line is taken up. -/
  | line (number : Nat) (bytes : Bytes)
  /-- A child opens the file of its redirection, or fails to. -/
  | opened (redirection : Redirection) (error : Option FileError)
  /-- The shell asks for a slot, and whether it got one. -/
  | tracked (pid : Pid) (granted : Bool)
  /-- The shell drains the slots. -/
  | drained (events : List ReapEvent)
  /-- The shell collects the jobs that changed. -/
  | collected (jobs : List Job)

/-- The events of a run in order. -/
abbrev History := List Event

namespace Event

/-- The trace line of a call. -/
def trace? : Event → Option String
  | call c none => some c.text
  | call c (some errno) => some s!"{c.text}={errno.name}"
  | _ => none

/-- The bytes that go to standard output. -/
def stdout : Event → Bytes
  | output bytes => bytes
  | prompt _ text => Utf8.encode text
  | _ => []

/--
The line of the log that a message makes, where it is logged. The log holds no
terminal controls; one that a message leaves open takes the newline with it.
-/
def logLine (limit : Level) : Event → Text
  | note level message =>
      if level.isWithin limit then
        Controls.strip s!"[{level.name}] {message}\n".toList
      else []
  | _ => []

/-- The text that goes to standard error, log messages apart. -/
def stderr : Event → Text
  | complaint text => text
  | _ => []

/-- A line for the user cannot be written. -/
def isUnwritten : Event → Bool
  | unwritten _ => true
  | _ => false

end Event

namespace History

/-- The system calls as trace lines. -/
def calls (history : History) : List String :=
  history.filterMap Event.trace?

/-- Every line for the user was written. -/
def Written (history : History) : Prop :=
  ∀ event ∈ history, event.isUnwritten = false

instance (history : History) : Decidable history.Written :=
  inferInstanceAs (Decidable (∀ event ∈ history, event.isUnwritten = false))

/-- What was written to standard output. -/
def stdout (history : History) : Bytes :=
  history.flatMap Event.stdout

/-- What was logged up to a level. -/
def log (limit : Level) (history : History) : Text :=
  history.flatMap (Event.logLine limit)

/-- What was written to standard error, without or with the log. -/
def stderr (logged : Option Level) (history : History) : Text :=
  history.flatMap fun event =>
    event.stderr ++
      match logged with
      | none => []
      | some limit => event.logLine limit

end History
end JobShell

import JobShell.Builtin.Default
import JobShell.Launch.Execute
import JobShell.Line.Words
import JobShell.Settings.Basic
import JobShell.Settings.Theme

namespace JobShell

/-!
# A session

A session reads lines and runs them until one asks to leave or the input ends.
A line is a built-in or a program to launch; an error ends the line, never the
session. Before each line the jobs that changed are reported and, on a
terminal, a prompt shows the number of lines read so far. The session is over,
too, when a line for the user cannot be written: then the process panics.
-/

/-- What stays the same throughout a session. -/
structure Session where
  settings : Settings
  theme : Theme
  terminal : Terminal
  builtins : BuiltinTable := BuiltinTable.default

/-- What a line leads to. -/
inductive LineResult where
  /-- The session goes on, or leaves. -/
  | flow (flow : Flow)
  /-- The line failed. -/
  | failed (error : ShellError)
  /-- The process is over: it was a forked child, and has ended, or it panics. -/
  | ended (ending : Ending)
  deriving DecidableEq, Repr

/-- How a session ends. -/
inductive SessionResult where
  /-- It leaves with a code. -/
  | exit (code : Int)
  /-- Its input or its prompt failed. -/
  | failed (error : ShellError)
  /-- The process is over: it was a forked child, and has ended, or it panics. -/
  | ended (ending : Ending)
  deriving DecidableEq, Repr

namespace Session

/-- The words of a line of bytes. -/
def readWords (settings : Settings) (raw : Bytes) : Except ShellError (List Text) :=
  if settings.maxLine < raw.length then .error (.lineTooLong settings.maxLine)
  else
    match Utf8.decode raw with
    | .error offset => .error (.invalidUtf8 offset)
    | .ok line => tokenize line

/-- Run the built-in that the words select, if there is one. -/
def runBuiltin
    (session : Session)
    (words : List Text) :
    HostM (Option (Except ShellError Flow)) := do
  match session.builtins.select? words with
  | none => return none
  | some builtin =>
      Host.note .debug ("jobsh: builtin " ++ String.ofList builtin.name)
      let host ← get
      let (result, console) :=
        builtin.handler session.builtins.listing words { space := host.space }
      set { host with space := console.space }
      Host.emit (.output console.sink.written)
      return some result

/-- What the log says about the search for a program. -/
def noteSearch (space : Workspace) (words : List Text) : HostM Unit := do
  let path := space.lookupVariable? "PATH"
  if path.isNone then Host.note .debug "jobsh: PATH is not set"
  match Command.ofWords? words with
  | .error _ | .ok none => return
  | .ok (some command) =>
      let typed := Utf8.encode command.name
      if !space.isFile typed && !command.name.contains '/' then
        (Search.probed space typed path).forM fun candidate =>
          Host.note .trace ("jobsh: probing " ++ Utf8.shown candidate)
      match Descriptor.resolveProgram? space path command.name with
      | none => return
      | some program =>
          Host.note .debug
            ("jobsh: resolved " ++ String.ofList command.name ++ " to " ++
              Utf8.shown program)

/-- Find the program that the words ask for. -/
def findProgram (words : List Text) : HostM (Except ShellError Descriptor) := do
  let space := (← get).space
  noteSearch space words
  match Descriptor.build space (space.lookupVariable? "PATH") words with
  | .error e => return .error e
  | .ok none => return .error (.commandNotFound (words.headD []))
  | .ok (some descriptor) => return .ok descriptor

/-- Tell the user how a launch went; the answer is whether that was written. -/
def reportLaunch
    (session : Session)
    (descriptor : Descriptor)
    (pid : Pid) :
    ShellM Bool := do
  let shell ← get
  match shell.lastStatus, shell.jobs.get? pid with
  | none, some job =>
      if session.terminal.isInteractive then
        Host.printLine s!"[{job.index}] {pid}".toList
      else return true
  | some (.stopped _), some job =>
      if ← Host.printLine [] then
        Host.printLine (session.theme.notice.paint job.text.toList)
      else return false
  | some (.killed signal), _ =>
      Host.complain (session.theme.error.paint
        (descriptor.commandLine ++ s!": killed by {signal.name}".toList))
  | some (.done code), _ =>
      Host.note .debug
        ("jobsh: " ++ String.ofList descriptor.commandLine ++
          s!" finished: {(Status.done code).text}")
      return true
  | _, _ => return true

/-- Launch the program that the words ask for. -/
def runProgram (session : Session) (words : List Text) : ShellM LineResult := do
  match ← findProgram words with
  | .error e => return .failed e
  | .ok descriptor =>
      match ← Shell.execute session.terminal descriptor with
      | .refused e => return .failed e
      | .ended ending => return .ended ending
      | .launched pid =>
          if ← session.reportLaunch descriptor pid then return .flow .resume
          else return .ended .panicked

/-- Run one line. -/
def handleLine (session : Session) (number : Nat) (raw : Bytes) :
    ShellM LineResult := do
  Host.emit (.line number raw)
  match readWords session.settings raw with
  | .error e => return .failed e
  | .ok [] => return .flow .resume
  | .ok (first :: rest) =>
      let words := first :: rest
      Host.note .debug
        (s!"jobsh: line {number}: " ++ String.ofList (Escaped.texts words))
      match ← session.runBuiltin words with
      | some (.ok flow) => return .flow flow
      | some (.error e) => return .failed e
      | none => session.runProgram words

/-- Report a job that changed; the answer is whether that was written. -/
def reportJob (session : Session) (job : Job) : HostM Bool := do
  Host.note .debug s!"jobsh: background job changed: {job.text}"
  if session.terminal.isInteractive && job.isBackground then
    Host.printLine (session.theme.notice.paint job.text.toList)
  else return true

/-- Report jobs up to the first that cannot be reported. -/
def reportEach (session : Session) : List Job → HostM Bool
  | [] => return true
  | job :: rest => do
      if ← session.reportJob job then session.reportEach rest
      else return false

/-- Report the jobs that changed. -/
def reportJobs (session : Session) : ShellM Bool := do
  session.reportEach (← Shell.collect)

/-- Show the prompt of a line, on a terminal. -/
def prompt (session : Session) (number : Nat) : HostE Unit := do
  if session.terminal.isInteractive then
    match ← Host.nextPrompt with
    | none =>
        Host.emit (.prompt number
          (session.theme.prompt.paint s!"{number}: ".toList))
    | some errno =>
        Host.emit (.unprompted number errno)
        throw (.io (Utf8.ofString "<stdout>") (.refused errno))

/-- Report the error of a line; the answer is whether that was written. -/
def reportError (session : Session) (number : Nat) (e : ShellError) : HostM Bool := do
  Host.note .error s!"jobsh: line {number}: {e.message}"
  Host.complain
    (session.theme.errorSymbol ++ ' ' ::
      session.theme.error.paint
        s!"{session.settings.name}: {e.message}".toList)

/-- What happens before a line is read; it may end the session. -/
def beforeLine
    (session : Session)
    (number : Nat) :
    ShellM (Except SessionResult Unit) := do
  if ← session.reportJobs then
    match ← (session.prompt number).run with
    | .ok () => return .ok ()
    | .error e => return .error (.failed e)
  else return .error (.ended .panicked)

/-- What happens when there is no line to read: the input is over, or fails. -/
def endInput (session : Session) (trouble : Option Errno) : ShellM SessionResult := do
  match trouble with
  | some errno => return .failed (.io (Utf8.ofString "<stdin>") (.refused errno))
  | none =>
      Host.note .debug "jobsh: end of input"
      if session.terminal.isInteractive then
        if ← Host.printLine [] then return .exit 0
        else return .ended .panicked
      else return .exit 0

/--
Read and run lines until one leaves or there are no more, and then perhaps
trouble with the input.
-/
def runLines
    (session : Session)
    (trouble : Option Errno) :
    Nat → List Bytes → ShellM SessionResult
  | number, [] => do
      match ← session.beforeLine number with
      | .error result => return result
      | .ok () => session.endInput trouble
  | number, raw :: rest => do
      match ← session.beforeLine number with
      | .error result => return result
      | .ok () =>
          match ← session.handleLine number raw with
          | .ended ending => return .ended ending
          | .flow (.exit code) =>
              Host.note .debug s!"jobsh: exit {code}"
              return .exit code
          | .flow .resume => session.runLines trouble (number + 1) rest
          | .failed e =>
              if ← session.reportError number e then
                session.runLines trouble (number + 1) rest
              else return .ended .panicked

/-- Standard input. -/
inductive Input where
  /-- These bytes, and then the end. -/
  | ok (bytes : Bytes)
  /-- These bytes, and then reading fails. -/
  | error (errno : Errno) (bytes : Bytes := [])
  deriving DecidableEq, Repr

namespace Input

/--
The lines that can be read. One that is cut off is read at the end of the input,
but not when reading fails.
-/
def lines : Input → List Bytes
  | ok bytes => JobShell.lines bytes
  | error _ bytes =>
      (JobShell.lines bytes).filter (·.getLast? = some newline)

/-- The error that reading fails with. -/
def trouble? : Input → Option Errno
  | ok _ => none
  | error errno _ => some errno

end Input

/-- Run a session on its input. -/
def run (session : Session) (input : Input) : ShellM SessionResult := do
  Host.note .debug
    (s!"jobsh: ready, interactive={session.terminal.isInteractive} " ++
      s!"pgid={session.terminal.group}")
  session.runLines input.trouble? 0 input.lines

end Session
end JobShell

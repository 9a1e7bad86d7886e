import JobShell.Session

namespace JobShell

/-!
# The program

From the settings to the exit code: the log is opened, the terminal taken, the
reaper installed, a session run, and what was set up is undone in order,
however the session ended, a panic included. Only a forked child undoes nothing,
unless it panics.
-/

/-- How a start of the shell ends. -/
inductive ShellResult where
  /-- The session ended. -/
  | session (result : SessionResult)
  /-- The terminal could not be taken or the reaper not be installed. -/
  | setupFailed (error : ShellError)
  deriving DecidableEq, Repr

/-- Where log messages go. -/
structure Logger where
  level : Level
  toStderr : Bool
  /-- The log file. -/
  file : Location
  deriving DecidableEq, Repr

/-- How the process ends. -/
inductive ProgramResult where
  /-- It exits with a code from 0 to 255. -/
  | exit (code : Int)
  /-- It was a forked child, and has ended. -/
  | ended (ending : Ending)
  deriving DecidableEq, Repr

/-- A session that ends so leaves its setup to be undone by the process. -/
def SessionResult.undoes : SessionResult → Bool
  | .exit _ | .failed _ => true
  | .ended ending => ending = .panicked

/-- A shell that is set up: its session, and what to undo. -/
structure Setup where
  session : Session
  /-- What SIGCHLD did before the reaper was installed. -/
  previous : Handling

namespace Program

/-- Take the terminal and install the reaper, or neither. -/
def setUp (settings : Settings) : HostM (Except ShellError Setup) := do
  match ← Terminal.claim.run with
  | .error e => return .error e
  | .ok terminal =>
      match ← Host.installReaper.run with
      | .error e =>
          terminal.release
          return .error e
      | .ok previous =>
          let coloured := (← get).stdoutIsTerminal
          let theme := Theme.load settings.theme coloured
          return .ok ⟨{ settings := settings, theme := theme, terminal := terminal }, previous⟩

/-- Undo the setup. -/
def tearDown (setup : Setup) : HostM Unit := do
  setup.session.terminal.release
  Host.removeReaper setup.previous

/-- Run a session; the state after it is that of a new shell on the host. -/
def runSession (session : Session) (input : Session.Input) : HostM SessionResult :=
  fun host =>
    let (result, shell) := session.run input { host := host }
    (result, shell.host)

/-- Run a shell. -/
def runShell (settings : Settings) (input : Session.Input) : HostM ShellResult := do
  match ← setUp settings with
  | .error e => return .setupFailed e
  | .ok setup =>
      let result ← runSession setup.session input
      if result.undoes then tearDown setup
      return .session result

/-- The exit code of a program that could not start or read its input. -/
def setupFailure : Int := 2

/-- Report an error that ends the program; the answer is its exit code. -/
def reportFatal (name message : String) (e : ShellError) : HostM Int := do
  Host.note .error (message ++ e.message)
  if ← Host.complain s!"{name}: {e.message}".toList then return setupFailure
  else return Ending.panicCode

/-- End the program as its session ended. -/
def conclude
    (settings : Settings)
    (setup : Setup) :
    SessionResult → HostM ProgramResult
  | .exit code => do
      tearDown setup
      return .exit (code % 256)
  | .failed e => do
      let code ← reportFatal settings.name "jobsh: " e
      tearDown setup
      return .exit code
  | .ended ending =>
      if ending = .panicked then do
        tearDown setup
        return .exit Ending.panicCode
      else return .ended ending

/-- Run a shell as a program. -/
def runAsProgram
    (settings : Settings)
    (input : Session.Input) :
    HostM ProgramResult := do
  match ← setUp settings with
  | .error e => return .exit (← reportFatal settings.name "jobsh: setup failed: " e)
  | .ok setup => conclude settings setup (← runSession setup.session input)

/-- The name of the log file of a day. -/
def logFileName (settings : Settings) (date : String) : Bytes :=
  Utf8.ofString s!"{settings.name}_{date}.log"

/--
Make the log directory and open the log file in it. Directories that were made
before a failure stay.
-/
def openLog
    (settings : Settings)
    (date : String)
    (space : Workspace) :
    Except FileError Location × Workspace :=
  match space.makeDirectories settings.logDirectory with
  | (.error e, made) => (.error e, made)
  | (.ok (), made) =>
      let path := Path.join settings.logDirectory (logFileName settings date)
      match made.openAppend path with
      | .error e => (.error e, made)
      | .ok (file, opened) => (.ok file, opened)

/--
Start the log. Without it the program goes on, if it can say so; the second
answer is whether the program goes on.
-/
def startLog (settings : Settings) (date : String) : HostM (Option Logger × Bool) := do
  let host ← get
  let (opened, space) := openLog settings date host.space
  set { host with space := space }
  match opened with
  | .error e =>
      let goesOn ← Host.complain
        s!"{settings.name}: logging disabled ({Utf8.shown settings.logDirectory}): {e.text}".toList
      return (none, goesOn)
  | .ok file =>
      let level := Level.parse settings.level
      Host.note .debug s!"jobsh: log level {level.name}"
      return (some ⟨level, settings.logToStderr, file⟩, true)

/-- Run the program on a day. -/
def run (date : String) (input : Session.Input) :
    HostM (Option Logger × ProgramResult) := do
  let host ← get
  let (settings, space) := Settings.load host.space
  set { host with space := space }
  let (logger, goesOn) ← startLog settings date
  if goesOn then
    Host.note .debug
      ("jobsh: config loaded, logs in " ++ Utf8.shown settings.logDirectory)
    let result ← runAsProgram settings input
    return (logger, result)
  else return (logger, .exit Ending.panicCode)

/-- What a program with this logger wrote to standard error. -/
def stderr (logger : Option Logger) (history : History) : Text :=
  history.stderr
    (logger.bind fun l => if l.toStderr then some l.level else none)

/-- The files once the log is written. -/
def writeLog (logger : Option Logger) (host : Host) : Workspace :=
  match logger with
  | none => host.space
  | some l =>
      match host.space.tree.get? l.file with
      | some (.file mode data) =>
          let text := Utf8.encode (host.history.log l.level)
          { host.space with
            tree := host.space.tree.put l.file (.file mode (data ++ text)) }
      | _ => host.space

end Program
end JobShell

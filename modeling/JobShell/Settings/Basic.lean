import JobShell.Files.Home
import JobShell.Settings.Level
import JobShell.Settings.Variables

namespace JobShell

/-!
# Settings

What the environment decides: the theme, the log and its place. A variable
whose value is not a text counts as unset.
-/

/-- The settings of a shell. -/
structure Settings where
  /-- The name the shell goes by in its messages. -/
  name : String := "jobsh"
  theme : String := "default"
  level : String := "info"
  /-- The directory of the log. -/
  logDirectory : Bytes
  /-- Log messages go to standard error too. -/
  logToStderr : Bool := false
  /-- The longest line, in bytes. -/
  maxLine : Nat := 4096
  deriving DecidableEq, Repr

namespace Settings

/-- The directory of the log when none is named. -/
def defaultLogDirectory (space : Workspace) : Bytes :=
  let base :=
    match space.textVariable? "HOME" with
    | some home => Path.join (Utf8.encode home) (Utf8.ofString ".config/jobsh")
    | none => Utf8.ofString "tmp"
  Path.join base (Utf8.ofString "logs")

/-- A value that means yes. No letter outside ASCII is a capital of these. -/
def isYes (value : String) : Bool :=
  ["1".toList, "true".toList, "yes".toList].contains
    (value.toList.map Char.toLower)

/-- The settings that an environment asks for. -/
def ofEnvironment (space : Workspace) : Settings :=
  let text (name : String) := (space.textVariable? name).map String.ofList
  { theme := (text "JOBSH_THEME").getD "default"
    level := (text "JOBSH_LOG_LEVEL").getD "info"
    logDirectory :=
      match space.textVariable? "JOBSH_LOG_DIR" with
      | some directory => Utf8.encode (space.expandTilde directory)
      | none => defaultLogDirectory space
    logToStderr := ((text "JOBSH_LOG_STDERR").map isYes).getD false }

/--
The settings at the start of a shell, and the files it sees: variables from a
file complete the environment first.
-/
def load (space : Workspace) : Settings × Workspace :=
  let completed := Variables.loadNearest space
  (ofEnvironment completed, completed)

end Settings
end JobShell

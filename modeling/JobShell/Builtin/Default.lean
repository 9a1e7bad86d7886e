import JobShell.Builtin.Table
import JobShell.Text.Integer

namespace JobShell

/-!
# The default built-ins

`help` and `?` list the table, `exit` leaves with a code, `pwd` shows the
working directory and `cd` changes it, to the home directory if none is named.
-/

namespace Builtin

/-- One line of the help listing. -/
def helpLine (entry : Text × Text) : Text :=
  entry.1 ++ " - ".toList ++ entry.2 ++ ['\n']

/-- List the table. -/
def help : Handler := fun listing _ => do
  match ← writeTexts (listing.map helpLine) with
  | .ok () => return .ok .resume
  | .error e => return .error (.builtin "help" e.text)

/-- Leave, with the code that the first argument gives. -/
def leave : Handler := fun _ words =>
  match words[1]? with
  | none => pure (.ok (.exit 0))
  | some code =>
      match Integer.parse32? code with
      | some value => pure (.ok (.exit value))
      | none =>
          pure (.error (.builtin "exit"
            (String.ofList code ++ ": numeric argument required")))

/-- Show the working directory. -/
def showDirectory : Handler := fun _ _ => do
  match (← get).space.directoryPath with
  | .error e => return .error (.builtin "pwd" e.text)
  | .ok path =>
      match ← writeText (Utf8.decodeLossy path ++ ['\n']) with
      | .ok () => return .ok .resume
      | .error e => return .error (.builtin "pwd" e.text)

/-- Change the working directory. -/
def changeDirectory : Handler := fun _ words => do
  let typed := words[1]?.getD ['~']
  let space := (← get).space
  match space.changeDirectory (Utf8.encode (space.expandTilde typed)) with
  | .error e =>
      return .error (.builtin "cd" (String.ofList typed ++ ": " ++ e.text))
  | .ok moved =>
      modify fun console => { console with space := moved }
      return .ok .resume

end Builtin

/-- The built-ins of a new shell. -/
def BuiltinTable.default : BuiltinTable :=
  [("help", "show this help menu", Builtin.help),
    ("?", "show this help menu", Builtin.help),
    ("exit", "exit the command shell", Builtin.leave),
    ("pwd", "show the current working directory", Builtin.showDirectory),
    ("cd", "change the current working directory", Builtin.changeDirectory)
  ].foldl
    (fun table (name, description, handler) =>
      table.register ⟨name.toList, description.toList, handler⟩)
    {}

end JobShell

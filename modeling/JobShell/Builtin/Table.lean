import JobShell.Error
import JobShell.Files.Home

namespace JobShell

/-!
# Built-in commands

A table of commands that the shell runs itself. A name registered again takes
the place of the entry before it, and moves to the end of the table. The first
word of a line selects the entry; the entry sees all words as they were typed.

A built-in works on a console: the files it sees and the sink it writes to.
-/

/-- What a built-in writes to, with the bytes it still takes, if limited. -/
structure Sink where
  written : Bytes := []
  room : Option Nat := none
  deriving DecidableEq, Repr

/-- Write bytes. A sink without room for all of them takes those that fit. -/
def Sink.write (sink : Sink) (bytes : Bytes) : Except FileError Unit × Sink :=
  match sink.room with
  | none => (.ok (), { sink with written := sink.written ++ bytes })
  | some room =>
      (if bytes.length ≤ room then .ok () else .error (.refused .enospc),
        { written := sink.written ++ bytes.take room
          room := some (room - bytes.length) })

/-- The files a built-in sees and the sink it writes to. -/
structure Console where
  space : Workspace
  sink : Sink := {}
  deriving DecidableEq, Repr

/-- A computation on a console. -/
abbrev ConsoleM := StateM Console

/-- Write a text to the sink. -/
def writeText (text : Text) : ConsoleM (Except FileError Unit) :=
  fun console =>
    let (answer, sink) := console.sink.write (Utf8.encode text)
    (answer, { console with sink := sink })

/-- Write texts one by one, up to the first that fails. -/
def writeTexts : List Text → ConsoleM (Except FileError Unit)
  | [] => pure (.ok ())
  | text :: rest => do
      match ← writeText text with
      | .error e => return .error e
      | .ok () => writeTexts rest

/-- How the shell goes on after a built-in. -/
inductive Flow where
  /-- With the next line. -/
  | resume
  /-- Not at all: it leaves with a code. -/
  | exit (code : Int)
  deriving DecidableEq, Repr

/--
What a built-in does, given the names and descriptions of the whole table and
the words of the line.
-/
abbrev Handler :=
  List (Text × Text) → List Text → ConsoleM (Except ShellError Flow)

/-- A built-in command. -/
structure Builtin where
  name : Text
  description : Text
  handler : Handler

/-- The built-in commands in the order they are listed. -/
structure BuiltinTable where
  entries : List Builtin := []

namespace BuiltinTable

/-- Add an entry in place of one with the same name. -/
def register (table : BuiltinTable) (builtin : Builtin) : BuiltinTable :=
  { entries :=
      table.entries.filter (·.name ≠ builtin.name) ++ [builtin] }

/-- The entry with a name. -/
def lookup? (table : BuiltinTable) (name : Text) : Option Builtin :=
  table.entries.find? (·.name = name)

/-- The names and descriptions in order. -/
def listing (table : BuiltinTable) : List (Text × Text) :=
  table.entries.map fun builtin => (builtin.name, builtin.description)

/-- The entry that a line's words select. -/
def select? (table : BuiltinTable) (words : List Text) : Option Builtin :=
  words.head?.bind table.lookup?

/-- Run the built-in that the words select, if there is one. -/
def dispatch
    (table : BuiltinTable)
    (words : List Text) :
    ConsoleM (Option (Except ShellError Flow)) :=
  match table.select? words with
  | none => pure none
  | some builtin => do
      let result ← builtin.handler table.listing words
      return some result

end BuiltinTable
end JobShell

import JobShell.Files.Workspace
import JobShell.Text.Blank

namespace JobShell

/-!
# Variables from a file

A file of lines `KEY=value`, looked for in the working directory and the
directories above it, sets variables that do not hold a text already. A line
may start with `export`, a value may be quoted in parts, an unquoted blank ends
it, and only a comment may follow. Blank lines and comments are skipped. The
first line that does not parse ends the reading.
-/

namespace Variables

/-- A character that may start a key. -/
def startsKey (c : Char) : Bool :=
  c.isAlpha || c == '_'

/-- A character that may stand in a key. -/
def inKey (c : Char) : Bool :=
  c.isAlphanum || c == '_' || c == '.'

/-- The key at the start of a text and the text after it. -/
def key? (text : Text) : Option (Text × Text) :=
  match text with
  | c :: _ =>
      if startsKey c then some (text.takeWhile inKey, text.dropWhile inKey)
      else none
  | [] => none

/-- The text after an equals sign. -/
def equals? : Text → Option Text
  | '=' :: rest => some rest
  | _ => none

/-- Only blanks and a comment follow a value. -/
def endsValue (rest : Text) : Bool :=
  match rest.dropWhile fun c => c == ' ' || c == '\t' with
  | [] => true
  | c :: _ => c == '#'

/-- The quotes around the part of a value that is being read. -/
inductive Quotes where
  | none
  | single
  | double
  deriving DecidableEq, Repr

/-- The value at the start of a text, with its quotes dropped. -/
def value? : Quotes → Text → Option Text
  | .none, [] => some []
  | _, [] => none
  | .none, c :: rest =>
      if c = '\x27' then value? .single rest
      else if c = '\x22' then value? .double rest
      else if c = ' ' ∨ c = '\t' then
        if endsValue rest then some [] else none
      else (value? .none rest).map (c :: ·)
  | .single, c :: rest =>
      if c = '\x27' then value? .none rest
      else (value? .single rest).map (c :: ·)
  | .double, c :: rest =>
      if c = '\x22' then value? .none rest
      else (value? .double rest).map (c :: ·)

/-- The key, and the text after the equals sign. -/
def assignment? (line : Text) : Option (Text × Text) := do
  let (key, rest) ← key? line
  let afterKey := trimStart rest
  if key = "export".toList then
    match equals? afterKey with
    | some value => return (key, value)
    | none =>
        let (exported, after) ← key? afterKey
        let value ← equals? (trimStart after)
        return (exported, value)
  else
    let value ← equals? afterKey
    return (key, value)

/-- What a line says. -/
inductive Line where
  /-- Nothing: it is blank or a comment. -/
  | skip
  /-- A variable has a value. -/
  | assign (key value : Text)
  /-- It does not parse. -/
  | malformed
  deriving DecidableEq, Repr

/-- A text that is blank or a comment. -/
def isIdle (text : Text) : Bool :=
  text.head?.all (· == '#')

/-- Read a line. -/
def Line.parse (line : Text) : Line :=
  let text := trimStart (trimEnd line)
  if isIdle text then .skip
  else
    match assignment? text with
    | none => .malformed
    | some (key, rest) =>
        let rest := trimStart rest
        if isIdle rest then .assign key []
        else
          match value? .none rest with
          | some value => .assign key value
          | none => .malformed

/-- A line of a file without the newline that ends it. -/
def withoutNewline (line : Bytes) : Bytes :=
  if line.getLast? = some newline then line.dropLast else line

/-- Set the variables of some lines, up to the first that does not parse. -/
def load (space : Workspace) : List Bytes → Workspace
  | [] => space
  | line :: rest =>
      match (Utf8.decode? (withoutNewline line)).map Line.parse with
      | some .skip => load space rest
      | some (.assign key value) =>
          let name := String.ofList key
          load
            (if (space.textVariable? name).isSome then space
              else space.setVariable name (Utf8.encode value))
            rest
      | some .malformed | none => space

/-- The name of the file. -/
def fileName : Bytes := Utf8.ofString ".env.development"

/--
The nearest directory, from a list of them, in which the file is. A directory
in which it cannot be looked for ends the search.
-/
def nearest? (space : Workspace) : List Location → Option Bytes
  | [] => none
  | place :: rest =>
      let path := Path.join place.path fileName
      match space.stat path with
      | .ok (_, .file ..) => some path
      | .ok _ | .error (.refused .enoent) => nearest? space rest
      | .error _ => none

/-- Set the variables of the nearest file. -/
def loadNearest (space : Workspace) : Workspace :=
  match space.directoryPath with
  | .error _ => space
  | .ok _ =>
      let above := (List.range (space.directory.length + 1)).reverse
      let places := above.map space.directory.take
      match (nearest? space places).bind space.content? with
      | none => space
      | some data => load space (lines data)

end Variables
end JobShell

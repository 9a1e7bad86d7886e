import JobShell.Text.Fields

namespace JobShell

/-!
# Paths

A path is a byte string. The system reads it as a list of names between
slashes, starting at the root if it begins with a slash, and asks for a
directory if it ends with one. Nothing else about its spelling is normalised.
-/

namespace Path

/-- The byte between names. -/
def slash : UInt8 := 0x2F

/-- The path starts at the root. -/
def isAbsolute (path : Bytes) : Bool :=
  path.head? == some slash

/-- The path ends with a slash. -/
def endsWithSlash (path : Bytes) : Bool :=
  path.getLast? == some slash

/-- The names of a path, without the empty ones. -/
def names (path : Bytes) : List Bytes :=
  (fields slash path).filter (· ≠ [])

/--
A path below a directory: an absolute path stands for itself, otherwise one
slash separates the two.
-/
def join (directory path : Bytes) : Bytes :=
  if isAbsolute path then path
  else if directory = [] ∨ endsWithSlash directory then directory ++ path
  else directory ++ slash :: path

/-- Names as a path relative to the directory they start in. -/
def ofNames : List Bytes → Bytes
  | [] => []
  | [name] => name
  | name :: rest => name ++ slash :: ofNames rest

/-- The name of the directory itself. -/
def here : Bytes := [0x2E]

/-- The name of the directory above. -/
def above : Bytes := [0x2E, 0x2E]

/-- The longest name, in bytes. -/
def maxName : Nat := 255

/-- The longest path, in bytes. -/
def maxLength : Nat := 4095

/--
The directories to make before the one a path names, nearest first: the path
cut back by one name at a time. A name that stands for the directory itself
counts only at the start of a relative path.
-/
def parents (path : Bytes) : List Bytes :=
  let kept : List Bytes :=
    match names path with
    | [] => []
    | first :: rest =>
        if first = here ∧ isAbsolute path then rest.filter (· ≠ here)
        else first :: rest.filter (· ≠ here)
  let render (shorter : List Bytes) : Bytes :=
    if isAbsolute path then slash :: ofNames shorter else ofNames shorter
  (List.range kept.length).reverse.map fun n => render (kept.take n)

end Path
end JobShell

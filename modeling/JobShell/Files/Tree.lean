import JobShell.Files.Path

namespace JobShell

/-!
# File trees

A tree is a finite map from locations to entries. A location is the list of
names from the root, which is always a directory. A location that is not in the
tree may still be a process's working directory: the directory was removed.
-/

/-- The names from the root down. -/
abbrev Location := List Bytes

/-- What stands at a location. -/
inductive Entry where
  /-- A regular file with its permission bits and its content. -/
  | file (mode : Nat) (data : Bytes)
  /-- A directory. -/
  | directory
  /-- A symbolic link and the path it holds. -/
  | link (target : Bytes)
  deriving DecidableEq, Repr

/-- The entries below the root. -/
structure FileTree where
  entries : List (Location × Entry) := []
  deriving DecidableEq, Repr

namespace FileTree

/-- The entry at a location. -/
def get? (tree : FileTree) (location : Location) : Option Entry :=
  if location = [] then some .directory else tree.entries.lookup location

/-- Put an entry at a location in place of what was there. -/
def put (tree : FileTree) (location : Location) (entry : Entry) : FileTree :=
  { entries := tree.entries.filter (·.1 ≠ location) ++ [(location, entry)] }

/-- Take away what stands at a location. -/
def erase (tree : FileTree) (location : Location) : FileTree :=
  { entries := tree.entries.filter (·.1 ≠ location) }

/-- The location is a directory of the tree. -/
def isDirectory (tree : FileTree) (location : Location) : Bool :=
  tree.get? location == some .directory

/-- The entries directly in a directory, by name. -/
def children (tree : FileTree) (location : Location) : List (Bytes × Entry) :=
  tree.entries.filterMap fun (place, entry) =>
    match place.getLast? with
    | none => none
    | some name =>
        if place.dropLast = location then some (name, entry) else none

/-- The entries below a location, by path from it, in the order of the paths. -/
def listing (tree : FileTree) (location : Location) : List (Bytes × Entry) :=
  let below := tree.entries.filterMap fun (place, entry) =>
    if location <+: place ∧ place ≠ location then
      some (Path.ofNames (place.drop location.length), entry)
    else none
  below.mergeSort fun a b => decide (a.1 ≤ b.1)

end FileTree

/-- The path of a location. -/
def Location.path (location : Location) : Bytes :=
  Path.slash :: Path.ofNames location

end JobShell

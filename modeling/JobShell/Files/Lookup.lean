import JobShell.Files.Tree
import JobShell.System.Errno

namespace JobShell

/-!
# Finding a path in a tree

A path is walked name by name from the root or from the working directory.
Symbolic links are followed, forty of them at most; a name on the way must be a
directory; a slash at the end asks for one. The walk ends at an entry, or at a
vacant name in a directory.
-/

/-- What the walk does about the last name. -/
inductive LastName where
  /-- Follow it if it is a link. -/
  | follow
  /-- Stop at it even if it is a link. -/
  | keep
  /-- Follow it, to a file that may have to be created. -/
  | create
  deriving DecidableEq, Repr

/-- Where a walk ends. -/
inductive Spot where
  /-- At an entry of the tree, or at a removed working directory. -/
  | found (location : Location)
  /-- At a name that is not taken. -/
  | vacant (directory : Location) (name : Bytes)
  deriving DecidableEq, Repr

namespace FileTree

/-- How to go on when a link is met: its place, what it holds, what follows. -/
abbrev Jump := Location → Bytes → List Bytes → Bool → Except Errno Spot

/--
Walk names from a directory. `slash` tells whether a directory is asked for at
the end, and `jump` goes on from a link.
-/
def walkNames
    (tree : FileTree)
    (last : LastName)
    (jump : Jump) :
    Location → List Bytes → Bool → Except Errno Spot
  | place, [], _ => .ok (.found place)
  | place, name :: rest, slash =>
      if name = Path.here then walkNames tree last jump place rest slash
      else if name = Path.above then
        walkNames tree last jump place.dropLast rest slash
      else if last = .create ∧ rest = [] ∧ slash then .error .eisdir
      else if ¬ tree.isDirectory place then .error .enoent
      else if Path.maxName < name.length then .error .enametoolong
      else
        match tree.get? (place ++ [name]) with
        | none =>
            if rest = [] then .ok (.vacant place name) else .error .enoent
        | some .directory =>
            walkNames tree last jump (place ++ [name]) rest slash
        | some (.file ..) =>
            if rest = [] ∧ (¬ slash ∨ last = .keep) then
              .ok (.found (place ++ [name]))
            else .error .enotdir
        | some (.link target) =>
            if rest = [] ∧ last = .keep then .ok (.found (place ++ [name]))
            else jump place target rest slash

/-- Walk names and follow up to a number of links. -/
def walk
    (tree : FileTree)
    (last : LastName) :
    Nat → Location → List Bytes → Bool → Except Errno Spot
  | 0 => walkNames tree last fun _ _ _ _ => .error .eloop
  | links + 1 =>
      walkNames tree last fun place target rest slash =>
        walk tree last links
          (if Path.isAbsolute target then [] else place)
          (Path.names target ++ rest)
          (slash || (rest = [] && Path.endsWithSlash target))

/-- The most links one walk follows. -/
def maxLinks : Nat := 40

/-- Find a path, relative to a working directory. -/
def resolve
    (tree : FileTree)
    (directory : Location)
    (last : LastName)
    (path : Bytes) :
    Except FileError Spot :=
  if 0 ∈ path then .error .nulInName
  else if path = [] then .error (.refused .enoent)
  else if Path.maxLength < path.length then .error (.refused .enametoolong)
  else
    (tree.walk last maxLinks
      (if Path.isAbsolute path then [] else directory)
      (Path.names path)
      (Path.endsWithSlash path)).mapError .refused

end FileTree
end JobShell

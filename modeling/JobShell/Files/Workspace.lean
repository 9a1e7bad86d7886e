import JobShell.Files.Lookup

namespace JobShell

/-!
# The files a process sees

A workspace is a file tree, the working directory in it and the environment.
The file operations of the shell are functions on it: what is at a path, change
directory, open for reading or writing, make and remove directories. Nobody is
refused for lack of permission.
-/

/-- Variables and their values, each name once. -/
abbrev Environment := List (String × Bytes)

/-- A file tree, a place in it and the environment. -/
structure Workspace where
  tree : FileTree := {}
  directory : Location := []
  environment : Environment := []
  deriving DecidableEq, Repr

namespace Workspace

/-- The value of a variable. -/
def lookupVariable? (space : Workspace) (name : String) : Option Bytes :=
  space.environment.lookup name

/-- The value of a variable, if it is a text. -/
def textVariable? (space : Workspace) (name : String) : Option Text :=
  (space.lookupVariable? name).bind Utf8.decode?

/-- Set a variable. -/
def setVariable (space : Workspace) (name : String) (value : Bytes) : Workspace :=
  { space with
    environment :=
      space.environment.filter (·.1 ≠ name) ++ [(name, value)] }

/-- Find a path from the working directory. -/
def resolve
    (space : Workspace)
    (last : LastName)
    (path : Bytes) :
    Except FileError Spot :=
  space.tree.resolve space.directory last path

/--
What a path names, links followed. A working directory that was removed is
still a directory.
-/
def stat (space : Workspace) (path : Bytes) : Except FileError (Location × Entry) :=
  match space.resolve .follow path with
  | .error e => .error e
  | .ok (.vacant ..) => .error (.refused .enoent)
  | .ok (.found place) => .ok (place, (space.tree.get? place).getD .directory)

/-- A path with a NUL byte names nothing. -/
theorem noNul_of_stat
    {space : Workspace}
    {path : Bytes}
    {found : Location × Entry}
    (stats : space.stat path = .ok found) :
    0 ∉ path := by
  intro nul
  unfold stat resolve FileTree.resolve at stats
  rw [if_pos nul] at stats
  contradiction

/-- The path names a regular file. -/
def isFile (space : Workspace) (path : Bytes) : Bool :=
  match space.stat path with
  | .ok (_, .file ..) => true
  | _ => false

/-- The path names a directory. -/
def isDirectory (space : Workspace) (path : Bytes) : Bool :=
  match space.stat path with
  | .ok (_, .directory) => true
  | _ => false

/-- The path names a regular file that somebody may execute. -/
def isExecutable (space : Workspace) (path : Bytes) : Bool :=
  match space.stat path with
  | .ok (_, .file mode _) => mode &&& 0o111 ≠ 0
  | _ => false

theorem noNul_of_isFile
    {space : Workspace}
    {path : Bytes}
    (isFile : space.isFile path = true) :
    0 ∉ path := by
  unfold Workspace.isFile at isFile
  split at isFile
  · rename_i stats
    exact noNul_of_stat stats
  · contradiction

theorem noNul_of_isExecutable
    {space : Workspace}
    {path : Bytes}
    (isExecutable : space.isExecutable path = true) :
    0 ∉ path := by
  unfold Workspace.isExecutable at isExecutable
  split at isExecutable
  · rename_i stats
    exact noNul_of_stat stats
  · contradiction

/-- The content of the regular file at a path. -/
def content? (space : Workspace) (path : Bytes) : Option Bytes :=
  match space.stat path with
  | .ok (_, .file _ data) => some data
  | _ => none

/--
The contents of the entries of a directory, the last made first. What is no
file has no content.
-/
def contents (space : Workspace) (path : Bytes) : List Bytes :=
  match space.stat path with
  | .ok (place, .directory) =>
      (space.tree.children place).reverse.map fun (name, _) =>
        (space.content? (Path.join path name)).getD []
  | _ => []

/-- The path of the working directory; there is none once it is removed. -/
def directoryPath (space : Workspace) : Except FileError Bytes :=
  if space.tree.isDirectory space.directory then .ok space.directory.path
  else .error (.refused .enoent)

/-- Change the working directory. -/
def changeDirectory
    (space : Workspace)
    (path : Bytes) :
    Except FileError Workspace :=
  match space.stat path with
  | .error e => .error e
  | .ok (place, .directory) => .ok { space with directory := place }
  | .ok _ => .error (.refused .enotdir)

/-- Open a file for reading; a directory can be opened too. -/
def openRead (space : Workspace) (path : Bytes) : Except FileError Unit :=
  (space.stat path).map fun _ => ()

/-- The permission bits of a file made by opening it for writing. -/
def createMode : Nat := 0o644

/-- Open a file for writing: it is created or emptied. -/
def openWrite (space : Workspace) (path : Bytes) : Except FileError Workspace :=
  match space.resolve .create path with
  | .error e => .error e
  | .ok (.vacant place name) =>
      .ok { space with
        tree := space.tree.put (place ++ [name]) (.file createMode []) }
  | .ok (.found place) =>
      match space.tree.get? place with
      | some (.file mode _) =>
          .ok { space with tree := space.tree.put place (.file mode []) }
      | _ => .error (.refused .eisdir)

/--
Open a file to add to it: it is created if need be. The answer names the file.
-/
def openAppend
    (space : Workspace)
    (path : Bytes) :
    Except FileError (Location × Workspace) :=
  match space.resolve .create path with
  | .error e => .error e
  | .ok (.vacant place name) =>
      .ok (place ++ [name],
        { space with
          tree := space.tree.put (place ++ [name]) (.file createMode []) })
  | .ok (.found place) =>
      match space.tree.get? place with
      | some (.file ..) => .ok (place, space)
      | _ => .error (.refused .eisdir)

/-- Make a directory. -/
def makeDirectory
    (space : Workspace)
    (path : Bytes) :
    Except FileError Workspace :=
  match space.resolve .keep path with
  | .error e => .error e
  | .ok (.vacant place name) =>
      .ok { space with tree := space.tree.put (place ++ [name]) .directory }
  | .ok (.found _) => .error (.refused .eexist)

/--
Make the first directory of a list, and before it, if its parent is missing,
the ones after it. A directory that is there already is no failure, and what
was made before a failure stays.
-/
def makeChain
    (space : Workspace) :
    List Bytes → Except FileError Unit × Workspace
  | [] => (.ok (), space)
  | path :: parents =>
      if path = [] then (.ok (), space)
      else
        match space.makeDirectory path with
        | .ok made => (.ok (), made)
        | .error (.refused .enoent) =>
            match space.makeChain parents with
            | (.error e, below) => (.error e, below)
            | (.ok (), below) =>
                match below.makeDirectory path with
                | .ok made => (.ok (), made)
                | .error e =>
                    (if below.isDirectory path then .ok () else .error e, below)
        | .error e => (if space.isDirectory path then .ok () else .error e, space)

/-- Make a directory and the ones above it as needed. -/
def makeDirectories
    (space : Workspace)
    (path : Bytes) :
    Except FileError Unit × Workspace :=
  space.makeChain (path :: Path.parents path)

/-- Remove an empty directory. -/
def removeDirectory
    (space : Workspace)
    (path : Bytes) :
    Except FileError Workspace :=
  match space.resolve .keep path with
  | .error e => .error e
  | .ok (.vacant ..) => .error (.refused .enoent)
  | .ok (.found place) =>
      if space.tree.get? place = some .directory then
        if space.tree.children place = [] then
          .ok { space with tree := space.tree.erase place }
        else .error (.refused .enotempty)
      else .error (.refused .enotdir)

/-- Put a file, its parents made as needed. -/
def installFile
    (space : Workspace)
    (path : Bytes)
    (mode : Nat)
    (data : Bytes) :
    Except FileError Workspace := do
  let parent := (Path.parents path).headD []
  let (answer, ready) := space.makeDirectories parent
  answer
  let (place, opened) ← ready.openAppend path
  return { opened with tree := opened.tree.put place (.file mode data) }

/-- Put a symbolic link, its parents made as needed. -/
def installLink
    (space : Workspace)
    (path target : Bytes) :
    Except FileError Workspace := do
  let parent := (Path.parents path).headD []
  let (answer, ready) := space.makeDirectories parent
  answer
  match ← ready.resolve .keep path with
  | .vacant place name =>
      return { ready with tree := ready.tree.put (place ++ [name]) (.link target) }
  | .found _ => throw (.refused .eexist)

end Workspace
end JobShell

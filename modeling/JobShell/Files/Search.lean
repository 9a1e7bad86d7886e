import JobShell.Files.Workspace

namespace JobShell

/-!
# Searching for a program

A search path is a list of directories between colons. The program is the first
of `directory/command` that is an executable file; empty entries are skipped,
and without a search path nothing is found.
-/

namespace Search

/-- The byte between the entries of a search path. -/
def colon : UInt8 := 0x3A

/-- The entries of a search path that count. -/
def directories (searchPath : Bytes) : List Bytes :=
  (fields colon searchPath).filter (· ≠ [])

/-- The paths to try for a command, in order. -/
def candidates (searchPath command : Bytes) : List Bytes :=
  (directories searchPath).map (Path.join · command)

/-- The first candidate that is an executable file. -/
def find?
    (space : Workspace)
    (command : Bytes)
    (searchPath : Option Bytes) :
    Option Bytes :=
  searchPath.bind fun path => (candidates path command).find? space.isExecutable

/-- The candidates looked at: all of them up to the first that is a program. -/
def probed
    (space : Workspace)
    (command : Bytes)
    (searchPath : Option Bytes) :
    List Bytes :=
  match searchPath with
  | none => []
  | some path =>
      let all := candidates path command
      all.take ((all.takeWhile (! space.isExecutable ·)).length + 1)

end Search
end JobShell

import JobShell.Files.Workspace

namespace JobShell

/-!
# The home directory

A tilde that stands alone or before a slash at the start of a path is short for
the home directory: the value of `HOME`, or the account's own directory when
the variable is unset or empty. A home directory that is not a text expands
nothing.
-/

namespace Workspace

/-- The home directory of the account, which is the superuser's. -/
def accountHome : Text := "/root".toList

/-- The home directory, if it is a text. -/
def home? (space : Workspace) : Option Text :=
  match space.lookupVariable? "HOME" with
  | none | some [] => some accountHome
  | some value => Utf8.decode? value

/-- A path with a leading tilde replaced by the home directory. -/
def expandTilde (space : Workspace) (path : Text) : Text :=
  match path with
  | '~' :: rest =>
      if rest = [] ∨ rest.head? = some '/' then
        match space.home? with
        | some home => home ++ rest
        | none => path
      else path
  | _ => path

end Workspace
end JobShell

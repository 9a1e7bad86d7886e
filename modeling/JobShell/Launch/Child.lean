import JobShell.Host.Basic

namespace JobShell

/-!
# The forked child

A child moves into a group of its own, drops the handlings and the mask it
inherited, opens the file of its redirection and becomes the program. At the
first of these steps that fails it says so and exits. Either way the image of
the shell is gone, unless the child panics: then it unwinds into what the parent
has under way, and undoes that before it exits.
-/

/-- How the image of the shell ends. -/
inductive Ending where
  /-- It is replaced by a program with its arguments. -/
  | replaced (program : Bytes) (arguments : List Bytes)
  /-- It exits. -/
  | exited (code : Int)
  deriving DecidableEq, Repr

namespace Ending

/-- The exit code of a process that panics. -/
def panicCode : Int := 101

/-- The process panics: it unwinds, undoing what is under way, and exits. -/
def panicked : Ending := .exited panicCode

end Ending

namespace Child

/-- The exit code of a child that could not become its program. -/
def setupFailure : Int := 127

/-- The descriptor that a redirection replaces. -/
def target : Direction → Nat
  | .input => 0
  | .output => 1

/--
What opening the file of a redirection makes of the files. It fails by the files
themselves, or because the system refuses it.
-/
def opening
    (redirection : Redirection)
    (fault : Option Errno)
    (space : Workspace) :
    Except FileError Workspace :=
  match fault, redirection.direction with
  | some errno, _ => .error (.refused errno)
  | none, .input =>
      (space.openRead (Utf8.encode redirection.filename)).map fun _ => space
  | none, .output => space.openWrite (Utf8.encode redirection.filename)

/-- Open the file of a redirection. -/
def openFile (redirection : Redirection) : HostE Unit := do
  let fault ← Host.nextFault .openFile
  let host ← getThe Host
  match opening redirection fault host.space with
  | .error e =>
      Host.emit (.opened redirection (some e))
      throw (.io (Utf8.encode redirection.filename) e)
  | .ok space =>
      modifyThe Host fun host => { host with space := space }
      Host.emit (.opened redirection none)

/-- Put the file of a redirection in the place of a descriptor. -/
def redirect (redirection : Redirection) : HostE Unit := do
  openFile redirection
  Host.demand "dup2" .dup2 (.duplicate (target redirection.direction))

/-- The steps up to the program. -/
def setUp
    (redirection : Option Redirection)
    (program : Bytes)
    (arguments : List Bytes) :
    HostE Unit := do
  Host.demand "setpgid" .setpgid (.setGroup 0 0)
  Host.resetForChild
  redirection.forM redirect
  Host.demand "exec" .execv (.execute program arguments)

/--
Run the child of a descriptor. It panics if it has no name to complain in, or
cannot complain.
-/
def run
    (descriptor : Descriptor)
    (program : Bytes)
    (arguments : List Bytes) :
    HostM Ending := do
  match ← (setUp descriptor.redirection program arguments).run with
  | .ok () => return .replaced program arguments
  | .error e =>
      match descriptor.arguments with
      | [] => return .panicked
      | name :: _ =>
          if ← Host.complain
              ("jobsh: ".toList ++ name ++ ": ".toList ++ e.message.toList) then
            return .exited setupFailure
          else return .panicked

end Child
end JobShell

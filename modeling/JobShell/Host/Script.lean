import JobShell.System.Report

namespace JobShell

/-!
# Scripts

A script answers the calls whose outcome the shell does not decide: what `fork`
returns, what becomes of children and when, who owns the terminal, which calls
fail, and which lines for the user cannot be written. A call beyond the end of
its part of the script succeeds in the plainest way.

What a built-in writes is taken in full. A failure there would be the error of
its line, as any other error of a built-in.
-/

/-- What `fork` returns. -/
inductive ForkAnswer where
  /-- The caller is the parent of this child. -/
  | parent (child : Pid)
  /-- The caller is the child. -/
  | child
  /-- There is no new process. -/
  | failed (errno : Errno)
  deriving DecidableEq, Repr

/-- The calls that a script can make fail. -/
inductive Syscall where
  | setpgid
  | signal
  | sigaction
  | sigprocmask
  | dup2
  | execv
  | killpg
  | tcgetpgrp
  | tcsetpgrp
  | tcgetattr
  | tcsetattr
  /-- Open the file of a redirection. -/
  | openFile
  deriving DecidableEq, Repr

namespace Syscall

/-- Every call that can fail. -/
def all : List Syscall :=
  [.setpgid, .signal, .sigaction, .sigprocmask, .dup2, .execv, .killpg,
    .tcgetpgrp, .tcsetpgrp, .tcgetattr, .tcsetattr, .openFile]

/-- The name of a call. -/
def name : Syscall → String
  | .setpgid => "setpgid"
  | .signal => "signal"
  | .sigaction => "sigaction"
  | .sigprocmask => "sigprocmask"
  | .dup2 => "dup2"
  | .execv => "execv"
  | .killpg => "killpg"
  | .tcgetpgrp => "tcgetpgrp"
  | .tcsetpgrp => "tcsetpgrp"
  | .tcgetattr => "tcgetattr"
  | .tcsetattr => "tcsetattr"
  | .openFile => "open"

end Syscall

/-- The answers still to come, each list in the order of the calls. -/
structure Script where
  /-- The groups that own the terminal; after them it is the caller's own. -/
  owners : List Pid := []
  /-- What `fork` returns; after them, fresh children. -/
  forks : List ForkAnswer := []
  /-- The answers to waiting for each child; after them it exits with 0. -/
  waits : Pid → List WaitAnswer := fun _ => []
  /-- What happens to children before each blocking of SIGCHLD. -/
  batches : List (List ChildEvent) := []
  /-- How the calls of each kind end: they succeed, or fail with an error. -/
  faults : Syscall → List (Option Errno) := fun _ => []
  /-- How prompts end: they are shown, or fail with an error. -/
  prompts : List (Option Errno) := []
  /-- How lines on standard error end: they are written, or fail with an error. -/
  complaints : List (Option Errno) := []
  /-- How lines on standard output end, those of built-ins apart. -/
  notices : List (Option Errno) := []

namespace Script

/-- The script after one more call of a kind. -/
def dropFault (script : Script) (syscall : Syscall) : Script :=
  match script.faults syscall with
  | [] => script
  | _ :: rest =>
      { script with
        faults := fun other =>
          if other = syscall then rest else script.faults other }

/-- The script with other answers to waiting for a child. -/
def setWaits (script : Script) (pid : Pid) (answers : List WaitAnswer) : Script :=
  { script with
    waits := fun other => if other = pid then answers else script.waits other }

end Script
end JobShell

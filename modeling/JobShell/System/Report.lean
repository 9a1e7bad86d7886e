import JobShell.System.Errno
import JobShell.System.Signal

namespace JobShell

/-!
# Reports about children

What waiting for a child answers: how it changed, or why waiting failed. A child
that a real-time signal ends or stops has no report: waiting for it answers with
the error `EINVAL`, although the child is gone.
-/

/-- The number of a process or of a process group. -/
abbrev Pid := Int

/--
A change of a child's state, as waiting for it reports it. The signals of a
report are standard ones.
-/
inductive Report where
  /-- It ended with an exit code. -/
  | exited (code : Int)
  /-- A signal ended it, with or without a core file. -/
  | signaled (signal : Signal) (core : Bool)
  /-- A signal stopped it. -/
  | stopped (signal : Signal)
  /-- It goes on after a stop. -/
  | continued
  /-- There is nothing to report. -/
  | alive
  /-- It stopped at a tracing event. -/
  | traced
  /-- It stopped at a system call while traced. -/
  | atSystemCall
  deriving DecidableEq, Repr

/-- The answer to waiting for one child. -/
abbrev WaitAnswer := Except Errno Report

/-- The answer to waiting for any child. -/
structure ChildEvent where
  pid : Pid
  answer : WaitAnswer

end JobShell

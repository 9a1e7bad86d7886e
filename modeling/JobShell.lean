import JobShell.Builtin.Simple
import JobShell.Main
import JobShell.Proofs.Launch.Attribution
import JobShell.Proofs.Launch.Completed
import JobShell.Proofs.Launch.Untracked
import JobShell.Proofs.Line.Roles
import JobShell.Proofs.Program.Ownership
import JobShell.Proofs.Session.Reached
import JobShell.Proofs.Line.Retyping
import JobShell.Proofs.Reaper.Register
import JobShell.Proofs.Job.Order
import JobShell.Proofs.Launch.Orderly
import JobShell.Proofs.Program.Keeps
import JobShell.Proofs.Host.Mask
import JobShell.Proofs.Launch.Window
import JobShell.Proofs.Program.Guarded
import JobShell.Proofs.Line.Newline
import JobShell.Proofs.Line.Operators
import JobShell.Proofs.Session.Newline
import JobShell.Proofs.Launch.Forks
import JobShell.Proofs.Host.Spares
import JobShell.Proofs.Builtin.Careful
import JobShell.Proofs.Session.Abandoned
import JobShell.Proofs.Launch.Child
import JobShell.Proofs.Program.Child
import JobShell.Proofs.Line.Arguments
import JobShell.Proofs.Builtin.Operands
import JobShell.Proofs.Launch.Grouping
import JobShell.Proofs.Session.Turns
import JobShell.Proofs.Program.Turns
import JobShell.Proofs.Line.Marks
import JobShell.Proofs.Line.Boundaries
import JobShell.Proofs.Line.Positions
import JobShell.Proofs.Line.Resumption
import JobShell.Proofs.Line.Limit
import JobShell.Proofs.Session.Refusals
import JobShell.Proofs.Launch.Settling
import JobShell.Proofs.Files.Naming
import JobShell.Proofs.Files.Search
import JobShell.Proofs.Files.Programs
import JobShell.Proofs.Reaper.Run
import JobShell.Proofs.Reaper.Replay
import JobShell.Proofs.Host.Replay
import JobShell.Proofs.Program.Reading
import JobShell.Proofs.Builtin.Registry
import JobShell.Proofs.Files.Building
import JobShell.Proofs.Terminal.Claiming
import JobShell.Proofs.Session.Ending
import JobShell.Proofs.Program.Undoing
import JobShell.Proofs.Job.Numbering

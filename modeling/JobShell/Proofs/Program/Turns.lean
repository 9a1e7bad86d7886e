import JobShell.Proofs.Program.Keeps
import JobShell.Proofs.Session.Turns

namespace JobShell

/-!
# The exit code of a program

A program whose setup succeeds adds the turns of its session and no others. The
code that the session leaves with, taken modulo 256, is its exit code; without a
session to leave, because the setup, a prompt or the input failed, it is 2.
-/

open Host (Adds Silent)
open Session (Turns Ends)

namespace Program

/-- A host with a terminal. -/
def interactive : Host :=
  { stdinIsTerminal := true }

/-- A host with a terminal, on which the reaper cannot be installed. -/
def unwatched : Host :=
  { stdinIsTerminal := true
    script :=
      { faults := fun syscall =>
          if syscall = .sigaction then [some .einval] else [] } }

/-- A line that is no UTF-8, one that leaves with -1, and one after it. -/
def leaving : Bytes :=
  [255, 10] ++ Utf8.ofString "exit -1\n" ++ Utf8.ofString "pwd\n"

end Program
end JobShell

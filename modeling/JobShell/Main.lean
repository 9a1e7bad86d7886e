import JobShell.Program

/-!
# The command line

Rehearses a session: the lines of standard input are run on a host where each
path among the arguments is a program and every child ends well. What the
session writes and the code it leaves with are those of the process.
-/

namespace JobShell.CommandLine

/-- The variables that the shell looks at. -/
def variableNames : List String :=
  ["HOME", "PATH", "JOBSH_THEME", "JOBSH_LOG_LEVEL", "JOBSH_LOG_DIR",
    "JOBSH_LOG_STDERR"]

/-- The environment, as far as the shell looks at it. -/
def readEnvironment : IO Environment :=
  variableNames.filterMapM fun name => do
    return (← IO.getEnv name).map fun value => (name, Utf8.ofString value)

/-- The rest of a stream. -/
partial def readAll (stream : IO.FS.Stream) (read : ByteArray) : IO ByteArray := do
  let chunk ← stream.read 65536
  if chunk.isEmpty then return read else readAll stream (read ++ chunk)

/-- Files with a program at each path. -/
def withPrograms (space : Workspace) (paths : List String) : Workspace :=
  paths.foldl
    (fun space path =>
      ((space.installFile (Utf8.ofString path) 0o755 []).toOption).getD space)
    space

/-- Bytes as a byte array. -/
def toByteArray (bytes : Bytes) : ByteArray := ⟨bytes.toArray⟩

end JobShell.CommandLine

open JobShell in
/-- Run the lines of standard input. -/
def main (programs : List String) : IO UInt32 := do
  let stdin ← IO.getStdin
  let stdout ← IO.getStdout
  let stderr ← IO.getStderr
  let environment ← CommandLine.readEnvironment
  let input ← CommandLine.readAll stdin .empty
  let host : Host :=
    { stdinIsTerminal := ← stdin.isTty
      stdoutIsTerminal := ← stdout.isTty
      space := CommandLine.withPrograms { environment := environment } programs }
  let ((logger, result), after) := Program.run "session" (.ok input.toList) host
  stdout.write (CommandLine.toByteArray after.history.stdout)
  stderr.write
    (CommandLine.toByteArray (Utf8.encode (Program.stderr logger after.history)))
  match result with
  | .exit code => return code.toNat.toUInt32
  | .ended _ => return 0

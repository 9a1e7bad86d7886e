import JobShell.Builtin.Table

namespace JobShell

/-!
# Simple handlers

Handlers that a table can be extended with: one that writes its words, one that
leaves with their number, and one that refuses them.
-/

namespace Builtin

/--
Write the words with commas between them. That the sink does not take them all
is no failure.
-/
def echo : Handler := fun _ words => do
  let _ ← writeText ("echo ".toList ++ [','].intercalate words ++ ['\n'])
  return .ok .resume

/-- Leave with the number of words. -/
def leaveWithCount : Handler := fun _ words =>
  pure (.ok (.exit words.length))

/-- Answer that there is no such command. -/
def refuse : Handler := fun _ words =>
  pure (.error (.commandNotFound ([' '].intercalate words)))

end Builtin
end JobShell

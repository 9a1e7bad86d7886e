import JobShell.System.Errno

namespace JobShell

/-!
# Errors

What can go wrong with one line or one call, each cause with what it is about.
`message` is the text shown to the user, `source?` the text of the error
underneath, where there is one.
-/

/-- An error of the shell. -/
inductive ShellError where
  /-- A word of the line is longer than the limit. -/
  | tokenTooLong (limit : Nat)
  /-- The line is longer than the limit. -/
  | lineTooLong (limit : Nat)
  /-- The line is no UTF-8 from this offset on. -/
  | invalidUtf8 (offset : Nat)
  /-- A redirection operator is the last word. -/
  | danglingRedirection (operator : Text)
  /-- No program has this name. -/
  | commandNotFound (name : Text)
  /-- The system would not start a process. -/
  | fork (errno : Errno)
  /-- A call failed; the context names it. -/
  | sys (context : String) (errno : Errno)
  /-- A file operation failed. -/
  | io (path : Bytes) (error : FileError)
  /-- An argument holds a NUL byte at this offset. -/
  | nul (position : Nat)
  /-- A built-in reports a failure. -/
  | builtin (name : String) (detail : String)
  deriving DecidableEq, Repr

namespace ShellError

/-- The text shown to the user. -/
def message : ShellError → String
  | tokenTooLong limit => s!"token longer than {limit} bytes"
  | lineTooLong limit => s!"line longer than {limit} bytes"
  | invalidUtf8 offset => s!"line is not valid UTF-8 at byte {offset}"
  | danglingRedirection operator =>
      "syntax error: expected filename after `" ++ String.ofList operator ++ "`"
  | commandNotFound name => String.ofList name ++ ": command not found"
  | fork errno => s!"fork failed: {errno.callText}"
  | sys context errno => s!"{context}: {errno.callText}"
  | io path error => s!"{Utf8.shown path}: {error.text}"
  | nul _ => "argument contains a NUL byte"
  | builtin name detail => s!"{name}: {detail}"

/-- The text of the error underneath. -/
def source? : ShellError → Option String
  | fork errno => some errno.callText
  | sys _ errno => some errno.callText
  | io _ error => some error.text
  | nul position =>
      some s!"nul byte found in provided data at position: {position}"
  | _ => none

end ShellError

/-- A byte string that can be handed to the system: it must hold no NUL byte. -/
def checkNul (bytes : Bytes) : Except ShellError Bytes :=
  if 0 ∈ bytes then .error (.nul (bytes.idxOf 0)) else .ok bytes

/-- A byte string without a NUL byte is handed over as it is. -/
theorem checkNul_eq_ok_iff {bytes handed : Bytes} :
    checkNul bytes = .ok handed ↔ 0 ∉ bytes ∧ bytes = handed := by
  unfold checkNul
  split <;> rename_i nul <;> simp [nul]

theorem checkNul_error
    {bytes : Bytes}
    {e : ShellError}
    (refused : checkNul bytes = .error e) :
    ∃ position, e = .nul position := by
  unfold checkNul at refused
  split at refused
  · exact ⟨_, (Except.error.inj refused).symm⟩
  · contradiction

end JobShell

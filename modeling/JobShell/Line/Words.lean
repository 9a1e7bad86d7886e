import JobShell.Error
import JobShell.Text.Blank

namespace JobShell

/-!
# Words of a line

A line splits into words at white space. Quotes keep white space inside a word
and are dropped themselves; a backslash, in any mode, takes the next character
as it is, and a backslash at the end of the line is dropped. Segments that
touch make one word, a word is never empty, and an operator such as `>` or `&`
is a word like any other. A word of more than `limit` bytes is refused as soon
as it grows past the limit.
-/

/-- Inside or outside quotes. -/
inductive Mode where
  | plain
  | single
  | double
  deriving DecidableEq, Repr

namespace Words

/-- The longest word a line may hold, in bytes. -/
def defaultLimit : Nat := 4095

/-- A word in front of others, unless it is empty. -/
def consNonempty (word : Text) (words : List Text) : List Text :=
  if word = [] then words else word :: words

/--
Scan the rest of a line in a mode, `size` bytes into a word. The answer is the
rest of that word and the words after it.
-/
def scan
    (limit : Nat) :
    Mode → Nat → Text → Except ShellError (Text × List Text)
  | _, _, [] => .ok ([], [])
  | _, _, ['\\'] => .ok ([], [])
  | mode, size, '\\' :: c :: rest =>
      push size c (scan limit mode (size + c.utf8Size) rest)
  | .plain, size, c :: rest =>
      if c = '\x27' then scan limit .single size rest
      else if c = '\x22' then scan limit .double size rest
      else if isBlank c then
        (scan limit .plain 0 rest).map fun (word, words) =>
          ([], consNonempty word words)
      else push size c (scan limit .plain (size + c.utf8Size) rest)
  | .single, size, c :: rest =>
      if c = '\x27' then scan limit .plain size rest
      else push size c (scan limit .single (size + c.utf8Size) rest)
  | .double, size, c :: rest =>
      if c = '\x22' then scan limit .plain size rest
      else push size c (scan limit .double (size + c.utf8Size) rest)
where
  /-- A character of the word in front of what the scan after it found. -/
  push
      (size : Nat)
      (c : Char)
      (found : Except ShellError (Text × List Text)) :
      Except ShellError (Text × List Text) :=
    if limit < size + c.utf8Size then .error (.tokenTooLong limit)
    else found.map fun (word, words) => (c :: word, words)

/-- The words of a line, none of them longer than the limit. -/
def split (limit : Nat) (line : Text) : Except ShellError (List Text) :=
  (scan limit .plain 0 line).map fun (word, words) => consNonempty word words

end Words

/-- The words of a line within the default limit. -/
def tokenize (line : Text) : Except ShellError (List Text) :=
  Words.split Words.defaultLimit line

end JobShell

import JobShell.Error

namespace JobShell

/-!
# Commands

A command is the words up to the first operator. `&` puts it in the background;
`<` and `>` take the next word as a file name, and of the words after that only
a final `&` counts. The first word is the command's name whatever it is.

A `Reader` hands out the commands of a list of words one after the other. It
remembers the last word of the whole list, which decides about the background
of a command with a redirection.
-/

/-- The direction of a redirection. -/
inductive Direction where
  /-- `<`: read from the file. -/
  | input
  /-- `>`: write to the file. -/
  | output
  deriving DecidableEq, Repr

/-- The word that asks for a direction. -/
def Direction.word : Direction → Text
  | .input => ['<']
  | .output => ['>']

/-- The direction that a word asks for. -/
def Direction.ofWord? (word : Text) : Option Direction :=
  if word = ['<'] then some .input
  else if word = ['>'] then some .output
  else none

/-- A file that takes the place of standard input or output. -/
structure Redirection where
  direction : Direction
  filename : Text
  deriving DecidableEq, Repr

/-- A command line with its operators split out. -/
structure Command where
  /-- The word that names the program. -/
  name : Text
  /-- All words handed to the program, the name first. -/
  arguments : List Text
  redirection : Option Redirection
  background : Bool
  deriving DecidableEq, Repr

/-- The word that puts a command in the background. -/
def ampersand : Text := ['&']

/-- The word is an operator. -/
def isOperator (word : Text) : Bool :=
  word == ampersand || (Direction.ofWord? word).isSome

/-- The words not yet read, and the last word of the whole list. -/
structure Reader where
  rest : List Text
  last : Option Text
  deriving DecidableEq, Repr

namespace Reader

/-- A reader at the start of a list of words. -/
def ofWords (words : List Text) : Reader :=
  { rest := words, last := words.getLast? }

/--
Read what follows the arguments: nothing, `&`, or an operator with its file
name. The answer is the redirection, the background flag and the words left.
-/
def readOperator
    (last : Option Text) :
    List Text → Except ShellError (Option Redirection × Bool) × List Text
  | [] => (.ok (none, false), [])
  | operator :: rest =>
      match Direction.ofWord? operator, rest with
      | none, _ => (.ok (none, true), rest)
      | some _, [] => (.error (.danglingRedirection operator), [])
      | some direction, filename :: left =>
          (.ok (some ⟨direction, filename⟩,
              last = some ampersand ∧ left ≠ []), left)

/-- Read the next command; there is none when no word is left. -/
def next (reader : Reader) : Except ShellError (Option Command) × Reader :=
  match reader.rest with
  | [] => (.ok none, reader)
  | name :: words =>
      let arguments := words.takeWhile (!isOperator ·)
      let found := readOperator reader.last (words.dropWhile (!isOperator ·))
      (found.1.map fun (redirection, background) =>
          some ⟨name, name :: arguments, redirection, background⟩,
        { reader with rest := found.2 })

/-- Read a number of commands. -/
def take : Nat → Reader → List (Except ShellError (Option Command))
  | 0, _ => []
  | n + 1, reader => reader.next.1 :: take n reader.next.2

end Reader

/-- The first command of a list of words. -/
def Command.ofWords? (words : List Text) : Except ShellError (Option Command) :=
  (Reader.ofWords words).next.1

/-- The first argument of a command is its name. -/
theorem Command.arguments_of_ofWords?
    {words : List Text}
    {command : Command}
    (found : ofWords? words = .ok (some command)) :
    ∃ rest, command.arguments = command.name :: rest := by
  cases words with
  | nil =>
      cases found
  | cons name rest =>
      simp only [ofWords?, Reader.next, Reader.ofWords] at found
      generalize
        Reader.readOperator (name :: rest).getLast?
          (rest.dropWhile (!isOperator ·)) = ending at found
      obtain ⟨answered | answered, left⟩ := ending
      · cases found
      · cases found
        exact ⟨_, rfl⟩

end JobShell

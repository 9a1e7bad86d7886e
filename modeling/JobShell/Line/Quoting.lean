import JobShell.Text.Utf8

namespace JobShell

/-!
# Quoted words

How a list of words is written as a line: one space between words, and a word
that holds a character of meaning to a shell in single quotes. Inside them
everything stands for itself except the single quote, which is written by
closing the quotes, escaping it and opening them again. The empty word is a
pair of quotes.
-/

namespace Quoting

/-- Characters that make a word be written in quotes. -/
def special : List Char :=
  ['\n', '\x27', '|', '&', ';', '<', '>', '(', ')', '$', '\x60', '\\', '\x22',
    ' ', '\t', '*', '?', '[', '#', '~', '=', '%']

/-- One character between single quotes. -/
def quoteChar (c : Char) : Text :=
  if c = '\x27' then ['\x27', '\\', '\x27', '\x27'] else [c]

/-- A word between single quotes. -/
def enclose (word : Text) : Text :=
  '\x27' :: word.flatMap quoteChar ++ ['\x27']

/-- A word as it is written on a line. -/
def quote (word : Text) : Text :=
  if word = [] ∨ word.any special.contains then enclose word else word

/-- Words as a line. -/
def join : List Text → Text
  | [] => []
  | [word] => quote word
  | word :: rest => quote word ++ ' ' :: join rest

end Quoting
end JobShell

import JobShell.Text.Utf8

namespace JobShell

/-!
# Cutting byte strings

`fields` cuts at every separator and drops it, so that a string with `n`
separators has `n + 1` fields; `lines` cuts after every newline and keeps it,
so that the lines of an input, put together again, are the input.
-/

/-- A byte in front of the first of some fields. -/
def consFirst (byte : UInt8) : List Bytes → List Bytes
  | [] => [[byte]]
  | first :: rest => (byte :: first) :: rest

/-- The fields between separators. -/
def fields (separator : UInt8) : Bytes → List Bytes
  | [] => [[]]
  | byte :: rest =>
      if byte = separator then [] :: fields separator rest
      else consFirst byte (fields separator rest)

/-- The byte that ends a line. -/
def newline : UInt8 := 10

/-- The lines of an input, each with the newline that ends it. -/
def lines : Bytes → List Bytes
  | [] => []
  | byte :: rest =>
      if byte = newline then [byte] :: lines rest
      else consFirst byte (lines rest)

end JobShell

import JobShell.Text.Utf8

namespace JobShell

/-!
# Texts without terminal controls

What is left of a text when the control characters and control sequences of a
terminal are taken out. White space of ASCII stays. A sequence starts with an
escape character and ends as its kind demands; CAN and SUB break it off.

White space inside a short sequence interrupts it: what follows is shown, as it
would be outside, up to the next character that is not, and there the sequence
goes on. A character outside ASCII that is shown ends the interrupted sequence.
-/

namespace Controls

/-- The part of a sequence that a reader is in. -/
inductive Place where
  /-- No sequence. -/
  | outside
  /-- Right after the escape character. -/
  | escape
  /-- After the escape character and an intermediate one. -/
  | designation
  /-- In a control function, up to its final character. -/
  | function
  /-- At the start of a device string. -/
  | deviceEntry
  /-- In the parameters of a device string. -/
  | deviceParameter
  /-- In the intermediate characters of a device string. -/
  | deviceIntermediate
  /-- In a string that the byte 9C ends. -/
  | string
  /-- In a command to the operating system, which a bell ends. -/
  | command
  deriving DecidableEq, Repr

/-- A character between two ASCII codes. -/
def isWithin (first last : Nat) (c : Char) : Bool :=
  first ≤ c.toNat && c.toNat ≤ last

/-- White space of ASCII other than the space itself and the vertical tab. -/
def isLayout (c : Char) : Bool :=
  c == '\t' || c == '\n' || c == '\x0c' || c == '\r'

/-- A character that is shown outside of any sequence. -/
def isPlain (c : Char) : Bool :=
  isWithin 0x20 0x7E c || isLayout c || 0x80 ≤ c.toNat

/-- The byte that ends a string is one of the bytes of the character. -/
def endsString (c : Char) : Bool :=
  (String.utf8EncodeChar c).contains 0x9C

namespace Place

/-- White space interrupts the sequence, and is no part of it. -/
def isShort : Place → Bool
  | escape | designation | function => true
  | _ => false

/-- The part of a sequence that a character of it leads to. -/
def next : Place → Char → Place
  | outside, _ => outside
  | escape, c =>
      if c = '[' then function
      else if c = ']' then command
      else if c = 'P' then deviceEntry
      else if c = 'X' ∨ c = '^' ∨ c = '_' then string
      else if isWithin 0x20 0x2F c then designation
      else if isWithin 0x30 0x7E c then outside
      else escape
  | designation, c => if isWithin 0x30 0x7E c then outside else designation
  | function, c => if isWithin 0x40 0x7E c then outside else function
  | deviceEntry, c =>
      if isWithin 0x20 0x2F c then deviceIntermediate
      else if isWithin 0x30 0x3F c then deviceParameter
      else if isWithin 0x40 0x7E c then string
      else deviceEntry
  | deviceParameter, c =>
      if isWithin 0x20 0x2F c then deviceIntermediate
      else if isWithin 0x3C 0x7E c then string
      else deviceParameter
  | deviceIntermediate, c =>
      if isWithin 0x30 0x7E c then string else deviceIntermediate
  | string, c => if endsString c then outside else string
  | command, c => if c = '\x07' then outside else command

end Place

/-- Where a reader is, and whether what it reads is shown all the same. -/
structure Reader where
  place : Place := .outside
  /-- The sequence is interrupted, or there is none. -/
  showing : Bool := true
  deriving DecidableEq, Repr

namespace Reader

/-- Read a character while what is read is shown. -/
def stepShowing (reader : Reader) (c : Char) : Bool × Reader :=
  if isPlain c then
    (true, if c.toNat < 0x80 then reader else {})
  else (false, { reader with showing := reader.place = .outside })

/-- Read a character of a sequence. -/
def stepHiding (reader : Reader) (c : Char) : Bool × Reader :=
  if reader.place.isShort ∧ isLayout c then
    (true, { reader with showing := true })
  else
    let place := reader.place.next c
    (false, ⟨place, place = .outside⟩)

/-- Read a character; the answer tells whether it is shown. -/
def step (reader : Reader) (c : Char) : Bool × Reader :=
  if c = '\x1b' then (false, ⟨.escape, false⟩)
  else if c = '\x18' ∨ c = '\x1a' then (false, {})
  else if reader.showing then reader.stepShowing c
  else reader.stepHiding c

/-- The characters of a text that are shown. -/
def shown : Reader → Text → Text
  | _, [] => []
  | reader, c :: rest =>
      if (reader.step c).1 then c :: shown (reader.step c).2 rest
      else shown (reader.step c).2 rest

end Reader

/-- A text without control characters and control sequences. -/
def strip (text : Text) : Text :=
  Reader.shown {} text

end Controls
end JobShell

namespace JobShell

/-!
# Text as bytes

Paths, variables and input lines are byte strings, words and messages are
texts. `encode` writes a text as UTF-8; `decode` reads one back or names the
offset of the first byte that starts no character; `decodeLossy` shows every
malformed stretch as one replacement character.

The reader is a machine with one state: the character it is in the middle of,
if any. A byte either completes that character, continues it, or breaks it, and
a byte that breaks a character is looked at again as the start of the next one.
-/

/-- A string of bytes. -/
abbrev Bytes := List UInt8

/-- A text as a list of characters. -/
abbrev Text := List Char

namespace Utf8

/-- The bytes of a text. -/
def encode (text : Text) : Bytes :=
  text.flatMap String.utf8EncodeChar

/-- The bytes of a string. -/
def ofString (text : String) : Bytes :=
  encode text.toList

/--
A character of which some bytes have been read: how many are still due, the
least and greatest value of the next one, the bits read so far and the bytes
they came from.
-/
structure Open where
  due : Nat
  least : UInt8
  greatest : UInt8
  bits : Nat
  held : Bytes
  deriving DecidableEq, Repr

/-- What a byte string decodes into: a character, or a malformed stretch. -/
inductive Piece where
  | char (value : Char)
  | malformed (bytes : Bytes)
  deriving DecidableEq, Repr

/-- The character that a leading byte of two or more opens, if it can lead. -/
def lead? (byte : UInt8) : Option Open :=
  if byte < 0xC2 then none
  else if byte < 0xE0 then some ⟨1, 0x80, 0xBF, byte.toNat - 0xC0, [byte]⟩
  else if byte = 0xE0 then some ⟨2, 0xA0, 0xBF, 0, [byte]⟩
  else if byte = 0xED then some ⟨2, 0x80, 0x9F, 0xD, [byte]⟩
  else if byte < 0xF0 then some ⟨2, 0x80, 0xBF, byte.toNat - 0xE0, [byte]⟩
  else if byte = 0xF0 then some ⟨3, 0x90, 0xBF, 0, [byte]⟩
  else if byte < 0xF4 then some ⟨3, 0x80, 0xBF, byte.toNat - 0xF0, [byte]⟩
  else if byte = 0xF4 then some ⟨3, 0x80, 0x8F, 4, [byte]⟩
  else none

/-- Read a byte that follows a whole character. -/
def start (byte : UInt8) : List Piece × Option Open :=
  if byte < 0x80 then ([.char (Char.ofNat byte.toNat)], none)
  else
    match lead? byte with
    | some character => ([], some character)
    | none => ([.malformed [byte]], none)

/-- Read a byte in the middle of a character. -/
def extend (character : Open) (byte : UInt8) : List Piece × Option Open :=
  if character.least ≤ byte ∧ byte ≤ character.greatest then
    let bits := character.bits * 64 + (byte.toNat - 0x80)
    if character.due ≤ 1 then ([.char (Char.ofNat bits)], none)
    else ([], some ⟨character.due - 1, 0x80, 0xBF, bits, character.held ++ [byte]⟩)
  else
    let (pieces, state) := start byte
    (.malformed character.held :: pieces, state)

/-- Read one byte. -/
def step (state : Option Open) (byte : UInt8) : List Piece × Option Open :=
  match state with
  | none => start byte
  | some character => extend character byte

/-- Read bytes from a state; a character left open at the end is malformed. -/
def piecesFrom : Option Open → Bytes → List Piece
  | none, [] => []
  | some character, [] => [.malformed character.held]
  | state, byte :: rest =>
      (step state byte).1 ++ piecesFrom (step state byte).2 rest

/-- The characters and malformed stretches of a byte string. -/
def pieces (bytes : Bytes) : List Piece :=
  piecesFrom none bytes

/-- The text of pieces without a malformed one, else the offset of the first. -/
def ofPieces (offset : Nat) : List Piece → Except Nat Text
  | [] => .ok []
  | .malformed _ :: _ => .error offset
  | .char value :: rest =>
      (ofPieces (offset + value.utf8Size) rest).map (value :: ·)

/-- The text that bytes encode, or the offset of the first malformed stretch. -/
def decode (bytes : Bytes) : Except Nat Text :=
  ofPieces 0 (pieces bytes)

/-- The text that bytes encode, if they encode one. -/
def decode? (bytes : Bytes) : Option Text :=
  (decode bytes).toOption

/-- How a piece is shown. -/
def Piece.shown : Piece → Char
  | .char value => value
  | .malformed _ => '\uFFFD'

/-- The text of bytes with each malformed stretch shown as U+FFFD. -/
def decodeLossy (bytes : Bytes) : Text :=
  (pieces bytes).map Piece.shown

/-- `decodeLossy` as a string. -/
def shown (bytes : Bytes) : String :=
  String.ofList (decodeLossy bytes)

end Utf8
end JobShell

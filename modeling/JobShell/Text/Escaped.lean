import JobShell.Text.Unshown
import JobShell.Text.Utf8

namespace JobShell

/-!
# Escaped texts

How texts and paths are written in log messages: between double quotes, with
what would not show by itself written as an escape. A byte of a path that belongs
to no character is written as two digits.
-/

namespace Escaped

/-- The digits of a number to base sixteen. -/
def hex (n : Nat) : Text := Nat.toDigits 16 n

/-- A character as it is written between double quotes. -/
def char (c : Char) : Text :=
  if c = '\x00' then ['\\', '0']
  else if c = '\t' then ['\\', 't']
  else if c = '\r' then ['\\', 'r']
  else if c = '\n' then ['\\', 'n']
  else if c = '\\' ∨ c = '\x22' then ['\\', c]
  else if isUnshown c then ['\\', 'u', '\x7b'] ++ hex c.toNat ++ ['\x7d']
  else [c]

/-- A text between double quotes. -/
def text (t : Text) : Text :=
  '\x22' :: t.flatMap char ++ ['\x22']

/-- Values between brackets, with commas. -/
def list (items : List Text) : Text :=
  '[' :: [',', ' '].intercalate items ++ [']']

/-- Texts between brackets. -/
def texts (items : List Text) : Text :=
  list (items.map text)

/-- A byte as two capital digits. -/
def byte (b : UInt8) : Text :=
  let digits := (hex b.toNat).map Char.toUpper
  ['\\', 'x'] ++ List.replicate (2 - digits.length) '0' ++ digits

/-- A piece of a path. -/
def piece : Utf8.Piece → Text
  | .char value => char value
  | .malformed bytes => bytes.flatMap byte

/-- A path between double quotes. -/
def path (p : Bytes) : Text :=
  '\x22' :: (Utf8.pieces p).flatMap piece ++ ['\x22']

end Escaped
end JobShell

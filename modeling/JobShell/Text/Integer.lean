import JobShell.Text.Utf8

namespace JobShell

/-!
# Signed decimal numerals

An optional sign, then one or more ASCII digits, with a value that fits in 32
bits. Anything else is no numeral.
-/

namespace Integer

/-- The value of an ASCII digit. -/
def digit? (c : Char) : Option Nat :=
  if '0' ≤ c ∧ c ≤ '9' then some (c.toNat - '0'.toNat) else none

/-- The value of a run of digits, read onto the digits before it. -/
def digitsFrom? (value : Nat) : Text → Option Nat
  | [] => some value
  | c :: rest => (digit? c).bind fun d => digitsFrom? (value * 10 + d) rest

/-- The value of a nonempty run of digits. -/
def digits? : Text → Option Nat
  | [] => none
  | c :: rest => digitsFrom? 0 (c :: rest)

/-- A value within the signed 32-bit range. -/
def fits32 (value : Int) : Option Int :=
  if -2147483648 ≤ value ∧ value ≤ 2147483647 then some value else none

/-- The signed 32-bit value of a numeral. -/
def parse32? : Text → Option Int
  | '+' :: rest => (digits? rest).bind fun n => fits32 n
  | '-' :: rest => (digits? rest).bind fun n => fits32 (-n)
  | text => (digits? text).bind fun n => fits32 n

end Integer
end JobShell

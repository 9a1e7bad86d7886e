import JobShell.Text.Utf8

namespace JobShell

/-!
# White space

The characters that separate words: those with the Unicode property
White_Space.
-/

/-- The character is white space in the sense of Unicode. -/
def isBlank (c : Char) : Bool :=
  let n := c.toNat
  (9 ≤ n && n ≤ 13) || n == 0x20 || n == 0x85 || n == 0xA0 || n == 0x1680 ||
    (0x2000 ≤ n && n ≤ 0x200A) || n == 0x2028 || n == 0x2029 || n == 0x202F ||
    n == 0x205F || n == 0x3000

/-- A text without its leading white space. -/
def trimStart (text : Text) : Text :=
  text.dropWhile isBlank

/-- A text without its trailing white space. -/
def trimEnd (text : Text) : Text :=
  (text.reverse.dropWhile isBlank).reverse

end JobShell

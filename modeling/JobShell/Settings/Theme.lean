import JobShell.Text.Utf8

namespace JobShell

/-!
# Themes

How prompts, errors and notices are coloured. A coloured text stands between
the sequence that switches the colour on and the one that switches it off, and
after each sequence inside the text that switches colours off, the colour is
switched on again.
-/

/-- A colour of the terminal. -/
inductive Colour where
  | red
  | brightRed
  | brightMagenta
  | brightCyan
  deriving DecidableEq, Repr

namespace Colour

/-- The digits that select the colour. -/
def code : Colour → Text
  | red => ['3', '1']
  | brightRed => ['9', '1']
  | brightMagenta => ['9', '5']
  | brightCyan => ['9', '6']

/-- The sequence that switches the colour on. -/
def on (colour : Colour) : Text :=
  '\x1b' :: '[' :: colour.code ++ ['m']

/-- The sequence that switches colours off. -/
def off : Text := ['\x1b', '[', '0', 'm']

/-- A text with the colour switched on again after each `off`. -/
def resume (colour : Colour) : Text → Text
  | '\x1b' :: '[' :: '0' :: 'm' :: rest => off ++ colour.on ++ resume colour rest
  | c :: rest => c :: resume colour rest
  | [] => []

/-- A text in the colour. -/
def paint (colour : Colour) (text : Text) : Text :=
  colour.on ++ colour.resume text ++ off

end Colour

/-- A colour or none. -/
abbrev Style := Option Colour

/-- A text in a style. -/
def Style.paint (style : Style) (text : Text) : Text :=
  match style with
  | none => text
  | some colour => colour.paint text

/-- The styles of the shell's own messages. -/
structure Theme where
  symbol : Style := none
  prompt : Style := none
  error : Style := none
  notice : Style := none
  deriving DecidableEq, Repr

namespace Theme

/-- No colours. -/
def plain : Theme := {}

/-- The usual colours. -/
def standard : Theme :=
  { symbol := some .red
    prompt := some .brightCyan
    error := some .brightRed
    notice := some .brightMagenta }

/-- The theme with a name; colours only where the output shows them. -/
def load (name : String) (coloured : Bool) : Theme :=
  if name = "plain" ∨ ¬ coloured then plain else standard

/-- The mark in front of an error. -/
def errorSymbol (theme : Theme) : Text :=
  theme.symbol.paint ['✗']

end Theme
end JobShell

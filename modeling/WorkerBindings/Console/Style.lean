/-!
# Styled text

Text in bold or in a colour, by the escape sequences of terminals. With colours switched off, a
style leaves its text as it is.
-/

namespace WorkerBindings

/-- The colours in use. -/
inductive Colour where
  | red
  | green
  | yellow
  | blue
  | cyan
  deriving Repr, DecidableEq

/-- How a text is shown. -/
structure Style where
  bold : Bool
  colour : Option Colour
  deriving Repr, DecidableEq

/-- The code that selects a colour for the foreground. -/
def Colour.code : Colour → String
  | .red => "31"
  | .green => "32"
  | .yellow => "33"
  | .blue => "34"
  | .cyan => "36"

namespace Style

/-- Bold text in a colour. -/
def strong (colour : Colour) : Style := ⟨true, some colour⟩

/-- Text in a colour. -/
def tinted (colour : Colour) : Style := ⟨false, some colour⟩

/-- Bold text in the usual colour. -/
def emphatic : Style := ⟨true, none⟩

/-- The codes of a style, bold before the colour. -/
def codes (style : Style) : List String :=
  (if style.bold then ["1"] else []) ++ (style.colour.map Colour.code).toList

/-- The text in a style, if colours are on. -/
def apply (style : Style) (colours : Bool) (text : String) : String :=
  if colours && !style.codes.isEmpty then
    "\x1b[" ++ String.intercalate ";" style.codes ++ "m" ++ text ++ "\x1b[0m"
  else text

end Style

end WorkerBindings

/-!
# Real numbers

The texts that stand for a real number: a sign or none, digits of which some may be behind a point,
and an exponent or none. The words for infinity and for no number at all count as numbers too.
-/

namespace EvmScope.Text

set_option autoImplicit false

/-- A text without a sign in front. -/
def dropSign : List Char → List Char
  | '+' :: s | '-' :: s => s
  | s => s

/-- Whether a text is an exponent, or empty. -/
def isExponent : List Char → Bool
  | [] => true
  | c :: s =>
    let digits := dropSign s
    (c = 'e' || c = 'E') && !digits.isEmpty && digits.all Char.isDigit

/-- Whether a text is a row of digits, of which some may be behind a point, and perhaps an
exponent. -/
def isScientific (s : List Char) : Bool :=
  let whole := s.takeWhile Char.isDigit
  match s.dropWhile Char.isDigit with
  | '.' :: rest =>
    let fraction := rest.takeWhile Char.isDigit
    !(whole.isEmpty && fraction.isEmpty) && isExponent (rest.dropWhile Char.isDigit)
  | rest => !whole.isEmpty && isExponent rest

/-- Whether a text stands for a real number. -/
def isReal (s : List Char) : Bool :=
  let s := dropSign s
  isScientific s ||
    ["inf", "infinity", "nan"].any fun word => word.toList = s.map Char.toLower

end EvmScope.Text

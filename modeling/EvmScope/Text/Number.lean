import EvmScope.Text.Digits

/-!
# Numbers of 64 bits

A number of 64 bits is written in decimal digits, with a plus sign in front if one likes.
-/

namespace EvmScope.Text

set_option autoImplicit false

/-- Why a text is not a number of 64 bits. -/
inductive NumberError
  | empty
  | invalidDigit
  | tooLarge
  deriving DecidableEq, Repr

def NumberError.message : NumberError → String
  | empty => "cannot parse integer from empty string"
  | invalidDigit => "invalid digit found in string"
  | tooLarge => "number too large to fit in target type"

/-- Reads digits behind those that stand for `n`. The first fault from the left decides. -/
def readDigits (n : Nat) : List Char → Except NumberError Nat
  | [] => .ok n
  | c :: s =>
    match decimalValue? c with
    | none => .error .invalidDigit
    | some d => if 10 * n + d < UInt64.size then readDigits (10 * n + d) s else .error .tooLarge

/-- Reads a number of 64 bits. -/
def readNumber : List Char → Except NumberError Nat
  | [] => .error .empty
  | ['+'] => .error .invalidDigit
  | '+' :: s => readDigits 0 s
  | s => readDigits 0 s

end EvmScope.Text

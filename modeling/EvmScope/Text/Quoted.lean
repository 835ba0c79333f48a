import EvmScope.Text.Printable

/-!
# Quoted text

A text between double quotes in which everything can be seen: a backslash stands in front of quotes
and backslashes, four control characters are shown by a letter or digit, and all else that is not
printable by its code.
-/

namespace EvmScope.Text

set_option autoImplicit false

/-- A character as it stands between quotes. -/
def visible (c : Char) : List Char :=
  if c = '"' then ['\\', '"']
  else if c = '\\' then ['\\', '\\']
  else if c = '\t' then ['\\', 't']
  else if c = '\r' then ['\\', 'r']
  else if c = '\n' then ['\\', 'n']
  else if c.toNat = 0 then ['\\', '0']
  else if isPrintable c then [c]
  else '\\' :: 'u' :: '\x7b' :: Nat.toDigits 16 c.toNat ++ ['\x7d']

def quoted (s : List Char) : List Char :=
  '"' :: s.flatMap visible ++ ['"']

end EvmScope.Text

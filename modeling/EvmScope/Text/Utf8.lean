import EvmScope.Bytes

/-!
# UTF-8

Texts as bytes and back, and texts cut at positions that are counted in bytes.
-/

namespace EvmScope.Text

set_option autoImplicit false

def utf8 (s : List Char) : Bytes :=
  s.flatMap String.utf8EncodeChar

/-- The text that some bytes stand for, if they are well formed. -/
def ofUtf8? (bs : Bytes) : Option (List Char) :=
  (String.fromUTF8? ⟨bs.toArray⟩).map String.toList

/-- A text in two parts, of which the first one takes `n` bytes; none if that is within a character
or behind the end. -/
def splitAtByte? : Nat → List Char → Option (List Char × List Char)
  | 0, s => some ([], s)
  | _ + 1, [] => none
  | n + 1, c :: s =>
    if c.utf8Size ≤ n + 1 then
      (splitAtByte? (n + 1 - c.utf8Size) s).map fun (front, rest) => (c :: front, rest)
    else none

/-- The part of a text between two positions in bytes, if neither is within a character. -/
def partBetween? (first last : Nat) (s : List Char) : Option (List Char) := do
  let (_, rest) ← splitAtByte? first s
  let (part, _) ← splitAtByte? (last - first) rest
  pure part

end EvmScope.Text

/-!
# Blank characters

The characters with the Unicode property White_Space, and what is left of a text when they are
taken away at its ends (`trim`) or everywhere (`withoutBlanks`).
-/

namespace EvmScope.Text

set_option autoImplicit false

/-- The 25 characters with the property White_Space. -/
def isBlank (c : Char) : Bool :=
  let n := c.toNat
  (0x09 ≤ n && n ≤ 0x0d) || n == 0x20 || n == 0x85 || n == 0xa0 || n == 0x1680 ||
    (0x2000 ≤ n && n ≤ 0x200a) || n == 0x2028 || n == 0x2029 || n == 0x202f || n == 0x205f ||
    n == 0x3000

/-- A text without the blanks at its front. -/
def trimLeft (s : List Char) : List Char :=
  s.dropWhile isBlank

/-- A text without the blanks at its end. -/
def trimRight (s : List Char) : List Char :=
  (s.reverse.dropWhile isBlank).reverse

/-- A text without the blanks at either end. -/
def trim (s : List Char) : List Char :=
  trimRight (trimLeft s)

/-- A text without any of its blanks. -/
def withoutBlanks (s : List Char) : List Char :=
  s.filter (!isBlank ·)

theorem withoutBlanks_eq_self {s : List Char} (h : ∀ c ∈ s, isBlank c = false) :
    withoutBlanks s = s := by
  simpa [withoutBlanks, List.filter_eq_self] using h

end EvmScope.Text

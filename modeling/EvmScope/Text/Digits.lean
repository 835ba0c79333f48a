/-!
# Digits

Numbers as decimal digits, padded on the left to a least width, and numbers as hexadecimal digits.
Digits come from `Nat.toDigits`: the most significant first, lowercase, and none wasted.
-/

namespace EvmScope.Text

set_option autoImplicit false

/-- `s` with as many copies of `c` in front as make it `width` characters long, none if it is that
long already. -/
def padLeft (width : Nat) (c : Char) (s : List Char) : List Char :=
  List.replicate (width - s.length) c ++ s

/-- `s` with as many copies of `c` behind as make it `width` characters long. -/
def padRight (width : Nat) (c : Char) (s : List Char) : List Char :=
  s ++ List.replicate (width - s.length) c

def decimal (n : Nat) : List Char :=
  Nat.toDigits 10 n

/-- The decimal digits of a number, with zeros in front up to `width` digits. -/
def decimalPadded (width n : Nat) : List Char :=
  padLeft width '0' (decimal n)

/-- The hexadecimal digits of a number, with zeros in front up to `width` digits. -/
def hexPadded (width n : Nat) : List Char :=
  padLeft width '0' (Nat.toDigits 16 n)

/-- The value of a hexadecimal digit of either case. -/
def hexValue? (c : Char) : Option Nat :=
  if '0' ≤ c ∧ c ≤ '9' then some (c.toNat - '0'.toNat)
  else if 'a' ≤ c ∧ c ≤ 'f' then some (c.toNat - 'a'.toNat + 10)
  else if 'A' ≤ c ∧ c ≤ 'F' then some (c.toNat - 'A'.toNat + 10)
  else none

/-- The number that a row of hexadecimal digits stands for, if all are digits. -/
def hexNumber? (s : List Char) : Option Nat :=
  s.foldlM (fun n c => (hexValue? c).map (16 * n + ·)) 0

def decimalValue? (c : Char) : Option Nat :=
  if '0' ≤ c ∧ c ≤ '9' then some (c.toNat - '0'.toNat) else none

theorem hexValue?_digitChar {n : Nat} (h : n < 16) : hexValue? n.digitChar = some n := by
  revert n
  decide

theorem hexValue?_lt {c : Char} {n : Nat} (h : hexValue? c = some n) : n < 16 := by
  unfold hexValue? at h
  simp only [Char.le_def, UInt32.le_iff_toNat_le] at h
  split at h
  · next hc =>
    have : c.toNat ≤ 57 := hc.2
    simp only [Option.some.injEq] at h
    change c.toNat - 48 = n at h
    omega
  · split at h
    · next hc =>
      have : c.toNat ≤ 102 := hc.2
      simp only [Option.some.injEq] at h
      change c.toNat - 97 + 10 = n at h
      omega
    · split at h
      · next hc =>
        have : c.toNat ≤ 70 := hc.2
        simp only [Option.some.injEq] at h
        change c.toNat - 65 + 10 = n at h
        omega
      · simp at h

end EvmScope.Text

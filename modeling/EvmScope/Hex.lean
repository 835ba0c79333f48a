import EvmScope.Bytes
import EvmScope.Text.Blank
import EvmScope.Text.Digits
import EvmScope.Text.Utf8

/-!
# Hexadecimal text

Byte strings written as two lowercase digits per byte, and the more liberal form that is read:
blanks at either end, one `0x` or `0X` in front, and digits of either case.
-/

namespace EvmScope.Hex

set_option autoImplicit false

open Text

/-- The two digits of a byte, the high half first. -/
def digits (b : UInt8) : List Char :=
  [(b.toNat / 16).digitChar, (b.toNat % 16).digitChar]

/-- Two lowercase digits for each byte. -/
def encode (bs : Bytes) : List Char :=
  bs.flatMap digits

/-- Why a text is not the hexadecimal form of a byte string. The text quoted is what is left after
trimming and after the `0x`. -/
inductive Error
  | oddDigits (core : List Char)
  | notHex (core : List Char)
  deriving DecidableEq, Repr

def Error.message : Error → String
  | .oddDigits core => s!"invalid hex string: odd number of digits in '{String.ofList core}'"
  | .notHex core => s!"invalid hex string: '{String.ofList core}'"

/-- A text without a `0x` or `0X` in front. Only one is taken away. -/
def withoutMarker : List Char → List Char
  | '0' :: 'x' :: s => s
  | '0' :: 'X' :: s => s
  | s => s

/-- The part of a text that has to hold the digits. -/
def core (s : List Char) : List Char :=
  withoutMarker (trim s)

/-- The bytes that pairs of digits stand for, if the text holds nothing else. -/
def readPairs? : List Char → Option Bytes
  | [] => some []
  | [_] => none
  | a :: b :: s =>
    match hexValue? a, hexValue? b with
    | some high, some low => (readPairs? s).map (UInt8.ofNat (16 * high + low) :: ·)
    | _, _ => none

/-- Reads a byte string. A text of an odd number of bytes (in UTF-8) is refused before its
characters are looked at. -/
def decode (s : List Char) : Except Error Bytes :=
  if (utf8 (core s)).length % 2 = 1 then .error (.oddDigits (core s))
  else match readPairs? (core s) with
    | some bs => .ok bs
    | none => .error (.notHex (core s))

/-- The two digits of a byte are read as that byte. -/
theorem readPairs?_digits (b : UInt8) (s : List Char) :
    readPairs? (digits b ++ s) = (readPairs? s).map (b :: ·) := by
  have hb := b.toNat_lt
  have hhigh := hexValue?_digitChar (show b.toNat / 16 < 16 by omega)
  have hlow := hexValue?_digitChar (show b.toNat % 16 < 16 by omega)
  have hval : 16 * (b.toNat / 16) + b.toNat % 16 = b.toNat := Nat.div_add_mod _ _
  simp [digits, readPairs?, hhigh, hlow, hval]

theorem readPairs?_encode (bs : Bytes) : readPairs? (encode bs) = some bs := by
  induction bs with
  | nil => rfl
  | cons b bs ih =>
    have h := readPairs?_digits b (encode bs)
    rw [ih] at h
    simpa [encode] using h

end EvmScope.Hex

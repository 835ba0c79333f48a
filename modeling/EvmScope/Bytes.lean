/-!
# Byte strings

Byte strings as lists, the number a byte string stands for (most significant byte first), and the
byte string of a given width that stands for a number.
-/

namespace EvmScope

set_option autoImplicit false

/-- A string of bytes. -/
abbrev Bytes := List UInt8

namespace Bytes

/-- The number whose digits to base 256 are the bytes, the most significant first. -/
def toNat (bs : Bytes) : Nat :=
  bs.foldl (fun n b => 256 * n + b.toNat) 0

/-- The last `width` digits of `n` to base 256, the most significant first. -/
def ofNat : (width n : Nat) → Bytes
  | 0, _ => []
  | width + 1, n => ofNat width (n / 256) ++ [UInt8.ofNat n]

/-- The bytes from `start` on, `length` of them, with zeros where the string has ended. -/
def window (bs : Array UInt8) (start length : Nat) : Array UInt8 :=
  let present := bs.extract start (start + length)
  present ++ Array.replicate (length - present.size) 0

@[simp] theorem toNat_nil : toNat [] = 0 := rfl

theorem toNat_singleton (b : UInt8) : toNat [b] = b.toNat := by simp [toNat]

@[simp] theorem length_ofNat (width n : Nat) : (ofNat width n).length = width := by
  induction width generalizing n with
  | zero => rfl
  | succ width ih => simp [ofNat, ih]

end Bytes

end EvmScope

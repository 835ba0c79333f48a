import EvmScope.Bytes

/-!
# Words

The 256-bit words of the machine: their 32 bytes, the short hexadecimal form, and the operations of
the instruction set that are not plain bit-vector operations. Division and remainder by zero are
zero throughout.
-/

namespace EvmScope

set_option autoImplicit false

abbrev Word := BitVec 256

namespace Word

def toBytes (w : Word) : Bytes :=
  Bytes.ofNat 32 w.toNat

/-- The word that a byte string stands for; of more than 32 bytes the last 32 count. -/
def ofBytes (bs : Bytes) : Word :=
  BitVec.ofNat 256 bs.toNat

/-- `0x` and the digits of a word with none wasted; zero is `0x0`. -/
def quantity (w : Word) : List Char :=
  '0' :: 'x' :: Nat.toDigits 16 w.toNat

def ofBool (b : Bool) : Word :=
  if b then 1 else 0

/-- Quotient of signed words, rounded toward zero. -/
def signedDiv (a b : Word) : Word :=
  if b = 0 then 0 else a.sdiv b

def mod (a b : Word) : Word :=
  if b = 0 then 0 else a % b

/-- Remainder of signed words, with the sign of the dividend. -/
def signedMod (a b : Word) : Word :=
  if b = 0 then 0 else a.srem b

/-- The remainder of the exact sum. -/
def addMod (a b n : Word) : Word :=
  BitVec.ofNat 256 (if n = 0 then 0 else (a.toNat + b.toNat) % n.toNat)

/-- The remainder of the exact product. -/
def mulMod (a b n : Word) : Word :=
  BitVec.ofNat 256 (if n = 0 then 0 else a.toNat * b.toNat % n.toNat)

/-- The power of `a` to the number that the last `bits` bits of `e` stand for. -/
def powBits : (bits : Nat) → (a : Word) → (e : Nat) → Word
  | 0, _, _ => 1
  | bits + 1, a, e =>
    let rest := powBits bits (a * a) (e / 2)
    if e % 2 = 1 then a * rest else rest

def exp (a e : Word) : Word :=
  powBits 256 a e.toNat

/-- The word whose low `k + 1` bytes are those of `x` and whose other bytes repeat their sign. -/
def signExtend (k x : Word) : Word :=
  if k.toNat < 31 then (x.setWidth (8 * (k.toNat + 1))).signExtend 256 else x

/-- Byte `i` of `x`, where byte 0 is the most significant. -/
def byte (i x : Word) : Word :=
  if i.toNat < 32 then (x >>> (8 * (31 - i.toNat))) &&& 0xff else 0

/-- `x` shifted to the left by `s` bits. -/
def shiftLeft (s x : Word) : Word :=
  if s.toNat < 256 then x <<< s.toNat else 0

/-- `x` shifted to the right by `s` bits, with zeros from the left. -/
def shiftRight (s x : Word) : Word :=
  if s.toNat < 256 then x >>> s.toNat else 0

/-- `x` shifted to the right by `s` bits, with copies of the sign from the left. -/
def signedShiftRight (s x : Word) : Word :=
  x.sshiftRight (min s.toNat 255)

@[simp] theorem length_toBytes (w : Word) : w.toBytes.length = 32 :=
  Bytes.length_ofNat _ _

end Word

end EvmScope

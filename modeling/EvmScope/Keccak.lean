/-!
# Keccak-256

The hash function of the machine: the sponge over the permutation Keccak-f[1600] with a rate of 136
bytes and the padding `0x01 … 0x80`.
-/

namespace EvmScope.Keccak

set_option autoImplicit false

/-- The 25 lanes of the permutation; lane `(x, y)` has index `x + 5 * y`. -/
abbrev Lanes := Vector UInt64 25

/-- Lane `(x, y)`, with both coordinates taken modulo five. -/
def lane (a : Lanes) (x y : Nat) : UInt64 :=
  a[x % 5 + 5 * (y % 5)]

/-- The lanes with the value `f x y` at `(x, y)`. -/
def build (f : Nat → Nat → UInt64) : Lanes :=
  Vector.ofFn fun i => f (i.val % 5) (i.val / 5)

/-- `w` with its bits rotated toward the high end. -/
def rotate (w : UInt64) (n : UInt64) : UInt64 :=
  (w <<< n) ||| (w >>> (64 - n))

/-- How far each lane is rotated. -/
def offsets : Lanes :=
  #v[0, 1, 62, 28, 27, 36, 44, 6, 55, 20, 3, 10, 43, 25, 39, 41, 45, 15, 21, 8, 18, 2, 61, 56, 14]

/-- What each round adds to lane `(0, 0)`. -/
def roundConstants : List UInt64 :=
  [0x0000000000000001, 0x0000000000008082, 0x800000000000808a, 0x8000000080008000,
   0x000000000000808b, 0x0000000080000001, 0x8000000080008081, 0x8000000000008009,
   0x000000000000008a, 0x0000000000000088, 0x0000000080008009, 0x000000008000000a,
   0x000000008000808b, 0x800000000000008b, 0x8000000000008089, 0x8000000000008003,
   0x8000000000008002, 0x8000000000000080, 0x000000000000800a, 0x800000008000000a,
   0x8000000080008081, 0x8000000000008080, 0x0000000080000001, 0x8000000080008008]

/-- Adds to every lane the parities of two neighbouring columns. -/
def theta (a : Lanes) : Lanes :=
  let parity := Vector.ofFn fun x : Fin 5 =>
    lane a x 0 ^^^ lane a x 1 ^^^ lane a x 2 ^^^ lane a x 3 ^^^ lane a x 4
  let column (x : Nat) : UInt64 := parity[x % 5]
  build fun x y => lane a x y ^^^ column (x + 4) ^^^ rotate (column (x + 1)) 1

/-- Rotates every lane and moves it to its new place. -/
def rhoPi (a : Lanes) : Lanes :=
  build fun x y => rotate (lane a (x + 3 * y) x) (lane offsets (x + 3 * y) x)

/-- Combines every lane with the next two of its row, and adds the constant of the round. -/
def chiIota (a : Lanes) (c : UInt64) : Lanes :=
  build fun x y =>
    let mixed := lane a x y ^^^ (~~~ (lane a (x + 1) y) &&& lane a (x + 2) y)
    if x = 0 ∧ y = 0 then mixed ^^^ c else mixed

/-- The permutation Keccak-f[1600]. -/
def permute (a : Lanes) : Lanes :=
  roundConstants.foldl (fun a c => chiIota (rhoPi (theta a)) c) a

/-- The number of bytes absorbed at a time. -/
def rate : Nat := 136

/-- The message with its padding, a whole number of blocks. -/
def padded (m : Array UInt8) : Array UInt8 :=
  let missing := rate - m.size % rate
  if missing = 1 then m.push 0x81
  else (m.push 0x01 ++ Array.replicate (missing - 2) 0).push 0x80

/-- The eight bytes from `i` on as a lane, the least significant first. -/
def readLane (m : Array UInt8) (i : Nat) : UInt64 :=
  (List.range 8).foldr (fun j w => (w <<< 8) ||| (m.getD (i + j) 0).toUInt64) 0

/-- Absorbs block `k`. -/
def absorb (m : Array UInt8) (a : Lanes) (k : Nat) : Lanes :=
  permute <| build fun x y =>
    if x + 5 * y < rate / 8 then lane a x y ^^^ readLane m (k * rate + 8 * (x + 5 * y))
    else lane a x y

/-- The 32 bytes of the hash of a message. -/
def hash (m : Array UInt8) : List UInt8 :=
  let m := padded m
  let a := (List.range (m.size / rate)).foldl (absorb m) (Vector.replicate 25 0)
  (List.range 32).map fun i => (lane a (i / 8) 0 >>> (8 * (i % 8)).toUInt64).toUInt8

end EvmScope.Keccak

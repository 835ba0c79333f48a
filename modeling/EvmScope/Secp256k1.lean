import EvmScope.Curve

/-!
# The curve secp256k1

The curve y² = x³ + 7 over the integers modulo a prime, and what a signature on it tells: the public
key of its signer, if it belongs to any.
-/

namespace EvmScope.Secp256k1

set_option autoImplicit false

/-- The prime modulo which coordinates are computed. -/
def prime : Nat := 0xfffffffffffffffffffffffffffffffffffffffffffffffffffffffefffffc2f

def order : Nat := 0xfffffffffffffffffffffffffffffffebaaedce6af48a03bbfd25e8cd0364141

abbrev Coordinate := Residue prime

abbrev Scalar := Residue order

/-- The point of which all others are multiples. -/
def generator : Point Coordinate :=
  .affine (.ofNat 0x79be667ef9dcbbac55a06295ce870b07029bfcdb2dce28d959f2815b16f81798)
    (.ofNat 0x483ada7726a3c4655da4fbfc0e1108a8fd17b448a68554199c47d08ffb10d4b8)

/-- The point with a first coordinate and a parity of the second, if there is one. -/
def lift? (x : Coordinate) (odd : Bool) : Option (Point Coordinate) :=
  let square := x * x * x + .ofNat 7
  let y := power 1 256 square ((prime + 1) / 4)
  if y * y ≠ square then none
  else if (y.toNat % 2 = 1) = odd then some (.affine x y)
  else some (.affine x (0 - y))

/-- The public key under which `(r, s)` signs a hash, `r` being the first coordinate of a point whose
second has the given parity. -/
def recover? (hash r s : Nat) (odd : Bool) : Option (Nat × Nat) :=
  if r = 0 ∨ order ≤ r ∨ s = 0 ∨ order ≤ s then none
  else
    (lift? (.ofNat r) odd).bind fun nonce =>
      let scale : Scalar := (Residue.ofNat r)⁻¹
      let ofHash := Point.multiple 256 ((0 - .ofNat hash) * scale).toNat generator
      let ofNonce := Point.multiple 256 (.ofNat s * scale).toNat nonce
      match ofHash.add ofNonce with
      | .infinity => none
      | .affine x y => some (x.toNat, y.toNat)

end EvmScope.Secp256k1

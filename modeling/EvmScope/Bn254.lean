import EvmScope.Curve

/-!
# The curve BN254 and its pairing

The curve y² = x³ + 3 over the integers modulo a prime, its twist over the quadratic extension of that
field, and the ate pairing of the two into the extension of degree twelve. What is asked of the pairing is
only whether a product of its values is one, which is the same for each pairing of these groups.
-/

namespace EvmScope.Bn254

set_option autoImplicit false

/-- The prime modulo which coordinates are computed. -/
def prime : Nat := 0x30644e72e131a029b85045b68181585d97816a916871ca8d3c208c16d87cfd47

/-- The number of points of the curve, and of those points of the twist that are paired. -/
def order : Nat := 0x30644e72e131a029b85045b68181585d2833e84879b9709143e1f593f0000001

abbrev Base := Residue prime

/-- `re + im * i`, where `i * i = -1`. -/
structure Quadratic where
  re : Base
  im : Base
  deriving DecidableEq

namespace Quadratic

instance : Zero Quadratic := ⟨⟨0, 0⟩⟩

instance : One Quadratic := ⟨⟨1, 0⟩⟩

instance : Add Quadratic := ⟨fun a b => ⟨a.re + b.re, a.im + b.im⟩⟩

instance : Sub Quadratic := ⟨fun a b => ⟨a.re - b.re, a.im - b.im⟩⟩

instance : Mul Quadratic := ⟨fun a b => ⟨a.re * b.re - a.im * b.im, a.re * b.im + a.im * b.re⟩⟩

instance : Inv Quadratic :=
  ⟨fun a =>
    let scale := (a.re * a.re + a.im * a.im)⁻¹
    ⟨a.re * scale, (0 - a.im) * scale⟩⟩

def ofBase (a : Base) : Quadratic := ⟨a, 0⟩

/-- `9 + i`, whose sixth root makes the extension of degree twelve. -/
def nonResidue : Quadratic := ⟨.ofNat 9, 1⟩

end Quadratic

/-- The sum of `w ^ k` times the coefficient `k`, where `w ^ 6 = 9 + i`. -/
structure Dodecic where
  coefficients : Vector Quadratic 6
  deriving DecidableEq

namespace Dodecic

instance : One Dodecic := ⟨⟨#v[1, 0, 0, 0, 0, 0]⟩⟩

/-- Coefficient `k` of a product is made of the products of coefficients whose exponents add up to `k`, or
to six more. -/
instance : Mul Dodecic :=
  ⟨fun a b =>
    ⟨Vector.ofFn fun k =>
      (List.finRange 6).foldl
        (fun sum i =>
          let product := a.coefficients[i] * b.coefficients[(6 + k.val - i.val) % 6]
          sum + if i ≤ k then product else product * Quadratic.nonResidue)
        0⟩⟩

end Dodecic

def isOnCurve (p : Point Base) : Bool :=
  p.isOn (.ofNat 3)

/-- Whether a point is one of those of the twist that are paired. -/
def isOnTwist (q : Point Quadratic) : Bool :=
  q.isOn (Quadratic.ofBase (.ofNat 3) * Quadratic.nonResidue⁻¹) &&
    Point.multiple 254 order q = .infinity

/-- The value at a point of the curve of the line through two points of the twist. Upright lines do not
count. -/
def line (p : Base × Base) (q₁ q₂ : Quadratic × Quadratic) : Dodecic :=
  match Point.slope? q₁.1 q₁.2 q₂.1 q₂.2 with
  | none => 1
  | some s => ⟨#v[.ofBase p.2, (0 - s) * .ofBase p.1, 0, s * q₁.1 - q₁.2, 0, 0]⟩

/-- The lines of the sum of two points of the twist, multiplied to a value, and the sum. -/
def advance (p : Base × Base) (value : Dodecic) (q₁ q₂ : Point Quadratic) :
    Dodecic × Point Quadratic :=
  match q₁, q₂ with
  | .affine x₁ y₁, .affine x₂ y₂ => (value * line p (x₁, y₁) (x₂, y₂), q₁.add q₂)
  | _, _ => (value, q₁.add q₂)

/-- The bits of the number whose multiple of a point the loop comes to, the highest left out. -/
def loopBits : List Bool :=
  (List.range 126).reverse.map (147946756881789318990833708069417712966 : Nat).testBit

/-- The value of the pairing of two points, but for the last power. -/
def loop (p : Point Base) (q : Point Quadratic) : Dodecic :=
  match p with
  | .infinity => 1
  | .affine x y =>
    (loopBits.foldl
      (fun (value, t) bit =>
        let (value, t) := advance (x, y) (value * value) t t
        if bit then advance (x, y) value t q else (value, t))
      ((1 : Dodecic), q)).1

/-- Whether the product of the pairings of some points is one. -/
def pairsToOne (pairs : List (Point Base × Point Quadratic)) : Bool :=
  let product := pairs.foldl (fun value (p, q) => value * loop p q) (1 : Dodecic)
  power 1 2800 product ((prime.pow 12 - 1) / order) = 1

end EvmScope.Bn254

import EvmScope.Residue

/-!
# Curves

Points of a curve y² = x³ + b, with coordinates in some field, and their addition.
-/

namespace EvmScope

set_option autoImplicit false

/-- A point of a curve; the one at infinity has no coordinates. -/
inductive Point (F : Type)
  | infinity
  | affine (x y : F)
  deriving DecidableEq

namespace Point

variable {F : Type} [Zero F] [Add F] [Sub F] [Mul F] [Inv F] [DecidableEq F]

def isOn (b : F) : Point F → Bool
  | infinity => true
  | affine x y => y * y = x * x * x + b

/-- The slope of the line through two points that meets the curve in a third one. There is none if the
line is upright. -/
def slope? (x₁ y₁ x₂ y₂ : F) : Option F :=
  if x₁ ≠ x₂ then some ((y₂ - y₁) * (x₂ - x₁)⁻¹)
  else if y₁ = y₂ ∧ y₁ ≠ 0 then some ((x₁ * x₁ + x₁ * x₁ + x₁ * x₁) * (y₁ + y₁)⁻¹)
  else none

/-- The sum of two points: the third one on their line, mirrored. -/
def add : Point F → Point F → Point F
  | infinity, q => q
  | p, infinity => p
  | affine x₁ y₁, affine x₂ y₂ =>
    match slope? x₁ y₁ x₂ y₂ with
    | none => infinity
    | some s =>
      let x := s * s - x₁ - x₂
      affine x (s * (x₁ - x) - y₁)

/-- The multiple of a point by the number that the last `bits` bits of `k` stand for. -/
def multiple : (bits : Nat) → (k : Nat) → Point F → Point F
  | 0, _, _ => infinity
  | bits + 1, k, p =>
    let rest := multiple bits (k / 2) (p.add p)
    if k % 2 = 1 then p.add rest else rest

end Point

end EvmScope

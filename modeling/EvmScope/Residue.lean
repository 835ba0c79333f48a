/-!
# Residues

Arithmetic modulo a number, and powers by repeated squaring.
-/

namespace EvmScope

set_option autoImplicit false

/-- The power of `b` to the number that the last `bits` bits of `e` stand for. -/
def power {F : Type} [Mul F] (one : F) : (bits : Nat) → (b : F) → (e : Nat) → F
  | 0, _, _ => one
  | bits + 1, b, e =>
    let rest := power one bits (b * b) (e / 2)
    if e % 2 = 1 then b * rest else rest

/-- A number modulo `m`. -/
structure Residue (m : Nat) where
  toNat : Nat
  reduced : toNat % m = toNat
  deriving DecidableEq

namespace Residue

variable {m : Nat}

def ofNat (n : Nat) : Residue m := ⟨n % m, Nat.mod_mod n m⟩

instance : Add (Residue m) := ⟨fun a b => ofNat (a.toNat + b.toNat)⟩

instance : Sub (Residue m) := ⟨fun a b => ofNat (a.toNat + (m - b.toNat))⟩

instance : Mul (Residue m) := ⟨fun a b => ofNat (a.toNat * b.toNat)⟩

instance : Zero (Residue m) := ⟨ofNat 0⟩

instance : One (Residue m) := ⟨ofNat 1⟩

/-- The inverse modulo a prime of at most 256 bits. -/
instance : Inv (Residue m) := ⟨fun a => power 1 256 a (m - 2)⟩

end Residue

end EvmScope

/-!
# Hardforks

The versions of the machine's rules, from the oldest to the newest.
-/

namespace EvmScope

set_option autoImplicit false

/-- A version of the rules. -/
inductive Hardfork
  | frontier
  | homestead
  | tangerine
  | spuriousDragon
  | byzantium
  | petersburg
  | istanbul
  | berlin
  | london
  | merge
  | shanghai
  | cancun
  deriving DecidableEq, Repr

namespace Hardfork

/-- The place of a version in the order of time. -/
def rank : Hardfork → Nat
  | frontier => 0
  | homestead => 1
  | tangerine => 2
  | spuriousDragon => 3
  | byzantium => 4
  | petersburg => 5
  | istanbul => 6
  | berlin => 7
  | london => 8
  | merge => 9
  | shanghai => 10
  | cancun => 11

/-- `a ≤ b` says that the rules of `b` include the changes made in `a`. -/
instance : LE Hardfork := ⟨fun a b => a.rank ≤ b.rank⟩

instance (a b : Hardfork) : Decidable (a ≤ b) := inferInstanceAs (Decidable (a.rank ≤ b.rank))

end Hardfork

end EvmScope

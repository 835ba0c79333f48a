import EvmScope.Address
import EvmScope.Code
import EvmScope.KeyMap

/-!
# Accounts

What the machine knows of an account during a transaction. Storage starts out as zeros; a slot is
kept once it has been read or written.
-/

namespace EvmScope

set_option autoImplicit false

/-- A storage slot that has been met in the transaction. -/
structure Slot where
  value : Word
  /-- Whether the next access pays the lower price. -/
  warm : Bool

structure Account where
  balance : Word := 0
  nonce : Nat := 0
  code : Code := Code.empty
  slots : KeyMap 256 Slot := ∅
  /-- Whether the next access pays the lower price. -/
  warm : Bool := false
  /-- Whether the account existed before the transaction or has been touched in it. -/
  present : Bool := false
  /-- Whether the transaction itself made the account. -/
  created : Bool := false
  /-- Whether the account goes away at the end of the transaction. -/
  destroyed : Bool := false

namespace Account

def absent : Account := {}

/-- Whether an account has no balance, no nonce and no code. -/
def isEmpty (a : Account) : Bool :=
  a.balance == 0 && a.nonce == 0 && a.code.isEmpty

/-- A storage slot; one that has not been met is zero and cold. -/
def slot (a : Account) (key : Word) : Slot :=
  (a.slots.get? key).getD ⟨0, false⟩

end Account

end EvmScope

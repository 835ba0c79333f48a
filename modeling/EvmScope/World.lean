import EvmScope.Hardfork
import EvmScope.World.Account

/-!
# The world

All accounts and the transient storage. A world is a plain value: a frame that fails returns to the
world it began with, and nothing of what it did has to be undone.
-/

namespace EvmScope

set_option autoImplicit false

/-- The state that all frames of a transaction share. -/
structure World where
  accounts : KeyMap 160 Account := ∅
  /-- The transient storage of each account. -/
  transient : KeyMap 160 (KeyMap 256 Word) := ∅

namespace World

def account (w : World) (a : Address) : Account :=
  (w.accounts.get? a).getD Account.absent

/-- Replaces an account by a function of it. -/
def modify (w : World) (a : Address) (f : Account → Account) : World :=
  { w with accounts := w.accounts.insert a (f (w.account a)) }

/-- Whether the next access to an account pays the higher price. -/
def isCold (w : World) (a : Address) : Bool :=
  !(w.account a).warm

def warmUp (w : World) (a : Address) : World :=
  w.modify a fun acc => { acc with warm := true }

def touch (w : World) (a : Address) : World :=
  w.modify a fun acc => { acc with present := true }

/-- Whether an account has to be made when value is sent to it: since Spurious Dragon an empty one,
before that one that has never existed. -/
def isNew (w : World) (fork : Hardfork) (a : Address) : Bool :=
  if .spuriousDragon ≤ fork then (w.account a).isEmpty else !(w.account a).present

def balance (w : World) (a : Address) : Word :=
  (w.account a).balance

/-- Adds to a balance. All balances together never exceed what a word holds. -/
def credit (w : World) (a : Address) (value : Word) : World :=
  w.modify a fun acc => { acc with balance := acc.balance + value }

def debit (w : World) (a : Address) (value : Word) : World :=
  w.modify a fun acc => { acc with balance := acc.balance - value }

/-- Moves value from one account to another, if the first has it; both are touched, of a transfer
of nothing only the second. -/
def transfer? (w : World) (source target : Address) (value : Word) : Option World :=
  if value = 0 then some (w.touch target)
  else if w.balance source < value then none
  else some (((w.debit source value).touch source).credit target value |>.touch target)

/-- The value of a storage slot, and whether the slot is cold. -/
def slot (w : World) (a : Address) (key : Word) : Slot :=
  (w.account a).slot key

/-- Sets a storage slot, which is warm from then on. -/
def setSlot (w : World) (a : Address) (key value : Word) : World :=
  w.modify a fun acc => { acc with slots := acc.slots.insert key ⟨value, true⟩ }

/-- Makes a storage slot warm without changing it. -/
def warmSlot (w : World) (a : Address) (key : Word) : World :=
  w.setSlot a key (w.slot a key).value

def transientSlot (w : World) (a : Address) (key : Word) : Word :=
  (((w.transient.get? a).getD ∅).get? key).getD 0

def setTransientSlot (w : World) (a : Address) (key value : Word) : World :=
  { w with transient := w.transient.insert a (((w.transient.get? a).getD ∅).insert key value) }

/-- Makes an account by moving `value` to it from its creator. Since Spurious Dragon its nonce begins
at one. -/
def create (w : World) (fork : Hardfork) (creator a : Address) (value : Word) : World :=
  let nonce := if .spuriousDragon ≤ fork then 1 else 0
  ((w.modify a fun acc => { acc with created := true, present := true, nonce }).credit a value).debit
    creator value

/-- Destroys an account in favour of another one, which gets its balance. Since Cancun an account
goes away only in the transaction that made it; otherwise it just gives its balance away. -/
def selfDestruct (w : World) (fork : Hardfork) (a beneficiary : Address) : World :=
  let w := if a = beneficiary then w else (w.credit beneficiary (w.balance a)).touch beneficiary
  if (w.account a).created ∨ ¬(Hardfork.cancun ≤ fork) then
    w.modify a fun acc => { acc with destroyed := true, balance := 0 }
  else if a = beneficiary then w
  else w.modify a fun acc => { acc with balance := 0 }

end World

end EvmScope

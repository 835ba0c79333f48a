import EvmScope.Keccak
import EvmScope.World

/-!
# Addresses of new accounts

A plain creation takes the address from the creator and its nonce; a salted one takes it from the
creator, the salt and the init code.
-/

namespace EvmScope.Creation

set_option autoImplicit false

/-- A number as an item of a recursive-length list: no leading zeros, and a byte for the length
unless the number is a small one. -/
def encodeNumber (n : Nat) : Bytes :=
  if n = 0 then [0x80]
  else if n < 0x80 then [UInt8.ofNat n]
  else
    let digits := (Bytes.ofNat 8 n).dropWhile (· == 0)
    UInt8.ofNat (0x80 + digits.length) :: digits

/-- The address of the account that `creator` makes when its nonce is `nonce`. -/
def address (creator : Address) (nonce : Nat) : Address :=
  let items := 0x94 :: creator.toBytes ++ encodeNumber nonce
  let list : Bytes := UInt8.ofNat (0xc0 + items.length) :: items
  Address.ofBytes (Keccak.hash list.toArray)

/-- The address of the account that `creator` makes with a salt. -/
def saltedAddress (creator : Address) (salt : Word) (initCode : Array UInt8) : Address :=
  let parts := 0xff :: creator.toBytes ++ salt.toBytes ++ Keccak.hash initCode
  Address.ofBytes (Keccak.hash parts.toArray)

end EvmScope.Creation

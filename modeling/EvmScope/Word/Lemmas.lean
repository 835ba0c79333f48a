import EvmScope.Bytes.Lemmas
import EvmScope.Word

/-!
# Laws of words

A word is known by its 32 bytes.
-/

namespace EvmScope.Word

set_option autoImplicit false

theorem ofBytes_toBytes (w : Word) : ofBytes w.toBytes = w := by
  apply BitVec.eq_of_toNat_eq
  have h : w.toNat < 256 ^ 32 := w.isLt
  rw [ofBytes, toBytes, Bytes.toNat_ofNat, BitVec.toNat_ofNat, Nat.mod_eq_of_lt h,
    Nat.mod_eq_of_lt w.isLt]

end EvmScope.Word

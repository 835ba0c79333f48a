import Mathlib.Data.List.Induction
import EvmScope.Proofs.Fields
import EvmScope.Trace.Text
import EvmScope.Word.Lemmas

/-!
# Quantities

Words are shown in three ways: with all of their 64 digits, with these digits less the zeros in
front, and with the digits of their number. All three can be read back, and so each of them tells
the word.
-/

namespace EvmScope

set_option autoImplicit false

open Text

namespace Text

theorem hexNumber?_append (s t : List Char) :
    hexNumber? (s ++ t) =
      (hexNumber? s).bind fun n => t.foldlM (fun n c => (hexValue? c).map (16 * n + ·)) n := by
  rw [hexNumber?, List.foldlM_append]
  rfl

/-- One more digit is worth sixteen times what stands in front of it. -/
theorem hexNumber?_snoc {s : List Char} {m d : Nat} (h : hexNumber? s = some m) (hd : d < 16) :
    hexNumber? (s ++ [d.digitChar]) = some (16 * m + d) := by
  rw [hexNumber?_append, h]
  simp [hexValue?_digitChar hd]

/-- The digits of a number are read back as that number. -/
theorem hexNumber?_toDigits (n : Nat) : hexNumber? (Nat.toDigits 16 n) = some n := by
  induction n using Nat.strongRecOn with
  | ind n ih =>
    by_cases hn : n < 16
    · rw [Nat.toDigits_of_lt_base hn, ← List.nil_append [_], hexNumber?_snoc rfl hn, Nat.mul_zero,
        Nat.zero_add]
    · rw [Nat.toDigits_of_base_le (by decide) (Nat.not_lt.1 hn),
        hexNumber?_snoc (ih _ (by omega)) (by omega), Nat.div_add_mod]

/-- Zeros in front do not count. -/
theorem hexNumber?_dropWhile_zero (s : List Char) :
    hexNumber? (s.dropWhile (· == '0')) = hexNumber? s := by
  induction s with
  | nil => rfl
  | cons c s ih =>
    by_cases hc : c = '0'
    · subst hc
      rw [List.dropWhile_cons_of_pos rfl, ih]
      rfl
    · rw [List.dropWhile_cons_of_neg (by simpa using hc)]

/-- The digits of a number in base sixteen are digits or small letters. -/
theorem mem_toDigits_sixteen {n : Nat} {c : Char} (h : c ∈ Nat.toDigits 16 n) :
    c ∈ "0123456789abcdef".toList := by
  have hdigit : ∀ d < 16, d.digitChar ∈ "0123456789abcdef".toList := by decide
  induction n using Nat.strongRecOn with
  | ind n ih =>
    by_cases hn : n < 16
    · rw [Nat.toDigits_of_lt_base hn, List.mem_singleton] at h
      exact h ▸ hdigit n hn
    · rw [Nat.toDigits_of_base_le (by decide) (Nat.not_lt.1 hn), List.mem_append,
        List.mem_singleton] at h
      rcases h with h | rfl
      · exact ih _ (by omega) h
      · exact hdigit _ (by omega)

theorem mem_hexPadded {width n : Nat} {c : Char} (h : c ∈ hexPadded width n) :
    c ∈ "0123456789abcdef".toList := by
  rcases List.mem_append.1 h with h | h
  · rw [List.eq_of_mem_replicate h]
    decide
  · exact mem_toDigits_sixteen h

end Text

/-- Both digits of the last byte of a byte string come last. -/
theorem Hex.hexNumber?_encode (bs : Bytes) : hexNumber? (Hex.encode bs) = some bs.toNat := by
  induction bs using List.reverseRecOn with
  | nil => rfl
  | append_singleton bs b ih =>
    have hb := b.toNat_lt
    have hsplit : Hex.encode (bs ++ [b]) =
        Hex.encode bs ++ [(b.toNat / 16).digitChar] ++ [(b.toNat % 16).digitChar] := by
      simp [Hex.encode, Hex.digits]
    rw [hsplit, hexNumber?_snoc (hexNumber?_snoc ih (by omega)) (by omega), Bytes.toNat_append,
      Bytes.toNat_singleton, List.length_singleton]
    congr 1
    omega

namespace Word

theorem toNat_toBytes (w : Word) : w.toBytes.toNat = w.toNat := by
  rw [toBytes, Bytes.toNat_ofNat, Nat.mod_eq_of_lt]
  exact w.isLt

/-- The word of a quantity: `0x` and digits of a number that fits. -/
def ofQuantity? : List Char → Option Word
  | '0' :: 'x' :: digits =>
    if digits = [] then none
    else (hexNumber? digits).bind fun n => if n < 2 ^ 256 then some (BitVec.ofNat 256 n) else none
  | _ => none

/-- Zeros in front of the digits do not change the word of a quantity. -/
theorem ofQuantity?_of_digits {digits : List Char} {w : Word} (hne : digits ≠ [])
    (h : hexNumber? digits = some w.toNat) : ofQuantity? ('0' :: 'x' :: digits) = some w := by
  rw [ofQuantity?, if_neg hne, h, Option.bind_some, if_pos w.isLt, BitVec.ofNat_toNat,
    BitVec.setWidth_eq]

/-- A quantity is read back as its word. -/
theorem ofQuantity?_quantity (w : Word) : ofQuantity? w.quantity = some w :=
  ofQuantity?_of_digits Nat.toDigits_ne_nil (hexNumber?_toDigits w.toNat)

end Word

namespace Trace

/-- The 64 digits of a word determine it. -/
theorem fullWord_injective : Function.Injective fullWord := by
  intro v w h
  rw [← Word.ofBytes_toBytes v, Hex.encode_injective h, Word.ofBytes_toBytes]

/-- A word of the stack as it is shown is a quantity of that word. -/
theorem ofQuantity?_stackWord (w : Word) : Word.ofQuantity? (stackWord w) = some w := by
  have hdigits : hexNumber? ((fullWord w).dropWhile (· == '0')) = some w.toNat := by
    rw [hexNumber?_dropWhile_zero, fullWord, Hex.hexNumber?_encode, Word.toNat_toBytes]
  rw [stackWord]
  by_cases hempty : (fullWord w).dropWhile (· == '0') = []
  · -- only zeros: the one that stays has the value of no digits
    rw [hempty] at hdigits ⊢
    exact Word.ofQuantity?_of_digits (by decide) hdigits
  · rw [if_neg (by simpa using hempty)]
    exact Word.ofQuantity?_of_digits hempty hdigits

/-- Words that are shown alike are equal. -/
theorem stackWord_injective : Function.Injective stackWord := by
  intro v w h
  exact Option.some.inj (by rw [← ofQuantity?_stackWord v, h, ofQuantity?_stackWord])

end Trace

end EvmScope

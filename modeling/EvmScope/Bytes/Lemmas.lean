import Mathlib.Algebra.Group.Nat.Defs
import EvmScope.Bytes

/-!
# Laws of byte strings

The number that a byte string stands for, in terms of its parts, and the way back: writing a number
to base 256 and reading it again gives the number back, as far as the width holds it.
-/

namespace EvmScope.Bytes

set_option autoImplicit false

/-- Reading bytes onto a number shifts that number by as many places as there are bytes. -/
theorem foldl_toNat (bs : Bytes) (n : Nat) :
    bs.foldl (fun n b => 256 * n + b.toNat) n = n * 256 ^ bs.length + toNat bs := by
  induction bs generalizing n with
  | nil => simp [toNat]
  | cons b bs ih =>
    have h : toNat (b :: bs) = b.toNat * 256 ^ bs.length + toNat bs := by
      rw [toNat, List.foldl_cons, ih]
      simp
    rw [List.foldl_cons, ih, h, List.length_cons, Nat.pow_succ, Nat.add_mul,
      Nat.mul_comm 256 n, Nat.mul_assoc, Nat.mul_comm 256, Nat.add_assoc]

theorem toNat_append (xs ys : Bytes) :
    toNat (xs ++ ys) = toNat xs * 256 ^ ys.length + toNat ys := by
  rw [toNat, List.foldl_append, foldl_toNat]
  rfl

/-- Of a number that does not fit into the bytes, the low digits are left. -/
theorem toNat_ofNat (width n : Nat) : toNat (ofNat width n) = n % 256 ^ width := by
  induction width generalizing n with
  | zero => simp [ofNat, Nat.mod_one]
  | succ width ih =>
    rw [ofNat, toNat_append, ih, toNat_singleton, Nat.pow_succ, Nat.mul_comm (256 ^ width) 256,
      Nat.mod_mul]
    simp only [List.length_singleton, Nat.pow_one, UInt8.toNat_ofNat']
    omega

theorem toNat_cons (b : UInt8) (bs : Bytes) :
    toNat (b :: bs) = b.toNat * 256 ^ bs.length + toNat bs := by
  rw [← List.singleton_append, toNat_append, toNat_singleton]

theorem toNat_lt (bs : Bytes) : toNat bs < 256 ^ bs.length := by
  induction bs with
  | nil => simp
  | cons b bs ih =>
    have hb : b.toNat + 1 ≤ 256 := b.toNat_lt
    have hmul := Nat.mul_le_mul_right (256 ^ bs.length) hb
    rw [Nat.add_mul, Nat.one_mul] at hmul
    rw [toNat_cons, List.length_cons, Nat.pow_succ]
    omega

/-- Zeros in front do not count. -/
theorem toNat_zeros_append (n : Nat) (bs : Bytes) : toNat (List.replicate n 0 ++ bs) = toNat bs := by
  induction n with
  | zero => rfl
  | succ n ih =>
    rw [List.replicate_succ, List.cons_append, toNat_cons, ih, UInt8.toNat_zero, Nat.zero_mul,
      Nat.zero_add]

/-- Byte strings of one length are told apart by their numbers. -/
theorem eq_of_toNat_eq {xs ys : Bytes} (hlength : xs.length = ys.length)
    (h : toNat xs = toNat ys) : xs = ys := by
  have hdiv : ∀ (b : UInt8) (bs : Bytes), toNat (b :: bs) / 256 ^ bs.length = b.toNat := by
    intro b bs
    rw [toNat_cons, Nat.mul_comm, Nat.mul_add_div (Nat.pow_pos (by decide)),
      Nat.div_eq_of_lt (toNat_lt bs), Nat.add_zero]
  have hmod : ∀ (b : UInt8) (bs : Bytes), toNat (b :: bs) % 256 ^ bs.length = toNat bs := by
    intro b bs
    rw [toNat_cons, Nat.mul_comm, Nat.mul_add_mod, Nat.mod_eq_of_lt (toNat_lt bs)]
  induction xs generalizing ys with
  | nil => exact (List.length_eq_zero_iff.1 hlength.symm).symm
  | cons x xs ih =>
    cases ys with
    | nil => cases hlength
    | cons y ys =>
      have hrest : xs.length = ys.length := Nat.succ.inj hlength
      have hfirst : x = y := by
        apply UInt8.toNat_inj.1
        rw [← hdiv x xs, h, hrest, hdiv]
      have htail : xs = ys := by
        apply ih hrest
        rw [← hmod x xs, h, hrest, hmod]
      rw [hfirst, htail]

/-- What a window shows of a byte string, and how many zeros stand behind it. -/
theorem toList_window (bs : Array UInt8) (start length : Nat) :
    (window bs start length).toList =
      (bs.toList.drop start).take length ++
        List.replicate (length - ((bs.toList.drop start).take length).length) 0 := by
  have hpresent : (bs.extract start (start + length)).toList =
      (bs.toList.drop start).take length := by
    rw [Array.toList_extract, List.extract_eq_take_drop, Nat.add_sub_cancel_left]
  have hsize := congrArg List.length hpresent
  rw [Array.length_toList] at hsize
  rw [window, Array.toList_append, Array.toList_replicate, hpresent, hsize]

/-- Zeros behind a string look like its end. -/
theorem getD_append_zeros (bs : Array UInt8) (n i : Nat) :
    (bs ++ Array.replicate n 0)[i]?.getD 0 = bs[i]?.getD 0 := by
  rw [Array.getElem?_append]
  split
  · rfl
  · have hended : bs.size ≤ i := by omega
    rw [Array.getElem?_eq_none hended, Array.getElem?_replicate]
    split <;> rfl

end EvmScope.Bytes

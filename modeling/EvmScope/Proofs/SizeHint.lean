import Mathlib.Algebra.Order.Floor.Div
import Mathlib.GroupTheory.GroupAction.Ring
import EvmScope.Proofs.Framing

/-!
# Bounds on what is still to come

While a cursor walks over some code it can say how many instructions are still to come, within bounds: an
instruction takes at least one byte and at most 33. The bounds hold at every point of the walk, also
behind a clipped operand, where the offset is beyond the end. Neither can be better as long as only the
number of bytes left is known: code of one byte instructions attains the upper one, and code of PUSH32
attains the lower one.
-/

namespace EvmScope

set_option autoImplicit false

namespace Cursor

/-- The upper bound is the number of bytes left, and the lower one is a 33rd of it, rounded up. -/
theorem sizeHint_eq (c : Cursor) : c.sizeHint = (c.rest.length ⌈/⌉ 33, c.rest.length) := rfl

/-- Every instruction takes a byte of what is left. -/
theorem length_instructions_le (c : Cursor) : c.instructions.length ≤ c.rest.length := by
  induction c using walk_induction with
  | ended pc => simp [instructions_nil]
  | instruction pc op tail ih =>
    simp only [advance_cons, List.length_drop] at ih
    simp only [instructions_cons, advance_cons, List.length_cons]
    omega

/-- No instruction takes more than 33 bytes of what is left. -/
theorem length_rest_le (c : Cursor) : c.rest.length ≤ 33 * c.instructions.length := by
  induction c using walk_induction with
  | ended pc => simp
  | instruction pc op tail ih =>
    have hsize := Opcode.immediateSize_le op
    simp only [advance_cons, List.length_drop] at ih
    simp only [instructions_cons, advance_cons, List.length_cons]
    omega

/-- No fewer instructions are to come than the lower bound says. -/
theorem sizeHint_fst_le (c : Cursor) : c.sizeHint.1 ≤ c.instructions.length :=
  (ceilDiv_le_iff_le_mul (by omega)).2 c.length_rest_le

theorem instructions_eq_nil_iff (c : Cursor) : c.instructions = [] ↔ c.rest = [] := by
  obtain ⟨pc, rest⟩ := c
  cases rest <;> simp [instructions_nil, instructions_cons]

/-- The lower bound is zero at the end only. -/
theorem sizeHint_fst_eq_zero_iff (c : Cursor) : c.sizeHint.1 = 0 ↔ c.instructions = [] := by
  rw [instructions_eq_nil_iff, ← List.length_eq_zero_iff, sizeHint]
  omega

/-- The upper bound is zero at the end only. -/
theorem sizeHint_snd_eq_zero_iff (c : Cursor) : c.sizeHint.2 = 0 ↔ c.instructions = [] := by
  rw [instructions_eq_nil_iff, ← List.length_eq_zero_iff, sizeHint]

/-- Each instruction lowers the upper bound. -/
theorem sizeHint_advance_lt {c : Cursor} {i : Instruction} (h : c.instruction? = some i) :
    c.advance.sizeHint.2 < c.sizeHint.2 := by
  apply length_advance_lt
  intro hended
  rw [instruction?_eq_none_iff.2 hended] at h
  cases h

/-- A cursor at the end stays there. -/
theorem iterate_advance_of_ended {c : Cursor} (h : c.rest = []) (n : Nat) : advance^[n] c = c :=
  Function.iterate_fixed (advance_of_ended h) n

/-- What is still to come behind some instructions is what the cursor there yields. -/
theorem drop_instructions (c : Cursor) (n : Nat) :
    c.instructions.drop n = (advance^[n] c).instructions := by
  induction n generalizing c with
  | zero => rfl
  | succ n ih =>
    obtain ⟨pc, rest⟩ := c
    cases rest with
    | nil => simp [iterate_advance_of_ended, instructions_nil]
    | cons op tail =>
      rw [instructions_cons, List.drop_succ_cons, ih, Function.iterate_succ_apply]

/-- Code of one opcode only has as many instructions as it takes to cover it. -/
theorem length_instructions_replicate (pc : Nat) (op : Opcode) (left : Nat) :
    (Cursor.mk pc (List.replicate left op)).instructions.length =
      left ⌈/⌉ (1 + op.immediateSize) := by
  induction left using Nat.strongRecOn generalizing pc with
  | ind left ih =>
    cases left with
    | zero => simp [instructions_nil]
    | succ left =>
      have hsize : 0 < 1 + op.immediateSize := by omega
      rw [List.replicate_succ, instructions_cons, List.length_cons, advance_cons,
        List.drop_replicate, ih _ (by omega), Nat.ceilDiv_eq_add_pred_div,
        Nat.ceilDiv_eq_add_pred_div]
      by_cases hclip : left < op.immediateSize
      · -- the only instruction, and its operand is clipped
        have hfirst : left + 1 + (1 + op.immediateSize) - 1 = left + (1 + op.immediateSize) := by omega
        rw [hfirst, Nat.add_div_right _ hsize, Nat.div_eq_of_lt (by omega),
          Nat.div_eq_of_lt (by omega)]
      · have hwhole : left + 1 + (1 + op.immediateSize) - 1 =
            left - op.immediateSize + (1 + op.immediateSize) - 1 + (1 + op.immediateSize) := by
          omega
        rw [hwhole, Nat.add_div_right _ hsize]

/-- Instructions of one byte each bring the cursor behind them. -/
theorem iterate_advance_replicate (pc n : Nat) (code : Bytes) :
    advance^[n] ⟨pc, List.replicate n Opcode.stop ++ code⟩ = ⟨pc + n, code⟩ := by
  induction n generalizing pc with
  | zero => rfl
  | succ n ih =>
    have hstep : (Cursor.mk pc (List.replicate (n + 1) Opcode.stop ++ code)).advance =
        ⟨pc + 1, List.replicate n Opcode.stop ++ code⟩ := rfl
    rw [Function.iterate_succ_apply, hstep, ih, Nat.add_assoc, Nat.add_comm 1 n]

end Cursor

/-- The instructions of some code that are still to come behind the first `n`. -/
def toCome (code : Bytes) (n : Nat) : List Instruction :=
  (instructions code).drop n

/-- What the bounds that a cursor gives are worth when the next instruction of some code has been asked
for `n` times. -/
structure Bounded (code : Bytes) (n : Nat) : Prop where
  /-- Asked once more, the cursor yields the first of those that are still to come. -/
  next : (Cursor.after code n).instruction? = (toCome code n).head?
  /-- The bounds depend on the number of bytes left; behind a clipped operand there are none. -/
  hint : (Cursor.after code n).sizeHint =
    ((code.length - (Cursor.after code n).pc) ⌈/⌉ 33, code.length - (Cursor.after code n).pc)
  lower : (Cursor.after code n).sizeHint.1 ≤ (toCome code n).length
  upper : (toCome code n).length ≤ (Cursor.after code n).sizeHint.2
  lower_eq_zero : (Cursor.after code n).sizeHint.1 = 0 ↔ toCome code n = []
  upper_eq_zero : (Cursor.after code n).sizeHint.2 = 0 ↔ toCome code n = []
  /-- The upper bound falls with each instruction that is yielded. -/
  falls : ∀ i, (Cursor.after code n).instruction? = some i →
    (Cursor.after code (n + 1)).sizeHint.2 < (Cursor.after code n).sizeHint.2
  /-- Behind the end nothing comes any more, however often the cursor is asked. -/
  ended : (Cursor.after code n).instruction? = none →
    ∀ m, n ≤ m → (Cursor.after code m).instruction? = none

theorem toCome_eq (code : Bytes) (n : Nat) : toCome code n = (Cursor.after code n).instructions :=
  Cursor.drop_instructions _ n

/-- At every point of the walk both bounds hold. -/
theorem bounded (code : Bytes) (n : Nat) : Bounded code n where
  next := by rw [toCome, List.head?_drop, getElem?_instructions]
  hint := by rw [Cursor.sizeHint_eq, Cursor.after_in code n, List.length_drop]
  lower := toCome_eq code n ▸ Cursor.sizeHint_fst_le _
  upper := toCome_eq code n ▸ Cursor.length_instructions_le _
  lower_eq_zero := toCome_eq code n ▸ Cursor.sizeHint_fst_eq_zero_iff _
  upper_eq_zero := toCome_eq code n ▸ Cursor.sizeHint_snd_eq_zero_iff _
  falls i hi := by
    rw [Cursor.after_succ]
    exact Cursor.sizeHint_advance_lt hi
  ended hnone m hm := by
    rw [← getElem?_instructions, List.getElem?_eq_none_iff] at hnone ⊢
    omega

/-- Behind `n` instructions of one byte each, code of one opcode that fills up `left` bytes. -/
def uniform (n left : Nat) (op : Opcode) : Bytes :=
  List.replicate n Opcode.stop ++ List.replicate left op

section Uniform

variable (n left : Nat) (op : Opcode)

theorem after_uniform :
    Cursor.after (uniform n left op) n = ⟨n, List.replicate left op⟩ := by
  have hwalk := Cursor.iterate_advance_replicate 0 n (List.replicate left op)
  rwa [Nat.zero_add] at hwalk

/-- In code of one opcode, the bounds are those of the bytes that are left. -/
theorem sizeHint_after_uniform :
    (Cursor.after (uniform n left op) n).sizeHint = (left ⌈/⌉ 33, left) := by
  rw [after_uniform, Cursor.sizeHint_eq, List.length_replicate]

/-- In code of one opcode, the number of instructions is that of the pieces of its length. -/
theorem length_toCome_uniform :
    (toCome (uniform n left op) n).length = left ⌈/⌉ (1 + op.immediateSize) := by
  rw [toCome_eq, after_uniform, Cursor.length_instructions_replicate]

end Uniform

/-- **The bounds on what is still to come hold at every point of the walk, and neither can be better.**
However many instructions have been asked for and however many bytes are left, there is code behind which
as few instructions are still to come as the lower bound says, and code behind which as many are as the
upper one says. -/
theorem bounds_sound_and_tight :
    (∀ (code : Bytes) (n : Nat), Bounded code n) ∧
      ∀ n left : Nat,
        (∃ code, (Cursor.after code n).sizeHint = (left ⌈/⌉ 33, left) ∧
          (toCome code n).length = left ⌈/⌉ 33) ∧
        ∃ code, (Cursor.after code n).sizeHint = (left ⌈/⌉ 33, left) ∧
          (toCome code n).length = left := by
  refine ⟨bounded, fun n left => ⟨?_, ?_⟩⟩
  · -- PUSH32 has the longest operand there is
    exact ⟨uniform n left 0x7f, sizeHint_after_uniform n left 0x7f,
      length_toCome_uniform n left 0x7f⟩
  · refine ⟨uniform n left Opcode.stop, sizeHint_after_uniform n left Opcode.stop, ?_⟩
    have hsize : 1 + Opcode.stop.immediateSize = 1 := rfl
    rw [length_toCome_uniform, hsize, Nat.ceilDiv_eq_add_pred_div]
    omega

end EvmScope

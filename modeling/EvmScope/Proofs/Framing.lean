import Mathlib.Algebra.Ring.Nat
import Mathlib.Logic.Function.Iterate
import EvmScope.Instruction

/-!
# Framing

The instructions of a piece of bytecode tile it: they begin at its start, each begins where the one
before it declares to end, and together they hold every byte once. The cursor carries one invariant,
`Cursor.In`: what is left is the code from the cursor's own offset on. A clipped operand breaks the
bookkeeping only at the end, where nothing is left to misread.
-/

namespace EvmScope

set_option autoImplicit false

/-- The opcodes with an operand are a single run. -/
theorem Opcode.isPush_iff {op : Opcode} : op.isPush = true ↔ 0x60 ≤ op ∧ op ≤ 0x7f := by
  simp [isPush]

theorem Opcode.immediateSize_of_not_isPush {op : Opcode} (h : ¬op.isPush = true) :
    op.immediateSize = 0 := by
  rw [immediateSize, if_neg h]

namespace Cursor

/-- The operand that the bytes behind an opcode give it. -/
def operand? (op : Opcode) (tail : Bytes) : Option Bytes :=
  if op.isPush then some (tail.take op.immediateSize) else none

theorem instructions_nil (pc : Nat) : (Cursor.mk pc []).instructions = [] := by
  rw [instructions]
  rfl

/-- The first instruction of code that has not ended, and those behind it. -/
theorem instructions_cons (pc : Nat) (op : Opcode) (tail : Bytes) :
    (Cursor.mk pc (op :: tail)).instructions =
      ⟨pc, op, operand? op tail⟩ :: (Cursor.mk pc (op :: tail)).advance.instructions := by
  rw [instructions]
  rfl

/-- Induction along the walk of a cursor: what holds at the end, and holds in front of an
instruction if it holds behind it, holds everywhere. -/
@[elab_as_elim] theorem walk_induction {motive : Cursor → Prop} (ended : ∀ pc, motive ⟨pc, []⟩)
    (instruction : ∀ pc op tail,
      motive (Cursor.mk pc (op :: tail)).advance → motive ⟨pc, op :: tail⟩)
    (c : Cursor) : motive c := by
  induction hn : c.rest.length using Nat.strongRecOn generalizing c with
  | ind n ih =>
    obtain ⟨pc, rest⟩ := c
    cases rest with
    | nil => exact ended pc
    | cons op tail =>
      have hlt := length_advance_lt (c := ⟨pc, op :: tail⟩) (List.cons_ne_nil _ _)
      exact instruction pc op tail (ih _ (hn ▸ hlt) _ rfl)

theorem advance_cons (pc : Nat) (op : Opcode) (tail : Bytes) :
    (Cursor.mk pc (op :: tail)).advance =
      ⟨pc + (1 + op.immediateSize), tail.drop op.immediateSize⟩ := rfl

/-- At the end of the code a cursor stays where it is. -/
theorem advance_of_ended {c : Cursor} (h : c.rest = []) : c.advance = c := by
  simp [advance, h]

/-- There is an instruction at a cursor as long as there is a byte. -/
theorem instruction?_eq_none_iff {c : Cursor} : c.instruction? = none ↔ c.rest = [] := by
  obtain ⟨pc, rest⟩ := c
  cases rest <;> simp [instruction?]

/-- The instruction at a cursor has its offset and its first byte, and takes its operand from the bytes
behind. -/
theorem instruction?_eq_some_iff {c : Cursor} {i : Instruction} :
    c.instruction? = some i ↔
      ∃ tail, c = ⟨i.pc, i.opcode :: tail⟩ ∧ i.immediate = operand? i.opcode tail := by
  obtain ⟨pc, rest⟩ := c
  obtain ⟨ipc, iop, immediate⟩ := i
  cases rest with
  | nil => simp [instruction?]
  | cons op tail =>
    simp only [instruction?, Option.some.injEq, Instruction.mk.injEq, Cursor.mk.injEq,
      List.cons.injEq]
    constructor
    · rintro ⟨rfl, rfl, himm⟩
      exact ⟨tail, ⟨rfl, rfl, rfl⟩, himm.symm⟩
    · rintro ⟨_, ⟨rfl, rfl, rfl⟩, himm⟩
      exact ⟨rfl, rfl, himm.symm⟩

/-- Asking a cursor again and again yields the instructions from it on, and nothing after them. -/
theorem getElem?_instructions (c : Cursor) (n : Nat) :
    c.instructions[n]? = (advance^[n] c).instruction? := by
  induction n generalizing c with
  | zero =>
    obtain ⟨pc, rest⟩ := c
    cases rest with
    | nil => rw [instructions_nil]; rfl
    | cons op tail => rw [instructions_cons]; rfl
  | succ n ih =>
    rw [Function.iterate_succ_apply]
    obtain ⟨pc, rest⟩ := c
    cases rest with
    | nil =>
      rw [instructions_nil, advance_of_ended rfl, ← ih, instructions_nil]
      rfl
    | cons op tail => rw [instructions_cons, List.getElem?_cons_succ, ih]

/-- What is left at a cursor is the code from its own offset on. -/
def In (code : Bytes) (c : Cursor) : Prop :=
  c.rest = code.drop c.pc

theorem In.start (code : Bytes) : In code (start code) := rfl

/-- The cursor behind an instruction is in the same code. -/
theorem In.advance {code : Bytes} {c : Cursor} (h : In code c) : In code c.advance := by
  obtain ⟨pc, rest⟩ := c
  cases rest with
  | nil => exact h
  | cons op tail =>
    have htail : tail = code.drop (pc + 1) := by
      rw [← List.drop_drop, ← h]
      rfl
    simp only [In, advance_cons, htail, List.drop_drop, Nat.add_assoc]

theorem In.iterate {code : Bytes} {c : Cursor} (h : In code c) (n : Nat) :
    In code (Cursor.advance^[n] c) := by
  induction n with
  | zero => exact h
  | succ n ih => rw [Function.iterate_succ_apply']; exact ih.advance

/-- The instruction at a cursor of a piece of code is what the code holds at its offset. -/
theorem In.instruction {code : Bytes} {c : Cursor} {i : Instruction} (h : In code c)
    (hi : c.instruction? = some i) :
    code[i.pc]? = some i.opcode ∧ i.immediate = operand? i.opcode (code.drop (i.pc + 1)) := by
  obtain ⟨tail, rfl, himm⟩ := instruction?_eq_some_iff.1 hi
  have hdrop : code.drop i.pc = i.opcode :: tail := Eq.symm h
  have htail : code.drop (i.pc + 1) = tail := by
    rw [← List.drop_drop, hdrop]
    rfl
  refine ⟨?_, by rw [himm, htail]⟩
  rw [← Nat.add_zero i.pc, ← List.getElem?_drop, hdrop]
  rfl

/-- A clipped operand reaches to the end, so nothing comes after it. -/
theorem advance_rest_of_isTruncated {c : Cursor} {i : Instruction} (hi : c.instruction? = some i)
    (ht : i.isTruncated = true) : c.advance.rest = [] := by
  obtain ⟨tail, rfl, himm⟩ := instruction?_eq_some_iff.1 hi
  rw [Instruction.isTruncated, himm] at ht
  unfold operand? at ht
  split at ht
  · next data hdata =>
    split at hdata
    · simp only [Option.some.injEq] at hdata
      subst hdata
      simp only [List.length_take, decide_eq_true_eq] at ht
      exact List.drop_eq_nil_of_le (by omega)
    · simp at hdata
  · simp at ht

/-- The declared sizes reach at least to the end, and less than a whole operand beyond it. -/
theorem sum_declaredSize (c : Cursor) :
    c.rest.length ≤ (c.instructions.map Instruction.declaredSize).sum ∧
      (c.instructions.map Instruction.declaredSize).sum ≤ c.rest.length + 32 := by
  induction c using walk_induction with
  | ended pc => simp [instructions_nil]
  | instruction pc op tail ih =>
    have hsize := Opcode.immediateSize_le op
    rw [instructions_cons]
    simp only [advance_cons, List.length_drop] at ih ⊢
    simp only [List.map_cons, List.sum_cons, Instruction.declaredSize, List.length_cons]
    by_cases hclip : tail.length < Opcode.immediateSize op
    · -- the operand is clipped, and the cursor behind it has nothing left to count
      have hnil : tail.drop (Opcode.immediateSize op) = [] := List.drop_eq_nil_of_le (by omega)
      rw [hnil, instructions_nil]
      simp only [List.map_nil, List.sum_nil]
      omega
    · omega

/-- Opcodes and operands put together again are the bytes left. -/
theorem flatMap_bytes_instructions (c : Cursor) :
    c.instructions.flatMap Instruction.bytes = c.rest := by
  induction c using walk_induction with
  | ended pc => simp [instructions_nil]
  | instruction pc op tail ih =>
    rw [instructions_cons, List.flatMap_cons, ih]
    by_cases hpush : Opcode.isPush op = true
    · simp [Instruction.bytes, operand?, hpush, advance]
    · simp [Instruction.bytes, operand?, hpush, advance, Opcode.immediateSize_of_not_isPush hpush]

end Cursor

/-- What it is for instructions to tile a piece of bytecode: every byte belongs to one of them, and
to one only. -/
structure Tiling (code : Bytes) (is : List Instruction) : Prop where
  /-- There are none exactly if there is no code. -/
  ended : is = [] ↔ code = []
  first : ∀ i, is[0]? = some i → i.pc = 0
  /-- Each begins where the one before it declares to end. -/
  next : ∀ n i j, is[n]? = some i → is[n + 1]? = some j → j.pc = i.pc + i.declaredSize
  opcode : ∀ i ∈ is, code[i.pc]? = some i.opcode
  /-- PUSH1 to PUSH32 declare as many bytes of operand as their number says, all others none. -/
  declared : ∀ i ∈ is,
    i.opcode.immediateSize =
      if 0x60 ≤ i.opcode ∧ i.opcode ≤ 0x7f then i.opcode.toNat - 0x5f else 0
  hasOperand : ∀ i ∈ is, i.immediate.isSome = true ↔ 0x60 ≤ i.opcode ∧ i.opcode ≤ 0x7f
  /-- An operand is what the code holds of the bytes behind its opcode. -/
  operand : ∀ i ∈ is, ∀ data, i.immediate = some data →
    data = code.extract (i.pc + 1) (min (i.pc + 1 + i.opcode.immediateSize) code.length)
  /-- Only the last one can be clipped. -/
  clipped : ∀ n i, is[n]? = some i → i.isTruncated = true → n + 1 = is.length
  covered : code.length ≤ (is.map Instruction.declaredSize).sum
  /-- No operand declares more than 32 bytes beyond the end. -/
  notFarBeyond : (is.map Instruction.declaredSize).sum ≤ code.length + 32
  /-- Put together again, the instructions are the code. -/
  restored : is.flatMap Instruction.bytes = code

/-- The cursor behind `n` instructions of a piece of code. -/
def Cursor.after (code : Bytes) (n : Nat) : Cursor :=
  Cursor.advance^[n] (Cursor.start code)

theorem Cursor.after_in (code : Bytes) (n : Nat) : Cursor.In code (Cursor.after code n) :=
  (Cursor.In.start code).iterate n

theorem Cursor.after_succ (code : Bytes) (n : Nat) :
    Cursor.after code (n + 1) = (Cursor.after code n).advance :=
  Function.iterate_succ_apply' _ _ _

/-- The instruction with number `n` stands at the cursor behind `n` instructions. -/
theorem getElem?_instructions (code : Bytes) (n : Nat) :
    (instructions code)[n]? = (Cursor.after code n).instruction? :=
  Cursor.getElem?_instructions _ n

/-- An instruction of a piece of code is what the code holds at its offset. -/
theorem mem_instructions {code : Bytes} {i : Instruction} (h : i ∈ instructions code) :
    code[i.pc]? = some i.opcode ∧
      i.immediate = Cursor.operand? i.opcode (code.drop (i.pc + 1)) := by
  obtain ⟨n, hn⟩ := List.mem_iff_getElem?.1 h
  rw [getElem?_instructions] at hn
  exact (Cursor.after_in code n).instruction hn

/-- Each instruction begins where the one before it declares to end. -/
theorem pc_next_instruction {code : Bytes} {n : Nat} {i j : Instruction}
    (hi : (instructions code)[n]? = some i) (hj : (instructions code)[n + 1]? = some j) :
    j.pc = i.pc + i.declaredSize := by
  rw [getElem?_instructions] at hi hj
  obtain ⟨tail, hc, -⟩ := Cursor.instruction?_eq_some_iff.1 hi
  rw [Cursor.after_succ, hc] at hj
  obtain ⟨_, hc', -⟩ := Cursor.instruction?_eq_some_iff.1 hj
  exact (congrArg Cursor.pc hc').symm

/-- Only the last instruction can be clipped. -/
theorem succ_eq_length_of_isTruncated {code : Bytes} {n : Nat} {i : Instruction}
    (hi : (instructions code)[n]? = some i) (ht : i.isTruncated = true) :
    n + 1 = (instructions code).length := by
  have hlt : n < (instructions code).length := (List.getElem?_eq_some_iff.1 hi).1
  have hend : (instructions code)[n + 1]? = none := by
    rw [getElem?_instructions, Cursor.instruction?_eq_none_iff, Cursor.after_succ]
    rw [getElem?_instructions] at hi
    exact Cursor.advance_rest_of_isTruncated hi ht
  have hle := List.getElem?_eq_none_iff.1 hend
  omega

/-- Only code without a byte has no instruction. -/
theorem instructions_eq_nil_iff {code : Bytes} : instructions code = [] ↔ code = [] := by
  cases code with
  | nil => exact ⟨fun _ => rfl, fun _ => Cursor.instructions_nil 0⟩
  | cons op tail =>
    rw [instructions, Cursor.start, Cursor.instructions_cons]
    simp

/-- PUSH1 to PUSH32 have an operand, which is cut from the bytes behind the opcode. -/
theorem immediate_eq_some_iff {code data : Bytes} {i : Instruction} (hi : i ∈ instructions code) :
    i.immediate = some data ↔
      i.opcode.isPush = true ∧ data = (code.drop (i.pc + 1)).take i.opcode.immediateSize := by
  rw [(mem_instructions hi).2, Cursor.operand?]
  split
  · next hpush => simp [hpush, eq_comm]
  · next hpush => simp [hpush]

/-- An operand is the part of the code behind its opcode, as far as it is declared and the code goes. -/
theorem immediate_eq_extract {code data : Bytes} {i : Instruction} (hi : i ∈ instructions code)
    (hdata : i.immediate = some data) :
    data = code.extract (i.pc + 1) (min (i.pc + 1 + i.opcode.immediateSize) code.length) := by
  rw [((immediate_eq_some_iff hi).1 hdata).2, List.extract_eq_take_drop, List.take_eq_take_iff,
    List.length_drop]
  omega

/-- Asking for the next instruction again and again yields, in this order and with nothing behind
them, instructions that tile the code. -/
theorem instructions_tile (code : Bytes) :
    (∀ n, (Cursor.advance^[n] (Cursor.start code)).instruction? = (instructions code)[n]?) ∧
      Tiling code (instructions code) where
  left n := (getElem?_instructions code n).symm
  right :=
    { ended := instructions_eq_nil_iff
      first := fun i hi => by
        rw [getElem?_instructions] at hi
        obtain ⟨tail, hc, -⟩ := Cursor.instruction?_eq_some_iff.1 hi
        exact (congrArg Cursor.pc hc).symm
      next := fun _ _ _ => pc_next_instruction
      opcode := fun i hi => (mem_instructions hi).1
      declared := fun i _ => by simp [Opcode.immediateSize, Opcode.isPush_iff]
      hasOperand := fun i hi => by
        rw [(mem_instructions hi).2, Cursor.operand?, ← Opcode.isPush_iff]
        split <;> simp_all
      operand := fun i hi data => immediate_eq_extract hi
      clipped := fun _ _ => succ_eq_length_of_isTruncated
      covered := (Cursor.sum_declaredSize (Cursor.start code)).1
      notFarBeyond := (Cursor.sum_declaredSize (Cursor.start code)).2
      restored := Cursor.flatMap_bytes_instructions _ }

end EvmScope

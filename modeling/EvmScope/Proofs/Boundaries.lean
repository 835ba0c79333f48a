import EvmScope.Bytes.Lemmas
import EvmScope.Code
import EvmScope.Proofs.Framing

/-!
# Boundaries

The offsets at which instructions begin, and the one at which the last of them declares to end. A
machine that stands at one of them gets to another in two ways only: over the operand that its
opcode declares, or by a jump. Jump destinations are marked by a walk of their own, which skips
operands just as the cursor does, so that no mark falls between two boundaries.
-/

namespace EvmScope

set_option autoImplicit false

namespace Cursor

/-- One of the instructions from a cursor on begins at an offset. -/
def Begins (c : Cursor) (n : Nat) : Prop :=
  ∃ i ∈ c.instructions, i.pc = n

theorem not_begins_nil (pc n : Nat) : ¬(Cursor.mk pc []).Begins n := by
  rintro ⟨i, hi, -⟩
  rw [instructions_nil] at hi
  cases hi

/-- An instruction begins at a cursor, or behind the first one. -/
theorem begins_cons_iff {pc n : Nat} {op : Opcode} {tail : Bytes} :
    (Cursor.mk pc (op :: tail)).Begins n ↔
      n = pc ∨ (Cursor.mk pc (op :: tail)).advance.Begins n := by
  rw [Begins, instructions_cons, Begins]
  simp [eq_comm]

/-- No instruction from a cursor on begins in front of it. -/
theorem Begins.le {c : Cursor} {n : Nat} (h : c.Begins n) : c.pc ≤ n := by
  induction c using walk_induction with
  | ended pc => exact absurd h (not_begins_nil pc n)
  | instruction pc op tail ih =>
    rcases begins_cons_iff.1 h with rfl | h
    · exact Nat.le_refl _
    · exact Nat.le_trans (Nat.le_add_right _ _) (ih h)

/-- Behind an instruction another one begins, or it was the last one. -/
theorem next_boundary {c : Cursor} {i : Instruction} (hi : i ∈ c.instructions) :
    c.Begins (i.pc + i.declaredSize) ∨
      i.pc + i.declaredSize = c.pc + (c.instructions.map Instruction.declaredSize).sum := by
  induction c using walk_induction with
  | ended pc =>
    rw [instructions_nil] at hi
    cases hi
  | instruction pc op tail ih =>
    rw [instructions_cons, List.map_cons, List.sum_cons]
    rw [instructions_cons] at hi
    rcases List.mem_cons.1 hi with rfl | hi
    · simp only [Instruction.declaredSize, advance_cons]
      cases hrest : tail.drop (Opcode.immediateSize op) with
      | nil =>
        rw [instructions_nil]
        exact .inr rfl
      | cons op' tail' =>
        refine .inl (begins_cons_iff.2 (.inr ?_))
        rw [advance_cons, hrest]
        exact begins_cons_iff.2 (.inl rfl)
    · rcases ih hi with hbegins | heq
      · exact .inl (begins_cons_iff.2 (.inr hbegins))
      · refine .inr (heq.trans ?_)
        simp only [advance_cons, Instruction.declaredSize]
        omega

end Cursor

/-- The marks behind an operand are those of the code behind it. -/
theorem getElem?_jumpMarks {skip k : Nat} {code : Bytes}
    (h : (jumpMarks skip code)[k]? = some true) :
    skip ≤ k ∧ (jumpMarks 0 (code.drop skip))[k - skip]? = some true := by
  induction skip generalizing code k with
  | zero => exact ⟨Nat.zero_le k, h⟩
  | succ skip ih =>
    cases code with
    | nil => simp [jumpMarks] at h
    | cons b code =>
      cases k with
      | zero => simp [jumpMarks] at h
      | succ k =>
        obtain ⟨hle, hmark⟩ := ih h
        refine ⟨Nat.succ_le_succ hle, ?_⟩
        rwa [List.drop_succ_cons, Nat.add_sub_add_right]

/-- An instruction begins wherever a jump may end. -/
theorem Cursor.begins_of_marked {c : Cursor} {k : Nat} (h : (jumpMarks 0 c.rest)[k]? = some true) :
    c.Begins (c.pc + k) := by
  induction c using walk_induction generalizing k with
  | ended pc => simp [jumpMarks] at h
  | instruction pc op tail ih =>
    cases k with
    | zero => exact begins_cons_iff.2 (.inl rfl)
    | succ k =>
      have htail : (jumpMarks (Opcode.immediateSize op) tail)[k]? = some true := h
      obtain ⟨hle, hmark⟩ := getElem?_jumpMarks htail
      have hbegins := ih hmark
      rw [advance_cons] at hbegins
      rw [show pc + (1 + Opcode.immediateSize op) + (k - Opcode.immediateSize op) = pc + (k + 1) by
        omega] at hbegins
      exact begins_cons_iff.2 (.inr hbegins)

/-- An instruction of a piece of code begins at an offset. -/
def Begins (code : Bytes) (n : Nat) : Prop :=
  ∃ i ∈ instructions code, i.pc = n

/-- The opcode at which an instruction begins is the opcode of that instruction. -/
theorem Begins.exists_opcode {code : Bytes} {n : Nat} (h : Begins code n) (hn : n < code.length) :
    ∃ i ∈ instructions code, i.opcode = code[n] := by
  obtain ⟨i, hi, rfl⟩ := h
  have hop := (mem_instructions hi).1
  rw [List.getElem?_eq_getElem hn] at hop
  exact ⟨i, hi, (Option.some.inj hop).symm⟩

/-- The offset at which the last instruction of a piece of code declares to end. -/
def declaredEnd (code : Bytes) : Nat :=
  ((instructions code).map Instruction.declaredSize).sum

/-- An instruction of a piece of code begins at an offset, or the last one declares to end there. -/
def Borders (code : Bytes) (n : Nat) : Prop :=
  Begins code n ∨ n = declaredEnd code

theorem borders_zero (code : Bytes) : Borders code 0 := by
  cases code with
  | nil => exact .inr (by rw [declaredEnd, instructions_eq_nil_iff.2 rfl]; rfl)
  | cons op tail => exact .inl (Cursor.begins_cons_iff.2 (.inl rfl))

/-- The end that an instruction declares is a boundary, also for the last one. -/
theorem borders_next {code : Bytes} {i : Instruction} (hi : i ∈ instructions code) :
    Borders code (i.pc + i.declaredSize) := by
  have h := Cursor.next_boundary hi
  rwa [show (Cursor.start code).pc = 0 from rfl, Nat.zero_add] at h

section Code

variable {code : Bytes} {i : Instruction}

/-- Jumps end where the disassembly has an instruction, never within an operand. -/
theorem begins_of_isJumpdest {n : Nat} (h : (Code.ofBytes code.toArray).isJumpdest n = true) :
    Begins code n := by
  have hmark : (jumpMarks 0 code)[n]? = some true := by
    simpa [Code.isJumpdest, Code.ofBytes, Array.getD_eq_getD_getElem?, Option.getD_eq_iff] using h
  have hbegins := Cursor.begins_of_marked (c := Cursor.start code) hmark
  rwa [show (Cursor.start code).pc + n = n from Nat.zero_add n] at hbegins

/-- A frame that stands at an instruction of the disassembly finds the opcode of that instruction there. -/
theorem opcodeAt_of_mem (hi : i ∈ instructions code) :
    (Code.ofBytes code.toArray).opcodeAt i.pc = i.opcode := by
  simp [Code.opcodeAt, Array.getD_eq_getD_getElem?, (mem_instructions hi).1]

/-- What runs behind the last instruction is STOP, whether or not its operand is clipped. -/
theorem opcodeAt_declaredEnd : (Code.ofBytes code.toArray).opcodeAt (declaredEnd code) = .stop := by
  have hcovered : code.length ≤ declaredEnd code := (Cursor.sum_declaredSize (.start code)).1
  simp [Code.opcodeAt, Array.getD_eq_getD_getElem?, List.getElem?_eq_none hcovered]

/-- A machine reads a clipped operand with zeros in the place of what is missing. -/
theorem operandAt_of_mem {data : Bytes} (hi : i ∈ instructions code)
    (hdata : i.immediate = some data) :
    (Code.ofBytes code.toArray).operandAt (i.pc + 1) i.opcode.immediateSize =
      data ++ List.replicate (i.opcode.immediateSize - data.length) 0 := by
  have htake := ((immediate_eq_some_iff hi).1 hdata).2
  rw [Code.operandAt, Bytes.toList_window, Code.bytes_ofBytes, htake]

end Code

end EvmScope

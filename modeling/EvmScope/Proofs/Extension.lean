import EvmScope.Proofs.Framing

/-!
# Extension

What becomes of the instructions of a piece of bytecode when more bytes follow it. An instruction whose
operand is whole does not notice. A clipped one takes what it lacks from the bytes that follow, so the
framing behind it is another one; but only the last instruction can be clipped, so nothing that was
there before moves. Code without a clipped operand can be put in front of any other code.
-/

namespace EvmScope

set_option autoImplicit false

namespace Instruction

/-- An instruction at a place further on. -/
def shift (distance : Nat) (i : Instruction) : Instruction :=
  { i with pc := i.pc + distance }

/-- An instruction with what its operand lacks taken from the bytes that follow, as far as they go. -/
def completed (more : Bytes) (i : Instruction) : Instruction :=
  { i with
    immediate := i.immediate.map fun data =>
      data ++ more.take (i.opcode.immediateSize - data.length) }

/-- A whole operand lacks nothing. -/
theorem completed_of_whole {i : Instruction} (h : i.isTruncated = false) (more : Bytes) :
    i.completed more = i := by
  obtain ⟨pc, op, immediate⟩ := i
  cases immediate with
  | none => rfl
  | some data =>
    have hwhole : op.immediateSize ≤ data.length := by simpa [isTruncated] using h
    simp [completed, Nat.sub_eq_zero_of_le hwhole]

/-- Only an operand can be clipped. -/
theorem completed_of_clipped {i : Instruction} (h : i.isTruncated = true) (more : Bytes) :
    ∃ data, i.immediate = some data ∧
      i.completed more =
        { i with immediate := some (data ++ more.take (i.opcode.immediateSize - data.length)) } := by
  obtain ⟨pc, op, immediate⟩ := i
  cases immediate with
  | none => simp [isTruncated] at h
  | some data => exact ⟨data, rfl, rfl⟩

end Instruction

namespace Cursor

/-- A cursor with more bytes behind those that are left. -/
def extend (c : Cursor) (more : Bytes) : Cursor :=
  ⟨c.pc, c.rest ++ more⟩

theorem extend_cons (pc : Nat) (op : Opcode) (tail more : Bytes) :
    (Cursor.mk pc (op :: tail)).extend more = ⟨pc, op :: (tail ++ more)⟩ := rfl

/-- An instruction is whole exactly if the bytes behind its opcode are enough. -/
theorem immediateSize_le_of_whole {pc : Nat} {op : Opcode} {tail : Bytes}
    (h : (Instruction.mk pc op (operand? op tail)).isTruncated = false) :
    op.immediateSize ≤ tail.length := by
  unfold operand? at h
  split at h
  · have hle : op.immediateSize ≤ (tail.take op.immediateSize).length := by
      simpa [Instruction.isTruncated] using h
    rw [List.length_take] at hle
    omega
  · next hpush =>
    rw [Opcode.immediateSize_of_not_isPush hpush]
    omega

/-- With more bytes behind it, an instruction is completed. -/
theorem completed_operand (pc : Nat) (op : Opcode) (tail more : Bytes) :
    (Instruction.mk pc op (operand? op tail)).completed more =
      ⟨pc, op, operand? op (tail ++ more)⟩ := by
  unfold operand? Instruction.completed
  split
  · have hlack : op.immediateSize - (tail.take op.immediateSize).length =
        op.immediateSize - tail.length := by
      rw [List.length_take]
      omega
    simp only [Option.map_some, hlack, List.take_append]
  · rfl

/-- Behind a whole instruction, the bytes that follow still follow. -/
theorem advance_extend {pc : Nat} {op : Opcode} {tail : Bytes}
    (h : op.immediateSize ≤ tail.length) (more : Bytes) :
    ((Cursor.mk pc (op :: tail)).extend more).advance =
      (Cursor.mk pc (op :: tail)).advance.extend more := by
  rw [extend_cons, advance_cons, advance_cons, extend, List.drop_append_of_le_length h]

/-- Each instruction lives on in its place, completed by the bytes that follow. -/
theorem getElem?_instructions_extend {c : Cursor} {n : Nat} {i : Instruction}
    (h : c.instructions[n]? = some i) (more : Bytes) :
    (c.extend more).instructions[n]? = some (i.completed more) := by
  induction c using walk_induction generalizing n with
  | ended pc => simp [instructions_nil] at h
  | instruction pc op tail ih =>
    rw [instructions_cons] at h
    rw [extend_cons, instructions_cons]
    cases n with
    | zero =>
      obtain rfl := Option.some.inj h
      rw [completed_operand]
      rfl
    | succ n =>
      rw [List.getElem?_cons_succ] at h ⊢
      -- the operand is whole, since another instruction follows it
      have hwhole : Opcode.immediateSize op ≤ tail.length := by
        apply Nat.le_of_not_lt
        intro hclipped
        have hnil : tail.drop (Opcode.immediateSize op) = [] := List.drop_eq_nil_of_le (by omega)
        rw [advance_cons, hnil, instructions_nil] at h
        cases h
      rw [← extend_cons, advance_extend hwhole]
      exact ih h

/-- Whole instructions are followed by those of the bytes that follow. -/
theorem instructions_extend {c : Cursor} (h : ∀ i ∈ c.instructions, i.isTruncated = false)
    (more : Bytes) :
    (c.extend more).instructions =
      c.instructions ++ (Cursor.mk (c.pc + c.rest.length) more).instructions := by
  induction c using walk_induction with
  | ended pc => simp [instructions_nil, extend]
  | instruction pc op tail ih =>
    rw [instructions_cons, List.forall_mem_cons] at h
    have hwhole := immediateSize_le_of_whole h.1
    have hfirst := Instruction.completed_of_whole h.1 more
    have hend : pc + (1 + Opcode.immediateSize op) + (tail.drop (Opcode.immediateSize op)).length =
        pc + (op :: tail).length := by
      simp only [List.length_drop, List.length_cons]
      omega
    rw [completed_operand] at hfirst
    rw [extend_cons, instructions_cons, hfirst, ← extend_cons, advance_extend hwhole, ih h.2,
      instructions_cons, List.cons_append]
    simp only [advance_cons, hend]

/-- Where a cursor stands shows in nothing but the offsets. -/
theorem instructions_shift (c : Cursor) (distance : Nat) :
    (Cursor.mk (c.pc + distance) c.rest).instructions =
      c.instructions.map (·.shift distance) := by
  induction c using walk_induction with
  | ended pc => simp [instructions_nil]
  | instruction pc op tail ih =>
    have hplace : pc + distance + (1 + Opcode.immediateSize op) =
        pc + (1 + Opcode.immediateSize op) + distance := by omega
    rw [instructions_cons, instructions_cons, List.map_cons, ← ih]
    simp only [advance_cons, hplace]
    rfl

end Cursor

/-- What it is for the instructions of some code to live on when bytes follow it. -/
structure Extension (code more : Bytes) : Prop where
  /-- A whole instruction stays as it is and where it is. -/
  whole : ∀ (n : Nat) (i : Instruction), (instructions code)[n]? = some i →
    i.isTruncated = false → (instructions (code ++ more))[n]? = some i
  /-- A clipped one keeps its place and its opcode, and its operand goes on in the bytes that follow
  until it is as long as declared or they end. -/
  clipped : ∀ (n : Nat) (i : Instruction), (instructions code)[n]? = some i →
    i.isTruncated = true → ∃ data, i.immediate = some data ∧
      (instructions (code ++ more))[n]? =
        some { i with immediate := some (data ++ more.take (i.opcode.immediateSize - data.length)) }
  /-- Behind whole instructions those of the bytes that follow begin afresh. -/
  apart : (∀ i ∈ instructions code, i.isTruncated = false) →
    instructions (code ++ more) =
      instructions code ++ (instructions more).map (·.shift code.length)

/-- **Bytes that follow a piece of code complete its last instruction and change none of the others**,
and if there is nothing to complete, the code and the bytes are framed each for itself. -/
theorem instructions_append (code more : Bytes) : Extension code more := by
  constructor
  · intro n i hi hwhole
    have hcompleted := Cursor.getElem?_instructions_extend hi more
    rwa [Instruction.completed_of_whole hwhole] at hcompleted
  · intro n i hi hclipped
    have hcompleted := Cursor.getElem?_instructions_extend hi more
    obtain ⟨data, hdata, heq⟩ := Instruction.completed_of_clipped hclipped more
    rw [heq] at hcompleted
    exact ⟨data, hdata, hcompleted⟩
  · intro hwhole
    calc
      instructions (code ++ more) =
          instructions code ++ (Cursor.mk (0 + code.length) more).instructions :=
        Cursor.instructions_extend hwhole more
      _ = instructions code ++ (instructions more).map (·.shift code.length) :=
        congrArg (instructions code ++ ·) (Cursor.instructions_shift (.start more) code.length)

/-- A PUSH3 that is cut off behind its first byte, and gets one more. -/
theorem clipped_push_extended :
    (instructions [0x00, 0x62, 0x01])[1]? = some ⟨1, 0x62, some [0x01]⟩ ∧
      (instructions ([0x00, 0x62, 0x01] ++ [0x02]))[1]? = some ⟨1, 0x62, some [0x01, 0x02]⟩ := by
  have hpush : (instructions [0x00, 0x62, 0x01])[1]? = some ⟨1, 0x62, some [0x01]⟩ := by
    rw [getElem?_instructions]
    rfl
  obtain ⟨data, hdata, hextended⟩ :=
    (instructions_append [0x00, 0x62, 0x01] [0x02]).clipped 1 _ hpush rfl
  obtain rfl := Option.some.inj hdata
  exact ⟨hpush, hextended⟩

end EvmScope

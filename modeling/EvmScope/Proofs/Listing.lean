import Mathlib.Data.List.Forall2
import Mathlib.Data.Set.Function
import EvmScope.Proofs.Fields
import EvmScope.Proofs.Boundaries
import EvmScope.Proofs.Mnemonic

/-!
# What a listing tells

A listing gives the bytecode back except for which of the undefined opcodes stands at a place. Two
readings meet in this: the text is read line by line, and both pieces of code are walked in step,
since an undefined opcode has no operand and so leaves the framing alone.
-/

namespace EvmScope

set_option autoImplicit false

/-- Opcodes that a listing does not tell apart: equal ones, and undefined ones. -/
def Opcode.Alike (op op' : Opcode) : Prop :=
  op = op' ∨ (op.mnemonic? = none ∧ op'.mnemonic? = none)

theorem Opcode.Alike.isPush_eq {op op' : Opcode} (h : op.Alike op') : op.isPush = op'.isPush := by
  rcases h with rfl | ⟨h, h'⟩
  · rfl
  · have hpush := fun hp => mnemonic?_ne_none_of_isPush hp h
    have hpush' := fun hp => mnemonic?_ne_none_of_isPush hp h'
    rw [Bool.eq_false_iff.2 hpush, Bool.eq_false_iff.2 hpush']

/-- Opcodes that a listing does not tell apart have operands of the same length: undefined ones have none. -/
theorem Opcode.Alike.immediateSize_eq {op op' : Opcode} (h : op.Alike op') :
    op.immediateSize = op'.immediateSize := by
  rcases h with rfl | ⟨hop, hop'⟩
  · rfl
  · rw [immediateSize_of_not_isPush fun hp => mnemonic?_ne_none_of_isPush hp hop,
      immediateSize_of_not_isPush fun hp => mnemonic?_ne_none_of_isPush hp hop']

namespace Instruction

/-- Instructions that a listing does not tell apart. -/
structure Alike (i j : Instruction) : Prop where
  pc : i.pc = j.pc
  opcode : i.opcode.Alike j.opcode
  immediate : i.immediate = j.immediate

/-- The operand as the last field of a line. -/
def operandText (data : Bytes) : List Char :=
  '0' :: 'x' :: Hex.encode data

/-- The last field of a line determines the operand. -/
theorem operandText_injective : Function.Injective operandText := by
  intro data data' h
  exact Hex.encode_injective (List.cons.inj (List.cons.inj h).2).2

/-- A line by its parts: the offset in brackets, the mnemonic, and the operand if there is one. -/
theorem text_eq (i : Instruction) :
    i.text = '[' :: (Text.decimalPadded 4 i.pc ++
      ']' :: ' ' :: (i.name.toList ++ (i.immediate.map operandText).elim [] (' ' :: ·))) := by
  obtain ⟨pc, op, immediate⟩ := i
  cases immediate <;> simp [text, operandText]

theorem newline_not_mem_text (i : Instruction) : '\n' ∉ i.text := by
  have hpc : '\n' ∉ Text.decimalPadded 4 i.pc := fun h =>
    absurd (Text.isDigit_of_mem_decimalPadded h) (by decide)
  have hname : '\n' ∉ i.name.toList := fun h =>
    absurd (Opcode.isAlphanum_of_mem_name h) (by decide)
  have hoperand : ∀ data, '\n' ∉ Hex.encode data := fun data h =>
    absurd (Hex.mem_encode h) (by decide)
  rw [text_eq]
  cases i.immediate <;> simp [hpc, hname, hoperand, operandText]

/-- A line tells the offset, the name and the operand. -/
theorem text_inj {i j : Instruction} (h : i.text = j.text) :
    i.pc = j.pc ∧ i.name = j.name ∧ i.immediate = j.immediate := by
  have hbracket : ∀ n, ']' ∉ Text.decimalPadded 4 n := fun n hc =>
    absurd (Text.isDigit_of_mem_decimalPadded hc) (by decide)
  have hblank : ∀ i : Instruction, ' ' ∉ i.name.toList := fun i hc =>
    absurd (Opcode.isAlphanum_of_mem_name hc) (by decide)
  rw [text_eq, text_eq] at h
  obtain ⟨hpc, hrest⟩ :=
    Text.append_cons_inj (hbracket i.pc) (hbracket j.pc) (List.cons.inj h).2
  obtain ⟨hname, hoperand⟩ :=
    Text.append_optional_inj (hblank i) (hblank j) (List.cons.inj hrest).2
  exact ⟨Text.decimalPadded_inj hpc, String.toList_injective hname,
    Option.map_injective operandText_injective hoperand⟩

/-- Two lines are equal just when a listing does not tell their instructions apart. -/
theorem text_eq_text_iff {i j : Instruction} : i.text = j.text ↔ i.Alike j := by
  constructor
  · intro h
    obtain ⟨hpc, hname, himm⟩ := text_inj h
    exact ⟨hpc, Opcode.name_eq_name_iff.1 hname, himm⟩
  · rintro ⟨hpc, hop, himm⟩
    have hname : i.name = j.name := Opcode.name_eq_name_iff.2 hop
    rw [text_eq, text_eq, hpc, hname, himm]

end Instruction

/-- Equal listings are lists of instructions that a listing does not tell apart. -/
theorem listing_eq_listing_iff_forall₂ {a b : Bytes} :
    listing a = listing b ↔
      List.Forall₂ Instruction.Alike (instructions a) (instructions b) := by
  have hlines : ∀ is : List Instruction, ∀ l ∈ is.map Instruction.text, '\n' ∉ l := by
    intro is l hl
    obtain ⟨i, -, rfl⟩ := List.mem_map.1 hl
    exact i.newline_not_mem_text
  have hlisting : ∀ code, listing code =
      ((instructions code).map Instruction.text).flatMap (· ++ ['\n']) := fun code => by
    rw [listing, List.flatMap_map]
  have hmap : (instructions a).map Instruction.text = (instructions b).map Instruction.text ↔
      List.Forall₂ Instruction.Alike (instructions a) (instructions b) := by
    rw [← List.forall₂_eq_eq_eq, List.forall₂_map_left_iff, List.forall₂_map_right_iff]
    simp only [Instruction.text_eq_text_iff]
  rw [hlisting, hlisting, ← hmap]
  exact ⟨Text.lines_inj (hlines _) (hlines _), fun h => by rw [h]⟩

namespace Cursor

/-- The same number of bytes is left at two cursors, and byte by byte they are equal, or both are
undefined opcodes. -/
structure Alike (c d : Cursor) : Prop where
  length : c.rest.length = d.rest.length
  byte : ∀ k x y, c.rest[k]? = some x → d.rest[k]? = some y →
    x = y ∨ (c.Begins (c.pc + k) ∧ d.Begins (d.pc + k) ∧
      Opcode.mnemonic? x = none ∧ Opcode.mnemonic? y = none)

theorem alike_nil (pc pc' : Nat) : (Cursor.mk pc []).Alike ⟨pc', []⟩ :=
  ⟨rfl, fun _ _ _ hx => by simp at hx⟩

variable {pc : Nat} {op op' : Opcode} {tail tail' : Bytes}

/-- The bytes of an operand are not where an instruction begins, so they are equal. -/
theorem Alike.operand (h : (Cursor.mk pc (op :: tail)).Alike ⟨pc, op' :: tail'⟩) :
    tail.take op.immediateSize = tail'.take op.immediateSize := by
  have hlen : tail.length = tail'.length := Nat.succ.inj h.length
  apply List.ext_getElem?
  intro k
  rw [List.getElem?_take, List.getElem?_take]
  by_cases hk : k < Opcode.immediateSize op
  · rw [if_pos hk, if_pos hk]
    by_cases hlt : k < tail.length
    · have hx := List.getElem?_eq_getElem hlt
      have hy := List.getElem?_eq_getElem (hlen ▸ hlt)
      rw [hx, hy]
      rcases h.byte (k + 1) _ _ hx hy with heq | ⟨hbegins, -⟩
      · rw [heq]
      · rcases begins_cons_iff.1 hbegins with heq | hbegins
        · simp at heq
        · have hle := hbegins.le
          simp only [advance_cons] at hle
          omega
    · rw [List.getElem?_eq_none (by omega), List.getElem?_eq_none (by omega)]
  · rw [if_neg hk, if_neg hk]

theorem Alike.opcode (h : (Cursor.mk pc (op :: tail)).Alike ⟨pc, op' :: tail'⟩) :
    Opcode.Alike op op' := by
  rcases h.byte 0 op op' rfl rfl with heq | ⟨-, -, hop, hop'⟩
  · exact .inl heq
  · exact .inr ⟨hop, hop'⟩

/-- Behind alike opcodes with equal operands, cursors are alike again. -/
theorem Alike.advance (h : (Cursor.mk pc (op :: tail)).Alike ⟨pc, op' :: tail'⟩) :
    (Cursor.mk pc (op :: tail)).advance.Alike (Cursor.mk pc (op' :: tail')).advance := by
  have hlen : tail.length = tail'.length := Nat.succ.inj h.length
  have hsize := h.opcode.immediateSize_eq
  refine ⟨by simp [advance_cons, hsize, hlen], fun k x y hx hy => ?_⟩
  simp only [advance_cons, ← hsize, List.getElem?_drop] at hx hy ⊢
  have hbehind : ∀ (o : Opcode) (t : Bytes),
      (Cursor.mk pc (o :: t)).Begins (pc + (op.immediateSize + k + 1)) →
        (Cursor.mk pc (o :: t)).advance.Begins (pc + (1 + op.immediateSize) + k) := by
    intro o t hb
    rcases begins_cons_iff.1 hb with heq | hb
    · omega
    · rwa [show pc + (1 + op.immediateSize) + k = pc + (op.immediateSize + k + 1) by omega]
  rcases h.byte (Opcode.immediateSize op + k + 1) x y hx hy with heq | ⟨hb, hb', hundef⟩
  · exact .inl heq
  · have hb'' := hbehind _ _ hb'
    rw [advance_cons, ← hsize] at hb''
    exact .inr ⟨hbehind _ _ hb, hb'', hundef⟩

/-- Cursors are alike in front of alike instructions if they are alike behind them. -/
theorem Alike.of_advance (hop : Opcode.Alike op op')
    (hoperand : operand? op tail = operand? op' tail')
    (h : (Cursor.mk pc (op :: tail)).advance.Alike (Cursor.mk pc (op' :: tail')).advance) :
    (Cursor.mk pc (op :: tail)).Alike ⟨pc, op' :: tail'⟩ := by
  have hsize := hop.immediateSize_eq
  have htake : tail.take op.immediateSize = tail'.take op.immediateSize := by
    by_cases hpush : op.isPush = true
    · rw [operand?, operand?, ← hop.isPush_eq, ← hsize, if_pos hpush, if_pos hpush] at hoperand
      exact Option.some.inj hoperand
    · rw [Opcode.immediateSize_of_not_isPush hpush]
      rfl
  have hlen : tail.length = tail'.length := by
    have hdrop := h.length
    have hfront := congrArg List.length htake
    simp only [advance_cons, ← hsize, List.length_drop, List.length_take] at hdrop hfront
    omega
  refine ⟨by simp [hlen], fun k x y hx hy => ?_⟩
  cases k with
  | zero =>
    obtain rfl : op = x := Option.some.inj hx
    obtain rfl : op' = y := Option.some.inj hy
    rcases hop with heq | hundef
    · exact .inl heq
    · exact .inr ⟨begins_cons_iff.2 (.inl rfl), begins_cons_iff.2 (.inl rfl), hundef⟩
  | succ k =>
    rw [List.getElem?_cons_succ] at hx hy
    by_cases hk : k < Opcode.immediateSize op
    · -- within the operand
      have heq := congrArg (fun bs => bs[k]?) htake
      simp only [List.getElem?_take, if_pos hk, hx, hy] at heq
      exact .inl (Option.some.inj heq)
    · have hsplit : k = Opcode.immediateSize op + (k - Opcode.immediateSize op) := by omega
      have hoffset : pc + (k + 1) = pc + (1 + op.immediateSize) + (k - op.immediateSize) := by omega
      rw [hsplit, ← List.getElem?_drop] at hx hy
      rcases h.byte (k - Opcode.immediateSize op) x y hx (hsize ▸ hy) with heq | ⟨hb, hb', hundef⟩
      · exact .inl heq
      · rw [hoffset]
        refine .inr ⟨begins_cons_iff.2 (.inr hb), begins_cons_iff.2 (.inr ?_), hundef⟩
        rwa [advance_cons, ← hsize] at hb' ⊢

/-- Behind opcodes that look alike, the next instructions have the same offset. -/
theorem advance_pc_eq (pc : Nat) (tail tail' : Bytes) (hop : Opcode.Alike op op') :
    (Cursor.mk pc (op :: tail)).advance.pc = (Cursor.mk pc (op' :: tail')).advance.pc := by
  rw [advance_cons, advance_cons, hop.immediateSize_eq]

/-- Walking over two pieces of code in step: the instructions are alike exactly if the bytes are. -/
theorem forall₂_alike_iff (c d : Cursor) (hpc : c.pc = d.pc) :
    List.Forall₂ Instruction.Alike c.instructions d.instructions ↔ c.Alike d := by
  induction c using walk_induction generalizing d with
  | ended pc =>
    obtain ⟨pc', rest⟩ := d
    cases rest with
    | nil => simp [instructions_nil, alike_nil]
    | cons op' tail' =>
      rw [instructions_nil, instructions_cons]
      exact ⟨nofun, fun h => absurd h.length (by simp)⟩
  | instruction pc op tail ih =>
    obtain ⟨pc', rest⟩ := d
    obtain rfl : pc = pc' := hpc
    cases rest with
    | nil =>
      rw [instructions_nil, instructions_cons]
      exact ⟨nofun, fun h => absurd h.length (by simp)⟩
    | cons op' tail' =>
      rw [instructions_cons, instructions_cons, List.forall₂_cons]
      constructor
      · rintro ⟨hhead, hrest⟩
        have hnext := advance_pc_eq pc tail tail' hhead.opcode
        exact .of_advance hhead.opcode hhead.immediate ((ih _ hnext).1 hrest)
      · intro h
        have hnext := advance_pc_eq pc tail tail' h.opcode
        refine ⟨⟨rfl, h.opcode, ?_⟩, (ih _ hnext).2 h.advance⟩
        simp only [operand?, ← h.opcode.isPush_eq, ← h.opcode.immediateSize_eq, h.operand]

end Cursor

/-- What it is for two pieces of code to look alike, byte by byte: they differ at undefined opcodes only. -/
theorem alike_start_iff {a b : Bytes} :
    (Cursor.start a).Alike (Cursor.start b) ↔
      a.length = b.length ∧ ∀ n (ha : n < a.length) (hb : n < b.length),
        a[n] = b[n] ∨ (Begins a n ∧ Begins b n ∧
          Opcode.mnemonic? a[n] = none ∧ Opcode.mnemonic? b[n] = none) := by
  have hbegins : ∀ (code : Bytes) (n : Nat),
      (Cursor.start code).Begins ((Cursor.start code).pc + n) ↔ Begins code n := fun code n => by
    rw [show (Cursor.start code).pc + n = n from Nat.zero_add n]
    rfl
  constructor
  · rintro ⟨hlen, hbyte⟩
    refine ⟨hlen, fun n ha hb => ?_⟩
    have hn := hbyte n _ _ (List.getElem?_eq_getElem ha) (List.getElem?_eq_getElem hb)
    rwa [hbegins, hbegins] at hn
  · rintro ⟨hlen, hbyte⟩
    refine ⟨hlen, fun n x y hx hy => ?_⟩
    obtain ⟨ha, rfl⟩ := List.getElem?_eq_some_iff.1 hx
    obtain ⟨hb, rfl⟩ := List.getElem?_eq_some_iff.1 hy
    rw [hbegins, hbegins]
    exact hbyte n ha hb

/-- Two pieces of code have the same listing just when they look alike from their start on. -/
theorem listing_eq_listing_iff_alike {a b : Bytes} :
    listing a = listing b ↔ (Cursor.start a).Alike (Cursor.start b) :=
  listing_eq_listing_iff_forall₂.trans (Cursor.forall₂_alike_iff _ _ rfl)

/-- Two pieces of code have one listing exactly if they have the same length and differ only where
an instruction begins in both and neither of its opcodes is defined. So code of defined opcodes can
be read off its listing. -/
theorem listing_determines_code :
    (∀ a b : Bytes, listing a = listing b ↔
      a.length = b.length ∧ ∀ n (ha : n < a.length) (hb : n < b.length),
        a[n] = b[n] ∨ (Begins a n ∧ Begins b n ∧
          Opcode.mnemonic? a[n] = none ∧ Opcode.mnemonic? b[n] = none)) ∧
      Set.InjOn listing {code | ∀ i ∈ instructions code, i.opcode.mnemonic? ≠ none} := by
  constructor
  · intro a b
    rw [listing_eq_listing_iff_alike, alike_start_iff]
  · intro a hdefined b _ h
    obtain ⟨hlen, hbyte⟩ := alike_start_iff.1 (listing_eq_listing_iff_alike.1 h)
    refine List.ext_getElem hlen fun n ha hb => ?_
    rcases hbyte n ha hb with heq | ⟨hbegins, -, hundef, -⟩
    · exact heq
    · obtain ⟨i, hi, hop⟩ := hbegins.exists_opcode ha
      exact absurd (hop ▸ hundef) (hdefined i hi)

end EvmScope

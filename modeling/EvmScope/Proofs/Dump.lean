import EvmScope.Hex.Dump
import EvmScope.Proofs.Fields
import EvmScope.Proofs.Quantities

/-!
# What a dump tells

A dump is a row of lines, and each line tells its bytes: the digits of a byte stand in a place of
their own, where a missing byte leaves blanks. So a dump tells the whole byte string, whatever its
printable characters look like.
-/

namespace EvmScope.Hex

set_option autoImplicit false

open Text

/-- The line for at most sixteen bytes at an offset, without its end. -/
def dumpRow (offset : Nat) (row : Bytes) : List Char :=
  hexPadded 8 offset ++ [' ', ' '] ++ group row 0 ++ group row 8 ++
    '|' :: row.map printable ++ ['|']

theorem dumpLine_eq (offset : Nat) (row : Bytes) :
    dumpLine offset row = dumpRow offset row ++ ['\n'] := by
  simp [dumpLine, dumpRow]

/-- The lines for bytes that begin at an offset, without their ends. -/
def dumpRows (offset : Nat) (bs : Bytes) : List (List Char) :=
  if bs = [] then []
  else dumpRow offset (bs.take lineLength) :: dumpRows (offset + lineLength) (bs.drop lineLength)
termination_by bs.length
decreasing_by
  have : 0 < bs.length := List.length_pos_iff.2 (by assumption)
  simp [lineLength]
  omega

theorem dumpRows_nil (offset : Nat) : dumpRows offset [] = [] := by
  rw [dumpRows, if_pos rfl]

/-- The first line holds the first sixteen bytes, and the others are those of the rest. -/
theorem dumpRows_of_ne_nil (offset : Nat) {bs : Bytes} (hne : bs ≠ []) :
    dumpRows offset bs = dumpRow offset (bs.take lineLength) ::
      dumpRows (offset + lineLength) (bs.drop lineLength) := by
  rw [dumpRows, if_neg hne]

/-- All lines have the form of a row. -/
theorem exists_of_mem_dumpRows {offset : Nat} {bs : Bytes} {line : List Char}
    (h : line ∈ dumpRows offset bs) : ∃ offset row, line = dumpRow offset row := by
  fun_induction dumpRows offset bs with
  | case1 => cases h
  | case2 offset bs hne ih =>
    rcases List.mem_cons.1 h with rfl | h
    · exact ⟨_, _, rfl⟩
    · exact ih h

/-- The text of a dump is its lines, each with an end. -/
theorem dumpFrom_eq (offset : Nat) (bs : Bytes) :
    dumpFrom offset bs = (dumpRows offset bs).flatMap (· ++ ['\n']) := by
  fun_induction dumpFrom offset bs with
  | case1 => rw [dumpRows_nil, List.flatMap_nil]
  | case2 offset bs hne ih =>
    rw [dumpRows_of_ne_nil offset hne, List.flatMap_cons, dumpLine_eq, ih]

theorem digits_injective : Function.Injective digits := by
  intro a b h
  have hread := readPairs?_digits a []
  rw [h, readPairs?_digits b []] at hread
  simpa [readPairs?] using hread.symm

@[simp] theorem length_cell (b : Option UInt8) : (cell b).length = 3 := by
  cases b <;> rfl

/-- A place tells its byte, or that there is none. -/
theorem cell_injective : Function.Injective cell := by
  have hdigit : ∀ b : UInt8, cell (some b) ≠ cell none := by
    intro b h
    have hmem : ' ' ∈ encode [b] := by
      have hhead := (List.cons.inj h).1
      simp [encode, digits, hhead]
    exact absurd (mem_encode hmem) (by decide)
  intro a b h
  cases a with
  | none =>
    cases b with
    | none => rfl
    | some b => exact absurd h.symm (hdigit b)
  | some a =>
    cases b with
    | none => exact absurd h (hdigit a)
    | some b => rw [digits_injective (List.append_cancel_right h)]

/-- Equal rows of places hold equal bytes. -/
theorem cells_inj {row row' : Bytes} {places : List Nat} {s s' : List Char}
    (h : places.flatMap (fun i => cell row[i]?) ++ s =
      places.flatMap (fun i => cell row'[i]?) ++ s') :
    (∀ i ∈ places, row[i]? = row'[i]?) ∧ s = s' := by
  induction places with
  | nil => exact ⟨by simp, h⟩
  | cons i places ih =>
    simp only [List.flatMap_cons, List.append_assoc] at h
    obtain ⟨hcell, hrest⟩ := List.append_inj h (by simp)
    obtain ⟨hplaces, hs⟩ := ih hrest
    exact ⟨List.forall_mem_cons.2 ⟨cell_injective hcell, hplaces⟩, hs⟩

/-- A line tells its bytes. -/
theorem dumpRow_inj {offset : Nat} {row row' : Bytes} (hrow : row.length ≤ lineLength)
    (hrow' : row'.length ≤ lineLength) (h : dumpRow offset row = dumpRow offset row') :
    row = row' := by
  simp only [dumpRow, group, List.append_assoc, List.cons_append] at h
  have hdigits := List.append_cancel_left h
  simp only [List.nil_append, List.cons.injEq, true_and] at hdigits
  obtain ⟨hfirst, hrest⟩ := cells_inj hdigits
  obtain ⟨hsecond, -⟩ := cells_inj (List.cons.inj hrest).2
  apply List.ext_getElem?
  intro i
  by_cases hi : i < 8
  · exact hfirst i (by simp [hi])
  · by_cases hi' : i < lineLength
    · exact hsecond i (by simp [lineLength] at hi' ⊢; omega)
    · rw [List.getElem?_eq_none (by omega), List.getElem?_eq_none (by omega)]

/-- The lines of a dump determine its bytes. -/
theorem dumpRows_injective (offset : Nat) : Function.Injective (dumpRows offset) := by
  intro bs bs' h
  fun_induction dumpRows offset bs generalizing bs' with
  | case1 offset =>
    by_cases hne : bs' = []
    · exact hne.symm
    · rw [dumpRows_of_ne_nil offset hne] at h
      cases h
  | case2 offset bs hne ih =>
    by_cases hne' : bs' = []
    · rw [hne', dumpRows_nil] at h
      cases h
    · rw [dumpRows_of_ne_nil offset hne'] at h
      obtain ⟨hrow, hrest⟩ := List.cons.inj h
      have hlength : ∀ bs : Bytes, (bs.take lineLength).length ≤ lineLength := fun bs =>
        List.length_take_le _ _
      rw [← List.take_append_drop lineLength bs, ih hrest,
        dumpRow_inj (hlength _) (hlength _) hrow, List.take_append_drop]

theorem printable_ne_newline (b : UInt8) : printable b ≠ '\n' := by
  have hall : ∀ n < 256, printable (UInt8.ofNat n) ≠ '\n' := by decide +kernel
  have hb := hall b.toNat b.toNat_lt
  rwa [UInt8.ofNat_toNat] at hb

/-- A row has no newline in it, since bytes that cannot be printed are shown as dots. -/
theorem newline_not_mem_dumpRow (offset : Nat) (row : Bytes) : '\n' ∉ dumpRow offset row := by
  have hoffset : '\n' ∉ hexPadded 8 offset := fun h => absurd (mem_hexPadded h) (by decide)
  have hcell : ∀ b, '\n' ∉ cell b := by
    rintro (_ | b) h
    · exact absurd h (by decide)
    · rcases List.mem_append.1 h with h | h
      · have hmem : '\n' ∈ encode [b] := by simpa [encode] using h
        exact absurd (mem_encode hmem) (by decide)
      · exact absurd h (by decide)
  simp [dumpRow, group, hoffset, hcell, printable_ne_newline]

end EvmScope.Hex

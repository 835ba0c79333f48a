import EvmScope.Proofs.Dump

/-!
# The layout of a dump

Everything in a dump has its column: the offset, the digits of each of sixteen bytes, and the bars around
the printable characters. A byte that is missing leaves its columns blank, so a line that is not full looks
like one that is. A dump splits at its newlines into its lines whatever the bytes are, and since a line
depends on what stands before it by its offset only, dumps of whole lines can be put together.
-/

namespace EvmScope

set_option autoImplicit false

namespace Text

/-- The lines of a text. What stands behind the last newline is none. -/
def lines (s : List Char) : List (List Char) :=
  (s.splitOn '\n').dropLast

/-- Lines that have been put together are found again. -/
theorem lines_flatMap {ls : List (List Char)} (h : ∀ l ∈ ls, '\n' ∉ l) :
    lines (ls.flatMap (· ++ ['\n'])) = ls := by
  have hsplit : (ls.flatMap (· ++ ['\n'])).splitOn '\n' = ls ++ [[]] := by
    induction ls with
    | nil => simp
    | cons l ls ih =>
      rw [List.forall_mem_cons] at h
      rw [List.flatMap_cons, List.append_assoc, List.singleton_append,
        List.splitOn_append_cons_self_of_not_mem h.1, ih h.2, List.cons_append]
  rw [lines, hsplit, List.dropLast_concat]

/-- A number that fits is padded to the width, and not beyond it. -/
theorem length_hexPadded {width n : Nat} (hwidth : 0 < width) (h : n < 16 ^ width) :
    (hexPadded width n).length = width := by
  have hle := (Nat.length_toDigits_le_iff (by decide) hwidth).2 h
  simp only [hexPadded, padLeft, List.length_append, List.length_replicate]
  omega

/-- The zeros in front do not count. -/
theorem hexNumber?_hexPadded (width n : Nat) : hexNumber? (hexPadded width n) = some n := by
  have hzeros : ∀ (k : Nat) (s : List Char),
      (List.replicate k '0' ++ s).dropWhile (· == '0') = s.dropWhile (· == '0') := by
    intro k s
    apply List.dropWhile_append_of_pos
    intro c hc
    simp [List.eq_of_mem_replicate hc]
  rw [hexPadded, padLeft, ← hexNumber?_dropWhile_zero, hzeros, hexNumber?_dropWhile_zero,
    hexNumber?_toDigits]

end Text

namespace Hex

open Text

/-- The column of the first digit of a byte. Between the two groups of eight there is a gap. -/
def column (place : Nat) : Nat :=
  if place < 8 then 10 + 3 * place else 11 + 3 * place

/-- What stands in the columns of a line for at most sixteen bytes at an offset. -/
structure LaidOut (offset : Nat) (row : Bytes) (text : List Char) : Prop where
  /-- The offset has eight digits, all of them lowercase. -/
  offset_digits : (text.take 8).length = 8 ∧ ∀ c ∈ text.take 8, c ∈ "0123456789abcdef".toList
  offset_value : hexNumber? (text.take 8) = some offset
  margin : (text.drop 8).take 2 = [' ', ' ']
  /-- The digits of a byte are in its own columns, and if it is missing these are blank. -/
  places : ∀ j < 16, (text.drop (column j)).take 3 = row[j]?.elim [' ', ' '] digits ++ [' ']
  gaps : text[34]? = some ' ' ∧ text[59]? = some ' '
  opening : text[60]? = some '|'
  /-- Each byte is shown as the character that it is, if this can be printed, and otherwise as a dot. -/
  shown : ∀ j b, row[j]? = some b →
    text[61 + j]? = some (if 0x20 ≤ b ∧ b ≤ 0x7e then Char.ofNat b.toNat else '.')
  closing : text[61 + row.length]? = some '|'
  ended : text.length = 62 + row.length

section Columns

variable {row : Bytes}

theorem length_cells (row : Bytes) (places : List Nat) :
    (places.flatMap fun i => cell row[i]?).length = 3 * places.length := by
  induction places with
  | nil => rfl
  | cons i places ih =>
    rw [List.flatMap_cons, List.length_append, length_cell, ih, List.length_cons]
    omega

@[simp] theorem length_group (row : Bytes) (first : Nat) : (group row first).length = 25 := by
  rw [group, List.length_append, length_cells, List.length_range', List.length_singleton]

/-- Every place of a group is three columns wide. -/
theorem take_drop_cells {places : List Nat} {i place : Nat} (h : places[i]? = some place)
    (rest : List Char) :
    (((places.flatMap fun i => cell row[i]?) ++ rest).drop (3 * i)).take 3 = cell row[place]? := by
  induction places generalizing i with
  | nil => simp at h
  | cons p places ih =>
    rw [List.flatMap_cons, List.append_assoc]
    cases i with
    | zero =>
      obtain rfl : p = place := by simpa using h
      rw [Nat.mul_zero, List.drop_zero, List.take_left' (length_cell _)]
    | succ i =>
      rw [Nat.mul_succ, Nat.add_comm, ← List.drop_drop, List.drop_left' (length_cell _)]
      exact ih (by simpa using h)

/-- The cell of a byte stands three characters behind that of the byte in front of it. -/
theorem take_drop_group {first i : Nat} (h : i < 8) (rest : List Char) :
    ((group row first ++ rest).drop (3 * i)).take 3 = cell row[first + i]? := by
  rw [group, List.append_assoc]
  apply take_drop_cells
  simp [h]

/-- The gap behind a group is a blank. -/
theorem getElem?_group_gap (first : Nat) (rest : List Char) :
    (group row first ++ rest)[24]? = some ' ' := by
  have hlength := length_cells row (List.range' first 8)
  rw [List.length_range'] at hlength
  rw [group, List.append_assoc, List.getElem?_append_right (by omega), hlength]
  rfl

theorem cell_eq (b : Option UInt8) : cell b = b.elim [' ', ' '] digits ++ [' '] := by
  cases b <;> rfl

end Columns

section Lines

variable {offset : Nat} {row : Bytes}

/-- The printable characters of a line, between bars. -/
def bars (row : Bytes) : List Char :=
  '|' :: (row.map printable ++ ['|'])

/-- A row by its parts: the offset, two groups of eight cells, and the characters. -/
theorem dumpRow_eq (offset : Nat) (row : Bytes) :
    dumpRow offset row =
      hexPadded 8 offset ++ ([' ', ' '] ++ (group row 0 ++ (group row 8 ++ bars row))) := by
  simp [dumpRow, bars]

/-- A row has its layout whenever the offset fits into eight digits. -/
theorem laidOut_dumpRow (row : Bytes) (hoffset : offset < 16 ^ 8) :
    LaidOut offset row (dumpRow offset row) := by
  have hdigits : (hexPadded 8 offset).length = 8 := length_hexPadded (by decide) hoffset
  have hfirst : (dumpRow offset row).take 8 = hexPadded 8 offset := by
    rw [dumpRow_eq, List.take_left' hdigits]
  -- the line from each of its parts on
  have h8 : (dumpRow offset row).drop 8 =
      [' ', ' '] ++ (group row 0 ++ (group row 8 ++ bars row)) := by
    rw [dumpRow_eq, List.drop_left' hdigits]
  have h10 : (dumpRow offset row).drop 10 = group row 0 ++ (group row 8 ++ bars row) := by
    rw [← List.drop_drop (i := 2) (j := 8), h8]
    rfl
  have h35 : (dumpRow offset row).drop 35 = group row 8 ++ bars row := by
    rw [← List.drop_drop (i := 25) (j := 10), h10, List.drop_left' (length_group _ _)]
  have h60 : (dumpRow offset row).drop 60 = bars row := by
    rw [← List.drop_drop (i := 25) (j := 35), h35, List.drop_left' (length_group _ _)]
  have hat : ∀ n, (dumpRow offset row)[60 + n]? = (bars row)[n]? := by
    intro n
    rw [← h60, List.getElem?_drop]
  constructor
  · rw [hfirst]
    exact ⟨hdigits, fun c hc => mem_hexPadded hc⟩
  · rw [hfirst, hexNumber?_hexPadded]
  · rw [h8]
    rfl
  · intro j hj
    rw [← cell_eq]
    unfold column
    split
    · next hj' =>
      rw [← List.drop_drop, h10, take_drop_group hj', Nat.zero_add]
    · next hj' =>
      have hcolumn : 11 + 3 * j = 35 + 3 * (j - 8) := by omega
      have hplace : 8 + (j - 8) = j := by omega
      rw [hcolumn, ← List.drop_drop, h35, take_drop_group (by omega), hplace]
  · have h34 : (dumpRow offset row)[10 + 24]? = some ' ' := by
      rw [← List.getElem?_drop, h10, getElem?_group_gap]
    have h59 : (dumpRow offset row)[35 + 24]? = some ' ' := by
      rw [← List.getElem?_drop, h35, getElem?_group_gap]
    exact ⟨h34, h59⟩
  · exact hat 0
  · intro j b hb
    have hlt : j < row.length := (List.getElem?_eq_some_iff.1 hb).1
    rw [Nat.add_right_comm 60 1 j, Nat.add_assoc, hat, bars, List.getElem?_cons_succ,
      List.getElem?_append_left (by simpa using hlt), List.getElem?_map, hb]
    rfl
  · rw [Nat.add_right_comm 60 1, Nat.add_assoc, hat, bars, List.getElem?_cons_succ,
      List.getElem?_append_right (by simp)]
    simp
  · rw [dumpRow_eq]
    simp only [List.length_append, hdigits, length_group, bars, List.length_cons, List.length_map,
      List.length_nil]
    omega

/-- A line with a larger offset. The offset is what stands in front of the first blank. -/
def raised (distance : Nat) (line : List Char) : List Char :=
  hexPadded 8 ((hexNumber? (line.takeWhile (· != ' '))).getD 0 + distance) ++
    line.dropWhile (· != ' ')

/-- The same bytes further on have the same row, but for the offset. -/
theorem raised_dumpRow (offset distance : Nat) (row : Bytes) :
    raised distance (dumpRow offset row) = dumpRow (offset + distance) row := by
  have hdigits : ∀ c ∈ hexPadded 8 offset, (c != ' ') = true := by
    intro c hc
    have hmem := mem_hexPadded hc
    apply bne_iff_ne.2
    rintro rfl
    exact absurd hmem (by decide)
  rw [dumpRow_eq, dumpRow_eq, raised, List.takeWhile_append_of_pos hdigits,
    List.dropWhile_append_of_pos hdigits]
  simp [hexNumber?_hexPadded]

end Lines

section Dumps

variable {bs : Bytes}

/-- There is a line for each sixteen bytes that have begun. -/
theorem length_dumpRows (offset : Nat) (bs : Bytes) :
    (dumpRows offset bs).length = (bs.length + 15) / 16 := by
  fun_induction dumpRows offset bs with
  | case1 => rfl
  | case2 offset bs hne ih =>
    have hpos : 0 < bs.length := List.length_pos_iff.2 hne
    rw [List.length_cons, ih, List.length_drop, lineLength]
    omega

/-- The bytes of each line, and where they begin. -/
theorem getElem?_dumpRows {offset k : Nat} {line : List Char}
    (h : (dumpRows offset bs)[k]? = some line) :
    16 * k < bs.length ∧ line = dumpRow (offset + 16 * k) ((bs.drop (16 * k)).take 16) := by
  fun_induction dumpRows offset bs generalizing k with
  | case1 => simp at h
  | case2 offset bs hne ih =>
    cases k with
    | zero =>
      have hpos : 0 < bs.length := List.length_pos_iff.2 hne
      obtain rfl := Option.some.inj h
      exact ⟨hpos, rfl⟩
    | succ k =>
      rw [List.getElem?_cons_succ] at h
      obtain ⟨hlt, rfl⟩ := ih h
      rw [List.length_drop, lineLength] at hlt
      have hplace : 16 + 16 * k = 16 * (k + 1) := by omega
      refine ⟨by omega, ?_⟩
      rw [List.drop_drop, lineLength, Nat.add_assoc, hplace]

/-- Full lines are followed by the lines of the bytes that follow. -/
theorem dumpRows_append {a : Bytes} (h : 16 ∣ a.length) (offset : Nat) (b : Bytes) :
    dumpRows offset (a ++ b) = dumpRows offset a ++ dumpRows (offset + a.length) b := by
  fun_induction dumpRows offset a with
  | case1 => simp
  | case2 offset a hne ih =>
    have hpos : 0 < a.length := List.length_pos_iff.2 hne
    have hfull : lineLength ≤ a.length := Nat.le_of_dvd hpos h
    have hrest : 16 ∣ (a.drop lineLength).length := by
      rw [List.length_drop, lineLength]
      omega
    have hend : offset + lineLength + (a.drop lineLength).length = offset + a.length := by
      rw [List.length_drop]
      omega
    rw [dumpRows_of_ne_nil offset (List.append_ne_nil_of_left_ne_nil hne b),
      List.take_append_of_le_length hfull, List.drop_append_of_le_length hfull, ih hrest, hend,
      List.cons_append]

/-- Where bytes begin shows in nothing but the offsets. -/
theorem dumpRows_add (offset distance : Nat) (bs : Bytes) :
    dumpRows (offset + distance) bs = (dumpRows offset bs).map (raised distance) := by
  fun_induction dumpRows offset bs with
  | case1 => rw [dumpRows_nil, List.map_nil]
  | case2 offset bs hne ih =>
    rw [dumpRows_of_ne_nil _ hne, List.map_cons, raised_dumpRow, ← ih, Nat.add_right_comm]

theorem newline_not_mem_dumpRows (offset : Nat) (bs : Bytes) :
    ∀ line ∈ dumpRows offset bs, '\n' ∉ line := by
  intro line hline
  obtain ⟨offset', row, rfl⟩ := exists_of_mem_dumpRows hline
  exact newline_not_mem_dumpRow offset' row

/-- A dump is the text of its lines from the offset zero on. -/
theorem dump_eq (bs : Bytes) : dump bs = (dumpRows 0 bs).flatMap (· ++ ['\n']) :=
  dumpFrom_eq 0 bs

/-- A dump splits at its newlines just where its lines end. -/
theorem lines_dump (bs : Bytes) : lines (dump bs) = dumpRows 0 bs := by
  rw [dump_eq, lines_flatMap (newline_not_mem_dumpRows 0 bs)]

/-- A dump determines its bytes. -/
theorem dump_injective : Function.Injective dump := by
  intro a b h
  have hlines := congrArg lines h
  rw [lines_dump, lines_dump] at hlines
  exact dumpRows_injective 0 hlines

/-- **A dump has a fixed layout and loses nothing.** It is made of whole lines, one for sixteen bytes each,
and every one of them is laid out alike; different byte strings have different dumps; and behind full
lines the dump of what follows goes on with its offsets raised. -/
theorem dump_layout :
    (∀ bs : Bytes, bs.length ≤ 2 ^ 32 →
      dump bs = (lines (dump bs)).flatMap (· ++ ['\n']) ∧
        (lines (dump bs)).length = (bs.length + 15) / 16 ∧
        ∀ k line, (lines (dump bs))[k]? = some line →
          LaidOut (16 * k) ((bs.drop (16 * k)).take 16) line) ∧
      Function.Injective dump ∧
      ∀ a b : Bytes, 16 ∣ a.length →
        dump (a ++ b) = dump a ++ (lines (dump b)).flatMap (raised a.length · ++ ['\n']) := by
  refine ⟨fun bs hlength => ⟨?_, ?_, fun k line hline => ?_⟩, dump_injective, fun a b hfull => ?_⟩
  · rw [lines_dump, dump_eq]
  · rw [lines_dump, length_dumpRows]
  · rw [lines_dump] at hline
    obtain ⟨hlt, rfl⟩ := getElem?_dumpRows hline
    rw [Nat.zero_add]
    apply laidOut_dumpRow
    omega
  · rw [lines_dump, dump_eq, dump_eq, dumpRows_append hfull, dumpRows_add, List.flatMap_append,
      List.flatMap_map]

/-- Bytes that are bars themselves, and a newline on a line of its own. -/
theorem delimiters_laidOut :
    let bs : Bytes := List.replicate 16 0x7c ++ [0x0a]
    let second := "00000010  0a                                                |.|".toList
    bs.length ≤ 2 ^ 32 ∧ (lines (dump bs))[1]? = some second ∧ LaidOut 16 [0x0a] second := by
  intro bs second
  have hlength : bs.length ≤ 2 ^ 32 := by decide
  have hsecond : (lines (dump bs))[1]? = some second := by
    rw [lines_dump, dumpRows_of_ne_nil 0 (by decide), List.getElem?_cons_succ,
      dumpRows_of_ne_nil _ (by decide)]
    decide +kernel
  exact ⟨hlength, hsecond, (dump_layout.1 bs hlength).2.2 1 second hsecond⟩

end Dumps

end Hex

end EvmScope

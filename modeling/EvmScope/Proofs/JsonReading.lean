import EvmScope.Json.Reader
import EvmScope.Proofs.Quantities

/-!
# Reading JSON back

Every value can be read from its text: strings whatever characters they hold, numbers since they are
ended by a mark, and lists and members by what can be read of each of them. The text of a value is
one line.
-/

namespace EvmScope.JsonValue

set_option autoImplicit false

open Text

/-! ## Marks and numbers -/

theorem skipBlanks_cons {c : Char} (hc : isBlank c = false) (s : List Char) :
    skipBlanks (c :: s) = c :: s :=
  List.dropWhile_cons_of_neg (by simp [hc])

theorem skipMark?_self {mark : Char} (hmark : isBlank mark = false) (s : List Char) :
    skipMark? mark (mark :: s) = some s := by
  rw [skipMark?, skipBlanks_cons hmark]
  exact if_pos rfl

theorem skipMark?_of_ne {mark c : Char} (hc : isBlank c = false) (hne : c ≠ mark) (s : List Char) :
    skipMark? mark (c :: s) = none := by
  rw [skipMark?, skipBlanks_cons hc]
  exact if_neg hne

theorem isBlank_of_isDigit {c : Char} (h : c.isDigit = true) : isBlank c = false := by
  refine Bool.eq_false_iff.2 fun hblank => ?_
  simp only [isBlank, Bool.or_eq_true, decide_eq_true_eq] at hblank
  rcases hblank with ((rfl | rfl) | rfl) | rfl <;> exact absurd h (by decide)

/-- What may follow a number: no further digit. -/
def Ends (rest : List Char) : Prop :=
  ∀ c ∈ rest.head?, c.isDigit = false

theorem ends_nil : Ends [] := nofun

/-- A number is over in front of anything that is no digit. -/
theorem ends_cons {c : Char} (hc : c.isDigit = false) (s : List Char) : Ends (c :: s) := by
  rintro _ ⟨⟩
  exact hc

theorem exists_decimal_eq_cons (n : Nat) : ∃ c s, decimal n = c :: s ∧ c.isDigit = true := by
  obtain ⟨c, s, hcs⟩ := List.exists_cons_of_ne_nil (Nat.toDigits_ne_nil : decimal n ≠ [])
  have hmem : c ∈ decimal n := by
    rw [decimal, hcs]
    exact List.mem_cons_self
  exact ⟨c, s, hcs, isDigit_of_mem_decimal hmem⟩

/-- A number begins with a zero only if it is zero. -/
theorem eq_zero_of_head?_decimal {n : Nat} (h : (decimal n).head? = some '0') : n = 0 := by
  induction n using Nat.strongRecOn with
  | ind n ih =>
    have hdigit : ∀ d < 10, d.digitChar = '0' → d = 0 := by decide
    by_cases hn : n < 10
    · rw [decimal, Nat.toDigits_of_lt_base hn] at h
      exact hdigit n hn (Option.some.inj h)
    · have hhead : (decimal (n / 10)).head? = some '0' := by
        obtain ⟨c, s, hcs, -⟩ := exists_decimal_eq_cons (n / 10)
        rw [decimal, Nat.toDigits_of_base_le (by decide) (Nat.not_lt.1 hn), ← decimal, hcs] at h
        rwa [hcs]
      have hzero := ih (n / 10) (by omega) hhead
      omega

/-- A number is read to its end, and no further. -/
theorem readNumber?_decimal (n : Nat) {rest : List Char} (hrest : Ends rest) :
    readNumber? (decimal n ++ rest) = some (n, rest) := by
  have hdigits : ∀ c ∈ decimal n, c.isDigit = true := fun c hc => isDigit_of_mem_decimal hc
  have htake : rest.takeWhile Char.isDigit = [] := by
    cases rest with
    | nil => rfl
    | cons c rest => exact List.takeWhile_cons_of_neg (by simp [hrest c rfl])
  have hdrop : rest.dropWhile Char.isDigit = rest := by
    have hsplit := List.takeWhile_append_dropWhile (p := Char.isDigit) (l := rest)
    rwa [htake, List.nil_append] at hsplit
  have hzero : ¬(decimal n = [] ∨ ((decimal n).head? = some '0' ∧ decimal n ≠ ['0'])) := by
    rintro (hnil | ⟨hhead, hne⟩)
    · exact Nat.toDigits_ne_nil hnil
    · rw [eq_zero_of_head?_decimal hhead] at hne
      exact hne rfl
  have hvalue : Nat.ofDigitChars 10 (decimal n) 0 = n := Nat.ofDigitChars_ten_toDigits
  simp only [readNumber?]
  rw [List.takeWhile_append_of_pos hdigits, htake, List.append_nil, if_neg hzero, hvalue,
    List.dropWhile_append_of_pos hdigits, hdrop]

/-! ## Strings -/

/-- A control character is read back from its code. -/
theorem readString?_code {c : Char} (h : c.toNat < 0x20) (s : List Char) :
    readString? ('\\' :: 'u' :: (hexPadded 4 c.toNat ++ s)) =
      addChar? (some c) (readString? s) := by
  have hdigits : ∀ n < 0x20, hexPadded 4 n =
      ['0', '0', (n / 16).digitChar, (n % 16).digitChar] := by decide
  have hread : ∀ n < 0x20, ofCode? ['0', '0', (n / 16).digitChar, (n % 16).digitChar] =
      some (Char.ofNat n) := by decide
  rw [hdigits _ h, List.cons_append, List.cons_append, List.cons_append, List.singleton_append,
    readString?, hread _ h, Char.ofNat_toNat]

/-- A character that needs no escape stands for itself. -/
theorem readString?_plain {c : Char} (hquote : c ≠ '"') (hslash : c ≠ '\\')
    (hprintable : ¬c.toNat < 0x20) (s : List Char) :
    readString? (c :: s) = addChar? (some c) (readString? s) := by
  rw [readString?, if_neg hprintable]
  · exact hquote
  · exact fun _ _ _ _ _ h _ => hslash h
  · exact fun _ _ h _ => hslash h

/-- A character is read back from its escape. -/
theorem readString?_escape (c : Char) (s : List Char) :
    readString? (escape c ++ s) = addChar? (some c) (readString? s) := by
  have hcode {n : Nat} (h : c.toNat = n) : Char.ofNat n = c := h ▸ Char.ofNat_toNat c
  unfold escape
  split_ifs with hquote hslash h h h h h hcontrol
  · rw [hquote]
    rfl
  · rw [hslash]
    rfl
  -- the control characters that have a letter
  · rw [← hcode h]
    rfl
  · rw [← hcode h]
    rfl
  · rw [← hcode h]
    rfl
  · rw [← hcode h]
    rfl
  · rw [← hcode h]
    rfl
  · exact readString?_code hcontrol s
  · exact readString?_plain hquote hslash hcontrol s

/-- What is quoted is read back, up to the quote at its end. -/
theorem readString?_quote (s rest : List Char) :
    readString? (s.flatMap escape ++ '"' :: rest) = some (s, rest) := by
  induction s with
  | nil => rfl
  | cons c s ih =>
    rw [List.flatMap_cons, List.append_assoc, readString?_escape, ih]
    rfl

/-! ## Lists -/

/-- The text of a member of an object. -/
def memberText (m : List Char × JsonValue) : List Char :=
  quote m.1 ++ ':' :: text m.2

/-- The text of some items is that of each, with commas in between. -/
theorem itemsText_eq (items : List JsonValue) :
    itemsText items = [','].intercalate (items.map text) := by
  induction items with
  | nil => rfl
  | cons v vs ih =>
    cases vs with
    | nil => simp [itemsText]
    | cons w vs => simp [itemsText, ih]

theorem membersText_eq (members : List (List Char × JsonValue)) :
    membersText members = [','].intercalate (members.map memberText) := by
  induction members with
  | nil => rfl
  | cons m ms ih =>
    cases ms with
    | nil => simp [membersText, memberText]
    | cons n ms => simp [membersText, ih, memberText]

variable {α : Type} {read? : Reader α} {write : α → List Char} {close : Char}

/-- What can be read of a text wherever no digit follows it. -/
def ReadBack (read? : Reader α) (write : α → List Char) (a : α) : Prop :=
  ∀ rest, Ends rest → read? (write a ++ rest) = some (a, rest)

theorem readSome?_last (hblank : isBlank close = false) {s rest : List Char} {a : α}
    (h : read? s = some (a, close :: rest)) (fuel : Nat) :
    readSome? read? close (fuel + 1) s = some ([a], rest) := by
  simp [readSome?, h, skipBlanks_cons hblank]

theorem readSome?_more (hcomma : close ≠ ',') {s t rest : List Char} {a : α} {as : List α}
    (h : read? s = some (a, ',' :: t)) {fuel : Nat}
    (hmore : readSome? read? close fuel t = some (as, rest)) :
    readSome? read? close (fuel + 1) s = some (a :: as, rest) := by
  simp [readSome?, h, skipBlanks_cons (c := ',') rfl, hcomma.symm, hmore]

/-- Things that can be read back one by one can be read back in a row, given a step for each. -/
theorem readSome?_intercalate (hblank : isBlank close = false) (hdigit : close.isDigit = false)
    (hcomma : close ≠ ',') {as : List α} (hne : as ≠ []) (has : ∀ a ∈ as, ReadBack read? write a)
    {fuel : Nat} (hfuel : as.length ≤ fuel) (rest : List Char) :
    readSome? read? close fuel ([','].intercalate (as.map write) ++ close :: rest) =
      some (as, rest) := by
  induction as generalizing fuel with
  | nil => exact absurd rfl hne
  | cons a as ih =>
    obtain ⟨ha, has⟩ := List.forall_mem_cons.1 has
    cases fuel with
    | zero => cases hfuel
    | succ fuel =>
      cases as with
      | nil =>
        rw [List.map_singleton, List.intercalate_singleton]
        exact readSome?_last hblank (ha _ (ends_cons hdigit rest)) fuel
      | cons b as =>
        have hrest := ih (List.cons_ne_nil b as) has (Nat.le_of_succ_le_succ hfuel)
        rw [List.map_cons, List.intercalate_cons_of_ne_nil (by simp), List.append_assoc,
          List.append_assoc]
        exact readSome?_more hcomma (ha _ (ends_cons rfl _)) hrest

/-- There are as many commas as items, less one. -/
theorem length_le_length_intercalate (ss : List (List Char)) :
    ss.length ≤ ([','].intercalate ss).length + 1 := by
  induction ss with
  | nil => exact Nat.zero_le _
  | cons s ss ih =>
    cases ss with
    | nil => simp
    | cons t ss =>
      rw [List.intercalate_cons_cons]
      simp only [List.length_cons, List.length_append] at ih ⊢
      omega

theorem length_le_of_mem_intercalate {s : List Char} {ss : List (List Char)} (h : s ∈ ss) :
    s.length ≤ ([','].intercalate ss).length := by
  induction ss with
  | nil => cases h
  | cons t ss ih =>
    cases ss with
    | nil => simp_all
    | cons u ss =>
      rw [List.intercalate_cons_cons, List.length_append, List.length_append]
      rcases List.mem_cons.1 h with rfl | h
      · omega
      · have hrest := ih h
        omega

/-- A list between marks is read back if its items are. None of them may begin with a blank, or with
the mark behind the last. -/
theorem readMany?_intercalate (hblank : isBlank close = false) (hdigit : close.isDigit = false)
    (hcomma : close ≠ ',') {as : List α} (has : ∀ a ∈ as, ReadBack read? write a)
    (hhead : ∀ a ∈ as, ∃ c s, write a = c :: s ∧ isBlank c = false ∧ c ≠ close)
    (rest : List Char) :
    readMany? read? close ([','].intercalate (as.map write) ++ close :: rest) =
      some (as, rest) := by
  cases as with
  | nil =>
    rw [List.map_nil, List.intercalate_nil, List.nil_append, readMany?, skipMark?_self hblank]
  | cons a as =>
    have hmark :
        skipMark? close ([','].intercalate ((a :: as).map write) ++ close :: rest) = none := by
      obtain ⟨c, s, hcs, hc, hne⟩ := hhead a List.mem_cons_self
      rw [List.map_cons, hcs, List.intercalate_cons_cons_left]
      exact skipMark?_of_ne hc hne _
    have hlength := length_le_length_intercalate ((a :: as).map write)
    rw [List.length_map] at hlength
    rw [readMany?, hmark]
    refine readSome?_intercalate hblank hdigit hcomma (List.cons_ne_nil a as) has ?_ rest
    simp only [List.length_append, List.length_cons] at hlength ⊢
    omega

/-- A member is read back when its value is. -/
theorem readMember?_memberText {read? : Reader JsonValue} {m : List Char × JsonValue}
    (h : ReadBack read? text m.2) : ReadBack (readMember? read?) memberText m := by
  intro rest hrest
  have hkey := readString?_quote m.1 (':' :: (text m.2 ++ rest))
  have htext : memberText m ++ rest =
      '"' :: (m.1.flatMap escape ++ '"' :: ':' :: (text m.2 ++ rest)) := by
    simp only [memberText, quote, List.cons_append, List.append_assoc, List.nil_append]
  have hquote : isBlank '"' = false := rfl
  have hcolon : isBlank ':' = false := rfl
  rw [htext, readMember?, skipMark?_self hquote]
  simp [hkey, skipMark?_self hcolon, h rest hrest]

/-! ## Values -/

/-- A text begins with a mark or with a digit. -/
theorem exists_text_eq_cons (v : JsonValue) :
    ∃ c s, text v = c :: s ∧ isBlank c = false ∧ c ≠ ']' := by
  cases v with
  | number n =>
    obtain ⟨c, s, hcs, hdigit⟩ := exists_decimal_eq_cons n
    refine ⟨c, s, hcs, isBlank_of_isDigit hdigit, ?_⟩
    rintro rfl
    exact absurd hdigit (by decide)
  | string s => exact ⟨_, _, rfl, rfl, by decide⟩
  | array items => exact ⟨_, _, rfl, rfl, by decide⟩
  | object members => exact ⟨_, _, rfl, rfl, by decide⟩

theorem readValue?_number (n depth : Nat) : ReadBack (readValue? (depth + 1)) text (.number n) := by
  intro rest hrest
  obtain ⟨c, s, hcs, hdigit⟩ := exists_decimal_eq_cons n
  have hread := readNumber?_decimal n hrest
  rw [hcs, List.cons_append] at hread
  rw [text, hcs, List.cons_append, readValue?, skipBlanks_cons (isBlank_of_isDigit hdigit)]
  -- a digit is none of the marks that begin the other values
  split
  · next h => exact absurd ((List.cons.inj h).1 ▸ hdigit) (by decide)
  · next h => exact absurd ((List.cons.inj h).1 ▸ hdigit) (by decide)
  · next h => exact absurd ((List.cons.inj h).1 ▸ hdigit) (by decide)
  · rw [hread, Option.map_some]

theorem readValue?_string (s : List Char) (depth : Nat) :
    ReadBack (readValue? (depth + 1)) text (.string s) := by
  intro rest _
  have htext : text (.string s) ++ rest = '"' :: (s.flatMap escape ++ '"' :: rest) := by
    simp only [text, quote, List.cons_append, List.append_assoc, List.nil_append]
  rw [htext, readValue?, skipBlanks_cons rfl]
  simp only [readString?_quote, Option.map_some]

/-- An array is read back when its items are, one level further down. -/
theorem readValue?_array {items : List JsonValue} {depth : Nat}
    (h : ∀ v ∈ items, ReadBack (readValue? depth) text v) :
    ReadBack (readValue? (depth + 1)) text (.array items) := by
  intro rest _
  have htext : text (.array items) ++ rest =
      '[' :: ([','].intercalate (items.map text) ++ ']' :: rest) := by
    simp only [text, itemsText_eq, List.cons_append, List.append_assoc, List.nil_append]
  have hread := readMany?_intercalate (rfl : isBlank ']' = false) rfl (by decide) h
    (fun v _ => exists_text_eq_cons v) rest
  rw [htext, readValue?, skipBlanks_cons rfl]
  simp only [hread, Option.map_some]

/-- An object is read back when its values are, one level further down. -/
theorem readValue?_object {members : List (List Char × JsonValue)} {depth : Nat}
    (h : ∀ m ∈ members, ReadBack (readValue? depth) text m.2) :
    ReadBack (readValue? (depth + 1)) text (.object members) := by
  intro rest _
  have htext : text (.object members) ++ rest =
      '{' :: ([','].intercalate (members.map memberText) ++ '}' :: rest) := by
    simp only [text, membersText_eq, List.cons_append, List.append_assoc, List.nil_append]
  have hread := readMany?_intercalate (rfl : isBlank '}' = false) rfl (by decide)
    (fun m hm => readMember?_memberText (h m hm)) (fun m _ => ⟨'"', _, rfl, rfl, by decide⟩) rest
  rw [htext, readValue?, skipBlanks_cons rfl]
  simp only [hread, Option.map_some]

/-- A value can be read in front of other text, as far as the depth allows. -/
theorem readValue?_text (v : JsonValue) (depth : Nat) (hdepth : (text v).length ≤ depth) :
    ReadBack (readValue? depth) text v := by
  induction depth generalizing v with
  | zero =>
    obtain ⟨c, s, hcs, -⟩ := exists_text_eq_cons v
    rw [hcs] at hdepth
    cases hdepth
  | succ depth ih =>
    cases v with
    | number n => exact readValue?_number n depth
    | string s => exact readValue?_string s depth
    | array items =>
      refine readValue?_array fun v hv => ih v ?_
      have hle := length_le_of_mem_intercalate (List.mem_map_of_mem (f := text) hv)
      simp only [text, itemsText_eq, List.length_cons, List.length_append] at hdepth
      omega
    | object members =>
      refine readValue?_object fun m hm => ih m.2 ?_
      have hle := length_le_of_mem_intercalate (List.mem_map_of_mem (f := memberText) hm)
      simp only [memberText, List.length_cons, List.length_append] at hle
      simp only [text, membersText_eq, List.length_cons, List.length_append] at hdepth
      omega

/-- A value can be read from its text. -/
theorem read?_text (v : JsonValue) : JsonValue.read? (text v) = some v := by
  have hread := readValue?_text v (text v).length (Nat.le_refl _) [] ends_nil
  rw [List.append_nil] at hread
  rw [JsonValue.read?, hread]
  rfl

/-! ## Lines -/

/-- Values are made of values, in lists and in members. -/
@[elab_as_elim] theorem induction {motive : JsonValue → Prop} (number : ∀ n, motive (.number n))
    (string : ∀ s, motive (.string s))
    (array : ∀ items, (∀ v ∈ items, motive v) → motive (.array items))
    (object : ∀ members, (∀ m ∈ members, motive m.2) → motive (.object members)) (v : JsonValue) :
    motive v :=
  match v with
  | .number n => number n
  | .string s => string s
  | .array items => array items fun v _ => induction number string array object v
  | .object members => object members fun (_, v) _ => induction number string array object v
termination_by v
decreasing_by
  · have hmem := List.sizeOf_lt_of_mem ‹v ∈ items›
    rw [JsonValue.array.sizeOf_spec]
    omega
  · have hmem := List.sizeOf_lt_of_mem ‹(_, v) ∈ members›
    rw [Prod.mk.sizeOf_spec] at hmem
    rw [JsonValue.object.sizeOf_spec]
    omega

theorem newline_not_mem_escape (c : Char) : '\n' ∉ escape c := by
  have hself (h : c.toNat ≠ 0x0a) : '\n' ∉ [c] := by
    simp only [List.mem_singleton]
    rintro rfl
    exact h rfl
  have hcode : '\n' ∉ '\\' :: 'u' :: hexPadded 4 c.toNat := by
    have hdigits : '\n' ∉ hexPadded 4 c.toNat := fun h => absurd (mem_hexPadded h) (by decide)
    simp [hdigits]
  unfold escape
  split_ifs with _ _ _ _ hnewline
  · decide
  · decide
  · decide
  · decide
  · decide
  · decide
  · decide
  · exact hcode
  · exact hself hnewline

/-- A quoted text stays on its line, since newlines in it are escaped. -/
theorem newline_not_mem_quote (s : List Char) : '\n' ∉ quote s := by
  have hescape : ∀ c ∈ s, '\n' ∉ escape c := fun c _ => newline_not_mem_escape c
  simpa [quote] using hescape

theorem newline_not_mem_intercalate {ss : List (List Char)} (h : ∀ s ∈ ss, '\n' ∉ s) :
    '\n' ∉ [','].intercalate ss := by
  induction ss with
  | nil => exact List.not_mem_nil
  | cons s ss ih =>
    obtain ⟨hs, hss⟩ := List.forall_mem_cons.1 h
    cases ss with
    | nil => simpa using hs
    | cons t ss =>
      rw [List.intercalate_cons_cons]
      simp [hs, ih hss]

/-- The text of a value is a line. -/
theorem newline_not_mem_text (v : JsonValue) : '\n' ∉ text v := by
  induction v using induction with
  | number n => exact fun h => absurd (isDigit_of_mem_decimal h) (by decide)
  | string s => exact newline_not_mem_quote s
  | array items ih =>
    have hitems := newline_not_mem_intercalate (List.forall_mem_map.2 ih)
    simpa [text, itemsText_eq] using hitems
  | object members ih =>
    have hmembers : '\n' ∉ [','].intercalate (members.map memberText) := by
      refine newline_not_mem_intercalate (List.forall_mem_map.2 fun m hm => ?_)
      simp [memberText, newline_not_mem_quote, ih m hm]
    simpa [text, membersText_eq] using hmembers

end EvmScope.JsonValue

import EvmScope.Hex

/-!
# Fields of a text

A field that is ended by a character which it does not hold can be told from what follows it. Lines
are such fields, and so are numbers in front of a bracket or a blank: their digits give the number
back, however many zeros stand in front.
-/

namespace EvmScope.Text

set_option autoImplicit false

/-- Of two equal texts, the parts in front of the first `c` are equal and so is what follows. It is
the same for lists of lines. -/
theorem append_cons_inj {α : Type} {c : α} {s s' t t' : List α} (hs : c ∉ s) (hs' : c ∉ s')
    (h : s ++ c :: t = s' ++ c :: t') : s = s' ∧ t = t' := by
  induction s generalizing s' with
  | nil =>
    cases s' with
    | nil => exact ⟨rfl, (List.cons.inj h).2⟩
    | cons d s' =>
      obtain ⟨rfl, -⟩ := List.cons.inj h
      exact absurd List.mem_cons_self hs'
  | cons d s ih =>
    cases s' with
    | nil =>
      obtain ⟨rfl, -⟩ := List.cons.inj h
      exact absurd List.mem_cons_self hs
    | cons d' s' =>
      obtain ⟨rfl, htail⟩ := List.cons.inj h
      obtain ⟨rfl, rfl⟩ := ih (fun hc => hs (List.mem_cons_of_mem _ hc))
        (fun hc => hs' (List.mem_cons_of_mem _ hc)) htail
      exact ⟨rfl, rfl⟩

/-- The last field of a line may be left out together with the `c` in front of it. -/
theorem append_optional_inj {c : Char} {s s' : List Char} {t t' : Option (List Char)}
    (hs : c ∉ s) (hs' : c ∉ s') (h : s ++ (t.elim [] (c :: ·)) = s' ++ (t'.elim [] (c :: ·))) :
    s = s' ∧ t = t' := by
  cases t with
  | none =>
    cases t' with
    | none => exact ⟨by simpa using h, rfl⟩
    | some t' =>
      rw [Option.elim_none, List.append_nil, Option.elim_some] at h
      exact absurd (h ▸ List.mem_append_right s' List.mem_cons_self) hs
  | some t =>
    cases t' with
    | none =>
      rw [Option.elim_none, List.append_nil, Option.elim_some] at h
      exact absurd (h ▸ List.mem_append_right s List.mem_cons_self) hs'
    | some t' =>
      obtain ⟨rfl, rfl⟩ := append_cons_inj hs hs' h
      exact ⟨rfl, rfl⟩

/-- Lines that are all ended by a newline can be told apart. -/
theorem lines_inj {ls ls' : List (List Char)} (hls : ∀ l ∈ ls, '\n' ∉ l)
    (hls' : ∀ l ∈ ls', '\n' ∉ l)
    (h : ls.flatMap (· ++ ['\n']) = ls'.flatMap (· ++ ['\n'])) : ls = ls' := by
  induction ls generalizing ls' with
  | nil => cases ls' <;> simp_all
  | cons l ls ih =>
    cases ls' with
    | nil => simp at h
    | cons l' ls' =>
      simp only [List.flatMap_cons, List.append_assoc, List.singleton_append] at h
      simp only [List.forall_mem_cons] at hls hls'
      obtain ⟨rfl, hrest⟩ := append_cons_inj hls.1 hls'.1 h
      rw [ih hls.2 hls'.2 hrest]

/-- A text without `c` ends where the `c`s behind it begin. -/
theorem padRight_inj {width : Nat} {c : Char} {s s' : List Char} (hs : c ∉ s) (hs' : c ∉ s')
    (h : padRight width c s = padRight width c s') : s = s' := by
  have htake {s : List Char} (hs : c ∉ s) : (padRight width c s).takeWhile (· != c) = s := by
    have hall : ∀ d ∈ s, (d != c) = true := fun d hd => bne_iff_ne.2 fun hdc => hs (hdc ▸ hd)
    rw [padRight, List.takeWhile_append_of_pos hall]
    simp
  rw [← htake hs, h, htake hs']

theorem isDigit_of_mem_decimal {n : Nat} {c : Char} (h : c ∈ decimal n) : c.isDigit = true :=
  Nat.isDigit_of_mem_toDigits (by decide) (by decide) h

theorem isDigit_of_mem_decimalPadded {width n : Nat} {c : Char}
    (h : c ∈ decimalPadded width n) : c.isDigit = true := by
  rcases List.mem_append.1 h with h | h
  · rw [List.eq_of_mem_replicate h]
    rfl
  · exact isDigit_of_mem_decimal h

/-- The number can be read off its digits. -/
theorem ofDigitChars_decimalPadded (width n : Nat) :
    Nat.ofDigitChars 10 (decimalPadded width n) 0 = n := by
  rw [decimalPadded, padLeft, decimal, Nat.ofDigitChars_append, Nat.ofDigitChars_replicate_zero,
    Nat.mul_zero, Nat.ofDigitChars_ten_toDigits]

/-- The digits of a number determine it. -/
theorem decimal_injective : Function.Injective decimal := by
  intro m n h
  rw [← Nat.ofDigitChars_ten_toDigits (n := m), ← decimal, h, decimal,
    Nat.ofDigitChars_ten_toDigits]

/-- Zeros in front of the digits do not make two numbers look alike. -/
theorem decimalPadded_inj {width m n : Nat} (h : decimalPadded width m = decimalPadded width n) :
    m = n := by
  rw [← ofDigitChars_decimalPadded width m, h, ofDigitChars_decimalPadded]

end EvmScope.Text

namespace EvmScope.Hex

set_option autoImplicit false

/-- The digits of a byte string determine it. -/
theorem encode_injective : Function.Injective encode := by
  intro a b h
  exact Option.some.inj (by rw [← readPairs?_encode a, h, readPairs?_encode])

/-- The digits of a byte string are digits or small letters. -/
theorem mem_encode {bs : Bytes} {c : Char} (h : c ∈ encode bs) :
    c ∈ "0123456789abcdef".toList := by
  obtain ⟨b, -, hc⟩ := List.mem_flatMap.1 h
  have hb := b.toNat_lt
  have hdigit : ∀ n < 16, n.digitChar ∈ "0123456789abcdef".toList := by decide
  rcases List.mem_cons.1 hc with rfl | hc
  · exact hdigit _ (by omega)
  · rw [List.mem_singleton.1 hc]
    exact hdigit _ (by omega)

end EvmScope.Hex

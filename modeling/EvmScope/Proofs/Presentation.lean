import Mathlib.Data.List.Forall2
import EvmScope.Proofs.Fields
import EvmScope.Text.Blank.Lemmas
import EvmScope.Text.Utf8.Lemmas

/-!
# Hexadecimal presentations

A byte string has one hexadecimal form that is written and many that are read: letters may be capitals,
one marker may stand in front, and blanks around all that. Each of these forms is a presentation.
Reading accepts the presentations and nothing else, and what is left of one without its blanks, its
marker and its capitals is the form that is written.
-/

namespace EvmScope

set_option autoImplicit false

open Text

namespace Text

theorem toLower_digitChar {n : Nat} (h : n < 16) : n.digitChar.toLower = n.digitChar := by
  revert n
  decide

theorem toLower_toUpper_digitChar {n : Nat} (h : n < 16) :
    n.digitChar.toUpper.toLower = n.digitChar := by
  revert n
  decide

theorem hexValue?_toUpper_digitChar {n : Nat} (h : n < 16) :
    hexValue? n.digitChar.toUpper = some n := by
  revert n
  decide

/-- The last digit is `f`. -/
theorem toNat_lt_of_hexValue? {c : Char} {n : Nat} (h : hexValue? c = some n) : c.toNat < 103 := by
  unfold hexValue? at h
  simp only [Char.le_def, UInt32.le_iff_toNat_le] at h
  split at h
  · next hc => exact Nat.lt_of_le_of_lt hc.2 (by decide)
  · split at h
    · next hc => exact Nat.lt_of_le_of_lt hc.2 (by decide)
    · split at h
      · next hc => exact Nat.lt_of_le_of_lt hc.2 (by decide)
      · cases h

/-- A value has one digit, which may be a capital. -/
theorem hexValue?_eq_some_iff {c : Char} {n : Nat} :
    hexValue? c = some n ↔ n < 16 ∧ (c = n.digitChar ∨ c = n.digitChar.toUpper) := by
  constructor
  · intro h
    have htable : ∀ k < 103, ∀ n ∈ hexValue? (Char.ofNat k),
        Char.ofNat k = n.digitChar ∨ Char.ofNat k = n.digitChar.toUpper := by
      decide +kernel
    refine ⟨hexValue?_lt h, ?_⟩
    have hc := htable c.toNat (toNat_lt_of_hexValue? h) n
    rw [Char.ofNat_toNat] at hc
    exact hc h
  · rintro ⟨hn, rfl | rfl⟩
    · exact hexValue?_digitChar hn
    · exact hexValue?_toUpper_digitChar hn

/-- A digit in small letters is the digit of its value. -/
theorem toLower_of_hexValue? {c : Char} {n : Nat} (h : hexValue? c = some n) :
    c.toLower = n.digitChar := by
  obtain ⟨hn, rfl | rfl⟩ := hexValue?_eq_some_iff.1 h
  · exact toLower_digitChar hn
  · exact toLower_toUpper_digitChar hn

/-- A text of hexadecimal digits, capitals or not. -/
def AllDigits (s : List Char) : Prop :=
  ∀ c ∈ s, ∃ n, hexValue? c = some n

/-- Digits are characters of ASCII. -/
theorem AllDigits.ascii {s : List Char} (h : AllDigits s) : ∀ c ∈ s, c.toNat < 128 := by
  intro c hc
  obtain ⟨n, hn⟩ := h c hc
  have hlt := toNat_lt_of_hexValue? hn
  omega

/-- What holds for all sixteen digits and their capitals holds for the characters of such a text. -/
theorem AllDigits.forall {P : Char → Prop} {s : List Char} (h : AllDigits s)
    (hP : ∀ n < 16, P n.digitChar ∧ P n.digitChar.toUpper) : ∀ c ∈ s, P c := by
  intro c hc
  obtain ⟨n, hn⟩ := h c hc
  obtain ⟨hlt, rfl | rfl⟩ := hexValue?_eq_some_iff.1 hn
  · exact (hP n hlt).1
  · exact (hP n hlt).2

/-- The characters of one text are those of another one, or their capitals. -/
def SameButCapitals (s t : List Char) : Prop :=
  List.Forall₂ (fun c d => c = d ∨ c = d.toUpper) s t

end Text

namespace Hex

section Pairs

variable {s : List Char} {bs : Bytes}

theorem encode_cons (b : UInt8) (bs : Bytes) :
    encode (b :: bs) =
      (b.toNat / 16).digitChar :: (b.toNat % 16).digitChar :: encode bs := rfl

theorem readPairs?_cons_cons {a b : Char} {high low : Nat} (ha : hexValue? a = some high)
    (hb : hexValue? b = some low) (s : List Char) :
    readPairs? (a :: b :: s) = (readPairs? s).map (UInt8.ofNat (16 * high + low) :: ·) := by
  rw [readPairs?, ha, hb]

/-- Digits are read in the same way whether or not they are capitals. -/
theorem readPairs?_of_sameButCapitals (h : SameButCapitals s (encode bs)) :
    readPairs? s = some bs := by
  induction bs generalizing s with
  | nil =>
    obtain rfl := List.forall₂_nil_right_iff.1 h
    rfl
  | cons b bs ih =>
    have hb := b.toNat_lt
    rw [encode_cons] at h
    obtain ⟨high, t, hhigh, ht, rfl⟩ := List.forall₂_cons_right_iff.1 h
    obtain ⟨low, s, hlow, hs, rfl⟩ := List.forall₂_cons_right_iff.1 ht
    have hhigh' := hexValue?_eq_some_iff.2 ⟨by omega, hhigh⟩
    have hlow' := hexValue?_eq_some_iff.2 ⟨by omega, hlow⟩
    rw [readPairs?_cons_cons hhigh' hlow', ih hs, Option.map_some, Nat.div_add_mod,
      UInt8.ofNat_toNat]

/-- What can be read is made up of digits, an even number of them, and without capitals it is the form
that is written. -/
theorem of_readPairs? (h : readPairs? s = some bs) :
    AllDigits s ∧ s.length = 2 * bs.length ∧ s.map Char.toLower = encode bs := by
  induction s using readPairs?.induct generalizing bs with
  | case1 =>
    obtain rfl := Option.some.inj h
    exact ⟨nofun, rfl, rfl⟩
  | case2 => cases h
  | case3 a b s high low hb ha ih =>
    rw [readPairs?_cons_cons ha hb] at h
    obtain ⟨bs, hbs, rfl⟩ := Option.map_eq_some_iff.1 h
    obtain ⟨hdigits, hlength, hlower⟩ := ih hbs
    have hhigh := hexValue?_lt ha
    have hlow := hexValue?_lt hb
    have hvalue : (UInt8.ofNat (16 * high + low)).toNat = 16 * high + low :=
      UInt8.toNat_ofNat_of_lt' (show 16 * high + low < 256 by omega)
    have hdiv : (16 * high + low) / 16 = high := by omega
    have hmod : (16 * high + low) % 16 = low := by omega
    refine ⟨?_, ?_, ?_⟩
    · intro c hc
      rcases List.mem_cons.1 hc with rfl | hc
      · exact ⟨high, ha⟩
      · rcases List.mem_cons.1 hc with rfl | hc
        · exact ⟨low, hb⟩
        · exact hdigits c hc
    · simp only [List.length_cons, hlength]
      omega
    · rw [encode_cons, hvalue, hdiv, hmod, ← hlower, List.map_cons, List.map_cons,
        toLower_of_hexValue? ha, toLower_of_hexValue? hb]
  | case4 a b s hnot =>
    rw [readPairs?] at h
    split at h
    · next high low ha hb => exact absurd hb (hnot high low ha)
    · cases h

/-- The digits of a byte string can be read exactly if they are those that are written, but for
capitals. -/
theorem readPairs?_eq_some_iff : readPairs? s = some bs ↔ SameButCapitals s (encode bs) := by
  refine ⟨fun h => ?_, readPairs?_of_sameButCapitals⟩
  obtain ⟨hdigits, -, hlower⟩ := of_readPairs? h
  rw [← hlower, SameButCapitals, List.forall₂_map_right_iff, List.forall₂_same]
  intro c hc
  obtain ⟨n, hn⟩ := hdigits c hc
  rw [toLower_of_hexValue? hn]
  exact (hexValue?_eq_some_iff.1 hn).2

end Pairs

/-- What may stand in front of the digits. -/
def markers : List (List Char) :=
  [[], ['0', 'x'], ['0', 'X']]

/-- What is taken away in front is one of the markers or nothing. -/
theorem exists_withoutMarker (s : List Char) :
    ∃ marker ∈ markers, s = marker ++ withoutMarker s := by
  fun_cases withoutMarker s with
  | case1 s => exact ⟨['0', 'x'], by decide, rfl⟩
  | case2 s => exact ⟨['0', 'X'], by decide, rfl⟩
  | case3 => exact ⟨[], by decide, rfl⟩

/-- Digits hold no marker, so the only one is that in front of them. -/
theorem withoutMarker_append {marker s : List Char} (hmarker : marker ∈ markers)
    (hs : AllDigits s) : withoutMarker (marker ++ s) = s := by
  have hx : ∀ c ∈ s, c ≠ 'x' ∧ c ≠ 'X' := hs.forall (by decide)
  simp only [markers, List.mem_cons, List.not_mem_nil, or_false] at hmarker
  rcases hmarker with rfl | rfl | rfl
  · rw [List.nil_append]
    fun_cases withoutMarker s with
    | case1 t => exact absurd rfl (hx 'x' (by simp)).1
    | case2 t => exact absurd rfl (hx 'X' (by simp)).2
    | case3 => rfl
  · rfl
  · rfl

/-- Neither a marker nor a digit is a blank. -/
theorem isBlank_of_mem_presented {marker digits : List Char} {bs : Bytes}
    (hmarker : marker ∈ markers) (hdigits : SameButCapitals digits (encode bs)) :
    ∀ c ∈ marker ++ digits, isBlank c = false := by
  intro c hc
  rcases List.mem_append.1 hc with hc | hc
  · have hmarkers : ∀ marker ∈ markers, marker.all (!isBlank ·) = true := by decide
    simpa using List.all_eq_true.1 (hmarkers _ hmarker) c hc
  · have hall := (of_readPairs? (readPairs?_of_sameButCapitals hdigits)).1
    have hdigit : ∀ n < 16, isBlank n.digitChar = false ∧ isBlank n.digitChar.toUpper = false := by
      decide
    exact hall.forall (P := (isBlank · = false)) hdigit c hc

/-- A form of a byte string that can be read. -/
structure Presentation (bs : Bytes) where
  front : List Char
  marker : List Char
  digits : List Char
  back : List Char
  allBlank_front : AllBlank front
  marker_mem : marker ∈ markers
  sameButCapitals : SameButCapitals digits (encode bs)
  allBlank_back : AllBlank back

namespace Presentation

variable {bs : Bytes}

def text (p : Presentation bs) : List Char :=
  p.front ++ (p.marker ++ p.digits) ++ p.back

/-- The digits of a presentation give its bytes. -/
theorem readPairs?_digits (p : Presentation bs) : readPairs? p.digits = some bs :=
  readPairs?_of_sameButCapitals p.sameButCapitals

/-- Without the blanks around it, a presentation is its marker and its digits. -/
theorem trim_text (p : Presentation bs) : trim p.text = p.marker ++ p.digits :=
  trim_between p.allBlank_front (isBlank_of_mem_presented p.marker_mem p.sameButCapitals)
    p.allBlank_back

/-- What decoding looks at is the digits. -/
theorem core_text (p : Presentation bs) : core p.text = p.digits := by
  rw [core, trim_text, withoutMarker_append p.marker_mem (of_readPairs? p.readPairs?_digits).1]

end Presentation

/-- A text without the blanks at its ends, without its marker and without capitals. -/
def normalForm (s : List Char) : List Char :=
  (withoutMarker (trim s)).map Char.toLower

section Decode

variable {s : List Char} {bs : Bytes}

/-- Digits take one byte each, so there is an even number of bytes. -/
theorem length_utf8_of_readPairs? (h : readPairs? s = some bs) :
    (utf8 s).length = 2 * bs.length := by
  obtain ⟨hdigits, hlength, -⟩ := of_readPairs? h
  rw [← hlength, length_utf8_of_ascii hdigits.ascii]

/-- A text is decoded just when its core is pairs of digits. -/
theorem decode_eq_ok_iff_readPairs? : decode s = .ok bs ↔ readPairs? (core s) = some bs := by
  rw [decode]
  constructor
  · intro h
    split at h
    · cases h
    · split at h
      · next bs' hbs => exact hbs.trans (congrArg some (Except.ok.inj h))
      · cases h
  · intro h
    have heven : ¬(utf8 (core s)).length % 2 = 1 := by
      rw [length_utf8_of_readPairs? h]
      omega
    rw [if_neg heven, h]

/-- Reading accepts the presentations of a byte string and nothing else. -/
theorem decode_eq_ok_iff : decode s = .ok bs ↔ ∃ p : Presentation bs, p.text = s := by
  rw [decode_eq_ok_iff_readPairs?]
  constructor
  · intro h
    obtain ⟨front, back, hfront, hback, hs⟩ := exists_trim s
    obtain ⟨marker, hmarker, htrim⟩ := exists_withoutMarker (trim s)
    have htext : front ++ (marker ++ core s) ++ back = s := by rw [core, ← htrim, ← hs]
    exact ⟨⟨front, marker, core s, back, hfront, hmarker, readPairs?_eq_some_iff.1 h, hback⟩, htext⟩
  · rintro ⟨p, rfl⟩
    rw [p.core_text]
    exact p.readPairs?_digits

/-- A presentation may do without any blanks. -/
theorem decode_marker_append {marker digits : List Char} (hmarker : marker ∈ markers)
    (hdigits : SameButCapitals digits (encode bs)) : decode (marker ++ digits) = .ok bs := by
  rw [decode_eq_ok_iff]
  exact ⟨⟨[], marker, digits, [], allBlank_nil, hmarker, hdigits, allBlank_nil⟩,
    List.append_nil _⟩

/-- The form that is written is read. -/
theorem decode_encode (bs : Bytes) : decode (encode bs) = .ok bs := by
  have hmarker : [] ∈ markers := by decide
  have hsame : SameButCapitals (encode bs) (encode bs) := List.forall₂_same.2 fun _ _ => .inl rfl
  rw [← List.nil_append (encode bs), decode_marker_append hmarker hsame]

/-- What is decoded and encoded again is in normal form. -/
theorem encode_of_decode (h : decode s = .ok bs) : encode bs = normalForm s :=
  (of_readPairs? (decode_eq_ok_iff_readPairs?.1 h)).2.2.symm

/-- **Writing and reading undo each other, up to presentation.** The texts that are read as a byte string
are its presentations; whatever is read gives its own normal form when it is written again; and so two
texts stand for the same bytes exactly if their normal forms are the same. -/
theorem decode_encode_up_to_presentation :
    (∀ (bs : Bytes) (s : List Char), decode s = .ok bs ↔ ∃ p : Presentation bs, p.text = s) ∧
      (∀ (s : List Char) (bs : Bytes), decode s = .ok bs → encode bs = normalForm s) ∧
      ∀ (s t : List Char) (bs bs' : Bytes), decode s = .ok bs → decode t = .ok bs' →
        (bs = bs' ↔ normalForm s = normalForm t) := by
  refine ⟨fun bs s => decode_eq_ok_iff, fun s bs => encode_of_decode, ?_⟩
  intro s t bs bs' hs ht
  rw [← encode_of_decode hs, ← encode_of_decode ht]
  exact encode_injective.eq_iff.symm

/-- A zero in front of the letter of a marker is a digit if it is not the first character. -/
example : decode "\u2003 0XaB00\n".toList = .ok [0xab, 0x00] ∧
    decode "00x1".toList = .error (.notHex "00x1".toList) := by
  decide

end Decode

end Hex

end EvmScope

import EvmScope.Proofs.Presentation

/-!
# The grammar of hexadecimal text

A text is read as bytes exactly if its core is an even number of digits. A core of an odd number of
bytes is refused for that alone, and only one of an even number for a character that is no digit.
`IsCore` says what the core of a text is without saying how it is found.

Reading goes over characters here, while a text arrives as bytes, and a pair of bytes may well
divide a character. `scan` reads the bytes two at a time and takes each for a character of its own.
It comes to the same, because a byte that looks like a digit is that digit and never a part of
another character, and in an even number of bytes every pair is whole.
-/

namespace EvmScope.Hex

set_option autoImplicit false

open Text

section Core

variable {s c : List Char}

/-- The marker that is taken away is the longest one that a text begins with. -/
theorem exists_longest_marker (s : List Char) :
    ∃ marker ∈ markers, s = marker ++ withoutMarker s ∧
      ∀ m ∈ markers, m <+: s → m.length ≤ marker.length := by
  have htwo : ∀ m ∈ markers, m.length ≤ 2 := by decide
  fun_cases withoutMarker s with
  | case1 t => exact ⟨['0', 'x'], by decide, rfl, fun m hm _ => htwo m hm⟩
  | case2 t => exact ⟨['0', 'X'], by decide, rfl, fun m hm _ => htwo m hm⟩
  | case3 _ hx hX =>
    refine ⟨[], by decide, rfl, ?_⟩
    intro m hm hstarts
    obtain ⟨t, ht⟩ := hstarts
    simp only [markers, List.mem_cons, List.not_mem_nil, or_false] at hm
    rcases hm with rfl | rfl | rfl
    · exact Nat.le_refl 0
    · exact absurd ht.symm (hx t)
    · exact absurd ht.symm (hX t)

/-- What has to hold the digits of a text: the text without the blanks at its ends, all of them, and
without the marker behind those in front, if there is one. -/
inductive IsCore : List Char → List Char → Prop
  | intro (front marker core back : List Char) (hfront : AllBlank front) (hback : AllBlank back)
      (hfirst : ∀ d ∈ (marker ++ core).head?, isBlank d = false)
      (hlast : ∀ d ∈ (marker ++ core).getLast?, isBlank d = false)
      (hmarker : marker ∈ markers)
      (hlongest : ∀ m ∈ markers, m <+: marker ++ core → m.length ≤ marker.length) :
      IsCore (front ++ (marker ++ core) ++ back) core

/-- What decoding takes for the digits of a text is its core by the grammar. -/
theorem isCore_core (s : List Char) : IsCore s (core s) := by
  obtain ⟨front, back, hfront, hback, hs⟩ := exists_trim s
  obtain ⟨marker, hmarker, htrim, hlongest⟩ := exists_longest_marker (trim s)
  rw [← core] at htrim
  have hfirst : ∀ d ∈ (trim s).head?, isBlank d = false := fun d hd => isBlank_of_head?_trim hd
  have hlast : ∀ d ∈ (trim s).getLast?, isBlank d = false := fun d hd => isBlank_of_getLast?_trim hd
  have hcore := IsCore.intro front marker (core s) back hfront hback
  rw [← htrim] at hcore
  have h := hcore hfirst hlast hmarker hlongest
  rwa [← hs] at h

/-- A text has one core at most. -/
theorem IsCore.eq_core (h : IsCore s c) : c = core s := by
  cases h with
  | intro front marker _ back hfront hback hfirst hlast hmarker hlongest =>
    rw [core, trim_append hfront _ hback, trim_eq_self hfirst hlast]
    obtain ⟨m, hm, heq, hlongest'⟩ := exists_longest_marker (marker ++ c)
    -- each of the two markers is at least as long as the other one
    have hle : m.length ≤ marker.length := by
      apply hlongest m hm
      rw [heq]
      exact List.prefix_append m _
    have hge : marker.length ≤ m.length := hlongest' marker hmarker (List.prefix_append marker c)
    exact (List.append_inj heq (Nat.le_antisymm hge hle)).2

/-- A text has one core, and that is where its digits are looked for. -/
theorem isCore_iff : IsCore s c ↔ c = core s := by
  constructor
  · exact IsCore.eq_core
  · rintro rfl
    exact isCore_core s

end Core

section Bytes

/-- How a pair of bytes can fail to be read. -/
inductive PairFault
  | notHex
  /-- There is no second byte. -/
  | outOfRange
  deriving DecidableEq, Repr

/-- The byte that a pair of bytes stands for, each of them taken for the character of its number.
Both are fetched before either is looked at. -/
def readPair (pair : Bytes) : Except PairFault UInt8 :=
  match pair[0]?, pair[1]? with
  | some first, some second =>
    match hexValue? (Char.ofNat first.toNat), hexValue? (Char.ofNat second.toNat) with
    | some high, some low => .ok (UInt8.ofNat (16 * high + low))
    | _, _ => .error .notHex
  | _, _ => .error .outOfRange

/-- A byte string in pieces of two bytes, the last of which may be one byte only. -/
def pairs : Bytes → List Bytes
  | [] => []
  | [a] => [[a]]
  | a :: b :: rest => [a, b] :: pairs rest

/-- Reads a byte string from the bytes of its digits, up to the first pair that fails. -/
def scan (bs : Bytes) : Except PairFault Bytes :=
  (pairs bs).mapM readPair

/-- The text whose characters have the numbers of some bytes. -/
def charByChar (bs : Bytes) : List Char :=
  bs.map fun b => Char.ofNat b.toNat

/-- Pairs are read from the left, and the first that fails decides. -/
theorem scan_cons_cons (a b : UInt8) (rest : Bytes) :
    scan (a :: b :: rest) = readPair [a, b] >>= fun x => (scan rest).map (x :: ·) := by
  rw [scan, pairs, List.mapM_cons]
  rfl

/-- In an even number of bytes every pair is whole, so only a character that is no digit can stop
the reading. -/
theorem scan_eq_readPairs? {bs : Bytes} (h : bs.length % 2 = 0) :
    scan bs = (readPairs? (charByChar bs)).elim (.error .notHex) .ok := by
  induction bs using pairs.induct with
  | case1 => rfl
  | case2 a => cases h
  | case3 a b rest ih =>
    have hrest : rest.length % 2 = 0 := by
      simp only [List.length_cons] at h
      omega
    rw [scan_cons_cons, ih hrest]
    simp only [charByChar, List.map_cons, readPairs?]
    cases ha : hexValue? (Char.ofNat a.toNat) with
    | none =>
      have hpair : readPair [a, b] = .error .notHex := by simp [readPair, ha]
      rw [hpair]
      rfl
    | some high =>
      cases hb : hexValue? (Char.ofNat b.toNat) with
      | none =>
        have hpair : readPair [a, b] = .error .notHex := by simp [readPair, ha, hb]
        rw [hpair]
        rfl
      | some low =>
        have hpair : readPair [a, b] = .ok (UInt8.ofNat (16 * high + low)) := by
          simp [readPair, ha, hb]
        rw [hpair]
        cases readPairs? (rest.map fun b => Char.ofNat b.toNat) <;> rfl

/-- As long as all characters are ASCII, reading bytes one by one gives the text. -/
theorem charByChar_utf8_of_ascii {s : List Char} (h : ∀ c ∈ s, c.toNat < 128) :
    charByChar (utf8 s) = s := by
  induction s with
  | nil => rfl
  | cons c s ih =>
    rw [List.forall_mem_cons] at h
    have hbyte : (UInt8.ofNat c.toNat).toNat = c.toNat := by
      apply UInt8.toNat_ofNat_of_lt'
      exact Nat.lt_trans h.1 (by decide)
    have hrest := ih h.2
    rw [charByChar] at hrest ⊢
    rw [utf8_cons, utf8EncodeChar_of_ascii h.1, List.map_append, hrest, List.map_singleton, hbyte,
      Char.ofNat_toNat, List.singleton_append]

/-- If all bytes of a text are taken for digits, its characters are digits: no byte of a character
beyond ASCII is. -/
theorem allDigits_of_charByChar {s : List Char} (h : AllDigits (charByChar (utf8 s))) :
    AllDigits s := by
  intro c hc
  obtain ⟨b, hb⟩ : ∃ b, b ∈ String.utf8EncodeChar c := by
    apply List.exists_mem_of_length_pos
    rw [String.length_utf8EncodeChar]
    exact Char.utf8Size_pos c
  have hmem : b ∈ utf8 s := List.mem_flatMap.2 ⟨c, hc, hb⟩
  obtain ⟨n, hn⟩ := h _ (List.mem_map_of_mem hmem)
  have hnumber : ∀ k < 256, (Char.ofNat k).toNat = k := by decide +kernel
  have hlt := toNat_lt_of_hexValue? hn
  rw [hnumber b.toNat b.toNat_lt] at hlt
  have hcode := (mem_utf8EncodeChar_iff (by omega)).1 hb
  rw [← hcode, Char.ofNat_toNat] at hn
  exact ⟨n, hn⟩

/-- A text is read in the same way whether its characters or its bytes are taken in pairs. -/
theorem readPairs?_charByChar (s : List Char) :
    readPairs? (charByChar (utf8 s)) = readPairs? s := by
  have hnone : ∀ t, ¬AllDigits t → readPairs? t = none := by
    intro t ht
    cases hread : readPairs? t with
    | none => rfl
    | some bs => exact absurd (of_readPairs? hread).1 ht
  by_cases h : AllDigits s
  · rw [charByChar_utf8_of_ascii h.ascii]
  · have hbytes : ¬AllDigits (charByChar (utf8 s)) := fun hall => h (allDigits_of_charByChar hall)
    rw [hnone s h, hnone _ hbytes]

end Bytes

section Decode

variable {s c : List Char}

/-- Pairs of digits can be read whatever digits they are. -/
theorem exists_readPairs?_iff :
    (∃ bs, readPairs? s = some bs) ↔ AllDigits s ∧ s.length % 2 = 0 := by
  constructor
  · rintro ⟨bs, hread⟩
    obtain ⟨hdigits, hlength, -⟩ := of_readPairs? hread
    exact ⟨hdigits, by omega⟩
  · rintro ⟨hdigits, heven⟩
    induction s using readPairs?.induct with
    | case1 => exact ⟨[], rfl⟩
    | case2 c => cases heven
    | case3 a b s high low hb ha ih =>
      have hrest : AllDigits s := fun c hc => hdigits c (by simp [hc])
      simp only [List.length_cons] at heven
      obtain ⟨bs, hread⟩ := ih hrest (by omega)
      refine ⟨UInt8.ofNat (16 * high + low) :: bs, ?_⟩
      rw [readPairs?_cons_cons ha hb, hread, Option.map_some]
    | case4 a b s hnot =>
      obtain ⟨high, ha⟩ := hdigits a (by simp)
      obtain ⟨low, hb⟩ := hdigits b (by simp)
      exact absurd hb (hnot high low ha)

/-- In an even number of bytes some character is no digit exactly if nothing can be read. -/
theorem readPairs?_eq_none_iff (h : (utf8 s).length % 2 = 0) :
    readPairs? s = none ↔ ∃ c ∈ s, hexValue? c = none := by
  rw [← not_iff_not, ← ne_eq, Option.ne_none_iff_exists', exists_readPairs?_iff]
  constructor
  · rintro ⟨hdigits, -⟩ ⟨c, hc, hnone⟩
    obtain ⟨n, hn⟩ := hdigits c hc
    rw [hnone] at hn
    cases hn
  · intro hall
    have hdigits : AllDigits s := by
      intro c hc
      cases hn : hexValue? c with
      | none => exact absurd ⟨c, hc, hn⟩ hall
      | some n => exact ⟨n, rfl⟩
    rw [length_utf8_of_ascii hdigits.ascii] at h
    exact ⟨hdigits, h⟩

/-- A text is read, or it is refused for its number of bytes, or for a character. -/
theorem decode_cases (s : List Char) :
    (∃ bs, decode s = .ok bs ∧ readPairs? (core s) = some bs ∧ (utf8 (core s)).length % 2 = 0) ∨
      (decode s = .error (.oddDigits (core s)) ∧ (utf8 (core s)).length % 2 = 1) ∨
      (decode s = .error (.notHex (core s)) ∧ readPairs? (core s) = none ∧
        (utf8 (core s)).length % 2 = 0) := by
  rw [decode]
  split
  · next hodd => exact .inr (.inl ⟨rfl, hodd⟩)
  · next hodd =>
    have heven : (utf8 (core s)).length % 2 = 0 := by omega
    cases hread : readPairs? (core s) with
    | some bs => exact .inl ⟨bs, rfl, rfl, heven⟩
    | none => exact .inr (.inr ⟨rfl, rfl, heven⟩)

/-- Digits of an odd number of bytes are refused before any of them is read. -/
theorem decode_eq_oddDigits_iff :
    decode s = .error (.oddDigits c) ↔ c = core s ∧ (utf8 (core s)).length % 2 = 1 := by
  rcases decode_cases s with ⟨bs, h, -, heven⟩ | ⟨h, hodd⟩ | ⟨h, -, heven⟩
  · simp [h, heven]
  · simp [h, hodd, eq_comm]
  · simp [h, heven]

/-- What is no digit is told of only when the number of bytes is even. -/
theorem decode_eq_notHex_iff :
    decode s = .error (.notHex c) ↔
      c = core s ∧ (utf8 (core s)).length % 2 = 0 ∧ ∃ d ∈ core s, hexValue? d = none := by
  rcases decode_cases s with ⟨bs, h, hread, heven⟩ | ⟨h, hodd⟩ | ⟨h, hnone, heven⟩
  · rw [← readPairs?_eq_none_iff heven]
    simp [h, hread]
  · simp [h, hodd]
  · rw [← readPairs?_eq_none_iff heven]
    simp [h, hnone, heven, eq_comm]

/-- The text that an error quotes. -/
def Error.quoted : Error → List Char
  | oddDigits core | notHex core => core

theorem quoted_suffix_append (lead : String) (core : List Char) :
    '\'' :: core ++ ['\''] <:+ (lead ++ "'" ++ String.ofList core ++ "'").toList := by
  refine ⟨lead.toList, ?_⟩
  simp

/-- The message of an error ends in the quoted text. -/
theorem quoted_suffix_message (e : Error) :
    '\'' :: e.quoted ++ ['\''] <:+ e.message.toList := by
  cases e with
  | oddDigits core =>
    have hlead : "invalid hex string: odd number of digits in '" =
        "invalid hex string: odd number of digits in " ++ "'" := by decide
    have hmessage : (Error.oddDigits core).message =
        "invalid hex string: odd number of digits in '" ++ String.ofList core ++ "'" := rfl
    rw [hmessage, hlead]
    exact quoted_suffix_append _ core
  | notHex core =>
    have hlead : "invalid hex string: '" = "invalid hex string: " ++ "'" := by decide
    have hmessage : (Error.notHex core).message =
        "invalid hex string: '" ++ String.ofList core ++ "'" := rfl
    rw [hmessage, hlead]
    exact quoted_suffix_append _ core

/-- An error quotes the core, without the blanks and the marker around it. -/
theorem quoted_of_decode {e : Error} (h : decode s = .error e) : e.quoted = core s := by
  cases e with
  | oddDigits c => exact (decode_eq_oddDigits_iff.1 h).1
  | notHex c => exact (decode_eq_notHex_iff.1 h).1

/-- What the pairs of bytes of an even number come to is what is read. -/
theorem scan_core (h : (utf8 (core s)).length % 2 = 0) :
    scan (utf8 (core s)) = (decode s).mapError fun _ => .notHex := by
  rw [scan_eq_readPairs? h, readPairs?_charByChar]
  rcases decode_cases s with ⟨bs, hdecode, hread, -⟩ | ⟨-, hodd⟩ | ⟨hdecode, hnone, -⟩
  · rw [hdecode, hread]
    rfl
  · omega
  · rw [hdecode, hnone]
    rfl

/-- What it is for a text to be read or refused by the grammar of its core alone. -/
structure ReadByGrammar (s : List Char) : Prop where
  /-- A text has one core, and that is where the digits are looked for. -/
  isCore_iff : ∀ c, IsCore s c ↔ c = core s
  accepts : (∃ bs, decode s = .ok bs) ↔ AllDigits (core s) ∧ (core s).length % 2 = 0
  /-- An odd number of bytes is refused as such, whatever characters they make up. -/
  oddDigits : ∀ c, decode s = .error (.oddDigits c) ↔
    c = core s ∧ (utf8 (core s)).length % 2 = 1
  /-- Only in an even number of bytes does a character matter that is no digit. -/
  notHex : ∀ c, decode s = .error (.notHex c) ↔
    c = core s ∧ (utf8 (core s)).length % 2 = 0 ∧ ∃ d ∈ core s, hexValue? d = none
  quotes : ∀ e, decode s = .error e → '\'' :: core s ++ ['\''] <:+ e.message.toList
  /-- The pairs of bytes are all whole, and reading them comes to the same. -/
  bytes : (utf8 (core s)).length % 2 = 0 →
    scan (utf8 (core s)) = (decode s).mapError fun _ => .notHex

/-- **A text is read exactly if its core is an even number of digits**, and otherwise it is refused
for its number of bytes, if that is odd, or else for a character. Reading the bytes pair by pair
never looks for a byte that is not there. -/
theorem decode_by_grammar (s : List Char) : ReadByGrammar s := by
  constructor
  · intro c
    exact isCore_iff
  · simp only [decode_eq_ok_iff_readPairs?]
    exact exists_readPairs?_iff
  · intro c
    exact decode_eq_oddDigits_iff
  · intro c
    exact decode_eq_notHex_iff
  · intro e h
    rw [← quoted_of_decode h]
    exact quoted_suffix_message e
  · exact scan_core

/-- A letter of two bytes is divided by the pairs, and neither half is a digit. -/
example : decode "0xé".toList = .error (.notHex ['é']) ∧
    scan (utf8 ['é']) = .error .notHex ∧ scan (utf8 "é0".toList) = .error .notHex := by
  decide

end Decode

end EvmScope.Hex

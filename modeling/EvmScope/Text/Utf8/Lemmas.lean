import EvmScope.Text.Utf8

/-!
# Laws of UTF-8

Every text can be read back from its bytes, so texts of equal bytes are equal. The byte of a newline
stands for nothing else, so the lines of a text are the lines of its bytes. A text can be cut at its
boundaries, the positions that lie between two characters or at an end.
-/

namespace EvmScope.Text

set_option autoImplicit false

@[simp] theorem utf8_nil : utf8 [] = [] := rfl

@[simp] theorem utf8_append (s t : List Char) : utf8 (s ++ t) = utf8 s ++ utf8 t :=
  List.flatMap_append

theorem utf8_cons (c : Char) (s : List Char) :
    utf8 (c :: s) = String.utf8EncodeChar c ++ utf8 s :=
  List.flatMap_cons

theorem length_utf8_cons (c : Char) (s : List Char) :
    (utf8 (c :: s)).length = c.utf8Size + (utf8 s).length := by
  rw [utf8_cons, List.length_append, String.length_utf8EncodeChar]

theorem utf8Size_of_ascii {c : Char} (h : c.toNat < 128) : c.utf8Size = 1 :=
  Char.utf8Size_eq_one_iff.2 (UInt32.le_iff_toNat_le.2 (Nat.le_of_lt_succ h))

theorem utf8EncodeChar_of_ascii {c : Char} (h : c.toNat < 128) :
    String.utf8EncodeChar c = [UInt8.ofNat c.toNat] := by
  rw [String.utf8EncodeChar]
  exact if_pos (Nat.le_of_lt_succ h)

/-- A character of ASCII takes one byte. -/
theorem length_utf8_of_ascii {s : List Char} (h : ∀ c ∈ s, c.toNat < 128) :
    (utf8 s).length = s.length := by
  induction s with
  | nil => rfl
  | cons c s ih =>
    rw [List.forall_mem_cons] at h
    rw [length_utf8_cons, utf8Size_of_ascii h.1, ih h.2, List.length_cons, Nat.add_comm]

theorem utf8_flatMap {α : Type} (f : α → List Char) (as : List α) :
    utf8 (as.flatMap f) = as.flatMap fun a => utf8 (f a) :=
  List.flatMap_assoc

/-- A text can be read from its bytes. -/
theorem ofUtf8?_utf8 (s : List Char) : ofUtf8? (utf8 s) = some s := by
  have hbytes : (⟨(utf8 s).toArray⟩ : ByteArray) = s.utf8Encode := by
    apply ByteArray.ext
    rw [List.utf8Encode, List.data_toByteArray]
    rfl
  have hread : String.fromUTF8? s.utf8Encode = some (String.ofList s) := by
    rw [String.fromUTF8?, dif_pos ByteArray.isValidUTF8_utf8Encode]
    rfl
  rw [ofUtf8?, hbytes, hread, Option.map_some, String.toList_ofList]

/-- Bytes that are read as a text are the bytes of that text: no text has a second form. -/
theorem utf8_of_ofUtf8? {bs : Bytes} {s : List Char} (h : ofUtf8? bs = some s) : utf8 s = bs := by
  obtain ⟨t, ht, rfl⟩ := Option.map_eq_some_iff.1 h
  rw [String.fromUTF8?] at ht
  split at ht
  · obtain rfl := Option.some.inj ht
    have hbytes : ((utf8 (String.fromUTF8 _ ‹_›).toList).toArray : Array UInt8) = bs.toArray := by
      have hencode := String.utf8Encode_toList (b := String.fromUTF8 ⟨bs.toArray⟩ ‹_›)
      have hdata := congrArg ByteArray.data hencode
      rw [List.utf8Encode, List.data_toByteArray] at hdata
      exact hdata
    simpa using congrArg Array.toList hbytes
  · cases ht

/-- Texts with the same bytes are equal. -/
theorem utf8_injective : Function.Injective utf8 := by
  intro s t h
  exact Option.some.inj (by rw [← ofUtf8?_utf8 s, h, ofUtf8?_utf8])

/-- A byte below 128 stands for the character of its number, and never for a part of another one. -/
theorem mem_utf8EncodeChar_iff {b : UInt8} {c : Char} (hb : b.toNat < 128) :
    b ∈ String.utf8EncodeChar c ↔ c.toNat = b.toNat := by
  have hbyte : ∀ n < 256, b = UInt8.ofNat n ↔ n = b.toNat := by
    intro n hn
    rw [← UInt8.toNat_inj, UInt8.toNat_ofNat_of_lt' hn]
    exact eq_comm
  have hcode : c.toNat = c.val.toNat := rfl
  rw [hcode, String.utf8EncodeChar]
  -- all bytes of a character beyond ASCII are at least 128
  split
  · rw [List.mem_singleton, hbyte _ (by omega)]
  · split
    · simp only [List.mem_cons, List.not_mem_nil, or_false]
      rw [hbyte _ (by omega), hbyte _ (by omega)]
      omega
    · split
      · simp only [List.mem_cons, List.not_mem_nil, or_false]
        rw [hbyte _ (by omega), hbyte _ (by omega), hbyte _ (by omega)]
        omega
      · simp only [List.mem_cons, List.not_mem_nil, or_false]
        rw [hbyte _ (by omega), hbyte _ (by omega), hbyte _ (by omega), hbyte _ (by omega)]
        omega

/-- A newline is not a part of the bytes of another character. -/
theorem newline_mem_utf8EncodeChar_iff {c : Char} :
    10 ∈ String.utf8EncodeChar c ↔ c = '\n' := by
  rw [mem_utf8EncodeChar_iff (by decide), ← Char.toNat_inj]
  exact Iff.rfl

/-- The byte of a newline stands for a newline only. -/
theorem newline_mem_utf8_iff {s : List Char} : 10 ∈ utf8 s ↔ '\n' ∈ s := by
  simp [utf8, newline_mem_utf8EncodeChar_iff]

end EvmScope.Text

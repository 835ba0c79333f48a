import EvmScope.Address
import EvmScope.Bytes.Lemmas
import EvmScope.Proofs.Presentation

/-!
# Addresses as numbers

An address is read as a number: its twenty bytes are the bytes that the text stands for, with zeros
in front. So two texts name the same address exactly if their bytes stand for the same number,
however many zeros they begin with. More than twenty bytes are refused, also if those in excess are
zeros.
-/

namespace EvmScope.Address

set_option autoImplicit false

/-- The twenty bytes of an address stand for its number. -/
theorem toNat_toBytes (a : Address) : Bytes.toNat a.toBytes = a.toNat := by
  have hlt : a.toNat < 256 ^ 20 := a.isLt
  rw [toBytes, Bytes.toNat_ofNat, Nat.mod_eq_of_lt hlt]

theorem ofBytes_toBytes (a : Address) : ofBytes a.toBytes = a := by
  apply BitVec.eq_of_toNat_eq
  rw [ofBytes, toNat_toBytes, BitVec.toNat_ofNat, Nat.mod_eq_of_lt a.isLt]

section

variable {bs cs : Bytes}

/-- The number of an address is that of its bytes. -/
theorem toNat_ofBytes (h : bs.length ≤ 20) : (ofBytes bs).toNat = bs.toNat := by
  have hlt : bs.toNat < 2 ^ 160 := by
    apply Nat.lt_of_lt_of_le (Bytes.toNat_lt bs)
    exact Nat.pow_le_pow_right (show 0 < 256 by decide) h
  rw [ofBytes, BitVec.toNat_ofNat, Nat.mod_eq_of_lt hlt]

/-- The bytes of an address are those that it was made of, behind zeros. -/
theorem toBytes_ofBytes (h : bs.length ≤ 20) :
    (ofBytes bs).toBytes = List.replicate (20 - bs.length) 0 ++ bs := by
  apply Bytes.eq_of_toNat_eq
  · rw [toBytes, Bytes.length_ofNat, List.length_append, List.length_replicate]
    omega
  · rw [toNat_toBytes, toNat_ofBytes h, Bytes.toNat_zeros_append]

/-- Byte strings of at most twenty bytes give the same address just when they differ in leading zeros only. -/
theorem ofBytes_eq_ofBytes_iff (hbs : bs.length ≤ 20) (hcs : cs.length ≤ 20) :
    ofBytes bs = ofBytes cs ↔ bs.toNat = cs.toNat := by
  rw [← BitVec.toNat_inj, toNat_ofBytes hbs, toNat_ofBytes hcs]

end

section Decode

variable {s t : List Char} {a b : Address} {bs cs : Bytes}

/-- What is wrong with the digits is handed on unchanged. -/
theorem decode_of_error {e : Hex.Error} (h : Hex.decode s = .error e) :
    decode s = .error (.hex e) := by
  rw [decode, h]

/-- A number of more than twenty bytes is no address, and the text is quoted without the blanks at its
ends. -/
theorem decode_of_long (h : Hex.decode s = .ok bs) (hlong : 20 < bs.length) :
    decode s = .error (.tooLong (Text.trim s)) := by
  rw [decode, h]
  exact if_pos hlong

/-- A number of at most twenty bytes is the address with that number. -/
theorem decode_of_short (h : Hex.decode s = .ok bs) (hshort : bs.length ≤ 20) :
    decode s = .ok (ofBytes bs) := by
  rw [decode, h]
  exact if_neg (Nat.not_lt.2 hshort)

/-- What is read as an address is at most twenty bytes. -/
theorem decode_eq_ok_iff :
    decode s = .ok a ↔ ∃ bs, Hex.decode s = .ok bs ∧ bs.length ≤ 20 ∧ a = ofBytes bs := by
  constructor
  · intro h
    cases hread : Hex.decode s with
    | error e =>
      rw [decode_of_error hread] at h
      cases h
    | ok bs =>
      by_cases hshort : bs.length ≤ 20
      · rw [decode_of_short hread hshort] at h
        exact ⟨bs, rfl, hshort, (Except.ok.inj h).symm⟩
      · rw [decode_of_long hread (Nat.lt_of_not_le hshort)] at h
        cases h
  · rintro ⟨bs, hread, hshort, rfl⟩
    exact decode_of_short hread hshort

/-- The bytes of what is read as an address. -/
theorem eq_ofBytes_of_decode (h : decode s = .ok a) (hread : Hex.decode s = .ok bs) :
    bs.length ≤ 20 ∧ a = ofBytes bs := by
  obtain ⟨bs', hread', hshort, ha⟩ := decode_eq_ok_iff.1 h
  obtain rfl := Except.ok.inj (hread.symm.trans hread')
  exact ⟨hshort, ha⟩

/-- The digits of an address are read back as that address. -/
theorem decode_encode (a : Address) : decode (Hex.encode a.toBytes) = .ok a := by
  have hlength : a.toBytes.length ≤ 20 := Nat.le_of_eq (Bytes.length_ofNat 20 a.toNat)
  rw [decode_of_short (Hex.decode_encode a.toBytes) hlength, ofBytes_toBytes]

/-- What it is for a text to be read as the number of an address. -/
structure ReadAsNumber (s : List Char) : Prop where
  accepts : (∃ a, decode s = .ok a) ↔ ∃ bs, Hex.decode s = .ok bs ∧ bs.length ≤ 20
  /-- The bytes of the address are those of the text behind zeros. -/
  toBytes_eq : ∀ a bs, decode s = .ok a → Hex.decode s = .ok bs →
    a.toBytes = List.replicate (20 - bs.length) 0 ++ bs ∧ a.toBytes.length = 20 ∧
      Bytes.toNat a.toBytes = bs.toNat
  /-- Two texts name the same address if their bytes stand for the same number, and only then. -/
  eq_iff : ∀ t a b bs cs, decode s = .ok a → decode t = .ok b → Hex.decode s = .ok bs →
    Hex.decode t = .ok cs → (a = b ↔ bs.toNat = cs.toNat)
  /-- So zeros in front do not matter. -/
  zeros : ∀ t n bs, Hex.decode s = .ok bs → Hex.decode t = .ok (List.replicate n 0 ++ bs) →
    n + bs.length ≤ 20 → decode t = decode s
  /-- More than twenty bytes are refused, whatever they are. -/
  tooLong : ∀ bs, Hex.decode s = .ok bs → 20 < bs.length →
    decode s = .error (.tooLong (Text.trim s))
  /-- What is no hexadecimal text is refused as such. -/
  notHex : ∀ e, Hex.decode s = .error e →
    decode s = .error (.hex e) ∧ (Error.hex e).message = e.message

/-- **An address is read as a number**, that of the bytes of the text, if there are at most twenty
of them; and every address can be written so that it is read. -/
theorem decode_as_number :
    (∀ s, ReadAsNumber s) ∧ ∀ a : Address, decode (Hex.encode a.toBytes) = .ok a := by
  refine ⟨fun s => ?_, decode_encode⟩
  constructor
  · constructor
    · rintro ⟨a, h⟩
      obtain ⟨bs, hread, hshort, -⟩ := decode_eq_ok_iff.1 h
      exact ⟨bs, hread, hshort⟩
    · rintro ⟨bs, hread, hshort⟩
      exact ⟨ofBytes bs, decode_of_short hread hshort⟩
  · intro a bs h hread
    obtain ⟨hshort, rfl⟩ := eq_ofBytes_of_decode h hread
    refine ⟨toBytes_ofBytes hshort, Bytes.length_ofNat 20 _, ?_⟩
    rw [toNat_toBytes, toNat_ofBytes hshort]
  · intro t a b bs cs hs ht hbs hcs
    obtain ⟨hshort, rfl⟩ := eq_ofBytes_of_decode hs hbs
    obtain ⟨hshort', rfl⟩ := eq_ofBytes_of_decode ht hcs
    exact ofBytes_eq_ofBytes_iff hshort hshort'
  · intro t n bs hs ht hshort
    have hlength : (List.replicate n 0 ++ bs).length ≤ 20 := by
      rw [List.length_append, List.length_replicate]
      exact hshort
    rw [decode_of_short ht hlength, decode_of_short hs (by omega)]
    congr 1
    rw [ofBytes_eq_ofBytes_iff hlength (by omega), Bytes.toNat_zeros_append]
  · intro bs hread hlong
    exact decode_of_long hread hlong
  · intro e h
    exact ⟨decode_of_error h, rfl⟩

/-- Zeros in front do not matter, but no more than twenty bytes are taken. -/
example : decode "0x0001".toList = decode "01".toList ∧
    decode (List.replicate 42 '0') = .error (.tooLong (List.replicate 42 '0')) := by
  decide

end Decode

end EvmScope.Address

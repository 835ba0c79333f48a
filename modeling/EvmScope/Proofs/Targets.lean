import EvmScope.Proofs.Presentation
import EvmScope.Target

/-!
# Targets by what they hold

A target is resolved by characters that are not blank. Blanks around it do not count, and neither
do those in the file that it names, wherever they stand; such a file is read as if its other
characters were written in its place. A file that cannot be read as a text is an error of its own
kind, and a target that names a file is never taken for hexadecimal text itself.
-/

namespace EvmScope

set_option autoImplicit false

open Text

namespace Text

/-- A text into which blanks have been put, anywhere. -/
inductive Interspersed : List Char → List Char → Prop
  | nil : Interspersed [] []
  | blank {s t : List Char} (b : Char) (hb : isBlank b = true) (h : Interspersed s t) :
      Interspersed s (b :: t)
  | char {s t : List Char} (c : Char) (h : Interspersed s t) : Interspersed (c :: s) (c :: t)

/-- Blanks that are put into a text make no difference once all blanks are taken out. -/
theorem Interspersed.withoutBlanks_eq {s t : List Char} (h : Interspersed s t) :
    withoutBlanks t = withoutBlanks s := by
  induction h with
  | nil => rfl
  | blank b hb h ih =>
    rw [withoutBlanks, List.filter_cons_of_neg (by simp [hb])]
    exact ih
  | @char s t c h ih =>
    rw [withoutBlanks, withoutBlanks, List.filter_cons, List.filter_cons, ← withoutBlanks,
      ← withoutBlanks, ih]

end Text

namespace Hex

/-- Blanks at the ends of a text do not matter to what is read. -/
theorem decode_trim (s : List Char) : decode (trim s) = decode s := by
  rw [decode, decode, core, trim_trim, ← core]

end Hex

namespace Target

variable {fs : FileSystem} {target text : List Char}

/-- A target names a regular file, and this is what comes of reading it. A target of blanks names
none. -/
structure Names (fs : FileSystem) (target : List Char) (read : Except IoError Bytes) : Prop where
  ne_nil : trim target ≠ []
  holds : fs (trim target) = some read

/-- A target names a regular file that holds a text. -/
def Holds (fs : FileSystem) (target text : List Char) : Prop :=
  ∃ bs, Names fs target (.ok bs) ∧ ofUtf8? bs = some text

/-- A target names a regular file that cannot be read as a text. -/
inductive Unreadable (fs : FileSystem) (target : List Char) : FileSystem.ReadError.Cause → Prop
  | notUtf8 {bs : Bytes} (h : Names fs target (.ok bs)) (hbad : ofUtf8? bs = none) :
    Unreadable fs target .notUtf8
  | failed {why : IoError} (h : Names fs target (.error why)) : Unreadable fs target (.failed why)

/-- A target names no regular file. -/
def NamesNothing (fs : FileSystem) (target : List Char) : Prop :=
  ∀ read, ¬Names fs target read

/-- A target names a file with a text, a file without one, or no file. -/
theorem names_cases (fs : FileSystem) (target : List Char) :
    (∃ text, Holds fs target text) ∨ (∃ cause, Unreadable fs target cause) ∨
      NamesNothing fs target := by
  by_cases hnames : ∃ read, Names fs target read
  · obtain ⟨why | bs, hread⟩ := hnames
    · exact .inr (.inl ⟨_, .failed hread⟩)
    · cases htext : ofUtf8? bs with
      | some text => exact .inl ⟨text, bs, hread, htext⟩
      | none => exact .inr (.inl ⟨_, .notUtf8 hread htext⟩)
  · exact .inr (.inr fun read hread => hnames ⟨read, hread⟩)

theorem Names.file? {read : Except IoError Bytes} (h : Names fs target read) :
    file? fs target = some (trim target) := by
  rw [Target.file?]
  exact if_pos ⟨h.ne_nil, by rw [h.holds]; rfl⟩

theorem NamesNothing.file? (h : NamesNothing fs target) : file? fs target = none := by
  rw [Target.file?]
  apply if_neg
  rintro ⟨hne, hsome⟩
  obtain ⟨read, hread⟩ := Option.isSome_iff_exists.1 hsome
  exact h read ⟨hne, hread⟩

/-- What a file holds counts, whatever its name would stand for. -/
theorem resolve_of_holds (h : Holds fs target text) :
    resolve fs target = (Hex.decode (withoutBlanks text)).mapError .hex := by
  obtain ⟨bs, hnames, htext⟩ := h
  have hread : fs.readText (trim target) = .ok text := by
    simp only [FileSystem.readText, hnames.holds, htext]
  rw [resolve, hnames.file?]
  dsimp only
  rw [hread]

/-- A file that cannot be read as a text is an error that tells its path and the cause. -/
theorem resolve_of_unreadable {cause : FileSystem.ReadError.Cause}
    (h : Unreadable fs target cause) :
    resolve fs target = .error (.unreadable ⟨trim target, cause⟩) := by
  cases h with
  | notUtf8 hnames hbad =>
    have hread : fs.readText (trim target) = .error ⟨trim target, .notUtf8⟩ := by
      simp only [FileSystem.readText, hnames.holds, hbad]
    rw [resolve, hnames.file?]
    dsimp only
    rw [hread]
  | @failed why hnames =>
    have hread : fs.readText (trim target) = .error ⟨trim target, .failed why⟩ := by
      simp only [FileSystem.readText, hnames.holds]
    rw [resolve, hnames.file?]
    dsimp only
    rw [hread]

/-- A target that names no file is read as digits. -/
theorem resolve_of_namesNothing (h : NamesNothing fs target) :
    resolve fs target = (Hex.decode target).mapError .hex := by
  rw [resolve, h.file?, Hex.decode_trim]

theorem mapError_hex_ne_unreadable (s : List Char) (e : FileSystem.ReadError) :
    (Hex.decode s).mapError Error.hex ≠ .error (.unreadable e) := by
  cases Hex.decode s <;> nofun

/-- The error about a file comes from a target that names one, and from nothing else. -/
theorem resolve_eq_unreadable_iff {e : FileSystem.ReadError} :
    resolve fs target = .error (.unreadable e) ↔
      Unreadable fs target e.cause ∧ e.path = trim target := by
  constructor
  · intro herror
    rcases names_cases fs target with ⟨text, h⟩ | ⟨cause, h⟩ | h
    · rw [resolve_of_holds h] at herror
      exact absurd herror (mapError_hex_ne_unreadable _ _)
    · rw [resolve_of_unreadable h] at herror
      cases herror
      exact ⟨h, rfl⟩
    · rw [resolve_of_namesNothing h] at herror
      exact absurd herror (mapError_hex_ne_unreadable _ _)
  · rintro ⟨h, hpath⟩
    rw [resolve_of_unreadable h, ← hpath]

/-- A target is resolved by what it is between the blanks at its ends. -/
theorem resolve_congr {target' : List Char} (h : trim target = trim target') :
    resolve fs target = resolve fs target' := by
  rw [resolve, resolve, Target.file?, Target.file?, h]

/-- What it is for a target to be resolved by what it holds, whatever its layout. -/
structure ResolvedByContent (fs : FileSystem) (target : List Char) : Prop where
  /-- Blanks around a target do not count. -/
  around : ∀ front back, AllBlank front → AllBlank back →
    resolve fs (front ++ target ++ back) = resolve fs target
  /-- What a file holds counts, and not what its name would stand for. -/
  precedence : ∀ text, Holds fs target text →
    resolve fs target = (Hex.decode (withoutBlanks text)).mapError .hex
  /-- Files of the same characters, but for blanks, stand for the same. -/
  content : ∀ fs' target' text text', Holds fs target text → Holds fs' target' text' →
    withoutBlanks text = withoutBlanks text' → resolve fs target = resolve fs' target'
  /-- The characters of a file could as well be the target, unless they name a file themselves. -/
  inPlace : ∀ text, Holds fs target text → NamesNothing fs (withoutBlanks text) →
    resolve fs target = resolve fs (withoutBlanks text)
  /-- Digits are found wherever blanks have been put between them. -/
  interspersed : ∀ (text marker digits : List Char) (bs : Bytes), Holds fs target text →
    marker ∈ Hex.markers → SameButCapitals digits (Hex.encode bs) →
    Interspersed (marker ++ digits) text → resolve fs target = .ok bs
  /-- Without a file the target itself is read. -/
  itself : NamesNothing fs target → resolve fs target = (Hex.decode target).mapError .hex
  /-- A file that cannot be read as a text is an error of its own kind. -/
  unreadable : ∀ e, resolve fs target = .error (.unreadable e) ↔
    Unreadable fs target e.cause ∧ e.path = trim target
  /-- All other errors are those of hexadecimal text. -/
  otherwise : ∀ e, resolve fs target = .error e → (∀ cause, ¬Unreadable fs target cause) →
    ∃ cause, e = .hex cause

/-- **A target is resolved by what it holds**, in a file or itself, whatever its layout. -/
theorem resolved_by_content (fs : FileSystem) (target : List Char) :
    ResolvedByContent fs target := by
  constructor
  · intro front back hfront hback
    apply resolve_congr
    exact trim_append hfront target hback
  · intro text h
    exact resolve_of_holds h
  · intro fs' target' text text' h h' hsame
    rw [resolve_of_holds h, resolve_of_holds h', hsame]
  · intro text h hnothing
    rw [resolve_of_holds h, resolve_of_namesNothing hnothing]
  · intro text marker digits bs h hmarker hdigits hinter
    have htext : withoutBlanks text = marker ++ digits := by
      rw [hinter.withoutBlanks_eq]
      exact withoutBlanks_eq_self (Hex.isBlank_of_mem_presented hmarker hdigits)
    rw [resolve_of_holds h, htext, Hex.decode_marker_append hmarker hdigits]
    rfl
  · exact resolve_of_namesNothing
  · intro e
    exact resolve_eq_unreadable_iff
  · intro e h hreadable
    cases e with
    | hex cause => exact ⟨cause, rfl⟩
    | unreadable e => exact absurd (resolve_eq_unreadable_iff.1 h).1 (hreadable e.cause)

/-- A file comes first even if its name would do as hexadecimal text, and blanks may divide what it
holds anywhere. -/
example :
    let fs : FileSystem := fun path =>
      if path = ['0', '0'] then some (.ok (utf8 "0\nx a\tb".toList)) else none
    resolve fs " 00".toList = .ok [0xab] ∧ resolve fs "0000".toList = .ok [0, 0] := by
  decide

end Target

end EvmScope

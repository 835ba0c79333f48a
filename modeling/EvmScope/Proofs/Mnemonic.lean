import Mathlib.Data.List.Nodup
import Mathlib.Data.List.Pairwise
import EvmScope.Opcode

/-!
# Mnemonics

The table of opcodes holds no mnemonic twice, and every mnemonic is made of capital letters and
digits. So a mnemonic names one opcode, and none is taken for the label of an undefined one.
-/

namespace EvmScope.Opcode

set_option autoImplicit false

/-- The number that the bytes of a text stand for; the table is searched for equal ones. -/
def textKey (s : String) : Nat :=
  s.toByteArray.data.toList.foldl (fun n b => 256 * n + b.toNat) 0

/-- No mnemonic stands in the table twice. -/
theorem nodup_mnemonics : (runs.flatMap (·.2)).Nodup :=
  List.Nodup.of_map textKey (by decide +kernel)

theorem isUpper_or_isDigit_of_mem_runs :
    ∀ run ∈ runs, ∀ s ∈ run.2, s.toList.all fun c => c.isUpper || c.isDigit := by
  decide +kernel

/-- A mnemonic stands in one of the runs, at the distance of its opcode from the first of the
run. -/
theorem mem_runs_of_mnemonic? {op : Opcode} {s : String} (h : mnemonic? op = some s) :
    ∃ run ∈ runs, run.1 ≤ op.toNat ∧ run.2[op.toNat - run.1]? = some s := by
  obtain ⟨run, hrun, hs⟩ := List.exists_of_findSome?_eq_some h
  split at hs
  · next hle => exact ⟨run, hrun, hle, hs⟩
  · simp at hs

/-- A mnemonic names one opcode. -/
theorem mnemonic?_inj {op op' : Opcode} {s : String} (h : mnemonic? op = some s)
    (h' : mnemonic? op' = some s) : op = op' := by
  obtain ⟨run, hrun, hle, hs⟩ := mem_runs_of_mnemonic? h
  obtain ⟨run', hrun', hle', hs'⟩ := mem_runs_of_mnemonic? h'
  obtain ⟨hnodup, hdisjoint⟩ := List.nodup_flatMap.1 nodup_mnemonics
  have : Std.Symm (Function.onFun List.Disjoint fun run : Nat × List String => run.2) :=
    ⟨fun _ _ hd _ h h' => hd h' h⟩
  have heq : run = run' := by
    by_contra hne
    exact hdisjoint.forall hrun hrun' hne (List.mem_of_getElem? hs) (List.mem_of_getElem? hs')
  subst heq
  have hlt : op.toNat - run.1 < run.2.length := (List.getElem?_eq_some_iff.1 hs).1
  have hidx : op.toNat - run.1 = op'.toNat - run.1 :=
    (List.getElem?_inj hlt (hnodup run hrun)).1 (hs.trans hs'.symm)
  apply UInt8.toNat_inj.1
  omega

/-- A mnemonic is made of capital letters and digits. -/
theorem isUpper_or_isDigit_of_mem_mnemonic {op : Opcode} {s : String} {c : Char}
    (h : mnemonic? op = some s) (hc : c ∈ s.toList) : c.isUpper = true ∨ c.isDigit = true := by
  obtain ⟨run, hrun, -, hs⟩ := mem_runs_of_mnemonic? h
  have hall := isUpper_or_isDigit_of_mem_runs run hrun s (List.mem_of_getElem? hs)
  exact Bool.or_eq_true_iff.1 (List.all_eq_true.1 hall c hc)

/-- No mnemonic is the label of an undefined opcode. -/
theorem mnemonic?_ne_unknown {op : Opcode} {s : String} (h : mnemonic? op = some s) :
    s ≠ "unknown" := by
  rintro rfl
  have hc := isUpper_or_isDigit_of_mem_mnemonic h (c := 'u') (by decide)
  revert hc
  decide

theorem name_of_mnemonic? {op : Opcode} {s : String} (h : mnemonic? op = some s) :
    op.name = s := by
  rw [name, h, Option.getD_some]

/-- All undefined opcodes have the same name, which is no mnemonic. -/
theorem name_of_undefined {op : Opcode} (h : mnemonic? op = none) : op.name = "unknown" := by
  rw [name, h, Option.getD_none]

/-- The name of an opcode tells it from all others, but not the undefined ones from each other. -/
theorem name_eq_name_iff {op op' : Opcode} :
    op.name = op'.name ↔ op = op' ∨ (mnemonic? op = none ∧ mnemonic? op' = none) := by
  constructor
  · intro h
    cases hs : mnemonic? op with
    | none =>
      cases hs' : mnemonic? op' with
      | none => exact .inr ⟨rfl, rfl⟩
      | some s' =>
        rw [name_of_undefined hs, name_of_mnemonic? hs'] at h
        exact absurd h.symm (mnemonic?_ne_unknown hs')
    | some s =>
      cases hs' : mnemonic? op' with
      | none =>
        rw [name_of_mnemonic? hs, name_of_undefined hs'] at h
        exact absurd h (mnemonic?_ne_unknown hs)
      | some s' =>
        rw [name_of_mnemonic? hs, name_of_mnemonic? hs'] at h
        exact .inl (mnemonic?_inj hs (h ▸ hs'))
  · rintro (rfl | ⟨hs, hs'⟩)
    · rfl
    · rw [name_of_undefined hs, name_of_undefined hs']

/-- A name holds letters and digits only, so it ends where a blank or a new line begins. -/
theorem isAlphanum_of_mem_name {op : Opcode} {c : Char} (hc : c ∈ op.name.toList) :
    c.isAlphanum = true := by
  cases hs : mnemonic? op with
  | none =>
    rw [name_of_undefined hs] at hc
    have hall : "unknown".toList.all Char.isAlphanum = true := by decide
    exact List.all_eq_true.1 hall c hc
  | some s =>
    rw [name_of_mnemonic? hs] at hc
    have hkinds : c.isAlphanum = (c.isUpper || c.isLower || c.isDigit) := rfl
    rcases isUpper_or_isDigit_of_mem_mnemonic hs hc with h | h <;> simp [hkinds, h]

/-- The opcodes with an operand are all defined. -/
theorem mnemonic?_ne_none_of_isPush {op : Opcode} (h : op.isPush = true) :
    mnemonic? op ≠ none := by
  intro hnone
  have hrun := List.findSome?_eq_none_iff.1 hnone
    (0x60, (List.range' 1 32).map fun n => s!"PUSH{n}") (by simp [runs])
  simp only [isPush, Bool.and_eq_true, decide_eq_true_eq, UInt8.le_iff_toNat_le] at h
  have hlo : 0x60 ≤ op.toNat := h.1
  have hhi : op.toNat ≤ 0x7f := h.2
  rw [if_pos hlo, List.getElem?_eq_none_iff, List.length_map, List.length_range'] at hrun
  omega

end EvmScope.Opcode

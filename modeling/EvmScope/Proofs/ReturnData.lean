import EvmScope.Bytes.Lemmas
import EvmScope.Proofs.InterpreterOutput
import EvmScope.Proofs.Nesting

/-!
# What a call returns

What a call returns is settled by its last step, which is always one of the outermost frame: RETURN
hands back a range of the memory, and STOP and SELFDESTRUCT hand back nothing. The last record of a
trace shows the operands of that step and the memory before it. RETURN may still grow the memory,
but only by zeros, so the record tells every byte that is returned.
-/

namespace EvmScope

set_option autoImplicit false

/-- Some data is what a memory holds from an offset on, with zeros where the memory has ended. -/
structure HeldFrom (memory : Array UInt8) (offset length : Nat) (data : Bytes) : Prop where
  length_eq : data.length = length
  byte : ∀ k < length, data[k]? = some (memory[offset + k]?.getD 0)

/-- The zeros that extend a memory cannot be told from its end. -/
theorem HandedBack.heldFrom {memory : Array UInt8} {offset size : Word} {data : Bytes}
    (h : HandedBack memory offset size data) : HeldFrom memory offset.toNat size.toNat data := by
  obtain ⟨zeros, hcovers, rfl⟩ := h
  have hfits : size.toNat = 0 ∨
      offset.toNat + size.toNat ≤ (memory ++ Array.replicate zeros 0).size := by
    by_cases hempty : size = 0
    · exact .inl (by rw [hempty]; rfl)
    · exact .inr (hcovers hempty)
  constructor
  · rw [Array.length_toList, Array.size_extract]
    omega
  · intro k hk
    have hinside : offset.toNat + k < (memory ++ Array.replicate zeros 0).size := by omega
    rw [Array.getElem?_toList, Array.getElem?_extract_of_lt (by omega),
      ← Bytes.getD_append_zeros memory zeros, Array.getElem?_eq_getElem hinside, Option.getD_some]

/-- What it is for the data that a call returns to agree with the last of its records. -/
structure ToldByLast (logs : List StepLog) (data : Bytes) : Prop where
  /-- Without a step nothing is returned. -/
  none : logs = [] → data = []
  /-- There is no other way to end. -/
  ends : ∀ last, logs.getLast? = some last → last.op = 0x00 ∨ last.op = 0xf3 ∨ last.op = 0xff
  /-- RETURN hands back the range that the top of its stack names, of the memory that it shows. -/
  returned : ∀ last, logs.getLast? = some last → last.op = 0xf3 →
    ∃ offset length rest, last.stack = offset :: length :: rest ∧
      HeldFrom last.memory offset.toNat length.toNat data
  /-- STOP and SELFDESTRUCT hand back nothing. -/
  silent : ∀ last, logs.getLast? = some last → last.op = 0x00 ∨ last.op = 0xff → data = []

open Vm.Workings in
/-- The last record of a call that succeeds tells what data it returns. -/
theorem toldByLast_trace {vm : Vm} {w : vm.Workings} {tx : TransactionEnv vm.Spec vm.Bytecode}
    {code output : Bytes} {gasUsed : Nat} {i₀ : w.State} {path : List w.State}
    (hnests : w.Nests) (hsignals : w.Signals) (hback : w.HandsBack)
    (h : w.Succeeds tx code i₀ path output gasUsed) : ToldByLast (w.trace path) output := by
  have hlast : ∀ last, (w.trace path).getLast? = some last →
      ∃ i, w.Visits tx code i₀ i ∧ w.ShownBy i last ∧ (w.behind i).result.Sound ∧
        last.op ∈ Opcode.enders ∧ output = w.output (w.instruction i) := by
    intro last hlog
    obtain ⟨i, -, hi, hshown, hended⟩ := h.ended_of_getLast? hlog
    obtain ⟨-, -, hsound, hends⟩ := ends_well hnests hsignals hi hended
    exact ⟨i, hi, hshown, hsound, hshown.op ▸ hends, hback.finished hi hended⟩
  constructor
  · intro hnil
    exact absurd hnil h.trace_ne_nil
  · intro last hlog
    obtain ⟨i, -, -, -, hends, -⟩ := hlast last hlog
    simpa [Opcode.enders] using hends
  · intro last hlog hop
    obtain ⟨i, hi, hshown, hsound, -, rfl⟩ := hlast last hlog
    rw [hshown.op] at hop
    obtain ⟨offset, size, rest, hstack, hhanded⟩ := hback.returned hi hop hsound
    rw [hshown.stack, hshown.memory]
    exact ⟨offset, size, rest, hstack, hhanded.heldFrom⟩
  · intro last hlog hop
    obtain ⟨i, hi, hshown, hsound, -, rfl⟩ := hlast last hlog
    rw [hshown.op] at hop
    exact hback.silent hi hop hsound

open Vm.Workings in
/-- **The last record tells what a call returns**, byte by byte. -/
theorem returnData_told_by_last {vm : Vm} {w : vm.Workings} (hsurrounds : w.Surrounds)
    (hinfallible : vm.Infallible) (hnests : w.Nests) (hsignals : w.Signals) (hback : w.HandsBack)
    {spec : vm.Spec} {code input : Bytes} {ctx : Context} {e : Execution} (hplain : Plain code)
    (htracing : ctx.tracing = true) (hran : vm.execute spec code input ctx = .ran e) :
    ToldByLast e.logs e.returnData := by
  obtain ⟨bytecode, output, gasUsed, ⟨hdone, rfl⟩ | ⟨i₀, path, hdone, rfl⟩⟩ :=
    hsurrounds.exists_success hinfallible hplain hran
  · have hempty : output = [] := hback.codeless hdone.calls hdone.first
    constructor <;> simp [hempty]
  · rw [htracing]
    exact toldByLast_trace hnests hsignals hback hdone

/-- Code that calls itself if it has any input, and then returns a range that begins in its memory
and ends behind it. Without input it returns a single byte. -/
def returnsPastEnd : Bytes :=
  [0x36, 0x60, 0x0c, 0x57, 0x60, 0x07, 0x5f, 0x53, 0x60, 0x01, 0x5f, 0xf3, 0x5b, 0x5f, 0x5f, 0x5f,
    0x5f, 0x5f, 0x30, 0x5a, 0xf1, 0x60, 0x2a, 0x5f, 0x52, 0x60, 0x30, 0x60, 0x10, 0xf3]

/-- Half of a word is returned and zeros after it, and nothing of what the inner frame returned. -/
theorem returned_past_end :
    ∃ e, interpreter.execute .cancun returnsPastEnd [0x01] {} = .ran e ∧
      (e.logs.getLast?.map (fun log => (log.op, log.stack, log.memory.size)), e.returnData) =
        (some (0xf3, [0x10, 0x30, 0x01], 32), List.replicate 15 0 ++ 0x2a :: List.replicate 32 0) ∧
      ToldByLast e.logs e.returnData := by
  have hshown : (interpreter.execute .cancun returnsPastEnd [0x01] {}).execution?.map
      (fun e => (e.logs.getLast?.map (fun log => (log.op, log.stack, log.memory.size)),
        e.returnData)) =
        some (some (0xf3, [0x10, 0x30, 0x01], 32),
          List.replicate 15 0 ++ 0x2a :: List.replicate 32 0) := by
    decide +kernel
  obtain ⟨e, hran, hlast⟩ := Reply.exists_ran hshown
  have hplain : Plain returnsPastEnd := ⟨by decide, by decide⟩
  exact ⟨e, hran, hlast, returnData_told_by_last interpreter_surrounds interpreter_infallible
    interpreter_nests interpreter_signals interpreter_handsBack hplain rfl hran⟩

end EvmScope

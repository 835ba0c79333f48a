import EvmScope.Proofs.InterpreterGas
import EvmScope.Proofs.Nesting

/-!
# Gas in a trace and gas in all

A trace shows the gas of the running frame before each step and what the step has taken of it; a
transaction reports one number at its end. The two agree: from step to step within a frame the
figures follow from each other, and the number at the end is what the outermost frame has lost from
its first step to its last, less a refund. The frames in between forward gas and hand it back, but
together they never have more than the outermost frame began with.
-/

namespace EvmScope

set_option autoImplicit false

/-- What it is for the figures of some records to agree with the gas that is reported. -/
structure Reconciles (logs : List StepLog) (gasUsed : Nat) : Prop where
  /-- A step that stays in its frame leaves it the gas that it has not taken. -/
  within : ∀ (n : Nat) (a b : StepLog), logs[n]? = some a → logs[n + 1]? = some b →
    a.depth = b.depth → a.op ∉ Opcode.openers → a.gasCost ≤ a.gas ∧ b.gas = a.gas - a.gasCost
  /-- What is left at the end is no more than what there was at first. -/
  left : ∀ first last, logs.head? = some first → logs.getLast? = some last →
    last.gasCost ≤ last.gas ∧ last.gas - last.gasCost ≤ first.gas
  /-- What is reported is no more than what has been lost in between. -/
  used_le : ∀ first last, logs.head? = some first → logs.getLast? = some last →
    gasUsed ≤ first.gas - (last.gas - last.gasCost)
  /-- Without refunds it is just as much. -/
  used_eq : ∀ first last, logs.head? = some first → logs.getLast? = some last →
    (∀ log ∈ logs, log.op ≠ 0x55 ∧ log.op ≠ 0xff) →
    gasUsed = first.gas - (last.gas - last.gasCost)
  unused : logs = [] → gasUsed = 0

/-- Without any step no gas is reported. -/
theorem reconciles_nil : Reconciles [] 0 := by
  constructor <;> simp

namespace Vm.Workings

variable {vm : Vm} {w : vm.Workings} {tx : TransactionEnv vm.Spec vm.Bytecode} {code output : Bytes}
  {gasUsed n : Nat} {i₀ i j : w.State} {path : List w.State} {log next : StepLog}

/-- What all frames have together. -/
def gasTotal (w : vm.Workings) (i : w.State) : Nat :=
  (w.frame i).gas + ((w.waiting i).map FrameView.gas).sum

/-- No frame has a refund. -/
structure Unrefunded (w : vm.Workings) (i : w.State) : Prop where
  running : (w.frame i).refund = 0
  waiting : ∀ f ∈ w.waiting i, f.refund = 0

section Steps

variable (hmeters : w.Meters) (hi : w.Visits tx code i₀ i)
  (hwaiting : w.waiting (w.instruction i) = w.waiting i)
  (hnext : w.onward (w.instruction i) = .running j)

include hmeters hi hwaiting hnext

/-- No step makes gas, whatever frames it opens or leaves. -/
theorem Moves.gasTotal_le (h : w.Moves i j) : w.gasTotal j ≤ w.gasTotal i := by
  have hspent := hmeters.spends hi
  unfold gasTotal
  cases h with
  | stays hsound hflow =>
    rw [hwaiting]
    exact Nat.add_le_add_right hspent _
  | answered hsound hflow hopens hsame hplace =>
    rw [hsame]
    exact Nat.add_le_add_right (hmeters.answered hi hflow hnext hsame).1 _
  | rises hsound hflow hopens hopened hpc =>
    have hgranted := (hmeters.opened hi hflow hnext hopened).1
    rw [hopened, List.map_cons, List.sum_cons]
    omega
  | falls hflow hends hreturned hplace =>
    have hback := (hmeters.returned hi hflow hreturned hnext).1
    rw [hreturned, List.map_cons, List.sum_cons]
    omega

/-- No step makes a refund but SSTORE and SELFDESTRUCT. -/
theorem Moves.unrefunded (h : w.Moves i j) (hnone : w.Unrefunded i) (hstore : (w.before i).op ≠ 0x55)
    (hdestroy : (w.before i).op ≠ 0xff) : w.Unrefunded j := by
  have hkept : (w.frame (w.instruction i)).refund = 0 :=
    (hmeters.refund hi hstore hdestroy).trans hnone.running
  cases h with
  | stays hsound hflow => exact ⟨hkept, fun f hf => hnone.waiting f (hwaiting ▸ hf)⟩
  | answered hsound hflow hopens hsame hplace =>
    exact ⟨(hmeters.answered hi hflow hnext hsame).2.trans hkept,
      fun f hf => hnone.waiting f (hsame ▸ hf)⟩
  | rises hsound hflow hopens hopened hpc =>
    refine ⟨(hmeters.opened hi hflow hnext hopened).2, fun f hf => ?_⟩
    rw [hopened] at hf
    rcases List.mem_cons.1 hf with rfl | hf
    · exact hkept
    · exact hnone.waiting f hf
  | falls hflow hends hreturned hplace =>
    have hrefunds := hnone.waiting
    rw [hreturned] at hrefunds
    exact ⟨((hmeters.returned hi hflow hreturned hnext).2 hkept).trans
      (hrefunds _ List.mem_cons_self), fun f hf => hrefunds f (List.mem_cons_of_mem _ hf)⟩

end Steps

section Records

variable (hdisplays : w.Displays) (hmeters : w.Meters) (hi : w.Visits tx code i₀ i)
  (h : w.ShownBy i log)

include hdisplays hmeters hi h

/-- An instruction leaves its frame no more gas than it had, and a record shows how much. -/
theorem ShownBy.left_eq :
    log.gasCost ≤ log.gas ∧ log.gas - log.gasCost = (w.frame (w.instruction i)).gas := by
  have hspent := hmeters.spends hi
  rw [h.gasCost, h.gas, hdisplays.gas hi, hdisplays.gasLeft hi]
  omega

/-- Unless a frame is asked for or ends, the gas of the next step is what is left by this one. -/
theorem ShownBy.gas_next (hj : w.Visits tx code i₀ j) (h' : w.ShownBy j next)
    (hmoves : w.Moves i j) (hdepth : log.depth = next.depth) (hop : log.op ∉ Opcode.openers) :
    next.gas = log.gas - log.gasCost := by
  rw [h.depth_eq hdisplays hi, h'.depth_eq hdisplays hj] at hdepth
  rw [h.op] at hop
  cases hmoves with
  | stays hsound hflow =>
    rw [(h.left_eq hdisplays hmeters hi).2, h'.gas, hdisplays.gas hj]
  | answered hsound hflow hopens | rises hsound hflow hopens => exact absurd hopens hop
  | falls hflow hends hreturned hplace =>
    rw [hreturned, List.length_cons] at hdepth
    omega

end Records

section Trace

variable (hdisplays : w.Displays) (hnests : w.Nests) (hsignals : w.Signals) (hmeters : w.Meters)

include hnests hsignals hmeters

/-- All frames together never have more gas than the outermost one has begun with. -/
theorem Visits.gasTotal_le (h : w.Visits tx code i₀ i) : w.gasTotal i ≤ (w.frame i₀).gas := by
  refine h.invariant (P := fun a => w.gasTotal a ≤ (w.frame i₀).gas) ?_ fun a b ha hle hnext => ?_
  · rw [gasTotal, (hnests.first h.start).1]
    exact Nat.le_refl _
  · have hmoves := moves hnests hsignals ha hnext
    exact Nat.le_trans (hmoves.gasTotal_le hmeters ha (hnests.waiting ha) hnext) hle

/-- Without SSTORE and SELFDESTRUCT no frame has a refund. -/
theorem Succeeds.unrefunded (h : w.Succeeds tx code i₀ path output gasUsed)
    (hnone : ∀ i ∈ path, (w.before i).op ≠ 0x55 ∧ (w.before i).op ≠ 0xff) :
    ∀ i ∈ path, w.Unrefunded i := by
  refine h.invariant ⟨hmeters.first h.start, ?_⟩ fun a b ha hzero hnext => ?_
  · rw [(hnests.first h.start).1]
    exact fun f hf => by cases hf
  · have hvisits := h.visits ha
    have hmoves := moves hnests hsignals hvisits hnext
    exact hmoves.unrefunded hmeters hvisits (hnests.waiting hvisits) hnext hzero (hnone a ha).1
      (hnone a ha).2

include hdisplays

/-- The figures of a run that ends well. -/
theorem reconciles_trace (h : w.Succeeds tx code i₀ path output gasUsed) :
    Reconciles (w.trace path) (gasUsed - (vm.intrinsicGas tx.spec tx.input).toNat) := by
  have hfirst : ∀ first, (w.trace path).head? = some first → first.gas = (w.frame i₀).gas :=
    fun first hhead =>
      (h.shownBy_of_head? hhead).gas.trans (hdisplays.gas h.start)
  constructor
  · intro n a b ha hb hdepth hop
    obtain ⟨i, j, hi, hj, hshown, hnext, hshown'⟩ := h.exists_step_between ha hb
    exact ⟨(hshown.left_eq hdisplays hmeters hi).1,
      hshown.gas_next hdisplays hmeters hi hj hshown' (moves hnests hsignals hi hnext) hdepth hop⟩
  · intro first last hhead hlog
    obtain ⟨i, -, hi, hshown, -⟩ := h.ended_of_getLast? hlog
    obtain ⟨hle, hleft⟩ := hshown.left_eq hdisplays hmeters hi
    refine ⟨hle, ?_⟩
    rw [hleft, hfirst first hhead]
    calc (w.frame (w.instruction i)).gas
        ≤ (w.frame i).gas := hmeters.spends hi
      _ ≤ w.gasTotal i := Nat.le_add_right _ _
      _ ≤ (w.frame i₀).gas := hi.gasTotal_le hnests hsignals hmeters
  · intro first last hhead hlog
    obtain ⟨i, -, hi, hshown, hended⟩ := h.ended_of_getLast? hlog
    obtain ⟨refund, hused, -⟩ := hmeters.finished hi hended
    rw [(hshown.left_eq hdisplays hmeters hi).2, hfirst first hhead]
    omega
  · intro first last hhead hlog hnone
    obtain ⟨i, hmem, hi, hshown, hended⟩ := h.ended_of_getLast? hlog
    obtain ⟨refund, hused, hzero⟩ := hmeters.finished hi hended
    have hnone' : ∀ i ∈ path, (w.before i).op ≠ 0x55 ∧ (w.before i).op ≠ 0xff := fun i hi => by
      obtain ⟨n, hn⟩ := List.mem_iff_getElem?.1 hi
      obtain ⟨log, hlog, hshown⟩ := exists_log hn
      rw [← hshown.op]
      exact hnone log (List.mem_of_getElem? hlog)
    have hrefund : (w.frame (w.instruction i)).refund = 0 :=
      (hmeters.refund hi (hnone' i hmem).1 (hnone' i hmem).2).trans
        (h.unrefunded hnests hsignals hmeters hnone' i hmem).running
    rw [hzero hrefund] at hused
    rw [(hshown.left_eq hdisplays hmeters hi).2, hfirst first hhead]
    omega
  · intro hnil
    exact absurd hnil h.trace_ne_nil

end Trace

end Vm.Workings

open Vm.Workings in
/-- **The gas figures of a trace agree with the gas that is reported**, whatever frames there have
been. -/
theorem trace_gas_reconciles {vm : Vm} {w : vm.Workings} (hsurrounds : w.Surrounds)
    (hinfallible : vm.Infallible) (hdisplays : w.Displays) (hnests : w.Nests) (hsignals : w.Signals)
    (hmeters : w.Meters) {spec : vm.Spec} {code input : Bytes} {ctx : Context} {e : Execution}
    (hplain : Plain code) (htracing : ctx.tracing = true)
    (hran : vm.execute spec code input ctx = .ran e) : Reconciles e.logs e.gasUsed := by
  obtain ⟨bytecode, output, gasUsed, ⟨hdone, rfl⟩ | ⟨i₀, path, hdone, rfl⟩⟩ :=
    hsurrounds.exists_success hinfallible hplain hran
  · have hused : gasUsed = (vm.intrinsicGas spec input).toNat :=
      hmeters.codeless hdone.calls hdone.first
    rw [hused, Nat.sub_self]
    exact reconciles_nil
  · rw [htracing]
    exact reconciles_trace hdisplays hnests hsignals hmeters hdone

/-- Code that sets a slot and clears it again. -/
def clearsSlot : Bytes :=
  [0x60, 0x01, 0x5f, 0x55, 0x5f, 0x5f, 0x55, 0x00]

/-- The refund for a slot that is cleared makes what is reported less than what has been lost. -/
theorem cleared_slot_reconciles :
    ∃ e, interpreter.execute .cancun clearsSlot [] {} = .ran e ∧
      (e.logs.head?.map StepLog.gas, e.logs.getLast?.map fun log => log.gas - log.gasCost, e.gasUsed) =
        (some 100000, some 77791, 13568) ∧
      Reconciles e.logs e.gasUsed := by
  have hshown : (interpreter.execute .cancun clearsSlot [] {}).execution?.map
      (fun e => (e.logs.head?.map StepLog.gas,
        e.logs.getLast?.map (fun log => log.gas - log.gasCost), e.gasUsed)) =
        some (some 100000, some 77791, 13568) := by
    decide +kernel
  obtain ⟨e, hran, hfigures⟩ := Reply.exists_ran hshown
  have hplain : Plain clearsSlot := ⟨by decide, by decide⟩
  exact ⟨e, hran, hfigures, trace_gas_reconciles interpreter_surrounds interpreter_infallible
    interpreter_displays interpreter_nests interpreter_signals interpreter_meters hplain rfl hran⟩

end EvmScope

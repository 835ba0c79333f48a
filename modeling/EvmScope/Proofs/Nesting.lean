import EvmScope.Proofs.InterpreterFrames

/-!
# Frames in a trace

A trace has one record a step, whatever frame the step is in, and only the depth tells the frames
apart. `Vm.Workings.Moves` sums up how a step can change the depth: it says what the record before shows
of the step, and what the state behind has to show for it. A run that ends well is a walk of such
steps, from a frame that has just begun to the end of the same frame.
-/

namespace EvmScope

set_option autoImplicit false

namespace Vm.Workings

variable {vm : Vm} {w : vm.Workings} {tx : TransactionEnv vm.Spec vm.Bytecode} {code : Bytes}
  {i₀ i j : w.State} {output : Bytes} {gasUsed : Nat} {path : List w.State}

/-- How a step that does not end the run moves between frames. -/
inductive Moves (w : vm.Workings) (i : w.State) : w.State → Prop
  /-- The same frame goes on. -/
  | stays (hsound : (w.behind i).result.Sound) (hflow : w.flow (w.instruction i) = .continues) :
    Moves w i (w.instruction i)
  /-- What the instruction asks for needs no frame of its own. -/
  | answered {j : w.State} (hsound : (w.behind i).result.Sound)
      (hflow : w.flow (w.instruction i) = .calls) (hopens : (w.before i).op ∈ Opcode.openers)
      (hwaiting : w.waiting j = w.waiting i)
      (hplace : (w.frame (w.instruction i)).SamePlace (w.frame j)) : Moves w i j
  /-- A frame begins. -/
  | rises {j : w.State} (hsound : (w.behind i).result.Sound)
      (hflow : w.flow (w.instruction i) = .calls) (hopens : (w.before i).op ∈ Opcode.openers)
      (hwaiting : w.waiting j = w.frame (w.instruction i) :: w.waiting i)
      (hpc : (w.frame j).pc = 0) : Moves w i j
  /-- A frame ends, well or not. -/
  | falls {j : w.State} {f : FrameView} (hflow : w.flow (w.instruction i) = .halts)
      (hends : (w.behind i).result.Sound → (w.before i).op ∈ Opcode.enders)
      (hwaiting : w.waiting i = f :: w.waiting j) (hplace : f.SamePlace (w.frame j)) : Moves w i j

section Moves

variable (hnests : w.Nests) (hsignals : w.Signals) (hi : w.Visits tx code i₀ i)

include hnests hsignals hi

/-- Whatever frame runs, a step moves by one frame at most. -/
theorem moves (hnext : w.onward (w.instruction i) = .running j) : w.Moves i j := by
  have hturns := hnests.turns hi
  have hwaiting := hnests.waiting hi
  rw [hnext] at hturns
  cases hturns with
  | continues hflow =>
    refine .stays ?_ hflow
    by_contra hunsound
    rw [hsignals.fails hi hunsound] at hflow
    cases hflow
  | opened hflow hopened hpc =>
    obtain ⟨hsound, hopens⟩ := hsignals.calls hi hflow
    rw [hwaiting] at hopened
    exact .rises hsound hflow hopens hopened hpc
  | answered hflow hsame hplace =>
    obtain ⟨hsound, hopens⟩ := hsignals.calls hi hflow
    rw [hwaiting] at hsame
    exact .answered hsound hflow hopens hsame hplace
  | returned hflow hreturned hplace =>
    rw [hwaiting] at hreturned
    exact .falls hflow (hsignals.halts hi hflow) hreturned hplace

/-- A run ends well only in its outermost frame, at an instruction that is there to end frames. -/
theorem ends_well (hended : w.onward (w.instruction i) = .ended (.ok (.success output gasUsed))) :
    w.waiting i = [] ∧ w.flow (w.instruction i) = .halts ∧ (w.behind i).result.Sound ∧
      (w.before i).op ∈ Opcode.enders := by
  have hturns := hnests.turns hi
  rw [hended] at hturns
  cases hturns with
  | finished hflow hwaiting hsound =>
    have hwell := hsound _ _ rfl
    exact ⟨(hnests.waiting hi).symm.trans hwaiting, hflow, hwell, hsignals.halts hi hflow hwell⟩

end Moves

end Vm.Workings

/-- What two records in a row show of the frames between them. -/
inductive Adjoins (a b : StepLog) : Prop
  /-- The same frame goes on. -/
  | stays (herror : a.error = none) (hdepth : b.depth = a.depth)
  /-- A frame begins. -/
  | rises (herror : a.error = none) (hopens : a.op ∈ Opcode.openers) (hdepth : b.depth = a.depth + 1)
      (hpc : b.pc = 0)
  /-- A frame ends, well or not, and another one goes on. -/
  | falls (hends : a.error = none → a.op ∈ Opcode.enders) (hdepth : a.depth = b.depth + 1)
      (hpos : 0 < b.depth)

namespace Vm.Workings

variable {vm : Vm} {w : vm.Workings} {tx : TransactionEnv vm.Spec vm.Bytecode} {code : Bytes}
  {i₀ i j : w.State} {output : Bytes} {gasUsed n : Nat} {path : List w.State} {a b log : StepLog}

/-- A record shows how many frames wait. -/
theorem ShownBy.depth_eq (hdisplays : w.Displays) (hi : w.Visits tx code i₀ i) (h : w.ShownBy i log) :
    log.depth = (w.waiting i).length + 1 :=
  h.depth.trans (hdisplays.depth hi)

/-- Records in a row show what the step between them has done to the frames. -/
theorem Moves.adjoins (hdisplays : w.Displays) (hi : w.Visits tx code i₀ i)
    (hj : w.Visits tx code i₀ j) (hwaiting : w.waiting (w.instruction i) = w.waiting i)
    (h : w.Moves i j) (ha : w.ShownBy i a) (hb : w.ShownBy j b) : Adjoins a b := by
  have hdepth := ha.depth_eq hdisplays hi
  have hdepth' := hb.depth_eq hdisplays hj
  cases h with
  | stays hsound hflow =>
    rw [hwaiting] at hdepth'
    exact .stays (ha.error_eq_none_iff.2 hsound) (hdepth'.trans hdepth.symm)
  | answered hsound hflow hopens hsame hplace =>
    rw [hsame] at hdepth'
    exact .stays (ha.error_eq_none_iff.2 hsound) (hdepth'.trans hdepth.symm)
  | rises hsound hflow hopens hopened hpc =>
    rw [hopened, List.length_cons, ← hdepth] at hdepth'
    refine .rises (ha.error_eq_none_iff.2 hsound) (ha.op ▸ hopens) hdepth' ?_
    rw [hb.pc, hdisplays.pc hj, hpc]
  | falls hflow hends hreturned hplace =>
    rw [hreturned, List.length_cons, ← hdepth'] at hdepth
    refine .falls (fun herror => ?_) hdepth (hdepth' ▸ Nat.succ_pos _)
    rw [ha.op]
    exact hends (ha.error_eq_none_iff.1 herror)

section Trace

variable (hdisplays : w.Displays) (hnests : w.Nests) (hsignals : w.Signals)
  (h : w.Succeeds tx code i₀ path output gasUsed)

include hdisplays hnests hsignals h

/-- The records of a path show its moves. -/
theorem adjoins_of_getElem? (ha : (w.trace path)[n]? = some a)
    (hb : (w.trace path)[n + 1]? = some b) : Adjoins a b := by
  obtain ⟨i, j, hi, hj, hshown, hnext, hshown'⟩ := h.exists_step_between ha hb
  have hmoves := moves hnests hsignals hi hnext
  exact hmoves.adjoins hdisplays hi hj (hnests.waiting hi) hshown hshown'

/-- A record with an error is followed by one of a shallower frame. -/
theorem exists_shallower_of_error (ha : (w.trace path)[n]? = some a) (herror : a.error ≠ none) :
    ∃ b, (w.trace path)[n + 1]? = some b ∧ a.depth = b.depth + 1 ∧ 0 < b.depth := by
  obtain ⟨i, -, hi, hshown, ⟨j, b, -, -, hb, -⟩ | ⟨hended, -⟩⟩ := h.exists_step ha
  · cases adjoins_of_getElem? hdisplays hnests hsignals h ha hb with
    | stays hnone | rises hnone => exact absurd hnone herror
    | falls hends hdepth hpos => exact ⟨b, hb, hdepth, hpos⟩
  · obtain ⟨-, -, hsound, -⟩ := ends_well hnests hsignals hi hended
    exact absurd (hshown.error_eq_none_iff.2 hsound) herror

end Trace

end Vm.Workings

/-- What it is for records to be those of frames that are entered and left one inside the other. -/
structure WellNested (logs : List StepLog) : Prop where
  /-- At first the outermost frame begins. -/
  first : ∀ log, logs.head? = some log → log.depth = 1 ∧ log.pc = 0
  /-- At last the outermost frame ends, and it ends well. -/
  last : ∀ log, logs.getLast? = some log →
    log.depth = 1 ∧ log.error = none ∧ log.op ∈ Opcode.enders
  near : ∀ (n : Nat) (a b : StepLog), logs[n]? = some a → logs[n + 1]? = some b →
    a.depth ≤ b.depth + 1 ∧ b.depth ≤ a.depth + 1
  /-- Only calls and creations lead to a deeper frame, which runs from the start of its code. -/
  rises : ∀ (n : Nat) (a b : StepLog), logs[n]? = some a → logs[n + 1]? = some b →
    a.depth < b.depth → a.error = none ∧ a.op ∈ Opcode.openers ∧ b.pc = 0
  /-- Only frames that end lead back. -/
  falls : ∀ (n : Nat) (a b : StepLog), logs[n]? = some a → logs[n + 1]? = some b →
    b.depth < a.depth → (a.error = none ∧ a.op ∈ Opcode.enders) ∨ a.error ≠ none
  /-- An error ends its frame at once, and another one goes on. -/
  faulty : ∀ (n : Nat) (a : StepLog), logs[n]? = some a → a.error ≠ none →
    ∃ b, logs[n + 1]? = some b ∧ a.depth = b.depth + 1
  /-- The outermost frame has no errors. -/
  outermost : ∀ log ∈ logs, log.depth = 1 → log.error = none

theorem wellNested_nil : WellNested [] := by
  constructor <;> simp

open Vm.Workings in
/-- A run that ends well is well nested: each step moves by one frame at most. -/
theorem wellNested_trace {vm : Vm} {w : vm.Workings} {tx : TransactionEnv vm.Spec vm.Bytecode}
    {code output : Bytes} {gasUsed : Nat} {i₀ : w.State} {path : List w.State}
    (hdisplays : w.Displays) (hnests : w.Nests) (hsignals : w.Signals)
    (h : w.Succeeds tx code i₀ path output gasUsed) : WellNested (w.trace path) := by
  have hadjoins := fun n a b => adjoins_of_getElem? (n := n) (a := a) (b := b) hdisplays hnests hsignals h
  have hshallower := fun n a => exists_shallower_of_error (n := n) (a := a) hdisplays hnests hsignals h
  constructor
  · intro log hlog
    have hshown := h.shownBy_of_head? hlog
    obtain ⟨hwaiting, hpc⟩ := hnests.first h.start
    refine ⟨?_, hshown.pc.trans ((hdisplays.pc h.start).trans hpc)⟩
    rw [hshown.depth_eq hdisplays h.start, hwaiting, List.length_nil]
  · intro log hlog
    obtain ⟨i, -, hi, hshown, hended⟩ := h.ended_of_getLast? hlog
    obtain ⟨hwaiting, -, hsound, hends⟩ := ends_well hnests hsignals hi hended
    refine ⟨?_, hshown.error_eq_none_iff.2 hsound, hshown.op ▸ hends⟩
    rw [hshown.depth_eq hdisplays hi, hwaiting, List.length_nil]
  · intro n a b ha hb
    cases hadjoins n a b ha hb <;> omega
  · intro n a b ha hb hdeeper
    cases hadjoins n a b ha hb with
    | rises herror hopens hdepth hpc => exact ⟨herror, hopens, hpc⟩
    | stays _ hdepth | falls _ hdepth => omega
  · intro n a b ha hb hlower
    cases hadjoins n a b ha hb with
    | falls hends hdepth hpos =>
      by_cases herror : a.error = none
      · exact .inl ⟨herror, hends herror⟩
      · exact .inr herror
    | stays _ hdepth | rises _ _ hdepth => omega
  · intro n a ha herror
    obtain ⟨b, hb, hdepth, -⟩ := hshallower n a ha herror
    exact ⟨b, hb, hdepth⟩
  · intro log hlog hdepth
    obtain ⟨n, hn⟩ := List.mem_iff_getElem?.1 hlog
    by_contra herror
    obtain ⟨b, -, hlower, hpos⟩ := hshallower n log hn herror
    omega

open Vm.Workings in
/-- **The trace of a call that succeeds is a walk over nested frames**, and it is empty only for
want of code. -/
theorem trace_well_nested {vm : Vm} {w : vm.Workings} (hsurrounds : w.Surrounds)
    (hinfallible : vm.Infallible) (hdisplays : w.Displays) (hnests : w.Nests) (hsignals : w.Signals)
    {spec : vm.Spec} {code input : Bytes} {ctx : Context} {e : Execution} (hplain : Plain code)
    (htracing : ctx.tracing = true) (hran : vm.execute spec code input ctx = .ran e) :
    (e.logs = [] ↔ code = []) ∧ WellNested e.logs := by
  obtain ⟨bytecode, output, gasUsed, ⟨hdone, rfl⟩ | ⟨i₀, path, hdone, rfl⟩⟩ :=
    hsurrounds.exists_success hinfallible hplain hran
  · have hempty : code = [] := by
      by_contra hne
      exact hnests.coded hdone.calls hne hdone.first
    exact ⟨iff_of_true rfl hempty, wellNested_nil⟩
  · have hcode : code ≠ [] := by
      rintro rfl
      exact hnests.codeless hdone.calls hdone.first
    rw [htracing]
    exact ⟨iff_of_false hdone.trace_ne_nil hcode, wellNested_trace hdisplays hnests hsignals hdone⟩

/-- Code that calls itself if it has any input, and reverts if it has none. -/
def revertsInside : Bytes :=
  [0x36, 0x60, 0x08, 0x57, 0x5f, 0x5f, 0xfd, 0x00, 0x5b, 0x5f, 0x5f, 0x5f, 0x5f, 0x5f, 0x30, 0x5a,
    0xf1, 0x00]

/-- The inner frame reverts, and the outer one goes on. -/
theorem reverted_call_well_nested :
    ∃ e, interpreter.execute .cancun revertsInside [0x01] {} = .ran e ∧
      (e.logs.drop 11).map (fun log => (log.depth, log.op, log.error)) =
        [(1, 0xf1, none), (2, 0x36, none), (2, 0x60, none), (2, 0x57, none), (2, 0x5f, none),
          (2, 0x5f, none), (2, 0xfd, some "execution reverted"), (1, 0x00, none)] ∧
      (e.logs = [] ↔ revertsInside = []) ∧ WellNested e.logs := by
  have hshown : (interpreter.execute .cancun revertsInside [0x01] {}).execution?.map
      (fun e => (e.logs.drop 11).map fun log => (log.depth, log.op, log.error)) =
        some [(1, 0xf1, none), (2, 0x36, none), (2, 0x60, none), (2, 0x57, none), (2, 0x5f, none),
          (2, 0x5f, none), (2, 0xfd, some "execution reverted"), (1, 0x00, none)] := by
    decide +kernel
  obtain ⟨e, hran, hlogs⟩ := Reply.exists_ran hshown
  have hplain : Plain revertsInside := ⟨by decide, by decide⟩
  exact ⟨e, hran, hlogs, trace_well_nested interpreter_surrounds interpreter_infallible
    interpreter_displays interpreter_nests interpreter_signals hplain rfl hran⟩

end EvmScope

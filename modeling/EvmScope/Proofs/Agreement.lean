import EvmScope.Proofs.Boundaries
import EvmScope.Proofs.Nesting

/-!
# Agreement of trace and disassembly

A disassembly reads code from its start to its end, a run follows jumps; the two never disagree on
where instructions begin. The invariant `Vm.Workings.Framed` says so of the outermost frame, and each
step keeps it: a step of that frame moves it over the operand that the disassembly declares or to a
jump destination, and a step of any other frame does not move it. Behind the last instruction there
is only the implicit STOP, which ends the run.
-/

namespace EvmScope

set_option autoImplicit false

/-- A push opens no frame, ends none, and does not jump. -/
theorem Opcode.not_mem_of_isPush {op : Opcode} (h : op.isPush = true) :
    op ∉ openers ∧ op ∉ enders ∧ op ∉ jumps :=
  of_all (P := fun op => op.isPush = true → op ∉ openers ∧ op ∉ enders ∧ op ∉ jumps)
    (by decide +kernel) op h

namespace FrameView

theorem SamePlace.refl (f : FrameView) : f.SamePlace f :=
  ⟨rfl, rfl⟩

/-- The last of the frames that wait, or the running one if none does. -/
def outermostOf (f : FrameView) : List FrameView → FrameView
  | [] => f
  | g :: waiting => outermostOf g waiting

/-- The outermost frame does not notice what the running frame does within its place. -/
theorem samePlace_outermostOf {f g : FrameView} (h : f.SamePlace g) (waiting : List FrameView) :
    (outermostOf f waiting).SamePlace (outermostOf g waiting) := by
  cases waiting with
  | nil => exact h
  | cons s waiting => exact .refl _

end FrameView

namespace Vm.Workings

open FrameView

variable {vm : Vm} {w : vm.Workings} {tx : TransactionEnv vm.Spec vm.Bytecode} {code output : Bytes}
  {gasUsed n : Nat} {i₀ i j : w.State} {path : List w.State} {log : StepLog}

/-- The frame that a run begins and ends with. -/
def outermost (w : vm.Workings) (i : w.State) : FrameView :=
  outermostOf (w.frame i) (w.waiting i)

/-- A frame for which none waits is the outermost one. -/
theorem outermost_of_alone (h : w.waiting i = []) : w.outermost i = w.frame i := by
  rw [outermost, h]
  rfl

/-- Opening and leaving other frames does not move the outermost one. -/
theorem Moves.outermost (h : w.Moves i j) (hwaiting : w.waiting (w.instruction i) = w.waiting i)
    (hothers : w.waiting i ≠ []) : (w.outermost i).SamePlace (w.outermost j) := by
  unfold Workings.outermost
  obtain ⟨f, rest, hrest⟩ := List.exists_cons_of_ne_nil hothers
  cases h with
  | stays hsound hflow =>
    rw [hwaiting, hrest]
    exact .refl _
  | answered hsound hflow hopens hsame hplace =>
    rw [hsame, hrest]
    exact .refl _
  | rises hsound hflow hopens hopened hpc =>
    rw [hopened, hrest]
    exact .refl _
  | @falls _ f' hflow hends hreturned hplace =>
    rw [hreturned]
    exact samePlace_outermostOf hplace (w.waiting j)

/-- Where the outermost frame is after a step of its own. -/
theorem Moves.alone (h : w.Moves i j) (halone : w.waiting i = [])
    (hwaiting : w.waiting (w.instruction i) = w.waiting i) :
    w.flow (w.instruction i) ≠ .halts ∧
      (w.frame (w.instruction i)).SamePlace (w.outermost j) := by
  unfold Workings.outermost
  cases h with
  | stays hsound hflow =>
    rw [hflow, hwaiting, halone]
    exact ⟨by decide, .refl _⟩
  | answered hsound hflow hopens hsame hplace =>
    rw [hflow, hsame, halone]
    exact ⟨by decide, hplace⟩
  | rises hsound hflow hopens hopened hpc =>
    rw [hflow, hopened, halone]
    exact ⟨by decide, .refl _⟩
  | falls hflow hends hreturned hplace =>
    rw [halone] at hreturned
    cases hreturned

/-- The outermost frame runs some code, and stands at a boundary of its disassembly. -/
structure Framed (w : vm.Workings) (code : Bytes) (i : w.State) : Prop where
  runs : (w.outermost i).code = Code.ofBytes code.toArray
  border : Borders code (w.outermost i).pc

section Laws

variable (hdisplays : w.Displays) (hi : w.Visits tx code i₀ i) (hframed : w.Framed code i)

include hdisplays hi hframed

/-- What runs at a boundary: the instruction of the disassembly, or the implicit STOP. -/
theorem Framed.instruction (halone : w.waiting i = []) :
    (∃ a ∈ instructions code, a.pc = (w.before i).pc ∧ a.opcode = (w.before i).op) ∨
      ((w.before i).pc = declaredEnd code ∧ (w.before i).op = .stop) := by
  obtain ⟨hcode, hborder⟩ := hframed
  rw [outermost_of_alone halone] at hcode hborder
  rw [hdisplays.pc hi, hdisplays.op hi, hcode]
  rcases hborder with ⟨a, ha, hpc⟩ | hend
  · exact .inl ⟨a, ha, hpc, by rw [← hpc, opcodeAt_of_mem ha]⟩
  · exact .inr ⟨hend, by rw [hend, opcodeAt_declaredEnd]⟩

variable (hnests : w.Nests) (hsignals : w.Signals) (hfetches : w.Fetches)

include hsignals hfetches

/-- Where the outermost frame goes on after an instruction of its own, there is a boundary again. -/
theorem Framed.execute (halone : w.waiting i = []) (hflow : w.flow (w.instruction i) ≠ .halts) :
    Borders code (w.frame (w.instruction i)).pc := by
  have hcode := hframed.runs
  rw [outermost_of_alone halone] at hcode
  rcases hframed.instruction hdisplays hi halone with ⟨a, ha, hpc, hop⟩ | ⟨-, hstop⟩
  · rcases hfetches.pc hi hflow with hnext | ⟨-, hjump⟩
    · have hsize : (w.frame (w.instruction i)).pc = a.pc + a.declaredSize := by
        rw [hnext, hpc, Instruction.declaredSize, hop, hdisplays.pc hi]
        exact Nat.add_assoc _ _ _
      rw [hsize]
      exact borders_next ha
    · rw [hcode] at hjump
      exact .inl (begins_of_isJumpdest hjump)
  · have hends : (w.before i).op ∈ Opcode.enders := by
      rw [hstop]
      decide
    exact absurd (hsignals.ends hi hends) hflow

include hnests

/-- Each step keeps the outermost frame at a boundary. -/
theorem Framed.step (hnext : w.onward (w.instruction i) = .running j) : w.Framed code j := by
  have hmoves := moves hnests hsignals hi hnext
  have hwaiting := hnests.waiting hi
  by_cases halone : w.waiting i = []
  · obtain ⟨hflow, hplace⟩ := hmoves.alone halone hwaiting
    refine ⟨?_, ?_⟩
    · rw [hplace.code, hfetches.code hi, ← outermost_of_alone halone]
      exact hframed.runs
    · rw [hplace.pc]
      exact hframed.execute hdisplays hi hsignals hfetches halone hflow
  · have hplace := hmoves.outermost hwaiting halone
    refine ⟨?_, ?_⟩
    · rw [hplace.code]
      exact hframed.runs
    · rw [hplace.pc]
      exact hframed.border

end Laws

section Trace

variable (hdisplays : w.Displays) (hnests : w.Nests) (hsignals : w.Signals) (hfetches : w.Fetches)

include hdisplays hnests hsignals hfetches

/-- All along a transaction the outermost frame is at a boundary of its code. -/
theorem Visits.framed (h : w.Visits tx code i₀ i) : w.Framed code i := by
  refine h.invariant ?_ fun a b ha hframed hnext =>
    hframed.step hdisplays ha hnests hsignals hfetches hnext
  obtain ⟨halone, hpc⟩ := hnests.first h.start
  refine ⟨?_, ?_⟩
  · rw [outermost_of_alone halone]
    exact hfetches.first h.start
  · rw [outermost_of_alone halone, hpc]
    exact borders_zero code

omit hsignals in
/-- An outermost frame that pushes goes on behind the operand, which is on its stack then. -/
theorem Moves.of_push (h : w.Moves i j) (hi : w.Visits tx code i₀ i) (hj : w.Visits tx code i₀ j)
    (halone : w.waiting i = []) (hpush : (w.before i).op.isPush = true) :
    w.waiting j = [] ∧ (w.before j).pc = (w.before i).pc + 1 + (w.before i).op.immediateSize ∧
      (w.before j).stack =
        Word.ofBytes ((w.frame i).code.operandAt ((w.frame i).pc + 1)
          (w.before i).op.immediateSize) :: (w.before i).stack := by
  cases h with
  | stays hsound hflow =>
    have hgoes : w.flow (w.instruction i) ≠ .halts := by
      rw [hflow]
      decide
    refine ⟨(hnests.waiting hi).trans halone, ?_, hfetches.push hi hpush hsound⟩
    rw [hdisplays.pc hj, hdisplays.pc hi]
    rcases hfetches.pc hi hgoes with hnext | ⟨hjumps, -⟩
    · exact hnext
    · exact absurd hjumps (Opcode.not_mem_of_isPush hpush).2.2
  | answered hsound hflow hopens | rises hsound hflow hopens =>
    exact absurd hopens (Opcode.not_mem_of_isPush hpush).1
  | falls hflow hends hreturned hplace =>
    rw [halone] at hreturned
    cases hreturned

/-- A record of depth one shows a step of the outermost frame, which is at a boundary. -/
theorem ShownBy.framed (h : w.ShownBy i log) (hi : w.Visits tx code i₀ i) (hdepth : log.depth = 1) :
    w.waiting i = [] ∧ w.Framed code i := by
  rw [h.depth_eq hdisplays hi] at hdepth
  exact ⟨List.eq_nil_of_length_eq_zero (Nat.succ.inj hdepth),
    hi.framed hdisplays hnests hsignals hfetches⟩

/-- Behind a record of a push at depth one there is another one, of the step that goes on where the
instruction declares to end. -/
theorem exists_next_of_push (h : w.Succeeds tx code i₀ path output gasUsed)
    (hlog : (w.trace path)[n]? = some log) (hdepth : log.depth = 1) (hpush : log.op.isPush = true) :
    ∃ next a data, (w.trace path)[n + 1]? = some next ∧ next.depth = 1 ∧
      a ∈ instructions code ∧ a.pc = log.pc ∧ a.opcode = log.op ∧ a.immediate = some data ∧
      next.pc = log.pc + a.declaredSize ∧
      next.stack =
        Word.ofBytes (data ++ List.replicate (a.opcode.immediateSize - data.length) 0) ::
          log.stack := by
  obtain ⟨i, -, hi, hshown, hgoes⟩ := h.exists_step hlog
  obtain ⟨halone, hframed⟩ := hshown.framed hdisplays hnests hsignals hfetches hi hdepth
  rw [hshown.op] at hpush
  rcases hgoes with ⟨j, next, hnext, hj, hlog', hshown'⟩ | ⟨hended, -⟩
  · have hmoves := moves hnests hsignals hi hnext
    obtain ⟨halone', hpc, hstack⟩ := hmoves.of_push hdisplays hnests hfetches hi hj halone hpush
    rcases hframed.instruction hdisplays hi halone with ⟨a, ha, hapc, haop⟩ | ⟨-, hstop⟩
    · obtain ⟨data, hdata⟩ : ∃ data, a.immediate = some data :=
        ⟨_, (immediate_eq_some_iff ha).2 ⟨haop ▸ hpush, rfl⟩⟩
      refine ⟨next, a, data, hlog', ?_, ha, ?_, ?_, hdata, ?_, ?_⟩
      · rw [hshown'.depth_eq hdisplays hj, halone', List.length_nil]
      · rw [hshown.pc]
        exact hapc
      · rw [hshown.op]
        exact haop
      · rw [hshown'.pc, hshown.pc, Instruction.declaredSize, haop, ← Nat.add_assoc]
        exact hpc
      · have hcode := hframed.runs
        rw [outermost_of_alone halone] at hcode
        rw [← operandAt_of_mem ha hdata, ← hcode, haop, hapc, hdisplays.pc hi, hshown'.stack,
          hshown.stack]
        exact hstack
    · rw [hstop] at hpush
      cases hpush
  · obtain ⟨-, -, -, hends⟩ := ends_well hnests hsignals hi hended
    exact absurd hends (Opcode.not_mem_of_isPush hpush).2.1

end Trace

end Vm.Workings

/-- What it is for the records of a run to agree with the disassembly of the code it runs. Only the
outermost frame runs that code, and its records are those of depth one. -/
structure Agrees (code : Bytes) (logs : List StepLog) : Prop where
  /-- A step runs an instruction of the disassembly, or the implicit STOP where the last of them
  declares to end. -/
  boundary : ∀ log ∈ logs, log.depth = 1 →
    (∃ i ∈ instructions code, i.pc = log.pc ∧ i.opcode = log.op) ∨
      (log.pc = ((instructions code).map Instruction.declaredSize).sum ∧ log.op = 0x00)
  /-- Behind PUSH1 to PUSH32 the frame goes on where the instruction declares to end, and has its
  operand on the stack. A clipped operand is filled up with zeros. -/
  pushed : ∀ (n : Nat) (log : StepLog), logs[n]? = some log → log.depth = 1 →
    0x60 ≤ log.op → log.op ≤ 0x7f →
    ∃ next i data, logs[n + 1]? = some next ∧ next.depth = 1 ∧
      i ∈ instructions code ∧ i.pc = log.pc ∧ i.opcode = log.op ∧ i.immediate = some data ∧
      next.pc = log.pc + i.declaredSize ∧
      next.stack =
        Word.ofBytes (data ++ List.replicate (i.opcode.immediateSize - data.length) 0) ::
          log.stack

open Vm.Workings in
/-- **A trace and the disassembly of its code agree** on where instructions begin and what their
operands are, whatever the code does. -/
theorem trace_agrees_with_disassembly {vm : Vm} {w : vm.Workings} (hsurrounds : w.Surrounds)
    (hinfallible : vm.Infallible) (hdisplays : w.Displays) (hnests : w.Nests) (hsignals : w.Signals)
    (hfetches : w.Fetches) {spec : vm.Spec} {code input : Bytes} {ctx : Context} {e : Execution}
    (hplain : Plain code) (htracing : ctx.tracing = true)
    (hran : vm.execute spec code input ctx = .ran e) : Agrees code e.logs := by
  obtain ⟨bytecode, output, gasUsed, ⟨-, rfl⟩ | ⟨i₀, path, hdone, rfl⟩⟩ :=
    hsurrounds.exists_success hinfallible hplain hran
  · constructor <;> simp
  · rw [htracing]
    constructor
    · intro log hlog hdepth
      obtain ⟨n, hn⟩ := List.mem_iff_getElem?.1 hlog
      obtain ⟨i, -, hi, hshown, -⟩ := hdone.exists_step hn
      obtain ⟨halone, hframed⟩ := hshown.framed hdisplays hnests hsignals hfetches hi hdepth
      rw [hshown.pc, hshown.op]
      exact hframed.instruction hdisplays hi halone
    · intro n log hlog hdepth hlow hhigh
      have hpush : log.op.isPush = true := Opcode.isPush_iff.2 ⟨hlow, hhigh⟩
      exact exists_next_of_push hdisplays hnests hsignals hfetches hdone hlog hdepth hpush

/-- PUSH2 with one byte of its operand: the implicit STOP runs beyond the end of the code. -/
theorem clipped_push_agrees :
    ∃ e, interpreter.execute .cancun [0x61, 0x05] [] {} = .ran e ∧
      e.logs.map (fun log => (log.pc, log.stack)) = [(0, []), (3, [0x0500])] ∧
      Agrees [0x61, 0x05] e.logs := by
  have hshown : (interpreter.execute .cancun [0x61, 0x05] [] {}).execution?.map
      (fun e => e.logs.map fun log => (log.pc, log.stack)) = some [(0, []), (3, [0x0500])] := by
    decide +kernel
  obtain ⟨e, hran, hlogs⟩ := Reply.exists_ran hshown
  have hplain : Plain [0x61, 0x05] := ⟨by decide, by decide⟩
  exact ⟨e, hran, hlogs, trace_agrees_with_disassembly interpreter_surrounds interpreter_infallible
    interpreter_displays interpreter_nests interpreter_signals interpreter_fetches hplain rfl hran⟩

end EvmScope

import EvmScope.Proofs.Interpreter

/-!
# Recording does not interfere

The logger is told of each step before the instruction runs and again behind it, in every frame and
whether or not the step fails. It is told and never asked: what the virtual machine does with gas, stack,
memory and storage does not depend on it. So a call whose steps are recorded comes to the same end as one
whose steps are not, and as the transaction comes to that nothing watches. Code that the virtual machine
does not come back from taking has no outcome, with or without records.
-/

namespace EvmScope

set_option autoImplicit false

/-- Two replies tell of the same outcome: the same result but for the records, or the same error. -/
inductive Reply.SameOutcome : Reply → Reply → Prop
  | ran {e e' : Execution} (hdata : e.returnData = e'.returnData) (hgas : e.gasUsed = e'.gasUsed)
      (hstate : e.stateError = e'.stateError) : SameOutcome (.ran e) (.ran e')
  | failed (why : RuntimeError) : SameOutcome (.failed why) (.failed why)

namespace Transaction

variable {vm : Vm} {w : vm.Workings} {spec : vm.Spec} {bytecode : vm.Bytecode} {code input : Bytes}
  {ctx : Context}

/-- An outcome is reported in the same way whatever has been recorded. -/
theorem sameOutcome_reply (intrinsic : UInt64) (logs logs' : List StepLog)
    (outcome : Except TransactionError ExecutionResult) :
    (reply intrinsic logs outcome).SameOutcome (reply intrinsic logs' outcome) := by
  cases outcome with
  | ok result =>
    cases result with
    | success output gasUsed => exact .ran rfl rfl rfl
    | revert output | halt reason => exact .failed _
  | error why =>
    cases why with
    | database text => exact .ran rfl rfl rfl
    | rejected text | other text => exact .failed _

/-- A reply without steps has no records. -/
theorem logs_of_reply_nil {intrinsic : UInt64} {outcome : Except TransactionError ExecutionResult}
    {e : Execution} (h : reply intrinsic [] outcome = .ran e) : e.logs = [] := by
  rcases reply_ran h with ⟨output, gasUsed, -, rfl⟩ | ⟨text, -, rfl⟩ <;> rfl

/-- **Recording the steps of a call changes nothing but the records**: for all code that is taken, every
input, set of rules and circumstances the outcome is the same, and that of the transaction that nothing
watches; the records are those of its steps, and without recording there are none. Code that is not taken
crashes the engine either way. -/
theorem run_sameOutcome (hsurrounds : w.Surrounds) (spec : vm.Spec) (code input : Bytes)
    (ctx : Context) :
    let recorded := vm.execute spec code input { ctx with tracing := true }
    let silent := vm.execute spec code input { ctx with tracing := false }
    (∀ bytecode, vm.newRaw? code = some bytecode →
      let tx := vm.transaction spec bytecode input ctx
      recorded.SameOutcome silent ∧
        recorded = reply (vm.intrinsicGas spec input)
          (({ enabled := true } : Logger).replay (vm.steps tx)).logs (vm.outcome tx) ∧
        silent = reply (vm.intrinsicGas spec input) [] (vm.outcome tx) ∧
        ∀ e, silent = .ran e → e.logs = []) ∧
      (vm.newRaw? code = none → recorded = .crashed ∧ silent = .crashed) := by
  intro recorded silent
  constructor
  · intro bytecode hcode tx
    have hrecorded : recorded = reply (vm.intrinsicGas spec input)
        (({ enabled := true } : Logger).replay (vm.steps tx)).logs (vm.outcome tx) :=
      Vm.execute_eq hsurrounds hcode
    have hsilent : silent = reply (vm.intrinsicGas spec input) [] (vm.outcome tx) :=
      Vm.execute_eq hsurrounds hcode
    refine ⟨?_, hrecorded, hsilent, fun e hran => logs_of_reply_nil (hsilent.symm.trans hran)⟩
    rw [hrecorded, hsilent]
    exact sameOutcome_reply _ _ _ _
  · exact fun hcode => ⟨Vm.execute_of_not_taken hcode, Vm.execute_of_not_taken hcode⟩

/-- Code that returns a word. -/
def returnsWord : Bytes :=
  [0x60, 0x2a, 0x5f, 0x52, 0x60, 0x20, 0x5f, 0xf3]

/-- Six steps are recorded of a call that returns a word, or none. -/
theorem word_returned_sameOutcome :
    ∃ e e' : Execution,
      interpreter.execute .cancun returnsWord [] { tracing := true } = .ran e ∧
      interpreter.execute .cancun returnsWord [] { tracing := false } = .ran e' ∧
      (e.logs.map StepLog.op, e.returnData, e.gasUsed) =
        ([0x60, 0x5f, 0x52, 0x60, 0x5f, 0xf3], List.replicate 31 0 ++ [0x2a], 16) ∧
      e'.logs = [] ∧ Reply.SameOutcome (.ran e) (.ran e') := by
  have hrecorded : (interpreter.execute .cancun returnsWord [] { tracing := true }).execution?.map
      (fun e => (e.logs.map StepLog.op, e.returnData, e.gasUsed)) =
        some ([0x60, 0x5f, 0x52, 0x60, 0x5f, 0xf3], List.replicate 31 0 ++ [0x2a], 16) := by
    decide +kernel
  have hsilent : (interpreter.execute .cancun returnsWord [] { tracing := false }).execution?.map
      (fun _ => ()) = some () := by
    decide +kernel
  obtain ⟨e, hran, hshown⟩ := Reply.exists_ran hrecorded
  obtain ⟨e', hran', -⟩ := Reply.exists_ran hsilent
  obtain ⟨hsame, -, -, hnone⟩ :=
    (run_sameOutcome interpreter_surrounds .cancun returnsWord [] {}).1 ⟨returnsWord, none⟩ rfl
  rw [hran, hran'] at hsame
  exact ⟨e, e', hran, hran', hshown, hnone e' hran', hsame⟩

/-- For code of a reserved prefix there is no outcome at all. -/
theorem reserved_prefix_has_no_outcome :
    ¬(interpreter.execute .cancun [0xef, 0x00] [] { tracing := true }).SameOutcome
      (interpreter.execute .cancun [0xef, 0x00] [] { tracing := false }) := by
  have hcrashed : interpreter.execute .cancun [0xef, 0x00] [] { tracing := true } = .crashed :=
    Vm.execute_of_not_taken rfl
  rw [hcrashed]
  exact nofun

end Transaction

end EvmScope

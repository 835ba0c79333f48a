import EvmScope.Proofs.Interpreter

/-!
# The frames of the interpreter

A transaction that calls plain code begins with a frame that runs just this code: the preparations pay
and warm accounts, but they change no code. From there on the interpreter keeps the laws of frames.
-/

namespace EvmScope

set_option autoImplicit false

namespace World

/-- Replacing an account leaves all others as they are. -/
theorem account_modify (w : World) (a b : Address) (f : Account → Account) :
    (w.modify a f).account b = if b = a then f (w.account a) else w.account b := by
  simp only [modify, account, KeyMap.get?_insert]
  split <;> rfl

/-- Every account has the code that it had. -/
def SameCode (w w' : World) : Prop :=
  ∀ a, (w'.account a).code = (w.account a).code

theorem SameCode.refl (w : World) : SameCode w w :=
  fun _ => rfl

theorem SameCode.trans {u v w : World} (huv : SameCode u v) (hvw : SameCode v w) : SameCode u w :=
  fun a => (hvw a).trans (huv a)

/-- An account that keeps its code may change in everything else. -/
theorem sameCode_modify (w : World) (a : Address) {f : Account → Account}
    (hf : ∀ acc, (f acc).code = acc.code) : SameCode w (w.modify a f) := by
  intro b
  rw [account_modify]
  split
  · next heq => rw [heq, hf]
  · rfl

theorem sameCode_warmUp (w : World) (a : Address) : SameCode w (w.warmUp a) :=
  sameCode_modify w a fun _ => rfl

theorem sameCode_touch (w : World) (a : Address) : SameCode w (w.touch a) :=
  sameCode_modify w a fun _ => rfl

theorem sameCode_credit (w : World) (a : Address) (value : Word) : SameCode w (w.credit a value) :=
  sameCode_modify w a fun _ => rfl

theorem sameCode_debit (w : World) (a : Address) (value : Word) : SameCode w (w.debit a value) :=
  sameCode_modify w a fun _ => rfl

/-- Moving value changes the code of no account. -/
theorem sameCode_transfer {w w' : World} {source target : Address} {value : Word}
    (h : w.transfer? source target value = some w') : SameCode w w' := by
  unfold transfer? at h
  split at h
  · obtain rfl := Option.some.inj h
    exact sameCode_touch w target
  · split at h
    · cases h
    · obtain rfl := Option.some.inj h
      have hdebit := sameCode_debit w source value
      have htouch := hdebit.trans (sameCode_touch _ source)
      have hcredit := htouch.trans (sameCode_credit _ target value)
      exact hcredit.trans (sameCode_touch _ target)

theorem sameCode_foldl_warmUp (addresses : List Address) (w : World) :
    SameCode w (addresses.foldl warmUp w) := by
  induction addresses generalizing w with
  | nil => exact .refl w
  | cons a addresses ih => exact (sameCode_warmUp w a).trans (ih _)

/-- The last account that is put in is there. -/
theorem code_ofAccounts_append (accounts : List (Address × AccountInfo Bytecode)) (a : Address)
    (info : AccountInfo Bytecode) :
    ((ofAccounts (accounts ++ [(a, info)])).account a).code = info.bytecode.code := by
  rw [ofAccounts, List.foldl_append, List.foldl_cons, List.foldl_nil, account_modify, if_pos rfl]

end World

/-- The preparations change no code. -/
theorem TransactionEnv.sameCode_prepared (tx : TransactionEnv Hardfork Bytecode) :
    World.SameCode (.ofAccounts tx.accounts) tx.prepared := by
  unfold prepared
  extract_lets preloaded w₁ w₂
  have hwarm : World.SameCode (.ofAccounts tx.accounts) w₁ := World.sameCode_foldl_warmUp preloaded _
  have hpaid : World.SameCode w₁ w₂ :=
    (World.sameCode_debit w₁ _ _).trans (World.sameCode_modify _ _ fun _ => rfl)
  have hready := hwarm.trans hpaid
  cases hmoved : w₂.transfer? tx.caller tx.target (BitVec.ofNat 256 tx.value) with
  | none => exact hready
  | some w₃ => exact hready.trans (World.sameCode_transfer hmoved)

/-- Plain code is taken as it is. -/
theorem Bytecode.newRaw?_of_plain {code : Bytes} (h : Plain code) :
    newRaw? code = some { bytes := code } := by
  unfold newRaw?
  split
  · exact absurd (List.prefix_append [0xef, 0x00] _) h.noContainer
  · exact absurd (List.prefix_append [0xef, 0x01] _) h.noDelegation
  · rfl

section Calls

variable {tx : TransactionEnv Hardfork Bytecode} {code : Bytes}

/-- A transaction that calls plain code finds it where it looks for it. -/
theorem bytecode_target (h : interpreter.Calls tx code) :
    tx.bytecode tx.target = { bytes := code } := by
  obtain ⟨spec, bytecode, input, ctx, hcode, rfl⟩ := h.made
  obtain rfl := Option.some.inj ((Bytecode.newRaw?_of_plain h.plain).symm.trans hcode)
  rfl

/-- The first frame runs the code that is called. -/
theorem code_of_calls (h : interpreter.Calls tx code) : tx.code = Code.ofBytes code.toArray := by
  have hprepared := tx.sameCode_prepared tx.target
  have htarget := bytecode_target h
  obtain ⟨spec, bytecode, input, ctx, hcode, rfl⟩ := h.made
  obtain rfl := Option.some.inj ((Bytecode.newRaw?_of_plain h.plain).symm.trans hcode)
  unfold TransactionEnv.code
  rw [htarget]
  exact hprepared.trans (World.code_ofAccounts_append [_] _ _)

end Calls

namespace Interpreter

open Vm.Workings

variable {tx : TransactionEnv Hardfork Bytecode} {code : Bytes} {i₀ i j : Interpreter}

/-- A transaction that begins to run was not rejected and calls an account with code. -/
theorem first_eq_running (h : first tx = .running i₀) :
    tx.rejection? = none ∧ (tx.bytecode tx.target).bytes ≠ [] ∧
      i₀ = { env := tx.env, machine := { frame := tx.firstFrame, world := tx.prepared } } := by
  unfold first at h
  split at h
  · cases h
  · next hadmitted =>
    split at h
    · cases h
    · next hcode => exact ⟨hadmitted, hcode, (Sequel.running.inj h).symm⟩

/-- A transaction that is over at once has called an account without code. -/
theorem first_eq_ok {result : ExecutionResult} (h : first tx = .ended (.ok result)) :
    tx.rejection? = none ∧ (tx.bytecode tx.target).bytes = [] ∧
      result = conclude tx.env { ending := .success .stop, gas := tx.gasLimit - tx.intrinsicGas } := by
  unfold first at h
  split at h
  · cases h
  · next hadmitted =>
    split at h
    · next hcode => exact ⟨hadmitted, hcode, (Except.ok.inj (Sequel.ended.inj h)).symm⟩
    · cases h

/-- The first state that a run visits is made of the transaction alone. -/
theorem start_eq (h : interpreterWorkings.Visits tx code i₀ i) :
    i₀ = { env := tx.env, machine := { frame := tx.firstFrame, world := tx.prepared } } :=
  (first_eq_running h.begins).2.2

/-- The two ways in which an instruction goes. -/
theorem instruction_cases (i : Interpreter) :
    (∃ signal t, i.machine.executed i.env = .ok signal t ∧
        i.instruction = { i with machine := i.machine.after t, last := .ok signal }) ∨
      ∃ why t, i.machine.executed i.env = .error why t ∧
        i.instruction = { i with machine := i.machine.after t, last := .error why } := by
  unfold instruction
  cases i.machine.executed i.env with
  | ok signal t => exact .inl ⟨signal, t, rfl, rfl⟩
  | error why t => exact .inr ⟨why, t, rfl, rfl⟩

/-- What every instruction keeps holds of the frame that it leaves. -/
theorem keeps_instruction {R : Running → Running → Prop}
    (h : Exec.Keeps R ((Operation.ofOpcode i.machine.opcode).execute i.env)) :
    R ⟨{ i.machine.frame with pc := i.machine.frame.pc + 1 }, i.machine.world⟩
      ⟨i.instruction.machine.frame, i.instruction.machine.world⟩ := by
  have hkept := h ⟨{ i.machine.frame with pc := i.machine.frame.pc + 1 }, i.machine.world⟩
  unfold Exec.final at hkept
  rcases instruction_cases i with ⟨signal, t, hexec, heq⟩ | ⟨why, t, hexec, heq⟩
  all_goals
    rw [Machine.executed] at hexec
    rw [hexec] at hkept
    rw [heq]
    exact hkept

/-- An instruction does not touch the frames that wait; only what follows on it does. -/
theorem waiting_instruction (i : Interpreter) : i.instruction.waiting = i.waiting := by
  rcases instruction_cases i with ⟨signal, t, -, heq⟩ | ⟨why, t, -, heq⟩ <;> rw [heq] <;> rfl

theorem env_instruction (i : Interpreter) : i.instruction.env = i.env := by
  rcases instruction_cases i with ⟨signal, t, -, heq⟩ | ⟨why, t, -, heq⟩ <;> rw [heq]

theorem onward_eq_running (h : i.onward = .running j) :
    i.machine.proceed i.env i.last = .running j.machine ∧ j = { env := i.env, machine := j.machine } :=
  sequel_eq_running h

/-- The surroundings are those of the transaction all along. -/
theorem env_of_visits (h : interpreterWorkings.Visits tx code i₀ i) : i.env = tx.env := by
  refine h.invariant (P := fun a : Interpreter => a.env = tx.env) ?_ fun a b _ ha hnext => ?_
  · rw [start_eq h]
  · rw [(onward_eq_running hnext).2]
    exact (env_instruction a).trans ha

/-- A frame that goes on with a result is at the place where it has waited. -/
theorem samePlace_toView (f : Frame) (purpose : Purpose) (r : FrameResult) :
    f.toView.SamePlace (Machine.resume f purpose r).toView :=
  have h := Machine.samePlace_resume f purpose r
  ⟨congrArg Invocation.code h.invocation, h.pc⟩

theorem isSuccess_of_conclude {env : Env} {r : FrameResult} {output : Bytes} {gasUsed : Nat}
    (h : conclude env r = .success output gasUsed) :
    r.ending.isSuccess = true ∧ output = r.output.toList ∧ gasUsed = Interpreter.gasUsed env r := by
  unfold conclude at h
  split at h
  · next hending =>
    obtain ⟨rfl, rfl⟩ := ExecutionResult.success.inj h
    exact ⟨by rw [hending]; rfl, rfl, rfl⟩
  all_goals cases h

/-- The outermost frame has ended with some result. -/
theorem onward_eq_ok {result : ExecutionResult} (h : i.onward = .ended (.ok result)) :
    i.machine.waiting = [] ∧ ∃ r, result = conclude i.env r ∧
      ((∃ how, i.last = .ok (.halt how) ∧ r = Machine.haltResult i.machine.frame how) ∨
        ∃ why, i.last = .error why ∧ r = { ending := .fault why, gas := 0 }) := by
  obtain ⟨r, hnext, hresult⟩ := sequel_eq_ok h
  cases hlast : i.last with
  | ok signal =>
    rw [hlast] at hnext
    obtain ⟨hwaiting, how, rfl, hr⟩ := Machine.follow_finished hnext
    exact ⟨hwaiting, r, hresult, .inl ⟨how, rfl, hr⟩⟩
  | error why =>
    rw [hlast] at hnext
    obtain ⟨hwaiting, hr⟩ := Machine.finish_finished hnext
    exact ⟨hwaiting, r, hresult, .inr ⟨why, rfl, hr⟩⟩

/-- The outermost frame has ended well. -/
theorem onward_eq_success {output : Bytes} {gasUsed : Nat}
    (h : i.onward = .ended (.ok (.success output gasUsed))) :
    i.machine.waiting = [] ∧ ∃ how, i.last = .ok (.halt how) ∧ (Signal.halt how).isRevert = false ∧
      output = (Machine.haltResult i.machine.frame how).output.toList ∧
      gasUsed = Interpreter.gasUsed i.env (Machine.haltResult i.machine.frame how) := by
  obtain ⟨hwaiting, r, hresult, ⟨how, hlast, rfl⟩ | ⟨why, hlast, rfl⟩⟩ := onward_eq_ok h
  · obtain ⟨hsuccess, houtput, hgas⟩ := isSuccess_of_conclude hresult.symm
    refine ⟨hwaiting, how, hlast, ?_, houtput, hgas⟩
    cases how with
    | reverted data => cases hsuccess
    | _ => rfl
  · cases (isSuccess_of_conclude hresult.symm).1

theorem flow_of_halt {how : Halt} (hlast : i.last = .ok (.halt how)) :
    interpreterWorkings.flow i = .halts := by
  show flow i = .halts
  rw [flow, hlast]

theorem flow_of_error {why : Fault} (hlast : i.last = .error why) :
    interpreterWorkings.flow i = .halts := by
  show flow i = .halts
  rw [flow, hlast]

/-- An instruction that asks for another frame calls. -/
theorem flow_of_opens {signal : Signal} (hlast : i.last = .ok signal) (hopens : signal.opens = true) :
    interpreterWorkings.flow i = .calls := by
  show flow i = .calls
  rw [flow, hlast]
  cases signal with
  | call q | create q => rfl
  | next | halt how => cases hopens

/-- A frame that has halted leaves the one that waits for it where that is. -/
theorem turns_of_returned {s : Suspended} {waiting : List Suspended} (hflow : i.flow = .halts)
    (hwaiting : i.machine.waiting = s :: waiting) (r : FrameResult) (world : World) :
    interpreterWorkings.Turns i (.running { env := i.env, machine :=
      { frame := Machine.resume s.frame s.purpose r, world, waiting } }) := by
  have hwaiting' : i.waiting = s.frame.toView :: waiting.map fun s => s.frame.toView := by
    rw [Interpreter.waiting, hwaiting, List.map_cons]
  exact .returned hflow hwaiting' (samePlace_toView s.frame s.purpose r)

/-- A transaction is over when the outermost frame has halted, and it succeeds only if that went well. -/
theorem turns_of_ended {result : ExecutionResult} (h : i.onward = .ended (.ok result)) :
    interpreterWorkings.Turns i (.ended (.ok result)) := by
  obtain ⟨hwaiting, r, -, hends⟩ := onward_eq_ok h
  have hflow : interpreterWorkings.flow i = .halts := by
    rcases hends with ⟨how, hlast, -⟩ | ⟨why, hlast, -⟩
    · exact flow_of_halt hlast
    · exact flow_of_error hlast
  have hwaiting' : i.waiting = [] := by rw [waiting, hwaiting, List.map_nil]
  refine .finished hflow hwaiting' fun output gasUsed hsuccess => ?_
  obtain ⟨-, how, hlast, hrevert, -⟩ := onward_eq_success (hsuccess ▸ h)
  show (Interpreter.result i).Sound
  rw [Interpreter.result, hlast]
  exact ⟨hrevert, rfl⟩

/-- Whatever comes after an instruction is one of a few turns. -/
theorem turns_onward (i : Interpreter) : interpreterWorkings.Turns i i.onward := by
  cases hnext : i.onward with
  | ended outcome =>
    cases outcome with
    | error why => exact .aborted why
    | ok result => exact turns_of_ended hnext
  | running j =>
    obtain ⟨hmachine, hj⟩ := onward_eq_running hnext
    cases hlast : i.last with
    | error why =>
      rw [hlast] at hmachine
      obtain ⟨s, waiting, r, world, hwaiting, hm⟩ := Machine.finish_running hmachine
      rw [hj, hm]
      exact turns_of_returned (flow_of_error hlast) hwaiting r world
    | ok signal =>
      rw [hlast] at hmachine
      have honward := Machine.follow_running hmachine
      generalize hm : j.machine = m at honward
      rw [hm] at hj
      subst hj
      cases honward with
      | next =>
        obtain ⟨env, machine, last⟩ := i
        obtain rfl : last = .ok .next := hlast
        exact .continues rfl
      | answered hopens purpose r world =>
        exact .answered (flow_of_opens hlast hopens) rfl (samePlace_toView _ purpose r)
      | opened hopens invocation gas world saved purpose =>
        exact .opened (flow_of_opens hlast hopens) rfl rfl
      | @returned how s waiting hwaiting r world =>
        exact turns_of_returned (flow_of_halt hlast) hwaiting r world

/-- An instruction that asks for another frame has gone well. -/
theorem calls_instruction (h : i.instruction.flow = .calls) :
    ∃ signal t, i.machine.executed i.env = .ok signal t ∧ signal.opens = true ∧
      i.instruction = { i with machine := i.machine.after t, last := .ok signal } := by
  rcases instruction_cases i with ⟨signal, t, hexec, heq⟩ | ⟨why, t, -, heq⟩
  · rw [heq] at h
    refine ⟨signal, t, hexec, ?_, heq⟩
    cases signal with
    | call q | create q => rfl
    | next | halt how => cases h
  · rw [heq] at h
    cases h

/-- An instruction that has gone well has not failed. -/
theorem sound_instruction (h : i.instruction.result.Sound) :
    ∃ signal t, i.machine.executed i.env = .ok signal t ∧ signal.isRevert = false ∧
      i.instruction = { i with machine := i.machine.after t, last := .ok signal } := by
  rcases instruction_cases i with ⟨signal, t, hexec, heq⟩ | ⟨why, t, -, heq⟩
  · rw [heq] at h
    exact ⟨signal, t, hexec, h.1, heq⟩
  · rw [heq] at h
    cases h.2

/-- What calls has not failed, and has one of the opcodes that do so. -/
theorem sound_of_calls (h : i.instruction.flow = .calls) :
    i.instruction.result.Sound ∧ i.machine.opcode ∈ Opcode.openers := by
  obtain ⟨signal, t, hexec, hopens, heq⟩ := calls_instruction h
  refine ⟨?_, Machine.mem_openers hexec hopens⟩
  rw [heq]
  cases signal with
  | call q | create q => exact ⟨rfl, rfl⟩
  | next | halt how => cases hopens

/-- Frames that end well have run one of the opcodes that end them. -/
theorem mem_enders_of_halts (h : i.instruction.flow = .halts) (hsound : i.instruction.result.Sound) :
    i.machine.opcode ∈ Opcode.enders := by
  obtain ⟨signal, t, hexec, hrevert, heq⟩ := sound_instruction hsound
  rw [heq] at h
  cases signal with
  | halt how => exact Machine.mem_enders hexec hrevert
  | next | call q | create q => cases h

theorem halts_of_mem_enders (h : i.machine.opcode ∈ Opcode.enders) :
    i.instruction.flow = .halts := by
  rcases instruction_cases i with ⟨signal, t, hexec, heq⟩ | ⟨why, t, -, heq⟩
  · have hmanner := Machine.executed_manner hexec
    rw [Operation.manner_of_mem_enders h] at hmanner
    rw [heq]
    cases signal with
    | halt how => rfl
    | next | call q | create q => cases hmanner
  · rw [heq]
    rfl

/-- An instruction that has failed or reverted ends its frame. -/
theorem halts_of_not_sound (h : ¬i.instruction.result.Sound) : i.instruction.flow = .halts := by
  rcases instruction_cases i with ⟨signal, t, -, heq⟩ | ⟨why, t, -, heq⟩
  · rw [heq] at h ⊢
    cases signal with
    | halt how => rfl
    | next | call q | create q => exact absurd ⟨rfl, rfl⟩ h
  · rw [heq]
    rfl

theorem invocation_instruction (i : Interpreter) :
    i.instruction.machine.frame.invocation = i.machine.frame.invocation :=
  keeps_instruction (Operation.sameInvocation_execute _ _)

/-- A frame that has not halted stands behind the instruction and its operand, or it has jumped. -/
theorem pc_instruction (h : i.instruction.flow ≠ .halts) :
    i.instruction.machine.frame.pc = i.machine.frame.pc + 1 + i.machine.opcode.immediateSize ∨
      i.machine.opcode ∈ Opcode.jumps ∧
        i.machine.frame.invocation.code.isJumpdest i.instruction.machine.frame.pc = true := by
  rcases instruction_cases i with ⟨signal, t, hexec, heq⟩ | ⟨why, t, -, heq⟩
  · have hpc := Operation.execute_pc hexec
    rw [Operation.operandLength_ofOpcode, Operation.jumps_ofOpcode, decide_eq_true_iff] at hpc
    rw [heq]
    exact hpc
  · rw [heq] at h
    exact absurd rfl h

theorem stack_of_push (hpush : i.machine.opcode.isPush = true)
    (hsound : i.instruction.result.Sound) :
    i.instruction.machine.frame.stack =
      Word.ofBytes (i.machine.frame.invocation.code.operandAt (i.machine.frame.pc + 1)
        i.machine.opcode.immediateSize) :: i.machine.frame.stack := by
  obtain ⟨signal, t, hexec, -, heq⟩ := sound_instruction hsound
  rw [Machine.executed, Operation.ofOpcode_of_isPush hpush] at hexec
  rw [heq]
  exact (Operation.execute_push_ok hexec).2.2

end Interpreter

/-- The interpreter shows its running frame as it is. -/
theorem interpreter_displays : interpreterWorkings.Displays where
  pc _ := rfl
  op _ := rfl
  gas _ := rfl
  gasLeft _ := rfl
  depth _ := congrArg (· + 1) (Interpreter.length_waiting _).symm

/-- Frames of the interpreter are entered and left one inside the other. -/
theorem interpreter_nests : interpreterWorkings.Nests where
  first h := by
    rw [Interpreter.start_eq h]
    exact ⟨rfl, rfl⟩
  waiting _ := Interpreter.waiting_instruction _
  turns _ := Interpreter.turns_onward _
  codeless hcalls hfirst := by
    obtain ⟨-, hcode, -⟩ := Interpreter.first_eq_running hfirst
    exact hcode (congrArg Bytecode.bytes (bytecode_target hcalls))
  coded hcalls hne hfirst := by
    obtain ⟨-, hcode, -⟩ := Interpreter.first_eq_ok hfirst
    exact hne ((congrArg Bytecode.bytes (bytecode_target hcalls)).symm.trans hcode)

/-- What an instruction of the interpreter wants to become of its frame is settled by its opcode. -/
theorem interpreter_signals : interpreterWorkings.Signals where
  calls _ hflow := Interpreter.sound_of_calls hflow
  halts _ hflow hsound := Interpreter.mem_enders_of_halts hflow hsound
  ends _ hop := Interpreter.halts_of_mem_enders hop
  fails _ hunsound := Interpreter.halts_of_not_sound hunsound

/-- The interpreter takes opcodes and operands from the code of the running frame. -/
theorem interpreter_fetches : interpreterWorkings.Fetches where
  first h := by
    rw [Interpreter.start_eq h]
    exact code_of_calls h.calls
  code _ := congrArg Invocation.code (Interpreter.invocation_instruction _)
  pc _ hflow := Interpreter.pc_instruction hflow
  push _ hpush hsound := Interpreter.stack_of_push hpush hsound

end EvmScope

import EvmScope.Proofs.InterpreterFrames

/-!
# The gas of the interpreter

A transaction that is not turned down begins with its gas limit, less what it costs before. The gas of all
frames together never comes to more than that, so that what is reported in the end is what the outermost
frame has consumed, less a refund.
-/

namespace EvmScope

set_option autoImplicit false

namespace Machine

variable {env : Env} {m m' : Machine} {signal : Signal}

/-- A machine that has been asked for a frame goes on with what was granted. -/
theorem follow_granted (hopens : signal.opens = true) (h : m.follow env signal = .running m') :
    Granted m signal.gas m' := by
  cases signal with
  | call q =>
    rcases openCall_granted env m q with ⟨m₁, hm₁, hgranted⟩ | ⟨why, habort⟩
    · cases hm₁.symm.trans h
      exact hgranted
    · cases habort.symm.trans h
  | create q =>
    obtain ⟨m₁, hm₁, hgranted⟩ := openCreation_granted env m q
    cases hm₁.symm.trans h
    exact hgranted
  | next | halt how => cases hopens

/-- A frame gets the refund of a result, if there is one. -/
theorem refund_resume (f : Frame) (purpose : Purpose) {r : FrameResult} (h : r.refund = 0) :
    (resume f purpose r).refund = f.refund := by
  cases purpose with
  | call outOffset outLength =>
    simp only [resume, resumeCall]
    split_ifs <;> simp [h]
  | creation address =>
    simp only [resume, resumeCreation]
    split_ifs <;> simp [h]

theorem gas_resume_le (f : Frame) (purpose : Purpose) (r : FrameResult) :
    (resume f purpose r).gas ≤ f.gas + r.gas :=
  gasHeld.resumed_le f purpose r

/-- A frame that begins has the gas that was granted. -/
theorem Granted.of_opened {gas : Nat} (h : Granted m gas m')
    (hwaiting : m'.waiting.length = m.waiting.length + 1) :
    m'.frame.gas = gas ∧ m'.frame.refund = 0 := by
  cases h with
  | opened invocation world saved purpose => exact ⟨rfl, rfl⟩
  | answered purpose r world hgas hrefund => exact absurd hwaiting (Nat.ne_of_lt (Nat.lt_succ_self _))

/-- A frame that is answered gets back no more than was granted. -/
theorem Granted.of_answered {gas : Nat} (h : Granted m gas m')
    (hwaiting : m'.waiting.length = m.waiting.length) :
    m'.frame.gas ≤ m.frame.gas + gas ∧ m'.frame.refund = m.frame.refund := by
  cases h with
  | opened invocation world saved purpose =>
    exact absurd hwaiting (Nat.ne_of_gt (Nat.lt_succ_self _))
  | answered purpose r world hgas hrefund =>
    have hresumed := gas_resume_le m.frame purpose r
    exact ⟨Nat.le_trans hresumed (Nat.add_le_add_left hgas _), refund_resume _ _ hrefund⟩

end Machine

namespace Interpreter

variable {tx : TransactionEnv Hardfork Bytecode} {code : Bytes} {i₀ i j : Interpreter}

/-- No instruction makes gas. -/
theorem gas_instruction_le (i : Interpreter) :
    i.instruction.machine.frame.gas ≤ i.machine.frame.gas :=
  keeps_instruction (R := Exec.SpendsGas) (Operation.spendsGas_execute _ _)

/-- Only the two opcodes that give refunds change the refund of a frame. -/
theorem refund_instruction (hstore : i.machine.opcode ≠ 0x55) (hdestroy : i.machine.opcode ≠ 0xff) :
    i.instruction.machine.frame.refund = i.machine.frame.refund :=
  keeps_instruction (R := Exec.SameRefund) (Operation.sameRefund_execute _ hstore hdestroy)

/-- What has been asked for is granted with gas that the instruction has paid. -/
theorem granted_of_calls (hflow : i.instruction.flow = .calls)
    (hnext : i.instruction.onward = .running j) :
    ∃ gas, i.instruction.machine.frame.gas + gas ≤ i.machine.frame.gas ∧
      Machine.Granted i.instruction.machine gas j.machine := by
  obtain ⟨signal, t, hexec, hopens, heq⟩ := calls_instruction hflow
  have hpaid : t.frame.gas + signal.gas ≤ i.machine.frame.gas :=
    Operation.pays_execute _ _ _ signal t hexec
  obtain ⟨hfollow, -⟩ := onward_eq_running hnext
  rw [heq] at hfollow ⊢
  exact ⟨signal.gas, hpaid, Machine.follow_granted hopens hfollow⟩

theorem gas_of_opened (hflow : i.instruction.flow = .calls) (hnext : i.instruction.onward = .running j)
    (hwaiting : j.waiting = i.instruction.machine.frame.toView :: i.waiting) :
    j.machine.frame.gas + i.instruction.machine.frame.gas ≤ i.machine.frame.gas ∧
      j.machine.frame.refund = 0 := by
  obtain ⟨gas, hpaid, hgranted⟩ := granted_of_calls hflow hnext
  have hlength := congrArg List.length hwaiting
  rw [List.length_cons, ← waiting_instruction i, length_waiting, length_waiting] at hlength
  obtain ⟨hgas, hrefund⟩ := hgranted.of_opened hlength
  rw [hgas, Nat.add_comm]
  exact ⟨hpaid, hrefund⟩

theorem gas_of_answered (hflow : i.instruction.flow = .calls)
    (hnext : i.instruction.onward = .running j) (hwaiting : j.waiting = i.waiting) :
    j.machine.frame.gas ≤ i.machine.frame.gas ∧
      j.machine.frame.refund = i.instruction.machine.frame.refund := by
  obtain ⟨gas, hpaid, hgranted⟩ := granted_of_calls hflow hnext
  have hlength := congrArg List.length hwaiting
  rw [← waiting_instruction i, length_waiting, length_waiting] at hlength
  obtain ⟨hgas, hrefund⟩ := hgranted.of_answered hlength
  exact ⟨Nat.le_trans hgas hpaid, hrefund⟩

/-- A frame that has halted hands on no more gas than it has left, and no more refund than it has. -/
theorem settled_of_halts (hflow : i.flow = .halts) (hnext : i.onward = .running j) :
    ∃ s waiting r, i.machine.waiting = s :: waiting ∧
      j.machine.frame = Machine.resume s.frame s.purpose r ∧ r.gas ≤ i.machine.frame.gas ∧
      r.refund ≤ i.machine.frame.refund := by
  obtain ⟨hmachine, -⟩ := onward_eq_running hnext
  cases hlast : i.last with
  | ok signal =>
    rw [hlast] at hmachine
    cases signal with
    | halt how =>
      obtain ⟨s, waiting, r, world, hwaiting, hm, hgas, hrefund⟩ := Machine.finish_settled hmachine
      have hheld := Machine.gasHeld.halted_le i.machine.frame how
      have hheld' := Machine.refundHeld.halted_le i.machine.frame how
      rw [hm]
      exact ⟨s, waiting, r, hwaiting, rfl, Nat.le_trans hgas hheld, hrefund ▸ hheld'⟩
    | next | call q | create q =>
      rw [flow, hlast] at hflow
      cases hflow
  | error why =>
    rw [hlast] at hmachine
    obtain ⟨s, waiting, r, world, hwaiting, hm, hgas, hrefund⟩ := Machine.finish_settled hmachine
    rw [hm]
    exact ⟨s, waiting, r, hwaiting, rfl, Nat.le_trans hgas (Nat.zero_le _),
      hrefund ▸ Nat.zero_le _⟩

/-- What a frame that has halted leaves goes to the one that waits for it, or is lost. -/
theorem gas_of_returned {f : FrameView} {rest : List FrameView} (hflow : i.flow = .halts)
    (hwaiting : i.waiting = f :: rest) (hnext : i.onward = .running j) :
    j.machine.frame.gas ≤ f.gas + i.machine.frame.gas ∧
      (i.machine.frame.refund = 0 → j.machine.frame.refund = f.refund) := by
  obtain ⟨s, waiting, r, hs, hframe, hgas, hrefund⟩ := settled_of_halts hflow hnext
  have hf : s.frame.toView = f := by
    rw [Interpreter.waiting, hs, List.map_cons] at hwaiting
    exact (List.cons.inj hwaiting).1
  have hresumed := Machine.gas_resume_le s.frame s.purpose r
  rw [hframe, ← hf]
  refine ⟨Nat.le_trans hresumed (Nat.add_le_add_left hgas _), fun hnone => ?_⟩
  rw [hnone] at hrefund
  exact congrArg Nat.cast (Machine.refund_resume _ _ (Nat.le_zero.1 hrefund))

/-- All frames together never have more gas than the first one has begun with. -/
theorem gas_total_le (h : interpreterWorkings.Visits tx code i₀ i) :
    Machine.gasHeld.total i.machine ≤ i₀.machine.frame.gas := by
  refine h.invariant (P := fun a : Interpreter =>
    Machine.gasHeld.total a.machine ≤ i₀.machine.frame.gas) ?_ fun a b _ ha hnext => ?_
  · rw [start_eq h]
    exact Nat.le_refl _
  · have hstep := (sequel_eq_running ((onward_instruction a).symm.trans hnext)).1
    exact Nat.le_trans (Machine.Holding.total_step_le (Machine.kept_gas _ _) hstep) ha

/-- Transactions that cannot pay for their input are rejected. -/
theorem intrinsicGas_le (h : tx.rejection? = none) : tx.intrinsicGas ≤ tx.gasLimit := by
  by_contra hlow
  unfold TransactionEnv.rejection? at h
  dsimp only at h
  split_ifs at h
  omega

/-- The gas that is reported for a result of the outermost frame. -/
theorem exists_refund {env : Env} {intrinsic gas : Nat} (r : FrameResult)
    (hlimit : env.gasLimit = gas + intrinsic) (hleft : r.gas ≤ gas) :
    ∃ refund, gasUsed env r + refund = intrinsic + (gas - r.gas) ∧ (r.refund = 0 → refund = 0) := by
  refine ⟨min r.refund ((env.gasLimit - r.gas) / Gas.refundQuotient env.fork), ?_, fun h => ?_⟩
  · have hquotient := Nat.div_le_self (env.gasLimit - r.gas) (Gas.refundQuotient env.fork)
    unfold gasUsed
    dsimp only
    omega
  · rw [h, Nat.zero_min]

/-- The first frame gets the limit of the transaction, less what it costs before it runs. -/
theorem gas_start (h : interpreterWorkings.Visits tx code i₀ i) :
    i₀.machine.frame.gas = tx.gasLimit - tx.intrinsicGas := by
  rw [start_eq h]
  rfl

/-- A transaction that succeeds uses what it costs before and what its outermost frame has consumed, less
a refund. -/
theorem gas_of_finished {output : Bytes} {gasUsed : Nat} (h : interpreterWorkings.Visits tx code i₀ i)
    (hended : i.instruction.onward = .ended (.ok (.success output gasUsed))) :
    ∃ refund, gasUsed + refund = tx.intrinsicGas +
        (i₀.machine.frame.gas - i.instruction.machine.frame.gas) ∧
      (i.instruction.machine.frame.refund = 0 → refund = 0) := by
  obtain ⟨-, how, -, hsound, -, rfl⟩ := onward_eq_success hended
  have hadmitted := intrinsicGas_le (first_eq_running h.begins).1
  have hstart := gas_start h
  have hleft : i.instruction.machine.frame.gas ≤ i₀.machine.frame.gas :=
    calc i.instruction.machine.frame.gas
        ≤ i.machine.frame.gas := gas_instruction_le i
      _ ≤ Machine.gasHeld.total i.machine := Machine.gasHeld.ofFrame_le_total i.machine
      _ ≤ i₀.machine.frame.gas := gas_total_le h
  have hlimit : i.instruction.env.gasLimit = i₀.machine.frame.gas + tx.intrinsicGas := by
    rw [env_instruction, env_of_visits h, hstart]
    exact (Nat.sub_add_cancel hadmitted).symm
  have hresult : (Machine.haltResult i.instruction.machine.frame how).gas =
        i.instruction.machine.frame.gas ∧
      (Machine.haltResult i.instruction.machine.frame how).refund =
        i.instruction.machine.frame.refund := by
    cases how with
    | reverted data => cases hsound
    | stopped | returned data | selfDestructed => exact ⟨rfl, rfl⟩
  have hrefund := exists_refund (Machine.haltResult i.instruction.machine.frame how) hlimit
    (hresult.1 ▸ hleft)
  rwa [hresult.1, hresult.2] at hrefund

/-- Without an instruction nothing is used beyond that. -/
theorem gas_of_codeless {output : Bytes} {gasUsed : Nat}
    (h : first tx = .ended (.ok (.success output gasUsed))) : gasUsed = tx.intrinsicGas := by
  obtain ⟨hadmitted, -, hresult⟩ := first_eq_ok h
  obtain ⟨-, -, rfl⟩ := isSuccess_of_conclude hresult.symm
  have hlimit : tx.env.gasLimit = tx.gasLimit - tx.intrinsicGas + tx.intrinsicGas :=
    (Nat.sub_add_cancel (intrinsicGas_le hadmitted)).symm
  obtain ⟨refund, hused, hnone⟩ := exists_refund
    { ending := .success .stop, gas := tx.gasLimit - tx.intrinsicGas } hlimit (Nat.le_refl _)
  rw [hnone rfl, Nat.sub_self, Nat.add_zero, Nat.add_zero] at hused
  exact hused

end Interpreter

open Interpreter in
/-- Gas of the interpreter is paid, handed on and given back, and never made. -/
theorem interpreter_meters : interpreterWorkings.Meters where
  first h := by
    rw [start_eq h]
    rfl
  spends _ := gas_instruction_le _
  refund _ hstore hdestroy := congrArg Nat.cast (refund_instruction hstore hdestroy)
  opened _ hflow hnext hwaiting :=
    (gas_of_opened hflow hnext hwaiting).imp_right (congrArg Nat.cast)
  answered _ hflow hnext hwaiting :=
    (gas_of_answered hflow hnext hwaiting).imp_right (congrArg Nat.cast)
  returned _ hflow hwaiting hnext :=
    (gas_of_returned hflow ((waiting_instruction _).trans hwaiting) hnext).imp_right fun h hnone =>
      h (Int.ofNat_eq_zero.1 hnone)
  finished hvisits hended := by
    obtain ⟨refund, hused, hnone⟩ := gas_of_finished hvisits hended
    exact ⟨refund, hused, fun h => hnone (Int.ofNat_eq_zero.1 h)⟩
  codeless _ hfirst := gas_of_codeless hfirst

/-- What a transaction is turned down for. -/
theorem Interpreter.rejected_cases {tx : TransactionEnv Hardfork Bytecode} {why : Rejection}
    (h : tx.rejection? = some why) :
    tx.gasLimit > tx.blockGasLimit ∨ tx.gasLimit < tx.intrinsicGas ∨
      ∀ info, tx.account? tx.caller = some info →
        tx.gasLimit * tx.gasPrice + tx.value > info.balance.toNat ∨
          info.code ≠ AccountInfo.blank.code := by
  unfold TransactionEnv.rejection? at h
  dsimp only at h
  split_ifs at h with habove hlow hcode hpoor
  · exact .inl habove
  · exact .inr (.inl hlow)
  · refine .inr (.inr fun info hinfo => .inr fun hblank => hcode.1 ?_)
    rw [TransactionEnv.bytecode, hinfo]
    show (info.code.getD .empty).bytes = []
    rw [hblank]
    rfl
  · refine .inr (.inr fun info hinfo => .inl ?_)
    rw [hinfo] at hpoor
    exact hpoor

open Interpreter in
/-- The interpreter rejects transactions for the documented reasons only. -/
theorem interpreter_admits : interpreterWorkings.Admits where
  rejected _ tx _ text h := by
    rcases drive_eq_error h with hfirst | ⟨text', hother⟩
    · unfold first at hfirst
      split at hfirst
      · next why hwhy => exact rejected_cases hwhy
      · split at hfirst <;> cases hfirst
    · cases hother
  first h := gas_start h

end EvmScope

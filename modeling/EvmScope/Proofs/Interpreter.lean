import EvmScope.Proofs.Path
import EvmScope.Proofs.Termination

/-!
# The workings of the interpreter

What there is to the interpreter beyond what an inspector sees. It never runs out of the steps that it
is allowed, so that it drives an inspector to the very end.
-/

namespace EvmScope

set_option autoImplicit false

/-- A frame of a machine. -/
def Frame.toView (f : Frame) : FrameView where
  code := f.invocation.code
  pc := f.pc
  gas := f.gas
  refund := f.refund

namespace Interpreter

/-- What the last instruction wants to become of its frame. -/
def flow (i : Interpreter) : Flow :=
  match i.last with
  | .ok .next => .continues
  | .ok (.call _) | .ok (.create _) => .calls
  | .ok (.halt _) | .error _ => .halts

/-- What the running frame hands back, if it has halted. -/
def output (i : Interpreter) : Bytes :=
  match i.last with
  | .ok (.halt how) => (Machine.haltResult i.machine.frame how).output.toList
  | _ => []

/-- The frames that wait. -/
def waiting (i : Interpreter) : List FrameView :=
  i.machine.waiting.map fun s => s.frame.toView

@[simp] theorem length_waiting (i : Interpreter) : i.waiting.length = i.machine.waiting.length :=
  List.length_map _

end Interpreter

/-- The workings of the interpreter, which shows all of itself to an inspector. -/
def interpreterWorkings : interpreter.Workings where
  State := Interpreter
  view i := i
  first := Interpreter.first
  instruction := Interpreter.instruction
  flow := Interpreter.flow
  onward := Interpreter.onward
  frame i := i.machine.frame.toView
  waiting := Interpreter.waiting
  output := Interpreter.output

namespace Interpreter

variable {i j : Interpreter} {env : Env} {σ : Type} {insp : Inspector Interpreter σ}

/-- To run an instruction and go on is a step of the machine. -/
theorem onward_instruction (i : Interpreter) :
    i.instruction.onward = sequel i.env (i.machine.step i.env) := by
  unfold instruction Machine.step
  cases i.machine.executed i.env <;> rfl

theorem sequel_eq_running {next : Next} (h : sequel env next = .running j) :
    next = .running j.machine ∧ j = { env, machine := j.machine } := by
  cases next with
  | running m =>
    obtain rfl := Sequel.running.inj h
    exact ⟨rfl, rfl⟩
  | finished r | aborted why => cases h

/-- A run that is over has come to the conclusion of its last frame. -/
theorem sequel_eq_ok {next : Next} {result : ExecutionResult}
    (h : sequel env next = .ended (.ok result)) :
    ∃ r, next = .finished r ∧ result = conclude env r := by
  cases next with
  | running m | aborted why => cases h
  | finished r => exact ⟨r, rfl, (Except.ok.inj (Sequel.ended.inj h)).symm⟩

/-- A run is over by the time that the potential of its first machine is used up. -/
theorem drives_drive (hquiet : insp.Quiet) (fuel : Nat) (o : Sequel Interpreter) (s : σ)
    (hfuel : ∀ i, o = .running i → i.machine.potential ≤ fuel) :
    interpreterWorkings.Drives insp o s (drive insp fuel o s) := by
  induction fuel generalizing o s with
  | zero =>
    cases o with
    | ended outcome => exact .ended outcome s
    | running i =>
      have hpos := Machine.potential_pos i.machine
      have hle := hfuel i rfl
      omega
  | succ fuel ih =>
    cases o with
    | ended outcome => exact .ended outcome s
    | running i =>
      have hstep := hquiet.step i s
      have hstepEnd := hquiet.stepEnd i.instruction (insp.step i s).2
      have hrest := ih i.instruction.onward (insp.stepEnd i.instruction (insp.step i s).2).2
        fun j hj => by
          rw [onward_instruction] at hj
          have hless := Machine.potential_step_lt (sequel_eq_running hj).1
          have hle := hfuel i rfl
          omega
      rw [drive]
      simp only [hstep, hstepEnd]
      exact .running hrest

/-- The fuel of a transaction is enough for all that its first frame can pay for. -/
theorem potential_first {tx : TransactionEnv Hardfork Bytecode} (h : first tx = .running i) :
    i.machine.potential ≤ fuel tx := by
  unfold first at h
  split at h
  · cases h
  · split at h
    · cases h
    · obtain rfl := Sequel.running.inj h
      show 2 * (tx.gasLimit - tx.intrinsicGas) + 1 ≤ 2 * tx.gasLimit + 2
      omega

/-- A transaction is given up for one reason only, unless it is over at once. -/
theorem drive_eq_error {fuel : Nat} {o : Sequel Interpreter} {s : σ} {why : TransactionError}
    (h : (drive insp fuel o s).1 = .error why) :
    o = .ended (.error why) ∨ ∃ text, why = .other text := by
  induction fuel generalizing o s with
  | zero =>
    cases o with
    | ended outcome => exact .inl (congrArg Sequel.ended h)
    | running i => exact .inr ⟨_, (Except.error.inj h).symm⟩
  | succ fuel ih =>
    cases o with
    | ended outcome => exact .inl (congrArg Sequel.ended h)
    | running i =>
      rcases ih h with hended | hother
      · unfold onward at hended
        generalize (insp.stepEnd _ _).1 = j at hended
        cases hnext : j.machine.proceed j.env j.last with
        | running m | finished r =>
          rw [hnext] at hended
          cases hended
        | aborted why' =>
          rw [hnext] at hended
          exact .inr ⟨_, (Except.error.inj (Sequel.ended.inj hended)).symm⟩
      · exact .inr hother

end Interpreter

/-- The hooks of an inspector surround every instruction of the interpreter, and there is an end to each
run. -/
theorem interpreter_surrounds : interpreterWorkings.Surrounds where
  drives _ hquiet _ s :=
    Interpreter.drives_drive hquiet _ _ s fun _ hfirst => Interpreter.potential_first hfirst

/-- The world is kept in memory, so no transaction fails for reasons of the database. -/
theorem interpreter_infallible : interpreter.Infallible where
  outcome insp _ s text h := by
    rcases Interpreter.drive_eq_error h with hfirst | ⟨text', hother⟩
    · unfold Interpreter.first at hfirst
      split at hfirst
      · cases hfirst
      · split at hfirst <;> cases hfirst
    · cases hother

end EvmScope

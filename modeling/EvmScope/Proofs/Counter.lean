import EvmScope.Proofs.Framing
import EvmScope.Proofs.Keeping
import EvmScope.Vm.Laws

/-!
# Where the program counter goes

The program counter points behind the opcode when an instruction begins. From there PUSH1 to PUSH32
take it over their operands, a jump takes it to a jump destination of the code, and everything else
leaves it alone. The code of a frame never changes.
-/

namespace EvmScope

set_option autoImplicit false

/-- What can be checked of all 256 bytes holds of every opcode. -/
@[elab_as_elim]
theorem Opcode.of_all {P : Opcode → Prop} (h : ∀ n : Fin 256, P (UInt8.ofNat n)) (op : Opcode) :
    P op := by
  have hop := h ⟨op.toNat, op.toNat_lt⟩
  rwa [UInt8.ofNat_toNat] at hop

namespace Exec

/-- A computation in two parts that succeeds has succeeded in both. -/
theorem of_bind_ok {α β : Type} {x : Exec α} {f : α → Exec β} {s u : Running} {b : β}
    (h : (x >>= f) s = .ok b u) : ∃ a t, x s = .ok a t ∧ f a t = .ok b u := by
  rw [bind_apply] at h
  cases hx : x s with
  | ok a t =>
    rw [hx] at h
    exact ⟨a, t, rfl, h⟩
  | error e t =>
    rw [hx] at h
    cases h

theorem of_pure_ok {α : Type} {a b : α} {s t : Running} (h : (pure a : Exec α) s = .ok b t) :
    a = b ∧ s = t := by
  cases h
  exact ⟨rfl, rfl⟩

theorem demand_ok {condition : Bool} {why : Fault} {s t : Running}
    (h : demand condition why s = .ok () t) : condition = true ∧ t = s := by
  unfold demand at h
  split at h
  · next hc => exact ⟨hc, (of_pure_ok h).2.symm⟩
  · cases h

/-- A charge that succeeds could be paid, and changes nothing but the gas. -/
theorem charge_ok {n : Nat} {s t : Running} (h : charge n s = .ok () t) :
    n ≤ s.frame.gas ∧ t = { s with frame := { s.frame with gas := s.frame.gas - n } } := by
  have h' : (if n ≤ s.frame.gas then modifyFrame fun f => { f with gas := f.gas - n }
      else fault .outOfGas : Exec Unit) s = .ok () t := h
  split at h'
  · next hle =>
    cases h'
    exact ⟨hle, rfl⟩
  · cases h'

/-- A push that succeeds has found room, and changes nothing but the stack. -/
theorem push_ok {w : Word} {s t : Running} (h : push w s = .ok () t) :
    s.frame.stack.length < stackLimit ∧
      t = { s with frame := { s.frame with stack := w :: s.frame.stack } } := by
  obtain ⟨⟨⟩, u, hdemand, hmodify⟩ := of_bind_ok (x := demand _ _) h
  obtain ⟨hroom, rfl⟩ := demand_ok hdemand
  cases hmodify
  exact ⟨of_decide_eq_true hroom, rfl⟩

/-- The frame runs for the same invocation. -/
def SameInvocation (s t : Running) : Prop :=
  t.frame.invocation = s.frame.invocation

theorem respected_sameInvocation : Respected SameInvocation where
  refl _ := rfl
  trans _ _ _ hst htu := Eq.trans htu hst
  gas _ _ := rfl
  stack _ _ := rfl
  memory _ _ := rfl
  world _ _ := rfl

/-- The program counter is where it was, or, if the instruction jumps, at a jump destination of the same
code. -/
structure Lands (jumps : Bool) (s t : Running) : Prop where
  invocation : t.frame.invocation = s.frame.invocation
  place : t.frame.pc = s.frame.pc ∨
    jumps = true ∧ s.frame.invocation.code.isJumpdest t.frame.pc = true

theorem respected_lands (jumps : Bool) : Respected (Lands jumps) where
  refl _ := ⟨rfl, .inl rfl⟩
  trans s t u hst htu := by
    refine ⟨htu.invocation.trans hst.invocation, ?_⟩
    rcases htu.place with heq | ⟨hjumps, hdest⟩
    · rw [heq]
      exact hst.place
    · rw [hst.invocation] at hdest
      exact .inr ⟨hjumps, hdest⟩
  gas _ _ := ⟨rfl, .inl rfl⟩
  stack _ _ := ⟨rfl, .inl rfl⟩
  memory _ _ := ⟨rfl, .inl rfl⟩
  world _ _ := ⟨rfl, .inl rfl⟩

end Exec

namespace Operation

open Exec

/-- Whether an operation is a jump. -/
def jumps : Operation → Bool
  | jump | jumpIf => true
  | _ => false

/-- A jump ends at a jump destination, or it fails where it is. -/
theorem lands_jumpTo (target : Word) : Keeps (Lands true) (jumpTo target) := by
  have h := respected_lands true
  refine h.bind (h.asSize _ _) fun pc s => ?_
  show Lands true s (final (demand (s.frame.invocation.code.isJumpdest pc) .invalidJump >>= fun _ =>
    modifyFrame fun f => { f with pc }) s)
  cases hdest : s.frame.invocation.code.isJumpdest pc with
  | false => exact h.refl s
  | true => exact ⟨rfl, .inr ⟨rfl, hdest⟩⟩

/-- Whatever is not PUSH1 to PUSH32 goes on behind its opcode, or jumps to a jump destination. -/
theorem lands_execute (env : Env) {op : Operation} (hpush : ∀ n, op ≠ push n) :
    Keeps (Lands op.jumps) (op.execute env) := by
  have h := respected_lands op.jumps
  cases hmoves : op.movesPc with
  | false =>
    refine keeps_execute h env op (fun hpc => ?_) fun _ _ _ => ⟨rfl, .inl rfl⟩
    rw [hmoves] at hpc
    cases hpc
  | true =>
    cases op with
    | push n => exact absurd rfl (hpush n)
    | jump =>
      exact h.bind (h.bind (h.charge _) fun _ => h.bind h.pop fun _ => lands_jumpTo _) fun _ =>
        h.pure _
    | jumpIf =>
      exact h.bind (h.bind (h.charge _) fun _ => h.bind h.pop fun _ => h.bind h.pop fun _ =>
        keeps_ite (fun _ => lands_jumpTo _) fun _ => h.pure ()) fun _ => h.pure _
    | _ => cases hmoves

/-- No instruction changes what its frame was called with. -/
theorem sameInvocation_execute (env : Env) (op : Operation) :
    Keeps SameInvocation (op.execute env) :=
  keeps_execute respected_sameInvocation env op (fun _ _ _ => rfl) fun _ _ _ => rfl

/-- The number of bytes behind its opcode that an operation takes from the code. -/
def operandLength : Operation → Nat
  | push n => n
  | _ => 0

variable {env : Env} {s t : Running} {signal : Signal}

/-- PUSH1 to PUSH32 push the operand behind the opcode and go on behind it. -/
theorem execute_push_ok {n : Nat} (h : (push n).execute env s = .ok signal t) :
    signal = .next ∧ t.frame.pc = s.frame.pc + n ∧
      t.frame.stack =
        Word.ofBytes (s.frame.invocation.code.operandAt s.frame.pc n) :: s.frame.stack := by
  obtain ⟨⟨⟩, u, hpush, hpure⟩ := of_bind_ok (x := executePush n) h
  obtain ⟨⟨⟩, v, hcharge, hrest⟩ := of_bind_ok (x := charge 3) hpush
  obtain ⟨-, rfl⟩ := charge_ok hcharge
  obtain ⟨⟨⟩, w, hword, hmove⟩ := of_bind_ok (x := Exec.push _) hrest
  obtain ⟨-, rfl⟩ := push_ok hword
  cases hmove
  cases hpure
  exact ⟨rfl, rfl, rfl⟩

/-- An instruction goes on behind its operand, or it jumps to a jump destination. -/
theorem execute_pc {op : Operation} (h : op.execute env s = .ok signal t) :
    t.frame.pc = s.frame.pc + op.operandLength ∨
      op.jumps = true ∧ s.frame.invocation.code.isJumpdest t.frame.pc = true := by
  by_cases hpush : ∃ n, op = push n
  · obtain ⟨n, rfl⟩ := hpush
    exact .inl (execute_push_ok h).2.1
  · have hlands : Lands op.jumps s t := (lands_execute env fun n hn => hpush ⟨n, hn⟩).of_ok h
    have hlength : op.operandLength = 0 := by
      cases op with
      | push n => exact absurd ⟨n, rfl⟩ hpush
      | _ => rfl
    rw [hlength]
    exact hlands.place

/-- An operation takes as many bytes of operand as its opcode declares. -/
theorem operandLength_ofOpcode (op : Opcode) : (ofOpcode op).operandLength = op.immediateSize :=
  Opcode.of_all (by decide +kernel) op

/-- The operations that jump are those of the two opcodes for jumps. -/
theorem jumps_ofOpcode (op : Opcode) : (ofOpcode op).jumps = decide (op ∈ Opcode.jumps) :=
  Opcode.of_all (by decide +kernel) op

theorem ofOpcode_of_isPush {op : Opcode} (h : op.isPush = true) :
    ofOpcode op = push op.immediateSize := by
  have hle : 0x60 ≤ op := (Opcode.isPush_iff.1 h).1
  have hnot : ∀ b : UInt8, b ≤ 0x60 → ¬op < b := fun b hb =>
    UInt8.not_lt.2 (UInt8.le_trans hb hle)
  have hstop : op ≠ 0x00 := by
    rintro rfl
    exact absurd hle (by decide)
  rw [ofOpcode, if_neg hstop, if_neg (hnot _ (by decide)), if_neg (hnot _ (by decide)),
    if_neg (hnot _ (by decide)), if_pos h]

end Operation

end EvmScope

import EvmScope.Interpreter
import EvmScope.Proofs.Counter
import EvmScope.Proofs.Step
import EvmScope.Vm.Laws

/-!
# The manner of an instruction

An instruction that does not fail goes on in its frame, asks for another frame, ends its frame well,
or reverts. Which of these it does is settled by its opcode alone: neither the stack nor the world
has a say in it. So a trace, which shows opcodes, shows where frames begin and end.
-/

namespace EvmScope

set_option autoImplicit false

/-- The ways in which a machine goes on after an instruction that has not failed. -/
inductive Manner
  | goesOn
  | opens
  | endsWell
  | reverts
  deriving DecidableEq

/-- The way in which a signal makes a machine go on. -/
def Signal.manner : Signal → Manner
  | .next => .goesOn
  | .call _ | .create _ => .opens
  | .halt (.reverted _) => .reverts
  | .halt _ => .endsWell

theorem Signal.opens_iff {signal : Signal} : signal.opens = true ↔ signal.manner = .opens := by
  cases signal with
  | next => simp [opens, manner]
  | call q => simp [opens, manner]
  | create q => simp [opens, manner]
  | halt how => cases how <;> simp [opens, manner]

namespace Exec

/-- What a computation gives has a property, unless it fails. -/
def Gives {α : Type} (P : α → Prop) (x : Exec α) : Prop :=
  ∀ s a t, x s = .ok a t → P a

variable {α β : Type} {P : β → Prop}

theorem Gives.pure {b : β} (h : P b) : Gives P (pure b : Exec β) := by
  intro s a t hpure
  obtain ⟨rfl, -⟩ := of_pure_ok hpure
  exact h

/-- Only the last computation gives what the whole gives. -/
theorem Gives.bind {x : Exec α} {f : α → Exec β} (h : ∀ a, Gives P (f a)) :
    Gives P (x >>= f) := by
  intro s b u hbind
  obtain ⟨a, t, -, hlast⟩ := of_bind_ok hbind
  exact h a t b u hlast

end Exec

namespace Operation

open Exec

/-- The way in which an operation makes a machine go on, unless it fails. -/
def manner : Operation → Manner
  | call _ | create _ => .opens
  | stop | ret | selfDestruct => .endsWell
  | revert => .reverts
  | _ => .goesOn

/-- Each of the calls asks for another frame, unless it fails. -/
theorem gives_executeCall (env : Env) (kind : CallKind) :
    Gives (·.manner = .opens) (executeCall env kind) :=
  .bind fun _ => .bind fun _ => .bind fun _ => .bind fun _ => .pure rfl

/-- A creation asks for another frame, unless it fails. -/
theorem gives_executeCreate (env : Env) (salted : Bool) :
    Gives (·.manner = .opens) (executeCreate env salted) :=
  .bind fun _ => .bind fun _ => .bind fun _ => .bind fun _ => .bind fun _ => .bind fun _ =>
  .bind fun _ => .bind fun _ => .bind fun _ => .bind fun _ => .bind fun _ => .bind fun _ =>
  .bind fun _ => .bind fun _ => .pure rfl

/-- **Every instruction** that does not fail makes the machine go on in the manner of its
operation. -/
theorem gives_execute (env : Env) (op : Operation) :
    Gives (·.manner = op.manner) (op.execute env) := by
  cases op with
  | call kind => exact gives_executeCall env kind
  | create salted => exact gives_executeCreate env salted
  | stop => exact .pure rfl
  | fail why => exact fun s a t h => by cases h
  | jumpDestination | balance | extCodeSize | extCodeCopy | copy source | returnDataCopy
  | memoryCopy | storageLoad | storageStore | transientStore | jump | jumpIf | push length | dup n
  | swap n | log topics | ret | selfDestruct => exact .bind fun _ => .pure rfl
  | extCodeHash | pop | revert => exact .bind fun _ => .bind fun _ => .pure rfl
  | unary cost f => exact .bind fun _ => .bind fun _ => .bind fun _ => .pure rfl
  | exp | observe cost since f =>
    exact .bind fun _ => .bind fun _ => .bind fun _ => .bind fun _ => .pure rfl
  | binary cost since f | ternary cost f | query cost since f =>
    exact .bind fun _ => .bind fun _ => .bind fun _ => .bind fun _ => .bind fun _ => .pure rfl
  | memoryLoad | memoryStoreByte | memoryStore =>
    exact .bind fun _ => .bind fun _ => .bind fun _ => .bind fun _ => .bind fun _ =>
      .bind fun _ => .pure rfl
  | keccak =>
    exact .bind fun _ => .bind fun _ => .bind fun _ => .bind fun _ => .bind fun _ =>
      .bind fun _ => .bind fun _ => .pure rfl

/-- The way in which a machine goes on is settled by the operation alone. -/
theorem execute_manner {env : Env} {op : Operation} {s t : Running} {signal : Signal}
    (h : op.execute env s = .ok signal t) : signal.manner = op.manner :=
  gives_execute env op s signal t h

/-- The manners of all opcodes. -/
theorem manner_ofOpcode (op : Opcode) :
    (ofOpcode op).manner =
      if op ∈ Opcode.openers then .opens
      else if op ∈ Opcode.enders then .endsWell
      else if op = 0xfd then .reverts
      else .goesOn :=
  Opcode.of_all (by decide +kernel) op

theorem mem_openers_of_manner {op : Opcode} (h : (ofOpcode op).manner = .opens) :
    op ∈ Opcode.openers := by
  rw [manner_ofOpcode] at h
  split_ifs at h with hopens
  exact hopens

theorem mem_enders_of_manner {op : Opcode} (h : (ofOpcode op).manner = .endsWell) :
    op ∈ Opcode.enders := by
  rw [manner_ofOpcode] at h
  split_ifs at h with hopens hends
  exact hends

theorem manner_of_mem_enders {op : Opcode} (h : op ∈ Opcode.enders) :
    (ofOpcode op).manner = .endsWell := by
  have hcloses : op ∉ Opcode.openers := by
    simp only [Opcode.enders, List.mem_cons, List.not_mem_nil, or_false] at h
    rcases h with rfl | rfl | rfl <;> decide
  rw [manner_ofOpcode, if_neg hcloses, if_pos h]

end Operation

namespace Machine

variable {env : Env} {m : Machine} {t : Running} {signal : Signal}

/-- Which way a machine goes on after an instruction is seen from its opcode. -/
theorem executed_manner (h : m.executed env = .ok signal t) :
    signal.manner = (Operation.ofOpcode m.opcode).manner :=
  Operation.execute_manner h

/-- Only the six opcodes that call or create ask for another frame. -/
theorem mem_openers (h : m.executed env = .ok signal t) (hopens : signal.opens = true) :
    m.opcode ∈ Opcode.openers := by
  have hmanner := Signal.opens_iff.1 hopens
  rw [executed_manner h] at hmanner
  exact Operation.mem_openers_of_manner hmanner

/-- Only three opcodes end a frame well. -/
theorem mem_enders {how : Halt} (h : m.executed env = .ok (.halt how) t)
    (hok : (Signal.halt how).isRevert = false) : m.opcode ∈ Opcode.enders := by
  have hmanner : (Signal.halt how).manner = .endsWell := by
    cases how with
    | reverted output => cases hok
    | _ => rfl
  rw [executed_manner h] at hmanner
  exact Operation.mem_enders_of_manner hmanner

end Machine

end EvmScope

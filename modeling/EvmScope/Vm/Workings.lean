import EvmScope.Code
import EvmScope.Transaction

/-!
# How a virtual machine works

A transaction is a run from one instruction to the next, through frames that open and close.
`Vm.Workings` names what there is to this run beyond what an inspector sees: the states between two
instructions, the frames in each, and how a state goes on. It takes no part in running anything.
Theorems about the engine assume that some workings explain its virtual machine, by laws that are
named in `EvmScope.Vm.Laws`.
-/

namespace EvmScope

set_option autoImplicit false

/-- What becomes of the running frame behind an instruction. -/
inductive Flow
  | continues
  /-- It asks for another frame. -/
  | calls
  | halts
  deriving DecidableEq, Repr

/-- A frame between two instructions. -/
structure FrameView where
  code : Code
  pc : Nat
  gas : Nat
  refund : Int

/-- A frame is at the same place of the same code as another one. -/
structure FrameView.SamePlace (f g : FrameView) : Prop where
  code : g.code = f.code
  pc : g.pc = f.pc

/-- What there is to a virtual machine beyond what an inspector sees. -/
structure Vm.Workings (vm : Vm) where
  State : Type
  /-- The interpreter that a hook is handed. -/
  view : State → vm.Interp
  /-- How a transaction begins, once it has been checked and paid for. -/
  first : TransactionEnv vm.Spec vm.Bytecode → Sequel State
  /-- Runs one instruction. -/
  instruction : State → State
  /-- What the last instruction wants to become of its frame. -/
  flow : State → Flow
  /-- Goes on behind an instruction. -/
  onward : State → Sequel State
  /-- The running frame. -/
  frame : State → FrameView
  /-- The frames that wait, the innermost first. -/
  waiting : State → List FrameView
  /-- What a frame hands back that has halted. -/
  output : State → Bytes

namespace Vm.Workings

variable {vm : Vm} (w : vm.Workings)

/-- What an inspector sees in front of an instruction. -/
def before (i : w.State) : Observation :=
  vm.observe (w.view i)

/-- What an inspector sees behind an instruction. -/
def behind (i : w.State) : Aftermath :=
  vm.aftermath (w.view (w.instruction i))

/-- The next step of a state as an inspector is told of it. -/
def seen (i : w.State) : SeenStep :=
  ⟨w.before i, w.behind i⟩

/-- A run in the sight of an inspector, which is called in front of every instruction and behind it.
What it does to the interpreter is left out: this is for inspectors that leave it alone. -/
inductive Drives {σ : Type} (insp : Inspector vm.Interp σ) :
    Sequel w.State → σ → Except TransactionError ExecutionResult × σ → Prop
  | ended (outcome : Except TransactionError ExecutionResult) (s : σ) :
    Drives insp (.ended outcome) s (outcome, s)
  | running {i : w.State} {s : σ} {out : Except TransactionError ExecutionResult × σ}
      (h : Drives insp (w.onward (w.instruction i))
        (insp.stepEnd (w.view (w.instruction i)) (insp.step (w.view i) s).2).2 out) :
    Drives insp (.running i) s out

/-- A run by the states in front of its instructions. -/
inductive Runs : Sequel w.State → List w.State → Except TransactionError ExecutionResult → Prop
  | ended (outcome : Except TransactionError ExecutionResult) : Runs (.ended outcome) [] outcome
  | running {i : w.State} {path : List w.State} {outcome : Except TransactionError ExecutionResult}
      (h : Runs (w.onward (w.instruction i)) path outcome) : Runs (.running i) (i :: path) outcome

end Vm.Workings

/-- Code that is run as it stands: the two prefixes that announce another format are reserved. -/
structure Plain (code : Bytes) : Prop where
  noContainer : ¬[0xef, 0x00] <+: code
  noDelegation : ¬[0xef, 0x01] <+: code

/-- The transaction is one by which the engine calls some plain code. -/
structure Vm.Calls (vm : Vm) (tx : TransactionEnv vm.Spec vm.Bytecode) (code : Bytes) : Prop where
  plain : Plain code
  made : ∃ spec bytecode input ctx, vm.newRaw? code = some bytecode ∧
    tx = vm.transaction spec bytecode input ctx

/-- A state comes up in the run of a transaction that calls some plain code and begins at `i₀`. -/
inductive Vm.Workings.Visits {vm : Vm} (w : vm.Workings)
    (tx : TransactionEnv vm.Spec vm.Bytecode) (code : Bytes) (i₀ : w.State) : w.State → Prop
  | first (hcalls : vm.Calls tx code) (h : w.first tx = .running i₀) : Visits w tx code i₀ i₀
  | next {i j : w.State} (hi : Visits w tx code i₀ i)
      (h : w.onward (w.instruction i) = .running j) : Visits w tx code i₀ j

end EvmScope

import EvmScope.Address
import EvmScope.Opcode

/-!
# Virtual machines

What the engine asks of a virtual machine: to take bytecode, to say what a call costs before its code
runs, and to run a transaction in which an inspector is told of every instruction, before it and
behind it. How the machine runs code is its own affair, so it is a parameter wherever the engine is
spoken of. `EvmScope.Interpreter` is one such machine.
-/

namespace EvmScope

set_option autoImplicit false

/-- What an inspector can read of an interpreter between two instructions. -/
structure Observation where
  /-- The account whose storage the running frame works on. -/
  address : Address
  pc : Nat
  op : Opcode
  gas : Nat
  depth : Nat
  /-- The stack, its top first. -/
  stack : List Word
  memory : Array UInt8

/-- How the last instruction has gone, as far as an inspector can ask. -/
structure InstructionResult where
  /-- Whether the frame reverts. -/
  isRevert : Bool
  /-- Whether the frame fails and loses its gas. -/
  isError : Bool
  name : String

/-- The instruction has neither failed nor reverted. -/
def InstructionResult.Sound (r : InstructionResult) : Prop :=
  r.isRevert = false ∧ r.isError = false

instance (r : InstructionResult) : Decidable r.Sound :=
  inferInstanceAs (Decidable (_ ∧ _))

/-- What an inspector sees of an instruction once it has run. -/
structure Aftermath where
  gas : Nat
  stack : List Word
  result : InstructionResult

/-- A whole step as an inspector is told of it. -/
structure SeenStep where
  before : Observation
  after : Aftermath

/-- Hooks that are handed the interpreter `ι` before and after every instruction, and a state `σ` of
their own. Either may come back changed. -/
structure Inspector (ι σ : Type) where
  step : ι → σ → ι × σ
  stepEnd : ι → σ → ι × σ

/-- The inspector leaves the interpreter as it is. -/
structure Inspector.Quiet {ι σ : Type} (insp : Inspector ι σ) : Prop where
  step : ∀ i s, (insp.step i s).1 = i
  stepEnd : ∀ i s, (insp.stepEnd i s).1 = i

/-- The inspector that does nothing. -/
def Inspector.idle {ι : Type} : Inspector ι Unit where
  step i s := (i, s)
  stepEnd i s := (i, s)

/-- What the state of a transaction holds of an account. -/
structure AccountInfo (Bytecode : Type) where
  balance : Word
  nonce : Nat
  codeHash : Word
  code : Option Bytecode

/-- A transaction that calls an account, and the block and the accounts that it finds. All else has
its default value, and the nonce of the caller is not checked. -/
structure TransactionEnv (Spec Bytecode : Type) where
  spec : Spec
  /-- The accounts in the order in which they were put in; the last one of an address counts. -/
  accounts : List (Address × AccountInfo Bytecode)
  number : Nat
  coinbase : Address
  difficulty : Nat
  prevrandao : Nat
  blockGasLimit : Nat
  caller : Address
  target : Address
  input : Bytes
  value : Nat
  gasLimit : Nat
  gasPrice : Nat

/-- The account of an address, if one was put in. -/
def TransactionEnv.account? {Spec Bytecode : Type} (tx : TransactionEnv Spec Bytecode) (a : Address) :
    Option (AccountInfo Bytecode) :=
  tx.accounts.reverse.lookup a

/-- What has become of a transaction that has been run. -/
inductive ExecutionResult
  | success (output : Bytes) (gasUsed : Nat)
  | revert (output : Bytes)
  | halt (reason : String)

/-- Why a transaction has not been run, or not to its end. -/
inductive TransactionError
  /-- The state behind the transaction failed. -/
  | database (text : String)
  /-- The transaction or its block is not valid, so that nothing has run. -/
  | rejected (text : String)
  | other (text : String)

/-- How a run goes on: there is an instruction to run next in `ι`, or the transaction is over. -/
inductive Sequel (ι : Type)
  | running (next : ι)
  | ended (outcome : Except TransactionError ExecutionResult)

/-- A virtual machine. -/
structure Vm where
  /-- The versions of the rules. -/
  Spec : Type
  cancun : Spec
  Bytecode : Type
  /-- Takes bytes as bytecode. There is bytecode that it does not come back from. -/
  newRaw? : Bytes → Option Bytecode
  hashOf : Bytecode → Word
  /-- An account that nothing is known of. -/
  blank : AccountInfo Bytecode
  /-- What a call with some input costs before its code runs. -/
  intrinsicGas : Spec → Bytes → UInt64
  /-- The running interpreter, with what it runs in. -/
  Interp : Type
  observe : Interp → Observation
  result : Interp → InstructionResult
  /-- Runs a transaction in the sight of an inspector. -/
  transact : {σ : Type} → Inspector Interp σ → TransactionEnv Spec Bytecode → σ →
    Except TransactionError ExecutionResult × σ

/-- What an inspector sees of an interpreter once an instruction has run. -/
def Vm.aftermath (vm : Vm) (i : vm.Interp) : Aftermath where
  gas := (vm.observe i).gas
  stack := (vm.observe i).stack
  result := vm.result i

/-- The inspector that keeps all steps, and the one that still runs. -/
def Vm.recorder (vm : Vm) : Inspector vm.Interp (List SeenStep × Option Observation) where
  step i s := (i, (s.1, some (vm.observe i)))
  stepEnd i s := (i, (s.1 ++ (s.2.map fun o => SeenStep.mk o (vm.aftermath i)).toList, none))

/-- What becomes of a transaction that nothing watches. -/
def Vm.outcome (vm : Vm) (tx : TransactionEnv vm.Spec vm.Bytecode) :
    Except TransactionError ExecutionResult :=
  (vm.transact .idle tx ()).1

/-- The steps of a transaction, in order. -/
def Vm.steps (vm : Vm) (tx : TransactionEnv vm.Spec vm.Bytecode) : List SeenStep :=
  (vm.transact vm.recorder tx ([], none)).2.1

end EvmScope

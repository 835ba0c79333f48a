import EvmScope.Hex
import EvmScope.Trace.StepLog

/-!
# Transactions

One call of a piece of code in a fresh state. The code sits at a fixed account, the origin is rich
enough to pay for anything, and the code itself gets the whole gas limit, on top of what the
transaction costs before it runs.
-/

namespace EvmScope

set_option autoImplicit false

structure Context where
  blockNumber : Nat := 0
  coinbase : Address := 0
  difficulty : Nat := 0
  gasLimit : Nat := 100000
  gasPrice : Nat := 1
  origin : Address := 0
  value : Nat := 0
  /-- Whether the steps are recorded. -/
  tracing : Bool := true
  deriving DecidableEq, Repr

structure Execution where
  returnData : Bytes := []
  logs : List StepLog := []
  gasUsed : Nat := 0
  /-- An error that the state behind the call raised after it returned. -/
  stateError : Option String := none

/-- Why a call has no result. -/
inductive RuntimeError
  /-- The transaction was turned down, or the virtual machine failed. -/
  | transaction (text : String)
  | reverted (output : Bytes)
  | halted (reason : String)
  deriving DecidableEq, Repr

def RuntimeError.message : RuntimeError → String
  | transaction text => s!"transaction failed: {text}"
  | reverted output => s!"execution reverted: 0x{String.ofList (Hex.encode output)}"
  | halted reason => s!"execution halted: {reason}"

inductive Reply
  /-- The virtual machine does not come back from taking the code. -/
  | crashed
  | failed (why : RuntimeError)
  | ran (execution : Execution)

namespace Transaction

/-- The account that the code is installed at. -/
def contract : Address := 0x636f6e7472616374

/-- The largest amount of gas. -/
def largestGas : Nat := 18446744073709551615

/-- The gas limit of a transaction: that of the call and what the transaction costs before, as far as
64 bits go. -/
def gasLimit (intrinsic : UInt64) (ctx : Context) : Nat :=
  min (ctx.gasLimit + intrinsic.toNat) largestGas

/-- The reply to a transaction that has come to an outcome, with the steps that were recorded. -/
def reply (intrinsic : UInt64) (logs : List StepLog) :
    Except TransactionError ExecutionResult → Reply
  | .ok (.success output gasUsed) =>
    .ran { returnData := output, logs, gasUsed := gasUsed - intrinsic.toNat }
  | .ok (.revert output) => .failed (.reverted output)
  | .ok (.halt reason) => .failed (.halted reason)
  | .error (.database text) => .ran { logs, stateError := some text }
  | .error (.rejected text) => .failed (.transaction text)
  | .error (.other text) => .failed (.transaction text)

end Transaction

namespace Vm

open Transaction

variable (vm : Vm)

/-- The transaction that calls some bytecode with an input. -/
def transaction (spec : vm.Spec) (bytecode : vm.Bytecode) (input : Bytes) (ctx : Context) :
    TransactionEnv vm.Spec vm.Bytecode where
  spec := spec
  accounts :=
    [(ctx.origin, { vm.blank with balance := BitVec.allOnes 256 }),
      (contract,
        { balance := if ctx.origin = contract then BitVec.allOnes 256 else 0
          nonce := 0
          codeHash := vm.hashOf bytecode
          code := some bytecode })]
  number := ctx.blockNumber
  coinbase := ctx.coinbase
  difficulty := ctx.difficulty
  prevrandao := ctx.difficulty
  blockGasLimit := gasLimit (vm.intrinsicGas spec input) ctx
  caller := ctx.origin
  target := contract
  input := input
  value := ctx.value
  gasLimit := gasLimit (vm.intrinsicGas spec input) ctx
  gasPrice := ctx.gasPrice

/-- Calls some code with an input, and says what came of it and which steps were recorded. -/
def executeLogged (spec : vm.Spec) (code input : Bytes) (ctx : Context) : Reply × List StepLog :=
  match vm.newRaw? code with
  | none => (.crashed, [])
  | some bytecode =>
    let tx := vm.transaction spec bytecode input ctx
    let (outcome, logger) := vm.transact (Logger.inspector vm) tx { enabled := ctx.tracing }
    (reply (vm.intrinsicGas spec input) logger.logs outcome, logger.logs)

/-- Calls some code with an input. -/
def execute (spec : vm.Spec) (code input : Bytes) (ctx : Context) : Reply :=
  (vm.executeLogged spec code input ctx).1

end Vm

end EvmScope

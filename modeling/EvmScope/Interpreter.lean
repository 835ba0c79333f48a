import EvmScope.Machine

/-!
# The interpreter

A virtual machine for plain code, up to the rules of Cancun. A transaction that is not turned down
pays, moves its value and runs the code that it calls, one instruction after the other, each of them
between the two hooks of an inspector.
-/

namespace EvmScope

set_option autoImplicit false

/-- Bytecode as an account holds it. -/
structure Bytecode where
  bytes : Bytes
  /-- The account whose code runs in its place. -/
  delegate? : Option Address := none
  deriving DecidableEq, Repr

namespace Bytecode

/-- Takes bytes as bytecode. Two prefixes are reserved: behind the first no code is taken, and behind
the second only a version byte of zero and an address. -/
def newRaw? (bs : Bytes) : Option Bytecode :=
  match bs with
  | 0xef :: 0x00 :: _ => none
  | 0xef :: 0x01 :: rest =>
    match rest with
    | 0x00 :: target =>
      if target.length = 20 then some { bytes := bs, delegate? := Address.ofBytes target } else none
    | _ => none
  | _ => some { bytes := bs }

def empty : Bytecode :=
  { bytes := [] }

def hash (b : Bytecode) : Word :=
  Word.ofBytes (Keccak.hash b.bytes.toArray)

/-- Bytecode as a frame runs it. -/
def code (b : Bytecode) : Code :=
  .ofBytes b.bytes.toArray

end Bytecode

def AccountInfo.blank : AccountInfo Bytecode where
  balance := 0
  nonce := 0
  codeHash := Bytecode.empty.hash
  code := some .empty

def AccountInfo.bytecode (info : AccountInfo Bytecode) : Bytecode :=
  info.code.getD .empty

/-- The world that holds the given accounts. -/
def World.ofAccounts (accounts : List (Address × AccountInfo Bytecode)) : World :=
  accounts.foldl
    (fun w (a, info) =>
      w.modify a fun _ =>
        { balance := info.balance, nonce := info.nonce, code := info.bytecode.code, present := true })
    {}

/-- What a call with some input costs before its code runs, as far as 64 bits go. -/
def Gas.intrinsic64 (fork : Hardfork) (input : Bytes) : UInt64 :=
  UInt64.ofNat (Gas.capped (Gas.intrinsic fork input))

inductive Rejection
  | gasLimitAboveBlock
  | gasLimitTooLow
  | callerHasCode
  | callerTooPoor (fee balance : Nat)
  deriving DecidableEq, Repr

def Rejection.message : Rejection → String
  | gasLimitAboveBlock => "caller gas limit exceeds the block gas limit"
  | gasLimitTooLow => "call gas cost exceeds the gas limit"
  | callerHasCode => "reject transactions from senders with deployed code"
  | callerTooPoor fee balance => s!"lack of funds ({balance}) for max fee ({fee})"

namespace TransactionEnv

variable (tx : TransactionEnv Hardfork Bytecode)

/-- What the frames of a transaction see of it. -/
def env : Env where
  fork := tx.spec
  number := tx.number
  coinbase := tx.coinbase
  difficulty := tx.difficulty
  prevrandao := tx.prevrandao
  blockGasLimit := tx.blockGasLimit
  gasLimit := tx.gasLimit
  gasPrice := tx.gasPrice
  origin := tx.caller

def bytecode (a : Address) : Bytecode :=
  ((tx.account? a).map AccountInfo.bytecode).getD .empty

/-- What a transaction costs before its code runs. -/
def intrinsicGas : Nat :=
  (Gas.intrinsic64 tx.spec tx.input).toNat

def rejection? : Option Rejection :=
  let fee := tx.gasLimit * tx.gasPrice + tx.value
  let caller := tx.bytecode tx.caller
  let balance := ((tx.account? tx.caller).map AccountInfo.balance).getD 0
  if tx.gasLimit > tx.blockGasLimit then some .gasLimitAboveBlock
  else if tx.gasLimit < tx.intrinsicGas then some .gasLimitTooLow
  else if caller.bytes ≠ [] ∧ caller.delegate? = none then some .callerHasCode
  else if fee > balance.toNat then some (.callerTooPoor fee balance.toNat)
  else none

/-- The world in which the first frame begins: what the rules know from the start is warm, the caller
has paid the gas limit and counted the transaction, and the value has moved. -/
def prepared : World :=
  let preloaded := Precompile.addresses tx.spec ++
    (if .shanghai ≤ tx.spec then [tx.coinbase] else []) ++ [tx.caller, tx.target]
  let w := preloaded.foldl World.warmUp (.ofAccounts tx.accounts)
  let w := (w.debit tx.caller (BitVec.ofNat 256 (tx.gasLimit * tx.gasPrice))).modify tx.caller
    fun a => { a with nonce := a.nonce + 1, present := true }
  (w.transfer? tx.caller tx.target (BitVec.ofNat 256 tx.value)).getD w

/-- The code that a transaction runs, in the place of that of its target if that is delegated. -/
def code : Code :=
  match (tx.bytecode tx.target).delegate? with
  | some a => (tx.prepared.account a).code
  | none => (tx.prepared.account tx.target).code

/-- The first frame of a transaction. -/
def firstFrame : Frame where
  invocation :=
    { self := tx.target
      caller := tx.caller
      value := BitVec.ofNat 256 tx.value
      input := tx.input.toArray
      isStatic := false
      code := tx.code }
  gas := tx.gasLimit - tx.intrinsicGas

end TransactionEnv

/-- A machine with its surroundings, between two instructions. -/
structure Interpreter where
  env : Env
  machine : Machine
  /-- How the last instruction has gone. -/
  last : Except Fault Signal := .ok .next

namespace Signal

/-- The name of what an instruction asks for. -/
def name : Signal → String
  | .next => "Continue"
  | .call _ | .create _ => "CallOrCreate"
  | .halt .stopped => "Stop"
  | .halt (.returned _) => "Return"
  | .halt .selfDestructed => "SelfDestruct"
  | .halt (.reverted _) => "Revert"

/-- Whether an instruction reverts its frame. -/
def isRevert : Signal → Bool
  | .halt (.reverted _) => true
  | _ => false

end Signal

namespace Interpreter

/-- How the last instruction has gone, as far as an inspector can ask. -/
def result (i : Interpreter) : InstructionResult :=
  match i.last with
  | .ok signal => ⟨signal.isRevert, false, signal.name⟩
  | .error why => ⟨false, true, why.name⟩

def instruction (i : Interpreter) : Interpreter :=
  match i.machine.executed i.env with
  | .ok signal t => { i with machine := i.machine.after t, last := .ok signal }
  | .error why t => { i with machine := i.machine.after t, last := .error why }

/-- The gas that a transaction has used, refunds taken off. -/
def gasUsed (env : Env) (r : FrameResult) : Nat :=
  let spent := env.gasLimit - r.gas
  spent - min r.refund (spent / Gas.refundQuotient env.fork)

/-- What has become of a transaction whose outermost frame has ended. -/
def conclude (env : Env) (r : FrameResult) : ExecutionResult :=
  match r.ending with
  | .success _ => .success r.output.toList (gasUsed env r)
  | .reverted => .revert r.output.toList
  | .callTooDeep => .halt "CallTooDeep"
  | .outOfFunds => .halt "OutOfFunds"
  | .fault why => .halt why.haltReason

/-- How a run goes on with a machine that has gone on. -/
def sequel (env : Env) : Next → Sequel Interpreter
  | .running machine => .running { env, machine }
  | .finished r => .ended (.ok (conclude env r))
  | .aborted why => .ended (.error (.other why.message))

/-- Goes on after an instruction. -/
def onward (i : Interpreter) : Sequel Interpreter :=
  sequel i.env (i.machine.proceed i.env i.last)

/-- What a transaction begins with. Without code it is over at once. -/
def first (tx : TransactionEnv Hardfork Bytecode) : Sequel Interpreter :=
  match tx.rejection? with
  | some why => .ended (.error (.rejected s!"transaction validation error: {why.message}"))
  | none =>
    if (tx.bytecode tx.target).bytes = [] then
      .ended (.ok (conclude tx.env
        { ending := .success .stop, gas := tx.gasLimit - tx.intrinsicGas }))
    else
      .running { env := tx.env, machine := { frame := tx.firstFrame, world := tx.prepared } }

/-- Runs instructions to the end, at most `fuel` of them, each between the hooks of an inspector. -/
def drive {σ : Type} (insp : Inspector Interpreter σ) :
    (fuel : Nat) → Sequel Interpreter → σ → Except TransactionError ExecutionResult × σ
  | _, .ended outcome, s => (outcome, s)
  | 0, .running _, s => (.error (.other "too many steps"), s)
  | fuel + 1, .running i, s =>
    let (i, s) := insp.step i s
    let (i, s) := insp.stepEnd i.instruction s
    drive insp fuel i.onward s

/-- The instructions that a transaction can run: each takes gas or leaves a frame for good. -/
def fuel (tx : TransactionEnv Hardfork Bytecode) : Nat :=
  2 * tx.gasLimit + 2

def transact {σ : Type} (insp : Inspector Interpreter σ) (tx : TransactionEnv Hardfork Bytecode) (s : σ) :
    Except TransactionError ExecutionResult × σ :=
  drive insp (fuel tx) (first tx) s

end Interpreter

/-- The interpreter as a virtual machine. -/
def interpreter : Vm where
  Spec := Hardfork
  cancun := .cancun
  Bytecode := Bytecode
  newRaw? := Bytecode.newRaw?
  hashOf := Bytecode.hash
  blank := .blank
  intrinsicGas := Gas.intrinsic64
  Interp := Interpreter
  observe i := i.machine.observe
  result := Interpreter.result
  transact := Interpreter.transact

end EvmScope

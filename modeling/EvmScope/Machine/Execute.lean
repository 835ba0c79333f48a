import EvmScope.Machine.Operation

/-!
# Execution of one instruction

`Operation.execute` runs an instruction in its frame and says how the machine goes on: with the next
instruction, by opening another frame, or by ending this one. The order of charges and checks inside
an instruction is part of its meaning, because a trace shows the gas that a failed instruction has
used.
-/

namespace EvmScope

set_option autoImplicit false

/-- A call that the machine is asked to make. Its gas has been taken from the caller already. -/
structure CallRequest where
  gas : Nat
  /-- The account whose code runs. -/
  codeAddress : Address
  /-- The account whose balance and storage the code works on. -/
  target : Address
  caller : Address
  value : Word
  /-- Whether the value moves from the caller to the target, or is only shown to the code. -/
  movesValue : Bool
  input : Array UInt8
  isStatic : Bool
  /-- Where in the caller's memory the output goes, and how much of it fits there. -/
  outOffset : Nat
  outLength : Nat

/-- A creation that the machine is asked to make. -/
structure CreateRequest where
  gas : Nat
  creator : Address
  value : Word
  initCode : Array UInt8
  /-- The salt of CREATE2. -/
  salt : Option Word

/-- How a frame ends of its own accord. -/
inductive Halt
  | stopped
  | returned (output : Array UInt8)
  | selfDestructed
  | reverted (output : Array UInt8)

/-- How the machine goes on after an instruction. -/
inductive Signal
  | next
  | call (request : CallRequest)
  | create (request : CreateRequest)
  | halt (how : Halt)

namespace Operation

open Exec

/-- What a call takes from the stack: its gas, an address, for two of them a value, and the ranges
of memory of its input and output. -/
structure CallOperands where
  requested : Nat
  address : Address
  value : Word
  input : Array UInt8
  outOffset : Nat
  outLength : Nat

/-- The value that a call takes from the stack, zero if it takes none. -/
def callValue : CallKind → Exec Word
  | .call | .callCode => Exec.pop
  | .delegateCall | .staticCall => pure 0

/-- Fails if a call would move value where the world may not be changed. -/
def requireMovable (kind : CallKind) (value : Word) : Exec Unit := do
  if kind = .call then
    demand (!(← get).frame.invocation.isStatic || value == 0) .valueInStaticCall

/-- The words of a call, and the memory that they name, grown as far as both ranges need. -/
def callOperands (kind : CallKind) : Exec CallOperands := do
  let requested := saturated (← Exec.pop)
  let address := Address.ofWord (← Exec.pop)
  let value ← callValue kind
  requireMovable kind value
  let inOffset ← Exec.pop
  let inLength ← Exec.pop
  let outOffset ← Exec.pop
  let outLength ← Exec.pop
  let inLength ← asSize inLength .operandOutOfRange
  let inOffset ← range inOffset inLength
  let input ← read inOffset inLength
  let outLength ← asSize outLength .operandOutOfRange
  let outOffset ← range outOffset outLength
  pure { requested, address, value, input, outOffset, outLength }

/-- Pays for a call and takes the gas that it forwards. -/
def chargeCall (env : Env) (kind : CallKind) (address : Address) (value : Word) (requested : Nat) :
    Exec Nat := do
  let world := (← get).world
  let cold := world.isCold address
  let newAccount := kind = .call && world.isNew env.fork address
  modifyWorld (·.warmUp address)
  charge (Gas.call env.fork cold (value != 0) newAccount)
  let gas := Gas.forwarded env.fork (← get).frame.gas requested
  charge gas
  pure (if value != 0 then gas + Gas.stipend else gas)

/-- The rules since which a call exists. -/
def callSince : CallKind → Hardfork
  | .call | .callCode => .frontier
  | .delegateCall => .homestead
  | .staticCall => .byzantium

def executeCall (env : Env) (kind : CallKind) : Exec Signal := do
  requireFork env (callSince kind)
  let o ← callOperands kind
  let gas ← chargeCall env kind o.address o.value o.requested
  let here := (← get).frame.invocation
  let request : CallRequest :=
    { gas
      codeAddress := o.address
      target := o.address
      caller := here.self
      value := o.value
      movesValue := true
      input := o.input
      isStatic := here.isStatic
      outOffset := o.outOffset
      outLength := o.outLength }
  pure <| .call <| match kind with
    | .call => request
    | .callCode => { request with target := here.self }
    | .delegateCall =>
      { request with
        target := here.self, caller := here.caller, value := here.value, movesValue := false }
    | .staticCall => { request with isStatic := true }

/-- The largest init code since Shanghai. -/
def initCodeLimit : Nat := 49152

/-- The rules since which a creation exists. -/
def createSince (salted : Bool) : Hardfork :=
  if salted then .petersburg else .frontier

/-- Checks the size of an init code and pays for its words, as is done since Shanghai. -/
def chargeInitCode (env : Env) (length : Nat) : Exec Unit := do
  if length ≠ 0 ∧ Hardfork.shanghai ≤ env.fork then
    demand (length ≤ initCodeLimit) .initCodeTooLarge
    charge (Gas.initCode length)

/-- The salt of a creation, if it has one. -/
def popSalt (salted : Bool) : Exec (Option Word) := do
  if salted then pure (some (← Exec.pop)) else pure none

/-- CREATE, or CREATE2 if `salted`. -/
def executeCreate (env : Env) (salted : Bool) : Exec Signal := do
  requireMutable
  requireFork env (createSince salted)
  let value ← Exec.pop
  let offset ← Exec.pop
  let length ← asSize (← Exec.pop) .operandOutOfRange
  chargeInitCode env length
  let offset ← range offset length
  let initCode ← read offset length
  let salt ← popSalt salted
  charge (if salted then Gas.create2 length else Gas.create)
  let gas := Gas.forwardable env.fork (← get).frame.gas
  charge gas
  pure (.create { gas, creator := (← get).frame.invocation.self, value, initCode, salt })

/-- Copies bytes of `source` to memory. -/
def copyToMemory (source : Array UInt8) (target : Word) (start length : Nat) : Exec Unit := do
  if length ≠ 0 then
    let target ← range target length
    Exec.write target (Bytes.window source start length)

/-- CALLDATACOPY and CODECOPY. -/
def executeCopy (source : CopySource) : Exec Unit := do
  let target ← Exec.pop
  let start ← Exec.pop
  let length ← asSize (← Exec.pop) .operandOutOfRange
  charge (Gas.copy 3 length)
  let here := (← get).frame.invocation
  let bytes := match source with
    | .input => here.input
    | .code => here.code.bytes
  copyToMemory bytes target (saturated start) length

def executeExtCodeCopy (env : Env) : Exec Unit := do
  let address := Address.ofWord (← Exec.pop)
  let target ← Exec.pop
  let start ← Exec.pop
  let length ← Exec.pop
  let world := (← get).world
  modifyWorld (·.warmUp address)
  let length ← asSize length .operandOutOfRange
  charge (Gas.copy (Gas.extCode env.fork (world.isCold address)) length)
  copyToMemory (world.account address).code.bytes target (saturated start) length

/-- RETURNDATACOPY, the only copy that may not reach past the end of its source. -/
def executeReturnDataCopy (env : Env) : Exec Unit := do
  requireFork env .byzantium
  let target ← Exec.pop
  let start ← Exec.pop
  let length ← asSize (← Exec.pop) .operandOutOfRange
  charge (Gas.copy 3 length)
  let data := (← get).frame.returnData
  demand (saturated start + length ≤ data.size) .outOfOffset
  copyToMemory data target (saturated start) length

def executeMemoryCopy (env : Env) : Exec Unit := do
  requireFork env .cancun
  let target ← Exec.pop
  let source ← Exec.pop
  let length ← asSize (← Exec.pop) .operandOutOfRange
  charge (Gas.copy 3 length)
  if length ≠ 0 then
    let target ← asSize target .operandOutOfRange
    let source ← asSize source .operandOutOfRange
    grow (max target source) length
    Exec.write target (← read source length)

/-- Reads something of an account that the stack names, and pays for the access. -/
def executeAccountQuery (env : Env) (price : Hardfork → Bool → Nat) (f : Account → Word) :
    Exec Unit := do
  let address := Address.ofWord (← Exec.pop)
  let world := (← get).world
  modifyWorld (·.warmUp address)
  charge (price env.fork (world.isCold address))
  Exec.push (f (world.account address))

/-- The word that EXTCODEHASH gives for an account: zero if it is empty. -/
def codeHash (a : Account) : Word :=
  if a.isEmpty then 0 else Word.ofBytes (Keccak.hash a.code.bytes)

/-- SLOAD. The key stays on the stack until the value takes its place. -/
def executeStorageLoad (env : Env) : Exec Unit := do
  let key ← Exec.top
  let s ← get
  let slot := s.world.slot s.frame.invocation.self key
  modifyWorld (·.warmSlot s.frame.invocation.self key)
  charge (Gas.sload env.fork (!slot.warm))
  replaceTop slot.value

/-- Since Istanbul nothing is stored with no more gas than a call gives away. -/
def requireStipend (env : Env) : Exec Unit := do
  if .istanbul ≤ env.fork then
    demand (Gas.stipend < (← get).frame.gas) .outOfGas

def executeStorageStore (env : Env) : Exec Unit := do
  requireMutable
  let key ← Exec.pop
  let value ← Exec.pop
  let s ← get
  let slot := s.world.slot s.frame.invocation.self key
  modifyWorld (·.setSlot s.frame.invocation.self key value)
  requireStipend env
  charge (Gas.sstore env.fork (!slot.warm) (slot.value == 0) (value == 0) (value == slot.value))
  modifyFrame fun f =>
    { f with refund := f.refund + Gas.sstoreRefund env.fork (slot.value == 0) (value == 0) }

def executeTransientStore (env : Env) : Exec Unit := do
  requireFork env .cancun
  requireMutable
  charge 100
  let key ← Exec.pop
  let value ← Exec.pop
  let self := (← get).frame.invocation.self
  modifyWorld (·.setTransientSlot self key value)

/-- Moves the program counter to a jump destination. -/
def jumpTo (target : Word) : Exec Unit := do
  let pc ← asSize target .invalidJump
  demand ((← get).frame.invocation.code.isJumpdest pc) .invalidJump
  modifyFrame fun f => { f with pc }

def executeJump : Exec Unit := do
  charge 8
  jumpTo (← Exec.pop)

def executeJumpIf : Exec Unit := do
  charge 10
  let target ← Exec.pop
  let condition ← Exec.pop
  if condition ≠ 0 then jumpTo target

def executePush (length : Nat) : Exec Unit := do
  charge 3
  let f := (← get).frame
  Exec.push (Word.ofBytes (f.invocation.code.operandAt f.pc length))
  modifyFrame fun f => { f with pc := f.pc + length }

def executeDup (n : Nat) : Exec Unit := do
  charge 3
  match (← get).frame.stack[n - 1]? with
  | none => Exec.fault .stackUnderflow
  | some w => Exec.push w

/-- SWAP1 to SWAP16: exchanges the top word with the one `n` places below it. -/
def executeSwap (n : Nat) : Exec Unit := do
  charge 3
  let stack := (← get).frame.stack
  match stack.head?, stack[n]? with
  | some a, some b => modifyFrame fun f => { f with stack := (f.stack.set 0 b).set n a }
  | _, _ => Exec.fault .stackUnderflow

/-- LOG0 to LOG4. No one reads the entries, so only their cost remains. -/
def executeLog (topics : Nat) : Exec Unit := do
  requireMutable
  let offset ← Exec.pop
  let length ← asSize (← Exec.pop) .operandOutOfRange
  charge (Gas.log topics length)
  discard (range offset length)
  discard (popMany topics)

def executeSelfDestruct (env : Env) : Exec Unit := do
  requireMutable
  let beneficiary := Address.ofWord (← Exec.pop)
  let s ← get
  let self := s.frame.invocation.self
  let account := s.world.account self
  let cold := s.world.isCold beneficiary
  let newAccount := s.world.isNew env.fork beneficiary &&
    (account.balance != 0 || !(Hardfork.spuriousDragon ≤ env.fork))
  modifyWorld fun w => (w.warmUp beneficiary).selfDestruct env.fork self beneficiary
  modifyFrame fun f =>
    { f with
      refund := f.refund + if account.destroyed then 0 else Gas.selfDestructRefund env.fork }
  charge (Gas.selfDestruct env.fork cold newAccount)

/-- The output of RETURN and REVERT. -/
def executeOutput : Exec (Array UInt8) := do
  let offset ← Exec.pop
  let length ← asSize (← Exec.pop) .operandOutOfRange
  let offset ← range offset length
  read offset length

/-- Runs an instruction. The program counter points behind its opcode already. -/
def execute (env : Env) : Operation → Exec Signal
  | unary cost f => do
    charge cost
    let a ← Exec.pop
    Exec.push (f a)
    pure .next
  | binary cost since f => do
    requireFork env since
    charge cost
    let a ← Exec.pop
    let b ← Exec.pop
    Exec.push (f a b)
    pure .next
  | ternary cost f => do
    charge cost
    let a ← Exec.pop
    let b ← Exec.pop
    let c ← Exec.pop
    Exec.push (f a b c)
    pure .next
  | exp => do
    let a ← Exec.pop
    let e ← Exec.pop
    charge (Gas.exp env.fork e.toNat)
    Exec.push (Word.exp a e)
    pure .next
  | keccak => do
    let offset ← Exec.pop
    let length ← asSize (← Exec.pop) .operandOutOfRange
    charge (Gas.keccak length)
    let offset ← range offset length
    Exec.push (Word.ofBytes (Keccak.hash (← read offset length)))
    pure .next
  | observe cost since f => do
    requireFork env since
    charge cost
    Exec.push (f env (← get))
    pure .next
  | query cost since f => do
    requireFork env since
    charge cost
    let a ← Exec.pop
    Exec.push (f env (← get) a)
    pure .next
  | balance => do
    executeAccountQuery env Gas.balance Account.balance
    pure .next
  | extCodeSize => do
    executeAccountQuery env Gas.extCode fun a => BitVec.ofNat 256 a.code.size
    pure .next
  | extCodeHash => do
    requireFork env .petersburg
    executeAccountQuery env Gas.extCodeHash codeHash
    pure .next
  | extCodeCopy => do
    executeExtCodeCopy env
    pure .next
  | copy source => do
    executeCopy source
    pure .next
  | returnDataCopy => do
    executeReturnDataCopy env
    pure .next
  | memoryCopy => do
    executeMemoryCopy env
    pure .next
  | pop => do
    charge 2
    discard Exec.pop
    pure .next
  | memoryLoad => do
    charge 3
    let offset ← asSize (← Exec.pop) .operandOutOfRange
    grow offset 32
    Exec.push (Word.ofBytes (← read offset 32).toList)
    pure .next
  | memoryStore => do
    charge 3
    let offset ← Exec.pop
    let value ← Exec.pop
    let offset ← asSize offset .operandOutOfRange
    grow offset 32
    Exec.write offset value.toBytes.toArray
    pure .next
  | memoryStoreByte => do
    charge 3
    let offset ← Exec.pop
    let value ← Exec.pop
    let offset ← asSize offset .operandOutOfRange
    grow offset 1
    Exec.write offset #[UInt8.ofNat value.toNat]
    pure .next
  | storageLoad => do
    executeStorageLoad env
    pure .next
  | storageStore => do
    executeStorageStore env
    pure .next
  | transientStore => do
    executeTransientStore env
    pure .next
  | jump => do
    executeJump
    pure .next
  | jumpIf => do
    executeJumpIf
    pure .next
  | jumpDestination => do
    charge 1
    pure .next
  | push length => do
    executePush length
    pure .next
  | dup n => do
    executeDup n
    pure .next
  | swap n => do
    executeSwap n
    pure .next
  | log topics => do
    executeLog topics
    pure .next
  | create salted => executeCreate env salted
  | call kind => executeCall env kind
  | stop => pure (.halt .stopped)
  | ret => do
    let output ← executeOutput
    pure (.halt (.returned output))
  | revert => do
    requireFork env .byzantium
    let output ← executeOutput
    pure (.halt (.reverted output))
  | selfDestruct => do
    executeSelfDestruct env
    pure (.halt .selfDestructed)
  | fail why => Exec.fault why

end Operation

end EvmScope

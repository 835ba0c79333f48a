import EvmScope.Keccak
import EvmScope.Machine.Frame

/-!
# Operations

What each opcode does, by shape: instructions that combine words of the stack, that read something
of their surroundings, that work on memory and storage, that jump, that call, and that end the
frame. `Operation.ofOpcode` sorts the opcodes into these shapes; what a shape does is defined in
`EvmScope.Machine.Execute`.
-/

namespace EvmScope

set_option autoImplicit false

/-- The four calls. -/
inductive CallKind
  | call
  | callCode
  | delegateCall
  | staticCall
  deriving DecidableEq, Repr

/-- The parts of the surroundings that are copied into memory in one way: zeros follow their end. -/
inductive CopySource
  | input
  | code
  deriving DecidableEq, Repr

/-- What an instruction does. -/
inductive Operation
  /-- Replaces words by a function of them. -/
  | unary (cost : Nat) (f : Word → Word)
  | binary (cost : Nat) (since : Hardfork) (f : Word → Word → Word)
  | ternary (cost : Nat) (f : Word → Word → Word → Word)
  | exp
  | keccak
  /-- Pushes a word that the surroundings determine. -/
  | observe (cost : Nat) (since : Hardfork) (f : Env → Running → Word)
  /-- Replaces the top word by one that the surroundings and that word determine. -/
  | query (cost : Nat) (since : Hardfork) (f : Env → Running → Word → Word)
  | balance
  | extCodeSize
  | extCodeHash
  | extCodeCopy
  | copy (source : CopySource)
  | returnDataCopy
  | memoryCopy
  | pop
  | memoryLoad
  | memoryStore
  | memoryStoreByte
  | storageLoad
  | storageStore
  | transientStore
  | jump
  | jumpIf
  | jumpDestination
  | push (length : Nat)
  | dup (n : Nat)
  | swap (n : Nat)
  | log (topics : Nat)
  | create (salted : Bool)
  | call (kind : CallKind)
  | stop
  | ret
  | revert
  | selfDestruct
  /-- Fails whatever the frame holds. -/
  | fail (fault : Fault)

namespace Operation

/-- The hash of one of the last 256 blocks is that of the decimal digits of its number; any other
block has the hash zero. -/
def blockHash (env : Env) (requested : Word) : Word :=
  let n := Exec.saturated requested
  if n < env.number ∧ env.number - n ≤ 256 then
    Word.ofBytes (Keccak.hash (toString n).toUTF8.data)
  else 0

/-- The word of input at an offset, with zeros past the end. -/
def inputWord (r : Running) (offset : Word) : Word :=
  Word.ofBytes (Bytes.window r.frame.invocation.input (Exec.saturated offset) 32).toList

/-- The word that says how much gas is left. -/
def gasLeft (r : Running) : Word :=
  BitVec.ofNat 256 r.frame.gas

/-- What the block says of chance: its difficulty, and since the merge a random word. -/
def randomness (env : Env) : Word :=
  BitVec.ofNat 256 (if .merge ≤ env.fork then env.prevrandao else env.difficulty)

/-- Arithmetic, comparison and bitwise operations. -/
def ofArithmetic (op : Opcode) : Operation :=
  match op.toNat with
  | 0x01 => binary 3 .frontier (· + ·)
  | 0x02 => binary 5 .frontier (· * ·)
  | 0x03 => binary 3 .frontier (· - ·)
  | 0x04 => binary 5 .frontier (· / ·)
  | 0x05 => binary 5 .frontier Word.signedDiv
  | 0x06 => binary 5 .frontier Word.mod
  | 0x07 => binary 5 .frontier Word.signedMod
  | 0x08 => ternary 8 Word.addMod
  | 0x09 => ternary 8 Word.mulMod
  | 0x0a => exp
  | 0x0b => binary 5 .frontier Word.signExtend
  | 0x10 => binary 3 .frontier fun a b => Word.ofBool (a.ult b)
  | 0x11 => binary 3 .frontier fun a b => Word.ofBool (b.ult a)
  | 0x12 => binary 3 .frontier fun a b => Word.ofBool (a.slt b)
  | 0x13 => binary 3 .frontier fun a b => Word.ofBool (b.slt a)
  | 0x14 => binary 3 .frontier fun a b => Word.ofBool (a == b)
  | 0x15 => unary 3 fun a => Word.ofBool (a == 0)
  | 0x16 => binary 3 .frontier (· &&& ·)
  | 0x17 => binary 3 .frontier (· ||| ·)
  | 0x18 => binary 3 .frontier (· ^^^ ·)
  | 0x19 => unary 3 (~~~ ·)
  | 0x1a => binary 3 .frontier Word.byte
  | 0x1b => binary 3 .petersburg Word.shiftLeft
  | 0x1c => binary 3 .petersburg Word.shiftRight
  | 0x1d => binary 3 .petersburg Word.signedShiftRight
  | 0x20 => keccak
  | _ => fail .undefinedOpcode

/-- What an instruction can learn of its frame, its transaction and its block. -/
def ofSurroundings (op : Opcode) : Operation :=
  match op.toNat with
  | 0x30 => observe 2 .frontier fun _ r => r.frame.invocation.self.toWord
  | 0x31 => balance
  | 0x32 => observe 2 .frontier fun env _ => env.origin.toWord
  | 0x33 => observe 2 .frontier fun _ r => r.frame.invocation.caller.toWord
  | 0x34 => observe 2 .frontier fun _ r => r.frame.invocation.value
  | 0x35 => query 3 .frontier fun _ r offset => inputWord r offset
  | 0x36 => observe 2 .frontier fun _ r => BitVec.ofNat 256 r.frame.invocation.input.size
  | 0x37 => copy .input
  | 0x38 => observe 2 .frontier fun _ r => BitVec.ofNat 256 r.frame.invocation.code.size
  | 0x39 => copy .code
  | 0x3a => observe 2 .frontier fun env _ => BitVec.ofNat 256 env.gasPrice
  | 0x3b => extCodeSize
  | 0x3c => extCodeCopy
  | 0x3d => observe 2 .byzantium fun _ r => BitVec.ofNat 256 r.frame.returnData.size
  | 0x3e => returnDataCopy
  | 0x3f => extCodeHash
  | 0x40 => query 20 .frontier fun env _ n => blockHash env n
  | 0x41 => observe 2 .frontier fun env _ => env.coinbase.toWord
  | 0x42 => observe 2 .frontier fun _ _ => 1
  | 0x43 => observe 2 .frontier fun env _ => BitVec.ofNat 256 env.number
  | 0x44 => observe 2 .frontier fun env _ => randomness env
  | 0x45 => observe 2 .frontier fun env _ => BitVec.ofNat 256 env.blockGasLimit
  | 0x46 => observe 2 .istanbul fun _ _ => 1
  | 0x47 => observe 5 .istanbul fun _ r => r.world.balance r.frame.invocation.self
  | 0x48 => observe 2 .london fun _ _ => 0
  | 0x49 => query 3 .cancun fun _ _ _ => 0
  | 0x4a => observe 2 .cancun fun _ _ => 1
  | _ => fail .undefinedOpcode

/-- Memory, storage and control flow within a frame. -/
def ofStateAccess (op : Opcode) : Operation :=
  match op.toNat with
  | 0x50 => pop
  | 0x51 => memoryLoad
  | 0x52 => memoryStore
  | 0x53 => memoryStoreByte
  | 0x54 => storageLoad
  | 0x55 => storageStore
  | 0x56 => jump
  | 0x57 => jumpIf
  | 0x58 => observe 2 .frontier fun _ r => BitVec.ofNat 256 (r.frame.pc - 1)
  | 0x59 => observe 2 .frontier fun _ r => BitVec.ofNat 256 r.frame.memory.size
  | 0x5a => observe 2 .frontier fun _ r => gasLeft r
  | 0x5b => jumpDestination
  | 0x5c => query 100 .cancun fun _ r key => r.world.transientSlot r.frame.invocation.self key
  | 0x5d => transientStore
  | 0x5e => memoryCopy
  | 0x5f => observe 2 .shanghai fun _ _ => 0
  | _ => fail .undefinedOpcode

/-- Opcodes that only code in a container may use; plain code fails at them. -/
def ofContainer (op : Opcode) : Operation :=
  if op = 0xee then fail .returnContractOutsideInit
  else if (0xd0 ≤ op ∧ op ≤ 0xd3) ∨ (0xe0 ≤ op ∧ op ≤ 0xe8) ∨
      op ∈ [0xec, 0xf7, 0xf8, 0xf9, 0xfb] then fail .containerOpcode
  else fail .undefinedOpcode

/-- What lies between frames: calls, creation, and the ends of a frame. -/
def ofFrameControl (op : Opcode) : Operation :=
  match op.toNat with
  | 0xf0 => create false
  | 0xf1 => call .call
  | 0xf2 => call .callCode
  | 0xf3 => ret
  | 0xf4 => call .delegateCall
  | 0xf5 => create true
  | 0xfa => call .staticCall
  | 0xfd => revert
  | 0xfe => fail .designatedInvalid
  | 0xff => selfDestruct
  | _ => ofContainer op

/-- What an opcode does. -/
def ofOpcode (op : Opcode) : Operation :=
  if op = 0x00 then stop
  else if op < 0x30 then ofArithmetic op
  else if op < 0x50 then ofSurroundings op
  else if op < 0x60 then ofStateAccess op
  else if op.isPush then push (Opcode.immediateSize op)
  else if op < 0x90 then dup (op.toNat - 0x7f)
  else if op < 0xa0 then swap (op.toNat - 0x8f)
  else if op < 0xa5 then log (op.toNat - 0xa0)
  else ofFrameControl op

end Operation

end EvmScope

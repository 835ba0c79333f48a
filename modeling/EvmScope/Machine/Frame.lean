import EvmScope.Code
import EvmScope.Gas
import EvmScope.Machine.Fault
import EvmScope.World

/-!
# Frames

A frame is one activation of a piece of code. Instructions are written in the monad `Exec`, whose
state is the running frame together with the world; a failure keeps the state that it arose in, so
that a trace can show the gas already charged. The primitives below are the only ones that touch the
frame: charging, the stack, and growing the memory.
-/

namespace EvmScope

set_option autoImplicit false

/-- What all frames of a transaction see of the transaction and its block. -/
structure Env where
  fork : Hardfork
  number : Nat
  coinbase : Address
  difficulty : Nat
  prevrandao : Nat
  blockGasLimit : Nat
  /-- The gas limit of the transaction. -/
  gasLimit : Nat
  gasPrice : Nat
  origin : Address

/-- What a frame is called with; it does not change while the frame runs. -/
structure Invocation where
  /-- The account whose balance and storage the frame works on. -/
  self : Address
  caller : Address
  value : Word
  input : Array UInt8
  /-- Whether the frame may not change the world. -/
  isStatic : Bool
  code : Code

/-- An activation of a piece of code. -/
structure Frame where
  invocation : Invocation
  gas : Nat
  pc : Nat := 0
  /-- The stack, its top first. -/
  stack : List Word := []
  memory : Array UInt8 := #[]
  refund : Nat := 0
  /-- The output of the last frame that this one has called. -/
  returnData : Array UInt8 := #[]

/-- The running frame and the world. -/
structure Running where
  frame : Frame
  world : World

/-- A computation of the running frame. -/
abbrev Exec := EStateM Fault Running

namespace Exec

/-- The largest number of words on a stack. -/
def stackLimit : Nat := 1024

/-- The largest number of bytes that a memory can have. -/
def memoryLimit : Nat := 9223372036854775807

/-- Fails by a fault. -/
def fault {α : Type} (why : Fault) : Exec α :=
  throw why

/-- Applies a function to the running frame. -/
def modifyFrame (f : Frame → Frame) : Exec Unit :=
  modify fun s => { s with frame := f s.frame }

/-- Applies a function to the world. -/
def modifyWorld (f : World → World) : Exec Unit :=
  modify fun s => { s with world := f s.world }

/-- Takes gas from the frame. -/
def charge (amount : Nat) : Exec Unit := do
  let s ← get
  if amount ≤ s.frame.gas then modifyFrame fun f => { f with gas := f.gas - amount }
  else fault .outOfGas

/-- Fails unless a condition holds. -/
def demand (condition : Bool) (why : Fault) : Exec Unit :=
  if condition then pure () else fault why

/-- Fails under rules older than `since`. -/
def requireFork (env : Env) (since : Hardfork) : Exec Unit :=
  demand (since ≤ env.fork) .notActivated

/-- Fails where the world may not be changed. -/
def requireMutable : Exec Unit := do
  demand (!(← get).frame.invocation.isStatic) .stateChangeInStaticCall

/-- Takes the top word from the stack. -/
def pop : Exec Word := do
  match (← get).frame.stack with
  | [] => fault .stackUnderflow
  | w :: stack =>
    modifyFrame fun f => { f with stack }
    pure w

/-- Takes the top `n` words from the stack, the top first. -/
def popMany : (n : Nat) → Exec (List Word)
  | 0 => pure []
  | n + 1 => do
    let w ← pop
    let ws ← popMany n
    pure (w :: ws)

/-- Puts a word on the stack. -/
def push (w : Word) : Exec Unit := do
  demand ((← get).frame.stack.length < stackLimit) .stackOverflow
  modifyFrame fun f => { f with stack := w :: f.stack }

/-- Replaces the top word of the stack, if there is one. -/
def replaceTop (w : Word) : Exec Unit :=
  modifyFrame fun f => { f with stack := w :: f.stack.tail }

/-- The top word of the stack, which stays there. -/
def top : Exec Word := do
  match (← get).frame.stack with
  | [] => fault .stackUnderflow
  | w :: _ => pure w

/-- A word as a size or offset. -/
def asSize (w : Word) (why : Fault) : Exec Nat :=
  if w.toNat ≤ Gas.largest then pure w.toNat else fault why

/-- A word as an offset into something that ends long before the limit of sizes. -/
def saturated (w : Word) : Nat :=
  Gas.capped w.toNat

/-- Grows the memory to whole words that cover `length` bytes from `offset` on, and pays for it. -/
def grow (offset length : Nat) : Exec Unit := do
  let s ← get
  let size := s.frame.memory.size
  if offset + length ≤ size then pure ()
  else
    let words := Gas.words (offset + length)
    let price := Gas.memory words - Gas.memory (size / 32)
    if s.frame.gas < price then fault .memoryOutOfGas
    else if memoryLimit < 32 * words then fault .memoryLimit
    else
      modifyFrame fun f =>
        { f with
          gas := f.gas - price
          memory := f.memory ++ Array.replicate (32 * words - size) 0 }

/-- Turns an offset and a length, given as a word and a number, into a range of memory that has been
paid for. An empty range costs nothing, whatever its offset. -/
def range (offset : Word) (length : Nat) : Exec Nat :=
  if length = 0 then pure 0
  else do
    let offset ← asSize offset .operandOutOfRange
    grow offset length
    pure offset

/-- Bytes of the memory; zeros past its end. -/
def read (offset length : Nat) : Exec (Array UInt8) := do
  pure (Bytes.window (← get).frame.memory offset length)

/-- The memory with some bytes replaced from `offset` on. -/
def overwrite (memory : Array UInt8) (offset : Nat) (data : Array UInt8) : Array UInt8 :=
  memory.extract 0 offset ++ data ++ memory.extract (offset + data.size) memory.size

/-- Writes to a part of the memory that has been grown already. -/
def write (offset : Nat) (data : Array UInt8) : Exec Unit :=
  modifyFrame fun f => { f with memory := overwrite f.memory offset data }

end Exec

end EvmScope

import EvmScope.Machine.Creation
import EvmScope.Machine.Execute
import EvmScope.Machine.Precompile
import EvmScope.Vm

/-!
# The machine

The machine runs one frame at a time and keeps the frames that wait for it. First one instruction of
the running frame is run, and then the machine goes on: a call or creation that the instruction asks
for is opened, and a frame that ends hands its result to the frame that waits. So before each
instruction there is a frame to run it in.
-/

namespace EvmScope

set_option autoImplicit false

/-- How a frame ends well. -/
inductive Success
  | stop
  | return
  | selfDestruct
  deriving DecidableEq, Repr

/-- How a frame ends. A frame that was refused before it began, or that reverted, keeps the gas it
has not used; a fault takes all of it. -/
inductive Ending
  | success (how : Success)
  | reverted
  | callTooDeep
  | outOfFunds
  | fault (why : Fault)
  deriving DecidableEq, Repr

namespace Ending

/-- Whether the frame did what it was called for. -/
def isSuccess : Ending → Bool
  | success _ => true
  | _ => false

/-- Whether the gas that is left goes back to the caller. -/
def returnsGas : Ending → Bool
  | fault _ => false
  | _ => true

end Ending

structure FrameResult where
  ending : Ending
  /-- The gas left. -/
  gas : Nat
  refund : Nat := 0
  output : Array UInt8 := #[]

/-- What a waiting frame waits for. -/
inductive Purpose
  /-- The output of a call, of which `outLength` bytes fit into the memory at `outOffset`. -/
  | call (outOffset outLength : Nat)
  /-- The code of a new account. -/
  | creation (address : Address)

/-- A frame that waits for another one. -/
structure Suspended where
  frame : Frame
  /-- The world that counts if the other frame fails. -/
  saved : World
  purpose : Purpose

/-- The running frame, the world, and the waiting frames, the innermost first. -/
structure Machine where
  frame : Frame
  world : World
  waiting : List Suspended := []

/-- Where the machine stands once it has gone on after an instruction. -/
inductive Next
  | running (m : Machine)
  /-- The outermost frame has ended. -/
  | finished (result : FrameResult)
  | aborted (why : Abort)

namespace Machine

def depth (m : Machine) : Nat :=
  m.waiting.length + 1

/-- The largest number of frames that may make a call. -/
def depthLimit : Nat := 1024

/-- The opcode that runs next. -/
def opcode (m : Machine) : Opcode :=
  m.frame.invocation.code.opcodeAt m.frame.pc

/-- What a trace sees before the next instruction. -/
def observe (m : Machine) : Observation where
  address := m.frame.invocation.self
  pc := m.frame.pc
  op := m.opcode
  gas := m.frame.gas
  depth := m.depth
  stack := m.frame.stack
  memory := m.frame.memory

/-- The caller after a call with the given result: the output is what RETURNDATACOPY reads and
fills the range that the call named, the unused gas comes back, and the top of the stack says
whether the call went well. -/
def resumeCall (f : Frame) (outOffset outLength : Nat) (r : FrameResult) : Frame :=
  let f := { f with returnData := r.output }
  let shown := r.output.extract 0 (min outLength r.output.size)
  if r.ending.returnsGas then
    { f with
      gas := f.gas + r.gas
      refund := if r.ending.isSuccess then f.refund + r.refund else f.refund
      memory := if shown.isEmpty then f.memory else Exec.overwrite f.memory outOffset shown
      stack := Word.ofBool r.ending.isSuccess :: f.stack }
  else { f with stack := 0 :: f.stack }

/-- The creator after a creation with the given result: the top of the stack is the new address, or
zero. RETURNDATACOPY reads only the output of a creation that did not go well. -/
def resumeCreation (f : Frame) (address : Address) (r : FrameResult) : Frame :=
  if r.ending.isSuccess then
    { f with
      gas := f.gas + r.gas
      refund := f.refund + r.refund
      returnData := #[]
      stack := address.toWord :: f.stack }
  else if r.ending.returnsGas then
    { f with gas := f.gas + r.gas, returnData := r.output, stack := 0 :: f.stack }
  else { f with returnData := #[], stack := 0 :: f.stack }

/-- A waiting frame that goes on with a result. -/
def resume (f : Frame) (purpose : Purpose) (r : FrameResult) : Frame :=
  match purpose with
  | .call outOffset outLength => resumeCall f outOffset outLength r
  | .creation address => resumeCreation f address r

/-- The largest code of an account since Spurious Dragon. -/
def codeLimit : Nat := 0x6000

/-- What becomes of the output of an init code: the code of the new account, which has to be paid
for, or a fault. Before Homestead an account that cannot pay stays without code. -/
def deposit (env : Env) (address : Address) (w : World) (r : FrameResult) : FrameResult × World :=
  let setCode (r : FrameResult) :=
    (r, w.modify address fun acc => { acc with code := Code.ofBytes r.output })
  let price := Gas.codeDeposit r.output.size
  if .london ≤ env.fork ∧ r.output[0]? = some 0xef then
    ({ r with ending := .fault .createdCodeReserved }, w)
  else if .spuriousDragon ≤ env.fork ∧ r.output.size > codeLimit then
    ({ r with ending := .fault .createdCodeTooLarge }, w)
  else if price ≤ r.gas then setCode { r with gas := r.gas - price }
  else if .homestead ≤ env.fork then ({ r with ending := .fault .outOfGas }, w)
  else setCode { r with output := #[] }

/-- The result of a frame as the frame that waits for it sees it. -/
def settle (env : Env) (purpose : Purpose) (w : World) (r : FrameResult) : FrameResult × World :=
  match purpose with
  | .creation address => if r.ending.isSuccess then deposit env address w r else (r, w)
  | .call _ _ => (r, w)

/-- Ends the running frame. -/
def finish (env : Env) (m : Machine) (r : FrameResult) : Next :=
  match m.waiting with
  | [] => .finished r
  | s :: waiting =>
    let (r, w) := settle env s.purpose m.world r
    .running
      { frame := resume s.frame s.purpose r
        world := if r.ending.isSuccess then w else s.saved
        waiting }

/-- The machine after the running frame has been refused what it asked for. -/
def refuse (m : Machine) (purpose : Purpose) (gas : Nat) (ending : Ending) : Next :=
  .running { m with frame := resume m.frame purpose { ending, gas } }

def openCall (env : Env) (m : Machine) (q : CallRequest) : Next :=
  let purpose := Purpose.call q.outOffset q.outLength
  let moved := if q.movesValue then m.world.transfer? q.caller q.target q.value else some m.world
  if m.depth > depthLimit then m.refuse purpose q.gas .callTooDeep
  else match moved with
  | none => m.refuse purpose q.gas .outOfFunds
  | some world =>
    match Precompile.builtin? env.fork q.codeAddress with
    | some builtin =>
      match builtin.call env.fork q.gas q.input with
      | .output gas output =>
        .running
          { m with
            frame := resume m.frame purpose { ending := .success .return, gas, output }
            world }
      | .failed fault => m.refuse purpose 0 (.fault fault)
      | .aborted why => .aborted why
    | none =>
      let code := (m.world.account q.codeAddress).code
      if code.isEmpty then
        .running
          { m with
            frame := resume m.frame purpose { ending := .success .stop, gas := q.gas }
            world }
      else
        let invocation : Invocation :=
          { self := q.target
            caller := q.caller
            value := q.value
            input := q.input
            isStatic := q.isStatic
            code }
        .running
          { frame := { invocation, gas := q.gas }
            world
            waiting := ⟨m.frame, m.world, purpose⟩ :: m.waiting }

/-- The address that a creation makes an account at. -/
def creationAddress (w : World) (q : CreateRequest) : Address :=
  match q.salt with
  | none => Creation.address q.creator (w.account q.creator).nonce
  | some salt => Creation.saltedAddress q.creator salt q.initCode

/-- Opens the frame of a creation. The nonce of the creator counts the attempt even if it fails. -/
def openCreation (env : Env) (m : Machine) (q : CreateRequest) : Next :=
  let address := creationAddress m.world q
  let purpose := Purpose.creation address
  if m.depth > depthLimit then m.refuse purpose q.gas .callTooDeep
  else if m.world.balance q.creator < q.value then m.refuse purpose q.gas .outOfFunds
  else
    let counted := m.world.modify q.creator fun acc => { acc with nonce := acc.nonce + 1 }
    if Precompile.isPrecompile env.fork address then
      { m with world := counted }.refuse purpose q.gas (.fault .createCollision)
    else
      let world := counted.warmUp address
      let found := world.account address
      if ¬found.code.isEmpty ∨ found.nonce ≠ 0 then
        { m with world }.refuse purpose q.gas (.fault .createCollision)
      else
        let invocation : Invocation :=
          { self := address
            caller := q.creator
            value := q.value
            input := #[]
            isStatic := false
            code := Code.ofBytes q.initCode }
        .running
          { frame := { invocation, gas := q.gas }
            world := world.create env.fork q.creator address q.value
            waiting := ⟨m.frame, world, purpose⟩ :: m.waiting }

/-- The result of a frame that has ended of its own accord. -/
def haltResult (f : Frame) : Halt → FrameResult
  | .stopped => { ending := .success .stop, gas := f.gas, refund := f.refund }
  | .returned output => { ending := .success .return, gas := f.gas, refund := f.refund, output }
  | .selfDestructed => { ending := .success .selfDestruct, gas := f.gas, refund := f.refund }
  | .reverted output => { ending := .reverted, gas := f.gas, output }

/-- Goes on after an instruction. -/
def follow (env : Env) (m : Machine) : Signal → Next
  | .next => .running m
  | .call request => m.openCall env request
  | .create request => m.openCreation env request
  | .halt how => m.finish env (haltResult m.frame how)

/-- The instruction of the running frame, which is past its opcode by then. -/
def executed (env : Env) (m : Machine) : EStateM.Result Fault Running Signal :=
  (Operation.ofOpcode m.opcode).execute env
    ⟨{ m.frame with pc := m.frame.pc + 1 }, m.world⟩

/-- A machine whose running frame and world are replaced by those that an instruction has left. -/
def after (m : Machine) (t : Running) : Machine :=
  { m with frame := t.frame, world := t.world }

/-- Goes on after an instruction, which may have failed. -/
def proceed (env : Env) (m : Machine) : Except Fault Signal → Next
  | .ok signal => m.follow env signal
  | .error why => m.finish env { ending := .fault why, gas := 0 }

end Machine

end EvmScope

import EvmScope.Vm.Workings

/-!
# Laws of a virtual machine

What is taken for granted of the virtual machine behind the engine, law by law. Each theorem about the
engine names the laws that it needs. `EvmScope.Interpreter` keeps all of them.

Most of them speak only of the runs in which the engine calls plain code, and of the states that come
up there.
-/

namespace EvmScope

set_option autoImplicit false

namespace Opcode

/-- CREATE, CALL, CALLCODE, DELEGATECALL, CREATE2 and STATICCALL, which ask for another frame. -/
def openers : List Opcode := [0xf0, 0xf1, 0xf2, 0xf4, 0xf5, 0xfa]

/-- STOP, RETURN and SELFDESTRUCT, which end a frame well. -/
def enders : List Opcode := [0x00, 0xf3, 0xff]

def jumps : List Opcode := [0x56, 0x57]

end Opcode

/-- The range of a memory that an offset and a size name, the memory being extended with as many zeros as
that takes. An empty range takes none, wherever it begins. -/
def HandedBack (memory : Array UInt8) (offset size : Word) (output : Bytes) : Prop :=
  ∃ zeros : Nat,
    let extended := memory ++ Array.replicate zeros 0
    (size ≠ 0 → offset.toNat + size.toNat ≤ extended.size) ∧
      output = (extended.extract offset.toNat (offset.toNat + size.toNat)).toList

/-- The state behind a transaction is kept in memory, so that it never fails. -/
structure Vm.Infallible (vm : Vm) : Prop where
  outcome : ∀ {σ : Type} (insp : Inspector vm.Interp σ) (tx : TransactionEnv vm.Spec vm.Bytecode)
    (s : σ) (text : String), (vm.transact insp tx s).1 ≠ .error (.database text)

/-- The hooks of an inspector surround every instruction. -/
structure Vm.Workings.Surrounds {vm : Vm} (w : vm.Workings) : Prop where
  drives : ∀ {σ : Type} (insp : Inspector vm.Interp σ), insp.Quiet →
    ∀ (tx : TransactionEnv vm.Spec vm.Bytecode) (s : σ),
    w.Drives insp (w.first tx) s (vm.transact insp tx s)

namespace Vm.Workings

variable {vm : Vm} (w : vm.Workings)

/-- An inspector is shown the running frame. Past the end of its code there are zeros. -/
structure Displays : Prop where
  pc : ∀ {tx code i₀ i}, w.Visits tx code i₀ i → (w.before i).pc = (w.frame i).pc
  op : ∀ {tx code i₀ i}, w.Visits tx code i₀ i →
    (w.before i).op = (w.frame i).code.opcodeAt (w.frame i).pc
  gas : ∀ {tx code i₀ i}, w.Visits tx code i₀ i → (w.before i).gas = (w.frame i).gas
  gasLeft : ∀ {tx code i₀ i}, w.Visits tx code i₀ i →
    (w.behind i).gas = (w.frame (w.instruction i)).gas
  depth : ∀ {tx code i₀ i}, w.Visits tx code i₀ i → (w.before i).depth = (w.waiting i).length + 1

/-- How a run goes on behind an instruction that has left the state `a`. -/
inductive Turns (a : w.State) : Sequel w.State → Prop
  /-- The frame runs its next instruction. -/
  | continues (hflow : w.flow a = .continues) : Turns a (.running a)
  /-- Another frame begins, and this one waits. -/
  | opened {j : w.State} (hflow : w.flow a = .calls) (hwaiting : w.waiting j = w.frame a :: w.waiting a)
      (hpc : (w.frame j).pc = 0) : Turns a (.running j)
  /-- What was asked for is refused, or done without a frame of its own. -/
  | answered {j : w.State} (hflow : w.flow a = .calls) (hwaiting : w.waiting j = w.waiting a)
      (hplace : (w.frame a).SamePlace (w.frame j)) : Turns a (.running j)
  /-- The frame is over, and the one that waits for it goes on where it is. -/
  | returned {j : w.State} {f : FrameView} (hflow : w.flow a = .halts)
      (hwaiting : w.waiting a = f :: w.waiting j) (hplace : f.SamePlace (w.frame j)) :
      Turns a (.running j)
  /-- The outermost frame is over. The transaction succeeds only if the frame has ended well. -/
  | finished {result : ExecutionResult} (hflow : w.flow a = .halts) (hwaiting : w.waiting a = [])
      (hsound : ∀ output gasUsed, result = .success output gasUsed → (vm.result (w.view a)).Sound) :
      Turns a (.ended (.ok result))
  /-- The virtual machine gives the transaction up. -/
  | aborted (why : TransactionError) : Turns a (.ended (.error why))

/-- Frames are entered and left one inside the other. A call of no code runs no instruction, and a call
of some code that succeeds runs some. -/
structure Nests : Prop where
  first : ∀ {tx code i₀}, w.Visits tx code i₀ i₀ → w.waiting i₀ = [] ∧ (w.frame i₀).pc = 0
  waiting : ∀ {tx code i₀ i}, w.Visits tx code i₀ i → w.waiting (w.instruction i) = w.waiting i
  turns : ∀ {tx code i₀ i}, w.Visits tx code i₀ i →
    w.Turns (w.instruction i) (w.onward (w.instruction i))
  codeless : ∀ {tx i₀}, vm.Calls tx [] → w.first tx ≠ .running i₀
  coded : ∀ {tx code output gasUsed}, vm.Calls tx code → code ≠ [] →
    w.first tx ≠ .ended (.ok (.success output gasUsed))

/-- What an instruction wants to become of its frame is settled by its opcode, unless it fails. -/
structure Signals : Prop where
  calls : ∀ {tx code i₀ i}, w.Visits tx code i₀ i → w.flow (w.instruction i) = .calls →
    (w.behind i).result.Sound ∧ (w.before i).op ∈ Opcode.openers
  halts : ∀ {tx code i₀ i}, w.Visits tx code i₀ i → w.flow (w.instruction i) = .halts →
    (w.behind i).result.Sound → (w.before i).op ∈ Opcode.enders
  ends : ∀ {tx code i₀ i}, w.Visits tx code i₀ i → (w.before i).op ∈ Opcode.enders →
    w.flow (w.instruction i) = .halts
  fails : ∀ {tx code i₀ i}, w.Visits tx code i₀ i → ¬(w.behind i).result.Sound →
    w.flow (w.instruction i) = .halts

/-- A frame runs its code from one instruction to the next. An instruction that does not jump goes past
itself and the operand that it declares, a jump ends at a JUMPDEST that is not part of an operand, and
PUSH1 to PUSH32 push their operand. -/
structure Fetches : Prop where
  first : ∀ {tx code i₀}, w.Visits tx code i₀ i₀ → (w.frame i₀).code = .ofBytes code.toArray
  code : ∀ {tx code i₀ i}, w.Visits tx code i₀ i →
    (w.frame (w.instruction i)).code = (w.frame i).code
  pc : ∀ {tx code i₀ i}, w.Visits tx code i₀ i → w.flow (w.instruction i) ≠ .halts →
    (w.frame (w.instruction i)).pc = (w.frame i).pc + 1 + (w.before i).op.immediateSize ∨
      (w.before i).op ∈ Opcode.jumps ∧
        (w.frame i).code.isJumpdest (w.frame (w.instruction i)).pc = true
  push : ∀ {tx code i₀ i}, w.Visits tx code i₀ i → (w.before i).op.isPush = true →
    (w.behind i).result.Sound →
    (w.behind i).stack =
      Word.ofBytes ((w.frame i).code.operandAt ((w.frame i).pc + 1) (w.before i).op.immediateSize) ::
        (w.before i).stack

/-- Gas is spent, handed to frames that are asked for, and handed back, and never made. A transaction
uses its intrinsic gas and what its outermost frame has consumed, less a refund; only SSTORE and
SELFDESTRUCT make refunds, which frames hand to those that wait for them. -/
structure Meters : Prop where
  first : ∀ {tx code i₀}, w.Visits tx code i₀ i₀ → (w.frame i₀).refund = 0
  spends : ∀ {tx code i₀ i}, w.Visits tx code i₀ i →
    (w.frame (w.instruction i)).gas ≤ (w.frame i).gas
  refund : ∀ {tx code i₀ i}, w.Visits tx code i₀ i → (w.before i).op ≠ 0x55 → (w.before i).op ≠ 0xff →
    (w.frame (w.instruction i)).refund = (w.frame i).refund
  /-- The gas of a frame that begins comes out of the one that asks for it. -/
  opened : ∀ {tx code i₀ i j}, w.Visits tx code i₀ i → w.flow (w.instruction i) = .calls →
    w.onward (w.instruction i) = .running j →
    w.waiting j = w.frame (w.instruction i) :: w.waiting i →
    (w.frame j).gas + (w.frame (w.instruction i)).gas ≤ (w.frame i).gas ∧ (w.frame j).refund = 0
  answered : ∀ {tx code i₀ i j}, w.Visits tx code i₀ i → w.flow (w.instruction i) = .calls →
    w.onward (w.instruction i) = .running j → w.waiting j = w.waiting i →
    (w.frame j).gas ≤ (w.frame i).gas ∧
      (w.frame j).refund = (w.frame (w.instruction i)).refund
  /-- What a frame leaves goes to the one that waits for it, unless it is lost. -/
  returned : ∀ {tx code i₀ i j f rest}, w.Visits tx code i₀ i →
    w.flow (w.instruction i) = .halts → w.waiting i = f :: rest →
    w.onward (w.instruction i) = .running j →
    (w.frame j).gas ≤ f.gas + (w.frame (w.instruction i)).gas ∧
      ((w.frame (w.instruction i)).refund = 0 → (w.frame j).refund = f.refund)
  finished : ∀ {tx code i₀ i output gasUsed}, w.Visits tx code i₀ i →
    w.onward (w.instruction i) = .ended (.ok (.success output gasUsed)) →
    ∃ refund : Nat, gasUsed + refund = (vm.intrinsicGas tx.spec tx.input).toNat +
        ((w.frame i₀).gas - (w.frame (w.instruction i)).gas) ∧
      ((w.frame (w.instruction i)).refund = 0 → refund = 0)
  codeless : ∀ {tx code output gasUsed}, vm.Calls tx code →
    w.first tx = .ended (.ok (.success output gasUsed)) →
    gasUsed = (vm.intrinsicGas tx.spec tx.input).toNat

/-- RETURN hands back the range of the memory that the top of the stack names; STOP and SELFDESTRUCT hand
back nothing. What the outermost frame hands back is the output of the transaction. -/
structure HandsBack : Prop where
  returned : ∀ {tx code i₀ i}, w.Visits tx code i₀ i → (w.before i).op = 0xf3 →
    (w.behind i).result.Sound →
    ∃ offset size rest, (w.before i).stack = offset :: size :: rest ∧
      HandedBack (w.before i).memory offset size (w.output (w.instruction i))
  silent : ∀ {tx code i₀ i}, w.Visits tx code i₀ i → (w.before i).op = 0x00 ∨ (w.before i).op = 0xff →
    (w.behind i).result.Sound → w.output (w.instruction i) = []
  finished : ∀ {tx code i₀ i output gasUsed}, w.Visits tx code i₀ i →
    w.onward (w.instruction i) = .ended (.ok (.success output gasUsed)) →
    output = w.output (w.instruction i)
  codeless : ∀ {tx code output gasUsed}, vm.Calls tx code →
    w.first tx = .ended (.ok (.success output gasUsed)) → output = []

/-- A transaction is turned down only for its gas limit, for its fee, or because code is deployed at
its caller. Its first frame has the gas limit, less what the transaction costs before. -/
structure Admits : Prop where
  rejected : ∀ {σ : Type} (insp : Inspector vm.Interp σ) (tx : TransactionEnv vm.Spec vm.Bytecode)
    (s : σ) (text : String), (vm.transact insp tx s).1 = .error (.rejected text) →
    tx.gasLimit > tx.blockGasLimit ∨
      tx.gasLimit < (vm.intrinsicGas tx.spec tx.input).toNat ∨
      ∀ info, tx.account? tx.caller = some info →
        tx.gasLimit * tx.gasPrice + tx.value > info.balance.toNat ∨ info.code ≠ vm.blank.code
  first : ∀ {tx code i₀}, w.Visits tx code i₀ i₀ →
    (w.frame i₀).gas = tx.gasLimit - (vm.intrinsicGas tx.spec tx.input).toNat

end Vm.Workings

end EvmScope

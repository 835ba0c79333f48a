import EvmScope.KeyMap
import EvmScope.Vm

/-!
# Logs of steps

A step of a frame as a trace keeps it, and the logger that makes such records. A logger is an
inspector: it is told of a step twice, before the instruction runs and after it. What it shows of the
storage is what it has itself seen read and written at an account, and failed frames do not make it
forget.
-/

namespace EvmScope

set_option autoImplicit false

/-- The slots of one account, in the order of their keys. -/
abbrev Slots := KeyMap 256 Word

/-- A step of a trace. -/
structure StepLog where
  pc : Nat := 0
  op : Opcode := 0
  /-- The gas before the step. -/
  gas : Nat := 0
  /-- The gas that the step has taken. -/
  gasCost : Nat := 0
  /-- The number of frames; the outermost one has depth one. -/
  depth : Nat := 0
  /-- Why the step ended its frame, unless it ended well. -/
  error : Option String := none
  /-- The stack before the step, its top first. -/
  stack : List Word := []
  /-- The memory of the frame before the step. -/
  memory : Array UInt8 := #[]
  /-- The slots of the account that have been seen so far; empty for most steps. -/
  storage : Slots := ∅

namespace StepLog

def opName (log : StepLog) : String :=
  log.op.name

end StepLog

/-- The text by which a trace shows that an instruction has not gone well. -/
def InstructionResult.error? (r : InstructionResult) : Option String :=
  if r.isRevert then some "execution reverted"
  else if r.isError then some r.name
  else none

/-- Records the steps of a machine. -/
structure Logger where
  /-- Whether anything is recorded. -/
  enabled : Bool
  /-- The steps so far, the last one first. -/
  newestFirst : List StepLog := []
  /-- The slots seen so far at each account. -/
  slots : KeyMap 160 Slots := ∅
  /-- The slot that the running SLOAD reads. -/
  pending : Option (Address × Word) := none

namespace Logger

/-- The steps so far, in order. -/
def logs (l : Logger) : List StepLog :=
  l.newestFirst.reverse

/-- The slots seen so far at an account. -/
def slotsOf (l : Logger) (a : Address) : Slots :=
  (l.slots.get? a).getD ∅

/-- Notes the value of a slot. -/
def note (l : Logger) (a : Address) (key value : Word) : Logger :=
  { l with slots := l.slots.insert a ((l.slotsOf a).insert key value) }

/-- The record of a step that has not run yet. -/
def record (o : Observation) (storage : Slots) : StepLog where
  pc := o.pc
  op := o.op
  gas := o.gas
  depth := o.depth
  stack := o.stack
  memory := o.memory
  storage := storage

def append (l : Logger) (log : StepLog) : Logger :=
  { l with newestFirst := log :: l.newestFirst }

/-- Takes note of a step before it runs: SSTORE shows its key and value on the stack, SLOAD only its
key. -/
def enter (l : Logger) (o : Observation) : Logger :=
  if !l.enabled then l
  else if o.op = Opcode.sstore then
    match o.stack with
    | key :: value :: _ =>
      let l := l.note o.address key value
      l.append (record o (l.slotsOf o.address))
    | _ => l.append (record o ∅)
  else if o.op = Opcode.sload then
    match o.stack with
    | key :: _ => { l with pending := some (o.address, key) }.append (record o ∅)
    | [] => l.append (record o ∅)
  else l.append (record o ∅)

/-- Completes the last record once its step has run. The value of an SLOAD is taken from the top of
the stack. -/
def leave (l : Logger) (a : Aftermath) : Logger :=
  if !l.enabled then l
  else match l.newestFirst with
    | [] => l
    | log :: earlier =>
      let log := { log with gasCost := log.gas - a.gas, error := a.result.error? }
      match l.pending, a.stack with
      | some (address, key), value :: _ =>
        let l := { l with pending := none }.note address key value
        { l with newestFirst := { log with storage := l.slotsOf address } :: earlier }
      | _, _ => { l with pending := none, newestFirst := log :: earlier }

/-- Takes note of a whole step. -/
def witness (l : Logger) (o : Observation) (a : Aftermath) : Logger :=
  (l.enter o).leave a

/-- A logger as an inspector of a virtual machine. It reads the interpreter that it is handed. -/
def inspector (vm : Vm) : Inspector vm.Interp Logger where
  step i l := (i, l.enter (vm.observe i))
  stepEnd i l := (i, l.leave (vm.aftermath i))

end Logger

end EvmScope

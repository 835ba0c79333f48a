import EvmScope.Bytes
import EvmScope.Opcode

/-!
# Code of an account

Code as the machine runs it: past its end it reads as zeros, and a jump may end only at a JUMPDEST
that is not part of an operand.
-/

namespace EvmScope

set_option autoImplicit false

/-- For each byte, whether a jump may end there, when the first `skip` bytes belong to an operand. -/
def jumpMarks : (skip : Nat) → Bytes → List Bool
  | _, [] => []
  | skip + 1, _ :: code => false :: jumpMarks skip code
  | 0, op :: code => (op == Opcode.jumpdest) :: jumpMarks (Opcode.immediateSize op) code

structure Code where
  bytes : Array UInt8
  marks : Array Bool
  marks_eq : marks = (jumpMarks 0 bytes.toList).toArray

namespace Code

def ofBytes (bytes : Array UInt8) : Code :=
  ⟨bytes, (jumpMarks 0 bytes.toList).toArray, rfl⟩

def empty : Code :=
  ofBytes #[]

instance : Inhabited Code := ⟨empty⟩

def size (c : Code) : Nat :=
  c.bytes.size

def isEmpty (c : Code) : Bool :=
  c.bytes.isEmpty

/-- The opcode at an offset; STOP past the end. -/
def opcodeAt (c : Code) (pc : Nat) : Opcode :=
  c.bytes.getD pc Opcode.stop

/-- The operand of `length` bytes at an offset, with zeros past the end. -/
def operandAt (c : Code) (pc length : Nat) : Bytes :=
  (Bytes.window c.bytes pc length).toList

/-- Whether a jump may end at an offset. -/
def isJumpdest (c : Code) (pc : Nat) : Bool :=
  c.marks.getD pc false

@[simp] theorem bytes_ofBytes (bytes : Array UInt8) : (ofBytes bytes).bytes = bytes := rfl

end Code

end EvmScope

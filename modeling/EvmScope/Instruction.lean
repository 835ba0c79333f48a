import EvmScope.Hex
import EvmScope.Opcode

/-!
# Instructions

Bytecode as a sequence of instructions. A cursor walks over the code; each step takes an opcode and
the operand that it declares. An operand that the code ends in the middle of is clipped, and the
program counter moves on as if it were whole.
-/

namespace EvmScope

set_option autoImplicit false

/-- An instruction at its place in the code. -/
structure Instruction where
  /-- The offset of the opcode. -/
  pc : Nat
  opcode : Opcode
  /-- The operand of PUSH1 to PUSH32, as far as the code holds it; no other opcode has one. -/
  immediate : Option Bytes
  deriving DecidableEq, Repr

namespace Instruction

def name (i : Instruction) : String :=
  i.opcode.name

/-- The number of bytes that an instruction declares: its opcode and its whole operand. -/
def declaredSize (i : Instruction) : Nat :=
  1 + i.opcode.immediateSize

/-- Whether the operand is shorter than the opcode declares. -/
def isTruncated (i : Instruction) : Bool :=
  match i.immediate with
  | some data => data.length < i.opcode.immediateSize
  | none => false

/-- The bytes of the code that an instruction covers. -/
def bytes (i : Instruction) : Bytes :=
  i.opcode :: i.immediate.getD []

/-- The line of a listing for an instruction: the offset in at least four digits, the mnemonic, and
the operand if there is one. -/
def text (i : Instruction) : List Char :=
  ('[' :: Text.decimalPadded 4 i.pc) ++ "] ".toList ++ i.name.toList ++
    match i.immediate with
    | some data => " 0x".toList ++ Hex.encode data
    | none => []

end Instruction

/-- A place in bytecode: the offset and the bytes from there on. -/
structure Cursor where
  pc : Nat
  rest : Bytes
  deriving DecidableEq, Repr

namespace Cursor

/-- The start of a piece of bytecode. -/
def start (code : Bytes) : Cursor :=
  ⟨0, code⟩

/-- The instruction at a cursor, if the code has not ended there. -/
def instruction? (c : Cursor) : Option Instruction :=
  match c.rest with
  | [] => none
  | op :: tail =>
    some ⟨c.pc, op, if Opcode.isPush op then some (tail.take (Opcode.immediateSize op)) else none⟩

/-- The cursor behind the instruction at a cursor; at the end it stays where it is. -/
def advance (c : Cursor) : Cursor :=
  match c.rest with
  | [] => c
  | op :: tail =>
    ⟨c.pc + (1 + Opcode.immediateSize op), tail.drop (Opcode.immediateSize op)⟩

/-- Bounds on the number of instructions still to come: none is longer than 33 bytes, none shorter
than one. -/
def sizeHint (c : Cursor) : Nat × Nat :=
  ((c.rest.length + 32) / 33, c.rest.length)

theorem length_advance_lt {c : Cursor} (h : c.rest ≠ []) :
    c.advance.rest.length < c.rest.length := by
  unfold advance
  split
  · contradiction
  · next op tail heq =>
    rw [heq, List.length_cons, List.length_drop]
    omega

/-- The instructions from a cursor on. -/
def instructions (c : Cursor) : List Instruction :=
  match _h : c.instruction? with
  | none => []
  | some i => i :: instructions c.advance
termination_by c.rest.length
decreasing_by
  exact length_advance_lt fun hrest => by simp_all [instruction?]

end Cursor

/-- The instructions of a piece of bytecode, in order. -/
def instructions (code : Bytes) : List Instruction :=
  (Cursor.start code).instructions

/-- The listing of a piece of bytecode: one line for each instruction. -/
def listing (code : Bytes) : List Char :=
  (instructions code).flatMap fun i => i.text ++ ['\n']

end EvmScope

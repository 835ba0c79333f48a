import EvmScope.Hex

/-!
# Hex dumps

Sixteen bytes a line: the offset in eight digits, the bytes in two groups of eight, and the bytes as
printable ASCII between bars. A line that is not full keeps the bars in their columns.
-/

namespace EvmScope.Hex

set_option autoImplicit false

open Text

/-- A byte as one printable ASCII character, a dot if it is none. -/
def printable (b : UInt8) : Char :=
  if 0x20 ≤ b ∧ b ≤ 0x7e then Char.ofNat b.toNat else '.'

/-- The three characters for a byte, or for the place of a missing one. -/
def cell : Option UInt8 → List Char
  | some b => digits b ++ [' ']
  | none => [' ', ' ', ' ']

/-- Eight cells from a place on, and a gap behind them. -/
def group (row : Bytes) (first : Nat) : List Char :=
  (List.range' first 8).flatMap (fun i => cell row[i]?) ++ [' ']

/-- The line for at most sixteen bytes at an offset. -/
def dumpLine (offset : Nat) (row : Bytes) : List Char :=
  hexPadded 8 offset ++ [' ', ' '] ++ group row 0 ++ group row 8 ++
    '|' :: row.map printable ++ ['|', '\n']

/-- The number of bytes of a full line. -/
def lineLength : Nat := 16

/-- The lines for bytes that begin at an offset. -/
def dumpFrom (offset : Nat) (bs : Bytes) : List Char :=
  if bs = [] then []
  else dumpLine offset (bs.take lineLength) ++ dumpFrom (offset + lineLength) (bs.drop lineLength)
termination_by bs.length
decreasing_by
  have : 0 < bs.length := List.length_pos_iff.2 (by assumption)
  simp [lineLength]
  omega

def dump (bs : Bytes) : List Char :=
  dumpFrom 0 bs

end EvmScope.Hex

/-!
# Opcodes

The mnemonics of the instruction set, and how many bytes of operand follow an opcode. A byte
without an entry in the table still counts as an instruction, under the name `unknown`.
-/

namespace EvmScope

set_option autoImplicit false

/-- The byte that says what an instruction does. -/
abbrev Opcode := UInt8

namespace Opcode

/-- The mnemonics in runs of consecutive opcodes, each with its first opcode. -/
def runs : List (Nat × List String) :=
  [(0x00, ["STOP", "ADD", "MUL", "SUB", "DIV", "SDIV", "MOD", "SMOD", "ADDMOD", "MULMOD", "EXP",
      "SIGNEXTEND"]),
   (0x10, ["LT", "GT", "SLT", "SGT", "EQ", "ISZERO", "AND", "OR", "XOR", "NOT", "BYTE", "SHL",
      "SHR", "SAR"]),
   (0x20, ["SHA3"]),
   (0x30, ["ADDRESS", "BALANCE", "ORIGIN", "CALLER", "CALLVALUE", "CALLDATALOAD", "CALLDATASIZE",
      "CALLDATACOPY", "CODESIZE", "CODECOPY", "GASPRICE", "EXTCODESIZE", "EXTCODECOPY",
      "RETURNDATASIZE", "RETURNDATACOPY", "EXTCODEHASH", "BLOCKHASH", "COINBASE", "TIMESTAMP",
      "NUMBER", "PREVRANDAO", "GASLIMIT", "CHAINID", "SELFBALANCE", "BASEFEE", "BLOBHASH",
      "BLOBBASEFEE"]),
   (0x50, ["POP", "MLOAD", "MSTORE", "MSTORE8", "SLOAD", "SSTORE", "JUMP", "JUMPI", "PC", "MSIZE",
      "GAS", "JUMPDEST", "TLOAD", "TSTORE", "MCOPY", "PUSH0"]),
   (0x60, (List.range' 1 32).map fun n => s!"PUSH{n}"),
   (0x80, (List.range' 1 16).map fun n => s!"DUP{n}"),
   (0x90, (List.range' 1 16).map fun n => s!"SWAP{n}"),
   (0xa0, (List.range' 0 5).map fun n => s!"LOG{n}"),
   (0xf0, ["CREATE", "CALL", "CALLCODE", "RETURN", "DELEGATECALL", "CREATE2"]),
   (0xfa, ["STATICCALL"]),
   (0xfd, ["REVERT", "INVALID", "SELFDESTRUCT"])]

/-- The mnemonic of a defined opcode. -/
def mnemonic? (op : Opcode) : Option String :=
  runs.findSome? fun run => if run.1 ≤ op.toNat then run.2[op.toNat - run.1]? else none

/-- The mnemonic of an opcode, `unknown` if it has none. -/
def name (op : Opcode) : String :=
  (mnemonic? op).getD "unknown"

/-- Whether an opcode is one of PUSH1 to PUSH32, the only ones with an operand in the code. PUSH0
has none. -/
def isPush (op : Opcode) : Bool :=
  0x60 ≤ op && op ≤ 0x7f

/-- The number of bytes of operand that an opcode declares. -/
def immediateSize (op : Opcode) : Nat :=
  if op.isPush then op.toNat - 0x5f else 0

/-- No opcode declares an operand longer than a word. -/
theorem immediateSize_le (op : Opcode) : op.immediateSize ≤ 32 := by
  unfold immediateSize isPush
  split
  · next h =>
    simp only [Bool.and_eq_true, decide_eq_true_eq, UInt8.le_iff_toNat_le] at h
    have : op.toNat ≤ 0x7f := h.2
    omega
  · omega

/-- STOP, which is also what runs past the end of the code. -/
def stop : Opcode := 0x00

/-- SLOAD, which reads a storage slot. -/
def sload : Opcode := 0x54

/-- SSTORE, which writes a storage slot. -/
def sstore : Opcode := 0x55

/-- JUMPDEST, the only place where a jump may end. -/
def jumpdest : Opcode := 0x5b

end Opcode

end EvmScope

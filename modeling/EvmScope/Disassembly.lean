import EvmScope.Instruction
import EvmScope.Target

/-!
# Disassembly

The listing of the bytecode that a target names.
-/

namespace EvmScope.Disassembly

set_option autoImplicit false

/-- A target has no listing because it has no bytecode. -/
structure Error where
  cause : Target.Error
  deriving DecidableEq, Repr

def Error.message (e : Error) : String :=
  s!"Decode error: {e.cause.message}"

/-- The listing of the bytecode that a target names. -/
def run (fs : FileSystem) (target : List Char) : Except Error (List Char) :=
  match Target.resolve fs target with
  | .ok code => .ok (listing code)
  | .error cause => .error ⟨cause⟩

open Log in
/-- What is logged of a clipped operand. -/
def truncation? (i : Instruction) : Option Message :=
  if i.isTruncated then
    some (say .debug .disassembler s!"truncated operand for {i.name} at pc {i.pc}")
  else none

open Log in
/-- What is logged during a disassembly. -/
def messages (fs : FileSystem) (target : List Char) : List Message :=
  Target.messages fs target ++
    match Target.resolve fs target with
    | .error _ => []
    | .ok code =>
      let found := instructions code
      timed .disassembler "fetching target bytecode" ::
        found.filterMap truncation? ++
        [timed .disassembler "disassembly",
          say .info .disassembler
            s!"disassembled {code.length} bytes into {found.length} instructions",
          timed .disassembler "disassembly"]

end EvmScope.Disassembly

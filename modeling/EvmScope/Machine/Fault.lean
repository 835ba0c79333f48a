/-!
# Faults

Why a frame stops without a result. Each fault has the name that a trace shows, and the name under
which a transaction reports that its outermost frame has halted.
-/

namespace EvmScope

set_option autoImplicit false

/-- Why a frame fails and loses all its gas. -/
inductive Fault
  | outOfGas
  | memoryOutOfGas
  | memoryLimit
  | operandOutOfRange
  | precompileOutOfGas
  | precompileRejected
  | undefinedOpcode
  | designatedInvalid
  | containerOpcode
  | returnContractOutsideInit
  | notActivated
  | stackUnderflow
  | stackOverflow
  | invalidJump
  | outOfOffset
  | stateChangeInStaticCall
  | valueInStaticCall
  | createCollision
  | createdCodeTooLarge
  | createdCodeReserved
  | initCodeTooLarge
  deriving DecidableEq, Repr

namespace Fault

def name : Fault → String
  | outOfGas => "OutOfGas"
  | memoryOutOfGas => "MemoryOOG"
  | memoryLimit => "MemoryLimitOOG"
  | operandOutOfRange => "InvalidOperandOOG"
  | precompileOutOfGas => "PrecompileOOG"
  | precompileRejected => "PrecompileError"
  | undefinedOpcode => "OpcodeNotFound"
  | designatedInvalid => "InvalidFEOpcode"
  | containerOpcode => "EOFOpcodeDisabledInLegacy"
  | returnContractOutsideInit => "ReturnContractInNotInitEOF"
  | notActivated => "NotActivated"
  | stackUnderflow => "StackUnderflow"
  | stackOverflow => "StackOverflow"
  | invalidJump => "InvalidJump"
  | outOfOffset => "OutOfOffset"
  | stateChangeInStaticCall => "StateChangeDuringStaticCall"
  | valueInStaticCall => "CallNotAllowedInsideStatic"
  | createCollision => "CreateCollision"
  | createdCodeTooLarge => "CreateContractSizeLimit"
  | createdCodeReserved => "CreateContractStartingWithEF"
  | initCodeTooLarge => "CreateInitCodeSizeLimit"

/-- The reason that a transaction gives when its outermost frame has failed. -/
def haltReason : Fault → String
  | outOfGas => "OutOfGas(Basic)"
  | memoryOutOfGas => "OutOfGas(Memory)"
  | memoryLimit => "OutOfGas(MemoryLimit)"
  | operandOutOfRange => "OutOfGas(InvalidOperand)"
  | precompileOutOfGas => "OutOfGas(Precompile)"
  | containerOpcode => "OpcodeNotFound"
  | returnContractOutsideInit => "OpcodeNotFound"
  | fault => fault.name

end Fault

end EvmScope

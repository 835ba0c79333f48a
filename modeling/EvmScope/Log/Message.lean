
/-!
# Log messages

What the program tells about its own work: a level, the part of the program that speaks, and a text.
A message about the time that something took holds only what took it; the time is filled in when the
message is written.
-/

namespace EvmScope.Log

set_option autoImplicit false

/-- How important a message is. -/
inductive Level
  | error
  | warn
  | info
  | debug
  | trace
  deriving DecidableEq, Repr

namespace Level

def rank : Level → Nat
  | error => 1
  | warn => 2
  | info => 3
  | debug => 4
  | trace => 5

def name : Level → String
  | error => "ERROR"
  | warn => "WARN"
  | info => "INFO"
  | debug => "DEBUG"
  | trace => "TRACE"

end Level

/-- The parts of the program that write messages. -/
inductive Origin
  | bytecode
  | disassembler
  | exec
  | engine
  deriving DecidableEq, Repr

/-- The path by which filters and log lines name a part of the program. -/
def Origin.path : Origin → String
  | bytecode => "evm_common::ether::bytecode"
  | disassembler => "evm_disassembler::core"
  | exec => "evm_exec::core"
  | engine => "evm_exec::engine::revm"

/-- What a message says. -/
inductive Body
  | plain (text : String)
  /-- The given thing took some time. -/
  | took (what : String)
  deriving DecidableEq, Repr

/-- The text of a message, with a time filled in where one belongs. -/
def Body.text (elapsed : String) : Body → String
  | plain text => text
  | took what => s!"{what} took {elapsed}"

structure Message where
  level : Level
  origin : Origin
  body : Body
  deriving DecidableEq, Repr

/-- A message with a fixed text. -/
def say (level : Level) (origin : Origin) (text : String) : Message :=
  ⟨level, origin, .plain text⟩

/-- A message about the time that something took. -/
def timed (origin : Origin) (what : String) : Message :=
  ⟨.debug, origin, .took what⟩

end EvmScope.Log

import EvmScope.Session.Options
import EvmScope.Sink
import EvmScope.Target
import EvmScope.Transaction

/-!
# Configurations

What a call needs, read from its options: the bytecode, the input and the circumstances. The texts
are read in the order target, input, coinbase, origin, and the first that cannot be read decides the
error.
-/

namespace EvmScope

set_option autoImplicit false

/-- Why a session has no result. -/
inductive SessionError
  | target (cause : Target.Error)
  | input (cause : Hex.Error)
  | coinbase (cause : Address.Error)
  | origin (cause : Address.Error)
  /-- The engine could not run the call to a good end. -/
  | engine (text : String)
  /-- The state behind the call failed after it. -/
  | state (text : String)
  /-- Output was lost inside the JSON object of a step. -/
  | object (cause : SinkError)
  /-- Output was lost elsewhere. -/
  | output (cause : SinkError)
  deriving DecidableEq, Repr

namespace SessionError

inductive Kind
  | decode
  | engine
  | state
  | output
  | json
  deriving DecidableEq, Repr

def kind : SessionError → Kind
  | target _ | input _ | coinbase _ | origin _ => .decode
  | engine _ => .engine
  | state _ => .state
  | object _ => .json
  | output _ => .output

/-- What has gone wrong, without the words for the kind of error. -/
def detail : SessionError → String
  | target cause => cause.message
  | input cause => s!"invalid input: {cause.message}"
  | coinbase cause => s!"invalid coinbase: {cause.message}"
  | origin cause => s!"invalid origin: {cause.message}"
  | engine text => text
  | state text => text
  | object cause => cause.message
  | output cause => cause.message

def Kind.name : Kind → String
  | decode => "DecodeError"
  | engine => "EngineError"
  | state => "StateError"
  | output => "IOError"
  | json => "SerdeError"

/-- The words that announce a kind of error. -/
def Kind.announcement : Kind → String
  | decode => "Decode error"
  | engine => "Engine error"
  | state => "State error"
  | output => "IO error"
  | json => "Json error"

def message (e : SessionError) : String :=
  s!"{e.kind.announcement}: {e.detail}"

end SessionError

/-- What a call needs. -/
structure Config where
  context : Context
  code : Bytes
  input : Bytes
  deriving DecidableEq, Repr

/-- Reads the options of a call. Its steps are always recorded. -/
def Config.ofOptions (fs : FileSystem) (o : CallOptions) : Except SessionError Config := do
  let code ← (Target.resolve fs o.target).mapError .target
  let input ← (Hex.decode o.input).mapError .input
  let coinbase ← (Address.decode o.coinbase).mapError .coinbase
  let origin ← (Address.decode o.origin).mapError .origin
  pure
    { context :=
        { blockNumber := o.number
          coinbase
          difficulty := o.difficulty
          gasLimit := o.gaslimit
          gasPrice := o.gasprice
          origin
          value := o.value
          tracing := true }
      code
      input }

end EvmScope

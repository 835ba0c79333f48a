import EvmScope.Interpreter
import EvmScope.Session.Config
import EvmScope.Text.Utf8
import EvmScope.Trace.Json
import EvmScope.Trace.Text

/-!
# Sessions

A session reads the options of a call, has an engine run it, and writes the trace and the output.
The engine is a parameter: it answers a call, and may keep a state of its own. Nothing is written
unless the engine has succeeded on both of the ways in which it can fail.
-/

namespace EvmScope

set_option autoImplicit false

/-- How an engine answers a call. -/
inductive EngineAnswer
  /-- The whole program comes to an end. -/
  | crashed
  | failed (text : String)
  | ran (execution : Execution)

/-- A machine that can run calls; `σ` is the state that it keeps between them. -/
abbrev Engine (σ : Type) := (code input : Bytes) → Context → σ → EngineAnswer × σ

open Log in
/-- What an engine logs once it has installed some code. -/
def Engine.installed (code : Bytes) : Message :=
  say .trace .engine
    s!"installed {code.length} bytes of code at 0x000000000000000000000000636F6E7472616374"

open Log in
/-- What an engine logs once some steps have been recorded. -/
def Engine.recorded (steps : Nat) : Message :=
  say .debug .engine s!"engine recorded {steps} steps"

/-- A virtual machine as an engine. Its state holds what it has logged. -/
def Engine.ofVm (vm : Vm) (spec : vm.Spec) : Engine (List Log.Message) :=
  fun code input ctx journal =>
    let (reply, logs) := vm.executeLogged spec code input ctx
    let written := journal ++ [installed code, recorded logs.length]
    match reply with
    | .crashed => (.crashed, journal)
    | .failed why => (.failed why.message, written)
    | .ran execution => (.ran execution, written)

/-- Calls some code with an input on the interpreter of this library. -/
def Transaction.run (fork : Hardfork) (code input : Bytes) (ctx : Context) : Reply :=
  interpreter.execute fork code input ctx

/-- The interpreter of this library as an engine. -/
def Engine.machine (fork : Hardfork) : Engine (List Log.Message) :=
  ofVm interpreter fork

/-- A piece of output. The pieces matter only when output is lost: what is lost inside the JSON
object of a step is another kind of error. -/
structure Piece where
  text : List Char
  isObject : Bool := false

namespace Piece

def ofTrace (json : Bool) (logs : List StepLog) : List Piece :=
  if json then logs.flatMap fun log => [⟨Trace.object log, true⟩, ⟨['\n'], false⟩]
  else logs.map fun log => ⟨Trace.block log, false⟩

/-- The pieces of what follows a trace. -/
def ofOutput (output : Bytes) : List Piece :=
  [⟨['\n'], false⟩, ⟨Trace.outputLine output, false⟩]

/-- The error of a piece that was not taken whole. -/
def lost (p : Piece) (cause : SinkError) : SessionError :=
  if p.isObject then .object cause else .output cause

/-- Writes pieces until one is not taken whole. -/
def writeAll (sink : Sink) : List Piece → Option SessionError × Sink
  | [] => (none, sink)
  | p :: ps =>
    match sink.write (Text.utf8 p.text) with
    | (none, sink) => writeAll sink ps
    | (some cause, sink) => (some (p.lost cause), sink)

end Piece

namespace Session

inductive Ending
  | crashed
  | failed (why : SessionError)
  | done (execution : Execution)

/-- Writes the trace and the output of a call, and flushes the sink if everything was taken. -/
def writeExecution (json : Bool) (e : Execution) (sink : Sink) : Option SessionError × Sink :=
  match Piece.writeAll sink (Piece.ofTrace json e.logs ++ Piece.ofOutput e.returnData) with
  | (some why, sink) => (some why, sink)
  | (none, sink) =>
    let (cause?, sink) := sink.flush
    (cause?.map .output, sink)

/-- What is left to do once the engine has answered. -/
def conclude (json : Bool) (answer : EngineAnswer) (sink : Sink) : Ending × Sink :=
  match answer with
  | .crashed => (.crashed, sink)
  | .failed text => (.failed (.engine text), sink)
  | .ran e =>
    match e.stateError with
    | some text => (.failed (.state text), sink)
    | none =>
      match writeExecution json e sink with
      | (some why, sink) => (.failed why, sink)
      | (none, sink) => (.done e, sink)

/-- Runs a session: reads the options, calls the engine once, and writes to the sink. -/
def run {σ : Type} (engine : Engine σ) (state : σ) (fs : FileSystem) (o : CallOptions)
    (sink : Sink) : Ending × Sink × σ :=
  match Config.ofOptions fs o with
  | .error why => (.failed why, sink, state)
  | .ok c =>
    let (answer, state) := engine c.code c.input c.context state
    let (ending, sink) := conclude o.json answer sink
    (ending, sink, state)

open Log in
/-- What is logged once the engine has answered, besides what the engine has logged itself. -/
def conclusionMessages (ending : Ending) : List Message :=
  let executed := timed .exec "execution"
  match ending with
  | .crashed => []
  | .failed (.engine text) => [say .error .exec s!"failed to execute bytecode: {text}"]
  | .failed (.state text) =>
    [executed, say .error .exec s!"execution left the state in error: {text}"]
  | .failed _ => [executed]
  | .done e =>
    [executed, timed .exec "rendering trace",
      say .info .exec s!"executed {e.logs.length} steps using {e.gasUsed} gas",
      timed .exec "exec"]

open Log in
/-- What is logged in a session that ended in some way, in which the engine has logged `journal`. -/
def messages (fs : FileSystem) (o : CallOptions) (journal : List Message) (ending : Ending) :
    List Message :=
  Target.messages fs o.target ++
    match Config.ofOptions fs o with
    | .error _ => []
    | .ok c =>
      say .debug .exec
          s!"executing {c.code.length} bytes of code with {c.input.length} bytes of input" ::
        journal ++ conclusionMessages ending

end Session

end EvmScope

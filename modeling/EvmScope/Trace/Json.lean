import EvmScope.Json.Value
import EvmScope.Trace.StepLog

/-!
# Traces as JSON

One object for each step, on a line of its own. Words are strings of `0x` and the shortest digits,
memory is a string of `0x` and two digits per byte, and the slots of the storage are the members of
an object, in the order of their keys.
-/

namespace EvmScope.Trace

set_option autoImplicit false

/-- A word as a JSON string. -/
def wordValue (w : Word) : JsonValue :=
  .string w.quantity

/-- The JSON value of a step. The member `error` is there only if the step has one, and the stack is
given from its bottom up. -/
def value (log : StepLog) : JsonValue :=
  let error := match log.error with
    | some error => [("error".toList, JsonValue.string error.toList)]
    | none => []
  .object <|
    [("pc".toList, .number log.pc), ("op".toList, .number log.op.toNat),
      ("gas".toList, .number log.gas), ("gasCost".toList, .number log.gasCost),
      ("depth".toList, .number log.depth)] ++
    error ++
    [("stack".toList, .array (log.stack.reverse.map wordValue)),
      ("memory".toList, .string ('0' :: 'x' :: Hex.encode log.memory.toList)),
      ("storage".toList, .object (log.storage.entries.map fun e => (Word.quantity e.1, wordValue e.2))),
      ("opName".toList, .string log.opName.toList)]

/-- The JSON object of a step, without the end of its line. -/
def object (log : StepLog) : List Char :=
  (value log).text

def jsonText (logs : List StepLog) : List Char :=
  logs.flatMap fun log => object log ++ ['\n']

end EvmScope.Trace

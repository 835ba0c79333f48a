import EvmScope.Hex.Dump
import EvmScope.Trace.StepLog

/-!
# Traces as text

One block of lines for each step, ended by an empty line, and behind the last block the output of
the call. Stack, memory and storage have a section each, left out if there is nothing in it.
-/

namespace EvmScope.Trace

set_option autoImplicit false

open EvmScope.Text

def fullWord (w : Word) : List Char :=
  Hex.encode w.toBytes

/-- A word of the stack: its 64 digits without the zeros in front, of which one stays if there is
nothing else. -/
def stackWord (w : Word) : List Char :=
  let digits := (fullWord w).dropWhile (· == '0')
  '0' :: 'x' :: if digits.isEmpty then ['0'] else digits

def headLine (log : StepLog) : List Char :=
  padRight 16 ' ' log.opName.toList ++ "pc=".toList ++ decimalPadded 8 log.pc ++
    " gas=".toList ++ decimal log.gas ++ " cost=".toList ++ decimal log.gasCost ++
    (match log.error with
      | some error => " ERROR: ".toList ++ error.toList
      | none => []) ++ ['\n']

/-- The lines of a stack, whose first item has the number `n`. -/
def stackLines (n : Nat) : List Word → List Char
  | [] => []
  | w :: ws =>
    decimalPadded 8 n ++ [' ', ' '] ++ stackWord w ++ '\n' :: stackLines (n + 1) ws

def slotLine (slot : Word × Word) : List Char :=
  fullWord slot.1 ++ [':', ' '] ++ fullWord slot.2 ++ ['\n']

/-- A section with a title, left out if its lines are empty. -/
def titled (title : String) (lines : List Char) : List Char :=
  if lines = [] then [] else title.toList ++ '\n' :: lines

def block (log : StepLog) : List Char :=
  headLine log ++ titled "Stack:" (stackLines 0 log.stack) ++
    titled "Memory:" (Hex.dump log.memory.toList) ++
    titled "Storage:" (log.storage.entries.flatMap slotLine) ++ ['\n']

def text (logs : List StepLog) : List Char :=
  logs.flatMap block

/-- The line that shows the output of a call. -/
def outputLine (output : Bytes) : List Char :=
  "Return = 0x".toList ++ Hex.encode output ++ ['\n']

/-- What follows a trace: an empty line and the output of the call. -/
def trailer (output : Bytes) : List Char :=
  '\n' :: outputLine output

end EvmScope.Trace

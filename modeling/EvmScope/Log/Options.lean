import EvmScope.Log.Message

/-!
# Log options

How log messages are written, and which of them.
-/

namespace EvmScope.Log

set_option autoImplicit false

/-- The form of log lines. -/
inductive Format
  | json
  | terminal
  deriving DecidableEq, Repr

namespace Format

def name : Format → String
  | json => "json"
  | terminal => "terminal"

def ofName? (s : List Char) : Option Format :=
  [json, terminal].find? (·.name.toList = s)

end Format

/-- Whether log lines are coloured. Both `always` and `auto` turn colours on. -/
inductive ColorMode
  | always
  | auto
  | never
  deriving DecidableEq, Repr

namespace ColorMode

def name : ColorMode → String
  | always => "always"
  | auto => "auto"
  | never => "never"

def ofName? (s : List Char) : Option ColorMode :=
  [always, auto, never].find? (·.name.toList = s)

/-- A text is not the name of a colour mode. -/
structure Error where
  text : List Char
  deriving DecidableEq, Repr

def Error.message (e : Error) : String :=
  s!"Invalid color mode: {String.ofList e.text}"

def read (s : List Char) : Except Error ColorMode :=
  match ofName? s with
  | some mode => .ok mode
  | none => .error ⟨s⟩

theorem read_name (mode : ColorMode) : read mode.name.toList = .ok mode := by
  cases mode <;> rfl

end ColorMode

/-- The least important level that is written, if any. -/
inductive Threshold
  | off
  | upTo (level : Level)
  deriving DecidableEq, Repr

namespace Threshold

def name : Threshold → String
  | off => "off"
  | upTo .error => "error"
  | upTo .warn => "warn"
  | upTo .info => "info"
  | upTo .debug => "debug"
  | upTo .trace => "trace"

/-- Whether messages of a level are written. -/
def admits : Threshold → Level → Bool
  | off, _ => false
  | upTo least, level => level.rank ≤ least.rank

end Threshold

/-- How much is logged, as it is asked for: by repeating a flag, or by asking for silence. -/
structure Verbosity where
  /-- How often the flag was given; one if it was not given at all. -/
  count : Nat := 1
  quiet : Bool := false
  deriving DecidableEq, Repr

/-- The threshold that a verbosity asks for. -/
def Verbosity.threshold (v : Verbosity) : Threshold :=
  if v.quiet then .off
  else match v.count - 1 with
    | 0 => .upTo .warn
    | 1 => .upTo .info
    | 2 => .upTo .debug
    | _ => .upTo .trace

/-- How log messages are written, and which. -/
structure Options where
  format : Format := .terminal
  /-- Directives that take the place of the verbosity. -/
  filter : List Char := []
  color : ColorMode := .always
  verbosity : Verbosity := {}
  deriving DecidableEq, Repr

end EvmScope.Log

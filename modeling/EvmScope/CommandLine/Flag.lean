import EvmScope.CommandLine.Spelling
import EvmScope.Log.Options
import EvmScope.Session.Options
import EvmScope.Text.Number
import EvmScope.Text.Terminal

/-!
# Flags

The flags of the commands: their names, what they take, and what giving one of them does to the
settings.
-/

namespace EvmScope.CommandLine

set_option autoImplicit false

/-- The commands that take flags. -/
inductive Command
  | disasm
  | exec
  deriving DecidableEq, Repr

namespace Command

def name : Command → String
  | disasm => "disasm"
  | exec => "exec"

def ofName? (word : Arg) : Option Command :=
  [disasm, exec].find? (·.name.toList = word)

end Command

/-- The flags that take a number. -/
inductive NumberFlag
  | number
  | difficulty
  | gaslimit
  | gasprice
  | value
  deriving DecidableEq, Repr

/-- The flags that take any text. -/
inductive TextFlag
  | coinbase
  | input
  | origin
  | logFilter
  deriving DecidableEq, Repr

/-- The flags that take one of a few names. -/
inductive ChoiceFlag
  | logFormat
  | color
  deriving DecidableEq, Repr

/-- The flags that take nothing and may be given once. -/
inductive SwitchFlag
  | json
  | quiet
  deriving DecidableEq, Repr

inductive Flag
  | number (which : NumberFlag)
  | text (which : TextFlag)
  | choice (which : ChoiceFlag)
  | switch (which : SwitchFlag)
  /-- Counts how often it is given. -/
  | verbosity
  | help
  deriving DecidableEq, Repr

namespace Flag

def name : Flag → String
  | number .number => "number"
  | number .difficulty => "difficulty"
  | number .gaslimit => "gaslimit"
  | number .gasprice => "gasprice"
  | number .value => "value"
  | text .coinbase => "coinbase"
  | text .input => "input"
  | text .origin => "origin"
  | text .logFilter => "log.stderr.filter"
  | choice .logFormat => "log.stderr.format"
  | choice .color => "color"
  | switch .json => "json"
  | switch .quiet => "quiet"
  | verbosity => "verbosity"
  | help => "help"

def names : Flag → List String
  | switch .quiet => ["quiet", "silent"]
  | flag => [flag.name]

/-- The letter of a flag, if it has one. -/
def letter? : Flag → Option Char
  | switch .quiet => some 'q'
  | verbosity => some 'v'
  | help => some 'h'
  | _ => none

def takesValue : Flag → Bool
  | number _ | text _ | choice _ => true
  | switch _ | verbosity | help => false

/-- The word that stands for the value of a flag in messages. -/
def valueName : Flag → String
  | number .number => "NUMBER"
  | number .difficulty => "DIFFICULTY"
  | number .gaslimit => "GASLIMIT"
  | number .gasprice => "GASPRICE"
  | number .value => "VALUE"
  | text .coinbase => "COINBASE"
  | text .input => "INPUT"
  | text .origin => "ORIGIN"
  | text .logFilter => "FILTER"
  | choice .logFormat => "FORMAT"
  | choice .color => "COLOR"
  | _ => ""

/-- A flag as messages show it. -/
def shown (flag : Flag) : String :=
  if flag.takesValue then s!"--{flag.name} <{flag.valueName}>"
  else if flag = verbosity then s!"--{flag.name}..."
  else s!"--{flag.name}"

/-- The flags that both commands take. -/
def common : List Flag :=
  [choice .logFormat, text .logFilter, choice .color, verbosity, switch .quiet, help]

def ofCommand : Command → List Flag
  | .disasm => common
  | .exec =>
    [number .number, text .coinbase, number .difficulty, number .gaslimit, number .gasprice,
      text .input, text .origin, number .value, switch .json] ++ common

/-- The flag of a command that has a name. -/
def ofName? (c : Command) (name : Arg) : Option Flag :=
  (ofCommand c).find? fun flag => flag.names.any (·.toList = name)

/-- The flag of a command that has a letter. -/
def ofLetter? (c : Command) (letter : Char) : Option Flag :=
  (ofCommand c).find? (·.letter? = some letter)

end Flag

/-- Why a command line is not understood. -/
inductive UsageError
  | unexpected (arg : Arg)
  | missingValue (flag : Flag)
  | notANumber (flag : Flag) (value : Arg) (why : Text.NumberError)
  | notAChoice (flag : Flag) (value : Arg)
  | unneededValue (flag : Flag) (value : Arg)
  | repeated (flag : Flag)
  deriving DecidableEq, Repr

namespace UsageError

/-- A word of the command line as messages show it, without the codes of terminals in it. -/
def shownWord (word : Arg) : String :=
  "'" ++ String.ofList (Text.shown word) ++ "'"

def text : UsageError → String
  | unexpected arg => s!"unexpected argument {shownWord arg} found"
  | missingValue flag => s!"a value is required for '{flag.shown}' but none was supplied"
  | notANumber flag value why =>
    s!"invalid value {shownWord value} for '{flag.shown}': {why.message}"
  | notAChoice flag value => s!"invalid value {shownWord value} for '{flag.shown}'"
  | unneededValue flag value =>
    s!"unexpected value {shownWord value} for '{flag.shown}' found; no more were expected"
  | repeated flag => s!"the argument '{flag.shown}' cannot be used multiple times"

/-- The first line of a text that goes on behind it. A carriage return in front of a line feed
belongs to the line break. -/
def firstLine (s : List Char) : List Char :=
  let line := s.takeWhile (· != '\n')
  if line.getLast? = some '\r' then line.dropLast else line

/-- The first line that is shown for an error. -/
def message (e : UsageError) : List Char :=
  firstLine ("error: " ++ e.text).toList

end UsageError

/-- What the flags and words of a command line have set so far. -/
structure Settings where
  call : CallOptions.Draft := {}
  format : Option Log.Format := none
  filter : Option Arg := none
  color : Option Log.ColorMode := none
  /-- How often the verbosity was raised, at most 255 times. -/
  verbosity : Nat := 0
  quiet : Bool := false
  deriving DecidableEq, Repr

namespace Settings

def numberOf (s : Settings) : NumberFlag → Option Nat
  | .number => s.call.number
  | .difficulty => s.call.difficulty
  | .gaslimit => s.call.gaslimit
  | .gasprice => s.call.gasprice
  | .value => s.call.value

def setNumber (s : Settings) (which : NumberFlag) (n : Nat) : Settings :=
  { s with
    call := match which with
      | .number => { s.call with number := n }
      | .difficulty => { s.call with difficulty := n }
      | .gaslimit => { s.call with gaslimit := n }
      | .gasprice => { s.call with gasprice := n }
      | .value => { s.call with value := n } }

def textOf (s : Settings) : TextFlag → Option Arg
  | .coinbase => s.call.coinbase
  | .input => s.call.input
  | .origin => s.call.origin
  | .logFilter => s.filter

def setText (s : Settings) (which : TextFlag) (value : Arg) : Settings :=
  match which with
  | .coinbase => { s with call := { s.call with coinbase := value } }
  | .input => { s with call := { s.call with input := value } }
  | .origin => { s with call := { s.call with origin := value } }
  | .logFilter => { s with filter := value }

/-- Whether a flag has been given. The verbosity never counts as given, since it may be repeated. -/
def isSet (s : Settings) : Flag → Bool
  | .number which => (s.numberOf which).isSome
  | .text which => (s.textOf which).isSome
  | .choice .logFormat => s.format.isSome
  | .choice .color => s.color.isSome
  | .switch .json => s.call.json.isSome
  | .switch .quiet => s.quiet
  | .verbosity | .help => false

def assign (s : Settings) (flag : Flag) (value : Arg) : Except UsageError Settings :=
  if s.isSet flag then .error (.repeated flag)
  else match flag with
    | .number which =>
      match Text.readNumber value with
      | .ok n => .ok (s.setNumber which n)
      | .error why => .error (.notANumber flag value why)
    | .text which => .ok (s.setText which value)
    | .choice which =>
      let chosen := match which with
        | .logFormat => (Log.Format.ofName? value).map fun format => { s with format }
        | .color => (Log.ColorMode.ofName? value).map fun color => { s with color }
      match chosen with
      | some s => .ok s
      | none => .error (if value = [] then .missingValue flag else .notAChoice flag value)
    | _ => .ok s

/-- Gives a flag that takes no value. -/
def give (s : Settings) (flag : Flag) : Except UsageError Settings :=
  if s.isSet flag then .error (.repeated flag)
  else match flag with
    | .switch .json => .ok { s with call := { s.call with json := true } }
    | .switch .quiet => .ok { s with quiet := true }
    | .verbosity => .ok { s with verbosity := min 255 (s.verbosity + 1) }
    | _ => .ok s

def logOptions (s : Settings) : Log.Options where
  format := s.format.getD .terminal
  filter := s.filter.getD []
  color := s.color.getD .always
  verbosity := { count := if s.verbosity = 0 then 1 else s.verbosity, quiet := s.quiet }

end Settings

end EvmScope.CommandLine

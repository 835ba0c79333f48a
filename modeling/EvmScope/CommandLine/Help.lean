import EvmScope.CommandLine.Flag

/-!
# Help

The help text of the program and those of its commands. The help of a command lists its flags under
a few headings; the short form takes one line for each of them, the long form several.
-/

namespace EvmScope.CommandLine.Help

set_option autoImplicit false

/-- What is shown if no command is given, or none that there is. -/
def overview : String :=
  "usage: evm <command> [<args>]\n" ++
  "\n" ++
  "The most commonly used evm commands are:\n" ++
  "  disasm     Disassemble bytecode\n" ++
  "  exec       Execute bytecode\n" ++
  "\n" ++
  "Run 'evm <command> -h' for more information on a command.\n"

/-- What help tells about a flag or a word. -/
structure Entry where
  /-- The flag or the word itself. -/
  subject : String
  about : String
  /-- Lines that only the long form has. -/
  details : List String := []
  /-- The values that there are, each with its meaning. -/
  choices : List (String × String) := []
  default : Option String := none

namespace Entry

/-- An entry on one line, its subject filled up to some width. -/
def short (width : Nat) (e : Entry) : String :=
  let choices := if e.choices.isEmpty then "" else
    " [possible values: " ++ ", ".intercalate (e.choices.map (·.1)) ++ "]"
  let default := match e.default with
    | some value => " [default: " ++ value ++ "]"
    | none => ""
  "  " ++ e.subject ++ "".pushn ' ' (width - e.subject.length) ++ "  " ++ e.about ++ default ++
    choices ++ "\n"

/-- What is in front of the lines below the subject. -/
def indent : String := "          "

/-- One of the values that there are, its name filled up to some width. -/
def choiceLine (width : Nat) (choice : String × String) : String :=
  indent ++ "- " ++ choice.1 ++ ":" ++ "".pushn ' ' (width - choice.1.length + 1) ++ choice.2 ++ "\n"

/-- The width of the widest of some texts. -/
def widest (texts : List String) : Nat :=
  (texts.map String.length).foldl max 0

/-- An entry on lines of its own. -/
def long (e : Entry) : String :=
  let details := if e.details.isEmpty then "" else
    indent ++ "\n" ++ String.join (e.details.map fun line => indent ++ line ++ "\n")
  let choices := if e.choices.isEmpty then "" else
    "\n" ++ indent ++ "Possible values:\n" ++
      String.join (e.choices.map (choiceLine (widest (e.choices.map (·.1)))))
  let default := match e.default with
    | some value => indent ++ "\n" ++ indent ++ "[default: " ++ value ++ "]\n"
    | none => ""
  "  " ++ e.subject ++ "\n" ++ indent ++ e.about ++ "\n" ++ details ++ choices ++ default

end Entry

structure Section where
  heading : String
  entries : List Entry

def Section.text (long : Bool) (s : Section) : String :=
  s.heading ++ ":\n" ++
    if long then "\n".intercalate (s.entries.map Entry.long)
    else String.join (s.entries.map (Entry.short (Entry.widest (s.entries.map (·.subject)))))

/-- A flag as a subject: its letter, if it has one, and its name. -/
def subject (flag : Flag) : String :=
  match flag.letter? with
  | some letter => "-" ++ letter.toString ++ ", " ++ flag.shown
  | none => "    " ++ flag.shown

def about (long : Bool) : Flag → String
  | .number .number => "The block number"
  | .number .difficulty => "The block difficulty, also used as prevrandao"
  | .number .gaslimit => "The gas limit of the call and of the block"
  | .number .gasprice => "The gas price"
  | .number .value => "The call value, in wei"
  | .text .coinbase => "The block coinbase"
  | .text .input => "The hex-encoded call input"
  | .text .origin => "The transaction origin, which is also the caller"
  | .text .logFilter => "The filter to use for logs written to stderr"
  | .choice .logFormat => "The format to use for logs written to stderr"
  | .choice .color =>
    "Sets whether or not the formatter emits ANSI terminal escape codes for colors and other text " ++
      "formatting"
  | .switch .json => "Print the trace as one JSON object per step"
  | .switch .quiet => "Silence all log output"
  | .verbosity => "Set the minimum log level."
  | .help => if long then "Print help (see a summary with '-h')" else
      "Print help (see more with '--help')"

/-- The lines that the long form adds to what a flag is for. -/
def details : Flag → List String
  | .verbosity =>
    ["-v     Warnings & Errors", "-vv    Info", "-vvv   Debug",
      "-vvvv  Traces (warning: very verbose!)"]
  | _ => []

/-- The values of a flag that takes one of a few names. -/
def choices : Flag → List (String × String)
  | .choice .logFormat =>
    [("json", "One JSON object per event"),
      ("terminal", "Human readable, optionally colored, lines")]
  | .choice .color => [("always", "Colors on"), ("auto", "Colors on"), ("never", "Colors off")]
  | _ => []

/-- The value that holds if a flag is not given, where help mentions it. -/
def default? : Flag → Option String
  | .number .number => some (toString CallOptions.default.number)
  | .number .difficulty => some (toString CallOptions.default.difficulty)
  | .number .gaslimit => some (toString CallOptions.default.gaslimit)
  | .number .gasprice => some (toString CallOptions.default.gasprice)
  | .number .value => some (toString CallOptions.default.value)
  | .text .coinbase => some (String.ofList CallOptions.default.coinbase)
  | .text .origin => some (String.ofList CallOptions.default.origin)
  | .text .logFilter => some "\"\""
  | .choice .logFormat => some Log.Format.terminal.name
  | .choice .color => some Log.ColorMode.always.name
  | _ => none

def entry (long : Bool) (flag : Flag) : Entry where
  subject := subject flag
  about := about long flag
  details := details flag
  choices := choices flag
  default := default? flag

def purpose : Command → String
  | .disasm => "Disassemble bytecode"
  | .exec => "Execute bytecode"

/-- What a command does to its target. -/
def verb : Command → String
  | .disasm => "disassemble"
  | .exec => "execute"

def target (c : Command) : Entry where
  subject := "[TARGET]"
  about :=
    "The bytecode to " ++ verb c ++
      ", either hex (optionally 0x-prefixed) or a path to a file containing hex"

/-- The flags that stand under a heading of their own. -/
def logging : List Flag :=
  [.choice .logFormat, .text .logFilter, .choice .color]

/-- The flags that say how much is shown. -/
def display : List Flag :=
  [.verbosity, .switch .quiet]

def sections (long : Bool) (c : Command) : List Section :=
  let general := (Flag.ofCommand c).filter fun flag => flag ∉ logging && flag ∉ display
  [⟨"Arguments", [target c]⟩, ⟨"Options", general.map (entry long)⟩,
    ⟨"LOGGING", logging.map (entry long)⟩, ⟨"DISPLAY", display.map (entry long)⟩]

def ofCommand (long : Bool) (c : Command) : String :=
  purpose c ++ "\n\nUsage: evm " ++ c.name ++ " [OPTIONS] <TARGET>\n\n" ++
    "\n".intercalate ((sections long c).map (Section.text long))

end EvmScope.CommandLine.Help

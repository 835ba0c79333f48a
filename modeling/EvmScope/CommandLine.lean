import EvmScope.CommandLine.Help
import EvmScope.CommandLine.Parser

/-!
# Command lines

What the words of a command line ask for. The first word behind the name of the program is the
command; if it is none, or if there is none, the program only tells how it is used. The words behind
the command are read by a library, which is a parameter: `Reader.standard` is one.
-/

namespace EvmScope.CommandLine

set_option autoImplicit false

/-- A command with all that it needs. -/
inductive Job
  | disasm (target : List Char) (logs : Log.Options)
  | exec (options : CallOptions) (logs : Log.Options)
  deriving DecidableEq, Repr

/-- A library that reads the words behind a command. It may refuse them, and then it has a text to
show instead and an exit code to end with. -/
structure Reader where
  Refusal : Type
  disasm : List Arg → Except Refusal (List Char × Log.Options)
  exec : List Arg → Except Refusal (CallOptions × Log.Options)
  /-- Whether the words ask for help. -/
  isHelp : Refusal → Bool
  text : Refusal → List Char
  usesErrorStream : Refusal → Bool
  exitCode : Refusal → Nat

/-- Help is shown on the output and is no error; all other refusals are errors of usage. -/
structure Reader.Documented (reader : Reader) : Prop where
  help : ∀ r, reader.isHelp r = true → reader.usesErrorStream r = false ∧ reader.exitCode r = 0
  usage : ∀ r, reader.isHelp r = false → reader.usesErrorStream r = true ∧ reader.exitCode r = 2

/-- Reads the words behind a command. -/
def Reader.job (reader : Reader) (c : Command) (args : List Arg) :
    Except reader.Refusal Job :=
  match c with
  | .disasm => do
    let (target, logs) ← reader.disasm args
    pure (.disasm target logs)
  | .exec => do
    let (options, logs) ← reader.exec args
    pure (.exec options logs)

/-- Reads the words behind the name of the program, if they call a command. -/
def parse (reader : Reader) (args : List Arg) : Except reader.Refusal (Option Job) :=
  match args with
  | [] => .ok none
  | word :: _ =>
    match Command.ofName? word with
    | none => .ok none
    | some c => (reader.job c (canonical args).tail).map some

/-- What is written about words that are not understood. -/
def usageText (e : UsageError) : List Char :=
  e.message ++ "\n\nFor more information, try '--help'.\n".toList

/-- Reading as this library does it. -/
def Reader.standard : Reader where
  Refusal := Command × Interruption
  disasm args :=
    match readSettings .disasm args with
    | .ok s => .ok (s.call.complete.target, s.logOptions)
    | .error why => .error (.disasm, why)
  exec args :=
    match readSettings .exec args with
    | .ok s => .ok (s.call.complete, s.logOptions)
    | .error why => .error (.exec, why)
  isHelp r := r.2 matches .help _
  text
    | (c, .help long) => (Help.ofCommand long c).toList
    | (_, .usage e) => usageText e
  usesErrorStream r := r.2 matches .usage _
  exitCode
    | (_, .help _) => 0
    | (_, .usage _) => 2

/-- Reading as this library does it has what is documented of readers. -/
theorem Reader.documented_standard : Reader.standard.Documented where
  help := by
    rintro ⟨c, e | long⟩ h
    · cases h
    · exact ⟨rfl, rfl⟩
  usage := by
    rintro ⟨c, e | long⟩ h
    · exact ⟨rfl, rfl⟩
    · cases h

/-- What is asked for, when it is read as this library does it. -/
inductive Request
  /-- To be told which commands there are. -/
  | overview
  /-- To be told how a command is used. -/
  | help (command : Command) (long : Bool)
  | disasm (target : List Char) (logs : Log.Options)
  | exec (options : CallOptions) (logs : Log.Options)
  deriving DecidableEq, Repr

def Job.request : Job → Request
  | disasm target logs => .disasm target logs
  | exec options logs => .exec options logs

/-- Reads the words behind the name of the program. -/
def read (args : List Arg) : Except UsageError Request :=
  match parse .standard args with
  | .ok none => .ok .overview
  | .ok (some job) => .ok job.request
  | .error (c, .help long) => .ok (.help c long)
  | .error (_, .usage e) => .error e

/-- What the settings of a command ask for. -/
def Settings.request (s : Settings) : Command → Request
  | .disasm => .disasm s.call.complete.target s.logOptions
  | .exec => .exec s.call.complete s.logOptions

/-- The word of a command stays as it is, and what it asks for is read from the words behind it. -/
theorem read_command (c : Command) (words : List Arg) :
    read (c.name.toList :: words) =
      match readSettings c (canonical words) with
      | .ok s => .ok (s.request c)
      | .error (.help long) => .ok (.help c long)
      | .error (.usage e) => .error e := by
  have hparse : parse .standard (c.name.toList :: words) =
      (Reader.standard.job c (canonical words)).map some := by
    cases c <;> rfl
  rw [read, hparse]
  cases c with
  | disasm | exec =>
    dsimp only [Reader.job, Reader.standard]
    rcases readSettings _ (canonical words) with (e | long) | s <;> rfl

end EvmScope.CommandLine

import EvmScope.CommandLine.Flag

/-!
# Reading a command line

The words behind the command are read from left to right. A flag that takes a value waits for the
next word unless its value is attached; it takes effect when the next flag or word has been told
apart from its value, so a fault in its value shows only then.
-/

namespace EvmScope.CommandLine

set_option autoImplicit false

/-- Why reading ends before the last word. -/
inductive Interruption
  | usage (error : UsageError)
  /-- Help was asked for, the long form by name and the short form by letter. -/
  | help (long : Bool)
  deriving DecidableEq, Repr

/-- What has been read and has not taken effect yet. -/
inductive Pending
  /-- A flag that takes a value, with its value if that has come. -/
  | flag (flag : Flag) (value : Option Arg)
  /-- The target. -/
  | target (value : Arg)
  deriving DecidableEq, Repr

/-- How far a command line has been read. -/
structure Progress where
  settings : Settings := {}
  pending : Option Pending := none
  /-- Whether the target has come. -/
  hasTarget : Bool := false
  /-- Whether the terminator has come. -/
  terminated : Bool := false
  deriving DecidableEq, Repr

namespace Progress

/-- Lets what is pending take effect. -/
def resolve (p : Progress) : Except Interruption Progress :=
  match p.pending with
  | none => .ok p
  | some (.flag flag none) => .error (.usage (.missingValue flag))
  | some (.flag flag (some value)) =>
    match p.settings.assign flag value with
    | .ok settings => .ok { p with settings, pending := none }
    | .error e => .error (.usage e)
  | some (.target value) =>
    .ok
      { p with
        settings := { p.settings with call := { p.settings.call with target := value } }
        pending := none }

def plain (p : Progress) (arg : Arg) : Except Interruption Progress :=
  if p.hasTarget then .error (.usage (.unexpected arg))
  else do
    let p ← p.resolve
    pure { p with pending := some (.target arg), hasTarget := true }

def give (p : Progress) (flag : Flag) (byName : Bool) : Except Interruption Progress := do
  let p ← p.resolve
  if flag = .help then throw (.help byName)
  match p.settings.give flag with
  | .ok settings => pure { p with settings }
  | .error e => throw (.usage e)

def attach (p : Progress) (flag : Flag) (value : Arg) : Except Interruption Progress := do
  let p ← p.resolve
  match p.settings.assign flag value with
  | .ok settings => pure { p with settings }
  | .error e => throw (.usage e)

/-- Reads a flag by its name, with what follows its first equals sign. -/
def named (c : Command) (p : Progress) (name : Arg) (value : Option Arg) :
    Except Interruption Progress :=
  match Flag.ofName? c name with
  | none => .error (.usage (.unexpected ('-' :: '-' :: name)))
  | some flag =>
    match flag.takesValue, value with
    | true, some value => p.attach flag value
    | true, none => do
      let p ← p.resolve
      pure { p with pending := some (.flag flag none) }
    | false, some value => .error (.usage (.unneededValue flag value))
    | false, none => p.give flag true

/-- Reads flags by their letters. No flag with a letter takes a value. -/
def lettered (c : Command) (p : Progress) : List Char → Except Interruption Progress
  | [] => .ok p
  | letter :: letters =>
    match Flag.ofLetter? c letter with
    | none => .error (.usage (.unexpected ['-', letter]))
    | some flag => do
      let p ← p.give flag false
      lettered c p letters

/-- What follows the first equals sign of a word. -/
def attachment? (arg : Arg) : Option Arg :=
  match arg.dropWhile (· != '=') with
  | [] => none
  | _ :: value => some value

def read (c : Command) (p : Progress) (arg : Arg) : Except Interruption Progress :=
  if p.terminated then p.plain arg
  else match arg with
    | ['-', '-'] => .ok { p with terminated := true }
    | '-' :: '-' :: flag => p.named c (flagName flag) (attachment? flag)
    | '-' :: letter :: letters => p.lettered c (letter :: letters)
    | arg =>
      match p.pending with
      | some (.flag flag none) => .ok { p with pending := some (.flag flag (some arg)) }
      | _ => p.plain arg

end Progress

/-- Reads the words behind a command. -/
def readSettings (c : Command) (args : List Arg) : Except Interruption Settings := do
  let p ← args.foldlM (Progress.read c) {}
  let p ← p.resolve
  pure p.settings

end EvmScope.CommandLine

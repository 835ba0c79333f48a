import EvmScope.Log.Directive

/-!
# Filters

A filter decides which messages are written. It consists of directives, which stand between commas
in its text. Of those that bear on a message the one with the longest target decides, and among
equals one that asks for a field; a message that none bears on is not written.
-/

namespace EvmScope.Log

set_option autoImplicit false

abbrev Filter := List Directive

namespace Filter

/-- The pieces of a text between its commas. -/
def pieces : List Char → List (List Char)
  | [] => [[]]
  | c :: s =>
    if c = ',' then [] :: pieces s
    else match pieces s with
      | [] => [[c]]
      | piece :: rest => (c :: piece) :: rest

/-- Reads a filter; empty directives are skipped. -/
def read (s : List Char) : Except FilterError Filter :=
  ((pieces s).filter (· ≠ [])).mapM Directive.read

/-- Reads a filter, in whose place the default stands if it has no directive. -/
def readWith (default s : List Char) : Except FilterError Filter := do
  let d ← Directive.read default
  let f ← read s
  pure (if f = [] then [d] else f)

/-- Whether a directive gives way to another one that bears on the same messages, which is the later
one of two equals. -/
def givesWay (d other : Directive) : Bool :=
  d.target.length < other.target.length ||
    (d.target.length = other.target.length && (d.field.isNone || other.field.isSome))

/-- The better of two directives for the same message. -/
def better (best : Option Directive) (d : Directive) : Option Directive :=
  match best with
  | none => some d
  | some b => if givesWay b d then some d else some b

/-- The directive that decides on the messages from a path. -/
def decisive? (f : Filter) (path : List Char) : Option Directive :=
  (f.filter (·.bearsOn path)).foldl better none

/-- Whether a message is written. -/
def admits (f : Filter) (m : Message) : Bool :=
  match f.decisive? m.origin.path.toList with
  | some d => d.threshold.admits m.level
  | none => false

end Filter

end EvmScope.Log

import EvmScope.Log.Line

/-!
# Setting up the log

A library reads the filter and writes those messages that it lets through. It is a parameter:
`Library.standard` is one. If it cannot read the filter, the program goes on without a log.
-/

namespace EvmScope.Log

set_option autoImplicit false

/-- A library for logs. -/
structure Library where
  Error : Type
  Filter : Type
  /-- Reads a filter, in whose place the default stands if it says nothing. There may be texts that
  the library does not come back from. -/
  readFilter : (default text : List Char) → Option (Except Error Filter)
  /-- What is written about a message, in colours or without. -/
  write : Format → (coloured : Bool) → Filter → Stamp → Message → List Char

/-- A text is empty, or its last line is ended. -/
def WholeLines (s : List Char) : Prop :=
  s = [] ∨ s.getLast? = some '\n'

/-- Every text is read as a filter or turned down, and messages are written in lines. -/
structure Library.Documented (lib : Library) : Prop where
  returns : ∀ default text, (lib.readFilter default text).isSome = true
  lines : ∀ format coloured f stamp m, WholeLines (lib.write format coloured f stamp m)

/-- What is to be written about messages under some options, if the library comes back. -/
def Library.setUp (lib : Library) (o : Options) : Option (Stamp → Message → List Char) :=
  (lib.readFilter o.verbosity.threshold.name.toList o.filter).map fun
    | .ok f => lib.write o.format (o.color ≠ .never) f
    | .error _ => fun _ _ => []

/-- The log as this library writes it. A directive of which a part would divide a character is more
than it can bear. -/
def Library.standard : Library where
  Error := FilterError
  Filter := EvmScope.Log.Filter
  readFilter default text :=
    match Filter.readWith default text with
    | .error .dividedCharacter => none
    | result => some result
  write format coloured f stamp m := if f.admits m then line format coloured stamp m else []

end EvmScope.Log

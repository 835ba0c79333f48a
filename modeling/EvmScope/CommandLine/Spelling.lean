/-!
# Spelling of flags

Nine flags with long names may be written with one dash. `canonical` writes them with two and leaves
everything else alone; behind a lone `--` nothing is a flag any more.
-/

namespace EvmScope.CommandLine

set_option autoImplicit false

abbrev Arg := List Char

/-- The word behind which nothing is a flag. -/
def terminator : Arg := ['-', '-']

/-- The names of the flags that may be written with one dash. -/
def singleDashNames : List Arg :=
  ["number", "coinbase", "difficulty", "gaslimit", "gasprice", "input", "origin", "value",
    "json"].map String.toList

/-- The part of a flag in front of its first equals sign. -/
def flagName (flag : Arg) : Arg :=
  flag.takeWhile (· != '=')

/-- Whether a flag, written without its dashes, is one of those that may have one dash. -/
def allowsSingleDash (flag : Arg) : Bool :=
  singleDashNames.contains (flagName flag)

/-- A word with the dash added that it may leave out. -/
def respell : Arg → Arg
  | '-' :: flag => if allowsSingleDash flag then '-' :: '-' :: flag else '-' :: flag
  | arg => arg

/-- The words of a command line with all flags written with two dashes. -/
def canonical : List Arg → List Arg
  | [] => []
  | arg :: args => if arg = terminator then arg :: args else respell arg :: canonical args

end EvmScope.CommandLine

import EvmScope.Log.Pattern.Class
import EvmScope.Text.Alphanumeric

/-!
# Patterns

A filter may ask for fields whose value matches a regular expression. As no message has such a value
that a filter could see, all that matters is whether the pattern can be used at all: `isUsable`. The
text of a pattern may have alternatives, groups with or without a name, sets in brackets, and
repetitions of what stands in front of them; flags set the mode up to the end of a group or for a
group of their own.
-/

namespace EvmScope.Log.Pattern

set_option autoImplicit false

/-- The mode with a flag set or cleared; none if there is no such flag. Four flags change only what
a pattern matches. -/
def Mode.setFlag? (m : Mode) (flag : Char) (value : Bool) : Option Mode :=
  if flag = 'i' then some { m with ignoresCase := value }
  else if flag = 'u' then some { m with bytes := !value }
  else if flag = 'x' then some { m with verbose := value }
  else if flag ∈ ['m', 's', 'U', 'R'] then some m
  else none

/-- Flags that have been read. -/
structure FlagList where
  mode : Mode
  /-- The flags and the hyphen, which clears the flags behind it; the last one is the first. -/
  given : List Char := []

/-- Reads flags up to a colon, behind which a group begins, or the closing parenthesis. The Boolean
says whether it is a group. -/
def FlagList.read? (l : FlagList) : List Char → Option (Mode × Bool × List Char)
  | [] => none
  | c :: s =>
    if c = ':' || c = ')' then
      if l.given.head? = some '-' || (c = ')' && l.given.isEmpty) then none
      else some (l.mode, c = ':', s)
    else if c ∈ l.given then none
    else if c = '-' then FlagList.read? { l with given := c :: l.given } s
    else match l.mode.setFlag? c ('-' ∉ l.given) with
      | some mode => FlagList.read? { mode, given := c :: l.given } s
      | none => none

/-- Whether a text can be the name of a group. -/
def isGroupName : List Char → Bool
  | [] => false
  | c :: s =>
    (c = '_' || Text.isLetter c) &&
      s.all fun c => c ∈ ['_', '.', '[', ']'] || Text.isLetterOrNumeral c

/-- How far a pattern has been read. -/
structure Progress where
  mode : Mode := {}
  /-- What the innermost open group has so far. -/
  layer : Layer := {}
  /-- The modes around the open groups and what has been read there, the innermost first. -/
  outer : List (Mode × Layer) := []
  /-- Whether there is something that a repetition could repeat. -/
  repeatable : Bool := false
  /-- The names of groups. -/
  names : List (List Char) := []
  rest : List Char

namespace Progress

/-- Opens a group that is read in a mode. -/
def openGroup (p : Progress) (mode : Mode) (rest : List Char) : Progress :=
  { p with mode, layer := {}, outer := (p.mode, p.layer) :: p.outer, repeatable := false, rest }

/-- Opens a group with a name. -/
def openNamed? (p : Progress) (s : List Char) : Option Progress :=
  let name := s.takeWhile (· != '>')
  match s.dropWhile (· != '>') with
  | _ :: rest =>
    if isGroupName name && name ∉ p.names then
      some { p.openGroup p.mode rest with names := name :: p.names }
    else none
  | [] => none

/-- Goes on in another mode behind flags. -/
def setMode (p : Progress) (mode : Mode) (rest : List Char) : Progress :=
  { p with mode, layer := p.layer.push 0, repeatable := false, rest }

/-- Reads what stands behind an opening parenthesis: the start of a group, or flags. A group cannot
look around itself. -/
def readGroup? (p : Progress) (s : List Char) : Option Progress :=
  match p.mode.skip s with
  | '?' :: '<' :: s => p.openNamed? s
  | '?' :: 'P' :: '<' :: s => p.openNamed? s
  | '?' :: s =>
    (FlagList.read? { mode := p.mode } s).map fun (mode, isGroup, rest) =>
      if isGroup then p.openGroup mode rest else p.setMode mode rest
  | s => some (p.openGroup p.mode s)

/-- Closes the innermost group. -/
def closeGroup? (p : Progress) (rest : List Char) : Option Progress :=
  match p.outer with
  | [] => none
  | (mode, layer) :: outer =>
    some { p with mode, layer := layer.push (p.layer.height + 1), outer, repeatable := true, rest }

/-- Goes on behind something that can be repeated. -/
def behind (p : Progress) (layer : Layer) (rest : List Char) : Progress :=
  { p with layer, repeatable := true, rest }

/-- Repeats what has been read last, as often as possible or, before another mark, as seldom. -/
def repeatLast? (p : Progress) (s : List Char) : Option Progress :=
  if p.repeatable then
    some (p.behind p.layer.repeatLast (if s.head? = some '?' then s.drop 1 else s))
  else none

def readItem? (p : Progress) (s : List Char) : Option Progress :=
  match readMember? p.mode s with
  | some (item, rest) =>
    if item.isAllowed p.mode then some (p.behind (p.layer.push 0) rest) else none
  | none => none

/-- Reads on by one item, mark, group or set. A brace asks for a count, which needs the closing
brace, and that one ends the pattern. -/
def step? (p : Progress) (c : Char) (s : List Char) : Option Progress :=
  if c = '(' then p.readGroup? s
  else if c = ')' then p.closeGroup? s
  else if c = '|' then some { p with layer := p.layer.alternative, repeatable := false, rest := s }
  else if c = '[' then (readClass? p.mode p.layer s).map fun (layer, rest) => p.behind layer rest
  else if c ∈ ['?', '*', '+'] then p.repeatLast? s
  else if c = '\x7b' then none
  else if c = '.' && p.mode.bytes then none
  else if c ∈ ['.', '^', '$'] then some (p.behind (p.layer.push 0) s)
  else p.readItem? (c :: s)

/-- Whether a pattern can be read to its end and is not too high, in at most some steps. -/
def completes : Nat → Progress → Bool
  | 0, _ => false
  | fuel + 1, p =>
    match p.mode.skip p.rest with
    | [] => p.outer.isEmpty && p.layer.height ≤ heightLimit
    | c :: s =>
      match p.step? c s with
      | some p => completes fuel p
      | none => false

end Progress

/-- Whether a pattern can be used. Each step reads a character. -/
def isUsable (s : List Char) : Bool :=
  Progress.completes (s.length + 1) { rest := s }

end EvmScope.Log.Pattern

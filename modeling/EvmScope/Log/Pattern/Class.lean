import EvmScope.Log.Pattern.Mode
import EvmScope.Log.Pattern.Nesting

/-!
# Sets in brackets

A set of characters in brackets names characters, ranges, classes and further sets in brackets, and
may combine them by pairs of marks. A bracket or hyphen at its start stands for itself.
-/

namespace EvmScope.Log.Pattern

set_option autoImplicit false

/-- The names of classes that stand between colons. -/
def classNames : List String :=
  ["alnum", "alpha", "ascii", "blank", "cntrl", "digit", "graph", "lower", "print", "punct", "space",
    "upper", "word", "xdigit"]

/-- Reads a class between colons, behind its opening bracket, and says whether it is negated. -/
def readNamedClass? : List Char → Option (Bool × List Char)
  | ':' :: s =>
    let negated := s.head? = some '^'
    let s := if negated then s.drop 1 else s
    match s.dropWhile (· != ':') with
    | ':' :: ']' :: rest =>
      if classNames.any (·.toList = s.takeWhile (· != ':')) then some (negated, rest) else none
    | _ => none
  | _ => none

/-- Reads a single item of a set. -/
def readMember? (m : Mode) : List Char → Option (Item × List Char)
  | [] => none
  | '\\' :: s => readEscape? m s
  | c :: s => some (.char c, s)

/-- Whether a range may have two items as its ends. -/
def isRange (first last : Item) : Bool :=
  match first.code?, last.code? with
  | some a, some b => a ≤ b
  | _, _ => false

/-- Reads an item or a range of a set. A hyphen in front of another one or of the closing bracket
makes no range. -/
def readRange? (m : Mode) (s : List Char) : Option (List Char) := do
  let (first, s) ← readMember? m s
  guard (first.isAllowedInClass m)
  match m.skip s with
  | [] => none
  | '-' :: rest =>
    if m.glance rest ∈ [some ']', some '-'] then some s
    else
      let (last, s) ← readMember? m (m.skip rest)
      guard (last.isAllowedInClass m && isRange first last)
      pure s
  | _ => some s

/-- Where a reader stands within a set. -/
inductive ClassStage
  | start
  /-- Behind hyphens at the start. -/
  | hyphens
  | inside
  deriving DecidableEq, Repr

/-- What is left of a set within which a reader stands. -/
structure ClassRest where
  /-- What the innermost open brackets have so far. -/
  layer : Layer
  /-- What has been read around them, the innermost first. -/
  outer : List Layer
  stage : ClassStage
  rest : List Char

namespace ClassRest

/-- Goes on behind a character, range or class. -/
def behind (r : ClassRest) (stage : ClassStage) (rest : List Char) : ClassRest :=
  { r with layer := r.layer.push 0, stage, rest }

/-- Goes on behind a mark that combines sets. -/
def combine (r : ClassRest) (rest : List Char) : ClassRest :=
  { r with layer := r.layer.operand, stage := .inside, rest }

/-- Opens brackets. In byte mode they may not be negated. -/
def open? (m : Mode) (r : ClassRest) (s : List Char) : Option ClassRest :=
  match m.skip s with
  | '^' :: rest => if m.bytes then none else some ⟨{}, r.layer :: r.outer, .start, rest⟩
  | rest => some ⟨{}, r.layer :: r.outer, .start, rest⟩

/-- Closes the innermost brackets. -/
def shut? (r : ClassRest) (rest : List Char) : Option ClassRest :=
  match r.outer with
  | [] => none
  | layer :: outer => some ⟨layer.push (r.layer.height + 1), outer, .inside, rest⟩

/-- Reads on within a set by one item, mark or bracket. -/
def step? (m : Mode) (r : ClassRest) : Option ClassRest :=
  let plain := (Item.char ']').isAllowedInClass m
  match r.stage, m.skip r.rest with
  | _, [] => none
  | .start, ']' :: s => if plain then some (r.behind .inside s) else none
  | .start, '-' :: s | .hyphens, '-' :: s => if plain then some (r.behind .hyphens s) else none
  | _, '[' :: s =>
    match readNamedClass? s with
    | some (negated, rest) =>
      if if m.bytes then negated else m.ignoresCase then none else some (r.behind .inside rest)
    | none => r.open? m s
  | _, ']' :: s => r.shut? s
  | _, '&' :: '&' :: s | _, '-' :: '-' :: s | _, '~' :: '~' :: s => some (r.combine s)
  | _, s => (readRange? m s).map (r.behind .inside)

/-- Reads on until all brackets are closed, in at most some steps. -/
def close? (m : Mode) : Nat → ClassRest → Option (Layer × List Char)
  | 0, _ => none
  | fuel + 1, r =>
    if r.outer.isEmpty then some (r.layer, r.rest) else (r.step? m).bind (close? m fuel)

end ClassRest

/-- Reads a set from behind its opening bracket, and says what is left behind it. The set is put at
the end of a layer. Each step reads a character. -/
def readClass? (m : Mode) (layer : Layer) (s : List Char) : Option (Layer × List Char) :=
  (ClassRest.open? m ⟨layer, [], .inside, s⟩ s).bind (ClassRest.close? m (s.length + 2))

end EvmScope.Log.Pattern

import EvmScope.Log.Options
import EvmScope.Log.Pattern
import EvmScope.Text.Number
import EvmScope.Text.Real
import EvmScope.Text.Utf8

/-!
# Directives

A directive sets the threshold for messages of a part of the program or of all of it. Its text is

* `level` for the whole program,
* `target` for a part of it, with everything written,
* `target=level`, where an empty level means everything,
* any of these with `[span]`, `[{field}]` or `[span{field}]` before the equals sign, where a field
  may ask for a value.

Blanks around a directive are no part of it when its marks are looked for; but the parts between the
marks are cut out of the text with its blanks, at positions that are counted without them. So a
blank in front shifts all parts, and one behind belongs to the last part.
-/

namespace EvmScope.Log

set_option autoImplicit false

/-- The threshold of a level name, in letters of either case, or of a number from zero to five. -/
def Threshold.ofName? (s : List Char) : Option Threshold :=
  let all := [off, upTo .error, upTo .warn, upTo .info, upTo .debug, upTo .trace]
  match Text.readNumber s with
  | .ok n => all[n]?
  | .error _ => all.find? fun t => t.name.toList = s.map Char.toLower

/-- Why a filter has no meaning. -/
inductive FilterError
  | malformed
  /-- A part of a directive would begin or end within a character. -/
  | dividedCharacter
  deriving DecidableEq, Repr

/-- A field that a message or span is asked for. -/
structure FieldQuery where
  name : List Char
  /-- Whether a value is asked for too. -/
  asksValue : Bool := false
  deriving DecidableEq, Repr

namespace FieldQuery

/-- Whether a text is the value of a field: a number or a pattern that can be used. -/
def isValue (s : List Char) : Bool :=
  Text.isReal s || Pattern.isUsable s

/-- Reads a field and perhaps, between two equals signs or behind the only one, its value. -/
def read (s : List Char) : Except FilterError FieldQuery :=
  let name := s.takeWhile (· != '=')
  match s.dropWhile (· != '=') with
  | [] => if s = [] then .error .malformed else .ok { name }
  | _ :: rest =>
    if isValue (rest.takeWhile (· != '=')) then .ok { name, asksValue := true }
    else .error .malformed

end FieldQuery

/-- A part of a filter. -/
structure Directive where
  /-- The start of the paths on which it bears. -/
  target : List Char := []
  /-- Whether it bears on what happens within some spans only. -/
  inSpans : Bool := false
  field : Option FieldQuery := none
  threshold : Threshold := .upTo .trace
  deriving DecidableEq, Repr

namespace Directive

/-- Whether a directive may begin with a character, brackets aside. -/
def isStart (c : Char) : Bool :=
  c ∈ ['-', ':', '_'] || Text.isLetterOrNumeral c

/-- What a reader of a directive is in, and at which byte it begins. -/
inductive Stage
  | start
  /-- A level or a target. -/
  | name
  | span (first : Nat)
  | field (first : Nat)
  | behindField
  | behindSpan
  | level (first : Nat)
  deriving DecidableEq, Repr

/-- The part of a text between two bytes. -/
def part (s : List Char) (first last : Nat) : Except FilterError (List Char) :=
  match Text.partBetween? first last s with
  | some part => .ok part
  | none => .error .dividedCharacter

/-- Reads on by the character at a byte. The parts come from the whole text `s`. -/
def step (s : List Char) (pos : Nat) (c : Char) (stage : Stage) (d : Directive) :
    Except FilterError (Stage × Directive) :=
  match stage with
  | .start =>
    if c = '[' then .ok (.span (pos + 1), d)
    else if isStart c then .ok (.name, d)
    else .error .malformed
  | .name =>
    if c = '=' || c = '[' then do
      let target ← part s 0 pos
      pure (if c = '=' then .level (pos + 1) else .span (pos + 1), { d with target })
    else .ok (.name, d)
  | .span first =>
    if c = ']' then do
      let _ ← part s first pos
      pure (.behindSpan, { d with inSpans := true })
    else if c = '\x7b' then do
      let span ← part s first pos
      pure (.field (pos + 1), { d with inSpans := span ≠ [] })
    else .ok (.span first, d)
  | .field first =>
    if c = '\x7d' then do
      let field ← part s first pos
      let query ← FieldQuery.read field
      pure (.behindField, { d with field := some query })
    else .ok (.field first, d)
  | .behindField => if c = ']' then .ok (.behindSpan, d) else .error .malformed
  | .behindSpan => if c = '=' then .ok (.level (pos + 1), d) else .error .malformed
  | .level first => .ok (.level first, d)

/-- Reads the end of a directive. -/
def finish (s : List Char) (stage : Stage) (d : Directive) : Except FilterError Directive :=
  match stage with
  | .name =>
    match Threshold.ofName? s with
    | some threshold => .ok { threshold }
    | none => .ok { target := s }
  | .behindSpan => .ok d
  | .level first => do
    let level ← part s first (Text.utf8 s).length
    if level = [] then pure d
    else match Threshold.ofName? level with
      | some threshold => pure { d with threshold }
      | none => throw .malformed
  | _ => .error .malformed

/-- Reads the characters of a directive from a byte on. -/
def readFrom (s : List Char) (pos : Nat) (stage : Stage) (d : Directive) :
    List Char → Except FilterError Directive
  | [] => finish s stage d
  | c :: rest => do
    let (stage, d) ← step s pos c stage d
    readFrom s (pos + c.utf8Size) stage d rest

def read (s : List Char) : Except FilterError Directive :=
  readFrom s 0 .start {} (Text.trim s)

/-- The fields that messages have. -/
def messageFields : List (List Char) :=
  ["message".toList]

/-- Whether a directive bears on the messages from a path. The program has no spans, and messages
have no fields with values that could be asked for. -/
def bearsOn (d : Directive) (path : List Char) : Bool :=
  !d.inSpans && d.target.isPrefixOf path &&
    d.field.all fun q => !q.asksValue && messageFields.contains q.name

end Directive

end EvmScope.Log

import EvmScope.Json.Value

/-!
# Reading JSON

Reads the values that the type has, which leaves out fractions, signs, truth values and null. Blanks
may stand between the marks, any character of a string may be escaped unless it takes a surrogate
pair, and numbers have no zeros in front.
-/

namespace EvmScope.JsonValue

set_option autoImplicit false

/-- Reads something off the front of a text, and leaves the rest. -/
abbrev Reader (α : Type) := List Char → Option (α × List Char)

/-- The characters that may stand around a value. -/
def isBlank (c : Char) : Bool :=
  c = ' ' || c = '\t' || c = '\n' || c = '\r'

/-- A text without the blanks in front. -/
def skipBlanks (s : List Char) : List Char :=
  s.dropWhile isBlank

/-- What follows a mark, which may have blanks in front. -/
def skipMark? (mark : Char) (s : List Char) : Option (List Char) :=
  match skipBlanks s with
  | [] => none
  | c :: s => if c = mark then some s else none

def readNumber? : Reader Nat := fun s =>
  let digits := s.takeWhile Char.isDigit
  if digits = [] ∨ (digits.head? = some '0' ∧ digits ≠ ['0']) then none
  else some (Nat.ofDigitChars 10 digits 0, s.dropWhile Char.isDigit)

/-- The character that an escape by a letter or a mark stands for. -/
def unescape? (c : Char) : Option Char :=
  if c = '"' ∨ c = '\\' ∨ c = '/' then some c
  else if c = 'b' then some (Char.ofNat 0x08)
  else if c = 't' then some '\t'
  else if c = 'n' then some '\n'
  else if c = 'f' then some (Char.ofNat 0x0c)
  else if c = 'r' then some '\r'
  else none

/-- The character of a code in hexadecimal digits. -/
def ofCode? (digits : List Char) : Option Char :=
  (Text.hexNumber? digits).bind fun n => if n.isValidChar then some (Char.ofNat n) else none

/-- One more character in front of a string that has been read. -/
def addChar? (c? : Option Char) (read : Option (List Char × List Char)) :
    Option (List Char × List Char) := do
  let c ← c?
  let (t, s) ← read
  pure (c :: t, s)

/-- Reads a string behind the quote at its beginning. -/
def readString? : Reader (List Char)
  | '"' :: s => some ([], s)
  | '\\' :: 'u' :: a :: b :: c :: d :: s => addChar? (ofCode? [a, b, c, d]) (readString? s)
  | '\\' :: c :: s => addChar? (unescape? c) (readString? s)
  | c :: s => if c.toNat < 0x20 then none else addChar? (some c) (readString? s)
  | [] => none

variable {α : Type}

/-- Reads one thing or more, with commas between them and a mark behind the last. -/
def readSome? (read? : Reader α) (close : Char) : (fuel : Nat) → Reader (List α)
  | 0, _ => none
  | fuel + 1, s => do
    let (a, s) ← read? s
    match skipBlanks s with
    | [] => none
    | c :: s =>
      if c = close then pure ([a], s)
      else if c = ',' then do
        let (as, s) ← readSome? read? close fuel s
        pure (a :: as, s)
      else none

/-- Reads any number of things with commas between them and a mark behind the last. -/
def readMany? (read? : Reader α) (close : Char) : Reader (List α) := fun s =>
  match skipMark? close s with
  | some rest => some ([], rest)
  | none => readSome? read? close s.length s

/-- Reads a member of an object: its key, a colon and its value. -/
def readMember? (read? : Reader JsonValue) : Reader (List Char × JsonValue) := fun s => do
  let s ← skipMark? '"' s
  let (key, s) ← readString? s
  let s ← skipMark? ':' s
  let (v, s) ← read? s
  pure ((key, v), s)

/-- Reads a value, of which at most `depth` stand within one another. -/
def readValue? : (depth : Nat) → Reader JsonValue
  | 0, _ => none
  | depth + 1, s =>
    match skipBlanks s with
    | '"' :: s => (readString? s).map fun (t, s) => (.string t, s)
    | '[' :: s => (readMany? (readValue? depth) ']' s).map fun (items, s) => (.array items, s)
    | '{' :: s =>
      (readMany? (readMember? (readValue? depth)) '}' s).map fun (members, s) =>
        (.object members, s)
    | s => (readNumber? s).map fun (n, s) => (.number n, s)

/-- Reads a text that is one value. Values cannot stand deeper in a text than it is long. -/
def read? (s : List Char) : Option JsonValue := do
  let (v, rest) ← readValue? s.length s
  if skipBlanks rest = [] then pure v else none

/-- The value of the first member of an object with a given key. -/
def member? (key : String) : JsonValue → Option JsonValue
  | .object members => (members.find? (·.1 = key.toList)).map (·.2)
  | _ => none

end EvmScope.JsonValue

import EvmScope.Text.Blank
import EvmScope.Text.Digits

/-!
# Modes of patterns and the items they name

How a stretch of a pattern is read, and the characters and sets that it names in one go. Matching
works on UTF-8 without tables of letter case and of character properties. So a pattern may not ask
to ignore case or name a class such as the digits unless it is in byte mode, where both are those of
ASCII; and in byte mode it may not match anything that could be a part of a character only.
-/

namespace EvmScope.Log.Pattern

set_option autoImplicit false

/-- How a stretch of a pattern is read. -/
structure Mode where
  /-- Whether letters stand for both of their cases. -/
  ignoresCase : Bool := false
  /-- Whether the pattern is about bytes and not about characters. -/
  bytes : Bool := false
  /-- Whether blanks and comments are skipped. -/
  verbose : Bool := false
  deriving DecidableEq, Repr

/-- What is left behind blanks and comments, of which one may have begun. -/
def skipBlanks (inComment : Bool) : List Char → List Char
  | [] => []
  | c :: s =>
    if inComment then skipBlanks (c != '\n') s
    else if Text.isBlank c then skipBlanks false s
    else if c = '#' then skipBlanks true s
    else c :: s

/-- What is left behind what a mode skips. -/
def Mode.skip (m : Mode) (s : List Char) : List Char :=
  if m.verbose then skipBlanks false s else s

/-- The character that a mode sees ahead. It looks behind blanks and behind the mark of a comment, but
not behind the comment. -/
def Mode.glance (m : Mode) (s : List Char) : Option Char :=
  if m.verbose then
    match s.dropWhile Text.isBlank with
    | '#' :: comment => (comment.dropWhile Text.isBlank).head?
    | s => s.head?
  else s.head?

/-- What one item of a pattern stands for. -/
inductive Item
  | char (c : Char)
  /-- A byte, given by two digits. -/
  | byte (n : Nat)
  /-- A class of characters. -/
  | set
  /-- A place between characters: an end of the text, or one that depends on words. -/
  | place (ofWords : Bool)
  deriving DecidableEq, Repr

namespace Item

/-- The code of the character or byte that an item stands for. -/
def code? : Item → Option Nat
  | char c => some c.toNat
  | byte n => some n
  | set | place _ => none

/-- Whether an item may stand outside of brackets. -/
def isAllowed (m : Mode) : Item → Bool
  | char _ => m.bytes || !m.ignoresCase
  | byte n => if m.bytes then n < 0x80 else !m.ignoresCase
  | set => m.bytes
  | place ofWords => m.bytes || !ofWords

/-- Whether an item may stand between brackets. -/
def isAllowedInClass (m : Mode) : Item → Bool
  | char c => if m.bytes then c.toNat < 0x80 else !m.ignoresCase
  | place _ => false
  | item => item.isAllowed m

end Item

/-- Reads `k` hexadecimal digits behind those that stand for `n`. -/
def readCode? (m : Mode) : Nat → Nat → List Char → Option (Nat × List Char)
  | 0, n, s => some (n, s)
  | k + 1, n, s =>
    match m.skip s with
    | [] => none
    | c :: s => (Text.hexValue? c).bind fun d => readCode? m k (16 * n + d) s

/-- Reads a character that is given by `k` hexadecimal digits. -/
def readCodedChar? (m : Mode) (k : Nat) (s : List Char) : Option (Item × List Char) :=
  (readCode? m k 0 s).bind fun (n, s) =>
    if n.isValidChar then some (if k = 2 then .byte n else .char (Char.ofNat n), s) else none

/-- The control characters that have a letter. -/
def controlLetters : List (Char × Char) :=
  [('a', '\x07'), ('f', '\x0c'), ('t', '\t'), ('n', '\n'), ('r', '\r'), ('v', '\x0b')]

/-- Reads what stands behind a backslash. Every mark of ASCII stands for itself, but angle brackets
stand for the ends of words. Numbers of groups, properties and negated classes are not supported. -/
def readEscape? (m : Mode) : List Char → Option (Item × List Char)
  | [] => none
  | 'x' :: s => readCodedChar? m 2 s
  | 'u' :: s => readCodedChar? m 4 s
  | 'U' :: s => readCodedChar? m 8 s
  | c :: s =>
    if c ∈ ['d', 's', 'w'] then some (.set, s)
    else if c ∈ ['b', 'B', '<', '>'] then some (.place true, s)
    else if c ∈ ['A', 'z'] then some (.place false, s)
    else match controlLetters.lookup c with
      | some control => some (.char control, s)
      | none => if c.toNat < 0x80 && !c.isAlphanum then some (.char c, s) else none

end EvmScope.Log.Pattern

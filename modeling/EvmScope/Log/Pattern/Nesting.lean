/-!
# Nesting of patterns

A pattern stands for a tree. A group, a repetition and a set in brackets are nodes above what they
hold; several items in a row are one node, and so are alternatives. A pattern whose tree is too high
cannot be used, so a reader keeps the heights of what it has read.
-/

namespace EvmScope.Log.Pattern

set_option autoImplicit false

/-- The greatest height of the tree of a pattern. -/
def heightLimit : Nat := 250

/-- The heights of items in a row. -/
structure Row where
  count : Nat := 0
  last : Nat := 0
  /-- The greatest height in front of the last item. -/
  others : Nat := 0
  deriving DecidableEq, Repr

namespace Row

/-- Puts an item of some height at the end. -/
def push (r : Row) (height : Nat) : Row :=
  ⟨r.count + 1, height, max r.others r.last⟩

def repeatLast (r : Row) : Row :=
  { r with last := r.last + 1 }

/-- The height of a row. A single item stands for itself. -/
def height (r : Row) : Nat :=
  if r.count ≤ 1 then r.last else max r.others r.last + 1

end Row

/-- What an opening mark and its closing mark have between them: a row, and the height of what a
mark has separated from it. -/
structure Layer where
  before : Option Nat := none
  row : Row := {}
  deriving DecidableEq, Repr

namespace Layer

/-- Puts an item of some height at the end. -/
def push (l : Layer) (height : Nat) : Layer :=
  { l with row := l.row.push height }

def repeatLast (l : Layer) : Layer :=
  { l with row := l.row.repeatLast }

/-- The height of all that a layer has. -/
def height (l : Layer) : Nat :=
  match l.before with
  | some h => max h l.row.height + 1
  | none => l.row.height

/-- Begins another alternative. All alternatives are below the same node. -/
def alternative (l : Layer) : Layer :=
  { before := some (max (l.before.getD 0) l.row.height) }

/-- Begins the right side of an operation between sets. The left side is all that stands in front. -/
def operand (l : Layer) : Layer :=
  { before := some l.height }

end Layer

end EvmScope.Log.Pattern

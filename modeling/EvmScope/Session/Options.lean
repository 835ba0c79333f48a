import EvmScope.Bytes

/-!
# Options of a call

The options by which a user describes a call, as they are written: numbers are numbers already, all
else is text that has yet to be read. A draft is filled in piece by piece; building it demands every
field.
-/

namespace EvmScope

set_option autoImplicit false

structure CallOptions where
  target : List Char
  number : Nat
  coinbase : List Char
  difficulty : Nat
  gaslimit : Nat
  gasprice : Nat
  input : List Char
  origin : List Char
  value : Nat
  /-- Whether the trace is written as JSON. -/
  json : Bool
  deriving DecidableEq, Repr

/-- The options of a call as far as they are known. -/
structure CallOptions.Draft where
  target : Option (List Char) := none
  number : Option Nat := none
  coinbase : Option (List Char) := none
  difficulty : Option Nat := none
  gaslimit : Option Nat := none
  gasprice : Option Nat := none
  input : Option (List Char) := none
  origin : Option (List Char) := none
  value : Option Nat := none
  json : Option Bool := none
  deriving DecidableEq, Repr

namespace CallOptions

/-- The options that hold where a command line says nothing. -/
def default : CallOptions where
  target := []
  number := 0
  coinbase := "0x0000000000000000000000000000000000000000".toList
  difficulty := 0
  gaslimit := 100000
  gasprice := 1
  input := []
  origin := "0x0000000000000000000000000000000000000000".toList
  value := 0
  json := false

instance : Inhabited CallOptions := ⟨default⟩

namespace Draft

def ofOptions (o : CallOptions) : Draft where
  target := o.target
  number := o.number
  coinbase := o.coinbase
  difficulty := o.difficulty
  gaslimit := o.gaslimit
  gasprice := o.gasprice
  input := o.input
  origin := o.origin
  value := o.value
  json := o.json

/-- The draft with which those begin who fill it in by themselves. It has defaults of its own, and
`start_eq` says that they are those of a command line. -/
def start : Draft where
  target := some []
  number := some 0
  coinbase := some "0x0000000000000000000000000000000000000000".toList
  difficulty := some 0
  gaslimit := some 100000
  gasprice := some 1
  input := some []
  origin := some "0x0000000000000000000000000000000000000000".toList
  value := some 0
  json := some false

/-- The fields of one draft where it has any, and those of another elsewhere. -/
def orElse (d e : Draft) : Draft where
  target := d.target <|> e.target
  number := d.number <|> e.number
  coinbase := d.coinbase <|> e.coinbase
  difficulty := d.difficulty <|> e.difficulty
  gaslimit := d.gaslimit <|> e.gaslimit
  gasprice := d.gasprice <|> e.gasprice
  input := d.input <|> e.input
  origin := d.origin <|> e.origin
  value := d.value <|> e.value
  json := d.json <|> e.json

/-- A draft without some field cannot be built. -/
structure Missing where
  field : String
  deriving DecidableEq, Repr

def Missing.message (e : Missing) : String :=
  s!"`{e.field}` must be initialized"

def demand {α : Type} (field : String) : Option α → Except Missing α
  | some a => .ok a
  | none => .error ⟨field⟩

/-- The options that a draft holds, or the first of its fields that is missing. -/
def build (d : Draft) : Except Missing CallOptions := do
  pure
    { target := ← demand "target" d.target
      number := ← demand "number" d.number
      coinbase := ← demand "coinbase" d.coinbase
      difficulty := ← demand "difficulty" d.difficulty
      gaslimit := ← demand "gaslimit" d.gaslimit
      gasprice := ← demand "gasprice" d.gasprice
      input := ← demand "input" d.input
      origin := ← demand "origin" d.origin
      value := ← demand "value" d.value
      json := ← demand "json" d.json }

/-- The options that a draft holds, with the defaults where it holds nothing. -/
def complete (d : Draft) : CallOptions where
  target := d.target.getD CallOptions.default.target
  number := d.number.getD CallOptions.default.number
  coinbase := d.coinbase.getD CallOptions.default.coinbase
  difficulty := d.difficulty.getD CallOptions.default.difficulty
  gaslimit := d.gaslimit.getD CallOptions.default.gaslimit
  gasprice := d.gasprice.getD CallOptions.default.gasprice
  input := d.input.getD CallOptions.default.input
  origin := d.origin.getD CallOptions.default.origin
  value := d.value.getD CallOptions.default.value
  json := d.json.getD CallOptions.default.json

/-- A draft of complete options holds just these. -/
theorem build_ofOptions (o : CallOptions) : (ofOptions o).build = .ok o := rfl

/-- A field is never missing behind a draft that has it. -/
theorem demand_orElse {α : Type} (field : String) (known : Option α) (a : α) :
    demand field (known <|> some a) = .ok (known.getD a) := by
  cases known <;> rfl

/-- What holds by default is the same on a command line and in a draft. -/
theorem start_eq : start = ofOptions CallOptions.default := rfl

/-- The defaults of the builder are those of the command line: what a draft leaves open is filled in alike. -/
theorem build_orElse_start (d : Draft) : (d.orElse start).build = .ok d.complete := by
  simp only [start_eq, build, orElse, ofOptions, demand_orElse]
  rfl

end Draft

end CallOptions

/-- The options of a disassembly, as far as they are known. -/
structure ListingDraft where
  target : Option (List Char) := none
  deriving DecidableEq, Repr

namespace ListingDraft

/-- The draft that begins with an empty target. -/
def start : ListingDraft :=
  ⟨some []⟩

def build (d : ListingDraft) : Except CallOptions.Draft.Missing (List Char) :=
  CallOptions.Draft.demand "target" d.target

end ListingDraft

end EvmScope

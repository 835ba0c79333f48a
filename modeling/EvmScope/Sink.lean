import EvmScope.Bytes

/-!
# Sinks

Where output goes. A sink may take only a limited number of bytes and may fail when it is flushed;
what it has taken stays, also when a write fails halfway.
-/

namespace EvmScope

set_option autoImplicit false

/-- Why a sink has not done what it was asked for. -/
inductive SinkError
  | full
  | flushFailed
  deriving DecidableEq, Repr

def SinkError.message : SinkError → String
  | full => "sink is full"
  | flushFailed => "flush failed"

/-- A place for output. -/
structure Sink where
  /-- What it has taken. -/
  taken : Array UInt8 := #[]
  /-- How many bytes it will still take, if that is limited. -/
  room : Option Nat := none
  flushFails : Bool := false
  /-- How often it has been flushed. -/
  flushes : Nat := 0

namespace Sink

/-- The sink after some bytes have been offered to it, and whether it took them all. -/
def write (s : Sink) (bytes : Bytes) : Option SinkError × Sink :=
  match s.room with
  | none => (none, { s with taken := s.taken ++ bytes })
  | some room =>
    let sink :=
      { s with taken := s.taken ++ bytes.take room, room := some (room - bytes.length) }
    (if bytes.length ≤ room then none else some .full, sink)

/-- The sink after it has been flushed, and whether that went well. -/
def flush (s : Sink) : Option SinkError × Sink :=
  (if s.flushFails then some .flushFailed else none, { s with flushes := s.flushes + 1 })

end Sink

end EvmScope

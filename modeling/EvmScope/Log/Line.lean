import EvmScope.Json.Value
import EvmScope.Log.Filter

/-!
# Log lines

Messages as the lines in which they are written, for people or as JSON. What a clock has to say is
left to the stamp.
-/

namespace EvmScope.Log

set_option autoImplicit false

/-- What the clock adds to log lines. -/
structure Stamp where
  /-- The time of a line. -/
  time : String
  /-- The time that something took. -/
  elapsed : String
  deriving DecidableEq, Repr

/-- The number by which a terminal knows the colour of a level. -/
def Level.colour : Level → Nat
  | error => 31
  | warn => 33
  | info => 32
  | debug => 34
  | trace => 35

/-- A text between the codes that switch a display mode of a terminal on and off. -/
def inMode (mode : Nat) (s : List Char) : List Char :=
  '\x1b' :: '[' :: Text.decimal mode ++ 'm' :: s ++ ['\x1b', '[', '0', 'm']

/-- The display mode for what matters less. -/
def dimmed : Nat := 2

/-- A character of a message as a line for people shows it: control characters that a terminal might
obey are shown by their codes. -/
def plainly (c : Char) : List Char :=
  let n := c.toNat
  if n ∈ [0x07, 0x08, 0x0c, 0x1b, 0x7f] then '\\' :: 'x' :: Text.hexPadded 2 n
  else if 0x80 ≤ n ∧ n < 0xa0 then '\\' :: 'u' :: '\x7b' :: Nat.toDigits 16 n ++ ['\x7d']
  else [c]

/-- A message as a line for people. -/
def terminalLine (coloured : Bool) (stamp : Stamp) (m : Message) : List Char :=
  let time := stamp.time.toList
  let level := Text.padLeft 5 ' ' m.level.name.toList
  (if coloured then inMode dimmed time else time) ++
    ' ' :: (if coloured then inMode m.level.colour level else level) ++
    ' ' :: (m.body.text stamp.elapsed).toList.flatMap plainly ++ ['\n']

/-- A message as a line of JSON. -/
def jsonLine (stamp : Stamp) (m : Message) : List Char :=
  JsonValue.text
    (.object
      [("timestamp".toList, .string stamp.time.toList),
        ("level".toList, .string m.level.name.toList),
        ("fields".toList,
          .object [("message".toList, .string (m.body.text stamp.elapsed).toList)]),
        ("target".toList, .string m.origin.path.toList)]) ++ ['\n']

def line (format : Format) (coloured : Bool) (stamp : Stamp) (m : Message) : List Char :=
  match format with
  | .terminal => terminalLine coloured stamp m
  | .json => jsonLine stamp m

end EvmScope.Log

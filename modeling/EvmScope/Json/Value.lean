import EvmScope.Text.Digits

/-!
# JSON values

Values as far as traces and log lines need them, and their text: no blanks, members in the order
given, and in strings only those characters escaped that have to be.
-/

namespace EvmScope

set_option autoImplicit false

inductive JsonValue
  | number (n : Nat)
  | string (s : List Char)
  | array (items : List JsonValue)
  | object (members : List (List Char × JsonValue))

namespace JsonValue

/-- A character as it stands in a string: the quote, the backslash and the control characters are
escaped, five of the latter by a letter and the others by their code. -/
def escape (c : Char) : List Char :=
  if c = '"' then ['\\', '"']
  else if c = '\\' then ['\\', '\\']
  else if c.toNat = 0x08 then ['\\', 'b']
  else if c.toNat = 0x09 then ['\\', 't']
  else if c.toNat = 0x0a then ['\\', 'n']
  else if c.toNat = 0x0c then ['\\', 'f']
  else if c.toNat = 0x0d then ['\\', 'r']
  else if c.toNat < 0x20 then '\\' :: 'u' :: Text.hexPadded 4 c.toNat
  else [c]

def quote (s : List Char) : List Char :=
  '"' :: s.flatMap escape ++ ['"']

mutual

def text : JsonValue → List Char
  | .number n => Text.decimal n
  | .string s => quote s
  | .array items => '[' :: itemsText items ++ [']']
  | .object members => '{' :: membersText members ++ ['}']

/-- The items of an array, with commas between them. -/
def itemsText : List JsonValue → List Char
  | [] => []
  | [v] => text v
  | v :: vs => text v ++ ',' :: itemsText vs

/-- The members of an object, with commas between them. -/
def membersText : List (List Char × JsonValue) → List Char
  | [] => []
  | [(k, v)] => quote k ++ ':' :: text v
  | (k, v) :: ms => quote k ++ ':' :: text v ++ ',' :: membersText ms

end

end JsonValue

end EvmScope

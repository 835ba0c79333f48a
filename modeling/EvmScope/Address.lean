import EvmScope.Hex
import EvmScope.Word

/-!
# Addresses

The 160-bit addresses of accounts, as bytes and words, and how an address is read from text: fewer
than twenty bytes are filled up with zeros in front, more are refused.
-/

namespace EvmScope

set_option autoImplicit false

abbrev Address := BitVec 160

namespace Address

def toBytes (a : Address) : Bytes :=
  Bytes.ofNat 20 a.toNat

/-- The address that a byte string stands for; of more than twenty bytes the last twenty count. -/
def ofBytes (bs : Bytes) : Address :=
  BitVec.ofNat 160 bs.toNat

/-- The word with an address in its low bits. -/
def toWord (a : Address) : Word :=
  a.setWidth 256

/-- The address in the low bits of a word. -/
def ofWord (w : Word) : Address :=
  w.setWidth 160

/-- Why a text is not the form of an address. -/
inductive Error
  | hex (cause : Hex.Error)
  /-- The text, trimmed, stands for more than twenty bytes. -/
  | tooLong (text : List Char)
  deriving DecidableEq, Repr

def Error.message : Error → String
  | .hex cause => cause.message
  | .tooLong text => s!"invalid address: '{String.ofList text}' is longer than 20 bytes"

def decode (s : List Char) : Except Error Address :=
  match Hex.decode s with
  | .error e => .error (.hex e)
  | .ok bs => if bs.length > 20 then .error (.tooLong (Text.trim s)) else .ok (ofBytes bs)

end Address

end EvmScope

import EvmScope.FileSystem
import EvmScope.Hex
import EvmScope.Log.Message

/-!
# Targets

A target names bytecode, either by its hexadecimal form or by a file that holds that form. A file
comes first, even if its name would do as hexadecimal, and blanks in it do not count.
-/

namespace EvmScope.Target

set_option autoImplicit false

/-- Why a target has no bytecode. -/
inductive Error
  | hex (cause : Hex.Error)
  | unreadable (cause : FileSystem.ReadError)
  deriving DecidableEq, Repr

namespace Error

def message : Error → String
  | hex cause => s!"Decode error: {cause.message}"
  | unreadable cause => s!"Internal error: {cause.message}"

end Error

/-- The file that a target names, if it names one. -/
def file? (fs : FileSystem) (target : List Char) : Option (List Char) :=
  let path := Text.trim target
  if path ≠ [] ∧ (fs path).isSome then some path else none

/-- The bytecode that a target names. -/
def resolve (fs : FileSystem) (target : List Char) : Except Error Bytes :=
  match file? fs target with
  | some path =>
    match fs.readText path with
    | .ok text => (Hex.decode (Text.withoutBlanks text)).mapError .hex
    | .error e => .error (.unreadable e)
  | none => (Hex.decode (Text.trim target)).mapError .hex

open Log in
/-- What is logged while a target is resolved. -/
def messages (fs : FileSystem) (target : List Char) : List Message :=
  match file? fs target with
  | none => []
  | some path =>
    let path := String.ofList path
    say .debug .bytecode s!"reading bytecode from file '{path}'" ::
      match resolve fs target with
      | .ok _ => []
      | .error (.unreadable _) => [say .error .bytecode s!"failed to open file '{path}' ."]
      | .error (.hex _) =>
        [say .error .bytecode s!"file '{path}' doesn't contain valid bytecode."]

end EvmScope.Target

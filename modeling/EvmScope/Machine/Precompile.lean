import EvmScope.Blake2b
import EvmScope.Bn254
import EvmScope.Digest
import EvmScope.Gas
import EvmScope.Keccak
import EvmScope.Machine.Fault
import EvmScope.Secp256k1
import EvmScope.World

/-!
# Precompiled contracts

Calls to a few low addresses run no code but a built-in function. The point evaluation of Cancun needs a
library that is not there: a call to it aborts the whole transaction.
-/

namespace EvmScope

set_option autoImplicit false

/-- Why a transaction is given up in the middle. -/
inductive Abort
  | pointEvaluation
  deriving DecidableEq, Repr

def Abort.message : Abort → String
  | .pointEvaluation => "c-kzg feature is not enabled"

namespace Precompile

/-- What a built-in function makes of a call: its output and the gas left, a fault, or the end of the
whole transaction. -/
inductive Answer
  | output (gas : Nat) (data : Array UInt8)
  | failed (fault : Fault)
  | aborted (why : Abort)

/-- Takes the price of a built-in function, and hands back its output if there is gas enough. A function
without an output rejects its input. -/
def charge (price gas : Nat) (data? : Option Bytes) : Answer :=
  if gas < price then .failed .precompileOutOfGas
  else match data? with
    | some data => .output (gas - price) data.toArray
    | none => .failed .precompileRejected

/-- The number of `length` bytes of an input from `start` on, with zeros where it has ended. -/
def number (input : Array UInt8) (start length : Nat) : Nat :=
  Bytes.toNat (Bytes.window input start length).toList

/-- Word `i` of an input. -/
def word (input : Array UInt8) (i : Nat) : Nat :=
  number input (32 * i) 32

/-- The address of the account that owns a public key: the end of the hash of its coordinates. -/
def ownerOf (key : Nat × Nat) : Address :=
  .ofBytes (Keccak.hash (Bytes.ofNat 32 key.1 ++ Bytes.ofNat 32 key.2).toArray)

/-- The signer of a hash as a word, or nothing. The input has four words: the hash, 27 or 28 by the
parity of a point, and the two parts of the signature. -/
def recoverSigner (input : Array UInt8) : Bytes :=
  let mark := word input 1
  if mark ≠ 27 ∧ mark ≠ 28 then []
  else match Secp256k1.recover? (word input 0) (word input 2) (word input 3) (mark = 28) with
    | some key => Bytes.ofNat 32 (ownerOf key).toNat
    | none => []

section Exponentiation

/-- The price of a product of two numbers of some length. -/
def productPrice (fork : Hardfork) (length : Nat) : Nat :=
  if .berlin ≤ fork then ((length + 7) / 8) * ((length + 7) / 8)
  else if length ≤ 64 then length * length
  else if length ≤ 1024 then length * length / 4 + 96 * length - 3072
  else length * length / 16 + 480 * length - 199680

/-- How many products a power takes, by the length of its exponent and the number that the exponent begins
with. -/
def productCount (length head : Nat) : Nat :=
  let bits := if head = 0 then 0 else head.log2
  max 1 (if length ≤ 32 then bits else Gas.capped (8 * (length - 32) + bits))

/-- The price that each power has at least. -/
def leastPrice (fork : Hardfork) : Nat :=
  if .berlin ≤ fork then 200 else 0

/-- The price of a power, by the length of the numbers and what the exponent begins with. -/
def powerPrice (fork : Hardfork) (length exponentLength head : Nat) : Nat :=
  let divisor := if .berlin ≤ fork then 3 else 20
  max (leastPrice fork)
    (Gas.capped (productPrice fork length * productCount exponentLength head / divisor))

/-- A power modulo a number, by the number of bits of the exponent. Modulo zero it is zero. -/
def powerModulo (bits base exponent modulus : Nat) : Nat :=
  if modulus = 0 then 0 else (power 1 bits (Residue.ofNat base : Residue modulus) exponent).toNat

/-- The power of a base modulo a number. The input has the lengths of base, exponent and modulus, and then
the three themselves. Lengths that are no sizes are rejected, unless there is nothing to compute. -/
def raise (fork : Hardfork) (gas : Nat) (input : Array UInt8) : Answer :=
  let baseLength := word input 0
  let exponentLength := word input 1
  let modulusLength := word input 2
  if gas < leastPrice fork then .failed .precompileOutOfGas
  else if baseLength > Gas.largest ∨ modulusLength > Gas.largest then .failed .precompileRejected
  else if baseLength = 0 ∧ modulusLength = 0 then charge (leastPrice fork) gas (some [])
  else if exponentLength > Gas.largest then .failed .precompileRejected
  else
    let head := number input (96 + baseLength) (min exponentLength 32)
    let price := powerPrice fork (max baseLength modulusLength) exponentLength head
    -- who pays too little does not have the power computed
    if gas < price then .failed .precompileOutOfGas
    else
      let base := number input 96 baseLength
      let exponent := number input (96 + baseLength) exponentLength
      let modulus := number input (96 + baseLength + exponentLength) modulusLength
      charge price gas
        (some (Bytes.ofNat modulusLength (powerModulo (8 * exponentLength) base exponent modulus)))

end Exponentiation

section Curve

open Bn254

def coordinate? (n : Nat) : Option Base :=
  if n < prime then some (.ofNat n) else none

/-- A point of the curve by two coordinates, of which zeros stand for the one at infinity. -/
def curvePoint? (x y : Nat) : Option (Point Base) := do
  let x ← coordinate? x
  let y ← coordinate? y
  let p := if x = 0 ∧ y = 0 then .infinity else Point.affine x y
  if isOnCurve p then some p else none

/-- A point of the twist by the parts of its coordinates. -/
def twistPoint? (xIm xRe yIm yRe : Nat) : Option (Point Quadratic) := do
  let x : Quadratic := ⟨← coordinate? xRe, ← coordinate? xIm⟩
  let y : Quadratic := ⟨← coordinate? yRe, ← coordinate? yIm⟩
  let q := if x = 0 ∧ y = 0 then .infinity else Point.affine x y
  if isOnTwist q then some q else none

def pointBytes : Point Base → Bytes
  | .infinity => List.replicate 64 0
  | .affine x y => Bytes.ofNat 32 x.toNat ++ Bytes.ofNat 32 y.toNat

def addPoints? (input : Array UInt8) : Option Bytes := do
  let p ← curvePoint? (word input 0) (word input 1)
  let q ← curvePoint? (word input 2) (word input 3)
  some (pointBytes (p.add q))

def multiplyPoint? (input : Array UInt8) : Option Bytes := do
  let p ← curvePoint? (word input 0) (word input 1)
  some (pointBytes (p.multiple 256 (word input 2)))

/-- One, if the points of the input pair to one, and zero if they do not. Each pair takes six words. -/
def pairPoints? (input : Array UInt8) : Option Bytes := do
  if input.size % 192 ≠ 0 then none
  let pairs ← (List.range (input.size / 192)).mapM fun k => do
    let part (i : Nat) := word input (6 * k + i)
    some (← curvePoint? (part 0) (part 1), ← twistPoint? (part 2) (part 3) (part 4) (part 5))
  some (Bytes.ofNat 32 (if pairsToOne pairs then 1 else 0))

end Curve

/-- The number of `length` bytes of an input from `start` on, the least significant first. -/
def littleNumber (input : Array UInt8) (start length : Nat) : Nat :=
  Bytes.toNat (Bytes.window input start length).toList.reverse

/-- The compression of BLAKE2b. The input has the number of rounds, the state, the block, the number of
bytes so far, and whether the block is the last one. -/
def compress (gas : Nat) (input : Array UInt8) : Answer :=
  if input.size ≠ 213 then .failed .precompileRejected
  else
    let rounds := number input 0 4
    let mark := input.getD 212 0
    let part (start i : Nat) := UInt64.ofNat (littleNumber input (start + 8 * i) 8)
    if gas < rounds then .failed .precompileOutOfGas
    else if mark ≠ 0 ∧ mark ≠ 1 then .failed .precompileRejected
    else
      let state := Blake2b.compress rounds (Vector.ofFn fun i => part 4 i)
        (Vector.ofFn fun i => part 68 i) (part 196 0) (part 204 0) (mark = 1)
      charge rounds gas
        (some (state.toList.flatMap fun w => (Bytes.ofNat 8 w.toNat).reverse))

/-- A built-in function, with the rules that brought it. -/
structure Builtin where
  since : Hardfork
  call : (fork : Hardfork) → (gas : Nat) → (input : Array UInt8) → Answer

/-- The built-in functions, which have the addresses from one on. -/
def builtins : List Builtin :=
  [⟨.frontier, fun _ gas input => charge 3000 gas (some (recoverSigner input))⟩,
    ⟨.frontier, fun _ gas input =>
      charge (60 + 12 * Gas.words input.size) gas (some (Sha256.hash input))⟩,
    ⟨.frontier, fun _ gas input =>
      charge (600 + 120 * Gas.words input.size) gas
        (some (List.replicate 12 0 ++ Ripemd160.hash input))⟩,
    ⟨.frontier, fun _ gas input => charge (15 + 3 * Gas.words input.size) gas (some input.toList)⟩,
    ⟨.byzantium, raise⟩,
    ⟨.byzantium, fun fork gas input =>
      charge (if .istanbul ≤ fork then 150 else 500) gas (addPoints? input)⟩,
    ⟨.byzantium, fun fork gas input =>
      charge (if .istanbul ≤ fork then 6000 else 40000) gas (multiplyPoint? input)⟩,
    ⟨.byzantium, fun fork gas input =>
      let pairs := input.size / 192
      charge (if .istanbul ≤ fork then 45000 + 34000 * pairs else 100000 + 80000 * pairs) gas
        (pairPoints? input)⟩,
    ⟨.istanbul, fun _ gas input => compress gas input⟩,
    ⟨.cancun, fun _ _ _ => .aborted .pointEvaluation⟩]

/-- The built-in function of an address, if it has one. -/
def builtin? (fork : Hardfork) (a : Address) : Option Builtin :=
  if a = 0 then none else (builtins[a.toNat - 1]?).filter fun b => b.since ≤ fork

/-- Whether an address belongs to a built-in function. -/
def isPrecompile (fork : Hardfork) (a : Address) : Bool :=
  (builtin? fork a).isSome

/-- The addresses of the built-in functions. -/
def addresses (fork : Hardfork) : List Address :=
  (List.range' 1 (builtins.countP fun b => b.since ≤ fork)).map fun n => BitVec.ofNat 160 n

end Precompile

end EvmScope

import EvmScope.Hardfork

/-!
# Gas

What the machine charges, as far as it depends on more than the opcode: on sizes, on the version of
the rules, and on whether an account or slot has been met before in the transaction (is warm). Sizes
and amounts of gas have 64 bits; a sum or product that has more stops at the largest number.
-/

namespace EvmScope.Gas

set_option autoImplicit false

/-- The largest size and the largest amount of gas. -/
def largest : Nat := 18446744073709551615

/-- A sum or product as far as 64 bits go. Sums may be capped at their end, since they only grow. -/
def capped (n : Nat) : Nat :=
  min n largest

/-- The number of 32-byte words that hold `n` bytes. -/
def words (n : Nat) : Nat :=
  capped (n + 31) / 32

/-- The price of a memory of `w` words, of which a frame pays the growth. -/
def memory (w : Nat) : Nat :=
  3 * w + capped (w * w) / 512

/-- The number of bytes of a number without leading zeros; none for zero. -/
def byteLength (n : Nat) : Nat :=
  if n = 0 then 0 else n.log2 / 8 + 1

/-- EXP, by the size of the exponent. -/
def exp (fork : Hardfork) (exponent : Nat) : Nat :=
  10 + (if .spuriousDragon ≤ fork then 50 else 10) * byteLength exponent

/-- SHA3 of `n` bytes. -/
def keccak (n : Nat) : Nat :=
  30 + 6 * words n

/-- A copy of `n` bytes into memory, on top of `base`. -/
def copy (base n : Nat) : Nat :=
  base + 3 * words n

/-- A log entry with `topics` topics and `n` bytes of data. -/
def log (topics n : Nat) : Nat :=
  375 + 8 * n + 375 * topics

/-- Access to an account since Berlin. -/
def accountAccess (cold : Bool) : Nat :=
  if cold then 2600 else 100

def balance (fork : Hardfork) (cold : Bool) : Nat :=
  if .berlin ≤ fork then accountAccess cold
  else if .istanbul ≤ fork then 700
  else if .tangerine ≤ fork then 400
  else 20

/-- EXTCODESIZE, and EXTCODECOPY without the copy. -/
def extCode (fork : Hardfork) (cold : Bool) : Nat :=
  if .berlin ≤ fork then accountAccess cold
  else if .tangerine ≤ fork then 700
  else 20

def extCodeHash (fork : Hardfork) (cold : Bool) : Nat :=
  if .berlin ≤ fork then accountAccess cold
  else if .istanbul ≤ fork then 700
  else 400

def sload (fork : Hardfork) (cold : Bool) : Nat :=
  if .berlin ≤ fork then (if cold then 2100 else 100)
  else if .istanbul ≤ fork then 800
  else if .tangerine ≤ fork then 200
  else 50

/-- What SSTORE leaves a frame with at least since Istanbul; also what a call that moves value adds
to the gas it forwards. -/
def stipend : Nat := 2300

/-- SSTORE of `new` into a slot that holds `present` and was zero before the transaction. -/
def sstore (fork : Hardfork) (cold presentIsZero newIsZero unchanged : Bool) : Nat :=
  if .istanbul ≤ fork then
    (if unchanged then sload fork false
      else if presentIsZero then 20000
      else sload fork false) + (if .berlin ≤ fork ∧ cold then 2100 else 0)
  else if presentIsZero ∧ ¬newIsZero then 20000
  else 5000

/-- What SSTORE adds to the refund when it clears a slot that was zero before the transaction. -/
def sstoreRefund (fork : Hardfork) (presentIsZero newIsZero : Bool) : Nat :=
  if newIsZero ∧ ¬presentIsZero then
    (if .istanbul ≤ fork then 20000 - sload fork false else 15000)
  else 0

/-- SELFDESTRUCT. `newAccount` says that the beneficiary does not exist yet and has to be made. -/
def selfDestruct (fork : Hardfork) (cold newAccount : Bool) : Nat :=
  if .tangerine ≤ fork then
    5000 + (if newAccount then 25000 else 0) + (if .berlin ≤ fork ∧ cold then 2600 else 0)
  else 0

/-- What SELFDESTRUCT adds to the refund when the account had not been destroyed before. -/
def selfDestructRefund (fork : Hardfork) : Nat :=
  if .london ≤ fork then 0 else 24000

/-- The calls, without the gas that they forward. -/
def call (fork : Hardfork) (cold movesValue newAccount : Bool) : Nat :=
  (if .berlin ≤ fork then accountAccess cold
    else if .tangerine ≤ fork then 700
    else 40) +
  (if movesValue then 9000 else 0) +
  (if newAccount ∧ (movesValue ∨ ¬(Hardfork.spuriousDragon ≤ fork)) then 25000 else 0)

/-- The gas that a frame hands to another one: since Tangerine it keeps a 64th part. -/
def forwardable (fork : Hardfork) (remaining : Nat) : Nat :=
  if .tangerine ≤ fork then remaining - remaining / 64 else remaining

/-- The gas forwarded by a call that asks for `requested`. -/
def forwarded (fork : Hardfork) (remaining requested : Nat) : Nat :=
  if .tangerine ≤ fork then min (forwardable fork remaining) requested else requested

/-- CREATE, and CREATE2 without its hash. -/
def create : Nat := 32000

/-- CREATE2 with an init code of `n` bytes. -/
def create2 (n : Nat) : Nat :=
  create + 6 * words n

/-- The charge for the length of an init code since Shanghai. -/
def initCode (n : Nat) : Nat :=
  2 * words n

/-- Storing the code of a new account. -/
def codeDeposit (n : Nat) : Nat :=
  200 * n

/-- What a transaction pays before its code runs: a base and a price for every byte of input, which
is lower for zeros. -/
def intrinsic (fork : Hardfork) (input : List UInt8) : Nat :=
  let zeros := input.count 0
  21000 + 4 * zeros + (if .istanbul ≤ fork then 16 else 68) * (input.length - zeros)

/-- The largest part of the gas spent that is paid back: a half, since London a fifth. -/
def refundQuotient (fork : Hardfork) : Nat :=
  if .london ≤ fork then 5 else 2

end EvmScope.Gas

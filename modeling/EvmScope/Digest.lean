import EvmScope.Bytes

/-!
# SHA-256 and RIPEMD-160

Two hash functions of one kind: a message is filled up to blocks of 64 bytes, its length at the end, and
block by block it changes a state of a few words. They differ in the order of the bytes in a word and in
what a block does to the state.
-/

namespace EvmScope

set_option autoImplicit false

namespace Digest

/-- The bits of a word, rotated toward the high end. -/
def rotate (w n : UInt32) : UInt32 :=
  (w <<< n) ||| (w >>> (32 - n))

/-- The order of the bytes in a word. -/
inductive Order
  | big
  | little

def Order.arrange : Order → Bytes → Bytes
  | big, bs => bs
  | little, bs => bs.reverse

/-- A message, a mark, zeros, and the number of its bits. -/
def padded (order : Order) (m : Array UInt8) : Array UInt8 :=
  let zeros := (119 - m.size % 64) % 64
  m.push 0x80 ++ Array.replicate zeros 0 ++ (order.arrange (Bytes.ofNat 8 (8 * m.size))).toArray

/-- Word `i` of a block. -/
def word (order : Order) (m : Array UInt8) (block i : Nat) : UInt32 :=
  UInt32.ofNat (Bytes.toNat (order.arrange (Bytes.window m (64 * block + 4 * i) 4).toList))

/-- The hash of a message, for a first state and what a block of sixteen words does to a state. -/
def hash {n : Nat} (order : Order) (first : Vector UInt32 n)
    (compress : Vector UInt32 16 → Vector UInt32 n → Vector UInt32 n) (m : Array UInt8) : Bytes :=
  let m := padded order m
  let last := (List.range (m.size / 64)).foldl
    (fun state block => compress (Vector.ofFn fun i => word order m block i) state) first
  last.toList.flatMap fun w => order.arrange (Bytes.ofNat 4 w.toNat)

end Digest

namespace Sha256

open Digest

def first : Vector UInt32 8 :=
  #v[0x6a09e667, 0xbb67ae85, 0x3c6ef372, 0xa54ff53a, 0x510e527f, 0x9b05688c, 0x1f83d9ab, 0x5be0cd19]

def roundConstants : List UInt32 :=
  [0x428a2f98, 0x71374491, 0xb5c0fbcf, 0xe9b5dba5, 0x3956c25b, 0x59f111f1, 0x923f82a4, 0xab1c5ed5,
   0xd807aa98, 0x12835b01, 0x243185be, 0x550c7dc3, 0x72be5d74, 0x80deb1fe, 0x9bdc06a7, 0xc19bf174,
   0xe49b69c1, 0xefbe4786, 0x0fc19dc6, 0x240ca1cc, 0x2de92c6f, 0x4a7484aa, 0x5cb0a9dc, 0x76f988da,
   0x983e5152, 0xa831c66d, 0xb00327c8, 0xbf597fc7, 0xc6e00bf3, 0xd5a79147, 0x06ca6351, 0x14292967,
   0x27b70a85, 0x2e1b2138, 0x4d2c6dfc, 0x53380d13, 0x650a7354, 0x766a0abb, 0x81c2c92e, 0x92722c85,
   0xa2bfe8a1, 0xa81a664b, 0xc24b8b70, 0xc76c51a3, 0xd192e819, 0xd6990624, 0xf40e3585, 0x106aa070,
   0x19a4c116, 0x1e376c08, 0x2748774c, 0x34b0bcb5, 0x391c0cb3, 0x4ed8aa4a, 0x5b9cca4f, 0x682e6ff3,
   0x748f82ee, 0x78a5636f, 0x84c87814, 0x8cc70208, 0x90befffa, 0xa4506ceb, 0xbef9a3f7, 0xc67178f2]

/-- The exclusive or of a word rotated in two ways, and a third time shifted. -/
def scatter (w a b shift : UInt32) : UInt32 :=
  rotate w (32 - a) ^^^ rotate w (32 - b) ^^^ (w >>> shift)

/-- The exclusive or of a word rotated in three ways. -/
def mix (w a b c : UInt32) : UInt32 :=
  rotate w (32 - a) ^^^ rotate w (32 - b) ^^^ rotate w (32 - c)

/-- The sixteen words behind some sixteen words of a schedule, of which the first one falls away. -/
def slide (w : Vector UInt32 16) : Vector UInt32 16 :=
  let next := w[0] + scatter w[1] 7 18 3 + w[9] + scatter w[14] 17 19 10
  Vector.ofFn fun i => if h : i.val < 15 then w[i.val + 1] else next

def round (s : Vector UInt32 8) (constant word : UInt32) : Vector UInt32 8 :=
  let choice := (s[4] &&& s[5]) ^^^ (~~~ s[4] &&& s[6])
  let majority := (s[0] &&& s[1]) ^^^ (s[0] &&& s[2]) ^^^ (s[1] &&& s[2])
  let t := s[7] + mix s[4] 6 11 25 + choice + constant + word
  #v[t + mix s[0] 2 13 22 + majority, s[0], s[1], s[2], s[3] + t, s[4], s[5], s[6]]

def compress (block : Vector UInt32 16) (state : Vector UInt32 8) : Vector UInt32 8 :=
  let (last, _) := roundConstants.foldl (fun (s, w) c => (round s c w[0], slide w)) (state, block)
  state.zipWith (· + ·) last

def hash (m : Array UInt8) : Bytes :=
  Digest.hash .big first compress m

end Sha256

namespace Ripemd160

open Digest

def first : Vector UInt32 5 :=
  #v[0x67452301, 0xefcdab89, 0x98badcfe, 0x10325476, 0xc3d2e1f0]

/-- The functions of the five rounds. -/
def combine (round : Nat) (x y z : UInt32) : UInt32 :=
  match round with
  | 0 => x ^^^ y ^^^ z
  | 1 => (x &&& y) ||| (~~~ x &&& z)
  | 2 => (x ||| ~~~ y) ^^^ z
  | 3 => (x &&& z) ||| (y &&& ~~~ z)
  | _ => x ^^^ (y ||| ~~~ z)

/-- One of the two lines of five rounds: the constants, and for each of sixteen steps the word of the block
and how far its sum is rotated. -/
structure Line where
  combine : Nat → UInt32 → UInt32 → UInt32 → UInt32
  constants : List UInt32
  words : List (List Nat)
  shifts : List (List UInt32)

def left : Line where
  combine := combine
  constants := [0x00000000, 0x5a827999, 0x6ed9eba1, 0x8f1bbcdc, 0xa953fd4e]
  words :=
    [[0, 1, 2, 3, 4, 5, 6, 7, 8, 9, 10, 11, 12, 13, 14, 15],
     [7, 4, 13, 1, 10, 6, 15, 3, 12, 0, 9, 5, 2, 14, 11, 8],
     [3, 10, 14, 4, 9, 15, 8, 1, 2, 7, 0, 6, 13, 11, 5, 12],
     [1, 9, 11, 10, 0, 8, 12, 4, 13, 3, 7, 15, 14, 5, 6, 2],
     [4, 0, 5, 9, 7, 12, 2, 10, 14, 1, 3, 8, 11, 6, 15, 13]]
  shifts :=
    [[11, 14, 15, 12, 5, 8, 7, 9, 11, 13, 14, 15, 6, 7, 9, 8],
     [7, 6, 8, 13, 11, 9, 7, 15, 7, 12, 15, 9, 11, 7, 13, 12],
     [11, 13, 6, 7, 14, 9, 13, 15, 14, 8, 13, 6, 5, 12, 7, 5],
     [11, 12, 14, 15, 14, 15, 9, 8, 9, 14, 5, 6, 8, 6, 5, 12],
     [9, 15, 5, 11, 6, 8, 13, 12, 5, 12, 13, 14, 11, 8, 5, 6]]

def right : Line where
  combine round := combine (4 - round)
  constants := [0x50a28be6, 0x5c4dd124, 0x6d703ef3, 0x7a6d76e9, 0x00000000]
  words :=
    [[5, 14, 7, 0, 9, 2, 11, 4, 13, 6, 15, 8, 1, 10, 3, 12],
     [6, 11, 3, 7, 0, 13, 5, 10, 14, 15, 8, 12, 4, 9, 1, 2],
     [15, 5, 1, 3, 7, 14, 6, 9, 11, 8, 12, 2, 10, 0, 4, 13],
     [8, 6, 4, 1, 3, 11, 15, 0, 5, 12, 2, 13, 9, 7, 10, 14],
     [12, 15, 10, 4, 1, 5, 8, 7, 6, 2, 13, 14, 0, 3, 9, 11]]
  shifts :=
    [[8, 9, 9, 11, 13, 15, 15, 5, 7, 7, 8, 11, 14, 14, 12, 6],
     [9, 13, 15, 7, 12, 8, 9, 11, 7, 7, 12, 7, 6, 15, 13, 11],
     [9, 7, 15, 11, 8, 6, 6, 14, 12, 13, 5, 14, 13, 13, 7, 5],
     [15, 5, 8, 11, 14, 14, 6, 14, 6, 9, 12, 9, 12, 5, 15, 8],
     [8, 5, 12, 9, 12, 5, 14, 6, 8, 13, 6, 5, 15, 13, 11, 11]]

def step (f : UInt32 → UInt32 → UInt32 → UInt32) (constant word shift : UInt32)
    (s : Vector UInt32 5) : Vector UInt32 5 :=
  #v[s[4], rotate (s[0] + f s[1] s[2] s[3] + word + constant) shift + s[4], s[1], rotate s[2] 10, s[3]]

/-- The state behind all steps of a line. -/
def Line.run (line : Line) (block : Vector UInt32 16) (state : Vector UInt32 5) : Vector UInt32 5 :=
  (List.range 5).foldl
    (fun s round =>
      ((line.words.getD round []).zip (line.shifts.getD round [])).foldl
        (fun s (i, shift) =>
          step (line.combine round) (line.constants.getD round 0) (block[i]?.getD 0) shift s) s)
    state

def compress (block : Vector UInt32 16) (state : Vector UInt32 5) : Vector UInt32 5 :=
  let a := left.run block state
  let b := right.run block state
  #v[state[1] + a[2] + b[3], state[2] + a[3] + b[4], state[3] + a[4] + b[0], state[4] + a[0] + b[1],
    state[0] + a[1] + b[2]]

def hash (m : Array UInt8) : Bytes :=
  Digest.hash .little first compress m

end Ripemd160

end EvmScope

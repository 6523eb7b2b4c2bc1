import Mathlib.Data.List.Basic
import Mathlib.Algebra.Group.Nat.Defs

namespace Clawdi

abbrev Bytes := List UInt8

/-- A SHA-256 value. -/
abbrev Digest := BitVec 256

def Digest.bytes (digest : Digest) : Bytes :=
  (List.range 32).map fun index => UInt8.ofNat (digest.toNat / 256 ^ (31 - index) % 256)

namespace Sha256

abbrev Word := BitVec 32

def roundConstants : List Word :=
  [0x428a2f98, 0x71374491, 0xb5c0fbcf, 0xe9b5dba5, 0x3956c25b, 0x59f111f1, 0x923f82a4, 0xab1c5ed5,
   0xd807aa98, 0x12835b01, 0x243185be, 0x550c7dc3, 0x72be5d74, 0x80deb1fe, 0x9bdc06a7, 0xc19bf174,
   0xe49b69c1, 0xefbe4786, 0x0fc19dc6, 0x240ca1cc, 0x2de92c6f, 0x4a7484aa, 0x5cb0a9dc, 0x76f988da,
   0x983e5152, 0xa831c66d, 0xb00327c8, 0xbf597fc7, 0xc6e00bf3, 0xd5a79147, 0x06ca6351, 0x14292967,
   0x27b70a85, 0x2e1b2138, 0x4d2c6dfc, 0x53380d13, 0x650a7354, 0x766a0abb, 0x81c2c92e, 0x92722c85,
   0xa2bfe8a1, 0xa81a664b, 0xc24b8b70, 0xc76c51a3, 0xd192e819, 0xd6990624, 0xf40e3585, 0x106aa070,
   0x19a4c116, 0x1e376c08, 0x2748774c, 0x34b0bcb5, 0x391c0cb3, 0x4ed8aa4a, 0x5b9cca4f, 0x682e6ff3,
   0x748f82ee, 0x78a5636f, 0x84c87814, 0x8cc70208, 0x90befffa, 0xa4506ceb, 0xbef9a3f7, 0xc67178f2]

structure State where
  a : Word
  b : Word
  c : Word
  d : Word
  e : Word
  f : Word
  g : Word
  h : Word
  deriving Repr

def initial : State where
  a := 0x6a09e667
  b := 0xbb67ae85
  c := 0x3c6ef372
  d := 0xa54ff53a
  e := 0x510e527f
  f := 0x9b05688c
  g := 0x1f83d9ab
  h := 0x5be0cd19

variable (x : Word) (state : State)

def choose (y z : Word) : Word := (x &&& y) ^^^ (~~~x &&& z)
def majority (y z : Word) : Word := (x &&& y) ^^^ (x &&& z) ^^^ (y &&& z)
def bigSigma0 : Word := x.rotateRight 2 ^^^ x.rotateRight 13 ^^^ x.rotateRight 22
def bigSigma1 : Word := x.rotateRight 6 ^^^ x.rotateRight 11 ^^^ x.rotateRight 25
def smallSigma0 : Word := x.rotateRight 7 ^^^ x.rotateRight 18 ^^^ (x >>> 3)
def smallSigma1 : Word := x.rotateRight 17 ^^^ x.rotateRight 19 ^^^ (x >>> 10)

def round (keyed : Word) : State :=
  let first := state.h + bigSigma1 state.e + choose state.e state.f state.g + keyed
  let second := bigSigma0 state.a + majority state.a state.b state.c
  { a := first + second, b := state.a, c := state.b, d := state.c
    e := state.d + first, f := state.e, g := state.f, h := state.g }

def rounds : List Word → List Word → State → State
  | constant :: constants,
    [w0, w1, w2, w3, w4, w5, w6, w7, w8, w9, w10, w11, w12, w13, w14, w15], state =>
    let next := w0 + smallSigma0 w1 + w9 + smallSigma1 w14
    rounds constants [w1, w2, w3, w4, w5, w6, w7, w8, w9, w10, w11, w12, w13, w14, w15, next]
      (round state (constant + w0))
  | _, _, state => state

def State.add (one other : State) : State where
  a := one.a + other.a
  b := one.b + other.b
  c := one.c + other.c
  d := one.d + other.d
  e := one.e + other.e
  f := one.f + other.f
  g := one.g + other.g
  h := one.h + other.h

def compress (block : List Word) : State := state.add (rounds roundConstants block state)
def bigEndian (bytes : Bytes) : Nat := bytes.foldl (fun value byte => value * 256 + byte.toNat) 0

/-- The message words by blocks of sixteen; `blocks` bounds their number. -/
def absorb : Nat → Bytes → State → State
  | 0, _, state => state
  | blocks + 1, bytes, state =>
    let word (index : Nat) : Word := BitVec.ofNat 32 (bigEndian ((bytes.drop (4 * index)).take 4))
    absorb blocks (bytes.drop 64) (compress state ((List.range 16).map word))

def pad (msg : Bytes) : Bytes :=
  let zeros := (119 - msg.length % 64) % 64
  let bitLength := 8 * msg.length % 2 ^ 64
  msg ++ [0x80] ++ List.replicate zeros 0 ++
    (List.range 8).map fun index => UInt8.ofNat (bitLength / 256 ^ (7 - index) % 256)

def State.digest (s : State) : Digest :=
  BitVec.ofNat 256 ([s.a, s.b, s.c, s.d, s.e, s.f, s.g, s.h].foldl
    (fun value word => value * 2 ^ 32 + word.toNat) 0)

end Sha256

def sha256 (msg : Bytes) : Digest :=
  (Sha256.absorb ((Sha256.pad msg).length / 64) (Sha256.pad msg) Sha256.initial).digest

example : sha256 [0x61, 0x62, 0x63] =
    0xba7816bf8f01cfea414140de5dae2223b00361a396177a9cb410ff61f20015ad := by decide +kernel

end Clawdi

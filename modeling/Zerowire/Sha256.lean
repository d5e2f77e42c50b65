/-
**SHA-256.**

The hash function, as it is computed block by block: a message is padded to a multiple of 64 bytes,
each block is spread to 64 words, and each word is mixed into eight words of state.

Main definitions:

* `Sha256.padded` — the padded message;
* `Sha256.schedule`, `Sha256.compress` — the words of a block, and how a block changes the state;
* `Sha256.digest`, `Sha256.hash` — **the hash function**, with its sizes.

Main results:

* `Sha256.length_digest` — a hash has 32 bytes.
-/

import Zerowire.Bytes
import Zerowire.Hkdf

set_option relaxedAutoImplicit false
set_option autoImplicit false

namespace Sha256

open Bytes

/-! ### Constants -/

/-- The first 32 bits of the fractional parts of the cube roots of the first 64 primes. -/
def roundConstants : List UInt32 :=
  [0x428a2f98, 0x71374491, 0xb5c0fbcf, 0xe9b5dba5, 0x3956c25b, 0x59f111f1, 0x923f82a4, 0xab1c5ed5,
    0xd807aa98, 0x12835b01, 0x243185be, 0x550c7dc3, 0x72be5d74, 0x80deb1fe, 0x9bdc06a7, 0xc19bf174,
    0xe49b69c1, 0xefbe4786, 0x0fc19dc6, 0x240ca1cc, 0x2de92c6f, 0x4a7484aa, 0x5cb0a9dc, 0x76f988da,
    0x983e5152, 0xa831c66d, 0xb00327c8, 0xbf597fc7, 0xc6e00bf3, 0xd5a79147, 0x06ca6351, 0x14292967,
    0x27b70a85, 0x2e1b2138, 0x4d2c6dfc, 0x53380d13, 0x650a7354, 0x766a0abb, 0x81c2c92e, 0x92722c85,
    0xa2bfe8a1, 0xa81a664b, 0xc24b8b70, 0xc76c51a3, 0xd192e819, 0xd6990624, 0xf40e3585, 0x106aa070,
    0x19a4c116, 0x1e376c08, 0x2748774c, 0x34b0bcb5, 0x391c0cb3, 0x4ed8aa4a, 0x5b9cca4f, 0x682e6ff3,
    0x748f82ee, 0x78a5636f, 0x84c87814, 0x8cc70208, 0x90befffa, 0xa4506ceb, 0xbef9a3f7, 0xc67178f2]

/-- The eight words of state. -/
structure State where
  a : UInt32
  b : UInt32
  c : UInt32
  d : UInt32
  e : UInt32
  f : UInt32
  g : UInt32
  h : UInt32
  deriving Repr, DecidableEq

/-- The first 32 bits of the fractional parts of the square roots of the first eight primes. -/
def initial : State where
  a := 0x6a09e667
  b := 0xbb67ae85
  c := 0x3c6ef372
  d := 0xa54ff53a
  e := 0x510e527f
  f := 0x9b05688c
  g := 0x1f83d9ab
  h := 0x5be0cd19

/-! ### Words -/

/-- Rotation to the right, by less than 32 bits. -/
def rotr (x n : UInt32) : UInt32 := x >>> n ||| x <<< (32 - n)

def ch (x y z : UInt32) : UInt32 := (x &&& y) ^^^ (~~~x &&& z)
def maj (x y z : UInt32) : UInt32 := (x &&& y) ^^^ (x &&& z) ^^^ (y &&& z)
def bigSigma0 (x : UInt32) : UInt32 := rotr x 2 ^^^ rotr x 13 ^^^ rotr x 22
def bigSigma1 (x : UInt32) : UInt32 := rotr x 6 ^^^ rotr x 11 ^^^ rotr x 25
def smallSigma0 (x : UInt32) : UInt32 := rotr x 7 ^^^ rotr x 18 ^^^ x >>> 3
def smallSigma1 (x : UInt32) : UInt32 := rotr x 17 ^^^ rotr x 19 ^^^ x >>> 10

/-! ### Padding -/

/-- The padded message: a one bit, zeros, and the length in bits in eight bytes. -/
def padded (message : List UInt8) : List UInt8 :=
  let bits := 8 * message.length
  message ++ 0x80 :: List.replicate ((119 - message.length % 64) % 64) 0 ++
    (toBe32 (UInt32.ofNat (bits / 2 ^ 32)) ++ toBe32 (UInt32.ofNat bits))

/-! ### One block -/

/-- More words in front of the words of a block, latest first. -/
def spread : ℕ → List UInt32 → List UInt32
  | 0, w => w
  | n + 1, w =>
      let next := smallSigma1 (w.getD 1 0) + w.getD 6 0 + smallSigma0 (w.getD 14 0) + w.getD 15 0
      spread n (next :: w)

/-- The 64 words of a block. -/
def schedule (block : List UInt8) : List UInt32 :=
  let byte i := block.getD i 0
  let words := (List.range 16).map fun i =>
    beU32 (byte (4 * i)) (byte (4 * i + 1)) (byte (4 * i + 2)) (byte (4 * i + 3))
  (spread 48 words.reverse).reverse

/-- One round. -/
def round (s : State) (k w : UInt32) : State :=
  let t₁ := s.h + bigSigma1 s.e + ch s.e s.f s.g + k + w
  let t₂ := bigSigma0 s.a + maj s.a s.b s.c
  { a := t₁ + t₂, b := s.a, c := s.b, d := s.c, e := s.d + t₁, f := s.e, g := s.f, h := s.g }

/-- How a block changes the state. -/
def compress (s : State) (block : List UInt8) : State :=
  let t := (roundConstants.zip (schedule block)).foldl (fun t kw => round t kw.1 kw.2) s
  { a := s.a + t.a, b := s.b + t.b, c := s.c + t.c, d := s.d + t.d
    e := s.e + t.e, f := s.f + t.f, g := s.g + t.g, h := s.h + t.h }

/-! ### The hash function -/

/-- The bytes of the state. -/
def State.bytes (s : State) : List UInt8 :=
  [s.a, s.b, s.c, s.d, s.e, s.f, s.g, s.h].flatMap toBe32

/-- **The hash function.** -/
def digest (message : List UInt8) : List UInt8 :=
  let p := padded message
  ((List.range (p.length / 64)).foldl (fun s i => compress s ((p.drop (64 * i)).take 64))
    initial).bytes

/-- A hash has 32 bytes. -/
theorem length_digest (message : List UInt8) : (digest message).length = 32 := rfl

example : digest "abc".toUTF8.data.toList =
    [0xba, 0x78, 0x16, 0xbf, 0x8f, 0x01, 0xcf, 0xea, 0x41, 0x41, 0x40, 0xde, 0x5d, 0xae, 0x22, 0x23,
      0xb0, 0x03, 0x61, 0xa3, 0x96, 0x17, 0x7a, 0x9c, 0xb4, 0x10, 0xff, 0x61, 0xf2, 0x00, 0x15, 0xad] := by
  decide +kernel

/-- The hash function with its sizes. -/
def hash : Hash where
  digest := digest
  blockLen := 64
  hashLen := 32
  length_digest := length_digest

end Sha256

/-
**Keyed hashes and key derivation.**

A hash function gives a keyed hash, by hashing the message between two masked copies of the key.  A
keyed hash gives a key derivation: `extract` concentrates the input into one key, and `expand`
stretches that key to as many bytes as are wanted, in blocks that are chained.  The counter of the
blocks is a single byte, so there are at most 255 of them.

Main definitions:

* `Hash`, `Hash.hmac` — a hash function with its sizes, and its keyed hash;
* `Hash.extract` — the first half of the derivation;
* `Hash.block`, `Hash.blocks` — the chained blocks;
* `Hash.expand` — **the second half of the derivation**.

Main results:

* `Hash.take_blocks` — the bytes of the blocks do not depend on how many are computed;
* `Hash.expand_eq` — **the output is the beginning of the blocks**, however many are computed.
-/

import Mathlib.Data.List.Basic
import Mathlib.Data.Nat.Notation
import Mathlib.Data.UInt

set_option relaxedAutoImplicit false
set_option autoImplicit false

/-- A hash function with its sizes, in bytes. -/
structure Hash where
  digest : List UInt8 → List UInt8
  /-- The size of the blocks that the function works on. -/
  blockLen : ℕ
  /-- The size of a hash. -/
  hashLen : ℕ
  length_digest : ∀ message, (digest message).length = hashLen

namespace Hash

variable (H : Hash)

/-! ### The keyed hash -/

/-- The key, hashed if it is longer than a block, and padded to a block. -/
def keyBlock (key : List UInt8) : List UInt8 :=
  let key := if H.blockLen < key.length then H.digest key else key
  key ++ List.replicate (H.blockLen - key.length) 0

/-- **The keyed hash.** -/
def hmac (key message : List UInt8) : List UInt8 :=
  let masked mask := (H.keyBlock key).map (· ^^^ mask)
  H.digest (masked 0x5c ++ H.digest (masked 0x36 ++ message))

theorem length_hmac (key message : List UInt8) : (H.hmac key message).length = H.hashLen :=
  H.length_digest _

/-! ### Key derivation -/

/-- The first half: the salt is the key of the hash. -/
def extract (salt ikm : List UInt8) : List UInt8 := H.hmac salt ikm

/-- The chained blocks; the one before the first is empty. -/
def block (prk info : List UInt8) : ℕ → List UInt8
  | 0 => []
  | i + 1 => H.hmac prk (block prk info i ++ info ++ [UInt8.ofNat (i + 1)])

/-- The first `n` blocks, one behind the other. -/
def blocks (prk info : List UInt8) (n : ℕ) : List UInt8 :=
  (List.range n).flatMap fun i => H.block prk info (i + 1)

/-- **The second half**: as many bytes as are wanted, if 255 blocks have them. -/
def expand (prk info : List UInt8) (length : ℕ) : Option (List UInt8) :=
  if 255 * H.hashLen < length then none
  else some ((H.blocks prk info ((length + H.hashLen - 1) / H.hashLen)).take length)

variable {H} {prk info : List UInt8}

theorem length_block (i : ℕ) : (H.block prk info (i + 1)).length = H.hashLen := H.length_hmac _ _

theorem blocks_zero : H.blocks prk info 0 = [] := rfl

theorem blocks_succ (n : ℕ) :
    H.blocks prk info (n + 1) = H.blocks prk info n ++ H.block prk info (n + 1) := by
  rw [blocks, List.range_succ, List.flatMap_append, List.flatMap_singleton]
  rfl

theorem length_blocks (n : ℕ) : (H.blocks prk info n).length = n * H.hashLen := by
  induction n with
  | zero => rw [Nat.zero_mul, blocks_zero, List.length_nil]
  | succ n ih => rw [blocks_succ, List.length_append, ih, length_block, Nat.succ_mul]

/-- More blocks only add to the end. -/
theorem blocks_extends {n m : ℕ} (h : n ≤ m) : H.blocks prk info n <+: H.blocks prk info m := by
  induction m, h using Nat.le_induction with
  | base => exact List.prefix_rfl
  | succ m _ ih =>
      rw [blocks_succ]
      exact ih.trans (List.prefix_append _ _)

/-- The bytes of the blocks do not depend on how many are computed, as long as there are enough. -/
theorem take_blocks {n m length : ℕ} (hn : length ≤ n * H.hashLen) (hm : length ≤ m * H.hashLen) :
    (H.blocks prk info n).take length = (H.blocks prk info m).take length := by
  have hextends {k l : ℕ} (h : k ≤ l) : H.blocks prk info k <+: H.blocks prk info l :=
    blocks_extends h
  have hlen (k : ℕ) : (H.blocks prk info k).length = k * H.hashLen := length_blocks k
  rw [← hlen] at hn hm
  rcases Nat.le_total n m with hle | hle
  · obtain ⟨rest, hrest⟩ := hextends hle
    rw [← hrest, List.take_append_of_le_length hn]
  · obtain ⟨rest, hrest⟩ := hextends hle
    rw [← hrest, List.take_append_of_le_length hm]

/-- The blocks that `expand` computes are enough. -/
theorem le_blocks_mul {length k : ℕ} (h : length ≤ 255 * k) :
    length ≤ (length + k - 1) / k * k := by
  rcases Nat.eq_zero_or_pos k with rfl | hk
  · omega
  · have hdiv := Nat.div_add_mod (length + k - 1) k
    have hmod := Nat.mod_lt (length + k - 1) hk
    rw [Nat.mul_comm] at hdiv
    omega

/-- The output is the beginning of the blocks, however many are computed. -/
theorem expand_eq {n length : ℕ} (hlength : length ≤ 255 * H.hashLen)
    (hn : length ≤ n * H.hashLen) :
    H.expand prk info length = some ((H.blocks prk info n).take length) := by
  rw [expand, if_neg (Nat.not_lt.2 hlength), take_blocks (le_blocks_mul hlength) hn]

end Hash

/-
**Bytes: machine words on the wire, and slices that can fail.**

Two things every decoder of a byte protocol rests on.  The first is the fixed-width big-endian
reading of a word (`u32::from_be_bytes`, `ByteBuffer.getInt`) and its inverse.  The second is
access to a slice: `b[i]` and `&b[i..j]` are *partial* in the languages the decoders are written
in, an index out of range ending the program.  A model in which such an access is a total
function could not even state that the access is in range, so the accessors here return
`Bytes.Fault.panic` instead, and the decoders are written in the `Except` monad over it.

Main definitions:

* `Bytes.beU32`, `Bytes.toBe32`, `Bytes.beU16`, `Bytes.toBe16` — words and their big-endian bytes;
* `Bytes.Fault` — how a fallible function ends badly: an error it returns, or a panic;
* `Bytes.index`, `Bytes.slice`, `Bytes.sliceFrom` — the checked accesses `b[i]`, `&b[i..j]`,
  `&b[i..]`.

Main results:

* `Bytes.beU32_toBe32`, `Bytes.toBe32_beU32` — reading and writing a word are inverse;
* `Bytes.index_eq_ok`, `Bytes.slice_eq_ok`, `Bytes.sliceFrom_eq_ok` — an access in range never
  panics.
-/

import Mathlib.Data.List.Basic
import Mathlib.Data.Nat.Notation
import Mathlib.Data.UInt

set_option relaxedAutoImplicit false
set_option autoImplicit false

namespace Bytes

/-! ### Big-endian words -/

/-- The 32-bit word with the given big-endian bytes. -/
def beU32 (b₀ b₁ b₂ b₃ : UInt8) : UInt32 :=
  UInt32.ofNat (b₀.toNat * 2 ^ 24 + b₁.toNat * 2 ^ 16 + b₂.toNat * 2 ^ 8 + b₃.toNat)

/-- The big-endian bytes of a 32-bit word. -/
def toBe32 (w : UInt32) : List UInt8 :=
  [UInt8.ofNat (w.toNat / 2 ^ 24), UInt8.ofNat (w.toNat / 2 ^ 16), UInt8.ofNat (w.toNat / 2 ^ 8),
    UInt8.ofNat w.toNat]

/-- The 16-bit word with the given big-endian bytes. -/
def beU16 (b₀ b₁ : UInt8) : UInt16 := UInt16.ofNat (b₀.toNat * 2 ^ 8 + b₁.toNat)

/-- The big-endian bytes of a 16-bit word. -/
def toBe16 (w : UInt16) : List UInt8 := [UInt8.ofNat (w.toNat / 2 ^ 8), UInt8.ofNat w.toNat]

@[simp] theorem length_toBe32 (w : UInt32) : (toBe32 w).length = 4 := rfl

@[simp] theorem length_toBe16 (w : UInt16) : (toBe16 w).length = 2 := rfl

theorem toNat_beU32 (b₀ b₁ b₂ b₃ : UInt8) :
    (beU32 b₀ b₁ b₂ b₃).toNat =
      b₀.toNat * 2 ^ 24 + b₁.toNat * 2 ^ 16 + b₂.toNat * 2 ^ 8 + b₃.toNat := by
  have h₀ := b₀.toNat_lt
  have h₁ := b₁.toNat_lt
  have h₂ := b₂.toNat_lt
  have h₃ := b₃.toNat_lt
  rw [beU32, UInt32.toNat_ofNat']
  omega

/-- A word is read back from its bytes. -/
theorem beU32_toBe32 (w : UInt32) :
    beU32 (UInt8.ofNat (w.toNat / 2 ^ 24)) (UInt8.ofNat (w.toNat / 2 ^ 16))
      (UInt8.ofNat (w.toNat / 2 ^ 8)) (UInt8.ofNat w.toNat) = w := by
  have h := w.toNat_lt
  apply UInt32.toNat_inj.1
  rw [toNat_beU32]
  simp only [UInt8.toNat_ofNat']
  omega

/-- A word is determined by its bytes. -/
theorem toBe32_inj {v w : UInt32} (h : toBe32 v = toBe32 w) : v = w := by
  rw [← beU32_toBe32 v, ← beU32_toBe32 w]
  simp only [toBe32, List.cons.injEq, and_true] at h
  rw [h.1, h.2.1, h.2.2.1, h.2.2.2]

/-- Every four bytes are the bytes of the word they spell. -/
theorem toBe32_beU32 (b₀ b₁ b₂ b₃ : UInt8) : toBe32 (beU32 b₀ b₁ b₂ b₃) = [b₀, b₁, b₂, b₃] := by
  have h₀ := b₀.toNat_lt
  have h₁ := b₁.toNat_lt
  have h₂ := b₂.toNat_lt
  have h₃ := b₃.toNat_lt
  have byte (n : ℕ) (b : UInt8) (h : n % 2 ^ 8 = b.toNat) : UInt8.ofNat n = b := by
    apply UInt8.toNat_inj.1
    rw [UInt8.toNat_ofNat']
    exact h
  simp only [toBe32, toNat_beU32, List.cons.injEq, and_true]
  refine ⟨byte _ _ ?_, byte _ _ ?_, byte _ _ ?_, byte _ _ ?_⟩ <;> omega

theorem toNat_beU16 (b₀ b₁ : UInt8) : (beU16 b₀ b₁).toNat = b₀.toNat * 2 ^ 8 + b₁.toNat := by
  have h₀ := b₀.toNat_lt
  have h₁ := b₁.toNat_lt
  rw [beU16, UInt16.toNat_ofNat']
  omega

theorem beU16_toBe16 (w : UInt16) :
    beU16 (UInt8.ofNat (w.toNat / 2 ^ 8)) (UInt8.ofNat w.toNat) = w := by
  have h := w.toNat_lt
  apply UInt16.toNat_inj.1
  rw [toNat_beU16]
  simp only [UInt8.toNat_ofNat']
  omega

/-! ### Results

The computation rules of the `Except` monad.  They hold by reduction, but are stated as equations
to rewrite with: a decoder is a long chain of checks, and rewriting it check by check keeps the
kernel from evaluating the comparisons against large constants in between. -/

section Except

variable {ε α β : Type}

@[simp] theorem ok_bind (a : α) (f : α → Except ε β) : (Except.ok a >>= f) = f a := (rfl)

/-- A sequence that has a result has one of its first part. -/
theorem bind_eq_ok {x : Except ε α} {f : α → Except ε β} {b : β} (h : (x >>= f) = .ok b) :
    ∃ a, x = .ok a ∧ f a = .ok b := by
  rcases x with e | a
  · cases h
  · exact ⟨a, rfl, h⟩

@[simp] theorem error_bind (e : ε) (f : α → Except ε β) :
    ((Except.error e : Except ε α) >>= f) = .error e := (rfl)

@[simp] theorem pure_eq_ok (a : α) : (pure a : Except ε α) = .ok a := (rfl)

@[simp] theorem throw_eq_error (e : ε) : (throw e : Except ε α) = .error e := (rfl)

@[simp] theorem mapError_ok {ε' : Type} (f : ε → ε') (a : α) :
    (Except.ok a : Except ε α).mapError f = .ok a := (rfl)

theorem toOption_ok {ε α : Type} (a : α) : (Except.ok a : Except ε α).toOption = some a := rfl

theorem toOption_error {ε α : Type} (e : ε) : (Except.error e : Except ε α).toOption = none := rfl

theorem toOption_eq_some {ε α : Type} {r : Except ε α} {a : α} :
    r.toOption = some a ↔ r = .ok a := by
  cases r with
  | error e => simp [toOption_error]
  | ok b => simp [toOption_ok]

@[simp] theorem mapError_error {ε' : Type} (f : ε → ε') (e : ε) :
    (Except.error e : Except ε α).mapError f = .error (f e) := (rfl)

end Except

/-! ### Slices -/

/-- How a fallible function ends badly: with an error it returns to its caller, or with a panic,
which no caller catches. -/
inductive Fault (ε : Type) where
  | err (e : ε)
  | panic
  deriving Repr, DecidableEq

/-- A result without panics, seen as one that could panic. -/
def Fault.lift {ε α : Type} : Except ε α → Except (Fault ε) α
  | .ok a => .ok a
  | .error e => .error (.err e)

@[simp] theorem Fault.lift_ok {ε α : Type} (a : α) :
    Fault.lift (.ok a : Except ε α) = .ok a := rfl

@[simp] theorem Fault.lift_error {ε α : Type} (e : ε) :
    Fault.lift (.error e : Except ε α) = .error (.err e) := rfl

/-- The same fault with its error renamed. -/
def Fault.map {ε ε' : Type} (f : ε → ε') : Fault ε → Fault ε'
  | .err e => .err (f e)
  | .panic => .panic

section Access

variable {ε : Type}

/-- The access `b[i]`. -/
def index (b : List UInt8) (i : ℕ) : Except (Fault ε) UInt8 :=
  match b[i]? with
  | some x => .ok x
  | none => .error .panic

/-- The access `&b[i..j]`. -/
def slice (b : List UInt8) (i j : ℕ) : Except (Fault ε) (List UInt8) :=
  if i ≤ j ∧ j ≤ b.length then .ok ((b.take j).drop i) else .error .panic

/-- The access `&b[i..]`. -/
def sliceFrom (b : List UInt8) (i : ℕ) : Except (Fault ε) (List UInt8) :=
  slice b i b.length

@[simp] theorem index_cons_zero (x : UInt8) (b : List UInt8) :
    (index (x :: b) 0 : Except (Fault ε) UInt8) = .ok x := (rfl)

@[simp] theorem index_cons_succ (x : UInt8) (b : List UInt8) (i : ℕ) :
    (index (x :: b) (i + 1) : Except (Fault ε) UInt8) = index b i := (rfl)

theorem index_eq_ok {b : List UInt8} {i : ℕ} (h : i < b.length) :
    (index b i : Except (Fault ε) UInt8) = .ok b[i] := by
  simp [index, h]

/-- An access behind the beginning of an array. -/
theorem index_append (pre b : List UInt8) (i : ℕ) :
    (index (pre ++ b) (pre.length + i) : Except (Fault ε) UInt8) = index b i := by
  rw [index, index, List.getElem?_append_right (Nat.le_add_right _ _), Nat.add_sub_cancel_left]

theorem slice_eq_ok {b : List UInt8} {i j : ℕ} (hij : i ≤ j) (hj : j ≤ b.length) :
    (slice b i j : Except (Fault ε) (List UInt8)) = .ok ((b.take j).drop i) := by
  simp [slice, hij, hj]

theorem sliceFrom_eq_ok {b : List UInt8} {i : ℕ} (h : i ≤ b.length) :
    (sliceFrom b i : Except (Fault ε) (List UInt8)) = .ok (b.drop i) := by
  simp [sliceFrom, slice, h]

end Access

/-! ### Loops -/

section Loop

variable {ε σ ρ : Type}

/-- A `while` loop whose rounds may fail: a round ends in a new state, or with the result of the
loop.  There are at most `fuel` rounds. -/
def whileLoop (body : σ → Except ε (σ ⊕ ρ)) : ℕ → σ → Option (Except ε ρ)
  | 0, _ => none
  | fuel + 1, s =>
      match body s with
      | .error e => some (.error e)
      | .ok (.inl s') => whileLoop body fuel s'
      | .ok (.inr r) => some (.ok r)

variable {body : σ → Except ε (σ ⊕ ρ)} {fuel : ℕ} {s : σ}

theorem whileLoop_inl {s' : σ} (h : body s = .ok (.inl s')) :
    whileLoop body (fuel + 1) s = whileLoop body fuel s' := by
  rw [whileLoop, h]

theorem whileLoop_inr {r : ρ} (h : body s = .ok (.inr r)) :
    whileLoop body (fuel + 1) s = some (.ok r) := by
  rw [whileLoop, h]

theorem whileLoop_error {e : ε} (h : body s = .error e) :
    whileLoop body (fuel + 1) s = some (.error e) := by
  rw [whileLoop, h]

end Loop

end Bytes

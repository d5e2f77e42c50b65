/-
**Byte arrays on the JVM.**

The phone side of the program is written in Kotlin.  Its integers are 32-bit and signed, and the
size of an array is such an integer: a size that is computed can wrap around to a negative number,
and creating the array then throws.  The accessors of this module keep that behaviour.  An array is
the list of its bytes; what matters of a `Byte` is its bit pattern, so bytes are `UInt8` here too.

Main definitions:

* `Jvm.Throwable` — how a call ends abruptly;
* `Jvm.size`, `Jvm.newByteArray`, `Jvm.copyOf`, `Jvm.copyOfRange` — sizes, and arrays of a given
  size;
* `Jvm.get`, `Jvm.getInt`, `Jvm.put`, `Jvm.putInts` — reading and storing, words in big-endian
  order.

Main results:

* `Jvm.toInt32_lt_zero_iff`, `Jvm.toInt_toInt32` — an unsigned word read as a signed one;
* `Jvm.newByteArray_add_size` — **a size that is computed**: when `ByteArray(c + a.size)` succeeds;
* `Jvm.or_eq_beU32` — a word put together from signed bytes;
* `Jvm.putInts_zeros` — filling a fresh array from the front.
-/

import Zerowire.Bytes

set_option relaxedAutoImplicit false
set_option autoImplicit false

namespace Jvm

open Bytes

/-- How a call ends abruptly: an `IOException`, whose causes are up to the code that throws it, or
one of the unchecked exceptions of the array operations and of `require`. -/
inductive Throwable (ε : Type) where
  | io (e : ε)
  | negativeArraySize
  | indexOutOfBounds
  | illegalArgument
  deriving Repr, DecidableEq

/-- The same exception with the cause renamed. -/
def Throwable.map {ε ε' : Type} (f : ε → ε') : Throwable ε → Throwable ε'
  | .io e => .io (f e)
  | .negativeArraySize => .negativeArraySize
  | .indexOutOfBounds => .indexOutOfBounds
  | .illegalArgument => .illegalArgument

variable {ε : Type}

/-! ### Words -/

/-- A word is negative as a signed integer when its top bit is set. -/
theorem toInt32_lt_zero_iff (w : UInt32) : w.toInt32 < 0 ↔ 2 ^ 31 ≤ w.toNat := by
  have hw := w.toNat_lt
  rw [Int32.lt_iff_toInt_lt, Int32.toInt, UInt32.toBitVec_toInt32, BitVec.toInt_eq_toNat_cond,
    UInt32.toNat_toBitVec]
  simp only [Int32.toInt_zero]
  split <;> omega

/-- A word below the top bit has the same value as a signed integer. -/
theorem toInt_toInt32 {w : UInt32} (h : w.toNat < 2 ^ 31) : w.toInt32.toInt = w.toNat := by
  rw [Int32.toInt, UInt32.toBitVec_toInt32, BitVec.toInt_eq_toNat_cond, UInt32.toNat_toBitVec,
    if_pos (by omega)]

/-- Numbers that fit a word are told apart. -/
theorem ofNat_inj {n m : ℕ} (hn : n < 2 ^ 32) (hm : m < 2 ^ 32) :
    Int32.ofNat n = Int32.ofNat m ↔ n = m := by
  refine ⟨fun h => ?_, congrArg _⟩
  have hword := congrArg (fun x : Int32 => x.toBitVec.toNat) h
  simp only [Int32.toNat_toBitVec, Int32.toUInt32_ofNat', UInt32.toNat_ofNat'] at hword
  omega

theorem toInt32_eq_ofNat (w : UInt32) : w.toInt32 = Int32.ofNat w.toNat := by
  apply Int32.toBitVec_inj.1
  apply BitVec.eq_of_toNat_eq
  rw [UInt32.toBitVec_toInt32, UInt32.toNat_toBitVec, Int32.toNat_toBitVec, Int32.toUInt32_ofNat',
    UInt32.toNat_ofNat', Nat.mod_eq_of_lt w.toNat_lt]

/-- Numbers that fit an `Int` are compared as numbers. -/
theorem ofNat_lt_iff {n m : ℕ} (hn : n < 2 ^ 31) (hm : m < 2 ^ 31) :
    Int32.ofNat n < Int32.ofNat m ↔ n < m := by
  rw [Int32.lt_iff_toInt_lt, Int32.toInt_ofNat_of_lt hn, Int32.toInt_ofNat_of_lt hm]
  omega

/-- A number that does not fit an `Int` is negative. -/
theorem toInt_ofNat_of_le {n : ℕ} (h : 2 ^ 31 ≤ n) (hn : n < 2 ^ 32) :
    (Int32.ofNat n).toInt = n - 2 ^ 32 := by
  have hsize : Int32.size = 2 ^ 32 := rfl
  rw [Int32.toInt_ofNat', hsize, Int.bmod_def]
  split_ifs <;> omega

/-! ### Arrays -/

/-- `b.toInt()`, which extends the sign. -/
def toInt (b : UInt8) : Int32 := b.toInt8.toInt32

/-- `a.size`. -/
def size (a : List UInt8) : Int32 := Int32.ofNat a.length

/-- An array that a call leaves as it was. -/
def untouched (buffer : List UInt8) : { b : List UInt8 // b.length = buffer.length } :=
  ⟨buffer, rfl⟩

/-- `ByteArray(n)`: `n` zeros. -/
def newByteArray (n : Int32) : Except (Throwable ε) (List UInt8) :=
  if n < 0 then .error .negativeArraySize else .ok (List.replicate n.toNatClampNeg 0)

/-- `a.copyOf(n)`: the first `n` bytes, padded with zeros. -/
def copyOf (a : List UInt8) (n : Int32) : Except (Throwable ε) (List UInt8) :=
  if n < 0 then .error .negativeArraySize
  else .ok (a.take n.toNatClampNeg ++ List.replicate (n.toNatClampNeg - a.length) 0)

/-- `a.copyOfRange(i, j)`. -/
def copyOfRange (a : List UInt8) (i j : ℕ) : Except (Throwable ε) (List UInt8) :=
  if a.length < j then .error .indexOutOfBounds
  else if j < i then .error .illegalArgument
  else .ok ((a.take j).drop i)

/-- `a[i]`. -/
def get (a : List UInt8) (i : ℕ) : Except (Throwable ε) UInt8 :=
  match a[i]? with
  | some x => .ok x
  | none => .error .indexOutOfBounds

/-- `a[i]`, at a position that has been computed. -/
def getAt (a : List UInt8) (i : Int32) : Except (Throwable ε) UInt8 :=
  if i < 0 then .error .indexOutOfBounds else get a i.toNatClampNeg

/-- The big-endian word at position `pos` (`ByteBuffer.wrap(a, ..).int`). -/
def getInt (a : List UInt8) (pos : ℕ) : Except (Throwable ε) Int32 := do
  return (beU32 (← get a pos) (← get a (pos + 1)) (← get a (pos + 2)) (← get a (pos + 3))).toInt32

/-- Overwrite the bytes from position `pos` on. -/
def put (a : List UInt8) (pos : ℕ) (bs : List UInt8) : Except (Throwable ε) (List UInt8) :=
  if pos + bs.length ≤ a.length then .ok (a.take pos ++ bs ++ a.drop (pos + bs.length))
  else .error .indexOutOfBounds

/-- `System.arraycopy`. -/
def arraycopy (src : List UInt8) (srcPos : ℕ) (dst : List UInt8) (dstPos length : ℕ) :
    Except (Throwable ε) (List UInt8) :=
  if srcPos + length ≤ src.length then put dst dstPos ((src.drop srcPos).take length)
  else .error .indexOutOfBounds

/-- Successive `putInt`s on a big-endian buffer over `a`, from position `pos` on. -/
def putInts (a : List UInt8) (pos : ℕ) : List Int32 → Except (Throwable ε) (List UInt8)
  | [] => .ok a
  | w :: ws => do
      let a ← put a pos (toBe32 w.toUInt32)
      putInts a (pos + 4) ws

theorem toInt_size {a : List UInt8} (h : a.length < 2 ^ 31) : (size a).toInt = a.length := by
  rw [size, Int32.toInt_ofNat_of_lt h]

theorem newByteArray_of_neg {n : Int32} (h : n.toInt < 0) :
    (newByteArray n : Except (Throwable ε) _) = .error .negativeArraySize := by
  rw [newByteArray, if_pos (by rwa [Int32.lt_iff_toInt_lt, Int32.toInt_zero])]

theorem newByteArray_of_nonneg {n : Int32} (h : 0 ≤ n.toInt) :
    (newByteArray n : Except (Throwable ε) _) = .ok (List.replicate n.toInt.toNat 0) := by
  rw [newByteArray, if_neg (by rw [Int32.lt_iff_toInt_lt, Int32.toInt_zero]; omega)]
  rfl

/-- The size of an array plus a constant, as the machine computes it. -/
theorem toInt_add_size {a : List UInt8} {c : ℕ} (hc : c < 2 ^ 31) (ha : a.length < 2 ^ 31) :
    (Int32.ofNat c + size a).toInt =
      if c + a.length < 2 ^ 31 then (c + a.length : Int) else c + a.length - 2 ^ 32 := by
  rw [Int32.toInt_add, toInt_size ha, Int32.toInt_ofNat_of_lt hc, Int.bmod_def]
  split_ifs <;> omega

/-- **A size that is computed**: the array is created as long as the sum does not wrap around. -/
theorem newByteArray_add_size {a : List UInt8} {c : ℕ} (hc : c < 2 ^ 31)
    (ha : a.length < 2 ^ 31) :
    (newByteArray (Int32.ofNat c + size a) : Except (Throwable ε) _) =
      if c + a.length < 2 ^ 31 then .ok (List.replicate (c + a.length) 0)
      else .error .negativeArraySize := by
  have hsum := toInt_add_size hc ha
  split_ifs at hsum ⊢ with h
  · rw [newByteArray_of_nonneg (by omega), hsum, show ((c : Int) + a.length).toNat = c + a.length
      by omega]
  · rw [newByteArray_of_neg (by omega)]

/-- The rest of an array. -/
theorem copyOfRange_size {a : List UInt8} {i : ℕ} (h : i ≤ a.length) :
    (copyOfRange a i a.length : Except (Throwable ε) _) = .ok (a.drop i) := by
  rw [copyOfRange, if_neg (Nat.lt_irrefl _), if_neg (Nat.not_lt.2 h), List.take_length]

/-! ### Signed bytes

`b.toInt() and 0xFF` is the unsigned value of a byte.  Words are put together from such values and
taken apart again with shifts. -/

theorem toNat_unsigned (b : UInt8) : (toInt b &&& 0xFF).toBitVec.toNat = b.toNat := by
  have hmask : (0xFF : Int32).toBitVec.toNat = 2 ^ 8 - 1 := rfl
  have hlt := b.toBitVec.isLt
  rw [Int32.toBitVec_and, toInt, Int8.toBitVec_toInt32, UInt8.toBitVec_toInt8, BitVec.toNat_and,
    hmask, Nat.and_two_pow_sub_one_eq_mod, BitVec.toNat_signExtend, BitVec.toNat_setWidth,
    ← UInt8.toNat_toBitVec]
  split <;> omega

theorem unsigned_eq (b : UInt8) : toInt b &&& 0xFF = Int32.ofNat b.toNat := by
  have hlt := b.toNat_lt
  apply Int32.toBitVec_inj.1
  apply BitVec.eq_of_toNat_eq
  rw [toNat_unsigned, Int32.toNat_toBitVec, Int32.toUInt32_ofNat', UInt32.toNat_ofNat']
  omega

/-- Some bits of an unsigned byte. -/
theorem unsigned_and (b mask : UInt8) :
    toInt b &&& 0xFF &&& Int32.ofNat mask.toNat = Int32.ofNat (b &&& mask).toNat := by
  have hmask := mask.toNat_lt
  have hand := (b &&& mask).toNat_lt
  apply Int32.toBitVec_inj.1
  apply BitVec.eq_of_toNat_eq
  rw [Int32.toBitVec_and, BitVec.toNat_and, toNat_unsigned, Int32.toNat_toBitVec,
    Int32.toUInt32_ofNat', UInt32.toNat_ofNat', Int32.toNat_toBitVec, Int32.toUInt32_ofNat',
    UInt32.toNat_ofNat', Nat.mod_eq_of_lt (by omega), Nat.mod_eq_of_lt (by omega), UInt8.toNat_and]

/-- Shifting a value to the left, when it has room there. -/
theorem toNat_shiftLeft {x s : Int32} {n : ℕ} (k : ℕ) (hx : x.toBitVec.toNat = n)
    (hs : (s.toBitVec.smod 32).toNat = k) (h : n * 2 ^ k < 2 ^ 32) :
    (x <<< s).toBitVec.toNat = 2 ^ k * n := by
  rw [Int32.toBitVec_shiftLeft, BitVec.shiftLeft_eq', hs, BitVec.toNat_shiftLeft, hx,
    Nat.shiftLeft_eq, Nat.mod_eq_of_lt h, Nat.mul_comm]

/-- Shifting a value to the right that is not negative. -/
theorem toNat_shiftRight {n : ℕ} (k : ℕ) {s : Int32} (hs : (s.toBitVec.smod 32).toNat = k)
    (h : n < 2 ^ 31) : (Int32.ofNat n >>> s).toUInt32.toNat = n / 2 ^ k := by
  have hn : (Int32.ofNat n).toBitVec.toNat = n := by
    rw [Int32.toNat_toBitVec, Int32.toUInt32_ofNat', UInt32.toNat_ofNat']
    omega
  have hmsb : (Int32.ofNat n).toBitVec.msb = false := by
    rw [BitVec.msb_eq_false_iff_two_mul_lt, hn]
    omega
  rw [← Int32.toNat_toBitVec, Int32.toBitVec_shiftRight, BitVec.sshiftRight_eq', hs,
    BitVec.sshiftRight_eq_of_msb_false hmsb, BitVec.toNat_ushiftRight, hn,
    Nat.shiftRight_eq_div_pow]

/-- Putting together a value from its upper and its lower part. -/
theorem toNat_or {x y : Int32} {n m : ℕ} (k : ℕ) (hx : x.toBitVec.toNat = 2 ^ k * n)
    (hy : y.toBitVec.toNat = m) (hm : m < 2 ^ k) : (x ||| y).toBitVec.toNat = 2 ^ k * n + m := by
  rw [Int32.toBitVec_or, BitVec.toNat_or, hx, hy, Nat.two_pow_add_eq_or_of_lt hm]

/-- The value of two bytes. -/
theorem or_eq_beU16 (b₀ b₁ : UInt8) :
    (toInt b₀ &&& 0xFF) <<< 8 ||| (toInt b₁ &&& 0xFF) = Int32.ofNat (beU16 b₀ b₁).toNat := by
  have h₀ := b₀.toNat_lt
  have h₁ := b₁.toNat_lt
  have hupper := toNat_shiftLeft (s := 8) 8 (toNat_unsigned b₀) rfl (by omega)
  apply Int32.toBitVec_inj.1
  apply BitVec.eq_of_toNat_eq
  rw [toNat_or 8 hupper (toNat_unsigned b₁) (by omega), toNat_beU16, Int32.toNat_toBitVec,
    Int32.toUInt32_ofNat', UInt32.toNat_ofNat']
  omega

/-- The value of four bytes. -/
theorem or_eq_beU32 (b₀ b₁ b₂ b₃ : UInt8) :
    (toInt b₀ &&& 0xFF) <<< 24 ||| (toInt b₁ &&& 0xFF) <<< 16 ||| (toInt b₂ &&& 0xFF) <<< 8 |||
      (toInt b₃ &&& 0xFF) = (beU32 b₀ b₁ b₂ b₃).toInt32 := by
  have h₀ := b₀.toNat_lt
  have h₁ := b₁.toNat_lt
  have h₂ := b₂.toNat_lt
  have h₃ := b₃.toNat_lt
  have hfirst := toNat_shiftLeft (s := 24) 24 (toNat_unsigned b₀) rfl (by omega)
  have hsecond := toNat_or 24 hfirst
    (toNat_shiftLeft (s := 16) 16 (toNat_unsigned b₁) rfl (by omega)) (by omega)
  have hthird := toNat_or (n := 2 ^ 8 * b₀.toNat + b₁.toNat) 16 (hsecond.trans (by omega))
    (toNat_shiftLeft (s := 8) 8 (toNat_unsigned b₂) rfl (by omega)) (by omega)
  have hall := toNat_or (n := 2 ^ 16 * b₀.toNat + 2 ^ 8 * b₁.toNat + b₂.toNat) 8
    (hthird.trans (by omega)) (toNat_unsigned b₃) (by omega)
  apply Int32.toBitVec_inj.1
  apply BitVec.eq_of_toNat_eq
  rw [hall, UInt32.toBitVec_toInt32, UInt32.toNat_toBitVec, toNat_beU32]
  omega

/-! ### Reading and storing -/

@[simp] theorem get_cons_zero (x : UInt8) (a : List UInt8) :
    (get (x :: a) 0 : Except (Throwable ε) UInt8) = .ok x := (rfl)

@[simp] theorem get_cons_succ (x : UInt8) (a : List UInt8) (i : ℕ) :
    (get (x :: a) (i + 1) : Except (Throwable ε) UInt8) = get a i := (rfl)

/-- A position that is not in the array, as the machine computes it. -/
theorem getAt_of_le {a : List UInt8} {n : ℕ} (h : a.length ≤ n) (hn : n < 2 ^ 32) :
    (getAt a (Int32.ofNat n) : Except (Throwable ε) UInt8) = .error .indexOutOfBounds := by
  have hneg : Int32.ofNat n < 0 ↔ (Int32.ofNat n).toInt < 0 := by
    rw [Int32.lt_iff_toInt_lt, Int32.toInt_zero]
  rw [getAt]
  by_cases hbig : 2 ^ 31 ≤ n
  · have hint := toInt_ofNat_of_le hbig hn
    rw [if_pos (hneg.2 (by omega))]
  · have hint := Int32.toInt_ofNat_of_lt (Nat.not_le.1 hbig)
    rw [if_neg (mt hneg.1 (by omega)), Int32.toNatClampNeg, hint, Int.toNat_natCast, get,
      List.getElem?_eq_none h]

/-- An access behind the beginning of an array. -/
theorem getAt_append {pre a : List UInt8} {i : ℕ} (h : pre.length + i < 2 ^ 31) :
    (getAt (pre ++ a) (Int32.ofNat (pre.length + i)) : Except (Throwable ε) UInt8) = get a i := by
  have hint := Int32.toInt_ofNat_of_lt h
  have hneg : ¬ Int32.ofNat (pre.length + i) < 0 := by
    rw [Int32.lt_iff_toInt_lt, Int32.toInt_zero, hint]
    omega
  rw [getAt, if_neg hneg, Int32.toNatClampNeg, hint, Int.toNat_natCast, get, get,
    List.getElem?_append_right (Nat.le_add_right _ _), Nat.add_sub_cancel_left]

/-- An access has a result, or is out of bounds. -/
theorem getAt_cases (a : List UInt8) (i : Int32) :
    (∃ x, (getAt a i : Except (Throwable ε) UInt8) = .ok x) ∨
      (getAt a i : Except (Throwable ε) UInt8) = .error .indexOutOfBounds := by
  rw [getAt]
  split_ifs
  · exact Or.inr rfl
  · rw [get]
    rcases a[i.toNatClampNeg]? with _ | x
    · exact Or.inr rfl
    · exact Or.inl ⟨x, rfl⟩

/-- Storing one byte. -/
theorem put_byte (p r : List UInt8) (x y : UInt8) :
    (put (p ++ y :: r) p.length [x] : Except (Throwable ε) _) = .ok (p ++ x :: r) := by
  rw [put, if_pos (by simp), List.take_left' rfl, List.length_singleton, List.drop_append,
    List.drop_eq_nil_of_le (by omega), Nat.add_sub_cancel_left]
  simp

/-- Storing at the front of a run of zeros. -/
theorem put_zeros (p bs : List UInt8) (k : ℕ) :
    (put (p ++ List.replicate (bs.length + k) 0) p.length bs : Except (Throwable ε) _) =
      .ok (p ++ bs ++ List.replicate k 0) := by
  have hdrop : (p ++ List.replicate (bs.length + k) (0 : UInt8)).drop (p.length + bs.length) =
      List.replicate k 0 := by
    rw [List.drop_append, List.drop_eq_nil_of_le (by omega), List.drop_replicate,
      List.nil_append]
    congr 1
    omega
  rw [put, if_pos (by simp), List.take_left' rfl, hdrop]

/-- **Filling a fresh array from the front** with words. -/
theorem putInts_zeros (ws : List Int32) (p : List UInt8) (k : ℕ) :
    (putInts (p ++ List.replicate (4 * ws.length + k) 0) p.length ws : Except (Throwable ε) _) =
      .ok (p ++ ws.flatMap (fun w => toBe32 w.toUInt32) ++ List.replicate k 0) := by
  induction ws generalizing p with
  | nil => simp [putInts]
  | cons w ws ih =>
      have hlen : 4 * (w :: ws).length + k =
          (toBe32 w.toUInt32).length + (4 * ws.length + k) := by
        simp only [List.length_cons, length_toBe32]
        omega
      have hpos : p.length + 4 = (p ++ toBe32 w.toUInt32).length := by simp
      rw [putInts, hlen, put_zeros, ok_bind, hpos, ih]
      simp

end Jvm

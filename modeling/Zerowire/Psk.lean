/-
**Keys from the pairing code, on both sides** (`kotlin/.../Psk.kt`, `protocol/src/psk.rs`).

Both sides derive their keys from the pairing code.  The desktop calls a library.  The phone has its
own copy of the key derivation: a loop that chains blocks, feeds them all to one object of the
platform, counts in a signed `Int` that it narrows to a byte, and cuts the last block short.  A
difference in one byte locks every paired device out.

What is assumed of the platforms is that both encode the code as the same bytes, that the object of
the phone computes the keyed hash of SHA-256, and that the library of the desktop implements the key
derivation (`Zerowire.TlsLibs.DerivesKeys`).

Main definitions:

* `Zerowire.Psk.Mac` — the object of the platform;
* `Zerowire.Psk.hkdfExtract`, `Zerowire.Psk.hkdfExpand`, `Zerowire.Psk.deriveWithInfo` — the phone.

Main results:

* `Zerowire.Psk.expandLoop_eq` — **the loop computes the blocks**, one round after the other;
* `Zerowire.Psk.hkdfExpand_eq` — the phone returns the beginning of the blocks;
* `Zerowire.Psk.keys_agree` — **both sides derive the same keys**.
-/

import Zerowire.Jvm
import Zerowire.Sha256
import Zerowire.Tls

set_option relaxedAutoImplicit false
set_option autoImplicit false

namespace Zerowire

/-! ### The desktop

`derive_with_info` and the seed of the certificate are in `Zerowire/Tls.lean`. -/

def pskInfo : List UInt8 := "tls-psk".toUTF8.data.toList

/-- `PSK_LEN`. -/
def pskLen : ℕ := 32

/-- `derive_psk`. -/
def derivePsk (libs : TlsLibs) (pairingCode : String) : List UInt8 :=
  deriveWithInfo libs pairingCode pskInfo

/-- The `hkdf` crate implements the key derivation with SHA-256. -/
def TlsLibs.DerivesKeys (libs : TlsLibs) : Prop :=
  ∀ salt ikm info,
    Sha256.hash.expand (Sha256.hash.extract salt ikm) info pskLen = some (libs.hkdf salt ikm info)

namespace Psk

open Bytes Jvm

variable {ε : Type}

/-! ### The platform -/

/-- `SecretKeySpec(key, ..)`, which takes any key but an empty one. -/
def secretKeySpec (key : List UInt8) : Except (Throwable ε) (List UInt8) :=
  if key = [] then .error .illegalArgument else .ok key

/-- `javax.crypto.Mac` for `HmacSHA256`, with its key and what it has been fed. -/
structure Mac where
  key : List UInt8
  fed : List UInt8

/-- `mac.init(key)`. -/
def Mac.init (key : List UInt8) : Mac := ⟨key, []⟩

/-- `mac.reset()`. -/
def Mac.reset (mac : Mac) : Mac := { mac with fed := [] }

/-- `mac.update(input)`. -/
def Mac.update (mac : Mac) (input : List UInt8) : Mac := { mac with fed := mac.fed ++ input }

/-- `mac.doFinal()`, which resets the object. -/
def Mac.doFinal (mac : Mac) : List UInt8 × Mac := (Sha256.hash.hmac mac.key mac.fed, mac.reset)

/-- `System.arraycopy` at a position and for a length that have been computed. -/
def arraycopyAt (src : List UInt8) (srcPos : ℕ) (dst : List UInt8) (dstPos length : Int32) :
    Except (Throwable ε) (List UInt8) :=
  if dstPos < 0 ∨ length < 0 then .error .indexOutOfBounds
  else arraycopy src srcPos dst dstPos.toNatClampNeg length.toNatClampNeg

/-- `minOf`. -/
def minOf (x y : Int32) : Int32 := if x ≤ y then x else y

/-! ### The phone -/

/-- `HASH_LEN`. -/
def hashLen : Int32 := 32

def pskSalt : List UInt8 := "zerowire/v1/psk".toUTF8.data.toList
def pskInfo : List UInt8 := "tls-psk".toUTF8.data.toList
def tlsCertKeyInfo : List UInt8 := "zerowire/v1/tls-cert-key".toUTF8.data.toList

/-- `hkdfExtract`. -/
def hkdfExtract (salt ikm : List UInt8) : Except (Throwable ε) (List UInt8) := do
  let mac := Mac.init (← secretKeySpec salt)
  return (mac.update ikm).doFinal.1

/-- The loop of `hkdfExpand`, for the given number of rounds. -/
def expandLoop (info : List UInt8) (length : Int32) : (rounds : ℕ) → (i : Int32) → (mac : Mac) →
    (prev okm : List UInt8) → (written : Int32) → Except (Throwable ε) (List UInt8)
  | 0, _, _, _, okm, _ => .ok okm
  | rounds + 1, i, mac, prev, okm, written => do
      let mac := ((mac.reset.update prev).update info).update [i.toUInt32.toUInt8]
      let (prev, mac) := mac.doFinal
      let take := minOf hashLen (length - written)
      let okm ← arraycopyAt prev 0 okm written take
      expandLoop info length rounds (i + 1) mac prev okm (written + take)

/-- `hkdfExpand`. -/
def hkdfExpand (prk info : List UInt8) (length : Int32) : Except (Throwable ε) (List UInt8) :=
  if ¬ length ≤ 255 * hashLen then .error .illegalArgument
  else do
    let mac := Mac.init (← secretKeySpec prk)
    let n := (length + hashLen - 1) / hashLen
    let okm ← newByteArray length
    expandLoop info length n.toNatClampNeg 1 mac [] okm 0

/-- `deriveWithInfo`. -/
def deriveWithInfo (pairingCode : String) (info : List UInt8) (length : Int32) :
    Except (Throwable ε) (List UInt8) := do
  let prk ← hkdfExtract pskSalt pairingCode.toUTF8.data.toList
  hkdfExpand prk info length

/-- The length that `deriveWithInfo` has by default. -/
def defaultLength : Int32 := 32

/-- `derivePsk`. -/
def derivePsk (pairingCode : String) : Except (Throwable ε) (List UInt8) :=
  deriveWithInfo pairingCode pskInfo defaultLength

/-- `deriveTlsCertSeed`. -/
def deriveTlsCertSeed (pairingCode : String) : Except (Throwable ε) (List UInt8) :=
  deriveWithInfo pairingCode tlsCertKeyInfo defaultLength

/-! ### Numbers -/

/-- Small sums do not wrap around. -/
theorem toInt_add {x y : Int32} (hx : 0 ≤ x.toInt) (hy : 0 ≤ y.toInt)
    (h : x.toInt + y.toInt < 2 ^ 31) : (x + y).toInt = x.toInt + y.toInt := by
  rw [Int32.toInt_add, Int.bmod_def]
  split_ifs <;> omega

/-- Nor do differences of numbers that are not negative. -/
theorem toInt_sub {x y : Int32} (hx : 0 ≤ x.toInt) (hy : 0 ≤ y.toInt) :
    (x - y).toInt = x.toInt - y.toInt := by
  have hxlt := x.toInt_lt
  have hylt := y.toInt_lt
  rw [Int32.toInt_sub, Int.bmod_def]
  split_ifs <;> omega

theorem toInt_minOf (x y : Int32) : (minOf x y).toInt = min x.toInt y.toInt := by
  rw [minOf]
  split_ifs with h
  · rw [Int32.le_iff_toInt_le] at h
    omega
  · rw [Int32.le_iff_toInt_le] at h
    omega

/-- The counter as a byte. -/
theorem toUInt8_ofNat (i : ℕ) : (Int32.ofNat i).toUInt32.toUInt8 = UInt8.ofNat i := by
  rw [Int32.toUInt32_ofNat', UInt32.toUInt8_ofNat']

/-- The number of rounds is the number of blocks. -/
theorem rounds_eq {length : ℕ} (h : length ≤ 255 * 32) :
    ((Int32.ofNat length + hashLen - 1) / hashLen).toNatClampNeg = (length + 31) / 32 := by
  have hlength : (Int32.ofNat length).toInt = length := Int32.toInt_ofNat_of_lt (by omega)
  have hlen : hashLen.toInt = 32 := rfl
  have hone : (1 : Int32).toInt = 1 := rfl
  have hsum : (Int32.ofNat length + hashLen).toInt = length + 32 := by
    rw [toInt_add (by omega) (by omega) (by omega), hlength, hlen]
  have hdiff : (Int32.ofNat length + hashLen - 1).toInt = length + 31 := by
    rw [toInt_sub (by omega) (by omega), hsum, hone]
    omega
  rw [Int32.toNatClampNeg, Int32.toInt_div_of_ne_right _ _ (by decide), hdiff, hlen,
    Int.tdiv_eq_ediv_of_nonneg (by omega)]
  omega

/-! ### The loop -/

/-- Copying to the front of a run of zeros, at a computed position. -/
theorem arraycopyAt_zeros {src before : List UInt8} {dstPos length : Int32} {n k : ℕ}
    (hpos : dstPos.toInt = before.length) (hlen : length.toInt = n) (hsrc : n ≤ src.length) :
    (arraycopyAt src 0 (before ++ List.replicate (n + k) 0) dstPos length :
        Except (Throwable ε) _) =
      .ok (before ++ src.take n ++ List.replicate k 0) := by
  have hneg : ¬ (dstPos < 0 ∨ length < 0) := by
    rw [Int32.lt_iff_toInt_lt, Int32.lt_iff_toInt_lt, Int32.toInt_zero]
    omega
  have htake : (src.take n).length = n := by
    rw [List.length_take]
    omega
  have hput := put_zeros (ε := ε) before (src.take n) k
  rw [htake] at hput
  rw [arraycopyAt, if_neg hneg, Int32.toNatClampNeg, Int32.toNatClampNeg, hpos, hlen,
    Int.toNat_natCast, Int.toNat_natCast, arraycopy, if_pos (by omega), List.drop_zero, hput]

/-- The array after `k` rounds: the blocks so far, as far as they fit, and zeros. -/
def filled (prk info : List UInt8) (length k : ℕ) : List UInt8 :=
  (Sha256.hash.blocks prk info k).take length ++ List.replicate (length - 32 * k) 0

/-- **One round**: the next block is computed, and as much of it copied as there is room for. -/
theorem expandLoop_succ {prk info : List UInt8} {length k : ℕ} (hlength : length ≤ 255 * 32)
    (hroom : 32 * k < length) (rounds : ℕ) {mac : Mac} (hkey : mac.key = prk) {written : Int32}
    (hwritten : written.toInt = 32 * k) :
    ∃ (mac' : Mac) (written' : Int32), mac'.key = prk ∧
    written'.toInt = (min (32 * (k + 1)) length : ℕ) ∧
      (expandLoop info (Int32.ofNat length) (rounds + 1) (Int32.ofNat (k + 1)) mac
          (Sha256.hash.block prk info k) (filled prk info length k) written :
            Except (Throwable ε) _) =
        expandLoop info (Int32.ofNat length) rounds (Int32.ofNat (k + 2)) mac'
          (Sha256.hash.block prk info (k + 1)) (filled prk info length (k + 1)) written' := by
  have hint : (Int32.ofNat length).toInt = length := Int32.toInt_ofNat_of_lt (by omega)
  have hlen : hashLen.toInt = 32 := rfl
  -- the room that is left, and how much of the block fits into it
  have hdiff : (Int32.ofNat length - written).toInt = length - 32 * k := by
    rw [toInt_sub (by omega) (by omega), hint, hwritten]
  obtain ⟨t, ht⟩ : ∃ t, t = min 32 (length - 32 * k) := ⟨_, rfl⟩
  have htake : (minOf hashLen (Int32.ofNat length - written)).toInt = t := by
    rw [toInt_minOf, hlen, hdiff]
    omega
  have hblock : (Sha256.hash.block prk info (k + 1)).length = 32 := Hash.length_block k
  have hblocks : (Sha256.hash.blocks prk info k).length = k * 32 := Hash.length_blocks k
  -- the output before and after the round: whole blocks, and zeros for what is to come
  have hbefore : filled prk info length k =
      Sha256.hash.blocks prk info k ++ List.replicate (t + (length - 32 * (k + 1))) 0 := by
    rw [filled, List.take_of_length_le (by omega)]
    congr 2
    omega
  have hafter : filled prk info length (k + 1) =
      Sha256.hash.blocks prk info k ++ (Sha256.hash.block prk info (k + 1)).take t ++
        List.replicate (length - 32 * (k + 1)) 0 := by
    rw [filled, Hash.blocks_succ, List.take_append, List.take_of_length_le (by omega), hblocks]
    congr 2
    rw [List.take_eq_take_iff, hblock]
    omega
  have hposition : written.toInt = (Sha256.hash.blocks prk info k).length := by omega
  have hsource : t ≤ (Sha256.hash.block prk info (k + 1)).length := by omega
  have hcopy := arraycopyAt_zeros (ε := ε) (k := length - 32 * (k + 1)) hposition htake hsource
  rw [← hbefore, ← hafter] at hcopy
  -- the one Mac object computes what the specification says
  have hmac : Sha256.hash.hmac mac.key ([] ++ Sha256.hash.block prk info k ++ info ++
      [(Int32.ofNat (k + 1)).toUInt32.toUInt8]) = Sha256.hash.block prk info (k + 1) := by
    rw [hkey, toUInt8_ofNat, List.nil_append, Hash.block]
  have hnext : Int32.ofNat (k + 1) + 1 = Int32.ofNat (k + 2) := (Int32.ofNat_add (k + 1) 1).symm
  refine ⟨mac.reset, written + minOf hashLen (Int32.ofNat length - written), hkey, ?_, ?_⟩
  · rw [toInt_add (by omega) (by omega) (by omega), hwritten, htake]
    omega
  · rw [expandLoop]
    simp only [Mac.doFinal, Mac.update, Mac.reset, hmac, hcopy, ok_bind, hnext]

/-- **The loop computes the blocks.** -/
theorem expandLoop_eq {prk info : List UInt8} {length : ℕ} (hlength : length ≤ 255 * 32)
    (rounds : ℕ) : ∀ {k : ℕ} {mac : Mac} {written : Int32}, k + rounds = (length + 31) / 32 →
      mac.key = prk → written.toInt = (min (32 * k) length : ℕ) →
        (expandLoop info (Int32.ofNat length) rounds (Int32.ofNat (k + 1)) mac
          (Sha256.hash.block prk info k) (filled prk info length k) written :
            Except (Throwable ε) _) =
          .ok (filled prk info length (k + rounds)) := by
  induction rounds with
  | zero =>
      intro k mac written _ _ _
      rfl
  | succ rounds ih =>
      intro k mac written hrounds hkey hwritten
      have hposition : written.toInt = 32 * k := by omega
      obtain ⟨mac', written', hkey', hwritten', hround⟩ :=
        expandLoop_succ (ε := ε) hlength (k := k) (by omega) rounds hkey hposition
      rw [hround, ih (by omega) hkey' hwritten', Nat.add_right_comm, Nat.add_assoc]

/-! ### The keys -/

/-- **The phone returns the beginning of the blocks**, for every key but the empty one (which the
platform does not take) and every length that the counter allows for. -/
theorem hkdfExpand_eq {prk info : List UInt8} {length n : ℕ} (hprk : prk ≠ [])
    (hlength : length ≤ 255 * 32) (hn : length ≤ 32 * n) :
    (hkdfExpand prk info (Int32.ofNat length) : Except (Throwable ε) _) =
      .ok ((Sha256.hash.blocks prk info n).take length) := by
  have hint : (Int32.ofNat length).toInt = length := Int32.toInt_ofNat_of_lt (by omega)
  have hrequire : Int32.ofNat length ≤ 255 * hashLen := by
    have hcap : (255 * hashLen).toInt = 255 * 32 := rfl
    rw [Int32.le_iff_toInt_le, hint, hcap]
    omega
  have hnew : (newByteArray (Int32.ofNat length) : Except (Throwable ε) _) =
      .ok (filled prk info length 0) := by
    rw [newByteArray_of_nonneg (by omega), hint, Int.toNat_natCast, filled, Hash.blocks_zero,
      List.take_nil, List.nil_append, Nat.mul_zero, Nat.sub_zero]
  have hstart : (0 : Int32).toInt = (min (32 * 0) length : ℕ) := by simp
  have hkey : (Mac.init prk).key = prk := rfl
  -- the loop, from the first round on
  have hloop : expandLoop (ε := ε) info _ _ _ _ _ _ _ = _ :=
    expandLoop_eq hlength ((length + 31) / 32) (k := 0) (Nat.zero_add _) hkey hstart
  have hfilled : filled prk info length ((length + 31) / 32) =
      (Sha256.hash.blocks prk info n).take length := by
    have hlen : Sha256.hash.hashLen = 32 := rfl
    have hzeros : length - 32 * ((length + 31) / 32) = 0 := by omega
    rw [filled, hzeros, List.replicate_zero, List.append_nil]
    exact Hash.take_blocks (by rw [hlen]; omega) (by rw [hlen]; omega)
  rw [Nat.zero_add ((length + 31) / 32), hfilled] at hloop
  rw [hkdfExpand, if_neg (not_not.2 hrequire), secretKeySpec, if_neg hprk]
  simp only [ok_bind, hnew, rounds_eq hlength]
  exact hloop

/-- An empty key is not taken. -/
theorem hkdfExpand_nil {info : List UInt8} {length : Int32} (h : length ≤ 255 * hashLen) :
    (hkdfExpand [] info length : Except (Throwable ε) _) = .error .illegalArgument := by
  rw [hkdfExpand, if_neg (not_not.2 h), secretKeySpec, if_pos rfl]
  rfl

/-- The extracted key is the library's. -/
theorem hkdfExtract_pskSalt (ikm : List UInt8) :
    (hkdfExtract pskSalt ikm : Except (Throwable ε) _) =
      .ok (Sha256.hash.extract Zerowire.pskSalt ikm) := rfl

/-- With its default length, the phone derives what the desktop derives. -/
theorem deriveWithInfo_eq {libs : TlsLibs} (hlibs : libs.DerivesKeys) (pairingCode : String)
    (info : List UInt8) :
    (deriveWithInfo pairingCode info defaultLength : Except (Throwable ε) _) =
      .ok (Zerowire.deriveWithInfo libs pairingCode info) := by
  have hprk (salt ikm : List UInt8) : Sha256.hash.extract salt ikm ≠ [] := by
    intro hnil
    have hlen : (Sha256.hash.extract salt ikm).length = 32 := Hash.length_hmac _ _ _
    rw [hnil] at hlen
    cases hlen
  have hphone : (hkdfExpand (Sha256.hash.extract Zerowire.pskSalt pairingCode.toUTF8.data.toList)
      info (Int32.ofNat 32) : Except (Throwable ε) _) = _ :=
    hkdfExpand_eq (n := 1) (hprk _ _) (by decide) (by decide)
  have hdesktop := hlibs Zerowire.pskSalt pairingCode.toUTF8.data.toList info
  rw [Hash.expand_eq (n := 1) (by decide) (by decide)] at hdesktop
  rw [deriveWithInfo, hkdfExtract_pskSalt, ok_bind, Zerowire.deriveWithInfo,
    ← Option.some.inj hdesktop]
  exact hphone

/-- The two keys that the program uses. -/
theorem derivePsk_eq {libs : TlsLibs} (hlibs : libs.DerivesKeys) (pairingCode : String) :
    (derivePsk pairingCode : Except (Throwable ε) _) = .ok (Zerowire.derivePsk libs pairingCode) ∧
      (deriveTlsCertSeed pairingCode : Except (Throwable ε) _) =
        .ok (Zerowire.deriveTlsCertSeed libs pairingCode) :=
  ⟨deriveWithInfo_eq hlibs _ _, deriveWithInfo_eq hlibs _ _⟩

/-- **Both sides derive the same keys.**  The phone returns the first `length` bytes of the chained
blocks, however many of them are written down, so that a shorter output is a beginning of a longer
one, and no copy is out of range; and what it derives by default is what the desktop derives. -/
theorem keys_agree {libs : TlsLibs} (hlibs : libs.DerivesKeys) :
    (∀ prk info length n, prk ≠ [] → length ≤ 255 * 32 → length ≤ 32 * n →
      (hkdfExpand prk info (Int32.ofNat length) : Except (Throwable ε) _) =
        .ok ((Sha256.hash.blocks prk info n).take length)) ∧
    (∀ prk info short long, prk ≠ [] → short ≤ long → long ≤ 255 * 32 →
      ∃ a b, (hkdfExpand prk info (Int32.ofNat short) : Except (Throwable ε) _) = .ok a ∧
        (hkdfExpand prk info (Int32.ofNat long) : Except (Throwable ε) _) = .ok b ∧ a <+: b) ∧
    ∀ pairingCode info, (deriveWithInfo pairingCode info defaultLength : Except (Throwable ε) _) =
      .ok (Zerowire.deriveWithInfo libs pairingCode info) := by
  refine ⟨?_, ?_, ?_⟩
  · intro prk info length n hprk hlength hn
    exact hkdfExpand_eq hprk hlength hn
  · intro prk info short long hprk hle hlong
    have hlong' : long ≤ 32 * 255 := by omega
    refine ⟨_, _, hkdfExpand_eq hprk (hle.trans hlong) (hle.trans hlong'),
      hkdfExpand_eq hprk hlong hlong', ?_⟩
    exact List.take_prefix_take_left hle
  · exact deriveWithInfo_eq hlibs

/-- Libraries with the key derivation of the `hkdf` crate. -/
def derivingLibs : TlsLibs where
  __ := plainLibs
  hkdf salt ikm info :=
    (Sha256.hash.blocks (Sha256.hash.extract salt ikm) info 1).take pskLen

theorem derivingLibs_derivesKeys : derivingLibs.DerivesKeys :=
  fun _ _ _ => Hash.expand_eq (by decide) (by decide)

theorem keys_agree_derivingLibs :
    (hkdfExpand [7] [] (Int32.ofNat 33) : Except (Throwable Empty) _) =
        .ok ((Sha256.hash.blocks [7] [] 2).take 33) ∧
      (∃ a b, (hkdfExpand [7] [] (Int32.ofNat 33) : Except (Throwable Empty) _) = .ok a ∧
        (hkdfExpand [7] [] (Int32.ofNat 8160) : Except (Throwable Empty) _) = .ok b ∧ a <+: b) ∧
      (deriveWithInfo "123456" pskInfo defaultLength : Except (Throwable Empty) _) =
        .ok (Zerowire.deriveWithInfo derivingLibs "123456" pskInfo) := by
  obtain ⟨hexpand, hextends, hderive⟩ := keys_agree (ε := Empty) derivingLibs_derivesKeys
  exact ⟨hexpand [7] [] 33 2 (by decide) (by decide) (by decide),
    hextends [7] [] 33 8160 (by decide) (by decide) (by decide), hderive "123456" pskInfo⟩

end Psk

end Zerowire

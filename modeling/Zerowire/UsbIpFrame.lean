/-
**USB/IP headers on the phone** (`android-sender/.../UsbIpFrame.kt`).

The Kotlin codec for the kernel's headers, with signed 32-bit fields.  On headers it agrees with the
Rust codec of `Zerowire/Usbip.lean`; where it creates an array for a header and the data behind it,
the size it computes is a signed integer again, and wraps around when the data are long.

Main definitions:

* `Zerowire.UsbIpFrame.CmdSubmit`, `Zerowire.UsbIpFrame.CmdUnlink` — the commands as decoded;
* `Zerowire.UsbIpFrame.parseCmdSubmit`, `Zerowire.UsbIpFrame.parseCmdUnlink`,
  `Zerowire.UsbIpFrame.peekCommand`, `Zerowire.UsbIpFrame.unwrapImport` — the decoders;
* `Zerowire.UsbIpFrame.encodeRetSubmit`, `Zerowire.UsbIpFrame.encodeRetUnlink`,
  `Zerowire.UsbIpFrame.wrapImport` — the encoders.

Main results:

* `Zerowire.UsbIpFrame.parseCmdSubmit_spec`, `Zerowire.UsbIpFrame.parseCmdUnlink_spec`,
  `Zerowire.UsbIpFrame.unwrapImport_spec` — what the decoders read;
* `Zerowire.UsbIpFrame.encodeRetSubmit_all`, `Zerowire.UsbIpFrame.wrapImport_eq` — **the encoders
  agree with the Rust ones until the size wraps around**.
-/

import Zerowire.Jvm
import Zerowire.Usbip

set_option relaxedAutoImplicit false
set_option autoImplicit false

namespace Zerowire

namespace UsbIpFrame

open Bytes Jvm

/-! ### The decoders -/

def cmdSubmit : Int32 := 0x00000001
def cmdUnlink : Int32 := 0x00000002
def retSubmit : Int32 := 0x00000003
def retUnlink : Int32 := 0x00000004

def dirOut : Int32 := 0
def dirIn : Int32 := 1

/-- The messages of the `IOException`s, with what they print. -/
inductive FrameError where
  /-- "urb header too short for op". -/
  | headerShort (size : Int32)
  | submitShort (size : Int32)
  /-- "expected CMD_SUBMIT (0x1)". -/
  | expectedSubmit (cmd : Int32)
  | unlinkShort (size : Int32)
  /-- "expected CMD_UNLINK (0x2)". -/
  | expectedUnlink (cmd : Int32)
  deriving Repr, DecidableEq

/-- Decoded `USBIP_CMD_SUBMIT` header.  That `setup` has 8 bytes is what its `init` block
requires. -/
structure CmdSubmit where
  seqnum : Int32
  devid : Int32
  direction : Int32
  ep : Int32
  transferFlags : Int32
  transferBufferLength : Int32
  startFrame : Int32
  numberOfPackets : Int32
  interval : Int32
  setup : Setup
  deriving DecidableEq

/-- `CmdSubmit.isControl`. -/
def CmdSubmit.isControl (cmd : CmdSubmit) : Bool := cmd.ep = 0

/-- Decoded `USBIP_CMD_UNLINK` header. -/
structure CmdUnlink where
  seqnum : Int32
  devid : Int32
  direction : Int32
  ep : Int32
  unlinkSeqnum : Int32
  deriving DecidableEq

/-- `require(setup.size == 8)`. -/
def requireSetup (setup : List UInt8) : Except (Throwable FrameError) Setup :=
  if h : setup.length = 8 then .ok ⟨setup, h⟩ else .error .illegalArgument

/-- `peekCommand`. -/
def peekCommand (buf : List UInt8) : Except (Throwable FrameError) Int32 :=
  if size buf < 4 then .error (.io (.headerShort (size buf))) else getInt buf 0

/-- `parseCmdSubmit`. -/
def parseCmdSubmit (buf : List UInt8) : Except (Throwable FrameError) CmdSubmit :=
  if size buf < 48 then .error (.io (.submitShort (size buf)))
  else do
    let cmd ← getInt buf 0
    if cmd ≠ cmdSubmit then throw (.io (.expectedSubmit cmd))
    else
      let seqnum ← getInt buf 4
      let devid ← getInt buf 8
      let direction ← getInt buf 12
      let ep ← getInt buf 16
      let transferFlags ← getInt buf 20
      let transferBufferLength ← getInt buf 24
      let startFrame ← getInt buf 28
      let numberOfPackets ← getInt buf 32
      let interval ← getInt buf 36
      let setup ← newByteArray 8
      let setup ← arraycopy buf 40 setup 0 8
      let setup ← requireSetup setup
      return ⟨seqnum, devid, direction, ep, transferFlags, transferBufferLength, startFrame,
        numberOfPackets, interval, setup⟩

/-- `parseCmdUnlink`. -/
def parseCmdUnlink (buf : List UInt8) : Except (Throwable FrameError) CmdUnlink :=
  if size buf < 48 then .error (.io (.unlinkShort (size buf)))
  else do
    let cmd ← getInt buf 0
    if cmd ≠ cmdUnlink then throw (.io (.expectedUnlink cmd))
    else
      let seqnum ← getInt buf 4
      let devid ← getInt buf 8
      let direction ← getInt buf 12
      let ep ← getInt buf 16
      let unlinkSeqnum ← getInt buf 20
      return ⟨seqnum, devid, direction, ep, unlinkSeqnum⟩

/-! ### The encoders -/

section Encoders

variable {ε : Type}

/-- `encodeRetSubmit`. -/
def encodeRetSubmit (seqnum status actualLength : Int32) (data : List UInt8)
    (startFrame numberOfPackets errorCount direction ep : Int32 := 0) :
    Except (Throwable ε) (List UInt8) := do
  let out ← newByteArray (48 + size data)
  let out ← putInts out 0 [retSubmit, seqnum, 0, direction, ep, status, actualLength, startFrame,
    numberOfPackets, errorCount]
  if data ≠ [] then arraycopy data 0 out 48 data.length else return out

/-- `encodeRetUnlink`. -/
def encodeRetUnlink (seqnum status : Int32) (direction ep devid : Int32 := 0) :
    Except (Throwable ε) (List UInt8) := do
  let out ← newByteArray 48
  putInts out 0 [retUnlink, seqnum, devid, direction, ep, status]

/-- The message of the `IOException` of `unwrapImport`: "UsbipFrame too short". -/
inductive UnwrapError where
  | short (size : Int32)
  deriving Repr, DecidableEq

/-- `unwrapImport`. -/
def unwrapImport (payload : List UInt8) : Except (Throwable UnwrapError) (Int32 × List UInt8) :=
  if size payload < 4 then .error (.io (.short (size payload)))
  else do
    let id := (toInt (← Jvm.get payload 0) &&& 0xFF) <<< 24 |||
      (toInt (← Jvm.get payload 1) &&& 0xFF) <<< 16 |||
      (toInt (← Jvm.get payload 2) &&& 0xFF) <<< 8 |||
      (toInt (← Jvm.get payload 3) &&& 0xFF)
    return (id, ← copyOfRange payload 4 payload.length)

/-- `wrapImport`. -/
def wrapImport (importId : Int32) (payload : List UInt8) : Except (Throwable ε) (List UInt8) := do
  let out ← newByteArray (4 + size payload)
  let out ← put out 0 [(importId.toUInt32 >>> 24 &&& 0xFF).toUInt8]
  let out ← put out 1 [(importId.toUInt32 >>> 16 &&& 0xFF).toUInt8]
  let out ← put out 2 [(importId.toUInt32 >>> 8 &&& 0xFF).toUInt8]
  let out ← put out 3 [(importId.toUInt32 &&& 0xFF).toUInt8]
  arraycopy payload 0 out 4 payload.length

end Encoders

/-! ### What the decoders read -/

/-- The fields of a CMD_SUBMIT header. -/
def CmdSubmit.ofHeader (b : List UInt8) : CmdSubmit where
  seqnum := (wordAt b 4).toInt32
  devid := (wordAt b 8).toInt32
  direction := (wordAt b 12).toInt32
  ep := (wordAt b 16).toInt32
  transferFlags := (wordAt b 20).toInt32
  transferBufferLength := (wordAt b 24).toInt32
  startFrame := (wordAt b 28).toInt32
  numberOfPackets := (wordAt b 32).toInt32
  interval := (wordAt b 36).toInt32
  setup := setupAt b

/-- The fields of a CMD_UNLINK header. -/
def CmdUnlink.ofHeader (b : List UInt8) : CmdUnlink where
  seqnum := (wordAt b 4).toInt32
  devid := (wordAt b 8).toInt32
  direction := (wordAt b 12).toInt32
  ep := (wordAt b 16).toInt32
  unlinkSeqnum := (wordAt b 20).toInt32

section Take

variable {b : List UInt8}

/-- The decoders look at the header only. -/
theorem CmdSubmit.ofHeader_take {n : ℕ} (h : urbHeaderLen ≤ n) :
    ofHeader (b.take n) = ofHeader b := by
  have hsetup : setupAt (b.take n) = setupAt b := by
    rw [← setupAt_take, List.take_take, Nat.min_eq_left h, setupAt_take]
  rw [urbHeaderLen] at h
  simp (disch := omega) only [ofHeader, wordAt_take, hsetup]

theorem CmdUnlink.ofHeader_take {n : ℕ} (h : urbHeaderLen ≤ n) :
    ofHeader (b.take n) = ofHeader b := by
  rw [urbHeaderLen] at h
  simp (disch := omega) only [ofHeader, wordAt_take]

end Take

section Decoders

variable {ε : Type} {buf : List UInt8}

theorem get_eq_getD {a : List UInt8} {i : ℕ} (h : i < a.length) :
    (get a i : Except (Throwable ε) UInt8) = .ok (a.getD i 0) := by
  rw [Jvm.get, List.getD_eq_getElem?_getD, List.getElem?_eq_getElem h, Option.getD_some]

/-- Reading a word that lies inside the array. -/
theorem getInt_eq_ok {a : List UInt8} {pos : ℕ} (h : pos + 4 ≤ a.length) :
    (getInt a pos : Except (Throwable ε) Int32) = .ok (wordAt a pos).toInt32 := by
  rw [getInt, get_eq_getD (by omega), ok_bind, get_eq_getD (by omega), ok_bind,
    get_eq_getD (by omega), ok_bind, get_eq_getD (by omega), ok_bind, pure_eq_ok, wordAt]

theorem size_lt_iff (h : buf.length < 2 ^ 31) {n : ℕ} (hn : n < 2 ^ 31) :
    size buf < Int32.ofNat n ↔ buf.length < n := by
  rw [Int32.lt_iff_toInt_lt, toInt_size h, Int32.toInt_ofNat_of_lt hn]
  omega

/-- The words of a header are all in range. -/
theorem getInt_header (h : urbHeaderLen ≤ buf.length) {pos : ℕ} (hpos : pos ≤ 36) :
    (getInt buf pos : Except (Throwable ε) Int32) = .ok (wordAt buf pos).toInt32 :=
  getInt_eq_ok (by rw [urbHeaderLen] at h; omega)

theorem peekCommand_eq (h : buf.length = urbHeaderLen) :
    peekCommand buf = .ok (wordAt buf 0).toInt32 := by
  have hsize : ¬ size buf < 4 := by
    rw [show (4 : Int32) = Int32.ofNat 4 from rfl, size_lt_iff (by rw [h]; decide) (by decide), h]
    decide
  rw [peekCommand, if_neg hsize, getInt_header (Nat.le_of_eq h.symm) (by decide)]

/-- The setup packet is copied from the end of the header. -/
theorem copy_setup (h : urbHeaderLen ≤ buf.length) :
    (arraycopy buf 40 (List.replicate 8 0) 0 8 : Except (Throwable ε) _) = .ok (setupAt buf).1 := by
  have hle : 40 + 8 ≤ buf.length := h
  have hlen : ((buf.drop 40).take 8).length = 8 := by
    rw [List.length_take, List.length_drop]
    omega
  have hslice := slice_setup (ε := ε) h
  rw [slice_eq_ok (by omega) hle, List.drop_take, Except.ok.injEq] at hslice
  have hput := put_zeros (ε := ε) [] ((buf.drop 40).take 8) 0
  rw [hlen] at hput
  rw [arraycopy, if_pos hle]
  simpa [hslice] using hput

/-- A signed word is a command when the unsigned one is. -/
theorem toInt32_eq_iff {v w : UInt32} : v.toInt32 = w.toInt32 ↔ v = w := by
  constructor
  · intro h
    have h' := congrArg Int32.toUInt32 h
    rwa [UInt32.toUInt32_toInt32, UInt32.toUInt32_toInt32] at h'
  · rintro rfl
    rfl

/-- **The decoder of CMD_SUBMIT**: the length, then the command, then the fields. -/
theorem parseCmdSubmit_spec (h : buf.length < 2 ^ 31) :
    parseCmdSubmit buf =
      if buf.length < urbHeaderLen then .error (.io (.submitShort (size buf)))
      else if wordAt buf 0 ≠ UrbOp.cmdSubmit.toU32 then
        .error (.io (.expectedSubmit (wordAt buf 0).toInt32))
      else .ok (CmdSubmit.ofHeader buf) := by
  have hsize : size buf < 48 ↔ buf.length < urbHeaderLen := size_lt_iff h (by decide)
  have hcmd : (wordAt buf 0).toInt32 ≠ cmdSubmit ↔ wordAt buf 0 ≠ UrbOp.cmdSubmit.toU32 :=
    not_congr toInt32_eq_iff
  have hnew : (newByteArray 8 : Except (Throwable FrameError) _) = .ok (List.replicate 8 0) := rfl
  have hreq : requireSetup (setupAt buf).1 = .ok (setupAt buf) := by
    rw [requireSetup, dif_pos (setupAt buf).2]
  rw [parseCmdSubmit]
  simp only [hsize]
  split_ifs with hshort hword
  · rfl
  · rw [getInt_header (Nat.le_of_not_lt hshort) (by decide), ok_bind, if_pos (hcmd.2 hword),
      throw_eq_error]
  · have hle := Nat.le_of_not_lt hshort
    rw [getInt_header hle (by decide), ok_bind, if_neg (mt hcmd.1 hword)]
    simp (disch := decide) only [getInt_header hle, hnew, copy_setup hle, hreq, ok_bind, pure_eq_ok,
      CmdSubmit.ofHeader]

/-- **The decoder of CMD_UNLINK**: the length, then the command, then the fields. -/
theorem parseCmdUnlink_spec (h : buf.length < 2 ^ 31) :
    parseCmdUnlink buf =
      if buf.length < urbHeaderLen then .error (.io (.unlinkShort (size buf)))
      else if wordAt buf 0 ≠ UrbOp.cmdUnlink.toU32 then
        .error (.io (.expectedUnlink (wordAt buf 0).toInt32))
      else .ok (CmdUnlink.ofHeader buf) := by
  have hsize : size buf < 48 ↔ buf.length < urbHeaderLen := size_lt_iff h (by decide)
  have hcmd : (wordAt buf 0).toInt32 ≠ cmdUnlink ↔ wordAt buf 0 ≠ UrbOp.cmdUnlink.toU32 :=
    not_congr toInt32_eq_iff
  rw [parseCmdUnlink]
  simp only [hsize]
  split_ifs with hshort hword
  · rfl
  · rw [getInt_header (Nat.le_of_not_lt hshort) (by decide), ok_bind, if_pos (hcmd.2 hword),
      throw_eq_error]
  · have hle := Nat.le_of_not_lt hshort
    rw [getInt_header hle (by decide), ok_bind, if_neg (mt hcmd.1 hword)]
    simp (disch := decide) only [getInt_header hle, ok_bind, pure_eq_ok, CmdUnlink.ofHeader]

/-- **The decoder of the frame.** -/
theorem unwrapImport_spec (h : buf.length < 2 ^ 31) :
    unwrapImport buf =
      if buf.length < 4 then .error (.io (.short (size buf)))
      else .ok ((wordAt buf 0).toInt32, buf.drop 4) := by
  have hsize : size buf < 4 ↔ buf.length < 4 := size_lt_iff h (by decide)
  rw [unwrapImport]
  simp only [hsize]
  split_ifs with hshort
  · rfl
  · rw [get_eq_getD (by omega), ok_bind, get_eq_getD (by omega), ok_bind, get_eq_getD (by omega),
      ok_bind, get_eq_getD (by omega), ok_bind, copyOfRange_size (Nat.le_of_not_lt hshort), ok_bind,
      or_eq_beU32, pure_eq_ok, wordAt]

/-- The decoder of CMD_SUBMIT on the header that the pump reads. -/
theorem parseCmdSubmit_eq (h : buf.length = urbHeaderLen)
    (hcmd : wordAt buf 0 = UrbOp.cmdSubmit.toU32) :
    parseCmdSubmit buf = .ok (CmdSubmit.ofHeader buf) := by
  rw [parseCmdSubmit_spec (by rw [h]; decide), if_neg (by rw [h]; decide), if_neg (not_not.2 hcmd)]

/-- The decoder of CMD_UNLINK on the header that the pump reads. -/
theorem parseCmdUnlink_eq (h : buf.length = urbHeaderLen)
    (hcmd : wordAt buf 0 = UrbOp.cmdUnlink.toU32) :
    parseCmdUnlink buf = .ok (CmdUnlink.ofHeader buf) := by
  rw [parseCmdUnlink_spec (by rw [h]; decide), if_neg (by rw [h]; decide), if_neg (not_not.2 hcmd)]

end Decoders

/-! ### What the encoders write -/

section Written

variable {ε : Type}

/-- Copying a whole array behind what is already there. -/
theorem arraycopy_all (p data : List UInt8) {pos : ℕ} (hp : p.length = pos) :
    (arraycopy data 0 (p ++ List.replicate data.length 0) pos data.length :
      Except (Throwable ε) _) = .ok (p ++ data) := by
  have hput := put_zeros (ε := ε) p data 0
  rw [Nat.add_zero, List.replicate_zero, List.append_nil, hp] at hput
  rw [arraycopy, if_pos (by omega), List.drop_zero, List.take_length, hput]

/-- Filling in the words of a header. -/
theorem putInts_header (words : List Int32) (k : ℕ) (h : words.length ≤ 12) :
    (putInts (List.replicate (48 + k) 0) 0 words : Except (Throwable ε) _) =
      .ok (headerOfWords (words.map Int32.toUInt32) ++ List.replicate k 0) := by
  have hwords := putInts_zeros (ε := ε) words [] (48 - 4 * words.length + k)
  have hlen : 4 * words.length + (48 - 4 * words.length + k) = 48 + k := by omega
  rw [List.nil_append, List.nil_append, List.length_nil, hlen] at hwords
  rw [hwords, headerOfWords, List.flatMap_map, List.length_map, urbHeaderLen, List.append_assoc,
    List.replicate_append_replicate]

/-- **RET_SUBMIT with data** is the Rust header and the data, as long as the size of the two
together does not wrap around. -/
theorem encodeRetSubmit_all (seqnum status actualLength : Int32) {data : List UInt8}
    (h : data.length < 2 ^ 31)
    (startFrame numberOfPackets errorCount direction ep : Int32) :
    (encodeRetSubmit seqnum status actualLength data startFrame numberOfPackets errorCount direction
        ep : Except (Throwable ε) _) =
      if 48 + data.length < 2 ^ 31 then
        .ok (RetSubmit.encode ⟨seqnum.toUInt32, 0, direction.toUInt32, ep.toUInt32, status,
          actualLength.toUInt32, startFrame.toUInt32, numberOfPackets.toUInt32,
          errorCount.toUInt32⟩ ++ data)
      else .error .negativeArraySize := by
  have hnew := newByteArray_add_size (ε := ε) (c := 48) (by decide) h
  rw [encodeRetSubmit, show (48 + size data : Int32) = Int32.ofNat 48 + size data from rfl, hnew]
  by_cases hfits : 48 + data.length < 2 ^ 31
  · rw [if_pos hfits, if_pos hfits, ok_bind, putInts_header _ _ (by simp), ok_bind]
    by_cases hdata : data = []
    · rw [if_neg (not_not.2 hdata), hdata, pure_eq_ok]
      rfl
    · rw [if_pos hdata, arraycopy_all _ data (show _ = 48 from length_headerOfWords (by simp))]
      rfl
  · rw [if_neg hfits, if_neg hfits, error_bind]

/-- RET_SUBMIT with the defaults of the fields that the pump does not pass. -/
theorem encodeRetSubmit_eq (seqnum status actualLength : Int32) {data : List UInt8}
    (h : data.length < 2 ^ 31) :
    (encodeRetSubmit seqnum status actualLength data : Except (Throwable ε) _) =
      if 48 + data.length < 2 ^ 31 then
        .ok (RetSubmit.encode ⟨seqnum.toUInt32, 0, 0, 0, status, actualLength.toUInt32, 0, 0, 0⟩ ++
          data)
      else .error .negativeArraySize :=
  encodeRetSubmit_all seqnum status actualLength h 0 0 0 0 0

/-- **RET_UNLINK** is the Rust header. -/
theorem encodeRetUnlink_all (seqnum status direction ep devid : Int32) :
    (encodeRetUnlink seqnum status direction ep devid : Except (Throwable ε) _) =
      .ok (RetUnlink.encode ⟨seqnum.toUInt32, devid.toUInt32, direction.toUInt32, ep.toUInt32,
        status⟩) := by
  have hnew : (newByteArray 48 : Except (Throwable ε) _) = .ok (List.replicate (48 + 0) 0) := rfl
  rw [encodeRetUnlink, hnew, ok_bind, putInts_header _ _ (by simp), List.replicate_zero,
    List.append_nil]
  rfl

/-- RET_UNLINK with the defaults of the fields that the pump does not pass. -/
theorem encodeRetUnlink_eq (seqnum status : Int32) :
    (encodeRetUnlink seqnum status : Except (Throwable ε) _) =
      .ok (RetUnlink.encode ⟨seqnum.toUInt32, 0, 0, 0, status⟩) :=
  encodeRetUnlink_all seqnum status 0 0 0

/-- The lowest byte of a word. -/
theorem toUInt8_and (w : UInt32) : (w &&& 0xFF).toUInt8 = UInt8.ofNat w.toNat := by
  apply UInt8.toNat_inj.1
  rw [UInt32.toNat_toUInt8, UInt32.toNat_and, UInt8.toNat_ofNat',
    show (0xFF : UInt32).toNat = 2 ^ 8 - 1 from rfl, Nat.and_two_pow_sub_one_eq_mod, Nat.mod_mod]

/-- The bytes that `wrapImport` stores. -/
theorem bytes_toBe32 (w : UInt32) :
    [(w >>> 24 &&& 0xFF).toUInt8, (w >>> 16 &&& 0xFF).toUInt8, (w >>> 8 &&& 0xFF).toUInt8,
      (w &&& 0xFF).toUInt8] = toBe32 w := by
  rw [toUInt8_and, toUInt8_and, toUInt8_and, toUInt8_and, toBe32, UInt32.toNat_shiftRight,
    UInt32.toNat_shiftRight, UInt32.toNat_shiftRight, Nat.shiftRight_eq_div_pow,
    Nat.shiftRight_eq_div_pow, Nat.shiftRight_eq_div_pow]
  rfl

/-- Four bytes and a payload behind them, stored in a new array. -/
theorem put_prefix (b₀ b₁ b₂ b₃ : UInt8) {payload : List UInt8} (h : payload.length < 2 ^ 31) :
    (do
      let out ← newByteArray (4 + size payload)
      let out ← put out 0 [b₀]
      let out ← put out 1 [b₁]
      let out ← put out 2 [b₂]
      let out ← put out 3 [b₃]
      arraycopy payload 0 out 4 payload.length : Except (Throwable ε) (List UInt8)) =
      if 4 + payload.length < 2 ^ 31 then .ok (b₀ :: b₁ :: b₂ :: b₃ :: payload)
      else .error .negativeArraySize := by
  have hnew := newByteArray_add_size (ε := ε) (c := 4) (by decide) h
  rw [show (4 + size payload : Int32) = Int32.ofNat 4 + size payload from rfl, hnew]
  by_cases hfits : 4 + payload.length < 2 ^ 31
  · have hzeros : List.replicate (4 + payload.length) (0 : UInt8) =
        0 :: 0 :: 0 :: 0 :: List.replicate payload.length 0 := by
      rw [Nat.add_comm]
      rfl
    rw [if_pos hfits, if_pos hfits, ok_bind, hzeros]
    generalize hr : List.replicate payload.length (0 : UInt8) = r
    have h₀ : (put (0 :: 0 :: 0 :: 0 :: r) 0 [b₀] : Except (Throwable ε) _) =
        .ok (b₀ :: 0 :: 0 :: 0 :: r) := put_byte [] _ b₀ 0
    have h₁ : (put (b₀ :: 0 :: 0 :: 0 :: r) 1 [b₁] : Except (Throwable ε) _) =
        .ok (b₀ :: b₁ :: 0 :: 0 :: r) := put_byte [b₀] _ b₁ 0
    have h₂ : (put (b₀ :: b₁ :: 0 :: 0 :: r) 2 [b₂] : Except (Throwable ε) _) =
        .ok (b₀ :: b₁ :: b₂ :: 0 :: r) := put_byte [b₀, b₁] _ b₂ 0
    have h₃ : (put (b₀ :: b₁ :: b₂ :: 0 :: r) 3 [b₃] : Except (Throwable ε) _) =
        .ok (b₀ :: b₁ :: b₂ :: b₃ :: r) := put_byte [b₀, b₁, b₂] _ b₃ 0
    rw [h₀, ok_bind, h₁, ok_bind, h₂, ok_bind, h₃, ok_bind, ← hr]
    exact arraycopy_all [b₀, b₁, b₂, b₃] payload rfl
  · rw [if_neg hfits, if_neg hfits, error_bind]

/-- **The frame** is the Rust one, as long as its size does not wrap around. -/
theorem wrapImport_eq (importId : Int32) {payload : List UInt8} (h : payload.length < 2 ^ 31) :
    (wrapImport importId payload : Except (Throwable ε) _) =
      if 4 + payload.length < 2 ^ 31 then .ok (UsbipFrame.encode ⟨importId.toUInt32, payload⟩)
      else .error .negativeArraySize := by
  rw [wrapImport, put_prefix _ _ _ _ h, UsbipFrame.encode, ← bytes_toBe32]
  rfl

end Written

end UsbIpFrame

end Zerowire

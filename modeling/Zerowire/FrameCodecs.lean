/-
**The frame codecs of the two languages.**

The formats inside an envelope are written twice, in Rust over unsigned words
(`protocol/src/usbip.rs`, `protocol/src/hid.rs`) and in Kotlin over signed integers
(`android-sender/.../UsbIpFrame.kt`, `.../WireProtocol.kt`).  A value means the same in both if it
has the same bit pattern.  The decoders agree on every array, in what they read and in what they
refuse; the encoders agree as long as there is an array of the size of the frame, which is a signed
integer.

Main definitions:

* `Jvm.Array` — the arrays there are;
* `Zerowire.CmdSubmit.signed`, `Zerowire.CmdUnlink.signed` — the same command over signed integers;
* `Zerowire.WireProtocol.encodeHidFrame`, `Zerowire.WireProtocol.parseHidFrame` — the Kotlin codec
  for HID frames.

Main results:

* `Zerowire.codecs_agree` — **the codecs are interchangeable.**
-/

import Zerowire.Hid
import Zerowire.UsbIpFrame
import Zerowire.WireProtocol

set_option relaxedAutoImplicit false
set_option autoImplicit false

/-- The arrays there are: their size is a signed 32-bit integer. -/
abbrev Jvm.Array := { a : List UInt8 // a.length < 2 ^ 31 }

/-- The empty array. -/
def Jvm.Array.empty : Jvm.Array := ⟨[], by decide⟩

namespace Zerowire

open Bytes Jvm

/-! ### HID frames in Kotlin -/

namespace WireProtocol

/-- The `byte` of each `WireProtocol.HidOp`. -/
def hidOpByte : HidOp → UInt8
  | .bind => 0x01
  | .bindAck => 0x02
  | .reportIn => 0x10
  | .reportOut => 0x11
  | .reportFeature => 0x12
  | .unbind => 0x20

/-- `HidOp.fromByte`: the first entry with that byte. -/
def hidOpFromByte (b : UInt8) : Option HidOp :=
  [HidOp.bind, .bindAck, .reportIn, .reportOut, .reportFeature, .unbind].find? fun op =>
    hidOpByte op == b

/-- The messages of the `IOException`s of `parseHidFrame`. -/
inductive HidFrameError where
  /-- "hid frame too short". -/
  | short (size : Int32)
  | unknownOp (op : UInt8)
  deriving Repr, DecidableEq

/-- `HidFrameView`. -/
structure HidFrameView where
  op : HidOp
  bindId : Int32
  seq : Int32
  body : List UInt8
  deriving Repr, DecidableEq

/-- `encodeHidFrame`. -/
def encodeHidFrame {ε : Type} (op : HidOp) (bindId seq : Int32) (body : List UInt8) :
    Except (Throwable ε) (List UInt8) := do
  let out ← newByteArray (4 + size body)
  let out ← put out 0 [hidOpByte op]
  let out ← put out 1 [(bindId.toUInt32 &&& 0xFF).toUInt8]
  let out ← put out 2 [((seq >>> 8).toUInt32 &&& 0xFF).toUInt8]
  let out ← put out 3 [(seq.toUInt32 &&& 0xFF).toUInt8]
  arraycopy body 0 out 4 body.length

/-- `parseHidFrame`. -/
def parseHidFrame (payload : List UInt8) : Except (Throwable HidFrameError) HidFrameView :=
  if size payload < 4 then .error (.io (.short (size payload)))
  else do
    let b₀ ← Jvm.get payload 0
    match hidOpFromByte b₀ with
    | none => throw (.io (.unknownOp b₀))
    | some op =>
        let bindId := toInt (← Jvm.get payload 1) &&& 0xFF
        let seq := (toInt (← Jvm.get payload 2) &&& 0xFF) <<< 8 |||
          (toInt (← Jvm.get payload 3) &&& 0xFF)
        let body ← copyOfRange payload 4 payload.length
        return ⟨op, bindId, seq, body⟩

/-! ### The agreement on HID frames -/

theorem hidOpByte_eq (op : HidOp) : hidOpByte op = op.toU8 := by cases op <;> rfl

theorem hidOpFromByte_eq (b : UInt8) : hidOpFromByte b = HidOp.fromU8 b := by
  by_cases h₁ : b = 0x01
  · subst h₁; rfl
  by_cases h₂ : b = 0x02
  · subst h₂; rfl
  by_cases h₃ : b = 0x10
  · subst h₃; rfl
  by_cases h₄ : b = 0x11
  · subst h₄; rfl
  by_cases h₅ : b = 0x12
  · subst h₅; rfl
  by_cases h₆ : b = 0x20
  · subst h₆; rfl
  simp [hidOpFromByte, hidOpByte, HidOp.fromU8, h₁, h₂, h₃, h₄, h₅, h₆, Ne.symm h₁, Ne.symm h₂,
    Ne.symm h₃, Ne.symm h₄, Ne.symm h₅, Ne.symm h₆]

/-- **The encoder of HID frames** is the Rust one, as long as the size does not wrap around. -/
theorem encodeHidFrame_eq {ε : Type} (f : HidFrame) (h : f.body.length < 2 ^ 31) :
    (encodeHidFrame f.op (Int32.ofNat f.bindId.toNat) (Int32.ofNat f.seq.toNat) f.body :
      Except (Throwable ε) _) =
      if 4 + f.body.length < 2 ^ 31 then .ok f.encode else .error .negativeArraySize := by
  have hbind := f.bindId.toNat_lt
  have hseq := f.seq.toNat_lt
  have hid : ((Int32.ofNat f.bindId.toNat).toUInt32 &&& 0xFF).toUInt8 = f.bindId := by
    rw [UsbIpFrame.toUInt8_and, Int32.toUInt32_ofNat', UInt32.toNat_ofNat',
      Nat.mod_eq_of_lt (by omega), UInt8.ofNat_toNat]
  have hupper : ((Int32.ofNat f.seq.toNat >>> 8).toUInt32 &&& 0xFF).toUInt8 =
      UInt8.ofNat (f.seq.toNat / 2 ^ 8) := by
    rw [UsbIpFrame.toUInt8_and, toNat_shiftRight 8 rfl (by omega)]
  have hlower : ((Int32.ofNat f.seq.toNat).toUInt32 &&& 0xFF).toUInt8 =
      UInt8.ofNat f.seq.toNat := by
    rw [UsbIpFrame.toUInt8_and, Int32.toUInt32_ofNat', UInt32.toNat_ofNat',
      Nat.mod_eq_of_lt (by omega)]
  rw [encodeHidFrame, UsbIpFrame.put_prefix _ _ _ _ h, hid, hupper, hlower, hidOpByte_eq]
  rfl

/-- What the Kotlin decoder makes of a refusal. -/
def hidFrameError : Fault HidError → Throwable HidFrameError
  | .err (.short len) => .io (.short (Int32.ofNat len))
  | .err (.unknownOp op) => .io (.unknownOp op)
  | .err .badMeta => .illegalArgument
  | .panic => .indexOutOfBounds

/-- A frame as the Kotlin decoder shows it. -/
def HidFrameView.ofFrame (f : HidFrame) : HidFrameView :=
  ⟨f.op, Int32.ofNat f.bindId.toNat, Int32.ofNat f.seq.toNat, f.body⟩

/-- **The decoder of HID frames** is the Rust one. -/
theorem parseHidFrame_eq {payload : List UInt8} (h : payload.length < 2 ^ 31) :
    parseHidFrame payload =
      ((HidFrame.parse payload).map HidFrameView.ofFrame).mapError hidFrameError := by
  have hsize : size payload < 4 ↔ payload.length < hidHeaderLen :=
    UsbIpFrame.size_lt_iff h (by decide)
  rw [parseHidFrame]
  simp only [hsize]
  by_cases hshort : payload.length < hidHeaderLen
  · rw [if_pos hshort, HidFrame.parse_short hshort]
    rfl
  · obtain ⟨b₀, b₁, b₂, b₃, body, rfl⟩ := exists_hid_header hshort
    rw [if_neg hshort, get_cons_zero, ok_bind, hidOpFromByte_eq, HidFrame.parse_cons]
    rcases HidOp.fromU8 b₀ with _ | op
    · rfl
    · have hbody : (copyOfRange (b₀ :: b₁ :: b₂ :: b₃ :: body) 4
          (b₀ :: b₁ :: b₂ :: b₃ :: body).length : Except (Throwable HidFrameError) _) = .ok body :=
        copyOfRange_size (Nat.le_of_not_lt hshort)
      simp only [get_cons_succ, get_cons_zero, ok_bind, hbody]
      rw [or_eq_beU16, unsigned_eq]
      rfl

end WireProtocol

/-! ### USB/IP headers -/

/-- The same command over signed integers. -/
def CmdSubmit.signed (c : CmdSubmit) : UsbIpFrame.CmdSubmit where
  seqnum := c.seqnum.toInt32
  devid := c.devid.toInt32
  direction := c.direction.toInt32
  ep := c.ep.toInt32
  transferFlags := c.transferFlags.toInt32
  transferBufferLength := c.transferBufferLength.toInt32
  startFrame := c.startFrame.toInt32
  numberOfPackets := c.numberOfPackets.toInt32
  interval := c.interval.toInt32
  setup := c.setup

/-- The same command over signed integers. -/
def CmdUnlink.signed (u : CmdUnlink) : UsbIpFrame.CmdUnlink where
  seqnum := u.seqnum.toInt32
  devid := u.devid.toInt32
  direction := u.direction.toInt32
  ep := u.ep.toInt32
  unlinkSeqnum := u.unlinkSeqnum.toInt32

namespace UsbIpFrame

/-- What `parseCmdSubmit` makes of a refusal. -/
def submitError : Fault UrbError → Throwable FrameError
  | .err (.short len) => .io (.submitShort (Int32.ofNat len))
  | .err (.unknownCommand command) => .io (.expectedSubmit command.toInt32)
  | .panic => .indexOutOfBounds

/-- What `parseCmdUnlink` makes of a refusal. -/
def unlinkError : Fault UrbError → Throwable FrameError
  | .err (.short len) => .io (.unlinkShort (Int32.ofNat len))
  | .err (.unknownCommand command) => .io (.expectedUnlink command.toInt32)
  | .panic => .indexOutOfBounds

/-- What `unwrapImport` makes of a refusal. -/
def unwrapError : Fault UsbipError → Throwable UnwrapError
  | .err (.short len) => .io (.short (Int32.ofNat len))
  | .panic => .indexOutOfBounds

section Decoders

variable {buf : List UInt8} (h : buf.length < 2 ^ 31)

include h

/-- **The decoder of CMD_SUBMIT** is the Rust one. -/
theorem parseCmdSubmit_eq_parse :
    parseCmdSubmit buf =
      ((Zerowire.CmdSubmit.parse buf).map CmdSubmit.signed).mapError submitError := by
  rw [parseCmdSubmit_spec h, Zerowire.CmdSubmit.parse_eq]
  split_ifs
  · rfl
  · rfl
  · rfl

/-- **The decoder of CMD_UNLINK** is the Rust one. -/
theorem parseCmdUnlink_eq_parse :
    parseCmdUnlink buf =
      ((Zerowire.CmdUnlink.parse buf).map CmdUnlink.signed).mapError unlinkError := by
  rw [parseCmdUnlink_spec h, Zerowire.CmdUnlink.parse_eq]
  split_ifs
  · rfl
  · rfl
  · rfl

/-- **The decoder of the frame** is the Rust one. -/
theorem unwrapImport_eq_parse :
    unwrapImport buf =
      ((UsbipFrame.parse buf).map fun f => (f.importId.toInt32, f.raw)).mapError unwrapError := by
  rw [unwrapImport_spec h, UsbipFrame.parse_eq]
  split_ifs
  · rfl
  · rfl

end Decoders

end UsbIpFrame

/-! ### Interchangeability -/

open UsbIpFrame WireProtocol in
/-- **The codecs are interchangeable.**  What Rust encodes of a command, Kotlin decodes to the same
fields; what Kotlin encodes is what Rust encodes, whenever the frame is small enough for an array;
and on every array the decoders of the two languages read the same, and refuse it for the same
reason. -/
theorem codecs_agree {ε : Type} :
    (∀ c : CmdSubmit, parseCmdSubmit c.encode = .ok c.signed) ∧
    (∀ u : CmdUnlink, parseCmdUnlink u.encode = .ok u.signed) ∧
    (∀ (seqnum status actualLength startFrame numberOfPackets errorCount direction ep : Int32)
      (data : Jvm.Array), 48 + data.1.length < 2 ^ 31 →
      (encodeRetSubmit seqnum status actualLength data.1 startFrame numberOfPackets errorCount
          direction ep : Except (Throwable ε) _) =
        .ok (RetSubmit.encode ⟨seqnum.toUInt32, 0, direction.toUInt32, ep.toUInt32, status,
          actualLength.toUInt32, startFrame.toUInt32, numberOfPackets.toUInt32,
          errorCount.toUInt32⟩ ++ data.1)) ∧
    (∀ seqnum status direction ep devid : Int32,
      (encodeRetUnlink seqnum status direction ep devid : Except (Throwable ε) _) =
        .ok (RetUnlink.encode ⟨seqnum.toUInt32, devid.toUInt32, direction.toUInt32, ep.toUInt32,
          status⟩)) ∧
    (∀ (importId : Int32) (payload : Jvm.Array), 4 + payload.1.length < 2 ^ 31 →
      (wrapImport importId payload.1 : Except (Throwable ε) _) =
        .ok (UsbipFrame.encode ⟨importId.toUInt32, payload.1⟩)) ∧
    (∀ (f : HidFrame), 4 + f.body.length < 2 ^ 31 →
      (encodeHidFrame f.op (Int32.ofNat f.bindId.toNat) (Int32.ofNat f.seq.toNat) f.body :
        Except (Throwable ε) _) = .ok f.encode) ∧
    ∀ buf : Jvm.Array,
      parseCmdSubmit buf.1 =
        ((Zerowire.CmdSubmit.parse buf.1).map CmdSubmit.signed).mapError submitError ∧
      parseCmdUnlink buf.1 =
        ((Zerowire.CmdUnlink.parse buf.1).map CmdUnlink.signed).mapError unlinkError ∧
      unwrapImport buf.1 =
        ((UsbipFrame.parse buf.1).map fun f => (f.importId.toInt32, f.raw)).mapError unwrapError ∧
      parseHidFrame buf.1 =
        ((HidFrame.parse buf.1).map HidFrameView.ofFrame).mapError hidFrameError := by
  refine ⟨fun c => ?_, fun u => ?_, ?_, ?_, ?_, ?_, fun buf => ?_⟩
  · have hparse := CmdSubmit.parse_encode c []
    rw [List.append_nil] at hparse
    rw [parseCmdSubmit_eq_parse (by rw [CmdSubmit.length_encode]; decide), hparse]
    rfl
  · have hparse := CmdUnlink.parse_encode u []
    rw [List.append_nil] at hparse
    rw [parseCmdUnlink_eq_parse (by rw [CmdUnlink.length_encode]; decide), hparse]
    rfl
  · intro seqnum status actualLength startFrame numberOfPackets errorCount direction ep data hfits
    rw [encodeRetSubmit_all seqnum status actualLength data.2, if_pos hfits]
  · exact encodeRetUnlink_all
  · intro importId payload hfits
    rw [wrapImport_eq importId payload.2, if_pos hfits]
  · intro f hfits
    rw [encodeHidFrame_eq f (by omega), if_pos hfits]
  · exact ⟨parseCmdSubmit_eq_parse buf.2, parseCmdUnlink_eq_parse buf.2,
      unwrapImport_eq_parse buf.2, parseHidFrame_eq buf.2⟩

/-- A RET_SUBMIT with two bytes of data. -/
theorem codecs_agree_two :
    (UsbIpFrame.encodeRetSubmit 1 0 2 [7, 9] : Except (Throwable Empty) _) =
      .ok (RetSubmit.encode ⟨1, 0, 0, 0, 0, 2, 0, 0, 0⟩ ++ [7, 9]) :=
  codecs_agree.2.2.1 1 0 2 0 0 0 0 0 ⟨[7, 9], by decide⟩ (by decide)

/-- An array that is too large to have a header in front of it. -/
theorem encodeRetSubmit_largest :
    ∃ data : Jvm.Array, (UsbIpFrame.encodeRetSubmit 1 0 0 data.1 : Except (Throwable Empty) _) ≠
      .ok (RetSubmit.encode ⟨1, 0, 0, 0, 0, 0, 0, 0, 0⟩ ++ data.1) := by
  obtain ⟨data, hlen⟩ : ∃ data : List UInt8, data.length = 2 ^ 31 - 48 :=
    ⟨List.replicate (2 ^ 31 - 48) 0, List.length_replicate⟩
  have harray : data.length < 2 ^ 31 := by omega
  have hwraps : ¬ 48 + data.length < 2 ^ 31 := by omega
  refine ⟨⟨data, harray⟩, ?_⟩
  rw [UsbIpFrame.encodeRetSubmit_eq 1 0 0 harray, if_neg hwraps]
  intro h
  cases h

end Zerowire

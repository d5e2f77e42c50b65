/-
**HID frames** (`protocol/src/hid.rs`).

The fast lane for input devices has frames of its own inside the envelopes of its channel: an op,
the number of the binding, a sequence number and a body.  The body of a BIND_ACK is in two parts, a
JSON description of the device behind a 16-bit length, and the report descriptor.

Serialization to JSON is not part of the program: `Zerowire.Json` stands for it.

Main definitions:

* `Zerowire.HidOp`, `Zerowire.HidFrame` — the frames, with `parse` and `encode`;
* `Zerowire.BindRequest`, `Zerowire.BindAckMeta` — what BIND and BIND_ACK say;
* `Zerowire.encodeBindAckBody`, `Zerowire.parseBindAckBody` — the body of a BIND_ACK.

Main results:

* `Zerowire.HidFrame.parse_cons`, `Zerowire.HidFrame.parse_encode` — what the parser reads, and the
  round trip;
* `Zerowire.parseBindAckBody_encode` — the round trip for a body whose description is short enough.
-/

import Zerowire.Bytes

set_option relaxedAutoImplicit false
set_option autoImplicit false

namespace Zerowire

open Bytes

/-! ### JSON -/

/-- `serde_json` at one type: `to_vec` and `from_slice`. -/
structure Json (α : Type) where
  toVec : α → List UInt8
  fromSlice : List UInt8 → Option α

/-- A `serde_json` that knows a single value, with its text. -/
def Json.single {α : Type} (a : α) (text : List UInt8) : Json α where
  toVec _ := text
  fromSlice bs := if bs = text then some a else none

theorem Json.single_round {α : Type} (a : α) (text : List UInt8) :
    (Json.single a text).fromSlice ((Json.single a text).toVec a) = some a := if_pos rfl

/-- Coarse classification of an exposed HID device. -/
inductive DeviceKind where
  | mouse
  | keyboard
  | gamepad
  | other
  deriving Repr, DecidableEq

/-- The body of a BIND. -/
structure BindRequest where
  busid : String
  want : String
  deriving Repr, DecidableEq

/-- What a BIND_ACK says of the device. -/
structure BindAckMeta where
  busid : String
  kind : DeviceKind
  vendorId : UInt16
  productId : UInt16
  name : String
  deriving Repr, DecidableEq

/-! ### Frames -/

/-- `HID_HEADER_LEN`. -/
def hidHeaderLen : ℕ := 4

/-- `HidOp`. -/
inductive HidOp where
  | bind
  | bindAck
  | reportIn
  | reportOut
  | reportFeature
  | unbind
  deriving Repr, DecidableEq

/-- The op on the wire (`op as u8`). -/
def HidOp.toU8 : HidOp → UInt8
  | .bind => 0x01
  | .bindAck => 0x02
  | .reportIn => 0x10
  | .reportOut => 0x11
  | .reportFeature => 0x12
  | .unbind => 0x20

/-- `HidOp::from_u8`. -/
def HidOp.fromU8 (v : UInt8) : Option HidOp :=
  if v = 0x01 then some .bind
  else if v = 0x02 then some .bindAck
  else if v = 0x10 then some .reportIn
  else if v = 0x11 then some .reportOut
  else if v = 0x12 then some .reportFeature
  else if v = 0x20 then some .unbind
  else none

/-- `HidError`. -/
inductive HidError where
  | short (len : ℕ)
  | unknownOp (op : UInt8)
  /-- "bind_ack meta is not valid JSON". -/
  | badMeta
  deriving Repr, DecidableEq

/-- `HidFrame`. -/
@[ext] structure HidFrame where
  op : HidOp
  bindId : UInt8
  seq : UInt16
  body : List UInt8
  deriving Repr, DecidableEq

/-- `HidFrame::encode`. -/
def HidFrame.encode (f : HidFrame) : List UInt8 :=
  [f.op.toU8, f.bindId] ++ toBe16 f.seq ++ f.body

/-- `HidFrame::parse`. -/
def HidFrame.parse (payload : List UInt8) : Except (Fault HidError) HidFrame :=
  if payload.length < hidHeaderLen then .error (.err (.short payload.length))
  else do
    let b₀ ← index payload 0
    match HidOp.fromU8 b₀ with
    | none => throw (.err (.unknownOp b₀))
    | some op =>
        let bindId ← index payload 1
        let seq := beU16 (← index payload 2) (← index payload 3)
        return ⟨op, bindId, seq, ← sliceFrom payload hidHeaderLen⟩

/-! ### The body of a BIND_ACK -/

/-- `encode_bind_ack_body`; the length is cut down to 16 bits. -/
def encodeBindAckBody (json : Json BindAckMeta) (info : BindAckMeta)
    (reportDescriptor : List UInt8) :
    List UInt8 :=
  let metaJson := json.toVec info
  toBe16 (UInt16.ofNat metaJson.length) ++ metaJson ++ reportDescriptor

/-- `parse_bind_ack_body`. -/
def parseBindAckBody (json : Json BindAckMeta) (body : List UInt8) :
    Except (Fault HidError) (BindAckMeta × List UInt8) :=
  if body.length < 2 then .error (.err (.short body.length))
  else do
    let metaLen := (beU16 (← index body 0) (← index body 1)).toNat
    if body.length < 2 + metaLen then throw (.err (.short body.length))
    else
      match json.fromSlice (← slice body 2 (2 + metaLen)) with
      | none => throw (.err .badMeta)
      | some info => return (info, ← sliceFrom body (2 + metaLen))

/-! ### What the parsers read -/

theorem HidOp.fromU8_toU8 (op : HidOp) : HidOp.fromU8 op.toU8 = some op := by cases op <;> rfl

/-- A payload that is long enough for a header. -/
theorem exists_hid_header {payload : List UInt8} (h : ¬ payload.length < hidHeaderLen) :
    ∃ b₀ b₁ b₂ b₃ body, payload = b₀ :: b₁ :: b₂ :: b₃ :: body := by
  rw [hidHeaderLen] at h
  rcases payload with _ | ⟨b₀, _ | ⟨b₁, _ | ⟨b₂, _ | ⟨b₃, body⟩⟩⟩⟩
  · exact absurd (by simp) h
  · exact absurd (by simp) h
  · exact absurd (by simp) h
  · exact absurd (by simp) h
  · exact ⟨b₀, b₁, b₂, b₃, body, rfl⟩

/-- What the parser reads from a payload with a header. -/
theorem HidFrame.parse_cons (b₀ b₁ b₂ b₃ : UInt8) (body : List UInt8) :
    HidFrame.parse (b₀ :: b₁ :: b₂ :: b₃ :: body) =
      match HidOp.fromU8 b₀ with
      | none => .error (.err (.unknownOp b₀))
      | some op => .ok ⟨op, b₁, beU16 b₂ b₃, body⟩ := by
  have hlen : hidHeaderLen ≤ (b₀ :: b₁ :: b₂ :: b₃ :: body).length := by
    rw [hidHeaderLen]
    simp
  rw [HidFrame.parse, if_neg (Nat.not_lt.2 hlen), index_cons_zero, ok_bind]
  rcases HidOp.fromU8 b₀ with _ | op
  · rfl
  · simp only [index_cons_succ, index_cons_zero, ok_bind, sliceFrom_eq_ok hlen]
    rfl

/-- A payload that is too short is refused. -/
theorem HidFrame.parse_short {payload : List UInt8} (h : payload.length < hidHeaderLen) :
    HidFrame.parse payload = .error (.err (.short payload.length)) := by
  rw [HidFrame.parse, if_pos h]

/-- **The round trip of the frames.** -/
theorem HidFrame.parse_encode (f : HidFrame) : HidFrame.parse f.encode = .ok f := by
  have hcons : f.encode = f.op.toU8 :: f.bindId :: UInt8.ofNat (f.seq.toNat / 2 ^ 8) ::
      UInt8.ofNat f.seq.toNat :: f.body := rfl
  rw [hcons, HidFrame.parse_cons, HidOp.fromU8_toU8, beU16_toBe16]

/-- What is read from the body of a BIND_ACK. -/
theorem parseBindAckBody_cons (json : Json BindAckMeta) (b₀ b₁ : UInt8) (rest : List UInt8) :
    parseBindAckBody json (b₀ :: b₁ :: rest) =
      if rest.length < (beU16 b₀ b₁).toNat then .error (.err (.short (rest.length + 2)))
      else
        match json.fromSlice (rest.take (beU16 b₀ b₁).toNat) with
        | none => .error (.err .badMeta)
        | some info => .ok (info, rest.drop (beU16 b₀ b₁).toNat) := by
  have htwo : ¬ (b₀ :: b₁ :: rest).length < 2 := by simp
  rw [parseBindAckBody, if_neg htwo, index_cons_zero, ok_bind, index_cons_succ, index_cons_zero,
    ok_bind]
  simp only
  generalize (beU16 b₀ b₁).toNat = n
  have hlen : (b₀ :: b₁ :: rest).length = rest.length + 2 := rfl
  by_cases hshort : rest.length < n
  · rw [if_pos (by rw [hlen]; omega), if_pos hshort]
    rfl
  · have hslice : (slice (b₀ :: b₁ :: rest) 2 (2 + n) : Except (Fault HidError) _) =
        .ok (rest.take n) := by
      rw [slice_eq_ok (by omega) (by rw [hlen]; omega), Nat.add_comm 2 n]
      rfl
    have hfrom : (sliceFrom (b₀ :: b₁ :: rest) (2 + n) : Except (Fault HidError) _) =
        .ok (rest.drop n) := by
      rw [sliceFrom_eq_ok (by rw [hlen]; omega), Nat.add_comm 2 n]
      rfl
    rw [if_neg (by rw [hlen]; omega), if_neg hshort, hslice, ok_bind]
    rcases json.fromSlice (rest.take n) with _ | info
    · rfl
    · rw [hfrom]
      rfl

/-- **The round trip of a BIND_ACK body**, as long as the length of the description fits into
16 bits. -/
theorem parseBindAckBody_encode {json : Json BindAckMeta} {info : BindAckMeta}
    (hlen : (json.toVec info).length < 2 ^ 16)
    (hjson : json.fromSlice (json.toVec info) = some info)
    (reportDescriptor : List UInt8) :
    parseBindAckBody json (encodeBindAckBody json info reportDescriptor) =
      .ok (info, reportDescriptor) := by
  rw [encodeBindAckBody]
  generalize json.toVec info = metaJson at hlen hjson
  have hword : (UInt16.ofNat metaJson.length).toNat = metaJson.length := by
    rw [UInt16.toNat_ofNat', Nat.mod_eq_of_lt hlen]
  have hcons (w : UInt16) : toBe16 w ++ metaJson ++ reportDescriptor =
      UInt8.ofNat (w.toNat / 2 ^ 8) :: UInt8.ofNat w.toNat :: (metaJson ++ reportDescriptor) := rfl
  rw [hcons, parseBindAckBody_cons, beU16_toBe16, hword, if_neg (by rw [List.length_append]; omega),
    List.take_left' rfl, hjson, List.drop_left' rfl]

end Zerowire

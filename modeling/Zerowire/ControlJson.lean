/-
**The text of a control message** (`protocol/src/control.rs`).

`serde_json` prints a message as one object, with the field `op` first and the others in their
order.  The list of the devices can be of any length.  All other messages consist of a few strings
and numbers, and fit into an envelope unless one of their strings is out of proportion.

Main definitions:

* `Zerowire.SerdeJson.object`, `Zerowire.SerdeJson.array` — objects and arrays as `serde_json`
  prints them;
* `Zerowire.SerdeJson.controlText`, `Zerowire.SerdeJson.bindRequestText` — the texts of the
  messages;
* `Zerowire.Serde.Prints` — the serializations print these texts.

Main results:

* `Zerowire.SerdeJson.length_object_le` — how long an object is at most;
* `Zerowire.SerdeJson.length_controlText_le` — a message whose fields are short fits into an
  envelope.
-/

import Zerowire.BindAckJson
import Zerowire.Control

set_option relaxedAutoImplicit false
set_option autoImplicit false

namespace Zerowire

open Bytes

namespace SerdeJson

/-! ### Objects and arrays -/

/-- Several texts with commas between them. -/
def commaed (texts : List (List UInt8)) : List UInt8 := [44].intercalate texts

/-- An array of the given texts. -/
def array (texts : List (List UInt8)) : List UInt8 := 91 :: commaed texts ++ [93]

/-- An object with the given fields. -/
def object (fields : List (String × List UInt8)) : List UInt8 :=
  123 :: commaed (fields.map fun f => quoted f.1 ++ 58 :: f.2) ++ [125]

/-- `Option<String>`. -/
def optional : Option String → List UInt8
  | some s => quoted s
  | none => textBytes "null"

/-- `bool`. -/
def truth (b : Bool) : List UInt8 := textBytes (if b then "true" else "false")

theorem length_commaed_le {n : ℕ} {texts : List (List UInt8)} (h : ∀ t ∈ texts, t.length ≤ n) :
    (commaed texts).length ≤ texts.length * (n + 1) := by
  rw [commaed]
  induction texts with
  | nil => exact Nat.zero_le _
  | cons t texts ih =>
      have ht := h t List.mem_cons_self
      have hrest := ih fun t' ht' => h t' (List.mem_cons_of_mem t ht')
      rw [List.length_cons, Nat.succ_mul]
      cases texts with
      | nil =>
          rw [List.intercalate_singleton]
          omega
      | cons t' texts =>
          rw [List.intercalate_cons_cons, List.length_append, List.length_append,
            List.length_singleton]
          omega

/-- **How long an object is at most.** -/
theorem length_object_le {n : ℕ} {fields : List (String × List UInt8)}
    (h : ∀ f ∈ fields, (quoted f.1).length + f.2.length ≤ n) :
    (object fields).length ≤ fields.length * (n + 2) + 2 := by
  have hfields : (commaed (fields.map fun f => quoted f.1 ++ 58 :: f.2)).length ≤
      (fields.map fun f => quoted f.1 ++ 58 :: f.2).length * (n + 2) := by
    refine length_commaed_le fun t ht => ?_
    obtain ⟨f, hf, rfl⟩ := List.mem_map.1 ht
    have := h f hf
    rw [List.length_append, List.length_cons]
    omega
  rw [List.length_map] at hfields
  rw [object, List.length_append, List.length_cons, List.length_singleton]
  omega

/-! ### The messages -/

/-- `DeviceSummary`. -/
def deviceText (d : DeviceSummary) : List UInt8 :=
  object [("busid", quoted d.busid), ("vendor_id", digits d.vendorId.toNat),
    ("product_id", digits d.productId.toNat), ("manufacturer", optional d.manufacturer),
    ("product", optional d.product), ("serial", optional d.serial),
    ("device_class", digits d.deviceClass.toNat), ("device_subclass", digits d.deviceSubclass.toNat),
    ("device_protocol", digits d.deviceProtocol.toNat), ("is_hid", truth d.isHid)]

/-- The fields of a message behind its `op`. -/
def controlFields : ControlMessage → List (String × List UInt8)
  | .hello version client supports =>
      [("version", digits version.toNat), ("client", quoted client),
        ("supports", array (supports.map quoted))]
  | .helloAck senderId name supports =>
      [("sender_id", quoted senderId), ("name", quoted name),
        ("supports", array (supports.map quoted))]
  | .auth proofB64 => [("proof_b64", quoted proofB64)]
  | .authOk => []
  | .error code message => [("code", quoted code), ("message", quoted message)]
  | .listDevices => []
  | .deviceList devices => [("devices", array (devices.map deviceText))]
  | .attach busid mode => [("busid", quoted busid), ("mode", quoted mode)]
  | .attachOk busid importId => [("busid", quoted busid), ("import_id", digits importId.toNat)]
  -- `#[serde(flatten)]`
  | .attachOkUsbip info =>
      [("busid", quoted info.busid), ("import_id", digits info.importId.toNat),
        ("devid", digits info.devid.toNat), ("speed", digits info.speed.toNat),
        ("vendor_id", digits info.vendorId.toNat), ("product_id", digits info.productId.toNat),
        ("descriptor_hex", optional info.descriptorHex)]
  | .attachDenied busid reason => [("busid", quoted busid), ("reason", quoted reason)]

/-- `ControlMessage`. -/
def controlText (msg : ControlMessage) : List UInt8 :=
  object (("op", quoted msg.op) :: controlFields msg)

/-- `BindRequest`. -/
def bindRequestText (req : BindRequest) : List UInt8 :=
  object [("busid", quoted req.busid), ("want", quoted req.want)]

example : controlText (.attachOk "1-2" 7) =
    textBytes "\x7b\"op\":\"ATTACH_OK\",\"busid\":\"1-2\",\"import_id\":7\x7d" := by decide

/-! ### Their lengths -/

/-- The names of the fields are short. -/
theorem length_fieldName_le (msg : ControlMessage) :
    ∀ f ∈ controlFields msg, (quoted f.1).length ≤ 20 := by
  have hall : ((controlFields msg).all fun f => decide ((quoted f.1).length ≤ 20)) = true := by
    cases msg <;> rfl
  intro f hf
  exact of_decide_eq_true (List.all_eq_true.1 hall f hf)

/-- **A message whose fields are short** fits into an envelope. -/
theorem length_controlText_le {msg : ControlMessage}
    (h : ∀ f ∈ controlFields msg, f.2.length ≤ 2 ^ 15) : (controlText msg).length ≤ maxPayload := by
  have hop : (quoted "op").length + (quoted msg.op).length ≤ 2 ^ 15 + 20 := by
    cases msg <;> exact of_decide_eq_true rfl
  have hcount : (controlFields msg).length ≤ 7 := by
    cases msg <;> exact of_decide_eq_true rfl
  have hle : (object (("op", quoted msg.op) :: controlFields msg)).length ≤
      (("op", quoted msg.op) :: controlFields msg).length * (2 ^ 15 + 20 + 2) + 2 := by
    refine length_object_le fun f hf => ?_
    rcases List.mem_cons.1 hf with rfl | hf
    · exact hop
    · have hname := length_fieldName_le msg f hf
      have hvalue := h f hf
      omega
  rw [List.length_cons] at hle
  rw [controlText, maxPayload]
  omega

/-- A string that is no longer than a file of `/sys`. -/
def Short (s : String) : Prop := (textBytes s).length ≤ 4096

instance (s : String) : Decidable (Short s) := inferInstanceAs (Decidable (_ ≤ _))

theorem Short.length_quoted_le {s : String} (h : Short s) : (quoted s).length ≤ 2 ^ 15 := by
  have hquoted := length_quoted s
  rw [Short] at h
  omega

end SerdeJson

/-- **What `serde_json` prints** at the types of the protocol. -/
structure Serde.Prints (serde : Serde) : Prop where
  control : ∀ msg, serde.control.toVec msg = SerdeJson.controlText msg
  bindRequest : ∀ req, serde.bindRequest.toVec req = SerdeJson.bindRequestText req
  bindAckMeta : ∀ info, serde.bindAckMeta.toVec info = SerdeJson.bindAckText info

/-- A message whose fields are short fits into an envelope. -/
theorem Serde.Prints.fits {serde : Serde} (h : serde.Prints) {msg : ControlMessage}
    (hfields : ∀ f ∈ SerdeJson.controlFields msg, f.2.length ≤ 2 ^ 15) :
    (msg.envelope serde.control).Fits := by
  rw [Envelope.Fits, ControlMessage.envelope, h.control]
  exact SerdeJson.length_controlText_le hfields

end Zerowire

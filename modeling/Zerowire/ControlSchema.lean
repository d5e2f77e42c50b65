/-
**The control messages as JSON values** (`protocol/src/control.rs`, `protocol/src/usbip.rs`;
`android-sender/.../ReceiverSession.kt`, `UsbInventory.kt`).

The desktop declares its control messages, by the names and the types of their fields, and has
`serde` write and read them.  The phone puts its own together by hand, field by field, with another
library.  Here are the declarations, and what they say of the objects that the phone puts together.
The code that `serde` generates from them is not: where a session depends on what is read, that is a
hypothesis of its own on the library, for the messages of that session.

Main definitions:

* `Zerowire.deviceSummary`, `Zerowire.attachInfo` and the variants of `Zerowire.ControlVariant` —
  the declarations;
* `Zerowire.ControlMessage.tree`, `Zerowire.ControlMessage.ofObject` — the value that is declared
  for a message, and the message that an object is by the declarations;
* `Zerowire.Android.JsonValue.tree` — what the phone puts together, as a JSON value;
* `Zerowire.Android.UsbDevice.summary` — the device that the phone speaks of.

Main results:

* `Zerowire.SerdeJson.controlText_eq` — the text of a message is the one of its JSON value;
* `Zerowire.Android.phone_understood` — **the phone keeps to the declarations of the desktop**,
  unless a number of a device is out of range.
-/

import Zerowire.ControlJson
import Zerowire.JsonTree
import Zerowire.ReceiverSession

set_option relaxedAutoImplicit false
set_option autoImplicit false

namespace Zerowire

open Bytes JsonTree

/-! ### The declarations -/

/-- `u8`, `u16`, `u32`. -/
def u8 : Schema UInt8 :=
  .unsigned (2 ^ 8) UInt8.toNat UInt8.ofNat UInt8.toNat_lt (fun _ => UInt8.ofNat_toNat) fun _ h =>
    UInt8.toNat_ofNat_of_lt h
def u16 : Schema UInt16 :=
  .unsigned (2 ^ 16) UInt16.toNat UInt16.ofNat UInt16.toNat_lt (fun _ => UInt16.ofNat_toNat) fun _ h =>
    UInt16.toNat_ofNat_of_lt h
def u32 : Schema UInt32 :=
  .unsigned (2 ^ 32) UInt32.toNat UInt32.ofNat UInt32.toNat_lt (fun _ => UInt32.ofNat_toNat) fun _ h =>
    UInt32.toNat_ofNat_of_lt h

theorem u8_read (n : ℤ) :
    u8.read (.num n) = if 0 ≤ n ∧ n < 2 ^ 8 then some (UInt8.ofNat n.toNat) else none := rfl

theorem u16_read (n : ℤ) :
    u16.read (.num n) = if 0 ≤ n ∧ n < 2 ^ 16 then some (UInt16.ofNat n.toNat) else none := rfl

/-- `DeviceSummary`. -/
def deviceSummary : Record DeviceSummary :=
  (Record.field "busid" .string <| .field "vendor_id" u16 <| .field "product_id" u16 <|
    .option "manufacturer" .string <| .option "product" .string <| .option "serial" .string <|
    .field "device_class" u8 <| .field "device_subclass" u8 <| .field "device_protocol" u8 <|
    .field "is_hid" .truth .nil).as
    (fun (busid, vendorId, productId, manufacturer, product, serial, deviceClass, deviceSubclass,
        deviceProtocol, isHid, ()) =>
      { busid, vendorId, productId, manufacturer, product, serial, deviceClass, deviceSubclass,
        deviceProtocol, isHid })
    (fun d => (d.busid, d.vendorId, d.productId, d.manufacturer, d.product, d.serial, d.deviceClass,
      d.deviceSubclass, d.deviceProtocol, d.isHid, ()))
    (fun _ => rfl) fun _ => rfl

theorem deviceSummary_write (d : DeviceSummary) : deviceSummary.write d =
    [("busid", .str d.busid), ("vendor_id", .num d.vendorId.toNat), ("product_id", .num d.productId.toNat),
      ("manufacturer", Schema.string.writeOption d.manufacturer),
      ("product", Schema.string.writeOption d.product), ("serial", Schema.string.writeOption d.serial),
      ("device_class", .num d.deviceClass.toNat), ("device_subclass", .num d.deviceSubclass.toNat),
      ("device_protocol", .num d.deviceProtocol.toNat), ("is_hid", .bool d.isHid)] := rfl

/-- `UsbipAttachInfo`. -/
def attachInfo : Record AttachInfo :=
  (Record.field "busid" .string <| .field "import_id" u32 <| .field "devid" u32 <| .field "speed" u8 <|
    .field "vendor_id" u16 <| .field "product_id" u16 <| .option "descriptor_hex" .string .nil).as
    (fun (busid, importId, devid, speed, vendorId, productId, descriptorHex, ()) =>
      { busid, importId, devid, speed, vendorId, productId, descriptorHex })
    (fun info => (info.busid, info.importId, info.devid, info.speed, info.vendorId, info.productId,
      info.descriptorHex, ()))
    (fun _ => rfl) fun _ => rfl

/-! The fields of the variants. -/

namespace ControlVariant

def hello : Record (UInt8 × String × List String × Unit) :=
  .field "version" u8 <| .field "client" .string <| .field "supports" (.list .string) .nil
def helloAck : Record (String × String × List String × Unit) :=
  .field "sender_id" .string <| .field "name" .string <| .field "supports" (.list .string) .nil
def auth : Record (String × Unit) := .field "proof_b64" .string .nil
def error : Record (String × String × Unit) :=
  .field "code" .string <| .field "message" .string .nil
def deviceList : Record (List DeviceSummary × Unit) :=
  .field "devices" (.list (deviceSummary.schema (by decide))) .nil
def attach : Record (String × String × Unit) := .field "busid" .string <| .field "mode" .string .nil
def attachOk : Record (String × UInt32 × Unit) :=
  .field "busid" .string <| .field "import_id" u32 .nil
def attachDenied : Record (String × String × Unit) :=
  .field "busid" .string <| .field "reason" .string .nil

end ControlVariant

namespace ControlMessage

/-- The fields of a message behind its `op`; those of an `UsbipAttachInfo` are flattened. -/
def fields : ControlMessage → Fields
  | .hello version client supports => ControlVariant.hello.write (version, client, supports, ())
  | .helloAck senderId name supports => ControlVariant.helloAck.write (senderId, name, supports, ())
  | .auth proofB64 => ControlVariant.auth.write (proofB64, ())
  | .authOk => []
  | .error code message => ControlVariant.error.write (code, message, ())
  | .listDevices => []
  | .deviceList devices => ControlVariant.deviceList.write (devices, ())
  | .attach busid mode => ControlVariant.attach.write (busid, mode, ())
  | .attachOk busid importId => ControlVariant.attachOk.write (busid, importId, ())
  | .attachOkUsbip info => Zerowire.attachInfo.write info
  | .attachDenied busid reason => ControlVariant.attachDenied.write (busid, reason, ())

/-- **The value that is declared for a message.** -/
def tree (msg : ControlMessage) : JsonTree := .obj (("op", .str msg.op) :: msg.fields)

/-- The variant with the given `op`, from the fields of an object. -/
def ofVariant (op : String) (fs : Fields) : Option ControlMessage :=
  match op with
  | "HELLO" => (ControlVariant.hello.readFields fs).map fun (version, client, supports, ()) =>
      .hello version client supports
  | "HELLO_ACK" => (ControlVariant.helloAck.readFields fs).map fun (senderId, name, supports, ()) =>
      .helloAck senderId name supports
  | "AUTH" => (ControlVariant.auth.readFields fs).map fun (proofB64, ()) => .auth proofB64
  | "AUTH_OK" => some .authOk
  | "ERROR" => (ControlVariant.error.readFields fs).map fun (code, message, ()) =>
      .error code message
  | "LIST_DEVICES" => some .listDevices
  | "DEVICE_LIST" => (ControlVariant.deviceList.readFields fs).map fun (devices, ()) =>
      .deviceList devices
  | "ATTACH" => (ControlVariant.attach.readFields fs).map fun (busid, mode, ()) =>
      .attach busid mode
  | "ATTACH_OK" => (ControlVariant.attachOk.readFields fs).map fun (busid, importId, ()) =>
      .attachOk busid importId
  | "ATTACH_OK_USBIP" => (Zerowire.attachInfo.readFields fs).map .attachOkUsbip
  | "ATTACH_DENIED" => (ControlVariant.attachDenied.readFields fs).map fun (busid, reason, ()) =>
      .attachDenied busid reason
  | _ => none

/-- **The message that the fields of an object are** (`#[serde(tag = "op")]`). -/
def ofFields (fs : Fields) : Option ControlMessage :=
  (required Schema.string.read "op" fs).bind fun op => ofVariant op fs

end ControlMessage

/-- **The message that an object is**, by the declarations.  Of other values they say nothing. -/
def ControlMessage.ofObject : JsonTree → Option ControlMessage
  | .obj fs => ofFields fs
  | _ => none

/-- `DeviceKind` (`#[serde(rename_all = "lowercase")]`). -/
def DeviceKind.ofName : String → Option DeviceKind
  | "mouse" => some .mouse
  | "keyboard" => some .keyboard
  | "gamepad" => some .gamepad
  | "other" => some .other
  | _ => none

/-- The variant of an `enum`, as a string or as the key of an object. -/
def DeviceKind.ofTree : JsonTree → Option DeviceKind
  | .str name => ofName name
  | .obj [(name, .null)] => ofName name
  | _ => none

/-- `BindAckMeta`, from the fields of an object. -/
def BindAckMeta.ofFields (fs : Fields) : Option BindAckMeta := do
  let busid ← required Schema.string.read "busid" fs
  let kind ← required DeviceKind.ofTree "kind" fs
  let vendorId ← required u16.read "vendor_id" fs
  let productId ← required u16.read "product_id" fs
  let name ← required Schema.string.read "name" fs
  return { busid, kind, vendorId, productId, name }

/-- `BindAckMeta`, from an object. -/
def BindAckMeta.ofObject : JsonTree → Option BindAckMeta
  | .obj fs => ofFields fs
  | _ => none

/-! ### What the declarations say -/

namespace ControlMessage

variable {α : Type} {fs : Fields} {msg : ControlMessage}

/-- What is read of a variant is covered. -/
theorem covered_of_map {op : String} {r : Record α} {make : α → ControlMessage}
    (hmake : ∀ a, (make a).op = op ∧ (make a).fields = r.write a)
    (h : (r.readFields fs).map make = some msg) : msg.op = op ∧ Covered (.obj msg.fields)
    (.obj fs) := by
  obtain ⟨a, ha, rfl⟩ := Option.map_eq_some_iff.1 h
  obtain ⟨hop, hfields⟩ := hmake a
  exact ⟨hop, hfields ▸ (r.exactFields fs a).1 ha⟩

/-- What is covered is read. -/
theorem map_of_covered {r : Record α} {a : α} (h : Covered (.obj (r.write a)) (.obj fs))
    (make : α → ControlMessage) : (r.readFields fs).map make = some (make a) := by
  rw [(r.exactFields fs a).2 h, Option.map_some]

/-- What is read of any variant is covered. -/
theorem covered_of_ofVariant {op : String} (h : ofVariant op fs = some msg) :
    msg.op = op ∧ Covered (.obj msg.fields) (.obj fs) := by
  unfold ofVariant at h
  split at h
  · exact covered_of_map (fun _ => ⟨rfl, rfl⟩) h
  · exact covered_of_map (fun _ => ⟨rfl, rfl⟩) h
  · exact covered_of_map (fun _ => ⟨rfl, rfl⟩) h
  · cases h
    exact ⟨rfl, .empty fs⟩
  · exact covered_of_map (fun _ => ⟨rfl, rfl⟩) h
  · cases h
    exact ⟨rfl, .empty fs⟩
  · exact covered_of_map (fun _ => ⟨rfl, rfl⟩) h
  · exact covered_of_map (fun _ => ⟨rfl, rfl⟩) h
  · exact covered_of_map (fun _ => ⟨rfl, rfl⟩) h
  · exact covered_of_map (fun _ => ⟨rfl, rfl⟩) h
  · exact covered_of_map (fun _ => ⟨rfl, rfl⟩) h
  · cases h

/-- What is covered is read as the variant that it is. -/
theorem ofVariant_of_covered (h : Covered (.obj msg.fields) (.obj fs)) :
    ofVariant msg.op fs = some msg := by
  cases msg with
  | hello version client supports => exact map_of_covered h _
  | helloAck senderId name supports => exact map_of_covered h _
  | auth proofB64 => exact map_of_covered h _
  | authOk => rfl
  | error code message => exact map_of_covered h _
  | listDevices => rfl
  | deviceList devices => exact map_of_covered h _
  | attach busid mode => exact map_of_covered h _
  | attachOk busid importId => exact map_of_covered h _
  | attachOkUsbip info => exact map_of_covered h _
  | attachDenied busid reason => exact map_of_covered h _

/-- The message that the fields of an object are: all that is declared for it is there. -/
theorem ofFields_iff (fs : Fields) (msg : ControlMessage) :
    ofFields fs = some msg ↔ Covered msg.tree (.obj fs) := by
  rw [ofFields, Option.bind_eq_some_iff, tree, covered_obj_cons]
  constructor
  · rintro ⟨_, hop, h⟩
    obtain ⟨rfl, hcovered⟩ := covered_of_ofVariant h
    exact ⟨Schema.string.required_eq_some.1 hop, hcovered⟩
  · rintro ⟨hop, h⟩
    exact ⟨msg.op, Schema.string.required_eq_some.2 hop, ofVariant_of_covered h⟩

/-- The names of the fields, that of the `op` among them. -/
theorem names_nodup (msg : ControlMessage) : ("op" :: msg.fields.map Prod.fst).Nodup := by
  cases msg <;> simp only [fields, Record.names_eq, List.map_nil] <;> decide

/-- What is written of a message covers itself. -/
theorem covered_tree_self (msg : ControlMessage) : Covered msg.tree msg.tree := by
  refine covered_obj_self msg.names_nodup (List.forall_mem_cons.2 ⟨.str _, ?_⟩)
  cases msg with
  | hello version client supports => exact ControlVariant.hello.proper _
  | helloAck senderId name supports => exact ControlVariant.helloAck.proper _
  | auth proofB64 => exact ControlVariant.auth.proper _
  | authOk => simp [fields]
  | error code message => exact ControlVariant.error.proper _
  | listDevices => simp [fields]
  | deviceList devices => exact ControlVariant.deviceList.proper _
  | attach busid mode => exact ControlVariant.attach.proper _
  | attachOk busid importId => exact ControlVariant.attachOk.proper _
  | attachOkUsbip info => exact Zerowire.attachInfo.proper _
  | attachDenied busid reason => exact ControlVariant.attachDenied.proper _

end ControlMessage

/-! ### The texts -/

namespace SerdeJson

/-- An integer. -/
def number : ℤ → List UInt8
  | .ofNat n => digits n
  | .negSucc n => 45 :: digits (n + 1)

mutual

/-- `serde_json::to_vec`. -/
def treeText : JsonTree → List UInt8
  | .null => textBytes "null"
  | .bool b => truth b
  | .num n => number n
  | .str s => quoted s
  | .arr vs => array (treeTexts vs)
  | .obj fs => object (fieldTexts fs)

/-- The elements of an array. -/
def treeTexts : List JsonTree → List (List UInt8)
  | [] => []
  | v :: vs => treeText v :: treeTexts vs

/-- The fields of an object. -/
def fieldTexts : Fields → List (String × List UInt8)
  | [] => []
  | (name, v) :: fs => (name, treeText v) :: fieldTexts fs

end

theorem treeTexts_eq (vs : List JsonTree) : treeTexts vs = vs.map treeText := by
  induction vs with
  | nil => rfl
  | cons v vs ih => rw [treeTexts, ih, List.map_cons]

theorem treeText_writeOption (o : Option String) :
    treeText (Schema.string.writeOption o) = optional o := by
  cases o <;> rfl

theorem treeText_strings (ss : List String) :
    treeText ((Schema.list .string).write ss) = array (ss.map quoted) := by
  have hwrite : (Schema.list .string).write ss = .arr (ss.map .str) := rfl
  rw [hwrite, treeText, treeTexts_eq, List.map_map]
  rfl

/-- The text of a device. -/
theorem treeText_device (d : DeviceSummary) :
    treeText (.obj (deviceSummary.write d)) = deviceText d := by
  rw [deviceSummary_write]
  simp only [treeText, fieldTexts, treeText_writeOption]
  rfl

/-- **The text of a message is the one of its JSON value.** -/
theorem controlText_eq (msg : ControlMessage) : controlText msg = treeText msg.tree := by
  cases msg with
  | hello version client supports =>
      have hsupports := treeText_strings supports
      simp only [ControlMessage.tree, ControlMessage.fields, ControlVariant.hello, Record.field, Record.nil,
        treeText, fieldTexts, hsupports]
      rfl
  | helloAck senderId name supports =>
      have hsupports := treeText_strings supports
      simp only [ControlMessage.tree, ControlMessage.fields, ControlVariant.helloAck, Record.field, Record.nil,
        treeText, fieldTexts, hsupports]
      rfl
  | auth proofB64 => rfl
  | authOk => rfl
  | error code message => rfl
  | listDevices => rfl
  | deviceList devices =>
      have hlist : treeText ((Schema.list (deviceSummary.schema (by decide))).write devices) =
          array (devices.map deviceText) := by
        have hwrite : (Schema.list (deviceSummary.schema (by decide))).write devices =
            .arr (devices.map fun d => .obj (deviceSummary.write d)) := rfl
        rw [hwrite, treeText, treeTexts_eq, List.map_map]
        exact congrArg array (List.map_congr_left fun d _ => treeText_device d)
      simp only [ControlMessage.tree, ControlMessage.fields, ControlVariant.deviceList, Record.field,
        Record.nil, treeText, fieldTexts, hlist]
      rfl
  | attach busid mode => rfl
  | attachOk busid importId => rfl
  | attachOkUsbip info =>
      have hwrite : attachInfo.write info = [("busid", .str info.busid), ("import_id", .num info.importId.toNat),
        ("devid", .num info.devid.toNat), ("speed", .num info.speed.toNat),
        ("vendor_id", .num info.vendorId.toNat), ("product_id", .num info.productId.toNat),
        ("descriptor_hex", Schema.string.writeOption info.descriptorHex)] := rfl
      rw [ControlMessage.tree, ControlMessage.fields, hwrite]
      simp only [treeText, fieldTexts, treeText_writeOption]
      rfl
  | attachDenied busid reason => rfl

end SerdeJson

/-! ### What the phone says -/

namespace Android

mutual

/-- What the phone puts together, as a JSON value. -/
def JsonValue.tree : JsonValue → JsonTree
  | .string s => .str s
  | .int n => .num n.toInt
  | .bool b => .bool b
  | .array vs => .arr (treesOf vs)
  | .object fields => .obj (treeFields fields)

/-- The elements of an array. -/
def JsonValue.treesOf : List JsonValue → List JsonTree
  | [] => []
  | v :: vs => v.tree :: treesOf vs

/-- The fields of an object. -/
def JsonValue.treeFields : List (String × JsonValue) → Fields
  | [] => []
  | (name, v) :: fs => (name, v.tree) :: treeFields fs

end

theorem JsonValue.treesOf_eq (vs : List JsonValue) : treesOf vs = vs.map tree := by
  induction vs with
  | nil => rfl
  | cons v vs ih => rw [treesOf, ih, List.map_cons]

/-- **The numbers of a device are those of USB**: 16 bits for an identifier, and 8 for a class. -/
structure UsbDevice.InRange (d : UsbDevice) : Prop where
  vendorId : 0 ≤ d.vendorId.toInt ∧ d.vendorId.toInt < 2 ^ 16
  productId : 0 ≤ d.productId.toInt ∧ d.productId.toInt < 2 ^ 16
  deviceClass : 0 ≤ d.deviceClass.toInt ∧ d.deviceClass.toInt < 2 ^ 8
  deviceSubclass : 0 ≤ d.deviceSubclass.toInt ∧ d.deviceSubclass.toInt < 2 ^ 8
  deviceProtocol : 0 ≤ d.deviceProtocol.toInt ∧ d.deviceProtocol.toInt < 2 ^ 8

theorem UsbDevice.inRange_iff (d : UsbDevice) : d.InRange ↔
    ((0 ≤ d.vendorId.toInt ∧ d.vendorId.toInt < 2 ^ 16) ∧
      0 ≤ d.productId.toInt ∧ d.productId.toInt < 2 ^ 16) ∧
    (0 ≤ d.deviceClass.toInt ∧ d.deviceClass.toInt < 2 ^ 8) ∧
    (0 ≤ d.deviceSubclass.toInt ∧ d.deviceSubclass.toInt < 2 ^ 8) ∧
    0 ≤ d.deviceProtocol.toInt ∧ d.deviceProtocol.toInt < 2 ^ 8 :=
  ⟨fun h => ⟨⟨h.vendorId, h.productId⟩, h.deviceClass, h.deviceSubclass, h.deviceProtocol⟩,
    fun h => ⟨h.1.1, h.1.2, h.2.1, h.2.2.1, h.2.2.2⟩⟩

instance (d : UsbDevice) : Decidable d.InRange := decidable_of_iff _ d.inRange_iff.symm

/-- **The device that the phone speaks of**, as the desktop has it. -/
def UsbDevice.summary (d : UsbDevice) : DeviceSummary where
  busid := busidFor d
  vendorId := UInt16.ofNat d.vendorId.toInt.toNat
  productId := UInt16.ofNat d.productId.toInt.toNat
  manufacturer := d.manufacturerName
  product := d.productName
  serial := none
  deviceClass := UInt8.ofNat d.deviceClass.toInt.toNat
  deviceSubclass := UInt8.ofNat d.deviceSubclass.toInt.toNat
  deviceProtocol := UInt8.ofNat d.deviceProtocol.toInt.toNat
  isHid := d.interfaces.any (·.interfaceClass == 0x03)

/-- The fields of a device. -/
def UsbDevice.fields (d : UsbDevice) : Fields :=
  [("busid", .str (busidFor d)), ("vendor_id", .num d.vendorId.toInt),
    ("product_id", .num d.productId.toInt)] ++
  (d.manufacturerName.map fun s => ("manufacturer", JsonTree.str s)).toList ++
  (d.productName.map fun s => ("product", JsonTree.str s)).toList ++
  [("device_class", .num d.deviceClass.toInt), ("device_subclass", .num d.deviceSubclass.toInt),
    ("device_protocol", .num d.deviceProtocol.toInt),
    ("is_hid", .bool (d.interfaces.any (·.interfaceClass == 0x03)))]

theorem tree_summarize (d : UsbDevice) : (summarize d).tree = .obj d.fields := by
  obtain ⟨deviceName, vendorId, productId, manufacturer, product, -⟩ := d
  cases manufacturer <;> cases product <;> rfl

/-- The values of the fields of a device. -/
theorem UsbDevice.once_fields (d : UsbDevice) :
    once "busid" d.fields = some (some (.str (busidFor d))) ∧
      once "vendor_id" d.fields = some (some (.num d.vendorId.toInt)) ∧
      once "product_id" d.fields = some (some (.num d.productId.toInt)) ∧
      once "manufacturer" d.fields = some (d.manufacturerName.map .str) ∧
      once "product" d.fields = some (d.productName.map .str) ∧
      once "serial" d.fields = some none ∧
      once "device_class" d.fields = some (some (.num d.deviceClass.toInt)) ∧
      once "device_subclass" d.fields = some (some (.num d.deviceSubclass.toInt)) ∧
      once "device_protocol" d.fields = some (some (.num d.deviceProtocol.toInt)) ∧
      once "is_hid" d.fields =
        some (some (.bool (d.interfaces.any (·.interfaceClass == 0x03)))) := by
  obtain ⟨deviceName, vendorId, productId, manufacturer, product, -⟩ := d
  cases manufacturer <;> cases product <;> simp [once, UsbDevice.fields, theOnly]

/-- A name that may be missing. -/
theorem optional_string {name : String} {fs : Fields} {o : Option String}
    (h : once name fs = some (o.map .str)) :
    JsonTree.optional Schema.string.read name fs = some o := by
  rw [JsonTree.optional, h]
  cases o <;> rfl

/-- What is read of a device is read of one whose numbers are in range. -/
theorem UsbDevice.inRange_of_readFields {d : UsbDevice} {s : DeviceSummary}
    (h : deviceSummary.readFields d.fields = some s) : d.InRange := by
  obtain ⟨-, hvendor, hproduct, -, -, -, hclass, hsubclass, hprotocol, -⟩ := d.once_fields
  rw [deviceSummary.exactFields, covered_obj_iff, deviceSummary_write] at h
  have hnumber : ∀ {name : String} {n : ℕ} {m : ℤ}, CoveredField (name, .num n) d.fields →
      once name d.fields = some (some (.num m)) → m = n := by
    rintro name n m (⟨v, hv, hcovered⟩ | ⟨hnone, -⟩) honce
    · rw [honce] at hv
      cases hv
      cases hcovered
      rfl
    · rw [honce] at hnone
      cases hnone
  have hvendor := hnumber (h ("vendor_id", .num s.vendorId.toNat) (by simp)) hvendor
  have hproduct := hnumber (h ("product_id", .num s.productId.toNat) (by simp)) hproduct
  have hclass := hnumber (h ("device_class", .num s.deviceClass.toNat) (by simp)) hclass
  have hsubclass := hnumber (h ("device_subclass", .num s.deviceSubclass.toNat) (by simp)) hsubclass
  have hprotocol := hnumber (h ("device_protocol", .num s.deviceProtocol.toNat) (by simp)) hprotocol
  have h16 (n : UInt16) : 0 ≤ (n.toNat : ℤ) ∧ (n.toNat : ℤ) < 2 ^ 16 := by
    have := n.toNat_lt
    omega
  have h8 (n : UInt8) : 0 ≤ (n.toNat : ℤ) ∧ (n.toNat : ℤ) < 2 ^ 8 := by
    have := n.toNat_lt
    omega
  exact ⟨hvendor ▸ h16 _, hproduct ▸ h16 _, hclass ▸ h8 _, hsubclass ▸ h8 _, hprotocol ▸ h8 _⟩

/-- **What is read of a device of the phone.** -/
theorem UsbDevice.readFields_eq (d : UsbDevice) :
    deviceSummary.readFields d.fields = if d.InRange then some d.summary else none := by
  by_cases hd : d.InRange
  · obtain ⟨hbusid, hvendor, hproduct, hmanufacturer, hname, hserial, hclass, hsubclass, hprotocol, hhid⟩ :=
      d.once_fields
    have hmanufacturer := optional_string hmanufacturer
    have hname := optional_string hname
    have hserial := optional_string (o := none) hserial
    simp only [deviceSummary, Record.as, Record.field, Record.option, Record.nil, required, hbusid, hvendor,
      hproduct, hmanufacturer, hname, hserial, hclass, hsubclass, hprotocol, hhid, u16_read, u8_read]
    rw [if_pos hd, if_pos hd.vendorId, if_pos hd.productId, if_pos hd.deviceClass, if_pos hd.deviceSubclass,
      if_pos hd.deviceProtocol]
    rfl
  · rw [if_neg hd, Option.eq_none_iff_forall_ne_some]
    exact fun s h => hd (inRange_of_readFields h)

/-- The devices of a list are all read, or none is. -/
theorem readAll_summarize (ds : List UsbDevice) :
    Schema.readAll (deviceSummary.schema (by decide)).read (ds.map fun d => (summarize d).tree) =
      if ∀ d ∈ ds, d.InRange then some (ds.map UsbDevice.summary) else none := by
  induction ds with
  | nil => rfl
  | cons d ds ih =>
      have hread : (deviceSummary.schema (by decide)).read (summarize d).tree =
          if d.InRange then some d.summary else none := by
        rw [tree_summarize]
        exact d.readFields_eq
      rw [List.map_cons, Schema.readAll, hread, ih, List.map_cons]
      simp only [List.forall_mem_cons]
      by_cases hd : d.InRange
      · rw [if_pos hd, Option.bind_some]
        by_cases hds : ∀ d ∈ ds, d.InRange
        · rw [if_pos hds, if_pos ⟨hd, hds⟩, Option.map_some]
        · rw [if_neg hds, if_neg fun h => hds (And.right h), Option.map_none]
      · rw [if_neg hd, if_neg fun h => hd (And.left h), Option.bind_none]

/-- A list is read if all of its devices are. -/
theorem ofObject_devices (vs : List JsonTree) :
    ControlMessage.ofObject (.obj [("op", .str "DEVICE_LIST"), ("devices", .arr vs)]) =
      (Schema.readAll (deviceSummary.schema (by decide)).read vs).map .deviceList := by
  have hop : once "op" [("op", .str "DEVICE_LIST"), ("devices", .arr vs)] =
      some (some (.str "DEVICE_LIST")) := by simp [once, theOnly]
  have hdevices : once "devices" [("op", .str "DEVICE_LIST"), ("devices", .arr vs)] =
      some (some (.arr vs)) := by simp [once, theOnly]
  rw [ControlMessage.ofObject, ControlMessage.ofFields, required, hop]
  change (ControlVariant.deviceList.readFields _).map _ = _
  simp only [ControlVariant.deviceList, Record.field, Record.nil, required, hdevices]
  change Option.map _ ((Schema.readAll _ vs).bind _) = _
  cases Schema.readAll (deviceSummary.schema (by decide)).read vs <;> rfl

/-- The list of the phone, as it is read. -/
theorem ofObject_deviceListMessage (ds : List UsbDevice) :
    ControlMessage.ofObject (deviceListMessage ds).tree =
      if ∀ d ∈ ds, d.InRange then some (.deviceList (ds.map UsbDevice.summary)) else none := by
  have htree : (deviceListMessage ds).tree =
      .obj [("op", .str "DEVICE_LIST"), ("devices", .arr (ds.map fun d => (summarize d).tree))] := by
    rw [deviceListMessage, JsonValue.tree, JsonValue.treeFields, JsonValue.treeFields, JsonValue.tree,
      JsonValue.tree, JsonValue.treesOf_eq, List.map_map]
    rfl
  rw [htree, ofObject_devices, readAll_summarize]
  split_ifs <;> rfl

/-- The kind that the desktop takes the phone's for. -/
def deviceKind : HidDescriptor.Kind → DeviceKind
  | .mouse => .mouse
  | .keyboard => .keyboard
  | .gamepad => .gamepad
  | .other => .other

/-- What the phone says of a device that it streams. -/
def bindAckInfo (busid kind : String) (vendorId productId : Int32) (name : String) : JsonValue :=
  .object [("busid", .string busid), ("kind", .string kind), ("vendor_id", .int vendorId),
    ("product_id", .int productId), ("name", .string name)]

/-- **What is read of a device that is streamed.** -/
theorem ofObject_bindAckInfo (busid : String) (kind : HidDescriptor.Kind)
    (vendorId productId : Int32)
    (name : String) (hvendor : 0 ≤ vendorId.toInt ∧ vendorId.toInt < 2 ^ 16)
    (hproduct : 0 ≤ productId.toInt ∧ productId.toInt < 2 ^ 16) :
    BindAckMeta.ofObject (bindAckInfo busid (kindName kind) vendorId productId name).tree =
      some ⟨busid, deviceKind kind, UInt16.ofNat vendorId.toInt.toNat, UInt16.ofNat productId.toInt.toNat,
        name⟩ := by
  have hfields : (bindAckInfo busid (kindName kind) vendorId productId name).tree =
      .obj [("busid", .str busid), ("kind", .str (kindName kind)), ("vendor_id", .num vendorId.toInt),
        ("product_id", .num productId.toInt), ("name", .str name)] := rfl
  have hkind : DeviceKind.ofTree (.str (kindName kind)) = some (deviceKind kind) := by
    cases kind <;> rfl
  have hstring (s : String) : Schema.string.read (.str s) = some s := rfl
  have hvendor := (u16_read vendorId.toInt).trans (if_pos hvendor)
  have hproduct := (u16_read productId.toInt).trans (if_pos hproduct)
  rw [hfields, BindAckMeta.ofObject, BindAckMeta.ofFields]
  simp [required, once, theOnly, hkind, hstring, hvendor, hproduct]

/-- The value that is declared for a message is that message. -/
theorem ofObject_tree (msg : ControlMessage) : ControlMessage.ofObject msg.tree = some msg :=
  (ControlMessage.ofFields_iff _ msg).2 msg.covered_tree_self

/-- **The phone keeps to the declarations of the desktop.**  By them, what the phone says in a
session is the message that it means; and of its devices, the desktop has what the phone has,
exactly if no number of any of them is out of range: a single one is enough for the whole list to be
no message. -/
theorem phone_understood :
    (∀ senderId name, ControlMessage.ofObject (ReceiverSession.helloAck senderId name).tree =
      some (.helloAck senderId name ["hid-fastlane/1"])) ∧
    (∀ busid, ControlMessage.ofObject (ReceiverSession.attachOk busid).tree = some (.attachOk busid 1)) ∧
    (∀ busid reason, ControlMessage.ofObject (ReceiverSession.attachDenied busid reason).tree =
      some (.attachDenied busid reason)) ∧
    ∀ ds, ControlMessage.ofObject (deviceListMessage ds).tree =
      if ∀ d ∈ ds, d.InRange then some (.deviceList (ds.map UsbDevice.summary)) else none :=
  ⟨fun senderId name => ofObject_tree (.helloAck senderId name ["hid-fastlane/1"]),
    fun busid => ofObject_tree (.attachOk busid 1),
    fun busid reason => ofObject_tree (.attachDenied busid reason), ofObject_deviceListMessage⟩

end Android

end Zerowire

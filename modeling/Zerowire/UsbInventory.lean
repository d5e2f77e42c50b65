/-
**The phone's devices and its JSON** (`UsbInventory.kt`, `BindAckBody` of `WireProtocol.kt`).

The phone names a device after the last two parts of its path, `"/dev/bus/usb/001/002"` being
`"1-2"`, and falls back on the whole path.  Its messages are objects of `org.json`, which are put
together field by field: a field that is put with the value `null` is left out.

Main definitions:

* `Zerowire.Android.UsbDevice` — a device as the Android API shows it;
* `Zerowire.Android.JsonValue`, `Zerowire.Android.OrgJson` — the objects, and the library that
  prints and parses them;
* `Zerowire.Android.busidFor`, `Zerowire.Android.deviceListMessage` — the inventory;
* `Zerowire.Android.bindAckBody` — the body of a BIND_ACK.

Main results:

* `Zerowire.Android.length_bindAckBody` — the body is an array.
-/

import Zerowire.FrameCodecs
import Zerowire.HidDescriptor
import Zerowire.UsbIpHost

set_option relaxedAutoImplicit false
set_option autoImplicit false

namespace Zerowire.Android

open Bytes Jvm

/-! ### Devices -/

/-- A `UsbEndpoint`, with its direction and packet size. -/
structure UsbEndpoint extends Zerowire.UsbEndpoint where
  direction : Int32
  maxPacketSize : Int32
  deriving Repr, DecidableEq

/-- A `UsbInterface`, with its class. -/
structure UsbInterface where
  id : Int32
  interfaceClass : Int32
  endpoints : List UsbEndpoint
  deriving Repr, DecidableEq

/-- A `UsbDevice`. -/
structure UsbDevice where
  deviceName : String
  vendorId : Int32
  productId : Int32
  manufacturerName : Option String
  productName : Option String
  deviceClass : Int32
  deviceSubclass : Int32
  deviceProtocol : Int32
  interfaces : List UsbInterface
  deriving Repr, DecidableEq

/-- `UsbConstants`. -/
def usbClassHid : Int32 := 3
def usbDirIn : Int32 := 0x80

/-! ### JSON -/

/-- What is put into an object of `org.json`. -/
inductive JsonValue where
  | string (s : String)
  | int (n : Int32)
  | bool (b : Bool)
  | array (vs : List JsonValue)
  | object (fields : List (String × JsonValue))
  deriving Repr

/-- **The library** `org.json`: `JSONObject(text)`, of which only `optString` is used, and
`toString`.  Both go through UTF-8.  A text that is not an object makes the constructor throw. -/
structure OrgJson where
  parse : List UInt8 → Option (String → String)
  print : JsonValue → Jvm.Array

/-- `put(key, value)` of a string that may be `null`. -/
def putNullable (key : String) : Option String → List (String × JsonValue)
  | some s => [(key, .string s)]
  | none => []

mutual

/-- `toString`, where no string needs an escape. -/
def JsonValue.text : JsonValue → String
  | .string s => "\"" ++ s ++ "\""
  | .int n => toString n.toInt
  | .bool b => toString b
  | .array vs => "[" ++ textOfArray vs ++ "]"
  | .object fields => "\x7b" ++ textOfFields fields ++ "\x7d"

/-- The elements of an array. -/
def JsonValue.textOfArray : List JsonValue → String
  | [] => ""
  | [v] => v.text
  | v :: vs => v.text ++ "," ++ textOfArray vs

/-- The fields of an object. -/
def JsonValue.textOfFields : List (String × JsonValue) → String
  | [] => ""
  | [(key, v)] => "\"" ++ key ++ "\":" ++ v.text
  | (key, v) :: fields => "\"" ++ key ++ "\":" ++ v.text ++ "," ++ textOfFields fields

end

/-- The text as an array, if there is one of its size. -/
def JsonValue.print (v : JsonValue) : Jvm.Array :=
  if h : v.text.toUTF8.data.toList.length < 2 ^ 31 then ⟨v.text.toUTF8.data.toList, h⟩
  else Jvm.Array.empty

/-! ### The inventory -/

/-- The code points of the zeros of the decimal digits in the Basic Multilingual Plane. -/
def decimalZeros : List ℕ :=
  [0x30, 0x660, 0x6F0, 0x7C0, 0x966, 0x9E6, 0xA66, 0xAE6, 0xB66, 0xBE6, 0xC66, 0xCE6, 0xD66, 0xDE6,
    0xE50, 0xED0, 0xF20, 0x1040, 0x1090, 0x17E0, 0x1810, 0x1946, 0x19D0, 0x1A80, 0x1A90, 0x1B50,
    0x1BB0, 0x1C40, 0x1C50, 0xA620, 0xA8D0, 0xA900, 0xA9D0, 0xA9F0, 0xAA50, 0xABF0, 0xFF10]

/-- `Character.digit(c, 10)`. -/
def digitOf (c : Char) : Option ℕ :=
  (decimalZeros.find? fun first => decide (first ≤ c.toNat ∧ c.toNat < first + 10)).map (c.toNat - ·)

/-- The number with the given digits, in front of which `acc` has been read. -/
def digitsOf (acc : ℕ) : List Char → Option ℕ
  | [] => some acc
  | c :: cs =>
      match digitOf c with
      | none => none
      | some d => digitsOf (10 * acc + d) cs

/-- The `Int` with that sign and magnitude, if there is one. -/
def signed (negative : Bool) (n : ℕ) : Option Int :=
  if negative then (if n ≤ 2 ^ 31 then some (-n) else none)
  else (if n < 2 ^ 31 then some n else none)

/-- `String.toIntOrNull`. -/
def toIntOrNull (s : List Char) : Option Int :=
  match s with
  | [] => none
  | '-' :: cs => if cs = [] then none else (digitsOf 0 cs).bind (signed true)
  | '+' :: cs => if cs = [] then none else (digitsOf 0 cs).bind (signed false)
  | cs => (digitsOf 0 cs).bind (signed false)

/-- `UsbInventory.busidFor`. -/
def busidFor (d : UsbDevice) : String :=
  let parts := d.deviceName.toList.splitOn '/'
  match parts.drop (parts.length - 2) with
  | [bus, dev] =>
      match toIntOrNull bus, toIntOrNull dev with
      | some bus, some dev => s!"{bus}-{dev}"
      | _, _ => d.deviceName
  | _ => d.deviceName

/-- `UsbInventory.summarize`. -/
def summarize (d : UsbDevice) : JsonValue :=
  let isHid := d.interfaces.any (·.interfaceClass == 0x03)
  .object <|
    [("busid", .string (busidFor d)),
      ("vendor_id", .int d.vendorId),
      ("product_id", .int d.productId)] ++
    putNullable "manufacturer" d.manufacturerName ++
    putNullable "product" d.productName ++
    putNullable "serial" none ++
    [("device_class", .int d.deviceClass),
      ("device_subclass", .int d.deviceSubclass),
      ("device_protocol", .int d.deviceProtocol),
      ("is_hid", .bool isHid)]

/-- `UsbInventory.deviceListMessage`. -/
def deviceListMessage (devices : List UsbDevice) : JsonValue :=
  .object [("op", .string "DEVICE_LIST"), ("devices", .array (devices.map summarize))]

/-! ### The body of a BIND_ACK -/

/-- The `String` of each `Kind`, as `runHidBinding` maps it. -/
def kindName : HidDescriptor.Kind → String
  | .mouse => "mouse"
  | .keyboard => "keyboard"
  | .gamepad => "gamepad"
  | .other => "other"

/-- `BindAckBody.build`. -/
def bindAckBody {ε : Type} (json : OrgJson) (busid kind : String) (vendorId productId : Int32)
    (name : String) (reportDescriptor : List UInt8) : Except (Throwable ε) (List UInt8) := do
  let info := (json.print (.object [("busid", .string busid), ("kind", .string kind),
    ("vendor_id", .int vendorId), ("product_id", .int productId), ("name", .string name)])).val
  let out ← newByteArray (2 + size info + size reportDescriptor)
  let out ← put out 0 [((size info >>> 8).toUInt32 &&& 0xFF).toUInt8]
  let out ← put out 1 [((size info).toUInt32 &&& 0xFF).toUInt8]
  let out ← arraycopy info 0 out 2 info.length
  arraycopy reportDescriptor 0 out (2 + info.length) reportDescriptor.length

section Arrays

variable {ε : Type}

theorem length_of_newByteArray {n : Int32} {a : List UInt8}
    (h : (newByteArray n : Except (Throwable ε) _) = .ok a) : a.length < 2 ^ 31 := by
  rw [newByteArray] at h
  split_ifs at h
  cases h
  have hlt := n.toInt_lt
  rw [List.length_replicate, Int32.toNatClampNeg]
  omega

theorem length_of_put {a bs a' : List UInt8} {pos : ℕ}
    (h : (put a pos bs : Except (Throwable ε) _) = .ok a') : a'.length = a.length := by
  rw [put] at h
  split_ifs at h with hle
  cases h
  simp only [List.length_append, List.length_take, List.length_drop]
  omega

theorem length_of_arraycopy {src dst a : List UInt8} {srcPos dstPos n : ℕ}
    (h : (arraycopy src srcPos dst dstPos n : Except (Throwable ε) _) = .ok a) :
    a.length = dst.length := by
  rw [arraycopy] at h
  split_ifs at h
  exact length_of_put h

/-- **The body of a BIND_ACK is an array.** -/
theorem length_bindAckBody {json : OrgJson} {busid kind name : String} {vendorId productId : Int32}
    {reportDescriptor body : List UInt8}
    (h : (bindAckBody json busid kind vendorId productId name reportDescriptor :
      Except (Throwable ε) _) = .ok body) : body.length < 2 ^ 31 := by
  rw [bindAckBody] at h
  obtain ⟨a₀, h₀, h⟩ := bind_eq_ok h
  obtain ⟨a₁, h₁, h⟩ := bind_eq_ok h
  obtain ⟨a₂, h₂, h⟩ := bind_eq_ok h
  obtain ⟨a₃, h₃, h⟩ := bind_eq_ok h
  rw [length_of_arraycopy h, length_of_arraycopy h₃, length_of_put h₂, length_of_put h₁]
  exact length_of_newByteArray h₀

end Arrays

end Zerowire.Android

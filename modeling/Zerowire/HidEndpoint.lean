/-
**A HID device on the phone** (`HidEndpoint.kt`).

The phone opens the first HID interface of a device: it looks for an interface of the HID class and
its IN interrupt endpoint, opens the device, claims the interface and asks for the report
descriptor.  Then reports are read one by one, until the endpoint is closed.

The Android API is the surroundings of these programs.  What it throws may be an `IOException` or
any other exception.

Main definitions:

* `Zerowire.Android.PhoneOp`, `Zerowire.Android.phoneSig` — the Android API that a session uses;
* `Zerowire.Android.HidEndpoint` — a claimed interface;
* `Zerowire.Android.HidEndpoint.openOn`, `Zerowire.Android.HidEndpoint.readReport`,
  `Zerowire.Android.HidEndpoint.close` — the Kotlin functions.

Main results:

* `Zerowire.Android.HidEndpoint.kind_eq` — the kind of an endpoint is always found.
-/

import Zerowire.Trace
import Zerowire.UsbInventory

set_option relaxedAutoImplicit false
set_option autoImplicit false

namespace Zerowire.Android

open Bytes Jvm Program

/-! ### The Android API -/

/-- The messages of the `IOException`s of a session, with what they print. -/
inductive SessionException where
  | wire (e : WireProtocol.WireError)
  | frame (e : WireProtocol.HidFrameError)
  /-- "expected CONTROL, got ..". -/
  | expectedControl (got : Channel)
  /-- "expected op=.., got op=..". -/
  | expectedOp (op got : String)
  /-- "expected HID envelope, got ..". -/
  | expectedHid (got : Channel)
  /-- "expected Bind, got ..". -/
  | expectedBind (got : HidOp)
  /-- "failed to claim HID interface on ..". -/
  | failedToClaim (deviceName : String)
  /-- Thrown by the platform. -/
  | platform
  deriving Repr, DecidableEq

/-- What a call throws: an exception that its own code accounts for, or any other. -/
inductive Thrown where
  | threw (e : Throwable SessionException)
  | unchecked
  deriving Repr, DecidableEq

/-- `e is IOException`. -/
def Thrown.isIo : Thrown → Bool
  | .threw (.io _) => true
  | _ => false

/-- How a call ends. -/
abbrev Outcome (α : Type) := Except Thrown α

/-- A `UsbDeviceConnection`. -/
structure UsbDeviceConnection where
  handle : ℕ
  deriving Repr, DecidableEq

/-- What a session asks of the phone. -/
inductive PhoneOp where
  | setTcpNoDelay (on : Bool)
  | setSoTimeout (ms : Int32)
  | getInputStream
  | getOutputStream
  | closeSocket
  /-- `usbManager.deviceList.values`. -/
  | deviceList
  /-- The flag that `stop` clears. -/
  | running
  | openDevice (device : UsbDevice)
  | claimInterface (conn : UsbDeviceConnection) (iface : UsbInterface) (force : Bool)
  | controlTransfer (conn : UsbDeviceConnection) (requestType request value index : Int32)
      (buffer : List UInt8) (length timeout : Int32)
  | bulkTransfer (conn : UsbDeviceConnection) (endpoint : UsbEndpoint) (buffer : List UInt8)
      (length timeout : Int32)
  | releaseInterface (conn : UsbDeviceConnection) (iface : UsbInterface)
  | closeConnection (conn : UsbDeviceConnection)
  deriving Repr, DecidableEq

/-- What a transfer returns, and the contents of its buffer, of which the size stays the same. -/
abbrev Transferred (buffer : List UInt8) := Int32 × { b : List UInt8 // b.length = buffer.length }

/-- What the phone answers. -/
abbrev PhoneOp.Ans : PhoneOp → Type
  | .setTcpNoDelay _ => Outcome Unit
  | .setSoTimeout _ => Outcome Unit
  | .getInputStream => Outcome Unit
  | .getOutputStream => Outcome Unit
  | .closeSocket => Outcome Unit
  | .deviceList => Outcome (List UsbDevice)
  | .running => Bool
  | .openDevice _ => Outcome (Option UsbDeviceConnection)
  | .claimInterface _ _ _ => Outcome Bool
  | .controlTransfer _ _ _ _ _ buffer _ _ => Outcome (Transferred buffer)
  | .bulkTransfer _ _ buffer _ _ => Outcome (Transferred buffer)
  | .releaseInterface _ _ => Outcome Bool
  | .closeConnection _ => Outcome Unit

/-- The phone, as surroundings of a program. -/
abbrev phoneSig : Sig := ⟨PhoneOp, PhoneOp.Ans⟩

/-- Call the phone. -/
def ask (o : PhoneOp) : Prog phoneSig o.Ans := Prog.call (X := phoneSig) o Prog.ret

/-- Call the phone, and throw what it throws. -/
def orThrow {α : Type} (p : Prog phoneSig (Outcome α)) : Act phoneSig Thrown α := ExceptT.mk p

/-- A computation on arrays. -/
def onArrays {α : Type} (r : Except (Throwable SessionException) α) : Act phoneSig Thrown α :=
  ofResult (r.mapError .threw)

/-! ### Endpoints -/

/-- **A claimed interface.**  The report descriptor is an array. -/
structure HidEndpoint where
  device : UsbDevice
  connection : UsbDeviceConnection
  iface : UsbInterface
  endpointIn : UsbEndpoint
  reportDescriptor : Jvm.Array
  deriving DecidableEq

/-- `a.copyOf(n)`, with its size. -/
def copyOfArray {ε : Type} (a : List UInt8) (n : Int32) : Except (Throwable ε) Jvm.Array :=
  if n < 0 then .error .negativeArraySize
  else .ok ⟨a.take n.toNatClampNeg ++ List.replicate (n.toNatClampNeg - a.length) 0, by
    have hlt := n.toInt_lt
    rw [List.length_append, List.length_take, List.length_replicate, Int32.toNatClampNeg]
    omega⟩

namespace HidEndpoint

/-- `REQUEST_TYPE_GET_DESCRIPTOR`, `REQUEST_GET_DESCRIPTOR`, `DESCRIPTOR_TYPE_HID_REPORT`. -/
def requestTypeGetDescriptor : Int32 := 0x81
def requestGetDescriptor : Int32 := 0x06
def descriptorTypeHidReport : Int32 := 0x22

/-- `fetchReportDescriptor`: empty if the transfer fails. -/
def fetchReportDescriptor (conn : UsbDeviceConnection) (ifaceId : Int32) :
    Act phoneSig Thrown Jvm.Array := do
  let buf ← onArrays (newByteArray 4096)
  let (n, buf) ← orThrow (ask (.controlTransfer conn requestTypeGetDescriptor requestGetDescriptor
    (descriptorTypeHidReport <<< 8) ifaceId buf (size buf) 2000))
  if n ≤ 0 then return Jvm.Array.empty
  else onArrays (copyOfArray buf n)

/-- `HidEndpoint.open`: `none` if the device has no HID interface with an IN interrupt endpoint, or
it could not be opened or claimed. -/
def openOn (device : UsbDevice) : Act phoneSig Thrown (Option HidEndpoint) :=
  match device.interfaces.find? (·.interfaceClass == usbClassHid) with
  | none => return none
  | some hidIface =>
      match hidIface.endpoints.find? fun ep => ep.direction == usbDirIn && ep.type == xferInt with
      | none => return none
      | some epIn => do
          match ← orThrow (ask (.openDevice device)) with
          | none => return none
          | some conn => do
              if ← orThrow (ask (.claimInterface conn hidIface true)) then do
                let rd ← fetchReportDescriptor conn hidIface.id
                return some ⟨device, conn, hidIface, epIn, rd⟩
              else do
                orThrow (ask (.closeConnection conn))
                return none

/-- `readReport`: `none` if there is nothing to be read. -/
def readReport (ep : HidEndpoint) (timeoutMs : Int32) : Act phoneSig Thrown (Option Jvm.Array) := do
  let buf ← onArrays (newByteArray ep.endpointIn.maxPacketSize)
  let (n, buf) ← orThrow (ask (.bulkTransfer ep.connection ep.endpointIn buf (size buf) timeoutMs))
  if n > 0 then do
    let report ← onArrays (copyOfArray buf n)
    return some report
  else return none

/-- `close`: what is thrown is ignored. -/
def close (ep : HidEndpoint) : Prog phoneSig Unit := do
  let _ ← ask (.releaseInterface ep.connection ep.iface)
  let _ ← ask (.closeConnection ep.connection)
  return ()

/-- `kind`.  The walk ends before the fuel does. -/
def kind {ε : Type} (ep : HidEndpoint) : Except (Throwable ε) HidDescriptor.Kind :=
  (HidDescriptor.classifyDescriptor (ep.reportDescriptor.val.length + 1)
    ep.reportDescriptor.val).getD (.ok .other)

/-- **The kind of an endpoint is always found**: the fuel does not run out. -/
theorem kind_eq {ε : Type} (ep : HidEndpoint) :
    HidDescriptor.classifyDescriptor (ep.reportDescriptor.val.length + 1) ep.reportDescriptor.val =
      some (ep.kind : Except (Throwable ε) _) := by
  rw [kind, HidDescriptor.classifyDescriptor_eq ep.reportDescriptor.property (Nat.lt_succ_self _)]
  rfl

end HidEndpoint

end Zerowire.Android

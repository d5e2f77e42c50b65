/-
**The sender for Linux** (`desktop-linux/src/bin/linux_sender.rs`).

On Linux the part of the phone can be played by a program that reads `/dev/hidraw*`.  It lists the
devices it finds, answers a receiver, and sends the reports of the device the receiver has chosen,
until the device is gone or the socket is.

What is found under `/sys/class/hidraw` is the surroundings' answer, and so are the reports.

Main definitions:

* `Zerowire.ExposedHidraw`, `Zerowire.linuxSig` — the devices, and what the program asks of its
  surroundings;
* `Zerowire.LinuxSender.serveSession` — the session, from HELLO to UNBIND;
* `Zerowire.LinuxSender.kindFor`, `Zerowire.LinuxSender.pumpRound` — the kind of a device and one
  round of the loop over its reports.

Main results:

* `Zerowire.LinuxSender.hidEnvelope_of_fits` — a frame that fits is put into an envelope;
* `Zerowire.LinuxSender.unrolled_eq` — the session is a handshake, a BIND_ACK and what follows it.
-/

import Zerowire.Control
import Zerowire.HidDescriptor
import Zerowire.Monitor

set_option relaxedAutoImplicit false
set_option autoImplicit false

namespace Zerowire

open Bytes Program

/-! ### Devices and surroundings -/

/-- `ExposedHidraw`: a device that is exposed, with the class and the protocol of its interface. -/
structure ExposedHidraw where
  summary : DeviceSummary
  hidrawPath : String
  interfaceClass : UInt8
  interfaceProtocol : UInt8
  deriving Repr, DecidableEq

/-- What a non-blocking read of a device file comes to. -/
inductive HidrawRead where
  /-- At most as many bytes as the buffer has room for, and at least one. -/
  | report (bs : { bs : List UInt8 // 0 < bs.length ∧ bs.length ≤ 64 })
  | eof
  | wouldBlock
  | failed (text : String)
  deriving DecidableEq

/-- What the sender asks of its surroundings. -/
inductive LinuxOp where
  /-- `enumerate_hidraw_devices`. -/
  | enumerate
  /-- `File::open`. -/
  | openHidraw (path : String)
  | setNonblocking
  | read
  | sleep
  deriving Repr, DecidableEq

/-- The answers. -/
@[reducible] def LinuxOp.Ans : LinuxOp → Type
  | .enumerate => Except String (List ExposedHidraw)
  | .openHidraw _ => Except String Unit
  | .setNonblocking => Except String Unit
  | .read => HidrawRead
  | .sleep => Unit

/-- The surroundings of the sender. -/
abbrev linuxSig : Sig := ⟨LinuxOp, LinuxOp.Ans⟩

/-- What makes a session fail. -/
inductive LinuxError where
  | control (e : ControlError)
  | recv (e : RecvError)
  /-- "expected HELLO, got ..". -/
  | expectedHello (other : ControlMessage)
  /-- "expected LIST_DEVICES, got ..". -/
  | expectedListDevices (other : ControlMessage)
  /-- "expected ATTACH, got ..". -/
  | expectedAttach (other : ControlMessage)
  /-- "receiver asked for busid .., we don't expose it". -/
  | notExposed (busid : String)
  /-- "expected HID envelope after ATTACH_OK, got ..". -/
  | expectedHid (got : Channel)
  | frame (e : HidError)
  /-- "expected HID Bind, got ..". -/
  | expectedBind (got : HidOp)
  /-- "parsing BindRequest body". -/
  | bindRequest
  /-- "bind busid .. != attached ..". -/
  | bindBusid (got attached : String)
  | enumerate (text : String)
  | hidraw (text : String)
  | write
  deriving Repr, DecidableEq

namespace LinuxSender

/-! ### The source -/

/-- `hid_envelope`; `expect` panics where the frame does not fit. -/
def hidEnvelope {ε : Type} (f : HidFrame) : Except (Fault ε) (List UInt8) :=
  match (⟨.hid, f.encode⟩ : Envelope).encode with
  | .ok bs => .ok bs
  | .error _ => .error .panic

/-- `kind_for`. -/
def kindFor (d : ExposedHidraw) : DeviceKind :=
  if d.interfaceClass = 0x03 then
    if d.interfaceProtocol = 1 then .keyboard
    else if d.interfaceProtocol = 2 then .mouse
    else .other
  else .other

/-- `mouse_descriptor`. -/
def mouseDescriptor : List UInt8 :=
  [0x05, 0x01, 0x09, 0x02, 0xA1, 0x01, 0x09, 0x01, 0xA1, 0x00, 0x05, 0x09, 0x19, 0x01, 0x29, 0x05,
    0x15, 0x00, 0x25, 0x01, 0x95, 0x05, 0x75, 0x01, 0x81, 0x02, 0x95, 0x01, 0x75, 0x03, 0x81, 0x03,
    0x05, 0x01, 0x09, 0x30, 0x09, 0x31, 0x09, 0x38, 0x15, 0x81, 0x25, 0x7F, 0x75, 0x08, 0x95, 0x03,
    0x81, 0x06, 0xC0, 0xC0]

/-- The descriptor that is sent for a kind. -/
def descriptorFor : DeviceKind → List UInt8
  | .mouse => mouseDescriptor
  | .keyboard => HidDescriptor.keyboardDescriptor
  | .gamepad | .other => []

/-- What the BIND_ACK says of a device. -/
def metaFor (d : ExposedHidraw) : BindAckMeta where
  busid := d.summary.busid
  kind := kindFor d
  vendorId := d.summary.vendorId
  productId := d.summary.productId
  name := d.summary.product.getD ("hidraw " ++ d.hidrawPath)

/-- The BIND_ACK. -/
def ackFor (serde : Serde) (d : ExposedHidraw) (bindId : UInt8) : HidFrame where
  op := .bindAck
  bindId := bindId
  seq := 0
  body := encodeBindAckBody serde.bindAckMeta (metaFor d) (descriptorFor (metaFor d).kind)

/-- A call that may fail. -/
def orFail {α : Type} (f : String → LinuxError) (r : Except String α) :
    Act linuxSig (Fault LinuxError) α :=
  ofResult (Fault.lift (r.mapError f))

section Session

variable (serde : Serde) (name : String)

/-- `recv_control(&mut sock)?`. -/
def recvControl : Act linuxSig (Fault LinuxError) ControlMessage :=
  mapErr (Fault.map .control) (Wire.recvControl serde.control)

/-- `send_control(&mut sock, ..)?`. -/
def sendControl (msg : ControlMessage) : Act linuxSig (Fault LinuxError) Unit :=
  mapErr (Fault.map .control) (Wire.sendControl serde.control msg)

/-- `sock.write_all(&hid_envelope(..))`, and whether it went through. -/
def writeFrame (f : HidFrame) : Act linuxSig (Fault LinuxError) Bool := do
  let bytes ← ofResult (hidEnvelope f)
  writeAll bytes

/-- The check of the HELLO. -/
def helloOf : ControlMessage → Except (Fault LinuxError) Unit
  | .hello _ _ _ => .ok ()
  | other => .error (.err (.expectedHello other))

/-- The check of the LIST_DEVICES. -/
def listDevicesOf : ControlMessage → Except (Fault LinuxError) Unit
  | .listDevices => .ok ()
  | other => .error (.err (.expectedListDevices other))

/-- The busid that an ATTACH names; its mode is not looked at. -/
def attachOf : ControlMessage → Except (Fault LinuxError) String
  | .attach busid _ => .ok busid
  | other => .error (.err (.expectedAttach other))

/-- The device with the given busid. -/
def chosenOf (devices : List ExposedHidraw) (busid : String) :
    Except (Fault LinuxError) ExposedHidraw :=
  match devices.find? fun d => decide (d.summary.busid = busid) with
  | some d => .ok d
  | none => .error (.err (.notExposed busid))

/-- The checks of the BIND: its identifier, if it is one for the chosen device. -/
def bindOf (chosen : ExposedHidraw) (e : OwnedEnvelope) : Except (Fault LinuxError) UInt8 :=
  if e.channel ≠ .hid then .error (.err (.expectedHid e.channel))
  else do
    let f ← (HidFrame.parse e.payload).mapError (Fault.map .frame)
    if f.op ≠ .bind then throw (.err (.expectedBind f.op))
    else
      match serde.bindRequest.fromSlice f.body with
      | none => throw (.err .bindRequest)
      | some req =>
          if req.busid ≠ chosen.summary.busid then
            throw (.err (.bindBusid req.busid chosen.summary.busid))
          else return if f.bindId = 0 then 1 else f.bindId

/-- `serve_session` up to the answer to the ATTACH: the device that has been chosen. -/
def handshake : Act linuxSig (Fault LinuxError) ExposedHidraw := do
  ofResult (helloOf (← recvControl serde))
  sendControl serde (.helloAck "linux-sender" name ["hid-fastlane/1"])
  let devices ← orFail .enumerate (← call (X := linuxSig) .enumerate)
  ofResult (listDevicesOf (← recvControl serde))
  sendControl serde (.deviceList (devices.map (·.summary)))
  let busid ← ofResult (attachOf (← recvControl serde))
  let chosen ← ofResult (chosenOf devices busid)
  sendControl serde (.attachOk chosen.summary.busid 1)
  return chosen

/-- `serve_session` from the BIND to the BIND_ACK: the identifier of the binding. -/
def acknowledge (chosen : ExposedHidraw) : Act linuxSig (Fault LinuxError) UInt8 := do
  let e ← mapErr (Fault.map .recv) Wire.recvEnvelope
  let bindId ← ofResult (bindOf serde chosen e)
  if ← writeFrame (ackFor serde chosen bindId) then return bindId
  else throw (.err .write)

/-- `pump_reports` before its loop. -/
def openPump (chosen : ExposedHidraw) : Act linuxSig (Fault LinuxError) Unit := do
  orFail .hidraw (← call (X := linuxSig) (.openHidraw chosen.hidrawPath))
  orFail .hidraw (← call (X := linuxSig) .setNonblocking)

/-- What the loop of `pump_reports` keeps: the identifier of the binding and the last sequence
number. -/
structure Pump where
  bindId : UInt8
  seq : UInt16 := 0
  deriving Repr, DecidableEq

/-- One round of the loop of `pump_reports`; the right summand is `return Ok(())`. -/
def pumpRound (p : Pump) : Act linuxSig (Fault LinuxError) (Pump ⊕ UInt8) := do
  match ← call (X := linuxSig) .read with
  | .eof => return .inr p.bindId
  | .report bs =>
      if ← writeFrame ⟨.reportIn, p.bindId, p.seq + 1, bs.val⟩ then
        return .inl { p with seq := p.seq + 1 }
      else return .inr p.bindId
  | .wouldBlock => do
      call (X := linuxSig) .sleep
      return .inl p
  | .failed text => throw (.err (.hidraw text))

/-- "{"reason":"hidraw stream ended"}". -/
def unbindBody : List UInt8 :=
  "\x7b\"reason\":\"hidraw stream ended\"\x7d".toUTF8.data.toList

/-- The UNBIND; whether it goes through does not matter. -/
def unbind (bindId : UInt8) : Act linuxSig (Fault LinuxError) Unit := do
  let _ ← writeFrame ⟨.unbind, bindId, 0, unbindBody⟩
  return ()

/-- **`serve_session`**, as a program with one loop. -/
def serveSession : Looped linuxSig (Fault LinuxError) Pump UInt8 Unit where
  start := do
    let chosen ← handshake serde name
    let bindId ← acknowledge serde chosen
    openPump chosen
    return .inl { bindId }
  round := pumpRound
  finish := unbind

end Session

/-! ### Frames in envelopes -/

/-- A frame that fits is put into an envelope. -/
theorem hidEnvelope_of_fits {ε : Type} {f : HidFrame} (h : (⟨.hid, f.encode⟩ : Envelope).Fits) :
    (hidEnvelope f : Except (Fault ε) _) = .ok (⟨.hid, f.encode⟩ : Envelope).bytes := by
  rw [hidEnvelope, Envelope.encode_of_fits h]

/-- One that does not makes the sender panic. -/
theorem hidEnvelope_of_not_fits {ε : Type} {f : HidFrame}
    (h : ¬ (⟨.hid, f.encode⟩ : Envelope).Fits) :
    (hidEnvelope f : Except (Fault ε) _) = .error .panic := by
  rw [hidEnvelope, Envelope.encode_of_not_fits h]

/-! ### The session in parts -/

/-- The device with the given busid. -/
def deviceWith (xs : List ExposedHidraw) (busid : String) : Option ExposedHidraw :=
  xs.find? fun d => decide (d.summary.busid = busid)

/-- The messages of the sender. -/
def helloAck (name : String) : ControlMessage := .helloAck "linux-sender" name ["hid-fastlane/1"]
def deviceList (xs : List ExposedHidraw) : ControlMessage := .deviceList (xs.map (·.summary))
def attachOk (d : ExposedHidraw) : ControlMessage := .attachOk d.summary.busid 1

section Session

variable {serde : Serde} {name : String}

/-- What is behind the BIND_ACK. -/
def afterAck (d : ExposedHidraw) (fuel : ℕ) (bindId : UInt8) :
    Act linuxSig (Stop (Fault LinuxError)) Unit := do
  match ← mapErr .failed (openPump d >>= fun _ =>
      (return .inl { bindId } : Act linuxSig (Fault LinuxError) (Pump ⊕ UInt8))) with
  | .inl p => do
      let c ← unroll (fun p => mapErr .failed (pumpRound p)) fuel p
      mapErr .failed (unbind c)
  | .inr c => mapErr .failed (unbind c)

/-- The unrolled session, cut at the answer to the ATTACH and at the BIND_ACK. -/
theorem unrolled_eq (fuel : ℕ) :
    (serveSession serde name).unrolled fuel =
      (mapErr .failed (handshake serde name) >>= fun d =>
        mapErr .failed (acknowledge serde d) >>= afterAck d fuel) := by
  rw [Looped.unrolled, serveSession]
  simp only [mapErr_bind]
  rw [bind_assoc]
  refine bind_congr fun d => ?_
  rw [bind_assoc]
  refine bind_congr fun bindId => ?_
  rw [afterAck, mapErr_bind]
  refine bind_congr fun r => ?_
  rcases r with p | c <;> rfl

/-- What is made of a HID frame. -/
theorem bindOf_hid (d : ExposedHidraw) (f : HidFrame) :
    bindOf serde d ⟨.hid, f.encode⟩ =
      if f.op ≠ .bind then .error (.err (.expectedBind f.op))
      else match serde.bindRequest.fromSlice f.body with
        | none => .error (.err .bindRequest)
        | some req =>
            if req.busid ≠ d.summary.busid then
              .error (.err (.bindBusid req.busid d.summary.busid))
            else .ok (if f.bindId = 0 then 1 else f.bindId) := by
  rw [bindOf, if_neg (fun hne => hne rfl), HidFrame.parse_encode]
  rfl

end Session

end LinuxSender

end Zerowire

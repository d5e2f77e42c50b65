/-
**The session of the phone** (`ReceiverSession.kt`).

One connection of a receiver runs through a fixed order of messages, HELLO, LIST_DEVICES, ATTACH and
a HID Bind, before a device is opened; then the reports of the device are sent until it or the peer
is gone.  Whatever is thrown on the way, an endpoint that was opened is closed, and so is the
socket.

The session is a program over envelopes and endpoints.  Behind its calls are the programs for the
envelopes, over the byte stream, and for the endpoints, over the Android API.

Main definitions:

* `Zerowire.ReceiverSession.SessionOp`, `Zerowire.ReceiverSession.sessionSig` — what the session
  calls;
* `Zerowire.ReceiverSession.run`, `Zerowire.ReceiverSession.runHidBinding`,
  `Zerowire.ReceiverSession.expectControl` — the Kotlin functions;
* `Zerowire.ReceiverSession.phone` — the programs behind the calls.
-/

import Zerowire.HidEndpoint
import Zerowire.Monitor

set_option relaxedAutoImplicit false
set_option autoImplicit false

namespace Zerowire.ReceiverSession

open Bytes Jvm Program Android

/-! ### What the session calls -/

/-- The calls of a session. -/
inductive SessionOp where
  | setTcpNoDelay (on : Bool)
  | setSoTimeout (ms : Int32)
  | getInputStream
  | getOutputStream
  | closeSocket
  /-- `WireProtocol.readEnvelope`. -/
  | readEnvelope
  /-- `WireProtocol.writeEnvelope`. -/
  | writeEnvelope (channel : Channel) (payload : List UInt8)
  | deviceList
  | running
  /-- `HidEndpoint.open`. -/
  | openEndpoint (device : UsbDevice)
  /-- `HidEndpoint.readReport`. -/
  | readReport (ep : HidEndpoint) (timeoutMs : Int32)
  /-- `HidEndpoint.close`. -/
  | closeEndpoint (ep : HidEndpoint)
  deriving DecidableEq

/-- What the calls return. -/
abbrev SessionOp.Ans : SessionOp → Type
  | .setTcpNoDelay _ => Outcome Unit
  | .setSoTimeout _ => Outcome Unit
  | .getInputStream => Outcome Unit
  | .getOutputStream => Outcome Unit
  | .closeSocket => Outcome Unit
  | .readEnvelope => Outcome Envelope
  | .writeEnvelope _ _ => Outcome Unit
  | .deviceList => Outcome (List UsbDevice)
  | .running => Bool
  | .openEndpoint _ => Outcome (Option HidEndpoint)
  | .readReport _ _ => Outcome (Option Jvm.Array)
  | .closeEndpoint _ => Unit

/-- The calls, as surroundings of the session. -/
abbrev sessionSig : Sig := ⟨SessionOp, SessionOp.Ans⟩

/-- What an exception of the envelope reads as. -/
def wireThrown (e : Throwable WireProtocol.WireError) : Thrown := .threw (e.map .wire)

/-- **The programs behind the calls.** -/
def phone : (o : SessionOp) → Prog phoneSig o.Ans
  | .setTcpNoDelay on => ask (.setTcpNoDelay on)
  | .setSoTimeout ms => ask (.setSoTimeout ms)
  | .getInputStream => ask .getInputStream
  | .getOutputStream => ask .getOutputStream
  | .closeSocket => ask .closeSocket
  | .readEnvelope => (mapErr wireThrown WireProtocol.readEnvelope).run
  | .writeEnvelope channel payload =>
      (mapErr wireThrown (WireProtocol.writeEnvelope channel payload)).run
  | .deviceList => ask .deviceList
  | .running => ask .running
  | .openEndpoint device => (HidEndpoint.openOn device).run
  | .readReport ep timeoutMs => (ep.readReport timeoutMs).run
  | .closeEndpoint ep => ep.close

/-! ### The session -/

/-- A program of the session: it may throw, and its loop may run out of fuel. -/
abbrev SessionAct (α : Type) := Act sessionSig (Stop Thrown) α

/-- Make a call that may throw. -/
def perform {α : Type} (p : Prog sessionSig (Outcome α)) : SessionAct α :=
  ExceptT.mk (p >>= fun r => Prog.ret (r.mapError .failed))

/-- The calls by themselves. -/
def request (o : SessionOp) : Prog sessionSig o.Ans := Prog.call (X := sessionSig) o Prog.ret

/-- A computation that may throw. -/
def onArrays {ε α : Type} (f : ε → SessionException) (r : Except (Throwable ε) α) : SessionAct α :=
  ofResult (r.mapError fun e => .failed (.threw (e.map f)))

/-- `throw IOException(..)`. -/
def throwIo {α : Type} (e : SessionException) : SessionAct α := throw (.failed (.threw (.io e)))

/-- `try { p } catch (e: IOException) { break }`, and what is done behind it in the round. -/
def orBreak {α β : Type} (p : SessionAct α) (k : α → SessionAct (β ⊕ Unit)) :
    SessionAct (β ⊕ Unit) := do
  match ← attempt p with
  | .ok a => k a
  | .error (.failed e) => if e.isIo then return .inr () else throw (.failed e)
  | .error .ranOut => throw .ranOut

/-- `expectControl`: the object of a control message with that op. -/
def expectControl (json : OrgJson) (op : String) : SessionAct (String → String) := do
  let env ← perform (request .readEnvelope)
  if env.channel ≠ .control then throwIo (.expectedControl env.channel)
  else
    match json.parse env.payload with
    | none => throw (.failed .unchecked)
    | some obj =>
        if obj "op" ≠ op then throwIo (.expectedOp op (obj "op"))
        else return obj

/-- `sendJson`. -/
def sendJson (json : OrgJson) (msg : JsonValue) : SessionAct Unit :=
  perform (request (.writeEnvelope .control (json.print msg).val))

/-- The messages of `run`. -/
def helloAck (senderId deviceName : String) : JsonValue :=
  .object [("op", .string "HELLO_ACK"), ("sender_id", .string senderId),
    ("name", .string deviceName), ("supports", .array [.string "hid-fastlane/1"])]
def attachDenied (busid reason : String) : JsonValue :=
  .object [("op", .string "ATTACH_DENIED"), ("busid", .string busid), ("reason", .string reason)]
def attachOk (busid : String) : JsonValue :=
  .object [("op", .string "ATTACH_OK"), ("busid", .string busid), ("import_id", .int 1)]

/-- Write an envelope with a HID frame. -/
def writeFrame (op : HidOp) (bindId seq : Int32) (body : List UInt8) : SessionAct Unit := do
  let frame ← onArrays .wire (WireProtocol.encodeHidFrame op bindId seq body)
  perform (request (.writeEnvelope .hid frame))

/-- One round of the loop of `runHidBinding`, with the last sequence number; the right summand is
`break`. -/
def reportRound (ep : HidEndpoint) (bindId : Int32) (seq : Int32) : SessionAct (Int32 ⊕ Unit) := do
  if ← ExceptT.lift (request .running) then
    orBreak (perform (request (.readReport ep 1000))) fun report =>
      match report with
      | none => return .inl seq
      | some report => do
          let seq := (seq + 1) &&& 0xFFFF
          let frameOut ← onArrays .wire (WireProtocol.encodeHidFrame .reportIn bindId seq report.val)
          orBreak (perform (request (.writeEnvelope .hid frameOut))) fun _ => return .inl seq
  else return .inr ()

/-- "{"reason":"session ended"}". -/
def unbindBody : List UInt8 :=
  "\x7b\"reason\":\"session ended\"\x7d".toUTF8.data.toList

/-- The `try` block of `runHidBinding`, for the given number of rounds. -/
def stream (json : OrgJson) (fuel : ℕ) (device : UsbDevice) (frameBindId : Int32)
    (ep : HidEndpoint) :
    SessionAct Unit := do
  let kind ← onArrays .wire ep.kind
  let bindId := if frameBindId = 0 then 1 else frameBindId
  let ackBody ← onArrays .wire (bindAckBody json (busidFor device) (kindName kind) device.vendorId
    device.productId (device.productName.getD device.deviceName) ep.reportDescriptor.val)
  writeFrame .bindAck bindId 0 ackBody
  unroll (reportRound ep bindId) fuel 0
  ignoring (writeFrame .unbind bindId 0 unbindBody)

/-- `runHidBinding`. -/
def runHidBinding (json : OrgJson) (fuel : ℕ) (device : UsbDevice) : SessionAct Unit := do
  let env ← perform (request .readEnvelope)
  if env.channel ≠ .hid then throwIo (.expectedHid env.channel)
  else do
    let frame ← onArrays .frame (WireProtocol.parseHidFrame env.payload)
    if frame.op ≠ .bind then throwIo (.expectedBind frame.op)
    else do
      match ← perform (request (.openEndpoint device)) with
      | none => throwIo (.failedToClaim device.deviceName)
      | some ep =>
          tryFinally (stream json fuel device frame.bindId ep)
            (ExceptT.lift (request (.closeEndpoint ep)))

/-- The answer to an ATTACH, and the binding if it is granted. -/
def attachTo (json : OrgJson) (fuel : ℕ) (devices : List UsbDevice) (attach : String → String) :
    SessionAct Unit :=
  let busid := attach "busid"
  let mode := attach "mode"
  match devices.find? fun d => decide (busidFor d = busid) with
  | none => sendJson json (attachDenied busid "unknown busid")
  | some targetDevice =>
      if mode ≠ "hid" then sendJson json (attachDenied busid s!"mode {mode} not supported")
      else do
        sendJson json (attachOk busid)
        runHidBinding json fuel targetDevice

/-- The outer `try` block of `run`. -/
def converse (json : OrgJson) (senderId deviceName : String) (fuel : ℕ) : SessionAct Unit := do
  perform (request .getInputStream)
  perform (request .getOutputStream)
  let _ ← expectControl json "HELLO"
  sendJson json (helloAck senderId deviceName)
  let _ ← expectControl json "LIST_DEVICES"
  let devices ← perform (request .deviceList)
  sendJson json (deviceListMessage devices)
  let attach ← expectControl json "ATTACH"
  attachTo json fuel devices attach

/-- **`run`**, for the given number of rounds of its loop. -/
def run (json : OrgJson) (senderId deviceName : String) (fuel : ℕ) : SessionAct Unit := do
  perform (request (.setTcpNoDelay true))
  perform (request (.setSoTimeout 30000))
  tryFinally (ignoring (converse json senderId deviceName fuel))
    (ignoring (perform (request .closeSocket)))

end Zerowire.ReceiverSession

/-
**Control messages** (`protocol/src/control.rs`), and how they are sent and received
(`desktop-linux/src/wire.rs`, `desktop-linux/src/tls.rs`).

A control message is JSON in an envelope of its own channel.  Like the helpers for envelopes, those
for control messages exist twice, once for a `TcpStream` and once for any `Read`/`Write`.

Main definitions:

* `Zerowire.DeviceSummary`, `Zerowire.AttachInfo`, `Zerowire.ControlMessage` — the messages;
* `Zerowire.Serde` — the serializations that the desktop uses;
* `Zerowire.Wire.sendControl`, `Zerowire.Wire.recvControl`, `Zerowire.Tls.sendControl`,
  `Zerowire.Tls.recvControl` — the helpers.

Main results:

* `Zerowire.sendControl_alike`, `Zerowire.recvControl_alike` — **the two copies do the same**;
* `Zerowire.exec_sendControlWith`, `Zerowire.exec_recvControlWith` — what is sent, and what an
  envelope is received as.
-/

import Zerowire.Hid
import Zerowire.ProgramRel
import Zerowire.Vhci
import Zerowire.Wire

set_option relaxedAutoImplicit false
set_option autoImplicit false

namespace Zerowire

open Bytes Program

variable {X : Sig} {τ : Type}

/-! ### The messages -/

/-- `DeviceSummary`: one device of the sender. -/
structure DeviceSummary where
  busid : String
  vendorId : UInt16
  productId : UInt16
  manufacturer : Option String
  product : Option String
  serial : Option String
  deviceClass : UInt8
  deviceSubclass : UInt8
  deviceProtocol : UInt8
  isHid : Bool
  deriving Repr, DecidableEq

/-- `UsbipAttachInfo`, all of it: the kernel is told only a part. -/
structure AttachInfo extends UsbipAttachInfo where
  vendorId : UInt16
  productId : UInt16
  descriptorHex : Option String
  deriving Repr, DecidableEq

/-- `ControlMessage`. -/
inductive ControlMessage where
  | hello (version : UInt8) (client : String) (supports : List String)
  | helloAck (senderId name : String) (supports : List String)
  | auth (proofB64 : String)
  | authOk
  | error (code message : String)
  | listDevices
  | deviceList (devices : List DeviceSummary)
  | attach (busid mode : String)
  | attachOk (busid : String) (importId : UInt32)
  | attachOkUsbip (info : AttachInfo)
  | attachDenied (busid reason : String)
  deriving Repr, DecidableEq

/-- The value of the field `op` (`#[serde(tag = "op")]`). -/
def ControlMessage.op : ControlMessage → String
  | .hello _ _ _ => "HELLO"
  | .helloAck _ _ _ => "HELLO_ACK"
  | .auth _ => "AUTH"
  | .authOk => "AUTH_OK"
  | .error _ _ => "ERROR"
  | .listDevices => "LIST_DEVICES"
  | .deviceList _ => "DEVICE_LIST"
  | .attach _ _ => "ATTACH"
  | .attachOk _ _ => "ATTACH_OK"
  | .attachOkUsbip _ => "ATTACH_OK_USBIP"
  | .attachDenied _ _ => "ATTACH_DENIED"

/-- The serializations. -/
structure Serde where
  control : Json ControlMessage
  bindRequest : Json BindRequest
  bindAckMeta : Json BindAckMeta

/-- A `serde_json` that knows some values, with their texts. -/
def Json.table {α : Type} [DecidableEq α] (entries : List (α × List UInt8)) : Json α where
  toVec a := ((entries.find? (·.1 = a)).map (·.2)).getD []
  fromSlice bs := (entries.find? (·.2 = bs)).map (·.1)

/-- The envelope of a control message. -/
def ControlMessage.envelope (json : Json ControlMessage) (msg : ControlMessage) : Envelope :=
  ⟨.control, json.toVec msg⟩

/-! ### Sending and receiving -/

/-- What can go wrong with a control message. -/
inductive ControlError where
  | send (e : SendError)
  | recv (e : RecvError)
  /-- `ControlMessage::from_json` failed. -/
  | json
  /-- "expected Control envelope, got ..". -/
  | unexpectedChannel (other : Channel)
  deriving Repr, DecidableEq

/-- `send_control`, over a `send_envelope`. -/
def sendControlWith (sendEnvelope : Channel → List UInt8 → Act X (Fault SendError) Unit)
    (json : Json ControlMessage) (msg : ControlMessage) : Act X (Fault ControlError) Unit :=
  mapErr (Fault.map .send) (sendEnvelope .control (json.toVec msg))

/-- What an envelope is received as. -/
def controlOf (json : Json ControlMessage) (e : OwnedEnvelope) :
    Except (Fault ControlError) ControlMessage :=
  match e.channel with
  | .control =>
      match json.fromSlice e.payload with
      | some msg => .ok msg
      | none => .error (.err .json)
  | other => .error (.err (.unexpectedChannel other))

/-- `recv_control`, over a `recv_envelope`. -/
def recvControlWith (recvEnvelope : Act X (Fault RecvError) OwnedEnvelope)
    (json : Json ControlMessage) : Act X (Fault ControlError) ControlMessage := do
  let e ← mapErr (Fault.map .recv) recvEnvelope
  ofResult (controlOf json e)

/-- `wire::send_control`. -/
def Wire.sendControl (json : Json ControlMessage) (msg : ControlMessage) :
    Act X (Fault ControlError) Unit :=
  sendControlWith Wire.sendEnvelope json msg

/-- `tls::send_control`. -/
def Tls.sendControl (json : Json ControlMessage) (msg : ControlMessage) :
    Act X (Fault ControlError) Unit :=
  sendControlWith Tls.sendEnvelope json msg

/-- `wire::recv_control`. -/
def Wire.recvControl (json : Json ControlMessage) : Act X (Fault ControlError) ControlMessage :=
  recvControlWith Wire.recvEnvelope json

/-- `tls::recv_control`. -/
def Tls.recvControl (json : Json ControlMessage) : Act X (Fault ControlError) ControlMessage :=
  recvControlWith Tls.recvEnvelope json

/-! ### The two copies -/

/-- Both results are related values, or both are errors. -/
inductive SameResult {ε ε' α α' : Type} (R : α → α' → Prop) : Except ε α → Except ε' α' → Prop
  | ok {a : α} {a' : α'} (h : R a a') : SameResult R (.ok a) (.ok a')
  | error (e : ε) (e' : ε') : SameResult R (.error e) (.error e')

theorem catchErr_alike {ε ε' η η' α α' : Type} {R : α → α' → Prop} {p : Act X (Fault ε) α}
    {p' : Act X (Fault ε') α'} (h : Alike R p p') :
    Alike (SameResult R) (catchErr p : Act X (Fault η) _) (catchErr p' : Act X (Fault η') _) := by
  refine Prog.Rel.bind (R := fun x y => ∃ r r', x = .ok r ∧ y = .ok r' ∧ SameOutcome R r r')
    (Prog.Rel.bind h fun r r' hr => .ret ⟨r, r', rfl, rfl, hr⟩) ?_
  rintro _ _ ⟨r, r', rfl, rfl, hval | ⟨e, e'⟩ | _⟩
  · exact Alike.pure (.ok hval)
  · exact Alike.pure (.error e e')
  · exact .ret .panic

/-- The contexts of its errors are all in which one reader differs from another. -/
theorem recvEnvelope_alike (headerCtx payloadCtx headerCtx' payloadCtx' : String) :
    Alike Eq (recvEnvelopeWith headerCtx payloadCtx : Act X (Fault RecvError) OwnedEnvelope)
      (recvEnvelopeWith headerCtx' payloadCtx' : Act X (Fault RecvError) OwnedEnvelope) := by
  refine Alike.bind (Alike.lift _) ?_
  rintro (_ | header) _ rfl
  · exact Alike.throw _ _
  · refine Alike.bind (Alike.refl (fun _ => rfl) _) ?_
    rintro size _ rfl
    refine Alike.bind (Alike.lift _) ?_
    rintro (_ | payload) _ rfl
    · exact Alike.throw _ _
    · exact Alike.refl (fun _ => rfl) _

/-- The context of its error is all in which one writer differs from another. -/
theorem sendEnvelope_alike (writeCtx writeCtx' : String) (channel : Channel)
    (payload : List UInt8) :
    Alike Eq (sendEnvelopeWith writeCtx channel payload : Act X (Fault SendError) Unit)
      (sendEnvelopeWith writeCtx' channel payload) := by
  refine Alike.bind (Alike.refl (fun _ => rfl) _) ?_
  rintro bytes _ rfl
  refine Alike.bind (Alike.lift _) ?_
  rintro written _ rfl
  exact Alike.ite (Alike.pure rfl) (Alike.throw _ _)

/-- **The two copies send control messages alike.** -/
theorem sendControl_alike (json : Json ControlMessage) (msg : ControlMessage) :
    Alike Eq (Wire.sendControl json msg : Act X _ Unit) (Tls.sendControl json msg) :=
  (sendEnvelope_alike _ _ .control (json.toVec msg)).mapErr _ _

/-- **The two copies receive control messages alike.** -/
theorem recvControl_alike (json : Json ControlMessage) :
    Alike Eq (Wire.recvControl json : Act X _ ControlMessage) (Tls.recvControl json) := by
  refine Alike.bind ((recvEnvelope_alike _ _ _ _).mapErr _ _) ?_
  rintro e _ rfl
  exact Alike.refl (fun _ => rfl) _

/-! ### What is sent and received -/

section Exec

variable (env : Env X τ) (json : Json ControlMessage)

/-- A control message that fits into an envelope is sent in one. -/
theorem exec_sendControlWith (ctx : String) {msg : ControlMessage} (h : (msg.envelope json).Fits)
    (s : Io τ) :
    exec env (sendControlWith (sendEnvelopeWith ctx) json msg) s =
      (.ok (), { s with output := s.output ++ (msg.envelope json).bytes }) := by
  rw [sendControlWith, exec_mapErr, exec_sendEnvelopeWith env ctx h s]
  rfl

/-- One that does not fit is not sent. -/
theorem exec_sendControlWith_of_not_fits (ctx : String) {msg : ControlMessage}
    (h : ¬ (msg.envelope json).Fits) (s : Io τ) :
    ∃ e, exec env (sendControlWith (sendEnvelopeWith ctx) json msg) s = (.error (.err e), s) := by
  rw [sendControlWith, exec_mapErr, exec_sendEnvelopeWith_of_not_fits env ctx h s]
  exact ⟨_, rfl⟩

/-- An envelope is received as what it holds. -/
theorem exec_recvControlWith (hc pc : String) {s : Io τ} {e : Envelope} {rest : List UInt8}
    (he : e.Fits) (hs : s.input = e.bytes ++ rest) :
    exec env (recvControlWith (recvEnvelopeWith hc pc) json) s =
      (controlOf json e, { s with input := rest }) := by
  have hparse : Envelope.parse s.input = .ok (some (e, e.bytes.length)) := by
    rw [hs]
    exact Envelope.codec.round rest he
  have hrecv := exec_recvEnvelopeWith_of_parse env hc pc hparse
  rw [hs, List.drop_left' rfl] at hrecv
  have hmap : exec env (mapErr (Fault.map ControlError.recv) (recvEnvelopeWith hc pc)) s =
      (.ok e, { s with input := rest }) := by
    rw [exec_mapErr, hrecv]
    rfl
  rw [recvControlWith, exec_bind_ok hmap]
  rfl

/-- At the end of the stream nothing is received. -/
theorem exec_recvControlWith_nil (hc pc : String) {s : Io τ} (hs : s.input = []) :
    exec env (recvControlWith (recvEnvelopeWith hc pc) json) s =
      (.error (.err (.recv (.io hc))), s) := by
  have hrecv := exec_recvEnvelopeWith_short env hc pc (s := s) (by rw [hs]; decide)
  have hmap : exec env (mapErr (Fault.map ControlError.recv) (recvEnvelopeWith hc pc)) s =
      (.error (.err (.recv (.io hc))), { s with input := [] }) := by
    rw [exec_mapErr, hrecv]
    rfl
  rw [recvControlWith, exec_bind_error hmap, ← hs]

end Exec

end Zerowire

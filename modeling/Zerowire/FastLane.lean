/-
**The HID fast lane, end to end** (`desktop-linux/src/receiver.rs`, `run_receive`;
`desktop-linux/src/bin/linux_sender.rs`, `serve_session`).

The receiver asks for the devices, picks the first HID device, attaches it and binds it; from then
on it only reads.  The sender answers, and from the BIND on it only writes: the BIND_ACK, the
reports as it reads them from the device, and an UNBIND when the device has come to its end.  Here
the two are put at the two ends of one connection, and each does what its own source says.

Main definitions:

* `Zerowire.runReceive` — the receiver, from its HELLO to the end of its session loop;
* `Zerowire.chosenDevice` — the device that the two come to an agreement on;
* `Zerowire.ReadsOut`, `Zerowire.Serves` — what the sender finds and reads;
* `Zerowire.RoundTrips` — the JSON of the messages comes back.

Main results:

* `Zerowire.reaches_bound` — the two get through the handshake;
* `Zerowire.run_reportEnvelopes` — what the session loop does with reports numbered one by one;
* `Zerowire.fastLane_delivers` — **every report is applied once and in its place**, and nothing
  else.
-/

import Zerowire.CaptureLoops
import Zerowire.ControlJson
import Zerowire.Network
import Zerowire.Rebinding
import Zerowire.SequenceNumbers

set_option relaxedAutoImplicit false
set_option autoImplicit false

namespace Zerowire

open Bytes Program Relation

/-! ### The receiver -/

/-- What makes `run_receive` fail. -/
inductive RunError where
  | control (e : ControlError)
  /-- "sender refused: ..". -/
  | refused (code message : String)
  /-- "unexpected reply to HELLO: ..". -/
  | helloReply (other : ControlMessage)
  /-- "expected DEVICE_LIST, got ..". -/
  | expectedDeviceList (got : ControlMessage)
  /-- What `pick_hid_device` says. -/
  | noDevice (text : String)
  /-- "sender denied attach for ..". -/
  | denied (busid reason : String)
  /-- "unexpected reply to ATTACH: ..". -/
  | attachReply (other : ControlMessage)
  | send (e : SendError)
  | session (e : ReceiveError)
  deriving Repr, DecidableEq

/-- The check of the reply to the HELLO. -/
def helloReplyOf : ControlMessage → Except (Fault RunError) Unit
  | .helloAck _ _ _ => .ok ()
  | .error code message => .error (.err (.refused code message))
  | other => .error (.err (.helloReply other))

/-- The devices of a DEVICE_LIST. -/
def deviceListOf : ControlMessage → Except (Fault RunError) (List DeviceSummary)
  | .deviceList devices => .ok devices
  | other => .error (.err (.expectedDeviceList other))

/-- The check of the reply to the ATTACH. -/
def attachReplyOf : ControlMessage → Except (Fault RunError) Unit
  | .attachOk _ _ => .ok ()
  | .attachDenied busid reason => .error (.err (.denied busid reason))
  | other => .error (.err (.attachReply other))

section Receiver

variable (serde : Serde)

/-- `send_control(&mut sock, ..)?`. -/
def askSender (msg : ControlMessage) : Act receiverSig (Fault RunError) Unit :=
  mapErr (Fault.map .control) (Wire.sendControl serde.control msg)

/-- `recv_control(&mut sock)?`. -/
def senderReply : Act receiverSig (Fault RunError) ControlMessage :=
  mapErr (Fault.map .control) (Wire.recvControl serde.control)

/-- **`run_receive`**, after `dial`, as a program with one loop.  It returns why the loop has
ended. -/
def runReceive (clientName : String) (busid : Option String) :
    Looped receiverSig (Fault RunError) Session SessionEnd SessionEnd where
  start := do
    askSender serde (.hello 1 clientName ["hid-fastlane/1"])
    ofResult (helloReplyOf (← senderReply serde))
    askSender serde .listDevices
    let devices ← ofResult (deviceListOf (← senderReply serde))
    let chosen ← ofResult (Fault.lift ((pickHidDevice devices busid).mapError .noDevice))
    askSender serde (.attach chosen.busid "hid")
    ofResult (attachReplyOf (← senderReply serde))
    mapErr (Fault.map .send)
      (Wire.sendEnvelope .hid (bindFrame serde.bindRequest chosen.busid).encode)
    return .inl {}
  round s := mapErr (Fault.map .session) (sessionRound serde.bindAckMeta s)
  finish c := return c

end Receiver

/-! ### What the sender finds -/

/-- What one read of a device file gives. -/
abbrev HidrawReport := { bs : List UInt8 // 0 < bs.length ∧ bs.length ≤ 64 }

/-- **The device that the two agree on**: the receiver picks the first HID device, and the sender
takes the first device with its busid. -/
def chosenDevice (devices : List ExposedHidraw) : Option ExposedHidraw :=
  (devices.find? (·.summary.isHid)).bind fun d => LinuxSender.deviceWith devices d.summary.busid

/-- What each of the two does to agree on it. -/
theorem chosenDevice_eq_some {devices : List ExposedHidraw} {chosen : ExposedHidraw}
    (h : chosenDevice devices = some chosen) :
    ∃ pick, pickHidDevice (devices.map (·.summary)) none = .ok pick ∧
      pick.busid = chosen.summary.busid ∧
      LinuxSender.chosenOf devices pick.busid = .ok chosen := by
  obtain ⟨d, hd, hwith⟩ := Option.bind_eq_some_iff.1 h
  rw [LinuxSender.deviceWith] at hwith
  have hbusid : chosen.summary.busid = d.summary.busid := by simpa using List.find?_some hwith
  refine ⟨d.summary, ?_, hbusid.symm, ?_⟩
  · have hfind : (devices.map (·.summary)).find? (·.isHid) = some d.summary := by
      rw [List.find?_map]
      exact congrArg (Option.map _) hd
    rw [pickHidDevice, hfind]
  · rw [LinuxSender.chosenOf, hwith]

section Sender

variable {σ : Type} (env : Env linuxSig σ)

/-- **What is read from the device file before its end**, with any number of polls in between. -/
inductive ReadsOut : σ → List HidrawReport → Prop
  | eof {t t' : σ} (h : env .read t = (.eof, t')) : ReadsOut t []
  | report {t t' : σ} {bs : HidrawReport} {reports : List HidrawReport}
      (h : env .read t = (.report bs, t')) (hs : ReadsOut t' reports) : ReadsOut t (bs :: reports)
  | wouldBlock {t t' : σ} {reports : List HidrawReport} (h : env .read t = (.wouldBlock, t'))
      (hs : ReadsOut (env .sleep t').2 reports) : ReadsOut t reports

/-- **What the sender finds**: these devices, and these reports in the file of one of them. -/
structure Serves (t : σ) (devices : List ExposedHidraw) (chosen : ExposedHidraw)
    (reports : List HidrawReport) : Prop where
  enumerate : (env .enumerate t).1 = .ok devices
  openHidraw : (env (.openHidraw chosen.hidrawPath) (env .enumerate t).2).1 = .ok ()
  setNonblocking :
    (env .setNonblocking (env (.openHidraw chosen.hidrawPath) (env .enumerate t).2).2).1 = .ok ()
  reads :
    ReadsOut env
      (env .setNonblocking (env (.openHidraw chosen.hidrawPath) (env .enumerate t).2).2).2 reports

end Sender

/-! ### What they say to each other -/

/-- The control messages of the handshake. -/
def handshakeMessages (clientName name : String) (devices : List ExposedHidraw)
    (chosen : ExposedHidraw) : List ControlMessage :=
  [.hello 1 clientName ["hid-fastlane/1"], LinuxSender.helloAck name, .listDevices,
    LinuxSender.deviceList devices, .attach chosen.summary.busid "hid", LinuxSender.attachOk chosen]

/-- **The JSON of what they say comes back.** -/
structure RoundTrips (serde : Serde) (clientName name : String) (devices : List ExposedHidraw)
    (chosen : ExposedHidraw) : Prop where
  control : ∀ msg ∈ handshakeMessages clientName name devices chosen,
    serde.control.fromSlice (serde.control.toVec msg) = some msg
  bindRequest : serde.bindRequest.fromSlice
    (serde.bindRequest.toVec ⟨chosen.summary.busid, "input"⟩) = some ⟨chosen.summary.busid, "input"⟩
  bindAckMeta : serde.bindAckMeta.fromSlice
    (serde.bindAckMeta.toVec (LinuxSender.metaFor chosen)) = some (LinuxSender.metaFor chosen)

/-- The strings of a device are no longer than a file of `/sys`, and its path no longer than a
path. -/
structure ExposedHidraw.Short (d : ExposedHidraw) : Prop where
  busid : SerdeJson.Short d.summary.busid
  product : ∀ p ∈ d.summary.product, SerdeJson.Short p
  hidrawPath : SerdeJson.Short d.hidrawPath

/-- All that they say fits into envelopes. -/
theorem handshake_fits {serde : Serde} (hprints : serde.Prints) {clientName name : String}
    (hclient : SerdeJson.Short clientName) (hname : SerdeJson.Short name)
    {devices : List ExposedHidraw} {chosen : ExposedHidraw}
    (hlist : (serde.control.toVec (LinuxSender.deviceList devices)).length ≤ maxPayload)
    (hbusid : SerdeJson.Short chosen.summary.busid) :
    ∀ msg ∈ handshakeMessages clientName name devices chosen, (msg.envelope serde.control).Fits := by
  have hsupports :
      (SerdeJson.array [SerdeJson.quoted "hid-fastlane/1"]).length ≤ 2 ^ 15 := by decide
  have hone : (SerdeJson.digits 1).length ≤ 2 ^ 15 := by decide
  have hsender : (SerdeJson.quoted "linux-sender").length ≤ 2 ^ 15 := by decide
  have hmode : (SerdeJson.quoted "hid").length ≤ 2 ^ 15 := by decide
  -- what is not a name or a busid has a length that is known
  intro msg hmsg
  simp only [handshakeMessages, List.mem_cons, List.not_mem_nil, or_false] at hmsg
  rcases hmsg with rfl | rfl | rfl | rfl | rfl | rfl
  · refine hprints.fits ?_
    simp only [SerdeJson.controlFields, List.forall_mem_cons, List.map_cons, List.map_nil]
    exact ⟨hone, hclient.length_quoted_le, hsupports, by simp⟩
  · refine hprints.fits ?_
    simp only [LinuxSender.helloAck, SerdeJson.controlFields, List.forall_mem_cons, List.map_cons,
      List.map_nil]
    exact ⟨hsender, hname.length_quoted_le, hsupports, by simp⟩
  · exact hprints.fits (by simp [SerdeJson.controlFields])
  · exact hlist
  · refine hprints.fits ?_
    simp only [SerdeJson.controlFields, List.forall_mem_cons]
    exact ⟨hbusid.length_quoted_le, hmode, by simp⟩
  · refine hprints.fits ?_
    simp only [LinuxSender.attachOk, SerdeJson.controlFields, List.forall_mem_cons]
    exact ⟨hbusid.length_quoted_le, hone, by simp⟩

/-- A message arrives: it fits into an envelope, and its JSON comes back. -/
structure ControlMessage.Passes (json : Json ControlMessage) (msg : ControlMessage) : Prop where
  fits : (msg.envelope json).Fits
  round : json.fromSlice (json.toVec msg) = some msg

section Enough

variable {X : Sig} {τ : Type} {env : Env X τ} {json : Json ControlMessage} {msg : ControlMessage}

theorem enough_sendControl (h : msg.Passes json) (s : Io τ) :
    Enough env (Wire.sendControl json msg : Act X _ Unit) s () (s.sent (msg.envelope json).bytes) :=
  fun rest => exec_sendControlWith env json "writing envelope" h.fits (s.fed rest)

theorem enough_sendEnvelope {channel : Channel} {payload : List UInt8}
    (hfits : (⟨channel, payload⟩ : Envelope).Fits) (s : Io τ) :
    Enough env (Wire.sendEnvelope channel payload : Act X _ Unit) s ()
      (s.sent (⟨channel, payload⟩ : Envelope).bytes) :=
  fun rest => exec_sendEnvelopeWith env "writing envelope" hfits (s.fed rest)

/-- An envelope is read off a stream that holds nothing else. -/
theorem enough_recvEnvelope {e : Envelope} (hfits : e.Fits) {s : Io τ} (hs : s.input = []) :
    Enough env (Wire.recvEnvelope : Act X _ OwnedEnvelope) (s.fed e.bytes) e s := by
  intro rest
  have hinput : ((s.fed e.bytes).fed rest).input = e.bytes ++ rest := by
    rw [Io.fed_input, Io.fed_input, hs, List.nil_append]
  have hleft : { (s.fed e.bytes).fed rest with input := rest } = s.fed rest := by
    simp only [Io.fed, hs, List.nil_append]
  have hparse : Envelope.parse ((s.fed e.bytes).fed rest).input =
      .ok (some (e, e.bytes.length)) := by
    rw [hinput]
    exact Envelope.codec.round rest hfits
  have hrecv := exec_recvEnvelopeWith_of_parse env "reading envelope header"
    "reading envelope payload" hparse
  rw [hinput, List.drop_left' rfl, hleft] at hrecv
  exact hrecv

theorem enough_recvControl (h : msg.Passes json) {s : Io τ} (hs : s.input = []) :
    Enough env (Wire.recvControl json : Act X _ ControlMessage) (s.fed (msg.envelope json).bytes)
      msg s := by
  have hof : controlOf json (msg.envelope json) = .ok msg := by
    rw [controlOf, ControlMessage.envelope, h.round]
  exact ((enough_recvEnvelope h.fits hs).mapErr _).bind (Enough.ofResult hof s)

end Enough

/-! ### The handshake -/

section Handshake

variable {serde : Serde} {clientName name : String} {devices : List ExposedHidraw}
  {chosen : ExposedHidraw} {σ τ γ δ : Type} {env : Env receiverSig τ} {linux : Env linuxSig σ}

/-- The session loop of the receiver. -/
def sessionLoop (serde : Serde) (fuel : ℕ) :
    Act receiverSig (Stop (Fault RunError)) SessionEnd := do
  let c ← unroll (fun s => mapErr .failed
    (mapErr (Fault.map .session) (sessionRound serde.bindAckMeta s))) fuel {}
  mapErr .failed (return c)

/-- The BIND, and the session loop. -/
def bindAndRead (serde : Serde) (busid : String) (fuel : ℕ) :
    Act receiverSig (Stop (Fault RunError)) SessionEnd := do
  mapErr .failed (mapErr (Fault.map .send)
    (Wire.sendEnvelope .hid (bindFrame serde.bindRequest busid).encode))
  sessionLoop serde fuel

/-- The receiver says something. -/
theorem reaches_asked {msg : ControlMessage} (h : msg.Passes serde.control) (s : Io τ) {t : Io σ}
    (ht : t.input = []) (f : Unit → Act receiverSig (Stop (Fault RunError)) γ)
    (g : ControlMessage → Act linuxSig (Stop (Fault LinuxError)) δ) :
    ReflTransGen (Net.Step env linux)
      ⟨⟨(mapErr .failed (askSender serde msg) >>= f).run, s⟩,
        ⟨(mapErr .failed (LinuxSender.recvControl serde) >>= g).run, t⟩⟩
      ⟨⟨(f ()).run, s.sent (msg.envelope serde.control).bytes⟩, ⟨(g msg).run, t⟩⟩ :=
  Net.reaches_left_hands (((enough_sendControl h s).mapErr _).mapErr _)
    (((enough_recvControl h ht).mapErr _).mapErr _)

/-- The sender answers. -/
theorem reaches_answered {msg : ControlMessage} (h : msg.Passes serde.control) {s : Io τ}
    (hs : s.input = []) (t : Io σ) (f : ControlMessage → Act receiverSig (Stop (Fault RunError)) γ)
    (g : Unit → Act linuxSig (Stop (Fault LinuxError)) δ) :
    ReflTransGen (Net.Step env linux)
      ⟨⟨(mapErr .failed (senderReply serde) >>= f).run, s⟩,
        ⟨(mapErr .failed (LinuxSender.sendControl serde msg) >>= g).run, t⟩⟩
      ⟨⟨(f msg).run, s⟩, ⟨(g ()).run, t.sent (msg.envelope serde.control).bytes⟩⟩ :=
  Net.reaches_right_hands (((enough_sendControl h t).mapErr _).mapErr _)
    (((enough_recvControl h hs).mapErr _).mapErr _)

variable (env) in
/-- **The two get through the handshake.** -/
theorem reaches_bound
    (hpasses : ∀ msg ∈ handshakeMessages clientName name devices chosen, msg.Passes serde.control)
    (hchosen : chosenDevice devices = some chosen) {s : Io τ} (hs : s.input = []) {t : Io σ}
    (ht : t.input = []) (henumerate : (linux .enumerate t.env).1 = .ok devices) (fuel : ℕ) :
    ∃ s' t', s'.input = [] ∧ s'.env = s.env ∧ t'.input = [] ∧ t'.env = (linux .enumerate t.env).2 ∧
      ReflTransGen (Net.Step env linux)
        ⟨⟨((runReceive serde clientName none).unrolled fuel).run, s⟩,
          ⟨((LinuxSender.serveSession serde name).unrolled fuel).run, t⟩⟩
        ⟨⟨(bindAndRead serde chosen.summary.busid fuel).run, s'⟩,
          ⟨(mapErr .failed (LinuxSender.acknowledge serde chosen) >>=
            LinuxSender.afterAck chosen fuel).run, t'⟩⟩ := by
  obtain ⟨pick, hpick, hbusid, hfound⟩ := chosenDevice_eq_some hchosen
  simp only [handshakeMessages, List.forall_mem_cons] at hpasses
  obtain ⟨hhello, hack, hlist, hdevices, hattach, hok, -⟩ := hpasses
  rw [← hbusid] at hattach ⊢
  have hpicked : (Fault.lift ((pickHidDevice (devices.map (·.summary)) none).mapError .noDevice) :
      Except (Fault RunError) _) = .ok pick := by
    rw [hpick]
    rfl
  let bytes (msg : ControlMessage) : List UInt8 := (msg.envelope serde.control).bytes
  have hlook : Enough linux (mapErr Stop.failed (call (X := linuxSig) .enumerate :
      Act linuxSig (Fault LinuxError) _)) (t.sent (bytes (LinuxSender.helloAck name))) (.ok devices)
        { t.sent (bytes (LinuxSender.helloAck name)) with env := (linux .enumerate t.env).2 } :=
    (Enough.call_eq (Prod.ext henumerate rfl)).mapErr Stop.failed
  refine ⟨((s.sent (bytes (.hello 1 clientName ["hid-fastlane/1"]))).sent (bytes .listDevices)).sent
      (bytes (.attach pick.busid "hid")),
    (({ t.sent (bytes (LinuxSender.helloAck name)) with env := (linux .enumerate t.env).2 }).sent
      (bytes (LinuxSender.deviceList devices))).sent (bytes (LinuxSender.attachOk chosen)),
    hs, rfl, ht, rfl, ?_⟩
  rw [LinuxSender.unrolled_eq, Looped.unrolled, runReceive, LinuxSender.handshake]
  simp only [mapErr_bind, bind_assoc]
  -- HELLO and HELLO_ACK
  refine .trans (reaches_asked hhello s ht _ _) ?_
  refine .trans (Net.reaches_right_check rfl _ _) ?_
  refine .trans (reaches_answered hack (by exact hs) _ _ _) ?_
  refine .trans (Net.reaches_left_check rfl _ _) ?_
  -- the sender looks what there is
  refine .trans (Net.reaches_right_silent hlook rfl _) ?_
  refine .trans (Net.reaches_right_check rfl _ _) ?_
  -- LIST_DEVICES and DEVICE_LIST
  refine .trans (reaches_asked hlist _ (by exact ht) _ _) ?_
  refine .trans (Net.reaches_right_check rfl _ _) ?_
  refine .trans (reaches_answered hdevices (by exact hs) _ _ _) ?_
  refine .trans (Net.reaches_left_check rfl _ _) ?_
  refine .trans (Net.reaches_left_check hpicked _ _) ?_
  -- ATTACH and ATTACH_OK
  refine .trans (reaches_asked hattach _ (by exact ht) _ _) ?_
  refine .trans (Net.reaches_right_check rfl _ _) ?_
  refine .trans (Net.reaches_right_check hfound _ _) ?_
  refine .trans (reaches_answered hok (by exact hs) _ _ _) ?_
  exact Net.reaches_left_check rfl _ _

end Handshake

/-! ### The sender from the BIND on -/

/-- The envelopes of some reports, the first of them with the number after `n`. -/
def reportEnvelopes : ℕ → List (List UInt8) → List Envelope
  | _, [] => []
  | n, body :: bodies =>
      (Arrival.frame (n + 1) bindId body).envelope :: reportEnvelopes (n + 1) bodies

/-- The UNBIND of the sender. -/
def unbindFrame : HidFrame := ⟨.unbind, bindId, 0, LinuxSender.unbindBody⟩

/-- All that the sender writes from the BIND on. -/
def boundEnvelopes (serde : Serde) (chosen : ExposedHidraw) (reports : List HidrawReport) :
    List Envelope :=
  (LinuxSender.ackFor serde chosen bindId).envelope ::
    (reportEnvelopes 0 (reports.map (·.val)) ++ [unbindFrame.envelope])

theorem reportEnvelopes_fit (n : ℕ) (reports : List HidrawReport) :
    ∀ e ∈ reportEnvelopes n (reports.map (·.val)), e.Fits := by
  induction reports generalizing n with
  | nil =>
      intro e he
      cases he
  | cons bs reports ih =>
      rw [List.map_cons, reportEnvelopes, List.forall_mem_cons]
      exact ⟨fits_report bindId _ bs.property.2, ih (n + 1)⟩

theorem unbind_fits : unbindFrame.envelope.Fits := by decide

/-- The BIND fits into an envelope. -/
theorem bind_fits {serde : Serde} (hprints : serde.Prints) {busid : String}
    (h : SerdeJson.Short busid) : (bindFrame serde.bindRequest busid).envelope.Fits := by
  have hkeys : (SerdeJson.quoted "busid").length = 7 ∧ (SerdeJson.quoted "want").length = 6 ∧
      (SerdeJson.quoted "input").length = 7 := by decide
  have hbusid := h.length_quoted_le
  have hobject : (SerdeJson.object
      [("busid", SerdeJson.quoted busid), ("want", SerdeJson.quoted "input")]).length ≤
        2 * (2 ^ 15 + 20 + 2) + 2 := by
    refine SerdeJson.length_object_le ?_
    simp only [List.forall_mem_cons]
    exact ⟨by omega, by omega, by simp⟩
  rw [Envelope.Fits, HidFrame.envelope, HidFrame.encode, bindFrame, hprints.bindRequest,
    SerdeJson.bindRequestText]
  simp only [List.length_append, List.length_cons, List.length_nil, maxPayload, toBe16]
  omega

/-- The text of the description of a device whose strings are short. -/
theorem length_metaText_lt {serde : Serde} (hprints : serde.Prints) {d : ExposedHidraw}
    (h : d.Short) : (serde.bindAckMeta.toVec (LinuxSender.metaFor d)).length < 2 ^ 16 := by
  have hbusid : (SerdeJson.textBytes d.summary.busid).length ≤ 4096 := h.busid
  have hname : (SerdeJson.textBytes (LinuxSender.metaFor d).name).length ≤ 4103 := by
    have hnamed : (LinuxSender.metaFor d).name =
        d.summary.product.getD ("hidraw " ++ d.hidrawPath) := rfl
    rw [hnamed]
    rcases hproduct : d.summary.product with _ | product
    · have hprefix : (SerdeJson.textBytes "hidraw ").length = 7 := by decide
      have hpath : (SerdeJson.textBytes d.hidrawPath).length ≤ 4096 := h.hidrawPath
      rw [Option.getD_none, SerdeJson.textBytes_append, List.length_append]
      omega
    · have hshort : (SerdeJson.textBytes product).length ≤ 4096 := h.product product hproduct
      rw [Option.getD_some]
      omega
  have htext := SerdeJson.length_bindAckText_le (LinuxSender.metaFor d)
  have hsame : (LinuxSender.metaFor d).busid = d.summary.busid := rfl
  rw [hsame] at htext
  rw [hprints.bindAckMeta]
  omega

/-- The BIND_ACK fits into an envelope. -/
theorem ack_fits {serde : Serde} (hprints : serde.Prints) {d : ExposedHidraw} (h : d.Short) :
    (LinuxSender.ackFor serde d bindId).envelope.Fits := by
  have htext := length_metaText_lt hprints h
  have hdescriptor (kind : DeviceKind) : (LinuxSender.descriptorFor kind).length ≤ 2 ^ 8 := by
    cases kind <;> decide
  have hkind := hdescriptor (LinuxSender.metaFor d).kind
  rw [Envelope.Fits, HidFrame.envelope, HidFrame.encode, LinuxSender.ackFor, encodeBindAckBody]
  simp only [List.length_append, List.length_cons, List.length_nil, maxPayload, toBe16]
  omega

section Bound

variable {σ : Type} {linux : Env linuxSig σ}

theorem enough_writeFrame {f : HidFrame} (hfits : f.envelope.Fits) (t : Io σ) :
    Enough linux (LinuxSender.writeFrame f) t true (t.sent f.envelope.bytes) :=
  (Enough.ofResult (LinuxSender.hidEnvelope_of_fits hfits) t).bind fun _ => rfl

/-- **The BIND is answered.** -/
theorem enough_acknowledge {serde : Serde} {chosen : ExposedHidraw}
    (hbind : (bindFrame serde.bindRequest chosen.summary.busid).envelope.Fits)
    (hround : serde.bindRequest.fromSlice
      (serde.bindRequest.toVec ⟨chosen.summary.busid, "input"⟩) =
        some ⟨chosen.summary.busid, "input"⟩)
    (hack : (LinuxSender.ackFor serde chosen bindId).envelope.Fits) {t : Io σ} (ht : t.input = []) :
    Enough linux (LinuxSender.acknowledge serde chosen)
      (t.fed (bindFrame serde.bindRequest chosen.summary.busid).envelope.bytes) bindId
      (t.sent (LinuxSender.ackFor serde chosen bindId).envelope.bytes) := by
  have hof : LinuxSender.bindOf serde chosen (bindFrame serde.bindRequest chosen.summary.busid).envelope =
      .ok bindId := by
    rw [HidFrame.envelope, LinuxSender.bindOf_hid, bindFrame, hround]
    simp only
    rw [if_neg (by simp), if_neg (by simp)]
    rfl
  refine ((enough_recvEnvelope hbind ht).mapErr _).bind ?_
  refine (Enough.ofResult hof t).bind ?_
  exact (enough_writeFrame hack t).bind (Enough.pure bindId _)

/-- **The reports are sent as they are read**, numbered one by one. -/
theorem exists_pumped {reports : List HidrawReport} {x : σ} (h : ReadsOut linux x reports) :
    ∃ enough, ∀ fuel, enough ≤ fuel → ∀ (n : ℕ) (t : Io σ), t.env = x → ∃ x',
      Enough linux
        (unroll (fun p => mapErr .failed (LinuxSender.pumpRound p)) fuel ⟨bindId, seqOf n⟩) t bindId
        { t.sent ((reportEnvelopes n (reports.map (·.val))).flatMap Envelope.bytes) with env := x' } := by
  -- along the reads; each of them is one round of the loop
  induction h with
  | @eof x x' h =>
      refine ⟨1, fun fuel hfuel n t ht => ⟨x', ?_⟩⟩
      obtain ⟨fuel, rfl⟩ := Nat.exists_eq_add_of_le' hfuel
      have hround : Enough linux (LinuxSender.pumpRound ⟨bindId, seqOf n⟩) t (.inr bindId)
          { t with env := x' } :=
        (Enough.call_eq (ht ▸ h)).bind (Enough.pure _ _)
      rw [unroll]
      have hnothing : t.sent [] = t := by rw [Io.sent, List.append_nil]
      rw [List.map_nil, reportEnvelopes, List.flatMap_nil, hnothing]
      exact (hround.mapErr _).bind (Enough.pure _ _)
  | @report x x' bs reports h _ ih =>
      obtain ⟨enough, hrest⟩ := ih
      refine ⟨enough + 1, fun fuel hfuel n t ht => ?_⟩
      obtain ⟨fuel, rfl⟩ := Nat.exists_eq_add_of_le' (Nat.le_trans (Nat.le_add_left 1 enough) hfuel)
      let t₁ : Io σ :=
        { t.sent (Arrival.frame (n + 1) bindId bs.val).envelope.bytes with env := x' }
      obtain ⟨x'', hpump⟩ := hrest fuel (by omega) (n + 1) t₁ rfl
      have hround : Enough linux (LinuxSender.pumpRound ⟨bindId, seqOf n⟩) t
          (.inl ⟨bindId, seqOf (n + 1)⟩) t₁ :=
        fun rest => exec_pumpRound_report linux bindId n (t.fed rest) (ht ▸ h)
      have hsent : ({ t₁.sent ((reportEnvelopes (n + 1) (reports.map (·.val))).flatMap Envelope.bytes) with
            env := x'' } : Io σ) =
          { t.sent ((reportEnvelopes n ((bs :: reports).map (·.val))).flatMap Envelope.bytes) with
            env := x'' } := by
        rw [List.map_cons, reportEnvelopes, List.flatMap_cons, Io.sent, Io.sent, ← List.append_assoc]
        rfl
      rw [hsent] at hpump
      refine ⟨x'', ?_⟩
      rw [unroll]
      exact (hround.mapErr _).bind hpump
  | @wouldBlock x x' reports h _ ih =>
      obtain ⟨enough, hrest⟩ := ih
      refine ⟨enough + 1, fun fuel hfuel n t ht => ?_⟩
      obtain ⟨fuel, rfl⟩ := Nat.exists_eq_add_of_le' (Nat.le_trans (Nat.le_add_left 1 enough) hfuel)
      obtain ⟨x'', hpump⟩ := hrest fuel (by omega) n { t with env := (linux .sleep x').2 } rfl
      have hsleep : Enough linux (call (X := linuxSig) .sleep : Act linuxSig (Fault LinuxError) _)
          { t with env := x' } () { t with env := (linux .sleep x').2 } := Enough.call_eq rfl
      have hround : Enough linux (LinuxSender.pumpRound ⟨bindId, seqOf n⟩) t
          (.inl ⟨bindId, seqOf n⟩) { t with env := (linux .sleep x').2 } := by
        have hpoll : Enough linux (call (X := linuxSig) .read : Act linuxSig (Fault LinuxError) _) t
            .wouldBlock { t with env := x' } := Enough.call_eq (ht ▸ h)
        exact fun rest => (exec_bind_ok (hpoll rest)).trans (exec_bind_ok (hsleep rest))
      refine ⟨x'', ?_⟩
      rw [unroll]
      exact (hround.mapErr _).bind hpump

/-- **What the sender does when it has answered the BIND.** -/
theorem exists_finished {x : σ} {devices : List ExposedHidraw} {chosen : ExposedHidraw}
    {reports : List HidrawReport} (h : Serves linux x devices chosen reports) :
    ∃ enough, ∀ fuel, enough ≤ fuel → ∀ t : Io σ, t.env = (linux .enumerate x).2 → ∃ x',
      Enough linux (LinuxSender.afterAck chosen fuel bindId) t ()
        { t.sent ((reportEnvelopes 0 (reports.map (·.val)) ++ [unbindFrame.envelope]).flatMap
            Envelope.bytes) with env := x' } := by
  obtain ⟨enough, hpumped⟩ := exists_pumped h.reads
  refine ⟨enough, fun fuel hfuel t ht => ?_⟩
  have hopen := h.openHidraw
  have hnonblock := h.setNonblocking
  have hreads := hpumped fuel hfuel 0
  rw [← ht] at hopen hnonblock hreads
  -- the file is opened
  let t₁ : Io σ := { t with env := (linux (.openHidraw chosen.hidrawPath) t.env).2 }
  let t₂ : Io σ := { t with env := (linux .setNonblocking t₁.env).2 }
  have hcall : Enough linux (call (X := linuxSig) (.openHidraw chosen.hidrawPath) :
      Act linuxSig (Fault LinuxError) _) t (.ok ()) t₁ := Enough.call_eq (Prod.ext hopen rfl)
  have hcall' : Enough linux (call (X := linuxSig) .setNonblocking : Act linuxSig (Fault LinuxError) _)
      t₁ (.ok ()) t₂ := Enough.call_eq (Prod.ext hnonblock rfl)
  have hopened : Enough linux (LinuxSender.openPump chosen) t () t₂ :=
    hcall.bind ((Enough.ofResult rfl t₁).bind (hcall'.bind (Enough.ofResult rfl t₂)))
  -- the reports and the UNBIND
  obtain ⟨x', hpump⟩ := hreads t₂ rfl
  have hunbind (t : Io σ) : Enough linux (LinuxSender.unbind bindId) t ()
      (t.sent unbindFrame.envelope.bytes) :=
    (enough_writeFrame unbind_fits t).bind (Enough.pure () _)
  have hsent : ({ t₂.sent ((reportEnvelopes 0 (reports.map (·.val))).flatMap Envelope.bytes) with
        env := x' } : Io σ).sent unbindFrame.envelope.bytes =
      { t.sent ((reportEnvelopes 0 (reports.map (·.val)) ++ [unbindFrame.envelope]).flatMap
          Envelope.bytes) with env := x' } := by
    rw [List.flatMap_append, List.flatMap_singleton, Io.sent, Io.sent, Io.sent, ← List.append_assoc]
  have hstart : Enough linux (mapErr Stop.failed (LinuxSender.openPump chosen >>= fun _ =>
      (pure (.inl { bindId }) : Act linuxSig (Fault LinuxError) (LinuxSender.Pump ⊕ UInt8))))
      t (.inl { bindId }) t₂ :=
    fun rest => exec_mapErr_ok (exec_bind_ok (hopened rest)) _
  have hall := hpump.bind (f := fun c => mapErr Stop.failed (LinuxSender.unbind c))
    ((hunbind _).mapErr Stop.failed)
  rw [hsent] at hall
  exact ⟨x', fun rest => (exec_bind_ok (hstart rest)).trans (hall rest)⟩

end Bound

/-! ### The receiver from the BIND on -/

/-- The body that is handed to `apply_report`. -/
def ReceiverOp.applied : ReceiverOp → Option (List UInt8)
  | .applyReport body => some body
  | .stopped | .create _ | .seqJump _ _ => none

/-- **What has been handed to `apply_report`**, in its order. -/
def appliedBodies (calls : List (Call receiverSig)) : List (List UInt8) :=
  calls.filterMap fun c => c.1.applied

/-- The calls of a binding: the device, and then the reports. -/
def bindingOps (profile : DeviceProfile) (bodies : List (List UInt8)) : List ReceiverOp :=
  .create profile :: bodies.map .applyReport

/-- What is handed to `apply_report`, and the jumps, among the calls of a binding. -/
theorem of_made_binding {profile : DeviceProfile} {bodies : List (List UInt8)}
    {calls : List (Call receiverSig)} (h : Made (bindingOps profile bodies) [] calls) :
    appliedBodies calls = bodies ∧ jumpsOf calls = [] := by
  obtain ⟨_, rfl, hops⟩ := h
  constructor
  · have happlied : appliedBodies calls = (calls.map Sigma.fst).filterMap ReceiverOp.applied := by
      rw [appliedBodies, List.filterMap_map]
      rfl
    rw [happlied, hops, bindingOps, List.filterMap_cons_none rfl, List.filterMap_map]
    exact List.filterMap_some
  · rw [jumpsOf, List.filterMap_eq_nil_iff]
    rintro ⟨o, a⟩ hc
    have ho : o ∈ bindingOps profile bodies := by
      rw [← hops]
      exact List.mem_map_of_mem hc
    rw [bindingOps, List.mem_cons, List.mem_map] at ho
    rcases ho with rfl | ⟨body, -, rfl⟩
    · rfl
    · rfl

section Reading

variable {τ : Type} {json : Json BindAckMeta} {desktop : Desktop τ}

/-- What a step after which the loop goes on has asked for. -/
theorem made_step {e : Envelope} {s s' : Session} {log log' : SessionLog τ}
    (h : sessionStep json desktop.logged e (s, log) = .inl (s', log')) :
    Made (envelopeOps json s e) log.1 log'.1 := by
  obtain ⟨-, hanswer⟩ := sessionStep_eq_inl json desktop h
  have hmade := made_handleEnvelope json desktop s e log
  rwa [hanswer] at hmade

theorem envelopeOps_envelope (s : Session) (f : HidFrame) :
    envelopeOps json s f.envelope = frameOps json s f := by
  rw [envelopeOps, HidFrame.envelope, if_pos rfl, HidFrame.parse_encode]

/-- A report with the next number is applied, and no jump is noted. -/
theorem step_next (h : desktop.Works) (n : ℕ) (body : List UInt8) {s : Session}
    (hs : s.device.isSome = true) (hseq : s.lastSeq = seqOf n) (log : SessionLog τ) :
    ∃ log', sessionStep json desktop.logged (Arrival.frame (n + 1) bindId body).envelope (s, log) =
        .inl ({ s with lastSeq := seqOf (n + 1) }, log') ∧ Made [.applyReport body] log.1 log'.1 := by
  obtain ⟨log', hstep, -, -⟩ :=
    h.step_report json (f := Arrival.frame (n + 1) bindId body) rfl hs log
  refine ⟨log', hstep, ?_⟩
  have hmade := made_step hstep
  have hquiet : ¬ s.Jump (Arrival.frame (n + 1) bindId body) := by
    rintro ⟨hne, -⟩
    rw [hseq] at hne
    exact hne (seqOf_succ n)
  have hops : frameOps json s (Arrival.frame (n + 1) bindId body) = [.applyReport body] := by
    rw [frameOps]
    change (if s.Jump _ then [ReceiverOp.seqJump _ _] else []) ++ (if _ then _ else []) = _
    rw [if_neg hquiet, if_pos hs]
    rfl
  rwa [envelopeOps_envelope, hops] at hmade

/-- **What the session loop does with reports numbered one by one**, any number of them: it applies
each one, and notes no jump. -/
theorem run_reportEnvelopes (h : desktop.Works) (bodies : List (List UInt8)) (n : ℕ) {s : Session}
    (hs : s.device.isSome = true) (hseq : s.lastSeq = seqOf n) (log : SessionLog τ) :
    ∃ s' log', Consumer.run (sessionStep json desktop.logged) (reportEnvelopes n bodies) (s, log) =
        .inl (s', log') ∧ Made (bodies.map .applyReport) log.1 log'.1 := by
  induction bodies generalizing n s log with
  | nil => exact ⟨s, log, rfl, .none _⟩
  | cons body bodies ih =>
      obtain ⟨log₁, hstep, hmade⟩ := step_next h n body hs hseq log
      obtain ⟨s', log', hrun, hmade'⟩ :=
        ih (n + 1) (s := { s with lastSeq := seqOf (n + 1) }) hs rfl log₁
      refine ⟨s', log', ?_, hmade.append hmade'⟩
      rw [reportEnvelopes, Consumer.run_cons_inl hstep, hrun]

/-- **What the session loop does with all that the sender writes.** -/
theorem outcome_bound (h : desktop.Works) (ack : HidFrame) (hop : ack.op = .bindAck)
    {info : BindAckMeta} {descriptor : List UInt8}
    (hbody : parseBindAckBody json ack.body = .ok (info, descriptor)) {profile : DeviceProfile}
    (hprofile : profileOf info = some profile) (bodies : List (List UInt8)) (log : SessionLog τ) :
    ∃ log', sessionOutcome json desktop.logged
        (ack.envelope :: (reportEnvelopes 0 bodies ++ [unbindFrame.envelope])) {} log =
          (.ok .unbound, log') ∧ Made (bindingOps profile bodies) log.1 log'.1 := by
  obtain ⟨profile', log₁, hstep, -, -⟩ :=
    h.step_ack json ⟨hop, info, descriptor, profile, hbody, hprofile⟩ {} log
  obtain ⟨s₂, log₂, hrun, hmade⟩ := run_reportEnvelopes h bodies 0
    (s := { ({} : Session) with device := some profile' }) rfl rfl log₁
  refine ⟨log₂, ?_, ?_⟩
  · have hlast : sessionStep json desktop.logged unbindFrame.envelope (s₂, log₂) =
        .inr (.ok .unbound, log₂) := by
      rw [sessionStep_reading json desktop (h.stop _),
        answer_handleEnvelope_frame _ _ (carries_envelope unbindFrame),
        answer_handleFrame_unbind _ _ rfl]
      rfl
    rw [sessionOutcome, Consumer.outcome_cons_inl hstep, Consumer.outcome,
      Consumer.run_append_inl hrun, Consumer.run_cons_inr hlast]
  · have hcreate := made_step hstep
    rw [envelopeOps_envelope, frameOps, hop] at hcreate
    simp only [hbody, toOption_ok, Option.bind_some, hprofile, Option.map_some,
      Option.toList_some] at hcreate
    exact hcreate.append hmade

/-- **The session loop on a stream that is complete.** -/
theorem exec_sessionLoop {serde : Serde} {env : Env receiverSig τ} {io : Io τ} {fuel : ℕ}
    (hfuel : io.input.length < fuel) {c : SessionEnd} {t : τ}
    (h : sessionOutcome serde.bindAckMeta env (StreamCodec.frames Envelope.parse io.input) {} io.env =
      (.ok c, t)) :
    ∃ rest, exec env (sessionLoop serde fuel) io =
      (.ok c, { io with input := rest, env := t }) := by
  obtain ⟨rest, hrun⟩ := runSession_eq serde.bindAckMeta env {} io
  have hloop := exec_unroll_of_loop (g := fun e => Stop.failed (Fault.map RunError.session e))
    (hrun fuel hfuel)
  rw [h] at hloop
  refine ⟨rest, ?_⟩
  rw [sessionLoop]
  simp only [mapErr_mapErr]
  exact exec_bind_ok hloop

end Reading

/-! ### End to end -/

/-- **Every report is applied once and in its place, and nothing else is.**  The receiver and the
sender are at the two ends of a fresh connection, and what one sends arrives at the other, in its
order.  For all devices that the sender may find, among them a HID device, and all reports that it
may read from the one the two agree on, of a mouse or a keyboard: in whatever order the two move,
both return without an error, the receiver because of the UNBIND; what has been handed to
`apply_report` are the reports that were read; and no jump has been noted. -/
theorem fastLane_delivers (serde : Serde) (hprints : serde.Prints) {clientName name : String}
    (hclient : SerdeJson.Short clientName) (hname : SerdeJson.Short name)
    (devices : List ExposedHidraw) (chosen : ExposedHidraw)
    (hlist : (serde.control.toVec (LinuxSender.deviceList devices)).length ≤ maxPayload)
    (hchosen : chosenDevice devices = some chosen) (hstrings : chosen.Short)
    (hround : RoundTrips serde clientName name devices chosen)
    (hkind : LinuxSender.kindFor chosen = .mouse ∨ LinuxSender.kindFor chosen = .keyboard)
    {σ τ : Type} {linux : Env linuxSig σ} {x : σ} (reports : List HidrawReport)
    (hserves : Serves linux x devices chosen reports) {desktop : Desktop τ} (hworks : desktop.Works)
    (statics : ReportState) (u : τ) :
    ∃ enough, ∀ fuel, enough ≤ fuel → ∃ s' t',
      Ends (Net.Step desktop.logged linux)
        ⟨⟨((runReceive serde clientName none).unrolled fuel).run,
            { input := [], env := ([], statics, [], u) }⟩,
          ⟨((LinuxSender.serveSession serde name).unrolled fuel).run, { input := [], env := x }⟩⟩
        ⟨⟨.ret (.ok .unbound), s'⟩, ⟨.ret (.ok ()), t'⟩⟩ ∧
      appliedBodies s'.env.1 = reports.map (·.val) ∧ jumpsOf s'.env.1 = [] := by
  have hfits := handshake_fits hprints hclient hname hlist hstrings.busid
  have hpasses : ∀ msg ∈ handshakeMessages clientName name devices chosen,
      msg.Passes serde.control := fun msg h => ⟨hfits msg h, hround.control msg h⟩
  have hbind := bind_fits hprints hstrings.busid
  have hack := ack_fits hprints hstrings
  obtain ⟨profile, hprofile⟩ : ∃ profile, profileOf (LinuxSender.metaFor chosen) = some profile := by
    rcases hkind with hkind | hkind
    · exact ⟨_, by rw [profileOf, LinuxSender.metaFor, hkind]⟩
    · exact ⟨_, by rw [profileOf, LinuxSender.metaFor, hkind]⟩
  have hbody := parseBindAckBody_encode (length_metaText_lt hprints hstrings) hround.bindAckMeta
    (LinuxSender.descriptorFor (LinuxSender.metaFor chosen).kind)
  obtain ⟨log', houtcome, hmade⟩ :=
    outcome_bound hworks (LinuxSender.ackFor serde chosen bindId) rfl
    hbody hprofile (reports.map (·.val)) ([], statics, [], u)
  obtain ⟨enough, hfinished⟩ := exists_finished hserves
  let sent : List UInt8 := (boundEnvelopes serde chosen reports).flatMap Envelope.bytes
  refine ⟨max enough (sent.length + 1), fun fuel hfuel => ?_⟩
  let s₀ : Io (SessionLog τ) := { input := [], env := ([], statics, [], u) }
  let t₀ : Io σ := { input := [], env := x }
  obtain ⟨s₁, t₁, hs₁, hsenv, ht₁, htenv, hhandshake⟩ :=
    reaches_bound desktop.logged hpasses hchosen (rfl : s₀.input = []) (rfl : t₀.input = [])
      hserves.enumerate fuel
  -- the receiver sends its BIND, and the sender does all that it has to do
  let s₂ := s₁.sent (bindFrame serde.bindRequest chosen.summary.busid).envelope.bytes
  have hasked := Net.reaches_left (E := desktop.logged) (F := linux) (f := fun _ => sessionLoop serde fuel)
    (((enough_sendEnvelope hbind s₁).mapErr (Fault.map RunError.send)).mapErr Stop.failed) rfl
    ⟨(mapErr .failed (LinuxSender.acknowledge serde chosen) >>= LinuxSender.afterAck chosen fuel).run, t₁⟩
  let t₂ := t₁.sent (LinuxSender.ackFor serde chosen bindId).envelope.bytes
  obtain ⟨x', hfinish⟩ := hfinished fuel (by omega) t₂ htenv
  have hsent : (t₂.sent ((reportEnvelopes 0 (reports.map (·.val)) ++ [unbindFrame.envelope]).flatMap
      Envelope.bytes)).output = t₁.output ++ sent := by
    simp only [t₂, sent, boundEnvelopes, List.flatMap_cons, Io.sent, List.append_assoc]
  have hreturned := Net.reaches_right_ret (E := desktop.logged)
    (((enough_acknowledge hbind hround.bindRequest hack ht₁).mapErr Stop.failed).bind hfinish) hsent
    ⟨(sessionLoop serde fuel).run, s₂⟩
  -- and the receiver reads what it has been sent
  have hinput : (s₂.fed sent).input = sent := by
    rw [Io.fed_input, Io.sent_input, hs₁, List.nil_append]
  have hframes : StreamCodec.frames Envelope.parse sent = boundEnvelopes serde chosen reports := by
    refine Envelope.codec.frames_wire ?_
    rw [boundEnvelopes, List.forall_mem_cons, List.forall_mem_append, List.forall_mem_singleton]
    exact ⟨hack, reportEnvelopes_fit 0 reports, unbind_fits⟩
  have hlen : (s₂.fed sent).input.length < fuel := by
    rw [hinput]
    omega
  have hunbound : sessionOutcome serde.bindAckMeta desktop.logged
      (StreamCodec.frames Envelope.parse (s₂.fed sent).input) {} (s₂.fed sent).env =
        (.ok .unbound, log') := by
    rw [hinput, hframes, Io.fed_env, Io.sent_env, hsenv]
    exact houtcome
  obtain ⟨rest, hread⟩ := exec_sessionLoop hlen hunbound
  obtain ⟨said, hlast⟩ := Net.reaches_left_end (F := linux) hread (Except.ok ()) _
  exact ⟨_, _, Net.diamond.ends (hhandshake.trans (hasked.trans (hreturned.trans hlast)))
    (Net.final _ _ _ _), of_made_binding hmade⟩

/-- A `serde_json` that prints everything and knows some values. -/
def Json.printing {α : Type} (text : α → List UInt8) (known : List α) : Json α where
  toVec := text
  fromSlice bs := known.find? fun a => decide (text a = bs)

/-- A camera and a mouse. -/
def cameraAndMouse : List ExposedHidraw :=
  [⟨⟨"1-1", 0x046D, 0x0825, none, some "Camera", none, 0xEF, 2, 1, false⟩, "/dev/hidraw0", 0x0E, 0⟩,
    ⟨⟨"1-2", 0xBADD, 0xC0DE, none, some "Mouse", none, 0, 0, 0, true⟩, "/dev/hidraw1", 0x03, 2⟩]

/-- The mouse. -/
def theMouse : ExposedHidraw :=
  ⟨⟨"1-2", 0xBADD, 0xC0DE, none, some "Mouse", none, 0, 0, 0, true⟩, "/dev/hidraw1", 0x03, 2⟩

/-- A computer with the two devices.  Its state is what is still to be read from the mouse. -/
def mouseComputer : Env linuxSig (List HidrawRead)
  | .enumerate, x => (.ok cameraAndMouse, x)
  | .openHidraw _, x => (.ok (), x)
  | .setNonblocking, x => (.ok (), x)
  | .read, x => (x.headD .eof, x.tail)
  | .sleep, x => ((), x)

/-- The JSON of what is said of the mouse. -/
def clickSerde : Serde where
  control := .printing SerdeJson.controlText
    (handshakeMessages "linux-cli" "desk" cameraAndMouse theMouse)
  bindRequest := .printing SerdeJson.bindRequestText [⟨"1-2", "input"⟩]
  bindAckMeta := .printing SerdeJson.bindAckText [LinuxSender.metaFor theMouse]

/-- The left button is pressed and released. -/
def click : List HidrawReport := [⟨[1, 0, 0], by decide⟩, ⟨[0, 0, 0], by decide⟩]

theorem fastLane_delivers_click :
    ∃ enough, ∀ fuel, enough ≤ fuel → ∃ s' t',
      Ends (Net.Step idleDesktop.logged mouseComputer)
        ⟨⟨((runReceive clickSerde "linux-cli" none).unrolled fuel).run,
            { input := [], env := ([], {}, [], ()) }⟩,
          ⟨((LinuxSender.serveSession clickSerde "desk").unrolled fuel).run,
            { input := [], env := [.report ⟨[1, 0, 0], by decide⟩, .wouldBlock,
              .report ⟨[0, 0, 0], by decide⟩] }⟩⟩
        ⟨⟨.ret (.ok .unbound), s'⟩, ⟨.ret (.ok ()), t'⟩⟩ ∧
      appliedBodies s'.env.1 = [[1, 0, 0], [0, 0, 0]] ∧ jumpsOf s'.env.1 = [] :=
  fastLane_delivers clickSerde ⟨fun _ => rfl, fun _ => rfl, fun _ => rfl⟩ (by decide) (by decide)
    cameraAndMouse theMouse (by decide +kernel) (by decide) ⟨by decide, by decide, by decide⟩
    ⟨by decide +kernel, by decide, by decide⟩ (.inl rfl) click
    ⟨rfl, rfl, rfl, .report rfl (.wouldBlock rfl (.report rfl (.eof rfl)))⟩
    ⟨fun _ _ => rfl, fun _ => rfl⟩ {} ()

end Zerowire

/-
**The two USB/IP receivers, in simulate mode** (`desktop-linux/src/usbip_receiver.rs`,
`run_usbip_receive`; `desktop-linux/src/bin/zerowire_cli.rs`, `run_usbip_receive_tls`;
`desktop-linux/src/usbip.rs`, `SimulatedAttach`).

A receiver of USB/IP greets the sender, lists its devices, attaches one, and then either hands the
socket to the kernel or, in simulate mode, plays the kernel's part: it relays what the sender pushes
to a transcript, or drives a script of URBs.  The session is written twice, once for a `TcpStream`
and once for a TLS stream.  Here both are written down, each from its own source and after it is
connected.

What stands in for `vhci-hcd` notes an attachment in the transcript, and when it goes out of scope,
in whatever way, it notes that the device is detached.

Main definitions:

* `Zerowire.SimulatedAttach` — the stand-in for `vhci-hcd`;
* `Zerowire.runUsbipReceive`, `Zerowire.runUsbipReceiveTls` — the two receivers, for the given number
  of rounds of their loops.

Main results:

* `Zerowire.requestAttach_alike` — they ask for a device alike;
* `Zerowire.exec_relayFrame`, `Zerowire.exec_pollingRound_cons` — what their loops do with an
  envelope.
-/

import Zerowire.Control
import Zerowire.Peers
import Zerowire.UrbDriver

set_option relaxedAutoImplicit false
set_option autoImplicit false

namespace Zerowire

open Bytes Program

variable {τ : Type}

/-- What makes a receiver fail. -/
inductive UsbipReceiveError where
  | control (e : ControlError)
  /-- "sender error ..: ..". -/
  | senderError (code message : String)
  /-- "unexpected reply to HELLO: ..". -/
  | unexpectedHelloReply (got : ControlMessage)
  /-- "expected DEVICE_LIST, got ..". -/
  | deviceListExpected (got : ControlMessage)
  /-- There is no such device; the text differs. -/
  | noDevice (text : String)
  /-- "sender denied attach for ..: .." and "denied ..: ..". -/
  | denied (busid reason : String)
  /-- "unexpected reply to ATTACH: ..". -/
  | unexpectedAttachReply (got : ControlMessage)
  /-- "opening transcript .." and "appending .."; the text is that of the system. -/
  | transcript (text : String)
  | frame (e : UsbipError)
  | driver (e : DriverError)
  deriving Repr, DecidableEq

/-! ### The stand-in for `vhci-hcd` -/

/-- The digits of a number to the base 16, at least as many as asked for. -/
def hexDigits (width n : ℕ) : String :=
  let digits := Nat.toDigits 16 n
  String.ofList (List.replicate (width - digits.length) '0' ++ digits)

/-- `SimulatedAttach`; there is only one transcript. -/
structure SimulatedAttach where
  port : UInt8
  busid : String
  deriving Repr, DecidableEq

/-- Open the transcript. -/
def openForAttach (create : Bool) : Act simulatedSig (Fault UsbipReceiveError) Unit := do
  match ← call (X := simulatedSig) (.openAppend create) with
  | .ok () => return ()
  | .error text => throw (.err (.transcript text))

/-- `SimulatedAttach::create`. -/
def SimulatedAttach.create (info : AttachInfo) :
    Act simulatedSig (Fault UsbipReceiveError) SimulatedAttach := do
  call (X := simulatedSig) .createDirAll
  openForAttach true
  let port := info.importId.toUInt8
  note ("sim-attach port=" ++ toString port.toNat ++ " busid=" ++ info.busid ++ " import_id=" ++
    toString info.importId.toNat ++ " devid=0x" ++ hexDigits 1 info.devid.toNat ++ " speed=" ++
    toString info.speed.toNat ++ " vid=" ++ hexDigits 4 info.vendorId.toNat ++ " pid=" ++
    hexDigits 4 info.productId.toNat)
  match info.descriptorHex with
  | some d => note ("sim-descriptor " ++ info.busid ++ " bytes=" ++ toString (d.utf8ByteSize / 2))
  | none => pure ()
  return ⟨port, info.busid⟩

/-- What stands in for the attachment. -/
def attachmentOf (info : AttachInfo) : SimulatedAttach := ⟨info.importId.toUInt8, info.busid⟩

/-- The lines of `SimulatedAttach::create`. -/
def attachLines (info : AttachInfo) : List String :=
  ("sim-attach port=" ++ toString info.importId.toUInt8.toNat ++ " busid=" ++ info.busid ++
    " import_id=" ++ toString info.importId.toNat ++ " devid=0x" ++ hexDigits 1 info.devid.toNat ++
    " speed=" ++ toString info.speed.toNat ++ " vid=" ++ hexDigits 4 info.vendorId.toNat ++ " pid=" ++
    hexDigits 4 info.productId.toNat) ::
  (info.descriptorHex.map fun d =>
    "sim-descriptor " ++ info.busid ++ " bytes=" ++ toString (d.utf8ByteSize / 2)).toList

/-- The line of `SimulatedAttach::record_urb`. -/
def SimulatedAttach.urbLine (sim : SimulatedAttach) (importId seq : UInt32) (bytes : ℕ) : String :=
  "sim-urb port=" ++ toString sim.port.toNat ++ " import_id=" ++ toString importId.toNat ++ " seq=" ++
    toString seq.toNat ++ " bytes=" ++ toString bytes

/-- `SimulatedAttach::record_urb`. -/
def SimulatedAttach.recordUrb (sim : SimulatedAttach) (importId seq : UInt32) (bytes : ℕ) :
    Act simulatedSig (Fault UsbipReceiveError) Unit := do
  openForAttach false
  note (sim.urbLine importId seq bytes)

/-- The line of `Drop for SimulatedAttach`. -/
def SimulatedAttach.detachLine (sim : SimulatedAttach) : String :=
  "sim-detach port=" ++ toString sim.port.toNat ++ " busid=" ++ sim.busid

/-- `Drop for SimulatedAttach`; nothing is done about a transcript that cannot be opened. -/
def SimulatedAttach.drop {ε : Type} (sim : SimulatedAttach) : Act simulatedSig ε Unit := do
  match ← call (X := simulatedSig) (.openAppend false) with
  | .ok () => note sim.detachLine
  | .error _ => return ()

/-- What the relaying loops keep: the attachment and the number of frames, which wraps around. -/
structure Relay where
  sim : SimulatedAttach
  frames : UInt32 := 0
  deriving Repr, DecidableEq

/-- What both loops do with an envelope of the USB/IP channel. -/
def relayFrame (r : Relay) (e : Envelope) :
    Act simulatedSig (Fault UsbipReceiveError) (Relay ⊕ Unit) := do
  let frame ← ofResult ((UsbipFrame.parse e.payload).mapError (Fault.map .frame))
  let frames := r.frames + 1
  r.sim.recordUrb frame.importId frames frame.raw.length
  return .inl { r with frames }

/-- One round of `while !stop.load() { let env = match recv_envelope(..) { Ok(e) => e, Err(_) =>
break }; .. }`. -/
def pollingRound {σ ε : Type} (recvEnvelope : Act simulatedSig (Fault RecvError) OwnedEnvelope)
    (body : σ → Envelope → Act simulatedSig (Fault ε) (σ ⊕ Unit)) (st : σ) :
    Act simulatedSig (Fault ε) (σ ⊕ Unit) := do
  if ← call (X := simulatedSig) .stopped then return .inr ()
  else
    match ← catchErr recvEnvelope with
    | .error _ => return .inr ()
    | .ok e => body st e

section Receivers

variable (serde : Serde) (clientName : String) (busid : Option String) (drive : Option UInt32)

/-! ### Over a `TcpStream` -/

/-- The reply to HELLO, as `run_usbip_receive` takes it. -/
def helloReply : ControlMessage → Except (Fault UsbipReceiveError) Unit
  | .helloAck _ _ _ => .ok ()
  | .error code message => .error (.err (.senderError code message))
  | other => .error (.err (.unexpectedHelloReply other))

/-- The reply to LIST_DEVICES, as both receivers take it. -/
def listReply : ControlMessage → Except (Fault UsbipReceiveError) (List DeviceSummary)
  | .deviceList devices => .ok devices
  | other => .error (.err (.deviceListExpected other))

/-- `pick_device`. -/
def pickDevice (devs : List DeviceSummary) : Except (Fault UsbipReceiveError) DeviceSummary :=
  match busid with
  | some b =>
      match devs.find? (·.busid = b) with
      | some d => .ok d
      | none => .error (.err (.noDevice ("sender does not expose busid " ++ b)))
  | none =>
      match devs.head? with
      | some d => .ok d
      | none => .error (.err (.noDevice "sender exposes no devices"))

/-- `run_usbip_receive` from LIST_DEVICES to ATTACH: the device it has asked for. -/
def requestAttach : Act simulatedSig (Fault UsbipReceiveError) DeviceSummary := do
  mapErr (Fault.map .control) (Wire.sendControl serde.control .listDevices)
  let devices ← ofResult
    (listReply (← mapErr (Fault.map .control) (Wire.recvControl serde.control)))
  let chosen ← ofResult (pickDevice busid devices)
  mapErr (Fault.map .control) (Wire.sendControl serde.control (.attach chosen.busid "usbip"))
  return chosen

/-- The reply to ATTACH, as `run_usbip_receive` takes it.  An ATTACH_OK of an old sender is filled
up. -/
def attachReply (chosen : DeviceSummary) :
    ControlMessage → Except (Fault UsbipReceiveError) AttachInfo
  | .attachOkUsbip info => .ok info
  | .attachDenied busid reason => .error (.err (.denied busid reason))
  | .attachOk busid importId => .ok {
      busid := busid
      importId := importId
      devid := 0
      speed := 2
      vendorId := chosen.vendorId
      productId := chosen.productId
      descriptorHex := none }
  | other => .error (.err (.unexpectedAttachReply other))

/-- What `run_simulated` does with an envelope: a control ERROR ends it. -/
def simulatedEnvelope (r : Relay) (e : Envelope) :
    Act simulatedSig (Fault UsbipReceiveError) (Relay ⊕ Unit) :=
  match e.channel with
  | .usbip => relayFrame r e
  | .control =>
      match serde.control.fromSlice e.payload with
      | some (.error _ _) => return .inr ()
      | _ => return .inl r
  | .hid | .keepalive => return .inl r

/-- The loop of `run_simulated`. -/
def relayRounds (fuel : ℕ) (r : Relay) : Act simulatedSig (Stop (Fault UsbipReceiveError)) Unit :=
  unrollFailing (pollingRound Wire.recvEnvelope (simulatedEnvelope serde)) fuel r

/-- `run_simulated`. -/
def runSimulated (info : AttachInfo) (fuel : ℕ) :
    Act simulatedSig (Stop (Fault UsbipReceiveError)) Unit := do
  let sim ← mapErr .failed (SimulatedAttach.create info)
  tryFinally (relayRounds serde fuel { sim }) sim.drop

/-- `run_script(..)?` with the default script; its counts are only logged. -/
def driveScript (info : AttachInfo) (nExtraBulk : UInt32) :
    Act simulatedSig (Stop (Fault UsbipReceiveError)) Unit := do
  let _stats ← mapErr .failed (mapErr (Fault.map .driver)
    (runScript info.importId (scriptDefault nExtraBulk info.devid)))
  return ()

/-- `run_simulated_drive`. -/
def runSimulatedDrive (info : AttachInfo) (nExtraBulk : UInt32) :
    Act simulatedSig (Stop (Fault UsbipReceiveError)) Unit := do
  let sim ← mapErr .failed (SimulatedAttach.create info)
  tryFinally (driveScript info nExtraBulk) sim.drop

/-- `recv_control(&mut sock)?`. -/
def usbipReply : Act simulatedSig (Fault UsbipReceiveError) ControlMessage :=
  mapErr (Fault.map .control) (Wire.recvControl serde.control)

/-- The HELLO of `run_usbip_receive`. -/
def usbipHello : ControlMessage := .hello 1 clientName ["usbip/1.1.1"]

/-- `run_usbip_receive` up to what it attaches. -/
def negotiate : Act simulatedSig (Fault UsbipReceiveError) AttachInfo := do
  mapErr (Fault.map .control) (Wire.sendControl serde.control (usbipHello clientName))
  ofResult (helloReply (← usbipReply serde))
  let chosen ← requestAttach serde busid
  ofResult (attachReply chosen (← usbipReply serde))

/-- What `run_usbip_receive` does then. -/
def simulateUntilEnd (fuel : ℕ) (info : AttachInfo) :
    Act simulatedSig (Stop (Fault UsbipReceiveError)) Unit :=
  match drive with
  | some nExtra => runSimulatedDrive info nExtra
  | none => runSimulated serde info fuel

/-- **`run_usbip_receive`** with a transcript, once it is connected. -/
def runUsbipReceive (fuel : ℕ) : Act simulatedSig (Stop (Fault UsbipReceiveError)) Unit := do
  let info ← mapErr .failed (negotiate serde clientName busid)
  simulateUntilEnd serde drive fuel info

/-! ### Over TLS -/

/-- The choice of a device, as `run_usbip_receive_tls` writes it out. -/
def tlsPickDevice (devs : List DeviceSummary) : Except (Fault UsbipReceiveError) DeviceSummary :=
  match busid with
  | some b =>
      match devs.find? (·.busid = b) with
      | some d => .ok d
      | none => .error (.err (.noDevice ("no busid " ++ b)))
  | none =>
      match devs.head? with
      | some d => .ok d
      | none => .error (.err (.noDevice "sender exposes no devices"))

/-- `run_usbip_receive_tls` from LIST_DEVICES to ATTACH: the device it has asked for. -/
def tlsRequestAttach : Act simulatedSig (Fault UsbipReceiveError) DeviceSummary := do
  mapErr (Fault.map .control) (Tls.sendControl serde.control .listDevices)
  let devs ← ofResult
    (listReply (← mapErr (Fault.map .control) (Tls.recvControl serde.control)))
  let chosen ← ofResult (tlsPickDevice busid devs)
  mapErr (Fault.map .control) (Tls.sendControl serde.control (.attach chosen.busid "usbip"))
  return chosen

/-- The reply to ATTACH, as `run_usbip_receive_tls` takes it. -/
def tlsAttachReply : ControlMessage → Except (Fault UsbipReceiveError) AttachInfo
  | .attachOkUsbip info => .ok info
  | .attachDenied busid reason => .error (.err (.denied busid reason))
  | other => .error (.err (.unexpectedAttachReply other))

/-- What the loop of `run_usbip_receive_tls` does with an envelope. -/
def tlsEnvelope (r : Relay) (e : Envelope) :
    Act simulatedSig (Fault UsbipReceiveError) (Relay ⊕ Unit) :=
  if e.channel = .usbip then relayFrame r e else return .inl r

/-- The loop of `run_usbip_receive_tls`. -/
def tlsRelayRounds (fuel : ℕ) (r : Relay) :
    Act simulatedSig (Stop (Fault UsbipReceiveError)) Unit :=
  unrollFailing (pollingRound Tls.recvEnvelope tlsEnvelope) fuel r

/-- `ztls::recv_control(&mut s)?`. -/
def tlsReply : Act simulatedSig (Fault UsbipReceiveError) ControlMessage :=
  mapErr (Fault.map .control) (Tls.recvControl serde.control)

/-- The HELLO of `run_usbip_receive_tls`, with `CLIENT_NAME` and `SUPPORTS`. -/
def tlsUsbipHello : ControlMessage :=
  .hello 1 "zerowire-cli/0.2.0" ["usbip/1.1.1", "hid-fastlane/1"]

/-- `run_usbip_receive_tls` up to what it attaches.  Any control message will do for the reply to
HELLO. -/
def tlsNegotiate : Act simulatedSig (Fault UsbipReceiveError) AttachInfo := do
  mapErr (Fault.map .control) (Tls.sendControl serde.control tlsUsbipHello)
  let _reply ← tlsReply serde
  let _chosen ← tlsRequestAttach serde busid
  ofResult (tlsAttachReply (← tlsReply serde))

/-- What `run_usbip_receive_tls` does then. -/
def tlsSimulateUntilEnd (fuel : ℕ) (info : AttachInfo) :
    Act simulatedSig (Stop (Fault UsbipReceiveError)) Unit := do
  let sim ← mapErr .failed (SimulatedAttach.create info)
  tryFinally (match drive with
    | some nExtra => driveScript info nExtra
    | none => tlsRelayRounds fuel { sim }) sim.drop

/-- **`run_usbip_receive_tls`** with a transcript, after the handshake of TLS. -/
def runUsbipReceiveTls (fuel : ℕ) : Act simulatedSig (Stop (Fault UsbipReceiveError)) Unit := do
  let info ← mapErr .failed (tlsNegotiate serde busid)
  tlsSimulateUntilEnd drive fuel info

/-! ### What they have in common -/

/-- The same device is chosen. -/
theorem pickDevice_alike (devs : List DeviceSummary) :
    SameOutcome Eq (pickDevice busid devs) (tlsPickDevice busid devs) := by
  rcases busid with _ | b
  · rcases h : devs.head? with _ | d
    · rw [pickDevice, tlsPickDevice, h]
      exact .err _ _
    · rw [pickDevice, tlsPickDevice, h]
      exact .ok rfl
  · rcases h : devs.find? (·.busid = b) with _ | d
    · rw [pickDevice, tlsPickDevice, h]
      exact .err _ _
    · rw [pickDevice, tlsPickDevice, h]
      exact .ok rfl

/-- **The two receivers ask for a device alike.** -/
theorem requestAttach_alike : Alike Eq (requestAttach serde busid)
    (tlsRequestAttach serde busid) := by
  have hsend (msg : ControlMessage) :=
    (sendControl_alike (X := simulatedSig) serde.control msg).mapErr
      UsbipReceiveError.control UsbipReceiveError.control
  have hrecv := (recvControl_alike (X := simulatedSig) serde.control).mapErr
    UsbipReceiveError.control UsbipReceiveError.control
  refine (hsend _).bind_eq fun _ => hrecv.bind_eq fun msg => ?_
  refine (Alike.refl (fun _ => rfl) _).bind_eq fun devs => ?_
  refine (Alike.ofResult (pickDevice_alike busid devs)).bind_eq fun chosen => ?_
  exact (hsend _).bind_eq fun _ => Alike.pure rfl

end Receivers

/-! ### What is done with an envelope -/

section Rounds

variable (desk : Desk)

theorem exec_openForAttach (create : Bool) (io : Io Trail) :
    exec desk.env (openForAttach create) io =
      (if desk.opens io.env.opened then .ok () else .error (.err (.transcript "")),
        { io with env := { io.env with opened := io.env.opened + 1 } }) := by
  have hcall : exec desk.env (call (X := simulatedSig) (.openAppend create) :
      Act simulatedSig (Fault UsbipReceiveError) _) io =
      (.ok (if desk.opens io.env.opened then .ok () else .error ""),
        { io with env := { io.env with opened := io.env.opened + 1 } }) := rfl
  rw [openForAttach, exec_bind_ok hcall]
  cases desk.opens io.env.opened with
  | true => rfl
  | false => rfl

/-- A payload that is too short for a frame is an error. -/
theorem exec_relayFrame_short {e : Envelope} (h : e.payload.length < 4) (r : Relay)
    (io : Io Trail) :
    ∃ err, exec desk.env (relayFrame r e) io = (.error (.err err), io) := by
  rw [relayFrame, UsbipFrame.parse_eq, if_pos h, mapError_error, exec_ofResult_error_bind]
  exact ⟨_, rfl⟩

theorem exec_recordUrb_closed {io : Io Trail} (hopen : desk.opens io.env.opened = false)
    (sim : SimulatedAttach) (importId seq : UInt32) (bytes : ℕ) :
    exec desk.env (sim.recordUrb importId seq bytes) io =
      (.error (.err (.transcript "")),
        { io with env := { io.env with opened := io.env.opened + 1 } }) := by
  have hfails := exec_openForAttach desk false io
  rw [hopen] at hfails
  rw [SimulatedAttach.recordUrb, exec_bind_error hfails]

theorem exec_recordUrb {io : Io Trail} (hopen : desk.opens io.env.opened = true)
    (sim : SimulatedAttach) (importId seq : UInt32) (bytes : ℕ) :
    exec desk.env (sim.recordUrb importId seq bytes) io =
      (.ok (), { io with env := { io.env with
        opened := io.env.opened + 1
        transcript := io.env.transcript ++ [sim.urbLine importId seq bytes] } }) := by
  have hopens := exec_openForAttach desk false io
  rw [hopen] at hopens
  rw [SimulatedAttach.recordUrb, exec_bind_ok hopens]
  rfl

/-- A frame cannot be noted if the transcript cannot be opened. -/
theorem exec_relayFrame_closed {e : Envelope} (h : ¬ e.payload.length < 4) (r : Relay)
    {io : Io Trail}
    (hopen : desk.opens io.env.opened = false) :
    ∃ err, exec desk.env (relayFrame r e) io =
      (.error (.err err), { io with env := { io.env with opened := io.env.opened + 1 } }) := by
  rw [relayFrame, UsbipFrame.parse_eq, if_neg h, mapError_ok, exec_ofResult_ok_bind]
  exact ⟨_, exec_bind_error (exec_recordUrb_closed desk hopen _ _ _ _)⟩

/-- Otherwise it is noted. -/
theorem exec_relayFrame {e : Envelope} {f : UsbipFrame} (hparse : UsbipFrame.parse e.payload = .ok f)
    (r : Relay) {io : Io Trail} (hopen : desk.opens io.env.opened = true) :
    exec desk.env (relayFrame r e) io =
      (.ok (.inl { r with frames := r.frames + 1 }), { io with env := { io.env with
        opened := io.env.opened + 1
        transcript := io.env.transcript ++
          [r.sim.urbLine f.importId (r.frames + 1) f.raw.length] } }) := by
  rw [relayFrame, hparse, mapError_ok, exec_ofResult_ok_bind]
  exact exec_bind_ok (exec_recordUrb desk hopen _ _ _ _)

/-- What going out of scope does to the surroundings: the line at the end is noted if the transcript
can be opened then. -/
def Desk.detached (sim : SimulatedAttach) (t : Trail) : Trail :=
  { t with
    opened := t.opened + 1
    transcript := t.transcript ++ if desk.opens t.opened then [sim.detachLine] else [] }

theorem exec_drop {ε : Type} (sim : SimulatedAttach) (io : Io Trail) :
    exec desk.env (sim.drop : Act simulatedSig ε Unit) io =
      (.ok (), { io with env := desk.detached sim io.env }) := by
  have hcall : exec desk.env (call (X := simulatedSig) (.openAppend false) :
      Act simulatedSig ε _) io =
      (.ok (if desk.opens io.env.opened then .ok () else .error ""),
        { io with env := { io.env with opened := io.env.opened + 1 } }) := rfl
  rw [SimulatedAttach.drop, exec_bind_ok hcall, Desk.detached]
  cases desk.opens io.env.opened with
  | true => rfl
  | false =>
      have hnothing : io.env.transcript ++ [] = io.env.transcript := List.append_nil _
      simp only [Bool.false_eq_true, if_false, hnothing]
      rfl

/-- The scope of an attachment. -/
theorem exec_scope {α : Type} {p : Act simulatedSig (Stop (Fault UsbipReceiveError)) α} {io : Io Trail}
    {z : Except (Stop (Fault UsbipReceiveError)) α × Io Trail} (h : exec desk.env p io = z)
    (hran : z.1 ≠ .error .ranOut) (sim : SimulatedAttach) :
    exec desk.env (tryFinally p sim.drop) io =
      (z.1, { z.2 with env := desk.detached sim z.2.env }) :=
  exec_tryFinally h hran (exec_drop desk sim z.2)

theorem exec_create_closed {io : Io Trail} (hopen : desk.opens io.env.opened = false)
    (info : AttachInfo) :
    exec desk.env (SimulatedAttach.create info) io =
      (.error (.err (.transcript "")),
        { io with env := { io.env with opened := io.env.opened + 1 } }) := by
  have hdir : exec desk.env (call (X := simulatedSig) .createDirAll :
      Act simulatedSig (Fault UsbipReceiveError) _) io = (.ok (), io) := rfl
  have hfails := exec_openForAttach desk true io
  rw [hopen] at hfails
  rw [SimulatedAttach.create, exec_bind_ok hdir, exec_bind_error hfails]

/-- An attachment notes its lines. -/
theorem exec_create {io : Io Trail} (hopen : desk.opens io.env.opened = true)
    (info : AttachInfo) :
    exec desk.env (SimulatedAttach.create info) io =
      (.ok (attachmentOf info), { io with env := { io.env with
        opened := io.env.opened + 1
        transcript := io.env.transcript ++ attachLines info } }) := by
  have hdir : exec desk.env (call (X := simulatedSig) .createDirAll :
      Act simulatedSig (Fault UsbipReceiveError) _) io = (.ok (), io) := rfl
  have hopens := exec_openForAttach desk true io
  rw [hopen] at hopens
  rw [SimulatedAttach.create, exec_bind_ok hdir, exec_bind_ok hopens, attachLines]
  rcases info.descriptorHex with _ | d
  · rfl
  · have happend (line : String) :
        io.env.transcript ++ [line] ++ ["sim-descriptor " ++ info.busid ++
        " bytes=" ++ toString (d.utf8ByteSize / 2)] = io.env.transcript ++ [line, "sim-descriptor " ++
          info.busid ++ " bytes=" ++ toString (d.utf8ByteSize / 2)] := List.append_assoc _ _ _
    rw [Option.map_some, Option.toList_some, ← happend]
    rfl

variable {σ ε : Type} (hc pc : String)
  (body : σ → Envelope → Act simulatedSig (Fault ε) (σ ⊕ Unit))

/-- A round in which the flag is up. -/
theorem exec_pollingRound_stopped {io : Io Trail} (h : desk.stop io.env.polls = true) (st : σ) :
    exec desk.env (pollingRound (recvEnvelopeWith hc pc) body st) io =
      (.ok (.inr ()), { io with env := { io.env with polls := io.env.polls + 1 } }) := by
  have hcall : exec desk.env (call (X := simulatedSig) .stopped :
      Act simulatedSig (Fault ε) _) io =
      (.ok true, { io with env := { io.env with polls := io.env.polls + 1 } }) := by
    rw [exec_call, ← h]
    rfl
  rw [pollingRound, exec_bind_ok hcall]
  rfl

/-- A round in which it is not. -/
theorem exec_pollingRound_reading {io : Io Trail} (h : desk.stop io.env.polls = false) (st : σ) :
    exec desk.env (pollingRound (recvEnvelopeWith hc pc) body st) io =
      exec desk.env (do
        match ← catchErr (recvEnvelopeWith hc pc) with
        | .error _ => return .inr ()
        | .ok e => body st e)
        { io with env := { io.env with polls := io.env.polls + 1 } } := by
  have hcall : exec desk.env (call (X := simulatedSig) .stopped :
      Act simulatedSig (Fault ε) _) io =
      (.ok false, { io with env := { io.env with polls := io.env.polls + 1 } }) := by
    rw [exec_call, ← h]
    rfl
  rw [pollingRound, exec_bind_ok hcall]
  rfl

/-- A round at the end of the stream. -/
theorem exec_pollingRound_nil {io : Io Trail} (hs : io.input = [])
    (h : desk.stop io.env.polls = false) (st : σ) :
    exec desk.env (pollingRound (recvEnvelopeWith hc pc) body st) io =
      (.ok (.inr ()), { io with env := { io.env with polls := io.env.polls + 1 } }) := by
  have hrecv := exec_recvEnvelopeWith_short desk.env hc pc
    (s := { io with env := { io.env with polls := io.env.polls + 1 } }) (by
      rw [hs]
      decide)
  rw [exec_pollingRound_reading desk hc pc body h, exec_bind_ok (exec_catchErr_err hrecv), ← hs]
  rfl

/-- A round in which an envelope is received. -/
theorem exec_pollingRound_cons {io : Io Trail} {e : Envelope} {rest : List UInt8} (he : e.Fits)
    (hs : io.input = e.bytes ++ rest) (h : desk.stop io.env.polls = false) (st : σ) :
    exec desk.env (pollingRound (recvEnvelopeWith hc pc) body st) io =
      exec desk.env (body st e)
        { io with input := rest, env := { io.env with polls := io.env.polls + 1 } } := by
  have hparse : Envelope.parse io.input = .ok (some (e, e.bytes.length)) := by
    rw [hs]
    exact Envelope.codec.round rest he
  have hrecv := exec_recvEnvelopeWith_of_parse desk.env hc pc
    (s := { io with env := { io.env with polls := io.env.polls + 1 } }) hparse
  have hdrop : io.input.drop e.bytes.length = rest := by
    rw [hs]
    exact List.drop_left' rfl
  rw [exec_pollingRound_reading desk hc pc body h, exec_bind_ok (exec_catchErr_ok hrecv)]
  simp only [hdrop]

/-- A round that does not end the loop, or ends it with an error, has read an envelope. -/
theorem pollingRound_reads {io t : Io Trail} {st : σ} {r : Except (Fault ε) (σ ⊕ Unit)}
    (h : exec desk.env (pollingRound (recvEnvelopeWith hc pc) body st) io = (r, t))
    (hr : r ≠ .ok (.inr ())) : t.input.length < io.input.length := by
  -- a round that is stopped, or finds no envelope, ends the loop without an error
  rcases hstop : desk.stop io.env.polls with _ | _
  · rw [exec_pollingRound_reading desk hc pc body hstop] at h
    by_cases hparse : ∃ r, Envelope.parse io.input = .ok (some r)
    · obtain ⟨⟨env, n⟩, hparse⟩ := hparse
      have hrecv := exec_recvEnvelopeWith_of_parse desk.env hc pc
        (s := { io with env := { io.env with polls := io.env.polls + 1 } }) hparse
      rw [exec_bind_ok (exec_catchErr_ok hrecv)] at h
      have hle := run_input_le desk.env (body st env).run
        { io with
          input := io.input.drop n
          env := { io.env with polls := io.env.polls + 1 } }
      have hpos := Envelope.codec.pos hparse
      have hlen := Envelope.codec.le hparse
      rw [← exec, h, List.length_drop] at hle
      exact Nat.lt_of_le_of_lt hle (by omega)
    · obtain ⟨err, rest, hrecv⟩ := exec_recvEnvelopeWith_of_not_parse desk.env hc pc
        (s := { io with env := { io.env with polls := io.env.polls + 1 } })
        (fun r hr => hparse ⟨r, hr⟩)
      rw [exec_bind_ok (exec_catchErr_err hrecv)] at h
      exact absurd (Prod.mk.inj h).1.symm hr
  · rw [exec_pollingRound_stopped desk hc pc body hstop] at h
    exact absurd (Prod.mk.inj h).1.symm hr

end Rounds

end Zerowire

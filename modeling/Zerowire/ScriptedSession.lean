/-
**The URB driver and the URB pump, at the two ends of one connection**
(`desktop-linux/src/urb_driver.rs`, `desktop-linux/src/urb_pump.rs`).

The driver plays the part of `vhci-hcd` and the pump that of the phone, so the two together exercise
the whole of USB/IP without either.  Each one is a program of its own: the driver sends a command
and waits for its reply, the pump waits for a command and sends the reply, and neither knows where
the other one is.  Here they are connected to each other.

A script goes through if the device does for each URB what the script expects of it.  What the
driver and the pump have counted in the end then follows from the script.

Main definitions:

* `Zerowire.FakeDevice.massStorage` — the device of the loopback test;
* `Zerowire.pumpProgram` — the pump as one program;
* `Zerowire.FakeDevice.Satisfies` — what the device has to do for a URB of the script;
* `Zerowire.DriverStats.passed`, `Zerowire.PumpStats.served` — what is counted for one.

Main results:

* `Zerowire.reaches_exchange` — a command goes over and its reply comes back;
* `Zerowire.reaches_summary` — a script that the device satisfies, up to the summary of the driver;
* `Zerowire.ends_script` — **a script that the device satisfies goes through**, whatever order the
  two parties move in;
* `Zerowire.satisfies_massStorage` — the device of the loopback test satisfies the default script;
* `Zerowire.ends_scriptDefault` — **what the two of them have counted in the end.**
-/

import Zerowire.Monitor
import Zerowire.Network
import Zerowire.UrbDriver
import Zerowire.UrbPumpRun

set_option relaxedAutoImplicit false
set_option autoImplicit false

namespace Zerowire

open Bytes Program Relation

/-! ### The device -/

/-- `synth_device_descriptor`. -/
def synthDeviceDescriptor (vendor product : UInt16) (deviceClass : UInt8) : List UInt8 :=
  [0x12, 0x01, 0x00, 0x02, deviceClass, 0x00, 0x00, 64, vendor.toUInt8, (vendor >>> 8).toUInt8,
    product.toUInt8, (product >>> 8).toUInt8, 0x00, 0x01, 0, 0, 0, 1]

/-- `synth_config_descriptor`: a configuration, an interface and two endpoints. -/
def synthConfigDescriptor (interfaceClass subclass proto : UInt8) : List UInt8 :=
  [0x09, 0x02, 0x20, 0x00, 0x01, 0x01, 0x00, 0x80, 0x32] ++
    [0x09, 0x04, 0x00, 0x00, 0x02, interfaceClass, subclass, proto, 0x00] ++
    [0x07, 0x05, 0x81, 0x02, 0x40, 0x00, 0x00] ++
    [0x07, 0x05, 0x02, 0x02, 0x40, 0x00, 0x00]

/-- `FakeDevice::mass_storage`. -/
def FakeDevice.massStorage (vendor product : UInt16) : FakeDevice where
  deviceDescriptor := synthDeviceDescriptor vendor product 0x08
  configDescriptor := synthConfigDescriptor 0x08 0x06 0x50
  endpoints := [⟨0x81, .bulk⟩, ⟨0x02, .bulk⟩]

/-! ### The pump as one program -/

variable {X : Sig} {τ γ : Type}

/-- `run_pump`, for the given number of rounds. -/
def pumpProgram (importId : UInt32) (device : FakeDevice) (fuel : ℕ) (stats : PumpStats) :
    Act X (Stop (Fault PumpError)) PumpStats :=
  unroll (fun stats => mapErr .failed (pumpRound importId device stats)) fuel stats

/-- The program is the loop. -/
theorem exec_pumpProgram {env : Env X τ} {importId : UInt32} {device : FakeDevice} {fuel : ℕ}
    {s s' : Io τ} {r : Except (Fault PumpError) PumpStats}
    (h : runPump env importId device fuel s = some (r, s')) :
    exec env (pumpProgram importId device fuel {}) s = (r.mapError .failed, s') :=
  exec_unroll_of_loop h

section Rounds

variable (env : Env X τ) (importId : UInt32) (device : FakeDevice)

/-- A round for which its envelope has arrived. -/
theorem enough_pumpRound {e : Envelope} (hfits : e.Fits)
    {served : Served} {stats stats' : PumpStats}
    (hserve : serve importId device e stats = (some (some served), stats')) {t : Io τ}
    (hinput : t.input = e.bytes) :
    Enough env (pumpRound importId device stats) t (.inl stats')
      { t with input := [], output := t.output ++ (served.envelope importId).bytes } := by
  intro rest
  have hparse : Envelope.parse (t.fed rest).input = .ok (some (e, e.bytes.length)) := by
    rw [Io.fed_input, hinput]
    exact Envelope.codec.round rest hfits
  rcases exec_pumpRound env importId device stats (t.fed rest) with
    ⟨hno, -⟩ | ⟨e', n, hparse', ⟨reply, stats'', hserve', hx⟩ | ⟨hnone, -⟩⟩
  · exact absurd hparse (hno _)
  · rw [hparse] at hparse'
    cases hparse'
    rw [hserve] at hserve'
    cases hserve'
    rw [hx, Io.fed_input, hinput, List.drop_left' rfl]
    rfl
  · rw [hparse] at hparse'
    cases hparse'
    rw [hserve] at hnone
    cases hnone

/-- The round after the last envelope. -/
theorem exec_pumpProgram_end (fuel : ℕ) (stats : PumpStats) {t : Io τ} (hinput : t.input = []) :
    ∃ t', exec env (pumpProgram importId device (fuel + 1) stats) t = (.ok stats, t') := by
  rcases exec_pumpRound env importId device stats t with ⟨-, rest, hx⟩ | ⟨e, n, hparse, -⟩
  · refine ⟨{ t with input := rest }, ?_⟩
    rw [pumpProgram, unroll]
    exact exec_bind_ok (exec_mapErr_ok hx _)
  · rw [hinput] at hparse
    cases hparse

end Rounds

/-! ### A command and its reply -/

/-- The envelope in which a packet is sent. -/
def packetEnvelope (importId : UInt32) (payload : List UInt8) : Envelope :=
  ⟨.usbip, UsbipFrame.encode ⟨importId, payload⟩⟩

/-- A packet of moderate size respects the cap. -/
theorem fits_packetEnvelope (importId : UInt32) {payload : List UInt8}
    (h : payload.length ≤ 2 ^ 16) : (packetEnvelope importId payload).Fits := by
  have hlen : (packetEnvelope importId payload).payload.length = 4 + payload.length := by
    rw [packetEnvelope, UsbipFrame.encode, List.length_append, length_toBe32]
  rw [Envelope.Fits, hlen, maxPayload]
  omega

/-- The second half of `exchange`. -/
def awaitReply : Act simulatedSig (Fault DriverError) Envelope := do
  let e ← mapErr (Fault.map .recv) Tls.recvEnvelope
  if e.channel ≠ .usbip then throw (.err (.unexpectedChannel e.channel)) else return e

theorem exchange_bind (importId : UInt32) (payload : List UInt8)
    (f : Envelope → Act simulatedSig (Fault DriverError) γ) :
    exchange importId payload >>= f = (do
      mapErr (Fault.map .send)
        (Tls.sendEnvelope .usbip (UsbipFrame.encode ⟨importId, payload⟩))
      let e ← awaitReply
      f e) := by
  have hexchange : exchange importId payload = (do
      mapErr (Fault.map .send)
        (Tls.sendEnvelope .usbip (UsbipFrame.encode ⟨importId, payload⟩))
      awaitReply) := rfl
  rw [hexchange, bind_assoc]

/-- The reply has arrived. -/
theorem enough_awaitReply (env : Env simulatedSig τ) {e : Envelope} (hfits : e.Fits)
    (hchan : e.channel = .usbip) {s : Io τ} (hinput : s.input = e.bytes) :
    Enough env awaitReply s e { s with input := [] } := by
  intro rest
  have hparse : Envelope.parse (s.fed rest).input = .ok (some (e, e.bytes.length)) := by
    rw [Io.fed_input, hinput]
    exact Envelope.codec.round rest hfits
  have hrecv := exec_recvEnvelopeWith_of_parse env "reading TLS header" "reading TLS payload" hparse
  rw [Io.fed_input, hinput, List.drop_left' rfl] at hrecv
  rw [awaitReply, Tls.recvEnvelope, exec_bind_ok (exec_mapErr_ok hrecv _),
    if_neg (not_not.2 hchan)]
  rfl

section Exchange

variable (envX : Env simulatedSig Trail) (envY : Env X τ) (importId : UInt32) (device : FakeDevice)

/-- **A command goes over and its reply comes back.** -/
theorem reaches_exchange {payload : List UInt8} {served : Served} {stats stats' : PumpStats}
    (hfits : (packetEnvelope importId payload).Fits) (hreply : (served.envelope importId).Fits)
    (hserve : serve importId device (packetEnvelope importId payload) stats =
      (some (some served), stats'))
    {s : Io Trail} (hs : s.input = []) {t : Io τ} (ht : t.input = [])
    (f : Envelope → Act simulatedSig (Fault DriverError) γ) (fuel : ℕ) :
    ∃ s' t', s'.input = [] ∧ s'.env = s.env ∧ t'.input = [] ∧
      ReflTransGen (Net.Step envX envY)
        ⟨⟨(exchange importId payload >>= f).run, s⟩,
          ⟨(pumpProgram importId device (fuel + 1) stats).run, t⟩⟩
        ⟨⟨(f (served.envelope importId)).run, s'⟩,
          ⟨(pumpProgram importId device fuel stats').run, t'⟩⟩ := by
  -- the command is sent
  have hsend : Enough envX
      (mapErr (Fault.map DriverError.send)
        (Tls.sendEnvelope .usbip (UsbipFrame.encode ⟨importId, payload⟩))) s ()
      { s with output := s.output ++ (packetEnvelope importId payload).bytes } := by
    intro rest
    exact exec_mapErr_ok (exec_sendEnvelopeWith envX "writing TLS envelope" hfits (s.fed rest)) _
  have hsent := Net.reaches_left (F := envY) (f := fun _ => awaitReply >>= f) hsend rfl
    ⟨(pumpProgram importId device (fuel + 1) stats).run, t⟩
  -- it is served
  have hround := (enough_pumpRound envY importId device hfits hserve
    (t := t.fed (packetEnvelope importId payload).bytes) (by rw [Io.fed_input, ht, List.nil_append])).mapErr
    Stop.failed
  have hserved := Net.reaches_right_round (E := envX) (f := pure)
    (fun stats => mapErr Stop.failed (pumpRound importId device stats)) hround rfl fuel
    ⟨(awaitReply >>= f).run,
      { s with output := s.output ++ (packetEnvelope importId payload).bytes }⟩
  rw [bind_pure, bind_pure] at hserved
  -- the reply is received
  have hawait := enough_awaitReply envX hreply rfl
    (s := Io.fed { s with output := s.output ++ (packetEnvelope importId payload).bytes }
      (served.envelope importId).bytes) (by rw [Io.fed_input, hs, List.nil_append])
  rw [exchange_bind]
  refine ⟨_, _, ?_, ?_, ?_,
    hsent.trans (hserved.trans (Net.reaches_left hawait (List.append_nil _).symm _))⟩
  · rfl
  · rfl
  · rfl

end Exchange

/-! ### What the driver reads in a reply -/

/-- A reply starts with its op. -/
theorem expectOp_eq {op : UrbOp} {raw : List UInt8} (hlen : urbHeaderLen ≤ raw.length)
    (hop : wordAt raw 0 = op.toU32) : expectOp op raw = .ok () := by
  rw [expectOp, peekUrbOp_eq hlen, UrbOp.fromU32_eq_some.2 hop, mapError_ok, ok_bind]
  simp only [ne_eq, not_true_eq_false, if_false]
  rfl

theorem frameOf_envelope (importId : UInt32) (served : Served) :
    frameOf (served.envelope importId) = .ok ⟨importId, served.packet⟩ := by
  rw [frameOf, Served.envelope, UsbipFrame.parse_encode, mapError_ok]

/-- The driver reads back the header of a RET_SUBMIT, and how much data follows it. -/
theorem submitReply_envelope (importId : UInt32) (cmd : CmdSubmit) (res : SubmitResult) :
    submitReply importId ((Served.submit cmd res).envelope importId) =
      .ok (retSubmitOf cmd res, UInt32.ofNat res.data.length) := by
  have hret := RetSubmit.parse_encode (retSubmitOf cmd res)
  have hlen := RetSubmit.length_encode (retSubmitOf cmd res)
  generalize hpacket : (Served.submit cmd res).packet = raw
  have hraw : raw = (retSubmitOf cmd res).encode ++ res.data := hpacket.symm
  have hle : urbHeaderLen ≤ raw.length := by
    rw [hraw, List.length_append, hlen]
    omega
  have hop := ((parse_header_iff hle (RetSubmit.parse_eq raw)).1 (by rw [hraw]; exact hret _)).1
  have hslice : (slice raw 0 urbHeaderLen : Except (Fault DriverError) _) =
      .ok (retSubmitOf cmd res).encode := by
    rw [slice_eq_ok (by omega) hle, List.drop_zero, hraw, List.take_left' hlen]
  have hbody : raw.length - urbHeaderLen = res.data.length := by
    rw [hraw, List.length_append, hlen, Nat.add_sub_cancel_left]
  have hparse := hret []
  rw [List.append_nil] at hparse
  rw [submitReply, frameOf_envelope, ok_bind, if_neg (not_not.2 rfl), hpacket, expectOp_eq hle hop,
    ok_bind, hslice, ok_bind, hparse, mapError_ok, ok_bind, hbody]
  rfl

/-- The driver reads back a RET_UNLINK. -/
theorem unlinkReply_envelope (importId : UInt32) (u : CmdUnlink) :
    unlinkReply ((Served.unlink u).envelope importId) = .ok (retUnlinkOf u 0) := by
  have hret := RetUnlink.parse_encode (retUnlinkOf u 0) []
  have hlen := RetUnlink.length_encode (retUnlinkOf u 0)
  rw [List.append_nil] at hret
  generalize hpacket : (Served.unlink u).packet = raw
  have hraw : raw = (retUnlinkOf u 0).encode := hpacket.symm
  have hle : urbHeaderLen ≤ raw.length := by
    rw [hraw]
    exact Nat.le_of_eq hlen.symm
  have hop := ((parse_header_iff hle (RetUnlink.parse_eq raw)).1 (by rw [hraw]; exact hret)).1
  have hslice : (slice raw 0 urbHeaderLen : Except (Fault DriverError) _) =
      .ok (retUnlinkOf u 0).encode := by
    rw [slice_eq_ok (by omega) hle, List.drop_zero, hraw, List.take_of_length_le (Nat.le_of_eq hlen)]
  rw [unlinkReply, frameOf_envelope, ok_bind, hpacket, expectOp_eq hle hop, ok_bind, hslice, ok_bind,
    hret, mapError_ok]

/-! ### A URB of the script -/

/-- **The device does what the script expects** of it for a URB, and the URB carries as many bytes
as it says. -/
structure FakeDevice.Satisfies (device : FakeDevice) (urb : ScriptedUrb) : Prop where
  status : urb.expectedStatus = 0
  body : urb.outBody.length =
    if urb.direction = urbDirOut then urb.transferBufferLength.toNat else 0
  dispatch : ∃ data,
    dispatchSubmit device urb.cmd urb.outBody = .ok ⟨0, urb.expectedActualLength, data⟩ ∧
      data.length = if urb.direction = urbDirIn then urb.expectedActualLength.toNat else 0
  /-- Nothing is too large for an envelope. -/
  moderate : urb.outBody.length ≤ 2 ^ 15 ∧ urb.expectedActualLength.toNat ≤ 2 ^ 15

/-- What the driver counts for a URB that has passed. -/
def DriverStats.passed (stats : DriverStats) (urb : ScriptedUrb) : DriverStats where
  urbsIssued := stats.urbsIssued + 1
  urbsOk := stats.urbsOk + 1
  unlinksIssued := stats.unlinksIssued
  unlinksOk := stats.unlinksOk
  bytesReturned :=
    if urb.direction = urbDirIn then stats.bytesReturned + urb.expectedActualLength.toUInt64
    else stats.bytesReturned

/-- What the pump counts for it. -/
def PumpStats.served (stats : PumpStats) (urb : ScriptedUrb) : PumpStats :=
  stats.record urb.cmd ⟨0, urb.expectedActualLength, []⟩

/-- A packet for which there is something to be served is answered, if the reply is of moderate
size. -/
theorem serve_of_servedOf {importId : UInt32} {device : FakeDevice} {raw : List UInt8} {served : Served}
    (h : servedOf device raw = some served) (hlen : served.packet.length ≤ 2 ^ 16)
    (stats : PumpStats) :
    serve importId device (packetEnvelope importId raw) stats =
      (some (some served), served.record stats) := by
  have hfits : (served.envelope importId).Fits := fits_packetEnvelope importId hlen
  have hreply : replyTo importId device raw = some served := by
    rw [replyTo, h, Option.filter_some_pos (by simpa using hfits)]
  have hframe : replyToEnvelope importId device (packetEnvelope importId raw) = some served := by
    rw [replyToEnvelope, packetEnvelope, UsbipFrame.parse_encode, toOption_ok, Option.bind_some,
      if_pos rfl, hreply]
  have hchan : (packetEnvelope importId raw).channel = .usbip := rfl
  rw [serve, if_pos hchan, hframe]

/-- The pump serves the URB. -/
theorem FakeDevice.Satisfies.serve_eq {device : FakeDevice} {urb : ScriptedUrb}
    (h : device.Satisfies urb) (importId : UInt32) (stats : PumpStats) :
    ∃ data, (Served.submit urb.cmd ⟨0, urb.expectedActualLength, data⟩).packet.length ≤ 2 ^ 16 ∧
      data.length = (if urb.direction = urbDirIn then urb.expectedActualLength.toNat else 0) ∧
      serve importId device (packetEnvelope importId (urb.cmd.encode ++ urb.outBody)) stats =
        (some (some (.submit urb.cmd ⟨0, urb.expectedActualLength, data⟩)), stats.served urb) := by
  obtain ⟨data, hdispatch, hdata⟩ := h.dispatch
  obtain ⟨hout, hactual⟩ := h.moderate
  have hpacket : (Served.submit urb.cmd ⟨0, urb.expectedActualLength, data⟩).packet.length ≤ 2 ^ 16 := by
    rw [Served.packet, List.length_append, RetSubmit.length_encode, hdata, urbHeaderLen]
    split_ifs
    · omega
    · omega
  refine ⟨data, hpacket, hdata, ?_⟩
  -- the packet is read back
  generalize hraw : urb.cmd.encode ++ urb.outBody = raw
  have hparse : CmdSubmit.parse raw = .ok urb.cmd := by
    rw [← hraw]
    exact CmdSubmit.parse_encode _ _
  have hlen : raw.length = urbHeaderLen + urb.outBody.length := by
    rw [← hraw, List.length_append, CmdSubmit.length_encode]
  obtain ⟨hop, hcmd⟩ := (parse_header_iff (by omega) (CmdSubmit.parse_eq raw)).1 hparse
  have hbody : outBodyOf urb.cmd raw = .ok urb.outBody := by
    have hdir : urb.cmd.direction = urb.direction := rfl
    have hlength : urb.cmd.transferBufferLength = urb.transferBufferLength := rfl
    rw [outBodyOf, hdir]
    by_cases hisOut : urb.direction = urbDirOut
    · have hsame := h.body
      rw [if_pos hisOut] at hsame
      rw [if_pos hisOut, hlength]
      simp only [hlen, hsame, Nat.lt_irrefl, if_false]
      rw [slice_eq_ok (by omega) (by omega), List.take_of_length_le (by omega), ← hraw,
        List.drop_left' (CmdSubmit.length_encode _)]
    · have hnone := h.body
      rw [if_neg hisOut] at hnone
      rw [if_neg hisOut, List.length_eq_zero_iff.1 hnone]
  -- and executed
  have hserved : servedOf device raw =
      some (.submit urb.cmd ⟨0, urb.expectedActualLength, data⟩) := by
    rw [servedOf, if_neg (by omega), if_pos hop, hcmd, hbody, toOption_ok, Option.bind_some, hdispatch,
      toOption_ok, Option.map_some]
  exact serve_of_servedOf hserved hpacket stats

/-- The reply passes the checks of the driver. -/
theorem FakeDevice.Satisfies.checkReply_eq {device : FakeDevice} {urb : ScriptedUrb}
    (h : device.Satisfies urb) {data : List UInt8}
    (hdata : data.length = if urb.direction = urbDirIn then urb.expectedActualLength.toNat else 0)
    (stats : DriverStats) :
    checkReply urb { stats with urbsIssued := stats.urbsIssued + 1 }
      (retSubmitOf urb.cmd ⟨0, urb.expectedActualLength, data⟩) (UInt32.ofNat data.length) =
      .ok (stats.passed urb) := by
  have hactual : (retSubmitOf urb.cmd ⟨0, urb.expectedActualLength, data⟩).actualLength =
      urb.expectedActualLength := rfl
  rw [checkReply, if_pos ⟨h.status.symm, hactual⟩, DriverStats.passed]
  by_cases hin : urb.direction = urbDirIn
  · rw [if_pos hin] at hdata
    simp only [hin, if_true]
    rw [hdata, UInt32.ofNat_toNat, hactual, if_neg (not_not.2 rfl)]
  · simp only [hin, if_false]

/-- The CMD_UNLINK is served. -/
theorem serve_unlink (importId : UInt32) (device : FakeDevice) (u : CmdUnlink) (stats : PumpStats) :
    serve importId device (packetEnvelope importId u.encode) stats =
      (some (some (.unlink u)), { stats with unlinksSeen := stats.unlinksSeen + 1 }) := by
  have hparse := CmdUnlink.parse_encode u []
  rw [List.append_nil] at hparse
  have hlen := CmdUnlink.length_encode u
  generalize u.encode = raw at hparse hlen
  obtain ⟨hop, hcmd⟩ := (parse_header_iff (by omega) (CmdUnlink.parse_eq raw)).1 hparse
  have hserved : servedOf device raw = some (.unlink u) := by
    rw [servedOf, if_neg (by omega), if_neg (by rw [hop]; decide), if_pos hop, hcmd]
  have hpacket : (Served.unlink u).packet.length ≤ 2 ^ 16 := by
    rw [Served.packet, RetUnlink.length_encode, urbHeaderLen]
    omega
  exact serve_of_servedOf hserved hpacket stats

/-! ### The whole script -/

section Script

variable (desk : Desk) (envY : Env X τ) (importId : UInt32) {device : FakeDevice}

/-- A line is noted. -/
theorem enough_note {ε : Type} (line : String) (s : Io Trail) :
    Enough desk.env (note line : Act simulatedSig ε Unit) s ()
      { s with env := { s.env with transcript := s.env.transcript ++ [line] } } :=
  .call _ s

/-- **One URB of the script.** -/
theorem reaches_driveUrb {urb : ScriptedUrb} (h : device.Satisfies urb) (ds : DriverStats)
    (ps : PumpStats) {s : Io Trail} (hs : s.input = []) {t : Io τ} (ht : t.input = [])
    (f : DriverStats → Act simulatedSig (Fault DriverError) γ) (fuel : ℕ) :
    ∃ s' t', s'.input = [] ∧ t'.input = [] ∧
      ReflTransGen (Net.Step desk.env envY)
        ⟨⟨(driveUrb importId ds urb >>= f).run, s⟩,
          ⟨(pumpProgram importId device (fuel + 1) ps).run, t⟩⟩
        ⟨⟨(f (ds.passed urb)).run, s'⟩, ⟨(pumpProgram importId device fuel (ps.served urb)).run, t'⟩⟩ := by
  obtain ⟨data, hpacket, hdata, hserve⟩ := h.serve_eq importId ps
  have hlen : (urb.cmd.encode ++ urb.outBody).length ≤ 2 ^ 16 := by
    have hout := h.moderate.1
    rw [List.length_append, CmdSubmit.length_encode, urbHeaderLen]
    omega
  obtain ⟨s₁, t₁, hs₁, -, ht₁, hover⟩ := reaches_exchange desk.env envY importId device
    (fits_packetEnvelope importId hlen) (fits_packetEnvelope importId hpacket) hserve hs ht
    (fun e => (do
      let stats := { ds with urbsIssued := ds.urbsIssued + 1 }
      let reply ← ofResult (submitReply importId e)
      note (urbLine urb reply.1 reply.2)
      ofResult (checkReply urb stats reply.1 reply.2)) >>= f) fuel
  -- the driver checks the reply
  obtain ⟨s₂, hs₂, hout, hcheck⟩ : ∃ s₂, s₂.input = s₁.input ∧ s₂.output = s₁.output ∧
      Enough desk.env (do
        let reply ← ofResult (submitReply importId (Served.envelope importId
          (.submit urb.cmd ⟨0, urb.expectedActualLength, data⟩)))
        note (urbLine urb reply.1 reply.2)
        ofResult (checkReply urb { ds with urbsIssued := ds.urbsIssued + 1 } reply.1 reply.2))
        s₁ (ds.passed urb) s₂ := by
    refine ⟨_, ?_, ?_, (Enough.ofResult (submitReply_envelope importId urb.cmd _) s₁).bind
      ((enough_note desk _ s₁).bind (Enough.ofResult (h.checkReply_eq hdata ds) _))⟩
    · rfl
    · rfl
  have hchecked := Net.reaches_left (F := envY) (f := f) hcheck
    (hout.trans (List.append_nil _).symm) ⟨(pumpProgram importId device fuel (ps.served urb)).run, t₁⟩
  rw [Party.receive_nil] at hchecked
  rw [driveUrb, bind_assoc]
  exact ⟨s₂, t₁, hs₂.trans hs₁, ht₁, hover.trans hchecked⟩

/-- **The URBs of a script, one after the other.** -/
theorem reaches_foldlM {script : List ScriptedUrb} (h : ∀ urb ∈ script, device.Satisfies urb)
    (ds : DriverStats) (ps : PumpStats) {s : Io Trail} (hs : s.input = []) {t : Io τ}
    (ht : t.input = []) (f : DriverStats → Act simulatedSig (Fault DriverError) γ) (fuel : ℕ) :
    ∃ s' t', s'.input = [] ∧ t'.input = [] ∧
      ReflTransGen (Net.Step desk.env envY)
        ⟨⟨(script.foldlM (driveUrb importId) ds >>= f).run, s⟩,
          ⟨(pumpProgram importId device (script.length + fuel) ps).run, t⟩⟩
        ⟨⟨(f (script.foldl DriverStats.passed ds)).run, s'⟩,
          ⟨(pumpProgram importId device fuel (script.foldl PumpStats.served ps)).run, t'⟩⟩ := by
  induction script generalizing ds ps s t with
  | nil =>
      rw [List.foldlM_nil, pure_bind, List.length_nil, Nat.zero_add]
      exact ⟨s, t, hs, ht, .refl⟩
  | cons urb script ih =>
      obtain ⟨hurb, hscript⟩ := List.forall_mem_cons.1 h
      obtain ⟨s₁, t₁, hs₁, ht₁, hfirst⟩ := reaches_driveUrb desk envY importId hurb ds ps hs ht
        (fun ds => script.foldlM (driveUrb importId) ds >>= f) (script.length + fuel)
      obtain ⟨s₂, t₂, hs₂, ht₂, hrest⟩ := ih hscript (ds.passed urb) (ps.served urb) hs₁ ht₁
      rw [List.foldlM_cons, bind_assoc, List.length_cons, Nat.add_right_comm]
      exact ⟨s₂, t₂, hs₂, ht₂, hfirst.trans hrest⟩

/-- **The unlink.** -/
theorem reaches_driveUnlink (device : FakeDevice) (ds : DriverStats) (ps : PumpStats) {s : Io Trail}
    (hs : s.input = []) {t : Io τ} (ht : t.input = [])
    (f : DriverStats → Act simulatedSig (Fault DriverError) γ) (fuel : ℕ) :
    ∃ s' t', s'.input = [] ∧ t'.input = [] ∧
      ReflTransGen (Net.Step desk.env envY)
        ⟨⟨(driveUnlink importId ds >>= f).run, s⟩,
          ⟨(pumpProgram importId device (fuel + 1) ps).run, t⟩⟩
        ⟨⟨(f { ds with
            unlinksIssued := ds.unlinksIssued + 1
            unlinksOk := ds.unlinksOk + 1 }).run, s'⟩,
          ⟨(pumpProgram importId device fuel { ps with unlinksSeen := ps.unlinksSeen + 1 }).run, t'⟩⟩ := by
  have hlen : finalUnlink.encode.length ≤ 2 ^ 16 := by
    rw [CmdUnlink.length_encode, urbHeaderLen]
    omega
  have hpacket : (Served.unlink finalUnlink).packet.length ≤ 2 ^ 16 := by
    rw [Served.packet, RetUnlink.length_encode, urbHeaderLen]
    omega
  obtain ⟨s₁, t₁, hs₁, -, ht₁, hover⟩ := reaches_exchange desk.env envY importId device
    (fits_packetEnvelope importId hlen) (fits_packetEnvelope importId hpacket)
    (serve_unlink importId device finalUnlink ps) hs ht
    (fun e => (do
      let stats := { ds with unlinksIssued := ds.unlinksIssued + 1 }
      let ret ← ofResult (unlinkReply e)
      note ("sim-unlink seq=" ++ toString ret.seqnum.toNat ++ " status=" ++
        toString ret.status.toInt ++ " target_seq=" ++ toString finalUnlink.unlinkSeqnum.toNat)
      ofResult (if ret.status = 0 then .ok { stats with unlinksOk := stats.unlinksOk + 1 }
        else .error (.err (.unlinkStatus ret.status)))) >>= f) fuel
  -- the reply passes the check of the driver, which writes nothing more
  obtain ⟨s₂, hs₂, hout, hcheck⟩ : ∃ s₂, s₂.input = s₁.input ∧ s₂.output = s₁.output ∧
      Enough desk.env (do
        let stats := { ds with unlinksIssued := ds.unlinksIssued + 1 }
        let ret ← ofResult (unlinkReply (Served.envelope importId (.unlink finalUnlink)))
        note ("sim-unlink seq=" ++ toString ret.seqnum.toNat ++ " status=" ++
          toString ret.status.toInt ++ " target_seq=" ++ toString finalUnlink.unlinkSeqnum.toNat)
        ofResult (if ret.status = 0 then .ok { stats with unlinksOk := stats.unlinksOk + 1 }
          else .error (.err (.unlinkStatus ret.status))))
        s₁ { ds with
          unlinksIssued := ds.unlinksIssued + 1
          unlinksOk := ds.unlinksOk + 1 } s₂ := by
    refine ⟨_, ?_, ?_, (Enough.ofResult (unlinkReply_envelope importId finalUnlink) s₁).bind
      ((enough_note desk _ s₁).bind (Enough.ofResult (if_pos rfl) _))⟩
    · rfl
    · rfl
  have hchecked := Net.reaches_left (F := envY) (f := f) hcheck
    (hout.trans (List.append_nil _).symm)
    ⟨(pumpProgram importId device fuel { ps with unlinksSeen := ps.unlinksSeen + 1 }).run, t₁⟩
  rw [Party.receive_nil] at hchecked
  rw [driveUnlink, bind_assoc]
  exact ⟨s₂, t₁, hs₂.trans hs₁, ht₁, hover.trans hchecked⟩

/-- What the driver has counted after a script and the unlink. -/
def driverTotals (script : List ScriptedUrb) : DriverStats :=
  let ds := script.foldl DriverStats.passed {}
  { ds with unlinksIssued := ds.unlinksIssued + 1, unlinksOk := ds.unlinksOk + 1 }

/-- What the pump has counted then. -/
def pumpTotals (script : List ScriptedUrb) : PumpStats :=
  let ps := script.foldl PumpStats.served {}
  { ps with unlinksSeen := ps.unlinksSeen + 1 }

/-- The end of `run_script`. -/
def summarize (stats : DriverStats) : Act simulatedSig (Fault DriverError) DriverStats := do
  note ("sim-summary urbs_issued=" ++ toString stats.urbsIssued.toNat ++ " urbs_ok=" ++
    toString stats.urbsOk.toNat ++ " unlinks_issued=" ++ toString stats.unlinksIssued.toNat ++
    " unlinks_ok=" ++ toString stats.unlinksOk.toNat ++ " bytes_returned=" ++
    toString stats.bytesReturned.toNat)
  return stats

theorem runScript_eq (script : List ScriptedUrb) :
    runScript importId script = (do
      openTranscript
      let stats ← script.foldlM (driveUrb importId) {}
      let stats ← driveUnlink importId stats
      summarize stats) := rfl

theorem enough_summarize (stats : DriverStats) (s : Io Trail) :
    ∃ s', s'.output = s.output ∧ Enough desk.env (summarize stats) s stats s' := by
  refine ⟨_, ?_, (enough_note desk _ s).bind (f := fun _ => pure stats) (Enough.pure stats _)⟩
  rfl

/-- **A script that the device satisfies**, up to the summary of the driver. -/
theorem reaches_summary {script : List ScriptedUrb} (h : ∀ urb ∈ script, device.Satisfies urb)
    {s : Io Trail} (hs : s.input = []) (hopen : desk.opens s.env.opened = true) {t : Io τ}
    (ht : t.input = []) (spare : ℕ) :
    ∃ s' t', s'.input = [] ∧ t'.input = [] ∧
      ReflTransGen (Net.Step desk.env envY)
        ⟨⟨(runScript importId script).run, s⟩,
          ⟨(pumpProgram importId device (script.length + (spare + 1)) {}).run, t⟩⟩
        ⟨⟨(summarize (driverTotals script)).run, s'⟩,
          ⟨(pumpProgram importId device spare (pumpTotals script)).run, t'⟩⟩ := by
  -- the transcript is opened
  have hopens : Enough desk.env openTranscript s ()
      { s with env := { s.env with opened := s.env.opened + 1 } } := by
    intro rest
    rw [exec_openTranscript, Io.fed_env, hopen]
    rfl
  have hfirst := Net.reaches_left (F := envY) (f := fun _ => do
      let stats ← script.foldlM (driveUrb importId) {}
      let stats ← driveUnlink importId stats
      summarize stats) hopens (List.append_nil _).symm
    ⟨(pumpProgram importId device (script.length + (spare + 1)) {}).run, t⟩
  rw [Party.receive_nil] at hfirst
  -- the script is gone through
  obtain ⟨s₁, t₁, hs₁, ht₁, hscript⟩ := reaches_foldlM desk envY importId h {} {}
    (s := { s with env := { s.env with opened := s.env.opened + 1 } }) hs ht (fun stats => do
      let stats ← driveUnlink importId stats
      summarize stats) (spare + 1)
  obtain ⟨s₂, t₂, hs₂, ht₂, hunlink⟩ := reaches_driveUnlink desk envY importId device
    (script.foldl DriverStats.passed {}) (script.foldl PumpStats.served {}) hs₁ ht₁
    summarize spare
  rw [runScript_eq importId]
  exact ⟨s₂, t₂, hs₂, ht₂, hfirst.trans (hscript.trans hunlink)⟩

/-- **A script that the device satisfies goes through.**  In whatever order the two parties move,
both return, and what they have counted is what the script says. -/
theorem ends_script {script : List ScriptedUrb} (h : ∀ urb ∈ script, device.Satisfies urb)
    {s : Io Trail} (hs : s.input = []) (hopen : desk.opens s.env.opened = true) {t : Io τ}
    (ht : t.input = []) {fuel : ℕ} (hfuel : script.length + 2 ≤ fuel) :
    ∃ s' t', Ends (Net.Step desk.env envY)
      ⟨⟨(runScript importId script).run, s⟩, ⟨(pumpProgram importId device fuel {}).run, t⟩⟩
      ⟨⟨.ret (.ok (driverTotals script)), s'⟩, ⟨.ret (.ok (pumpTotals script)), t'⟩⟩ := by
  obtain ⟨spare, rfl⟩ : ∃ spare, fuel = script.length + (spare + 1 + 1) :=
    ⟨fuel - script.length - 2, by omega⟩
  obtain ⟨s₂, t₂, -, ht₂, hsummary⟩ := reaches_summary desk envY importId h hs hopen ht (spare + 1)
  -- the driver returns
  obtain ⟨s₃, hout, hsummarize⟩ := enough_summarize desk (driverTotals script) s₂
  have hreturned :=
    Net.reaches_left_ret (F := envY) hsummarize (hout.trans (List.append_nil _).symm)
    ⟨(pumpProgram importId device (spare + 1) (pumpTotals script)).run, t₂⟩
  rw [Party.receive_nil] at hreturned
  -- the pump finds the end of the stream
  obtain ⟨t₃, hend⟩ := exec_pumpProgram_end envY importId device spare
    (pumpTotals script) ht₂
  obtain ⟨said, hlast⟩ := Net.reaches_right_end (E := desk.env) hend
    (Except.ok (driverTotals script) : Except (Fault DriverError) DriverStats) s₃
  exact ⟨_, t₃, Net.diamond.ends (hsummary.trans (hreturned.trans hlast)) (Net.final _ _ _ _)⟩

/-! ### The default script -/

/-- The device of the loopback test satisfies a bulk read. -/
theorem satisfies_extraBulkIn (vendor product : UInt16) (i : ℕ) :
    (FakeDevice.massStorage vendor product).Satisfies (extraBulkIn i) where
  status := rfl
  body := rfl
  dispatch := by
    have haction : actionOf (.massStorage vendor product) (extraBulkIn i).cmd =
        .bulk ⟨0x81, .bulk⟩ := by
      have hep : (extraBulkIn i).cmd.ep = 1 := rfl
      have hdir : (extraBulkIn i).cmd.direction = urbDirIn := rfl
      rw [actionOf, CmdSubmit.isControl, addressOf, hep, hdir]
      rfl
    rw [dispatchSubmit_eq, haction]
    refine ⟨_, rfl, ?_⟩
    rw [List.length_map, List.length_range]
    rfl
  moderate := by
    have hactual : (extraBulkIn i).expectedActualLength.toNat = 64 := rfl
    rw [hactual]
    exact ⟨Nat.zero_le _, by decide⟩

/-- **The device of the loopback test satisfies the default script.** -/
theorem satisfies_massStorage (vendor product : UInt16) (n devid : UInt32) :
    ∀ urb ∈ scriptDefault n devid, (FakeDevice.massStorage vendor product).Satisfies urb := by
  intro urb hurb
  rw [scriptDefault, List.mem_append, List.mem_map] at hurb
  rcases hurb with hurb | ⟨i, -, rfl⟩
  · simp only [scriptBase, List.mem_cons, List.not_mem_nil, or_false] at hurb
    rcases hurb with rfl | rfl | rfl | rfl | rfl | rfl | rfl
    all_goals exact ⟨rfl, rfl, ⟨_, rfl, rfl⟩, by decide⟩
  · exact satisfies_extraBulkIn vendor product i

/-- What the two have counted after `k` of the bulk reads of the default script. -/
structure Counted (k : ℕ) (ds : DriverStats) (ps : PumpStats) : Prop where
  urbsIssued : ds.urbsIssued.toNat = 7 + k
  urbsOk : ds.urbsOk.toNat = 7 + k
  unlinksIssued : ds.unlinksIssued = 0
  unlinksOk : ds.unlinksOk = 0
  bytesReturned : ds.bytesReturned.toNat = 155 + 64 * k
  submitsSeen : ps.submitsSeen.toNat = 7 + k
  submitsOk : ps.submitsOk.toNat = 7 + k
  unlinksSeen : ps.unlinksSeen = 0
  unsupported : ps.unsupported = 0
  controlInBytes : ps.controlInBytes.toNat = 59
  bulkInBytes : ps.bulkInBytes.toNat = 96 + 64 * k
  bulkOutBytes : ps.bulkOutBytes.toNat = 64

theorem counted_base :
    Counted 0 (scriptBase.foldl DriverStats.passed {}) (scriptBase.foldl PumpStats.served {}) := by
  constructor <;> rfl

/-- One bulk read more, as long as the counters have room for it. -/
theorem Counted.extra {k : ℕ} {ds : DriverStats} {ps : PumpStats} (h : Counted k ds ps) (i : ℕ)
    (hk : 96 + 64 * (k + 1) < 2 ^ 32) :
    Counted (k + 1) (ds.passed (extraBulkIn i)) (ps.served (extraBulkIn i)) := by
  have hpassed : ds.passed (extraBulkIn i) = { ds with
      urbsIssued := ds.urbsIssued + 1
      urbsOk := ds.urbsOk + 1
      bytesReturned := ds.bytesReturned + 64 } := rfl
  have hserved : ps.served (extraBulkIn i) = { ps with
      submitsSeen := ps.submitsSeen + 1
      submitsOk := ps.submitsOk + 1
      bulkInBytes := ps.bulkInBytes + 64 } := rfl
  obtain ⟨h₁, h₂, h₃, h₄, h₅, h₆, h₇, h₈, h₉, h₁₀, h₁₁, h₁₂⟩ := h
  rw [hpassed, hserved]
  have h32 (a b : UInt32) : (a + b).toNat = (a.toNat + b.toNat) % 2 ^ 32 := UInt32.toNat_add a b
  have h64 (a b : UInt64) : (a + b).toNat = (a.toNat + b.toNat) % 2 ^ 64 := UInt64.toNat_add a b
  have hone : (1 : UInt32).toNat = 1 := rfl
  have hpiece : (64 : UInt32).toNat = 64 := rfl
  have hpiece' : (64 : UInt64).toNat = 64 := rfl
  exact
    { urbsIssued := by rw [h32]; omega
      urbsOk := by rw [h32]; omega
      unlinksIssued := h₃
      unlinksOk := h₄
      bytesReturned := by rw [h64]; omega
      submitsSeen := by rw [h32]; omega
      submitsOk := by rw [h32]; omega
      unlinksSeen := h₈
      unsupported := h₉
      controlInBytes := h₁₀
      bulkInBytes := by rw [h32]; omega
      bulkOutBytes := h₁₂ }

/-- What the two have counted after the whole of the default script. -/
theorem counted_script {n : ℕ} (hn : 96 + 64 * n < 2 ^ 32) :
    Counted n ((scriptBase ++ (List.range n).map extraBulkIn).foldl DriverStats.passed {})
      ((scriptBase ++ (List.range n).map extraBulkIn).foldl PumpStats.served {}) := by
  induction n with
  | zero => exact counted_base
  | succ k ih =>
      have hk := (ih (by omega)).extra k hn
      rw [List.range_succ, List.map_append]
      simp only [List.foldl_append] at hk ⊢
      exact hk

/-- What the two have counted in the end. -/
theorem Counted.totals {n : ℕ} {script : List ScriptedUrb}
    (h : Counted n (script.foldl DriverStats.passed {}) (script.foldl PumpStats.served {})) :
    ((driverTotals script).urbsIssued.toNat = 7 + n ∧ (driverTotals script).urbsOk.toNat = 7 + n ∧
      (driverTotals script).unlinksIssued = 1 ∧ (driverTotals script).unlinksOk = 1 ∧
      (driverTotals script).bytesReturned.toNat = 155 + 64 * n) ∧
    (pumpTotals script).submitsSeen.toNat = 7 + n ∧ (pumpTotals script).submitsOk.toNat = 7 + n ∧
      (pumpTotals script).unlinksSeen = 1 ∧ (pumpTotals script).unsupported = 0 ∧
      (pumpTotals script).controlInBytes.toNat = 59 ∧
      (pumpTotals script).bulkInBytes.toNat = 96 + 64 * n ∧
      (pumpTotals script).bulkOutBytes.toNat = 64 := by
  rw [driverTotals, pumpTotals]
  generalize script.foldl DriverStats.passed {} = ds at h ⊢
  generalize script.foldl PumpStats.served {} = ps at h ⊢
  simp only [h.unlinksIssued, h.unlinksOk, h.unlinksSeen]
  exact ⟨⟨h.urbsIssued, h.urbsOk, rfl, rfl, h.bytesReturned⟩, h.submitsSeen, h.submitsOk, rfl,
    h.unsupported, h.controlInBytes, h.bulkInBytes, h.bulkOutBytes⟩

/-- **The driver and the pump compose.**  On the default script with any number of bulk reads for
which the counters have room, and with any device of the loopback test, both return without an error
in whatever order they move, and they have counted the same transfers. -/
theorem ends_scriptDefault (n devid : UInt32) (hn : 96 + 64 * n.toNat < 2 ^ 32)
    (vendor product : UInt16) {s : Io Trail} (hs : s.input = [])
    (hopen : desk.opens s.env.opened = true) {t : Io τ} (ht : t.input = []) {fuel : ℕ}
    (hfuel : n.toNat + 9 ≤ fuel) :
    ∃ ds ps s' t', Ends (Net.Step desk.env envY)
      ⟨⟨(runScript importId (scriptDefault n devid)).run, s⟩,
        ⟨(pumpProgram importId (.massStorage vendor product) fuel {}).run, t⟩⟩
      ⟨⟨.ret (.ok ds), s'⟩, ⟨.ret (.ok ps), t'⟩⟩ ∧
      ds.urbsIssued.toNat = 7 + n.toNat ∧ ds.urbsOk.toNat = 7 + n.toNat ∧
      ds.unlinksIssued = 1 ∧ ds.unlinksOk = 1 ∧ ds.bytesReturned.toNat = 155 + 64 * n.toNat ∧
      ps.submitsSeen.toNat = 7 + n.toNat ∧ ps.submitsOk.toNat = 7 + n.toNat ∧
      ps.unlinksSeen = 1 ∧ ps.unsupported = 0 ∧ ps.controlInBytes.toNat = 59 ∧
      ps.bulkInBytes.toNat = 96 + 64 * n.toNat ∧ ps.bulkOutBytes.toNat = 64 := by
  have hlen : (scriptDefault n devid).length = 7 + n.toNat := by
    rw [scriptDefault, List.length_append, List.length_map, List.length_range]
    rfl
  have hcounted : Counted n.toNat ((scriptDefault n devid).foldl DriverStats.passed {})
      ((scriptDefault n devid).foldl PumpStats.served {}) := counted_script hn
  obtain ⟨⟨h₁, h₂, h₃, h₄, h₅⟩, hpump⟩ := hcounted.totals
  obtain ⟨s', t', hends⟩ := ends_script desk envY importId
    (satisfies_massStorage vendor product n devid) hs hopen ht
    (show (scriptDefault n devid).length + 2 ≤ fuel by omega)
  exact ⟨_, _, s', t', hends, h₁, h₂, h₃, h₄, h₅, hpump⟩

end Script

/-- The run of the loopback test with three bulk reads. -/
theorem ends_scriptDefault_loopback :
    ∃ ds ps s' t', Ends (Net.Step (Desk.mk (fun _ => false) fun _ => true).env Env.none)
      ⟨⟨(runScript 7 (scriptDefault 3 0)).run, { input := [], env := {} }⟩,
        ⟨(pumpProgram 7 (.massStorage 0xBADD 0xC0DE) 12 {}).run, { input := [], env := () }⟩⟩
      ⟨⟨.ret (.ok ds), s'⟩, ⟨.ret (.ok ps), t'⟩⟩ ∧
      ds.urbsIssued.toNat = 10 ∧ ds.urbsOk.toNat = 10 ∧ ds.unlinksIssued = 1 ∧ ds.unlinksOk = 1 ∧
      ds.bytesReturned.toNat = 347 ∧ ps.submitsSeen.toNat = 10 ∧ ps.submitsOk.toNat = 10 ∧
      ps.unlinksSeen = 1 ∧ ps.unsupported = 0 ∧ ps.controlInBytes.toNat = 59 ∧
      ps.bulkInBytes.toNat = 288 ∧ ps.bulkOutBytes.toNat = 64 :=
  ends_scriptDefault ⟨fun _ => false, fun _ => true⟩ Env.none 7 3 0 (by decide) 0xBADD 0xC0DE rfl rfl rfl
    (by decide)

end Zerowire

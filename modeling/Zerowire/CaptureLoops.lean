/-
**The two capture loops** (`desktop-linux/src/receiver.rs`, `run_simulate_source_with`, and
`desktop-linux/src/bin/zerowire_cli.rs`, `hid_simulate_source_loop`).

Where there is no `/dev/uinput` the receiver can write what it receives to a file instead.  There
are two programs for that, one over a `TcpStream` and one over any stream, for TLS.  Each one does a
handshake, asks for the first HID device, creates the file and appends a line for every BIND_ACK,
report and UNBIND until the stream ends.  Here both are written down, each from its own source, and
compared.

The connection is there already, and no diagnose log is kept: without one its `event`s do nothing.

Main definitions:

* `Zerowire.captureSig`, `Zerowire.CaptureError`, `Zerowire.Capture` — the file, what can go wrong,
  and what the loops count;
* `Zerowire.runSimulateSourceWith` — the program over a `TcpStream`;
* `Zerowire.hidSimulateSourceLoop` — the program over any stream.

Main results:

* `Zerowire.capture_alike` — both ask, write and append the same, whatever they are answered;
* `Zerowire.capture_loops_same` — **both do the same on every stream.**
-/

import Zerowire.Control

set_option relaxedAutoImplicit false
set_option autoImplicit false

namespace Zerowire

open Bytes Program

variable {τ : Type}

/-! ### The file -/

/-- What is done to the output file. -/
inductive CaptureOp where
  /-- `File::create(out_path)`. -/
  | create
  /-- `writeln!(log, ..)`. -/
  | writeln (line : String)
  deriving Repr, DecidableEq

/-- The surroundings of the capture loops: the output file, where everything can fail. -/
abbrev captureSig : Sig := ⟨CaptureOp, fun _ => Except String Unit⟩

/-- What makes a capture loop fail. -/
inductive CaptureError where
  | control (e : ControlError)
  /-- "HELLO_ACK expected, got ..". -/
  | helloAckExpected (got : ControlMessage)
  /-- "DEVICE_LIST expected, got ..". -/
  | deviceListExpected (got : ControlMessage)
  /-- There is no HID device; the text differs. -/
  | noDevice (text : String)
  /-- "ATTACH_OK expected, got ..". -/
  | attachOkExpected (got : ControlMessage)
  | send (e : SendError)
  | file (text : String)
  | frame (e : HidError)
  deriving Repr, DecidableEq

/-- What the loops keep: whether a BIND_ACK has come, and how many reports.  The counter wraps
around. -/
structure Capture where
  gotBindAck : Bool := false
  reportCount : UInt32 := 0
  deriving Repr, DecidableEq

/-- An operation on the file, followed by `?`. -/
def fileOp (o : CaptureOp) : Act captureSig (Fault CaptureError) Unit := do
  let r ← call (X := captureSig) o
  ofResult (Fault.lift (r.mapError .file))

/-- `Debug` of a `DeviceKind`. -/
def DeviceKind.debug : DeviceKind → String
  | .mouse => "Mouse"
  | .keyboard => "Keyboard"
  | .gamepad => "Gamepad"
  | .other => "Other"

/-- `Debug` of a slice of bytes. -/
def debugBytes (bs : List UInt8) : String :=
  "[" ++ ", ".intercalate (bs.map fun b => toString b.toNat) ++ "]"

/-- `match recv_control(..)? { HelloAck { .. } => .., other => bail!(..) }`. -/
def expectHelloAck : ControlMessage → Except (Fault CaptureError) Unit
  | .helloAck _ _ _ => .ok ()
  | other => .error (.err (.helloAckExpected other))

/-- `match recv_control(..)? { DeviceList { devices } => devices, other => bail!(..) }`. -/
def expectDeviceList : ControlMessage → Except (Fault CaptureError) (List DeviceSummary)
  | .deviceList devices => .ok devices
  | other => .error (.err (.deviceListExpected other))

/-- `match recv_control(..)? { AttachOk { .. } => .., other => bail!(..) }`. -/
def expectAttachOk : ControlMessage → Except (Fault CaptureError) Unit
  | .attachOk _ _ => .ok ()
  | other => .error (.err (.attachOkExpected other))

/-- `pick_hid_device`. -/
def pickHidDevice (devs : List DeviceSummary) (busid : Option String) :
    Except String DeviceSummary :=
  match busid with
  | some b =>
      match devs.find? (·.busid = b) with
      | some d => .ok d
      | none => .error ("sender does not expose busid " ++ b)
  | none =>
      match devs.find? (·.isHid) with
      | some d => .ok d
      | none => .error "sender exposes no HID device; pass --busid to override"

section Loops

-- `Debug` of a string depends on the Unicode tables of the standard library, so it is a parameter.
variable (serde : Serde) (debugStr : String → String)

/-! ### Over a `TcpStream` -/

/-- `run_simulate_source_with` before its loop. -/
def captureStart : Act captureSig (Fault CaptureError) (Capture ⊕ Capture) := do
  mapErr (Fault.map .control)
    (Wire.sendControl serde.control (.hello 1 "zerowire-test/0" ["hid-fastlane/1"]))
  ofResult (expectHelloAck (← mapErr (Fault.map .control) (Wire.recvControl serde.control)))
  mapErr (Fault.map .control) (Wire.sendControl serde.control .listDevices)
  let devs ← ofResult
    (expectDeviceList (← mapErr (Fault.map .control) (Wire.recvControl serde.control)))
  let chosen ← ofResult (Fault.lift ((pickHidDevice devs none).mapError .noDevice))
  mapErr (Fault.map .control) (Wire.sendControl serde.control (.attach chosen.busid "hid"))
  ofResult (expectAttachOk (← mapErr (Fault.map .control) (Wire.recvControl serde.control)))
  let bindJson := serde.bindRequest.toVec ⟨chosen.busid, "input"⟩
  let bind : HidFrame := ⟨.bind, 1, 0, bindJson⟩
  mapErr (Fault.map .send) (Wire.sendEnvelope .hid bind.encode)
  fileOp .create
  return .inl {}

/-- What `run_simulate_source_with` does with an envelope. -/
def captureEnvelope (c : Capture) (e : Envelope) :
    Act captureSig (Fault CaptureError) (Capture ⊕ Capture) :=
  if e.channel ≠ .hid then return .inl c
  else do
    let f ← ofResult ((HidFrame.parse e.payload).mapError (Fault.map .frame))
    match f.op with
    | .bindAck => do
        let (info, _) ← ofResult
          ((parseBindAckBody serde.bindAckMeta f.body).mapError (Fault.map .frame))
        fileOp (.writeln ("bind_ack kind=" ++ info.kind.debug ++ " name=" ++ debugStr info.name))
        return .inl { c with gotBindAck := true }
    | .reportIn => do
        fileOp (.writeln ("report seq=" ++ toString f.seq.toNat ++ " bytes=" ++ debugBytes f.body))
        return .inl { c with reportCount := c.reportCount + 1 }
    | .unbind => do
        fileOp (.writeln "unbind")
        return .inr c
    | _ => return .inl c

/-- One round of the loop of `run_simulate_source_with`. -/
def captureRound (c : Capture) : Act captureSig (Fault CaptureError) (Capture ⊕ Capture) := do
  match ← catchErr Wire.recvEnvelope with
  | .error _ => return .inr c
  | .ok e => captureEnvelope serde debugStr c e

/-- `run_simulate_source_with`, after `dial` and without a diagnose log. -/
def runSimulateSourceWith : Looped captureSig (Fault CaptureError) Capture Capture Unit where
  start := captureStart serde
  round := captureRound serde debugStr
  finish c :=
    fileOp (.writeln ("summary bind_ack=" ++ toString c.gotBindAck ++ " reports=" ++
      toString c.reportCount.toNat))

/-! ### Over any stream -/

/-- `s.write_all(&envelope.encode()?)?`, as the program writes it out for its BIND. -/
def writeEnvelope (envelope : Envelope) : Act captureSig (Fault CaptureError) Unit := do
  let env ← ofResult (Fault.lift (envelope.encode.mapError fun e => CaptureError.send (.encode e)))
  if ← writeAll env then return () else throw (.err (.send (.io "")))

/-- `hid_simulate_source_loop` before its loop. -/
def tlsCaptureStart : Act captureSig (Fault CaptureError) (Capture ⊕ Capture) := do
  mapErr (Fault.map .control)
    (Tls.sendControl serde.control (.hello 1 "zerowire-test/0" ["hid-fastlane/1"]))
  ofResult (expectHelloAck (← mapErr (Fault.map .control) (Tls.recvControl serde.control)))
  mapErr (Fault.map .control) (Tls.sendControl serde.control .listDevices)
  let devs ← ofResult
    (expectDeviceList (← mapErr (Fault.map .control) (Tls.recvControl serde.control)))
  let chosen ← ofResult (match devs.find? (·.isHid) with
    | some d => .ok d
    | none => .error (.err (.noDevice "no HID device")))
  mapErr (Fault.map .control) (Tls.sendControl serde.control (.attach chosen.busid "hid"))
  ofResult (expectAttachOk (← mapErr (Fault.map .control) (Tls.recvControl serde.control)))
  let bindJson := serde.bindRequest.toVec ⟨chosen.busid, "input"⟩
  let bind : HidFrame := ⟨.bind, 1, 0, bindJson⟩
  writeEnvelope ⟨.hid, bind.encode⟩
  fileOp .create
  return .inl {}

/-- What `hid_simulate_source_loop` does with an envelope. -/
def tlsCaptureEnvelope (c : Capture) (e : Envelope) :
    Act captureSig (Fault CaptureError) (Capture ⊕ Capture) :=
  if e.channel ≠ .hid then return .inl c
  else do
    let f ← ofResult ((HidFrame.parse e.payload).mapError (Fault.map .frame))
    match f.op with
    | .bindAck => do
        let (info, _) ← ofResult
          ((parseBindAckBody serde.bindAckMeta f.body).mapError (Fault.map .frame))
        fileOp (.writeln ("bind_ack kind=" ++ info.kind.debug ++ " name=" ++ debugStr info.name))
        return .inl { c with gotBindAck := true }
    | .reportIn => do
        fileOp (.writeln ("report seq=" ++ toString f.seq.toNat ++ " bytes=" ++ debugBytes f.body))
        return .inl { c with reportCount := c.reportCount + 1 }
    | .unbind => do
        fileOp (.writeln "unbind")
        return .inr c
    | _ => return .inl c

/-- One round of the loop of `hid_simulate_source_loop`. -/
def tlsCaptureRound (c : Capture) : Act captureSig (Fault CaptureError) (Capture ⊕ Capture) := do
  match ← catchErr Tls.recvEnvelope with
  | .error _ => return .inr c
  | .ok e => tlsCaptureEnvelope serde debugStr c e

/-- `hid_simulate_source_loop`. -/
def hidSimulateSourceLoop : Looped captureSig (Fault CaptureError) Capture Capture Unit where
  start := tlsCaptureStart serde
  round := tlsCaptureRound serde debugStr
  finish c :=
    fileOp (.writeln ("summary bind_ack=" ++ toString c.gotBindAck ++ " reports=" ++
      toString c.reportCount.toNat))

/-! ### The comparison -/

/-- The BIND is sent alike: the second program writes out what the helper of the first one does. -/
theorem sendBind_alike (payload : List UInt8) :
    Alike Eq (mapErr (Fault.map .send) (Wire.sendEnvelope .hid payload) :
        Act captureSig (Fault CaptureError) Unit) (writeEnvelope ⟨.hid, payload⟩) := by
  rw [Wire.sendEnvelope, sendEnvelopeWith, writeEnvelope]
  rcases Envelope.encode ⟨.hid, payload⟩ with e | bytes
  · exact .ret (.err _ _)
  · refine .writeAll bytes fun written => ?_
    cases written with
    | true => exact .ret (.ok rfl)
    | false => exact .ret (.err _ _)

/-- The same device is chosen. -/
theorem pick_alike (devs : List DeviceSummary) :
    SameOutcome Eq
      (Fault.lift ((pickHidDevice devs none).mapError CaptureError.noDevice))
      (match devs.find? (·.isHid) with
        | some d => .ok d
        | none => .error (.err (CaptureError.noDevice "no HID device"))) := by
  rcases h : devs.find? (·.isHid) with _ | d
  · rw [pickHidDevice, h]
    exact .err _ _
  · rw [pickHidDevice, h]
    exact .ok rfl

/-- The handshakes do the same. -/
theorem captureStart_alike : Alike Eq (captureStart serde) (tlsCaptureStart serde) := by
  have hsend (msg : ControlMessage) :=
    (sendControl_alike (X := captureSig) serde.control msg).mapErr
    CaptureError.control CaptureError.control
  have hrecv := (recvControl_alike (X := captureSig) serde.control).mapErr
    CaptureError.control CaptureError.control
  refine (hsend _).bind_eq fun _ => hrecv.bind_eq fun msg => ?_
  refine (Alike.refl (fun _ => rfl) _).bind_eq fun _ => ?_
  refine (hsend _).bind_eq fun _ => hrecv.bind_eq fun msg => ?_
  refine (Alike.refl (fun _ => rfl) _).bind_eq fun devs => ?_
  refine (Alike.ofResult (pick_alike devs)).bind_eq fun chosen => ?_
  refine (hsend _).bind_eq fun _ => hrecv.bind_eq fun msg => ?_
  refine (Alike.refl (fun _ => rfl) _).bind_eq fun _ => ?_
  exact (sendBind_alike _).bind_eq fun _ => Alike.refl (fun _ => rfl) _

/-- The rounds do the same. -/
theorem captureRound_alike (c : Capture) :
    Alike Eq (captureRound serde debugStr c) (tlsCaptureRound serde debugStr c) := by
  refine (catchErr_alike (recvEnvelope_alike _ _ _ _)).bind ?_
  rintro _ _ (⟨rfl⟩ | _)
  · exact Alike.refl (fun _ => rfl) _
  · exact Alike.pure rfl

/-- **Both programs ask, write and append the same**, whatever they are answered. -/
theorem capture_alike :
    Looped.Alike (runSimulateSourceWith serde debugStr) (hidSimulateSourceLoop serde debugStr) where
  start := captureStart_alike serde
  round := captureRound_alike serde debugStr
  finish _ := Alike.refl (fun _ => rfl) _

/-! ### The runs -/

theorem callsOnly_fileOp (o : CaptureOp) : CallsOnly (fileOp o) :=
  .bind (.call _) fun _ => .ofResult _

/-- What is done with an envelope rests with the file. -/
theorem callsOnly_captureEnvelope (c : Capture) (e : Envelope) :
    CallsOnly (captureEnvelope serde debugStr c e) := by
  refine .ite (.pure _) (.bind (.ofResult _) fun f => ?_)
  split
  · exact .bind (.ofResult _) fun r => .bind (callsOnly_fileOp _) fun _ => .pure _
  · exact .bind (callsOnly_fileOp _) fun _ => .pure _
  · exact .bind (callsOnly_fileOp _) fun _ => .pure _
  · exact .pure _

/-- A round after which the loop goes on has read an envelope. -/
theorem captureRound_reads (env : Env captureSig τ) (c : Capture) (s : Io τ) (c' : Capture)
    (s' : Io τ) (h : exec env (captureRound serde debugStr c) s = (.ok (.inl c'), s')) :
    s'.input.length < s.input.length := by
  by_cases hparse : ∃ r, Envelope.parse s.input = .ok (some r)
  · obtain ⟨⟨e, n⟩, hparse⟩ := hparse
    have hrecv := exec_recvEnvelopeWith_of_parse env "reading envelope header"
      "reading envelope payload" hparse
    rw [captureRound, Wire.recvEnvelope, exec_bind_ok (exec_catchErr_ok hrecv)] at h
    simp only at h
    rw [(callsOnly_captureEnvelope serde debugStr c e).exec_eq env] at h
    have hpos := Envelope.codec.pos hparse
    have hle := Envelope.codec.le hparse
    rw [← (Prod.mk.inj h).2, List.length_drop]
    omega
  · obtain ⟨err, rest, hrecv⟩ := exec_recvEnvelopeWith_of_not_parse env "reading envelope header"
      "reading envelope payload" (fun r hr => hparse ⟨r, hr⟩)
    rw [captureRound, Wire.recvEnvelope, exec_bind_ok (exec_catchErr_err hrecv)] at h
    cases h

/-- **The two programs are the same program.**  Whatever the stream and the file answer, they ask,
write and append the same.  On every stream that ends, both come to an end, both have succeeded or
both have failed, and what has been written to the sender and to the file is the same. -/
theorem capture_loops_same :
    Looped.Alike (runSimulateSourceWith serde debugStr) (hidSimulateSourceLoop serde debugStr) ∧
      ∀ {τ : Type} (env : Env captureSig τ) (io : Io τ), ∃ r r' io', SameOutcome Eq r r' ∧
        ∀ fuel, io.input.length < fuel →
          (runSimulateSourceWith serde debugStr).exec env fuel io = some (r, io') ∧
          (hidSimulateSourceLoop serde debugStr).exec env fuel io = some (r', io') := by
  have halike := capture_alike serde debugStr
  exact ⟨halike, fun env io => halike.exec_total (captureRound_reads serde debugStr env) io⟩

end Loops

end Zerowire

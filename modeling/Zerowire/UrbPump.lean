/-
**The URB pump of the fixture** (`desktop-linux/src/urb_pump.rs`).

The pump reads envelopes off one stream, executes each USB/IP command against a fake device and
writes one reply for it.  The stream is whatever the peer sends.  A round goes through four nested
decoders (envelope, `import_id`, URB op, header and OUT body) and has an error exit in each; the
reply is written last, so that a round either answers its command in full or writes nothing.

Main definitions:

* `Zerowire.FakeDevice`, `Zerowire.dispatchSubmit` — the device and the execution of a command;
* `Zerowire.handleUrbPacket`, `Zerowire.pumpRound`, `Zerowire.runPump` — the pump;
* `Zerowire.Command`, `Zerowire.commandOf` — the command an envelope carries, if it carries one;
* `Zerowire.Answers` — the bytes of one reply.

Main results:

* `Zerowire.dispatchSubmit_eq_ok` — executing a command never panics;
* `Zerowire.ofRaw_submit`, `Zerowire.ofRaw_unlink` — the command of a packet that is long enough;
* `Zerowire.exec_pumpRound_none` — without an envelope the pump is at its end.
-/

import Zerowire.Usbip
import Zerowire.Wire

set_option relaxedAutoImplicit false
set_option autoImplicit false

namespace Zerowire

open Bytes Program

/-! ### The device -/

/-- `-ENODEV`. -/
def eNoDev : Int32 := -19

/-- `-EOPNOTSUPP`. -/
def eOpNotSupp : Int32 := -95

/-- One endpoint of the fake device; bit 7 of the address says IN, the lower four bits are the
number. -/
structure FakeEndpoint where
  address : UInt8
  xferType : EndpointType
  deriving Repr, DecidableEq

/-- `FakeEndpoint::is_in`. -/
def FakeEndpoint.isIn (e : FakeEndpoint) : Bool := e.address &&& 0x80 ≠ 0

/-- The device the pump dispatches against. -/
structure FakeDevice where
  deviceDescriptor : List UInt8
  configDescriptor : List UInt8
  endpoints : List FakeEndpoint
  deriving Repr, DecidableEq

/-- `FakeDevice::endpoint`. -/
def FakeDevice.endpoint (d : FakeDevice) (address : UInt8) : Option FakeEndpoint :=
  d.endpoints.find? fun e => e.address == address

/-- Outcome of a single CMD_SUBMIT. -/
structure SubmitResult where
  status : Int32
  actualLength : UInt32
  data : List UInt8
  deriving Repr, DecidableEq

/-- A result without data. -/
def SubmitResult.empty (status : Int32) : SubmitResult := ⟨status, 0, []⟩

/-- How the pump ends with an error; the data are those of the messages. -/
inductive PumpError where
  /-- "parsing UsbipFrame". -/
  | frame (e : UsbipError)
  | importId (got want : UInt32)
  | short (len : ℕ)
  | unknownOp (bytes : List UInt8)
  | urb (e : UrbError)
  | truncated (got need : ℕ)
  | unexpectedRet (op : UrbOp)
  | send (e : SendError)
  deriving Repr, DecidableEq

/-- `execute_control`. -/
def executeControl (device : FakeDevice) (cmd : CmdSubmit) (outBody : List UInt8) :
    Except (Fault PumpError) SubmitResult := do
  let setup := cmd.setup.1
  let bmRequestType ← index setup 0
  let bRequest ← index setup 1
  let wValue := beU16 (← index setup 3) (← index setup 2)
  let _wIndex := beU16 (← index setup 5) (← index setup 4)
  let wLength := beU16 (← index setup 7) (← index setup 6)
  let isIn : Bool := bmRequestType &&& 0x80 ≠ 0
  -- GET_DESCRIPTOR
  if isIn ∧ bRequest = 0x06 then
    let descType := (wValue >>> 8).toUInt8
    if descType = 0x01 then descriptor device.deviceDescriptor wLength
    else if descType = 0x02 then descriptor device.configDescriptor wLength
    else return .empty eOpNotSupp
  -- no-data control
  else if ¬ isIn ∧ cmd.transferBufferLength = 0 then return .empty 0
  -- OUT control with data
  else if ¬ isIn then return ⟨0, UInt32.ofNat outBody.length, []⟩
  -- anything else: empty success
  else return .empty 0
where
  /-- As much of a descriptor as was asked for. -/
  descriptor (buf : List UInt8) (wLength : UInt16) : Except (Fault PumpError) SubmitResult := do
    let take := min wLength.toNat buf.length
    return ⟨0, UInt32.ofNat take, ← slice buf 0 take⟩

/-- `execute_bulk`: an IN endpoint answers with the bytes `seqnum + i`, an OUT endpoint swallows
what it is given. -/
def executeBulk (cmd : CmdSubmit) (ep : FakeEndpoint) (outBody : List UInt8) : SubmitResult :=
  if ep.isIn then
    let len := cmd.transferBufferLength.toNat
    ⟨0, UInt32.ofNat len, (List.range len).map fun i => UInt8.ofNat (cmd.seqnum.toNat + i)⟩
  else ⟨0, UInt32.ofNat outBody.length, []⟩

/-- `dispatch_submit`. -/
def dispatchSubmit (device : FakeDevice) (cmd : CmdSubmit) (outBody : List UInt8) :
    Except (Fault PumpError) SubmitResult :=
  if cmd.isControl then executeControl device cmd outBody
  else
    let addr : UInt8 := (if cmd.direction = urbDirIn then 0x80 else 0) ||| (cmd.ep.toUInt8 &&& 0x0F)
    match device.endpoint addr with
    | none => .ok (.empty eNoDev)
    | some ep =>
        match ep.xferType with
        | .bulk | .interrupt => .ok (executeBulk cmd ep outBody)
        | .isochronous => .ok (.empty eOpNotSupp)
        | .control => executeControl device cmd outBody

/-! ### The pump -/

/-- Stats the pump records.  The counters are `u32`, and wrap around as in a release build. -/
structure PumpStats where
  submitsSeen : UInt32 := 0
  submitsOk : UInt32 := 0
  controlInBytes : UInt32 := 0
  bulkInBytes : UInt32 := 0
  bulkOutBytes : UInt32 := 0
  unlinksSeen : UInt32 := 0
  unsupported : UInt32 := 0
  deriving Repr, DecidableEq

/-- The counters after a CMD_SUBMIT has been executed. -/
def PumpStats.record (stats : PumpStats) (cmd : CmdSubmit) (res : SubmitResult) : PumpStats :=
  let stats := { stats with submitsSeen := stats.submitsSeen + 1 }
  if res.status = 0 then
    let stats := { stats with submitsOk := stats.submitsOk + 1 }
    if cmd.isControl ∧ cmd.direction = urbDirIn then
      { stats with controlInBytes := stats.controlInBytes + res.actualLength }
    else if cmd.direction = urbDirIn then
      { stats with bulkInBytes := stats.bulkInBytes + res.actualLength }
    else { stats with bulkOutBytes := stats.bulkOutBytes + res.actualLength }
  else if res.status = eOpNotSupp then { stats with unsupported := stats.unsupported + 1 }
  else stats

variable {X : Sig} {τ : Type}

/-- The RET_SUBMIT header of a result. -/
def retSubmitOf (cmd : CmdSubmit) (res : SubmitResult) : RetSubmit where
  seqnum := cmd.seqnum
  devid := 0
  direction := cmd.direction
  ep := cmd.ep
  status := res.status
  actualLength := res.actualLength
  startFrame := 0
  numberOfPackets := 0
  errorCount := 0

/-- The RET_UNLINK header of an unlink. -/
def retUnlinkOf (u : CmdUnlink) (status : Int32) : RetUnlink where
  seqnum := u.seqnum
  devid := 0
  direction := u.direction
  ep := u.ep
  status := status

/-- `send_ret_submit`. -/
def sendRetSubmit (importId : UInt32) (cmd : CmdSubmit) (res : SubmitResult) :
    Act X (Fault SendError) Unit :=
  let payload := (retSubmitOf cmd res).encode ++ res.data
  Tls.sendEnvelope .usbip (UsbipFrame.encode ⟨importId, payload⟩)

/-- `send_ret_unlink`. -/
def sendRetUnlink (importId : UInt32) (u : CmdUnlink) (status : Int32) :
    Act X (Fault SendError) Unit :=
  Tls.sendEnvelope .usbip (UsbipFrame.encode ⟨importId, (retUnlinkOf u status).encode⟩)

/-- The OUT body of a CMD_SUBMIT packet; nothing for the other directions. -/
def outBodyOf (cmd : CmdSubmit) (raw : List UInt8) : Except (Fault PumpError) (List UInt8) :=
  if cmd.direction = urbDirOut then
    let want := cmd.transferBufferLength.toNat
    if raw.length < urbHeaderLen + want then
      .error (.err (.truncated (raw.length - urbHeaderLen) want))
    else slice raw urbHeaderLen (urbHeaderLen + want)
  else .ok []

/-- `handle_urb_packet`: one URB transaction. -/
def handleUrbPacket (importId : UInt32) (device : FakeDevice) (raw : List UInt8)
    (stats : PumpStats) : Act X (Fault PumpError) PumpStats :=
  if raw.length < urbHeaderLen then throw (.err (.short raw.length))
  else do
    match ← ofResult ((peekUrbOp raw).mapError (Fault.map .urb)) with
    | none => throw (.err (.unknownOp (← ofResult (slice raw 0 4))))
    | some .cmdSubmit =>
        let hdr ← ofResult (slice raw 0 urbHeaderLen)
        let cmd ← ofResult ((CmdSubmit.parse hdr).mapError (Fault.map .urb))
        let outBody ← ofResult (outBodyOf cmd raw)
        let res ← ofResult (dispatchSubmit device cmd outBody)
        mapErr (Fault.map .send) (sendRetSubmit importId cmd res)
        return stats.record cmd res
    | some .cmdUnlink =>
        let hdr ← ofResult (slice raw 0 urbHeaderLen)
        let u ← ofResult ((CmdUnlink.parse hdr).mapError (Fault.map .urb))
        mapErr (Fault.map .send) (sendRetUnlink importId u 0)
        return { stats with unlinksSeen := stats.unlinksSeen + 1 }
    | some op => throw (.err (.unexpectedRet op))

/-- One round of `run_pump`: the stats of the next round, or the end of the loop. -/
def pumpRound (importId : UInt32) (device : FakeDevice) (stats : PumpStats) :
    Act X (Fault PumpError) (PumpStats ⊕ PumpStats) := do
  match ← catchErr Tls.recvEnvelope with
  | .error _ => return .inr stats
  | .ok env =>
      match env.channel with
      | .usbip =>
          let frame ← ofResult ((UsbipFrame.parse env.payload).mapError (Fault.map .frame))
          if frame.importId ≠ importId then throw (.err (.importId frame.importId importId))
          else
            let stats ← handleUrbPacket importId device frame.raw stats
            return .inl stats
      | .control | .hid | .keepalive => return .inl stats

/-- `run_pump`, on a stream that is closed after its last byte. -/
def runPump (env : Env X τ) (importId : UInt32) (device : FakeDevice) (fuel : ℕ) (s : Io τ) :
    Option (Except (Fault PumpError) PumpStats × Io τ) :=
  loop env (rounds (pumpRound importId device)) fuel {} s

/-! ### Executing a command -/

theorem executeControl_eq_ok (device : FakeDevice) (cmd : CmdSubmit) (outBody : List UInt8) :
    ∃ res, executeControl device cmd outBody = .ok res := by
  have hdesc (buf : List UInt8) (wLength : UInt16) :
      ∃ res, executeControl.descriptor buf wLength = .ok res := by
    rw [executeControl.descriptor, slice_eq_ok (by omega) (Nat.min_le_right _ _), ok_bind]
    exact ⟨_, rfl⟩
  have hindex (i : ℕ) (hi : i < 8) :
      (index cmd.setup.1 i : Except (Fault PumpError) UInt8) = .ok (cmd.setup.1.getD i 0) :=
    index_eq_getD (by rw [cmd.setup.2]; exact hi)
  simp (disch := decide) only [executeControl, hindex, ok_bind]
  split_ifs
  · exact hdesc _ _
  · exact hdesc _ _
  · exact ⟨_, rfl⟩
  · exact ⟨_, rfl⟩
  · exact ⟨_, rfl⟩
  · exact ⟨_, rfl⟩

/-- Executing a command always has a result: no access is out of range. -/
theorem dispatchSubmit_eq_ok (device : FakeDevice) (cmd : CmdSubmit) (outBody : List UInt8) :
    ∃ res, dispatchSubmit device cmd outBody = .ok res := by
  rw [dispatchSubmit]
  by_cases hcontrol : cmd.isControl
  · rw [if_pos hcontrol]
    exact executeControl_eq_ok device cmd outBody
  · rw [if_neg hcontrol]
    simp only
    generalize (if cmd.direction = urbDirIn then (0x80 : UInt8) else 0) ||| _ = addr
    rcases device.endpoint addr with _ | ep
    · exact ⟨_, rfl⟩
    · simp only
      cases ep.xferType with
      | control => exact executeControl_eq_ok device cmd outBody
      | isochronous => exact ⟨_, rfl⟩
      | bulk => exact ⟨_, rfl⟩
      | interrupt => exact ⟨_, rfl⟩

/-- The OUT body is there, or the packet is refused. -/
theorem outBodyOf_cases (cmd : CmdSubmit) (raw : List UInt8) :
    (∃ body, outBodyOf cmd raw = .ok body) ∨ ∃ err, outBodyOf cmd raw = .error (.err err) := by
  rw [outBodyOf]
  by_cases hout : cmd.direction = urbDirOut
  · rw [if_pos hout]
    simp only
    by_cases hshort : raw.length < urbHeaderLen + cmd.transferBufferLength.toNat
    · rw [if_pos hshort]
      exact Or.inr ⟨_, rfl⟩
    · rw [if_neg hshort, slice_eq_ok (by omega) (Nat.le_of_not_lt hshort)]
      exact Or.inl ⟨_, rfl⟩
  · rw [if_neg hout]
    exact Or.inl ⟨_, rfl⟩

/-! ### Commands and replies -/

/-- A USB/IP command. -/
inductive Command where
  | submit (c : CmdSubmit)
  | unlink (u : CmdUnlink)
  deriving DecidableEq

/-- The sequence number of a command. -/
def Command.seqnum : Command → UInt32
  | .submit c => c.seqnum
  | .unlink u => u.seqnum

/-- The command a packet starts with. -/
def Command.ofRaw (raw : List UInt8) : Option Command :=
  match CmdSubmit.parse raw, CmdUnlink.parse raw with
  | .ok c, _ => some (.submit c)
  | _, .ok u => some (.unlink u)
  | _, _ => none

/-- **The command an envelope carries** for the session `importId`, if it carries one. -/
def commandOf (importId : UInt32) (e : Envelope) : Option Command :=
  match e.channel, UsbipFrame.parse e.payload with
  | .usbip, .ok frame => if frame.importId = importId then Command.ofRaw frame.raw else none
  | _, _ => none

/-- **One reply**: the bytes are one USB/IP envelope, its frame carries the `import_id` of the
session, and in it is a RET_SUBMIT for a CMD_SUBMIT and a RET_UNLINK for a CMD_UNLINK, with the
command's sequence number. -/
def Answers (importId : UInt32) (cmd : Command) (bytes : List UInt8) : Prop :=
  ∃ payload raw, Envelope.parse bytes = .ok (some (⟨.usbip, payload⟩, bytes.length)) ∧
    UsbipFrame.parse payload = .ok ⟨importId, raw⟩ ∧
    match cmd with
    | .submit c => ∃ ret, RetSubmit.parse raw = .ok ret ∧ ret.seqnum = c.seqnum
    | .unlink u => ∃ ret, RetUnlink.parse raw = .ok ret ∧ ret.seqnum = u.seqnum

/-- An envelope that fits and carries a frame of the session. -/
theorem parse_frame_bytes {importId : UInt32} {raw : List UInt8}
    (h : (⟨.usbip, UsbipFrame.encode ⟨importId, raw⟩⟩ : Envelope).Fits) :
    let e : Envelope := ⟨.usbip, UsbipFrame.encode ⟨importId, raw⟩⟩
    Envelope.parse e.bytes = .ok (some (e, e.bytes.length)) := by
  intro e
  have hparse := Envelope.parse_bytes h []
  rwa [List.append_nil] at hparse

theorem ofRaw_submit {raw : List UInt8} (hlen : urbHeaderLen ≤ raw.length)
    (hop : wordAt raw 0 = UrbOp.cmdSubmit.toU32) :
    Command.ofRaw raw = some (.submit (CmdSubmit.ofHeader raw)) := by
  rw [Command.ofRaw, parse_of_header (CmdSubmit.parse_eq raw) hlen hop rfl]

theorem ofRaw_unlink {raw : List UInt8} (hlen : urbHeaderLen ≤ raw.length)
    (hop : wordAt raw 0 = UrbOp.cmdUnlink.toU32) :
    Command.ofRaw raw = some (.unlink (CmdUnlink.ofHeader raw)) := by
  have hne : wordAt raw 0 ≠ UrbOp.cmdSubmit.toU32 := by rw [hop]; decide
  rw [Command.ofRaw, CmdSubmit.parse_eq, if_neg (Nat.not_lt.2 hlen), if_pos hne,
    parse_of_header (CmdUnlink.parse_eq raw) hlen hop rfl]

/-! ### The end of the stream -/

/-- A round that finds no envelope ends the loop. -/
theorem exec_pumpRound_none (env : Env X τ) (importId : UInt32) (device : FakeDevice)
    (stats : PumpStats) {s : Io τ} (h : ∀ r, Envelope.parse s.input ≠ .ok (some r)) :
    ∃ rest, exec env (pumpRound importId device stats) s =
      (.ok (.inr stats), { s with input := rest }) := by
  obtain ⟨err, rest, hrecv⟩ := exec_recvEnvelopeWith_of_not_parse env "reading TLS header"
    "reading TLS payload" h
  refine ⟨rest, ?_⟩
  rw [pumpRound, Tls.recvEnvelope, exec_bind_ok (exec_catchErr_err hrecv)]
  rfl

end Zerowire

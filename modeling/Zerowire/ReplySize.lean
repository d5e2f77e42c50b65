/-
**How large a reply of the fixture's pump is.**

Three quantities bound the data of a reply, each in its own branch of `dispatch_submit`: the
`wLength` of the setup packet and the size of the descriptor for a GET_DESCRIPTOR, and the
`transfer_buffer_length` of the header for a bulk or interrupt IN transfer.  A fourth one, the cap
on the payload of an envelope, is looked at only when the reply is written.

Main definitions:

* `Zerowire.Submission` — a CMD_SUBMIT with its OUT body;
* `Zerowire.requestedDescriptor` — the descriptor that a setup packet asks for;
* `Zerowire.DescriptorFits` — when as much of it as is delivered fits the submitter's buffer;
* `Zerowire.SubmitPacket` — a packet that is a well-framed CMD_SUBMIT;
* `Zerowire.Survives` — the packet is replied to, and the pump goes on.

Main results:

* `Zerowire.dispatchSubmit_size` — what is in a result, branch by branch;
* `Zerowire.reply_within_buffer_iff` — **when a reply stays within the submitter's buffer**;
* `Zerowire.survives_iff` — **when a CMD_SUBMIT does not end the session.**
-/

import Zerowire.UrbPumpRun

set_option relaxedAutoImplicit false
set_option autoImplicit false

namespace Zerowire

open Bytes Program

/-! ### The size of a result -/

/-- **A CMD_SUBMIT with its OUT body**: as many bytes as the header says, and none for the other
directions. -/
structure Submission where
  cmd : CmdSubmit
  outBody : List UInt8
  length_outBody : outBody.length =
    if cmd.direction = urbDirOut then cmd.transferBufferLength.toNat else 0

/-- The OUT body does not exceed the buffer. -/
theorem Submission.length_outBody_le (sub : Submission) :
    sub.outBody.length ≤ sub.cmd.transferBufferLength.toNat := by
  rw [sub.length_outBody]
  split_ifs
  · exact Nat.le_refl _
  · exact Nat.zero_le _

/-- Byte `i` of the setup packet. -/
def CmdSubmit.setupByte (cmd : CmdSubmit) (i : ℕ) : UInt8 := cmd.setup.1.getD i 0

/-- `wValue` of the setup packet. -/
def CmdSubmit.wValue (cmd : CmdSubmit) : UInt16 := beU16 (cmd.setupByte 3) (cmd.setupByte 2)

/-- `wLength` of the setup packet. -/
def CmdSubmit.wLength (cmd : CmdSubmit) : UInt16 := beU16 (cmd.setupByte 7) (cmd.setupByte 6)

/-- A setup packet that is a GET_DESCRIPTOR. -/
def CmdSubmit.GetDescriptor (cmd : CmdSubmit) : Prop :=
  (cmd.setupByte 0 &&& 0x80 ≠ 0) ∧ cmd.setupByte 1 = 0x06

instance (cmd : CmdSubmit) : Decidable cmd.GetDescriptor := inferInstanceAs (Decidable (_ ∧ _))

/-- **The descriptor that a setup packet asks for**, if the device has it. -/
def requestedDescriptor (device : FakeDevice) (cmd : CmdSubmit) : Option (List UInt8) :=
  if cmd.GetDescriptor then
    if (cmd.wValue >>> 8).toUInt8 = 0x01 then some device.deviceDescriptor
    else if (cmd.wValue >>> 8).toUInt8 = 0x02 then some device.configDescriptor
    else none
  else none

/-- What a control transfer returns: the beginning of the descriptor that it asks for, and no data
if there is none. -/
def ControlReturns (cmd : CmdSubmit) (outBody : List UInt8) (res : SubmitResult) :
    Option (List UInt8) → Prop
  | some buf =>
      let take := min cmd.wLength.toNat buf.length
      res = ⟨0, UInt32.ofNat take, buf.take take⟩
  | none => res.data = [] ∧
      (res.actualLength = 0 ∨ res.actualLength = UInt32.ofNat outBody.length)

/-- A control transfer returns the beginning of the descriptor that it asks for. -/
theorem executeControl_cases (device : FakeDevice) (cmd : CmdSubmit) (outBody : List UInt8) :
    ∃ res, executeControl device cmd outBody = .ok res ∧
      ControlReturns cmd outBody res (requestedDescriptor device cmd) := by
  have hdesc (buf : List UInt8) : executeControl.descriptor buf cmd.wLength =
      .ok ⟨0, UInt32.ofNat (min cmd.wLength.toNat buf.length),
        buf.take (min cmd.wLength.toNat buf.length)⟩ := by
    rw [executeControl.descriptor, slice_eq_ok (by omega) (Nat.min_le_right _ _), ok_bind]
    rfl
  have hindex (i : ℕ) (hi : i < 8) :
      (index cmd.setup.1 i : Except (Fault PumpError) UInt8) = .ok (cmd.setupByte i) :=
    index_eq_getD (by rw [cmd.setup.2]; exact hi)
  have hget : ((cmd.setupByte 0 &&& 0x80 ≠ 0) ∧ cmd.setupByte 1 = 0x06) = cmd.GetDescriptor := rfl
  have hvalue : beU16 (cmd.setupByte 3) (cmd.setupByte 2) = cmd.wValue := rfl
  have hlength : beU16 (cmd.setupByte 7) (cmd.setupByte 6) = cmd.wLength := rfl
  simp (disch := decide) only [executeControl, hindex, ok_bind, decide_eq_true_eq, hget, hvalue,
    hlength, requestedDescriptor]
  split_ifs
  · exact ⟨_, hdesc _, rfl⟩
  · exact ⟨_, hdesc _, rfl⟩
  · exact ⟨_, rfl, rfl, Or.inl rfl⟩
  · exact ⟨_, rfl, rfl, Or.inl rfl⟩
  · exact ⟨_, rfl, rfl, Or.inl rfl⟩
  · exact ⟨_, rfl, rfl, Or.inr rfl⟩

/-- A transfer that the endpoint itself carries: bulk or interrupt, in the direction IN. -/
def InTransfer (device : FakeDevice) (cmd : CmdSubmit) : Prop :=
  cmd.isControl = false ∧ ∃ ep, device.endpoint (addressOf cmd) = some ep ∧
    (ep.xferType = .bulk ∨ ep.xferType = .interrupt) ∧ ep.isIn = true

/-- A transfer that goes to `execute_control`: on endpoint 0, or on one declared as such. -/
def ControlTransfer (device : FakeDevice) (cmd : CmdSubmit) : Prop :=
  cmd.isControl = true ∨
    ∃ ep, device.endpoint (addressOf cmd) = some ep ∧ ep.xferType = .control

theorem actionOf_eq_control_iff (device : FakeDevice) (cmd : CmdSubmit) :
    actionOf device cmd = .control ↔ ControlTransfer device cmd := by
  rw [actionOf, ControlTransfer]
  by_cases hcontrol : cmd.isControl = true
  · rw [if_pos hcontrol]
    exact ⟨fun _ => Or.inl hcontrol, fun _ => rfl⟩
  · rw [if_neg hcontrol]
    rcases device.endpoint (addressOf cmd) with _ | ⟨address, xferType⟩
    · simp [hcontrol]
    · cases xferType <;> simp [hcontrol]

theorem inTransfer_iff (device : FakeDevice) (cmd : CmdSubmit) :
    InTransfer device cmd ↔ ∃ ep, actionOf device cmd = .bulk ep ∧ ep.isIn = true := by
  rw [actionOf, InTransfer]
  by_cases hcontrol : cmd.isControl = true
  · simp [hcontrol]
  · rw [if_neg hcontrol]
    rcases device.endpoint (addressOf cmd) with _ | ⟨address, xferType⟩
    · simp
    · cases xferType <;> simp [hcontrol]

/-- The transfers that return data of their own are apart from the control transfers. -/
theorem InTransfer.not_control {device : FakeDevice} {cmd : CmdSubmit}
    (h : InTransfer device cmd) : ¬ ControlTransfer device cmd := by
  obtain ⟨hcontrol, ep, hep, htype, -⟩ := h
  rintro (h | ⟨ep', hep', htype'⟩)
  · rw [hcontrol] at h
    cases h
  · cases hep.symm.trans hep'
    rcases htype with htype | htype
    · cases htype.symm.trans htype'
    · cases htype.symm.trans htype'

/-- **What is in a result**, branch by branch: the bytes that an IN transfer asks for, the beginning
of a descriptor, or no data and at most the OUT body to count. -/
inductive Sized (device : FakeDevice) (sub : Submission) (res : SubmitResult) : Prop
  | inTransfer (h : InTransfer device sub.cmd)
      (hdata : res.data.length = sub.cmd.transferBufferLength.toNat)
      (hlen : res.actualLength = sub.cmd.transferBufferLength)
  | descriptor (h : ControlTransfer device sub.cmd) {buf : List UInt8}
      (hbuf : requestedDescriptor device sub.cmd = some buf)
      (hdata : res.data.length = min sub.cmd.wLength.toNat buf.length)
      (hlen : res.actualLength.toNat = min sub.cmd.wLength.toNat buf.length)
  | noData (h : ¬ InTransfer device sub.cmd)
      (hnone : ControlTransfer device sub.cmd → requestedDescriptor device sub.cmd = none)
      (hdata : res.data = []) (hlen : res.actualLength ≤ sub.cmd.transferBufferLength)

/-- **What is in a result.** -/
theorem dispatchSubmit_size (device : FakeDevice) (sub : Submission) :
    ∃ res, dispatchSubmit device sub.cmd sub.outBody = .ok res ∧ Sized device sub res := by
  have hbody := sub.length_outBody_le
  have hlt := sub.cmd.transferBufferLength.toNat_lt
  have hcount : UInt32.ofNat sub.outBody.length ≤ sub.cmd.transferBufferLength := by
    rw [UInt32.le_iff_toNat_le, UInt32.toNat_ofNat', Nat.mod_eq_of_lt (by omega)]
    exact hbody
  have hzero : (0 : UInt32) ≤ sub.cmd.transferBufferLength := by
    rw [UInt32.le_iff_toNat_le]
    exact Nat.zero_le _
  rw [dispatchSubmit_eq]
  -- one case for each thing that a command may come down to
  rcases haction : actionOf device sub.cmd with _ | ep | status
  · have hcontrol := (actionOf_eq_control_iff device sub.cmd).1 haction
    obtain ⟨res, hres, hreturns⟩ := executeControl_cases device sub.cmd sub.outBody
    refine ⟨res, hres, ?_⟩
    rcases hreq : requestedDescriptor device sub.cmd with _ | buf
    · rw [hreq] at hreturns
      obtain ⟨hdata, hlen⟩ := hreturns
      refine .noData (fun h => h.not_control hcontrol) (fun _ => hreq) hdata ?_
      rcases hlen with hlen | hlen
      · rw [hlen]
        exact hzero
      · rw [hlen]
        exact hcount
    · rw [hreq] at hreturns
      have hword := sub.cmd.wLength.toNat_lt
      rw [ControlReturns] at hreturns
      refine .descriptor hcontrol hreq ?_ ?_
      · rw [hreturns, List.length_take, Nat.min_eq_left (Nat.min_le_right _ _)]
      · rw [hreturns, UInt32.toNat_ofNat', Nat.mod_eq_of_lt (by omega)]
  · have hnot : ¬ ControlTransfer device sub.cmd := by
      rw [← actionOf_eq_control_iff, haction]
      exact nofun
    refine ⟨_, rfl, ?_⟩
    by_cases hin : ep.isIn = true
    · refine .inTransfer ((inTransfer_iff device sub.cmd).2 ⟨ep, haction, hin⟩) ?_ ?_
      · rw [executeBulk, if_pos hin, List.length_map, List.length_range]
      · rw [executeBulk, if_pos hin]
        exact UInt32.ofNat_toNat
    · refine .noData ?_ (fun h => absurd h hnot) ?_ ?_
      · rw [inTransfer_iff]
        rintro ⟨ep', hep', hin'⟩
        cases haction.symm.trans hep'
        exact hin hin'
      · rw [executeBulk, if_neg hin]
      · rw [executeBulk, if_neg hin]
        exact hcount
  · refine ⟨_, rfl, .noData ?_ (fun h => ?_) rfl hzero⟩
    · rw [inTransfer_iff, haction]
      rintro ⟨ep, hep, -⟩
      cases hep
    · rw [← actionOf_eq_control_iff, haction] at h
      cases h

/-! ### The submitter's buffer -/

/-- **When a descriptor fits the submitter's buffer**: what a control transfer delivers of it, as
much as `wLength` asks for and the device has, is not bounded by `transfer_buffer_length`. -/
def DescriptorFits (device : FakeDevice) (cmd : CmdSubmit) : Prop :=
  ControlTransfer device cmd → ∀ buf, requestedDescriptor device cmd = some buf →
    min cmd.wLength.toNat buf.length ≤ cmd.transferBufferLength.toNat

/-- A reply that stays within the submitter's buffer, in its length and in its data. -/
def WithinBuffer (cmd : CmdSubmit) (ret : RetSubmit) (data : List UInt8) : Prop :=
  ret.actualLength ≤ cmd.transferBufferLength ∧ data.length ≤ cmd.transferBufferLength.toNat

/-- **When a reply stays within the submitter's buffer**: exactly if the descriptor that is asked
for, if one is, fits it. -/
theorem reply_within_buffer_iff (device : FakeDevice) (sub : Submission) :
    ∃ res, dispatchSubmit device sub.cmd sub.outBody = .ok res ∧
      (WithinBuffer sub.cmd (retSubmitOf sub.cmd res) res.data ↔
        DescriptorFits device sub.cmd) := by
  obtain ⟨res, hres, hsized⟩ := dispatchSubmit_size device sub
  refine ⟨res, hres, ?_⟩
  have hact : (retSubmitOf sub.cmd res).actualLength = res.actualLength := rfl
  rw [WithinBuffer, hact]
  -- an IN transfer, a descriptor, or no data
  rcases hsized with ⟨h, hdata, hlen⟩ | ⟨h, hbuf, hdata, hlen⟩ | ⟨h, hnone, hdata, hlen⟩
  · refine ⟨fun _ hcontrol => absurd hcontrol h.not_control, fun _ => ⟨?_, ?_⟩⟩
    · rw [hlen]
      exact UInt32.le_refl _
    · exact Nat.le_of_eq hdata
  · refine ⟨fun hwithin _ buf' hbuf' => ?_, fun hfits => ?_⟩
    · cases hbuf.symm.trans hbuf'
      rw [← hdata]
      exact hwithin.2
    · have hle := hfits h _ hbuf
      refine ⟨?_, ?_⟩
      · rw [UInt32.le_iff_toNat_le, hlen]
        exact hle
      · rw [hdata]
        exact hle
  · refine ⟨fun _ hcontrol buf hbuf => ?_, fun _ => ⟨hlen, ?_⟩⟩
    · rw [hnone hcontrol] at hbuf
      cases hbuf
    · rw [hdata]
      exact Nat.zero_le _

/-- A GET_DESCRIPTOR for the device descriptor, with `wLength` 18 and no buffer. -/
def descriptorProbe : Submission where
  cmd := {
    seqnum := 1
    devid := 0
    direction := urbDirIn
    ep := 0
    transferFlags := 0
    transferBufferLength := 0
    startFrame := 0
    numberOfPackets := 0
    interval := 0
    setup := .of 0x80 0x06 0x00 0x01 0x00 0x00 0x12 0x00 }
  outBody := []
  length_outBody := rfl

/-- A device with nothing but an 18-byte device descriptor. -/
def bareDevice : FakeDevice := ⟨List.replicate 18 0, [], []⟩

/-- The reply to it has 18 bytes of data. -/
theorem descriptorProbe_overruns :
    ∃ res, dispatchSubmit bareDevice descriptorProbe.cmd descriptorProbe.outBody = .ok res ∧
      ¬ WithinBuffer descriptorProbe.cmd (retSubmitOf descriptorProbe.cmd res) res.data :=
  ⟨⟨0, 18, List.replicate 18 0⟩, rfl, fun h => absurd h.1 (by decide)⟩

/-! ### The cap of an envelope -/

/-- **A packet that is a well-framed CMD_SUBMIT**: a full header, the whole OUT body, and an
envelope that can carry it. -/
structure SubmitPacket where
  raw : List UInt8
  header : urbHeaderLen ≤ raw.length
  op : wordAt raw 0 = UrbOp.cmdSubmit.toU32
  body : (CmdSubmit.ofHeader raw).direction = urbDirOut →
    urbHeaderLen + (CmdSubmit.ofHeader raw).transferBufferLength.toNat ≤ raw.length
  framed : raw.length + 4 ≤ maxPayload

namespace SubmitPacket

/-- The command of the packet. -/
def cmd (p : SubmitPacket) : CmdSubmit := CmdSubmit.ofHeader p.raw

/-- The packet in a frame of the session `importId`. -/
def envelope (p : SubmitPacket) (importId : UInt32) : Envelope :=
  ⟨.usbip, UsbipFrame.encode ⟨importId, p.raw⟩⟩

/-- The command that the header of the packet stands for is the one that is parsed. -/
theorem parse_raw (p : SubmitPacket) : CmdSubmit.parse p.raw = .ok p.cmd :=
  parse_of_header (CmdSubmit.parse_eq _) p.header p.op rfl

/-- The OUT body is there. -/
theorem exists_submission (p : SubmitPacket) :
    ∃ sub : Submission, sub.cmd = p.cmd ∧ outBodyOf p.cmd p.raw = .ok sub.outBody := by
  have hbody := p.body
  rw [← cmd] at hbody
  by_cases hout : p.cmd.direction = urbDirOut
  · refine ⟨⟨p.cmd, (p.raw.take (urbHeaderLen + p.cmd.transferBufferLength.toNat)).drop urbHeaderLen,
      ?_⟩, rfl, ?_⟩
    · rw [if_pos hout, List.length_drop, List.length_take, Nat.min_eq_left (hbody hout)]
      omega
    · rw [outBodyOf, if_pos hout]
      simp only
      rw [if_neg (Nat.not_lt.2 (hbody hout)), slice_eq_ok (by omega) (hbody hout)]
  · refine ⟨⟨p.cmd, [], ?_⟩, rfl, ?_⟩
    · rw [if_neg hout, List.length_nil]
    · rw [outBodyOf, if_neg hout]

end SubmitPacket

section Survival

variable {X : Sig} {τ : Type} (env : Env X τ) (importId : UInt32) (device : FakeDevice)

/-- The envelope of a RET_SUBMIT with its data. -/
def retEnvelope (importId : UInt32) (ret : RetSubmit) (data : List UInt8) : Envelope :=
  ⟨.usbip, UsbipFrame.encode ⟨importId, ret.encode ++ data⟩⟩

/-- **A packet does not end the session**, after what was counted and written before and in front of
what follows it: `handle_urb_packet` writes a RET_SUBMIT with its sequence number, and `run_pump`
goes on to what follows. -/
def Survives (p : SubmitPacket) (stats : PumpStats) (s : Io τ) (rest : List UInt8) : Prop :=
  ∃ stats' ret data, ret.seqnum = p.cmd.seqnum ∧
    exec env (handleUrbPacket importId device p.raw stats) s =
      (.ok stats', { s with output := s.output ++ (retEnvelope importId ret data).bytes }) ∧
    exec env (pumpRound importId device stats)
        { s with input := (p.envelope importId).bytes ++ rest } =
      (.ok (.inl stats'),
        { s with input := rest, output := s.output ++ (retEnvelope importId ret data).bytes })

/-- **When the reply respects the cap of an envelope**: an IN transfer leaves room for the header of
the reply and for the `import_id`. -/
def ReplyFits (device : FakeDevice) (cmd : CmdSubmit) : Prop :=
  InTransfer device cmd → cmd.transferBufferLength.toNat + 52 ≤ maxPayload

/-- The payload of a reply. -/
theorem retEnvelope_fits_iff (importId : UInt32) (ret : RetSubmit) (data : List UInt8) :
    (retEnvelope importId ret data).Fits ↔ data.length + 52 ≤ maxPayload := by
  have hlen : (retEnvelope importId ret data).payload.length = data.length + 52 := by
    rw [retEnvelope, UsbipFrame.encode, List.length_append, List.length_append,
      RetSubmit.length_encode, urbHeaderLen]
    change 4 + (48 + data.length) = _
    omega
  rw [Envelope.Fits, hlen]

/-- Only an IN transfer can exceed the cap: descriptors are bounded by `wLength`. -/
theorem Sized.fits_iff {sub : Submission} {res : SubmitResult} (h : Sized device sub res)
    (ret : RetSubmit) : (retEnvelope importId ret res.data).Fits ↔ ReplyFits device sub.cmd := by
  rw [retEnvelope_fits_iff, ReplyFits]
  rcases h with ⟨h, hdata, -⟩ | ⟨h, -, hdata, -⟩ | ⟨h, -, hdata, -⟩
  · rw [hdata]
    exact ⟨fun hle _ => hle, fun hle => hle h⟩
  · have hword := sub.cmd.wLength.toNat_lt
    refine ⟨fun _ hin => absurd h hin.not_control, fun _ => ?_⟩
    rw [hdata, maxPayload]
    omega
  · rw [hdata]
    exact ⟨fun _ hin => absurd hin h, fun _ => by decide⟩

/-- What is served for a well-framed CMD_SUBMIT, and when it can be written. -/
theorem servedOf_submit (p : SubmitPacket) :
    ∃ res, servedOf device p.raw = some (.submit p.cmd res) ∧
      ((retEnvelope importId (retSubmitOf p.cmd res) res.data).Fits ↔ ReplyFits device p.cmd) := by
  obtain ⟨sub, hcmd, hbody⟩ := p.exists_submission
  obtain ⟨res, hres, hsized⟩ := dispatchSubmit_size device sub
  have hfits := hsized.fits_iff importId device (retSubmitOf p.cmd res)
  rw [hcmd] at hres hfits
  refine ⟨res, ?_, hfits⟩
  rw [SubmitPacket.cmd] at hbody hres ⊢
  rw [servedOf, if_neg (Nat.not_lt.2 p.header), if_pos p.op, hbody, toOption_ok, Option.bind_some,
    hres, toOption_ok, Option.map_some]

/-- What `run_pump` does for the envelope of a packet is what is done for the packet. -/
theorem serve_envelope (p : SubmitPacket) (stats : PumpStats) {served : Served}
    (h : replyTo importId device p.raw = some served) :
    serve importId device (p.envelope importId) stats =
      (some (some served), served.record stats) := by
  have hreply : replyToEnvelope importId device (p.envelope importId) = some served := by
    rw [replyToEnvelope, SubmitPacket.envelope, UsbipFrame.parse_encode, toOption_ok,
      Option.bind_some, if_pos rfl, h]
  have hchan : (p.envelope importId).channel = .usbip := rfl
  rw [serve, if_pos hchan, hreply]

/-- The envelope of a packet is read, whatever follows it. -/
theorem SubmitPacket.parse_envelope (p : SubmitPacket) (rest : List UInt8) :
    Envelope.parse ((p.envelope importId).bytes ++ rest) =
      .ok (some (p.envelope importId, (p.envelope importId).bytes.length)) := by
  refine Envelope.parse_bytes ?_ rest
  have hframed := p.framed
  rw [Envelope.Fits, SubmitPacket.envelope, UsbipFrame.encode, List.length_append]
  change 4 + p.raw.length ≤ _
  omega

/-- A reply that respects the cap is written, and the pump goes on. -/
theorem survives_of_fits (p : SubmitPacket) (stats : PumpStats) (s : Io τ) (rest : List UInt8)
    (h : ReplyFits device p.cmd) : Survives env importId device p stats s rest := by
  obtain ⟨res, hserved, hfits⟩ := servedOf_submit importId device p
  have henv : (Served.submit p.cmd res).envelope importId =
      retEnvelope importId (retSubmitOf p.cmd res) res.data := rfl
  have hsome : replyTo importId device p.raw = some (.submit p.cmd res) := by
    rw [replyTo, hserved, Option.filter_some_pos]
    rw [henv, decide_eq_true_eq, hfits]
    exact h
  have hpacket := exec_handleUrbPacket env importId device p.raw stats s
  rw [hsome, Handled, henv] at hpacket
  refine ⟨_, _, _, rfl, hpacket, ?_⟩
  have hparse := p.parse_envelope importId rest
  have hserve := serve_envelope importId device p stats hsome
  rcases exec_pumpRound env importId device stats
      { s with input := (p.envelope importId).bytes ++ rest } with
    ⟨hno, -⟩ | ⟨e, n, hparse', ⟨reply, stats', hserve', hx⟩ | ⟨hnone, -⟩⟩
  · exact absurd hparse (hno _)
  · cases hparse.symm.trans hparse'
    cases hserve.symm.trans hserve'
    rw [hx, List.drop_left, bytesOfReply, henv]
  · cases hparse.symm.trans hparse'
    rw [hserve] at hnone
    cases hnone

/-- A reply that exceeds the cap is not written: `handle_urb_packet` ends with an error. -/
theorem not_survives (p : SubmitPacket) (stats : PumpStats) (s : Io τ) (rest : List UInt8)
    (h : ¬ ReplyFits device p.cmd) : ¬ Survives env importId device p stats s rest := by
  obtain ⟨res, hserved, hfits⟩ := servedOf_submit importId device p
  have hnone : replyTo importId device p.raw = none := by
    rw [replyTo, hserved, Option.filter_some_neg]
    rw [decide_eq_false_iff_not]
    exact fun hfit => h (hfits.1 hfit)
  have hpacket := exec_handleUrbPacket env importId device p.raw stats s
  rintro ⟨stats', ret, data, -, hok, -⟩
  rw [hnone] at hpacket
  obtain ⟨err, herr⟩ := hpacket
  rw [herr] at hok
  cases hok

/-- **When a CMD_SUBMIT does not end the session**: exactly if it is not an IN transfer of more than
`maxPayload - 52` bytes. -/
theorem survives_iff (p : SubmitPacket) (stats : PumpStats) (s : Io τ) (rest : List UInt8) :
    Survives env importId device p stats s rest ↔ ReplyFits device p.cmd := by
  refine ⟨fun h => ?_, survives_of_fits env importId device p stats s rest⟩
  by_contra hlarge
  exact not_survives env importId device p stats s rest hlarge h

end Survival

/-- A read of `2 ^ 20 - 51` bytes from endpoint 1. -/
def largeRead : CmdSubmit where
  seqnum := 1
  devid := 0
  direction := urbDirIn
  ep := 1
  transferFlags := 0
  transferBufferLength := 1048525
  startFrame := 0
  numberOfPackets := 0
  interval := 0
  setup := .zero

/-- The packet of that read. -/
def largeReadPacket : SubmitPacket where
  raw := largeRead.encode
  header := Nat.le_of_eq largeRead.length_encode.symm
  op := by decide
  body := by decide
  framed := by decide

/-- A device with a bulk IN endpoint. -/
def bulkDevice : FakeDevice := ⟨[], [], [⟨0x81, .bulk⟩]⟩

/-- The read ends the session: the payload of the reply would be one byte more than the cap. -/
theorem largeRead_ends_session :
    ¬ Survives Env.none 1 bulkDevice largeReadPacket {} ⟨[], [], [], ()⟩ [] := by
  refine not_survives _ _ _ _ _ _ _ fun h => ?_
  have hcmd : largeReadPacket.cmd = largeRead := by
    have hparse := CmdSubmit.parse_encode largeRead []
    rw [List.append_nil] at hparse
    cases hparse.symm.trans largeReadPacket.parse_raw
    rfl
  rw [ReplyFits, hcmd] at h
  have hin : InTransfer bulkDevice largeRead :=
    ⟨by decide, ⟨0x81, .bulk⟩, by decide, Or.inl rfl, by decide⟩
  exact absurd (h hin) (by decide)

end Zerowire

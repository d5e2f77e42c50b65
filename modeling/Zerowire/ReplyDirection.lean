/-
**The direction of a command and the data of its reply.**

Who knows the direction of a command only must be able to find the end of its reply: the data of an
IN transfer follow the header, and nothing follows it if the direction is OUT.  A command says its
direction twice, in its header and in bit 7 of its setup packet, and the two pumps use the one or
the other.

Main definitions:

* `Zerowire.FollowsDirection` — the law for the packet of a reply;
* `Zerowire.FakeDevice.asked` — the part of a descriptor that a setup packet asks for;
* `Zerowire.FakeDevice.Contradicted`, `Zerowire.UsbIpHost.Contradicted` — the commands for which the
  setup packet is believed, and brings data, against an OUT header.

Main results:

* `Zerowire.serve_follows_iff`, `Zerowire.UsbIpHost.round_follows_iff` — the law for one command of
  the one and of the other pump;
* `Zerowire.replies_follow_direction_iff` — **when the replies of a run obey the law**, for both
  pumps.
-/

import Zerowire.UrbLimits
import Zerowire.UrbPumpRun

set_option relaxedAutoImplicit false
set_option autoImplicit false

namespace Zerowire

open Bytes Program Jvm UsbIpFrame

/-- **The law**: behind the header of a RET_SUBMIT are `actual_length` bytes if the direction of the
command is IN, and none if it is OUT. -/
def FollowsDirection (direction : UInt32) (packet : List UInt8) : Prop :=
  ∃ ret, RetSubmit.parse packet = .ok ret ∧
    (direction = urbDirIn → (packet.drop urbHeaderLen).length = ret.actualLength.toNat) ∧
    (direction = urbDirOut → packet.drop urbHeaderLen = [])

theorem followsDirection_iff {direction : UInt32} {ret : RetSubmit} {data : List UInt8} :
    FollowsDirection direction (ret.encode ++ data) ↔
      (direction = urbDirIn → data.length = ret.actualLength.toNat) ∧
        (direction = urbDirOut → data = []) := by
  rw [FollowsDirection, RetSubmit.parse_encode, List.drop_left' ret.length_encode]
  simp only [Except.ok.injEq, exists_eq_left']

/-! ### The fixture -/

/-- **The part of a descriptor that a setup packet asks for.** -/
def FakeDevice.asked (device : FakeDevice) (setup : Setup) : List UInt8 :=
  let byte i := setup.1.getD i 0
  let descType := (beU16 (byte 3) (byte 2) >>> 8).toUInt8
  let wLength := beU16 (byte 7) (byte 6)
  if byte 0 &&& 0x80 ≠ 0 ∧ byte 1 = 0x06 then
    if descType = 0x01 then device.deviceDescriptor.take wLength.toNat
    else if descType = 0x02 then device.configDescriptor.take wLength.toNat
    else []
  else []

/-- What a control transfer returns. -/
theorem executeControl_data {device : FakeDevice} {cmd : CmdSubmit} {outBody : List UInt8}
    {res : SubmitResult} (h : executeControl device cmd outBody = .ok res) :
    res.data = device.asked cmd.setup ∧
      (res.actualLength.toNat = res.data.length ∨
        res.data = [] ∧ res.actualLength = UInt32.ofNat outBody.length) := by
  have hindex (i : ℕ) (hi : i < 8) :
      (index cmd.setup.1 i : Except (Fault PumpError) UInt8) = .ok (cmd.setup.1.getD i 0) :=
    index_eq_getD (by rw [cmd.setup.2]; exact hi)
  have hdesc {buf : List UInt8} {wLength : UInt16}
      (h : executeControl.descriptor buf wLength = .ok res) :
      res.data = buf.take wLength.toNat ∧ res.actualLength.toNat = res.data.length := by
    rw [executeControl.descriptor, slice_eq_ok (by omega) (Nat.min_le_right _ _), ok_bind,
      pure_eq_ok] at h
    obtain rfl := Except.ok.inj h
    have hlt := wLength.toNat_lt
    simp only [List.drop_zero, List.length_take, UInt32.toNat_ofNat']
    refine ⟨?_, by omega⟩
    rw [List.take_eq_take_iff]
    omega
  have hempty {status : Int32} (h : SubmitResult.empty status = res) :
      res.data = [] ∧ res.actualLength.toNat = res.data.length := by
    obtain rfl := h
    exact ⟨rfl, rfl⟩
  -- every access to the setup packet is in range
  simp (disch := decide) only [executeControl, hindex, ok_bind, pure_eq_ok, decide_eq_true_eq] at h
  rw [FakeDevice.asked]
  simp only
  by_cases hget : cmd.setup.1.getD 0 0 &&& 0x80 ≠ 0 ∧ cmd.setup.1.getD 1 0 = 0x06
  · -- GET_DESCRIPTOR
    rw [if_pos hget] at h ⊢
    split_ifs at h ⊢ with hdevice hconfig
    · exact ⟨(hdesc h).1, Or.inl (hdesc h).2⟩
    · exact ⟨(hdesc h).1, Or.inl (hdesc h).2⟩
    · exact ⟨(hempty (Except.ok.inj h)).1, Or.inl (hempty (Except.ok.inj h)).2⟩
  · rw [if_neg hget] at h ⊢
    split_ifs at h with hnodata hin
    · exact ⟨(hempty (Except.ok.inj h)).1, Or.inl (hempty (Except.ok.inj h)).2⟩
    · exact ⟨(hempty (Except.ok.inj h)).1, Or.inl (hempty (Except.ok.inj h)).2⟩
    · -- OUT control with data
      obtain rfl := Except.ok.inj h
      exact ⟨rfl, Or.inr ⟨rfl, rfl⟩⟩

/-- A bulk transfer returns data if its endpoint is IN, and as much as it says. -/
theorem executeBulk_data (cmd : CmdSubmit) (ep : FakeEndpoint) (outBody : List UInt8) :
    (ep.isIn = true → (executeBulk cmd ep outBody).actualLength.toNat =
      (executeBulk cmd ep outBody).data.length) ∧
    (ep.isIn = false → (executeBulk cmd ep outBody).data = []) := by
  rw [executeBulk]
  constructor
  · intro h
    rw [if_pos h]
    simp
  · intro h
    rw [h]
    rfl

/-- The endpoint that is found has the direction of the command. -/
theorem isIn_endpoint {device : FakeDevice} {cmd : CmdSubmit} {ep : FakeEndpoint}
    (h : device.endpoint (addressOf cmd) = some ep) :
    ep.isIn = true ↔ cmd.direction = urbDirIn := by
  have haddr : ep.address = addressOf cmd := by
    have hfind := List.find?_some h
    simpa using hfind
  rw [FakeEndpoint.isIn, haddr, addressOf, decide_eq_true_eq]
  generalize cmd.ep.toUInt8 = n
  by_cases hin : cmd.direction = urbDirIn
  · have hbit : ((0x80 : UInt8) ||| (n &&& 0x0F)) &&& 0x80 = 0x80 := by
      apply UInt8.toNat_inj.1
      rw [UInt8.toNat_and, UInt8.toNat_or, UInt8.toNat_and, Nat.and_or_distrib_right, Nat.and_assoc]
      have hzero : UInt8.toNat 0x0F &&& UInt8.toNat 0x80 = 0 := by decide
      rw [hzero, Nat.and_zero, Nat.or_zero, Nat.and_self]
    rw [if_pos hin, hbit]
    exact iff_of_true (by decide) hin
  · have hbit : ((0 : UInt8) ||| (n &&& 0x0F)) &&& 0x80 = 0 := by
      rw [UInt8.zero_or, UInt8.and_assoc]
      exact UInt8.and_zero
    rw [if_neg hin, hbit]
    exact iff_of_false (by decide) hin

/-- **The setup packet is believed against an OUT header**: the command is executed as a control
transfer that asks for a part of a descriptor, and there is one. -/
def FakeDevice.Contradicted (device : FakeDevice) (cmd : CmdSubmit) : Prop :=
  cmd.direction = urbDirOut ∧ actionOf device cmd = .control ∧ device.asked cmd.setup ≠ []

/-- The endpoint of a bulk transfer has the direction of the command. -/
theorem endpoint_of_bulk {device : FakeDevice} {cmd : CmdSubmit} {ep : FakeEndpoint}
    (h : actionOf device cmd = .bulk ep) : device.endpoint (addressOf cmd) = some ep := by
  rw [actionOf] at h
  by_cases hcontrol : cmd.isControl = true
  · rw [if_pos hcontrol] at h
    cases h
  rw [if_neg hcontrol] at h
  rcases hep : device.endpoint (addressOf cmd) with _ | ep'
  · rw [hep] at h
    cases h
  · rw [hep] at h
    simp only at h
    split at h <;> cases h <;> rfl

/-- **The law for a command of the fixture.** -/
theorem followsDirection_served {device : FakeDevice} {cmd : CmdSubmit} {raw outBody : List UInt8}
    {res : SubmitResult} (hbody : outBodyOf cmd raw = .ok outBody)
    (h : dispatchSubmit device cmd outBody = .ok res) :
    FollowsDirection cmd.direction (Served.packet (.submit cmd res)) ↔
      ¬ device.Contradicted cmd := by
  rw [Served.packet, followsDirection_iff, FakeDevice.Contradicted]
  simp only [retSubmitOf]
  -- only an OUT command has a body
  have hin : cmd.direction = urbDirIn → outBody = [] ∧ cmd.direction ≠ urbDirOut := by
    intro hin
    have hout : cmd.direction ≠ urbDirOut := by
      rw [hin]
      decide
    rw [outBodyOf, if_neg hout] at hbody
    exact ⟨(Except.ok.inj hbody).symm, hout⟩
  rw [dispatchSubmit_eq] at h
  rcases haction : actionOf device cmd with _ | ep | status
  · -- a control transfer returns what the setup packet asks for
    rw [haction] at h
    obtain ⟨hdata, hlen⟩ := executeControl_data h
    have hlength : cmd.direction = urbDirIn → res.data.length = res.actualLength.toNat := by
      intro hd
      rcases hlen with hlen | ⟨hnil, hlen⟩
      · exact hlen.symm
      · rw [hnil, hlen, (hin hd).1]
        rfl
    rw [← hdata]
    constructor
    · rintro ⟨-, hout⟩ ⟨hd, -, hne⟩
      exact hne (hout hd)
    · intro hnot
      refine ⟨hlength, fun hd => ?_⟩
      by_contra hne
      exact hnot ⟨hd, rfl, hne⟩
  · rw [haction] at h
    obtain rfl := Except.ok.inj h
    have hdir := isIn_endpoint (endpoint_of_bulk haction)
    obtain ⟨hisIn, hisOut⟩ := executeBulk_data cmd ep outBody
    refine iff_of_true ⟨fun hd => (hisIn (hdir.2 hd)).symm, fun hd => hisOut ?_⟩ (by simp)
    rw [← Bool.not_eq_true, hdir]
    exact fun hd' => (hin hd').2 hd
  · rw [haction] at h
    obtain rfl := Except.ok.inj h
    exact iff_of_true ⟨fun _ => rfl, fun _ => rfl⟩ (by simp)

/-! ### What is served for a CMD_SUBMIT -/

/-- A packet with a CMD_SUBMIT. -/
theorem ofRaw_eq_submit {raw : List UInt8} {cmd : CmdSubmit} :
    Command.ofRaw raw = some (.submit cmd) ↔
      urbHeaderLen ≤ raw.length ∧ wordAt raw 0 = UrbOp.cmdSubmit.toU32 ∧
        CmdSubmit.ofHeader raw = cmd := by
  constructor
  · intro h
    rw [Command.ofRaw, CmdSubmit.parse_eq] at h
    by_cases hshort : raw.length < urbHeaderLen
    · rw [if_pos hshort, CmdUnlink.parse_eq, if_pos hshort] at h
      cases h
    by_cases hop : wordAt raw 0 = UrbOp.cmdSubmit.toU32
    · rw [if_neg hshort, if_neg (not_not.2 hop)] at h
      cases h
      exact ⟨Nat.le_of_not_lt hshort, hop, rfl⟩
    · rw [if_neg hshort, if_pos hop] at h
      rcases hunlink : CmdUnlink.parse raw with err | u
      · rw [hunlink] at h
        cases h
      · rw [hunlink] at h
        cases h
  · rintro ⟨hlen, hop, rfl⟩
    exact ofRaw_submit hlen hop

/-- An envelope with a CMD_SUBMIT of the session. -/
theorem commandOf_eq_submit {importId : UInt32} {e : Envelope} {cmd : CmdSubmit} :
    commandOf importId e = some (.submit cmd) ↔
      e.channel = .usbip ∧ ¬ e.payload.length < 4 ∧ wordAt e.payload 0 = importId ∧
        Command.ofRaw (e.payload.drop 4) = some (.submit cmd) := by
  rw [commandOf, UsbipFrame.parse_eq]
  by_cases hshort : e.payload.length < 4
  · rw [if_pos hshort]
    cases e.channel <;> simp [hshort]
  · rw [if_neg hshort]
    by_cases hid : wordAt e.payload 0 = importId
    · cases e.channel <;> simp [hid, hshort]
    · cases e.channel <;> simp [hid]

theorem servedOf_eq_submit {device : FakeDevice} {raw : List UInt8} {cmd : CmdSubmit}
    {res : SubmitResult} :
    servedOf device raw = some (.submit cmd res) ↔
      Command.ofRaw raw = some (.submit cmd) ∧
        ∃ body, outBodyOf cmd raw = .ok body ∧ dispatchSubmit device cmd body = .ok res := by
  rw [servedOf, ofRaw_eq_submit]
  by_cases hshort : raw.length < urbHeaderLen
  · simp [hshort]
  by_cases hop : wordAt raw 0 = UrbOp.cmdSubmit.toU32
  · rw [if_neg hshort, if_pos hop, Option.bind_eq_some_iff]
    constructor
    · rintro ⟨body, hbody, hres⟩
      obtain ⟨res', hres', heq⟩ := Option.map_eq_some_iff.1 hres
      cases heq
      exact ⟨⟨Nat.le_of_not_lt hshort, hop, rfl⟩, body, toOption_eq_some.1 hbody,
        toOption_eq_some.1 hres'⟩
    · rintro ⟨⟨-, -, rfl⟩, body, hbody, hres⟩
      exact ⟨body, toOption_eq_some.2 hbody, Option.map_eq_some_iff.2
        ⟨res, toOption_eq_some.2 hres, rfl⟩⟩
  · rw [if_neg hshort, if_neg hop]
    refine iff_of_false ?_ fun h => hop h.1.2.1
    split <;> simp

/-- **What is served for an envelope with a CMD_SUBMIT.** -/
theorem serve_submit {importId : UInt32} {device : FakeDevice} {e : Envelope} {stats : PumpStats}
    {cmd : CmdSubmit} {res : SubmitResult} :
    (serve importId device e stats).1 = some (some (.submit cmd res)) ↔
      commandOf importId e = some (.submit cmd) ∧
        ∃ body, outBodyOf cmd (e.payload.drop 4) = .ok body ∧
          dispatchSubmit device cmd body = .ok res ∧
          ((Served.submit cmd res).envelope importId).Fits := by
  have hserve : (serve importId device e stats).1 = some (some (.submit cmd res)) ↔
      e.channel = .usbip ∧ replyToEnvelope importId device e = some (.submit cmd res) := by
    rw [serve]
    by_cases hchan : e.channel = .usbip
    · rw [if_pos hchan]
      rcases replyToEnvelope importId device e with _ | served <;> simp [hchan]
    · rw [if_neg hchan]
      simp [hchan]
  rw [hserve, commandOf_eq_submit, replyToEnvelope, UsbipFrame.parse_eq]
  by_cases hshort : e.payload.length < 4
  · simp [hshort, toOption_error]
  rw [if_neg hshort, toOption_ok, Option.bind_some]
  by_cases hid : wordAt e.payload 0 = importId
  · rw [if_pos hid, replyTo, Option.filter_eq_some_iff, servedOf_eq_submit, decide_eq_true_eq]
    constructor
    · rintro ⟨hchan, ⟨hraw, body, hbody, hres⟩, hfits⟩
      exact ⟨⟨hchan, hshort, hid, hraw⟩, body, hbody, hres, hfits⟩
    · rintro ⟨⟨hchan, -, -, hraw⟩, body, hbody, hres, hfits⟩
      exact ⟨hchan, ⟨hraw, body, hbody, hres⟩, hfits⟩
  · simp [hid]

/-- The law for what is written for an envelope. -/
def Served.Follows : Option Served → Prop
  | some (.submit cmd res) => FollowsDirection cmd.direction (Served.packet (.submit cmd res))
  | _ => True

/-- **When the reply to an envelope obeys the law**: it does not carry a CMD_SUBMIT, or not a whole
one, or its setup packet does not contradict its header. -/
def FakeDevice.Consistent (importId : UInt32) (device : FakeDevice) (e : Envelope) : Prop :=
  ∀ cmd, commandOf importId e = some (.submit cmd) →
    4 + urbHeaderLen + cmd.transferBufferLength.toNat ≤ e.payload.length →
      ¬ device.Contradicted cmd

/-- The transfer buffer of an OUT command is there. -/
theorem outBodyOf_eq_ok {cmd : CmdSubmit} {raw : List UInt8} (hout : cmd.direction = urbDirOut) :
    (∃ body, outBodyOf cmd raw = .ok body) ↔
      urbHeaderLen + cmd.transferBufferLength.toNat ≤ raw.length := by
  rw [outBodyOf, if_pos hout]
  simp only
  by_cases hshort : raw.length < urbHeaderLen + cmd.transferBufferLength.toNat
  · rw [if_pos hshort]
    refine iff_of_false ?_ (Nat.not_le_of_lt hshort)
    rintro ⟨body, h⟩
    cases h
  · rw [if_neg hshort, slice_eq_ok (by omega) (Nat.le_of_not_lt hshort)]
    exact iff_of_true ⟨_, rfl⟩ (Nat.le_of_not_lt hshort)

/-- A control transfer asks for less than 64 KiB. -/
theorem length_asked (device : FakeDevice) (setup : Setup) :
    (device.asked setup).length < 2 ^ 16 := by
  rw [FakeDevice.asked]
  simp only
  have htake (buf : List UInt8) (w : UInt16) : (buf.take w.toNat).length < 2 ^ 16 := by
    have hlt := w.toNat_lt
    rw [List.length_take]
    omega
  split_ifs
  · exact htake _ _
  · exact htake _ _
  · decide
  · decide

/-- **The law for an envelope of the fixture.** -/
theorem serve_follows_iff (importId : UInt32) (device : FakeDevice) (e : Envelope)
    (stats : PumpStats) :
    device.Consistent importId e ↔
      ∀ reply, (serve importId device e stats).1 = some reply → Served.Follows reply := by
  constructor
  · rintro h (_ | cmd | u) hserve
    · trivial
    · obtain ⟨hcmd, body, hbody, hres, -⟩ := serve_submit.1 hserve
      refine (followsDirection_served hbody hres).2 fun hcontra => h cmd hcmd ?_ hcontra
      have hlen := (outBodyOf_eq_ok hcontra.1).1 ⟨body, hbody⟩
      rw [List.length_drop] at hlen
      have hshort := (commandOf_eq_submit.1 hcmd).2.1
      omega
    · trivial
  · intro h cmd hcmd hlen hcontra
    obtain ⟨body, hbody⟩ : ∃ body, outBodyOf cmd (e.payload.drop 4) = .ok body := by
      rw [outBodyOf_eq_ok hcontra.1, List.length_drop]
      omega
    obtain ⟨res, hres⟩ := dispatchSubmit_eq_ok device cmd body
    have hdata : res.data = device.asked cmd.setup := by
      rw [dispatchSubmit_eq, hcontra.2.1] at hres
      exact (executeControl_data hres).1
    -- so small a reply is written
    have hfits : ((Served.submit cmd res).envelope importId).Fits := by
      have hasked := length_asked device cmd.setup
      rw [← hdata] at hasked
      rw [Envelope.Fits, Served.envelope, Served.packet, UsbipFrame.encode, List.length_append,
        List.length_append, length_toBe32, RetSubmit.length_encode, urbHeaderLen, maxPayload]
      omega
    exact (followsDirection_served hbody hres).1
      (h _ (serve_submit.2 ⟨hcmd, body, hbody, hres, hfits⟩)) hcontra

/-! ### The pump of the phone -/

namespace UsbIpHost

variable {τ : Type} (host : UsbIpHost) (env : Env usbSig τ)

/-- **The setup packet is believed against the header**: the transfer has the other direction, and
the API says that there are data.  More than `2 ^ 31 - 53` bytes of them cannot be sent
(`UsbIpHost.CanAnswer`), and after a stop nothing is. -/
def Contradicted (raw : List UInt8) (st : Finset Int32 × τ) : Prop :=
  let cmd := UsbIpFrame.CmdSubmit.ofHeader raw
  (env .stopped st.2).1 = false ∧ wordAt raw 0 = UrbOp.cmdSubmit.toU32 ∧
    ∃ isIn tr timeout buf, host.plan st.1 cmd = .transfer isIn tr timeout ∧
      wordAt raw 12 = (if isIn then urbDirOut else urbDirIn) ∧
      bufferOf isIn cmd (raw.drop urbHeaderLen) = some buf ∧
      ∃ n buf', (env (.transfer tr buf (size buf) timeout) (env .stopped st.2).2).1 = some (n, buf') ∧
        0 < n.toInt ∧ (isIn = true → n.toInt ≤ 2 ^ 31 - 53)

variable {host}

/-- The law for the reply with an outcome. -/
theorem followsDirection_replyOf {seqnum : Int32} {o : Outcome} {e : Envelope} {direction : UInt32}
    (h : host.replyOf seqnum o = some e) :
    FollowsDirection direction (e.payload.drop 4) ↔
      (direction = urbDirIn → o.data.length = o.actualLength.toUInt32.toNat) ∧
        (direction = urbDirOut → o.data = []) := by
  by_cases hfits : 52 + o.data.length < 2 ^ 31
  · rw [replyOf_of_le host seqnum hfits] at h
    obtain rfl := Option.some.inj h
    rw [envelopeOf, UsbipFrame.encode, List.drop_left' (length_toBe32 _), retSubmitPacket,
      followsDirection_iff]
  · rw [replyOf_of_not_le host seqnum hfits] at h
    cases h

/-- An empty reply obeys the law. -/
theorem follows_of_nil {seqnum status : Int32} {direction : UInt32} {e : Envelope}
    (h : host.replyOf seqnum ⟨status, 0, []⟩ = some e) :
    FollowsDirection direction (e.payload.drop 4) :=
  (followsDirection_replyOf h).2 ⟨fun _ => rfl, fun _ => rfl⟩

/-- The law for the reply to a transfer. -/
theorem follows_ofTransfer_iff {seqnum : Int32} {isIn : Bool} {direction : UInt32} {k : ℕ}
    (r : Option (Int32 × { b : List UInt8 // b.length = k })) :
    (∀ e, host.replyOf seqnum (.ofTransfer isIn r) = some e →
      FollowsDirection direction (e.payload.drop 4)) ↔
    ¬ (direction = (if isIn then urbDirOut else urbDirIn) ∧ ∃ n buf', r = some (n, buf') ∧
      0 < n.toInt ∧ (isIn = true → n.toInt ≤ 2 ^ 31 - 53)) := by
  rcases r with _ | ⟨n, buf⟩
  · exact iff_of_true (fun e he => follows_of_nil he) (by simp)
  have hsome {p : Int32 → Prop} :
      (∃ n' buf', some (n, buf) = some (n', buf') ∧ p n') ↔ p n := by
    constructor
    · rintro ⟨n', buf', heq, hp⟩
      cases heq
      exact hp
    · intro hp
      exact ⟨n, buf, rfl, hp⟩
  rw [hsome]
  by_cases hneg : n < 0
  · rw [Outcome.ofTransfer, if_pos hneg]
    rw [Int32.lt_iff_toInt_lt, Int32.toInt_zero] at hneg
    exact iff_of_true (fun e he => follows_of_nil he) (by omega)
  have hle : 0 ≤ n.toInt := by
    rw [Int32.lt_iff_toInt_lt, Int32.toInt_zero] at hneg
    omega
  have hlength : n.toUInt32.toNat = n.toInt.toNat :=
    Int32.toNat_toUInt32_of_le (Int32.not_lt.1 hneg)
  have hactual : (Outcome.ofTransfer isIn (some (n, buf))).actualLength = n := by
    rw [Outcome.ofTransfer, if_neg hneg]
  have hin : urbDirIn ≠ urbDirOut := by decide
  cases isIn with
  | false =>
      -- the header says IN, and what the API says it has sent counts as received
      have hreply := replyOf_of_le host seqnum (o := .ofTransfer false (some (n, buf)))
        (by rw [ofTransfer_out, List.length_nil]; omega)
      simp only [Bool.false_eq_true, if_false, false_implies, and_true]
      constructor
      · rintro h ⟨hdir, hpos⟩
        have hlen := ((followsDirection_replyOf hreply).1 (h _ hreply)).1 hdir
        rw [ofTransfer_out, hactual, hlength, List.length_nil] at hlen
        omega
      · intro h e he
        refine (followsDirection_replyOf he).2 ⟨fun hdir => ?_, fun _ => ofTransfer_out _⟩
        rw [ofTransfer_out, hactual, hlength, List.length_nil]
        by_contra hne
        exact h ⟨hdir, by omega⟩
  | true =>
      -- the header says OUT, and there are data
      have hdata := length_ofTransfer_in (n := n) buf
      rw [Int32.toNatClampNeg] at hdata
      simp only [if_true, forall_const]
      constructor
      · rintro h ⟨hdir, hpos, hfits⟩
        have hreply := replyOf_of_le host seqnum (o := .ofTransfer true (some (n, buf)))
          (by rw [hdata]; omega)
        have hnil := ((followsDirection_replyOf hreply).1 (h _ hreply)).2 hdir
        rw [hnil, List.length_nil] at hdata
        omega
      · intro h e he
        have hsize := (length_replyOf host he).2
        rw [hdata] at hsize
        refine (followsDirection_replyOf he).2 ⟨fun _ => ?_, fun hdir => ?_⟩
        · rw [hactual, hlength, hdata]
        · rw [← List.length_eq_zero_iff, hdata]
          by_contra hne
          exact h ⟨hdir, by omega, by omega⟩

/-- **The law for a command of the phone.** -/
theorem round_follows_iff (raw : List UInt8) (st : Finset Int32 × τ) :
    ¬ host.Contradicted env raw st ↔
      ∀ e, (host.round env raw st).1 = some e → wordAt raw 0 = UrbOp.cmdSubmit.toU32 →
        FollowsDirection (wordAt raw 12) (e.payload.drop 4) := by
  rw [Contradicted, round]
  by_cases hstop : (env .stopped st.2).1 = true
  · simp [hstop]
  rw [if_neg hstop, answer]
  simp only [Bool.not_eq_true] at hstop
  by_cases hsubmit : wordAt raw 0 = UrbOp.cmdSubmit.toU32
  · rw [if_pos hsubmit]
    simp only [hstop, hsubmit, true_and, forall_const]
    generalize UsbIpFrame.CmdSubmit.ofHeader raw = cmd
    generalize (env .stopped st.2).2 = t
    -- a status has no data; of a transfer it is decided by what the API returns
    rcases host.plan st.1 cmd with status | ⟨isIn, tr, timeout⟩
    · refine iff_of_true (by simp) fun e he => follows_of_nil he
    · rw [carryOut]
      rcases hbuf : bufferOf isIn cmd (raw.drop urbHeaderLen) with _ | buf
      · refine iff_of_true ?_ (by simp)
        rintro ⟨_, _, _, buf, hplan, -, hbuf', -⟩
        cases hplan
        rw [hbuf] at hbuf'
        cases hbuf'
      · refine Iff.trans (not_congr ?_) (follows_ofTransfer_iff _).symm
        constructor
        · rintro ⟨_, _, _, buf', hplan, hdir, hbuf', hapi⟩
          cases hplan
          obtain rfl := Option.some.inj (hbuf.symm.trans hbuf')
          exact ⟨hdir, hapi⟩
        · rintro ⟨hdir, hapi⟩
          exact ⟨isIn, tr, timeout, buf, rfl, hdir, hbuf, hapi⟩
  · rw [if_neg hsubmit]
    exact iff_of_true (fun h => hsubmit h.2.1) fun _ _ h => absurd h hsubmit

end UsbIpHost

/-! ### Whole runs -/

/-- **When the replies of a run obey the law.**  The pump of the fixture writes what it serves, and
the law holds for all of it exactly if no command that it gets to is contradicted by its setup
packet; likewise the pump of the phone, which may be stopped at any time. -/
theorem replies_follow_direction_iff {X : Sig} {τ τ' : Type} (fixture : Env X τ)
    (phone : Env usbSig τ') (device : FakeDevice) (importId : UInt32) (host : UsbIpHost) :
    (∀ s : Io τ, ∃ result s',
      let r := Transducer.run (serve importId device) (StreamCodec.frames Envelope.parse s.input) {}
      (∀ fuel, s.input.length < fuel →
        runPump fixture importId device fuel s = some (result, s')) ∧
      s'.output = s.output ++ r.outputs.flatMap (bytesOfReply importId) ∧
      ((∀ reply ∈ r.outputs, Served.Follows reply) ↔
        Transducer.Always (serve importId device) (fun e _ => device.Consistent importId e)
          (StreamCodec.frames Envelope.parse s.input) {})) ∧
    ∀ s : Io (Finset Int32 × τ'), ∃ result s',
      (∀ fuel, s.input.length < fuel → host.pumpUrbs phone fuel s = some (result, s')) ∧
      s'.output = s.output ++ (host.written phone s).flatMap Envelope.bytes ∧
      (List.Forall₂ (fun raw e => wordAt raw 0 = UrbOp.cmdSubmit.toU32 →
          FollowsDirection (wordAt raw 12) (e.payload.drop 4))
        ((commandsOf s.input).take (host.written phone s).length) (host.written phone s) ↔
      Transducer.Always (host.round phone) (fun raw st => ¬ host.Contradicted phone raw st)
        (commandsOf s.input) s.env) := by
  constructor
  · intro s
    obtain ⟨result, s', hrun, hout, -⟩ := runPump_run fixture importId device s
    refine ⟨result, s', hrun, hout, ?_⟩
    exact Transducer.forall_outputs_iff fun e _ stats => serve_follows_iff importId device e stats
  · intro s
    obtain ⟨result, s', hrun, hout⟩ := host.pumpUrbs_outputs phone s
    refine ⟨result, s', hrun, hout, ?_⟩
    exact Transducer.forall₂_take_iff fun raw _ st => UsbIpHost.round_follows_iff phone raw st

/-- GET_DESCRIPTOR(Device) as the command of an OUT transfer. -/
def outGetDescriptor : CmdSubmit where
  seqnum := 1
  devid := 0
  direction := urbDirOut
  ep := 0
  transferFlags := 0
  transferBufferLength := 0
  startFrame := 0
  numberOfPackets := 0
  interval := 0
  setup := .of 0x80 0x06 0x00 0x01 0x00 0x00 0x12 0x00

/-- The envelope with this command. -/
def outGetDescriptorEnvelope : Envelope :=
  ⟨.usbip, UsbipFrame.encode ⟨7, outGetDescriptor.encode⟩⟩

/-- The fixture answers it with the descriptor. -/
theorem outGetDescriptor_answered :
    ∃ result s' packet,
      (∀ fuel, outGetDescriptorEnvelope.bytes.length < fuel →
        runPump Env.none 7 ⟨List.replicate 18 1, [], []⟩ fuel
          ⟨outGetDescriptorEnvelope.bytes, [], [], ()⟩ = some (result, s')) ∧
      s'.output = (⟨.usbip, UsbipFrame.encode ⟨7, packet⟩⟩ : Envelope).bytes ∧
      ¬ FollowsDirection outGetDescriptor.direction packet := by
  generalize hdevice : (⟨List.replicate 18 1, [], []⟩ : FakeDevice) = device
  have hcmd : commandOf 7 outGetDescriptorEnvelope = some (.submit outGetDescriptor) := by decide
  have hlen : 4 + urbHeaderLen + outGetDescriptor.transferBufferLength.toNat ≤
      outGetDescriptorEnvelope.payload.length := by decide
  have hcontra : device.Contradicted outGetDescriptor := by
    rw [← hdevice]
    exact ⟨rfl, by decide, by decide⟩
  have hunlawful : ¬ device.Consistent 7 outGetDescriptorEnvelope :=
    fun h => h _ hcmd hlen hcontra
  -- the law fails for the command, so there is a reply, and it breaks the law
  rw [serve_follows_iff 7 device _ {}] at hunlawful
  simp only [not_forall] at hunlawful
  obtain ⟨reply, hserve, hfollows⟩ := hunlawful
  have hvalid : ∀ e ∈ [outGetDescriptorEnvelope], e.Fits := by
    rw [List.forall_mem_singleton]
    decide
  have hframes := Envelope.codec.frames_wire hvalid
  rw [List.flatMap_singleton] at hframes
  obtain ⟨result, s', hrun, hout, -⟩ := runPump_run Env.none 7 device
    ⟨outGetDescriptorEnvelope.bytes, [], [], ()⟩
  rcases hstep : serve 7 device outGetDescriptorEnvelope {} with ⟨r, stats⟩
  rw [hstep] at hserve
  obtain rfl : r = some reply := hserve
  rw [hframes, Transducer.run_cons_some hstep, Transducer.run_nil] at hout
  obtain ⟨cmd, res, rfl⟩ : ∃ cmd res, reply = some (.submit cmd res) := by
    rcases reply with _ | cmd | u
    · exact absurd trivial hfollows
    · exact ⟨_, _, rfl⟩
    · exact absurd trivial hfollows
  have hsame : cmd = outGetDescriptor := by
    have heq := (serve_submit.1 (congrArg Prod.fst hstep)).1.symm.trans hcmd
    injection heq with heq
    injection heq
  rw [hsame] at hfollows
  refine ⟨result, s', Served.packet (.submit outGetDescriptor res), hrun, ?_, hfollows⟩
  rw [hout, hsame, List.nil_append, List.flatMap_singleton]
  rfl

end Zerowire

/-
**The endpoint that a command names** (`urb_pump.rs`, `UsbIpHost.kt`).

A CMD_SUBMIT names its endpoint in a word of 32 bits.  Both pumps look at all of them to see whether
it is endpoint 0, and then keep the lower four and put the direction above them to make an address,
for which they look in their table.  A number from 16 on is not refused: it is taken for another
endpoint.

Main definitions:

* `Zerowire.FakeEndpoint.Named`, `Zerowire.UsbEndpoint.Named` — an endpoint is the one that a
  command names;
* `Zerowire.FakeDevice.ReachesNamed`, `Zerowire.UsbIpHost.ReachesNamed` — a command reaches no
  other.

Main results:

* `Zerowire.addressOf_number`, `Zerowire.addressOf_isIn` — what is left of a number in the address;
* `Zerowire.FakeDevice.reachesNamed_iff`, `Zerowire.UsbIpHost.reachesNamed_iff` — the two pumps;
* `Zerowire.reaches_named_iff` — **when a command reaches only the endpoint it names**.
-/

import Zerowire.PumpsCompared

set_option relaxedAutoImplicit false
set_option autoImplicit false

namespace Zerowire

open Bytes Program Jvm UsbIpFrame

/-! ### The address of a command -/

theorem byte_or_and (a b c : UInt8) : (a ||| b) &&& c = a &&& c ||| b &&& c := by
  apply UInt8.toNat_inj.1
  simp only [UInt8.toNat_and, UInt8.toNat_or, Nat.and_or_distrib_right]

/-- **Of the number the lower four bits are left.** -/
theorem addressOf_number (cmd : CmdSubmit) : (addressOf cmd &&& 0x0F).toNat =
    cmd.ep.toNat % 16 := by
  have hlow : (addressOf cmd &&& 0x0F) = cmd.ep.toUInt8 &&& 0x0F := by
    rw [addressOf, byte_or_and, UInt8.and_assoc, UInt8.and_self]
    split_ifs
    · exact UInt8.zero_or
    · exact UInt8.zero_or
  have hmask : (0x0F : UInt8).toNat = 2 ^ 4 - 1 := rfl
  rw [hlow, UInt8.toNat_and, UInt32.toNat_toUInt8, hmask, Nat.and_two_pow_sub_one_eq_mod]
  omega

/-- The direction is that of the command. -/
theorem addressOf_isIn (cmd : CmdSubmit) : addressOf cmd &&& 0x80 ≠ 0 ↔
    cmd.direction = urbDirIn := by
  have hhigh : addressOf cmd &&& 0x80 =
      (if cmd.direction = urbDirIn then (0x80 : UInt8) else 0) := by
    have hzero : (0x0F &&& 0x80 : UInt8) = 0 := rfl
    rw [addressOf, byte_or_and, UInt8.and_assoc, hzero, UInt8.and_zero, UInt8.or_zero]
    split_ifs
    · rfl
    · rfl
  rw [hhigh]
  split_ifs with hin
  · exact iff_of_true (by decide) hin
  · exact iff_of_false (by decide) hin

/-! ### The fixture -/

/-- **The endpoint is the one that the command names**: its number is the whole word, and its
direction that of the command. -/
def FakeEndpoint.Named (e : FakeEndpoint) (cmd : CmdSubmit) : Prop :=
  (e.address &&& 0x0F).toNat = cmd.ep.toNat ∧ (e.isIn = true ↔ cmd.direction = urbDirIn)

/-- The part of `dispatch_submit` behind the look into the table. -/
def transferThrough (device : FakeDevice) (cmd : CmdSubmit) (outBody : List UInt8)
    (e : FakeEndpoint) :
    Except (Fault PumpError) SubmitResult :=
  match e.xferType with
  | .bulk | .interrupt => .ok (executeBulk cmd e outBody)
  | .isochronous => .ok (.empty eOpNotSupp)
  | .control => executeControl device cmd outBody

/-- **The command reaches only the endpoint it names**: it is answered `-ENODEV` without a transfer,
or an endpoint of the table is the one named and the command goes through it. -/
def FakeDevice.ReachesNamed (device : FakeDevice) (cmd : CmdSubmit) (outBody : List UInt8) : Prop :=
  dispatchSubmit device cmd outBody = .ok (.empty eNoDev) ∨
    ∃ e ∈ device.endpoints, e.Named cmd ∧
      dispatchSubmit device cmd outBody = transferThrough device cmd outBody e

/-- An endpoint with the address of the command is named by it if the number fits into four bits. -/
theorem FakeEndpoint.named_of_address {e : FakeEndpoint} {cmd : CmdSubmit}
    (haddr : e.address = addressOf cmd) (hep : cmd.ep.toNat < 16) : e.Named cmd := by
  constructor
  · rw [haddr, addressOf_number, Nat.mod_eq_of_lt hep]
  · rw [FakeEndpoint.isIn, haddr, decide_eq_true_iff]
    exact addressOf_isIn cmd

/-- No endpoint has a number from 16 on. -/
theorem FakeEndpoint.Named.lt {e : FakeEndpoint} {cmd : CmdSubmit} (h : e.Named cmd) :
    cmd.ep.toNat < 16 := by
  rw [← h.1, UInt8.toNat_and]
  exact Nat.lt_of_le_of_lt Nat.and_le_right (by decide)

/-- A control transfer works, or is not supported. -/
theorem executeControl_status {device : FakeDevice} {cmd : CmdSubmit} {outBody : List UInt8}
    {res : SubmitResult} (h : executeControl device cmd outBody = .ok res) :
    res.status = 0 ∨ res.status = eOpNotSupp := by
  have hdescriptor {buf : List UInt8} {wLength : UInt16}
      (h : executeControl.descriptor buf wLength = .ok res) : res.status = 0 := by
    rw [executeControl.descriptor, slice_eq_ok (by omega) (Nat.min_le_right _ _), ok_bind] at h
    cases h
    rfl
  have hindex (i : ℕ) (hi : i < 8) :
      (index cmd.setup.1 i : Except (Fault PumpError) UInt8) = .ok (cmd.setup.1.getD i 0) :=
    index_eq_getD (by rw [cmd.setup.2]; exact hi)
  simp (disch := decide) only [executeControl, hindex, ok_bind] at h
  split_ifs at h
  · exact .inl (hdescriptor h)
  · exact .inl (hdescriptor h)
  · cases h
    exact .inr rfl
  · cases h
    exact .inl rfl
  · cases h
    exact .inl rfl
  · cases h
    exact .inl rfl

/-- To go through an endpoint is not to be answered `-ENODEV`. -/
theorem transferThrough_ne (device : FakeDevice) (cmd : CmdSubmit) (outBody : List UInt8)
    (e : FakeEndpoint) : transferThrough device cmd outBody e ≠ .ok (.empty eNoDev) := by
  have hbulk : (.ok (executeBulk cmd e outBody) : Except (Fault PumpError) _) ≠
      .ok (.empty eNoDev) := by
    have hstatus : (executeBulk cmd e outBody).status = 0 := by
      rw [executeBulk]
      split_ifs
      · rfl
      · rfl
    intro h
    rw [Except.ok.inj h] at hstatus
    exact absurd hstatus (by decide)
  rw [transferThrough]
  cases e.xferType with
  | bulk => exact hbulk
  | interrupt => exact hbulk
  | isochronous =>
      intro h
      exact absurd (congrArg SubmitResult.status (Except.ok.inj h)) (by decide)
  | control =>
      intro h
      exact absurd (executeControl_status h) (by decide)

/-- **The pump of the desktop.** -/
theorem FakeDevice.reachesNamed_iff (device : FakeDevice) {cmd : CmdSubmit} (hep : cmd.ep ≠ 0)
    (outBody : List UInt8) :
    device.ReachesNamed cmd outBody ↔
      cmd.ep.toNat < 16 ∨ ∀ e ∈ device.endpoints, e.address ≠ addressOf cmd := by
  have hcontrol : ¬ cmd.isControl = true := by simpa [CmdSubmit.isControl] using hep
  rcases hfound : device.endpoint (addressOf cmd) with _ | e
  · have hdispatch : dispatchSubmit device cmd outBody = .ok (.empty eNoDev) := by
      rw [dispatchSubmit, if_neg hcontrol]
      rw [addressOf] at hfound
      simp only [hfound]
    refine iff_of_true (.inl hdispatch) (.inr fun e he haddr => ?_)
    have hnone := List.find?_eq_none.1 hfound e he
    simp [haddr] at hnone
  · have hdispatch : dispatchSubmit device cmd outBody = transferThrough device cmd outBody e := by
      rw [dispatchSubmit, if_neg hcontrol]
      rw [addressOf] at hfound
      simp only [hfound]
      rfl
    have hmem : e ∈ device.endpoints := List.mem_of_find?_eq_some hfound
    have haddr : e.address = addressOf cmd := by simpa using List.find?_some hfound
    constructor
    · rintro (hnodev | ⟨e', -, hnamed, -⟩)
      · exact absurd (hdispatch.symm.trans hnodev) (transferThrough_ne device cmd outBody e)
      · exact .inl hnamed.lt
    · rintro (hlt | habsent)
      · exact .inr ⟨e, hmem, FakeEndpoint.named_of_address haddr hlt, hdispatch⟩
      · exact absurd haddr (habsent e hmem)

/-! ### The phone -/

/-- **The endpoint is the one that the command names.** -/
def UsbEndpoint.Named (ep : UsbEndpoint) (cmd : CmdSubmit) : Prop :=
  (ep.address &&& 0x0F).toUInt32 = cmd.ep ∧ (ep.address &&& 0x80 ≠ 0 ↔ cmd.direction = urbDirIn)

/-- An address, masked. -/
theorem ofNat_and (a mask : UInt8) :
    Int32.ofNat a.toNat &&& Int32.ofNat mask.toNat = Int32.ofNat (a &&& mask).toNat := by
  rw [← unsigned_eq a, unsigned_and]

theorem toNat_toUInt32_ofNat (a : UInt8) : (Int32.ofNat a.toNat).toUInt32.toNat = a.toNat := by
  have ha := a.toNat_lt
  rw [Int32.toUInt32_ofNat', UInt32.toNat_ofNat', Nat.mod_eq_of_lt (by omega)]

/-- An endpoint with the address of the command is named by it if the number fits into four bits. -/
theorem UsbEndpoint.named_of_address {ep : UsbEndpoint} {cmd : CmdSubmit}
    (haddr : ep.address = Int32.ofNat (addressOf cmd).toNat) (hep : cmd.ep.toNat < 16) :
    ep.Named cmd := by
  have hnumber : ep.address &&& 0x0F = Int32.ofNat (addressOf cmd &&& 0x0F).toNat := by
    rw [haddr]
    exact ofNat_and _ 0x0F
  have hdir : ep.address &&& 0x80 = Int32.ofNat (addressOf cmd &&& 0x80).toNat := by
    rw [haddr]
    exact ofNat_and _ 0x80
  constructor
  · apply UInt32.toNat_inj.1
    rw [hnumber, toNat_toUInt32_ofNat, addressOf_number, Nat.mod_eq_of_lt hep]
  · rw [hdir, ← addressOf_isIn]
    exact not_congr (ofNat_toNat_inj (b := 0))

/-- No endpoint has a number from 16 on. -/
theorem UsbEndpoint.Named.lt {ep : UsbEndpoint} {cmd : CmdSubmit} (h : ep.Named cmd) :
    cmd.ep.toNat < 16 := by
  have hmask : (0x0F : Int32).toUInt32.toNat = 15 := rfl
  rw [← h.1, Int32.toUInt32_and, UInt32.toNat_and, hmask]
  exact Nat.lt_of_le_of_lt Nat.and_le_right (by decide)

namespace UsbIpHost

/-- The transfers among some calls. -/
def transfersOf (calls : List (Call usbSig)) : List UsbTransfer :=
  calls.filterMap fun c =>
    match c.1 with
    | .transfer transfer _ _ _ => some transfer
    | .claimInterface _ _ | .releaseInterface _ | .stopped => none

variable {τ : Type}

/-- What comes of a CMD_SUBMIT, with the calls that are made for it. -/
def submitted (host : UsbIpHost) (env : Env usbSig τ) (header : List UInt8)
    (s : Io (Finset Int32 × List (Call usbSig) × τ)) :
    Except (Throwable PumpException) Unit × Io (Finset Int32 × List (Call usbSig) × τ) :=
  exec (logged env).withRef (host.handleSubmit header) s

/-- The bytes of a RET_SUBMIT that says nothing but a status. -/
def statusReply (host : UsbIpHost) (seqnum status : Int32) : List UInt8 :=
  (host.envelopeOf (retSubmitPacket seqnum ⟨status, 0, []⟩)).bytes

/-- The command is answered with a status, and nothing is transferred. -/
def AnsweredWith (host : UsbIpHost) (seqnum status : Int32) (output : List UInt8)
    (r : Except (Throwable PumpException) Unit × Io (Finset Int32 × List (Call usbSig) × τ)) :
    Prop :=
  r.1 = .ok () ∧ r.2.output = output ++ host.statusReply seqnum status ∧
  transfersOf r.2.env.2.1 = []

/-- **The command reaches only the endpoint it names**: it is answered `-ENODEV` without a transfer,
or an endpoint of the device is the one named and nothing is transferred through another. -/
def ReachesNamed (host : UsbIpHost) (env : Env usbSig τ) (ifaces : List UsbInterface)
    (header : List UInt8) (s : Io (Finset Int32 × List (Call usbSig) × τ)) : Prop :=
  let cmd := CmdSubmit.ofHeader header
  let r := host.submitted env header s
  host.AnsweredWith cmd.seqnum.toInt32 (-19) s.output r ∨
    ∃ ep ∈ ifaces.flatMap UsbInterface.endpoints, ep.Named cmd ∧
      ∀ transfer ∈ transfersOf r.2.env.2.1, transfer = .bulkTransfer ep

/-- The status can be read off the bytes. -/
theorem statusReply_inj {host : UsbIpHost} {seqnum a b : Int32}
    (h : host.statusReply seqnum a = host.statusReply seqnum b) : a = b := by
  have hlen (status : Int32) :
      (host.envelopeOf (retSubmitPacket seqnum ⟨status, 0, []⟩)).payload.length < 2 ^ 32 := by
    have hpayload : (host.envelopeOf (retSubmitPacket seqnum ⟨status, 0, []⟩)).payload.length = 52 := by
      rw [envelopeOf, UsbipFrame.encode, retSubmitPacket, List.append_nil, List.length_append,
        RetSubmit.length_encode, length_toBe32]
      rfl
    omega
  obtain ⟨henvelope, -⟩ := Envelope.bytes_append_inj (hlen a) (hlen b)
    (congrArg (· ++ ([] : List UInt8)) h)
  have hpacket : retSubmitPacket seqnum ⟨a, 0, []⟩ = retSubmitPacket seqnum ⟨b, 0, []⟩ :=
    List.append_cancel_left (congrArg Envelope.payload henvelope)
  rw [retSubmitPacket, retSubmitPacket] at hpacket
  have ha := RetSubmit.parse_encode ⟨seqnum.toUInt32, 0, 0, 0, a, 0, 0, 0, 0⟩ []
  have hb := RetSubmit.parse_encode ⟨seqnum.toUInt32, 0, 0, 0, b, 0, 0, 0, 0⟩ []
  exact congrArg RetSubmit.status (Except.ok.inj (ha.symm.trans ((congrArg _ hpacket).trans hb)))

section Plan

variable (host : UsbIpHost) {cancelled : Finset Int32} {cmd : UsbIpFrame.CmdSubmit}

/-- A command for an endpoint that is not in the table. -/
theorem plan_of_none (hnot : cmd.seqnum ∉ cancelled) (hcontrol : ¬ cmd.isControl = true)
    (h : host.endpointsByAddr (epAddress cmd.direction cmd.ep) = none) :
    host.plan cancelled cmd = .status (-19) := by
  simp only [plan, hnot, hcontrol, h, Bool.false_eq_true, if_false]

/-- A command for an endpoint of the table. -/
theorem plan_of_some (hnot : cmd.seqnum ∉ cancelled) (hcontrol : ¬ cmd.isControl = true)
    {ep : UsbEndpoint} (h : host.endpointsByAddr (epAddress cmd.direction cmd.ep) = some ep) :
    (∃ isIn timeout, host.plan cancelled cmd = .transfer isIn (.bulkTransfer ep) timeout) ∨
      host.plan cancelled cmd = .status (-95) := by
  simp only [plan, hnot, hcontrol, h, Bool.false_eq_true, if_false]
  split_ifs
  · exact .inl ⟨_, _, rfl⟩
  · exact .inr rfl

end Plan

section Submitted

variable (host : UsbIpHost) (env : Env usbSig τ) {header : List UInt8}
  {s : Io (Finset Int32 × List (Call usbSig) × τ)}

/-- Sending a reply asks nothing of the surroundings. -/
theorem sent_env {σ : Type} (reply : Option Envelope)
    (s : Io σ) : (sent reply s).2.env = s.env := by
  cases reply with
  | none => rfl
  | some e => rfl

/-- **What comes of a CMD_SUBMIT** whose body has arrived. -/
theorem submitted_eq (h : header.length = urbHeaderLen)
    (hcmd : wordAt header 0 = UrbOp.cmdSubmit.toU32)
    (hbody : outBodySize (UsbIpFrame.CmdSubmit.ofHeader header) ≤ s.input.length) {p : Plan}
    (hplan : host.plan s.env.1 (UsbIpFrame.CmdSubmit.ofHeader header) = p) :
    ∃ (outBody rest : List UInt8) (chunks : List ℕ), host.submitted env header s =
      sent ((carryOut (logged env) (UsbIpFrame.CmdSubmit.ofHeader header) outBody s.env.2 p).1.bind
          (host.replyOf (UsbIpFrame.CmdSubmit.ofHeader header).seqnum))
        ⟨rest, chunks, s.output, (s.env.1.erase (UsbIpFrame.CmdSubmit.ofHeader header).seqnum,
          (carryOut (logged env) (UsbIpFrame.CmdSubmit.ofHeader header) outBody s.env.2 p).2)⟩ := by
  obtain ⟨chunks, hexec⟩ := exec_handleSubmit host (logged env) s h hcmd
  refine ⟨s.input.take (outBodySize (UsbIpFrame.CmdSubmit.ofHeader header)),
    s.input.drop (outBodySize (UsbIpFrame.CmdSubmit.ofHeader header)), chunks, ?_⟩
  rw [submitted, hexec, ← hplan]
  exact if_pos hbody

/-- A command that comes down to a status is answered with it. -/
theorem answeredWith_of_status (h : header.length = urbHeaderLen)
    (hcmd : wordAt header 0 = UrbOp.cmdSubmit.toU32)
    (hbody : outBodySize (UsbIpFrame.CmdSubmit.ofHeader header) ≤ s.input.length)
    (hfresh : s.env.2.1 = []) {status : Int32}
    (hplan : host.plan s.env.1 (UsbIpFrame.CmdSubmit.ofHeader header) = .status status) :
    host.AnsweredWith (UsbIpFrame.CmdSubmit.ofHeader header).seqnum status s.output
      (host.submitted env header s) := by
  obtain ⟨outBody, rest, chunks, hsubmitted⟩ := host.submitted_eq env h hcmd hbody hplan
  generalize (UsbIpFrame.CmdSubmit.ofHeader header).seqnum = seqnum at hsubmitted ⊢
  have hreply : host.replyOf seqnum ⟨status, 0, []⟩ =
      some (host.envelopeOf (retSubmitPacket seqnum ⟨status, 0, []⟩)) :=
    replyOf_of_le host _ (by rw [List.length_nil]; decide)
  rw [carryOut, Option.bind_some, hreply] at hsubmitted
  rw [AnsweredWith, hsubmitted, statusReply]
  refine ⟨rfl, rfl, ?_⟩
  rw [sent_env, hfresh]
  rfl

/-- A command that comes down to a transfer makes no other, and is not answered without it. -/
theorem transfersOf_of_transfer (h : header.length = urbHeaderLen)
    (hcmd : wordAt header 0 = UrbOp.cmdSubmit.toU32)
    (hbody : outBodySize (UsbIpFrame.CmdSubmit.ofHeader header) ≤ s.input.length)
    (hfresh : s.env.2.1 = []) {isIn : Bool} {tr : UsbTransfer} {timeout : Int32}
    (hplan : host.plan s.env.1 (UsbIpFrame.CmdSubmit.ofHeader header) = .transfer isIn tr timeout) :
    (∀ transfer ∈ transfersOf (host.submitted env header s).2.env.2.1, transfer = tr) ∧
      ∀ seqnum status, ¬ host.AnsweredWith seqnum status s.output (host.submitted env header s) := by
  obtain ⟨outBody, rest, chunks, hsubmitted⟩ := host.submitted_eq env h hcmd hbody hplan
  rw [carryOut] at hsubmitted
  generalize bufferOf isIn (UsbIpFrame.CmdSubmit.ofHeader header) outBody = created at hsubmitted
  rcases created with _ | buf
  · -- the array cannot be created
    have hnone : transfersOf (host.submitted env header s).2.env.2.1 = [] := by
      rw [hsubmitted, sent_env, hfresh]
      rfl
    have herror : (host.submitted env header s).1 = .error .negativeArraySize := by
      rw [hsubmitted]
      rfl
    refine ⟨by simp [hnone], fun seqnum status hanswered => ?_⟩
    rw [AnsweredWith, herror] at hanswered
    exact absurd hanswered.1 (by simp)
  · have hone : transfersOf (host.submitted env header s).2.env.2.1 = [tr] := by
      rw [hsubmitted, sent_env]
      simp only
      rw [logged, Env.traced_keep env (o := .transfer tr buf (size buf) timeout) rfl, hfresh]
      rfl
    refine ⟨by simp [hone], fun seqnum status hanswered => ?_⟩
    exact absurd (hone.symm.trans hanswered.2.2) (by simp)

end Submitted

/-- **The pump of the phone.** -/
theorem reachesNamed_iff (env : Env usbSig τ) {ifaces : List UsbInterface} {importId : Int32}
    {forceClaim : Bool} {host : UsbIpHost} {s₀ s₁ : Io τ}
    (hinit : exec env (init ifaces importId forceClaim : Act usbSig Empty UsbIpHost) s₀ =
      (.ok host, s₁))
    {header : List UInt8} (h : header.length = urbHeaderLen)
    (hcmd : wordAt header 0 = UrbOp.cmdSubmit.toU32) (hep : (CmdSubmit.ofHeader header).ep ≠ 0)
    {s : Io (Finset Int32 × List (Call usbSig) × τ)}
    (hbody : outBodySize (UsbIpFrame.CmdSubmit.ofHeader header) ≤ s.input.length)
    (hfresh : s.env.2.1 = []) :
    let cmd := CmdSubmit.ofHeader header
    let eps := ifaces.flatMap UsbInterface.endpoints
    host.ReachesNamed env ifaces header s ↔
      (cmd.seqnum.toInt32 ∉ s.env.1 ∧
        (cmd.ep.toNat < 16 ∨ ∀ ep ∈ eps, ep.address ≠ Int32.ofNat (addressOf cmd).toNat)) ∨
      (cmd.seqnum.toInt32 ∈ s.env.1 ∧ ∃ ep ∈ eps, ep.Named cmd) := by
  intro cmd eps
  -- a status other than `-ENODEV` is not taken for it
  have hother {status : Int32} (hne : status ≠ -19)
      (hplan : host.plan s.env.1 cmd.signed = .status status) :
      ¬ host.AnsweredWith cmd.seqnum.toInt32 (-19) s.output (host.submitted env header s) := by
    intro hanswered
    have hstatus := host.answeredWith_of_status env h hcmd hbody hfresh hplan
    exact hne (statusReply_inj (List.append_cancel_left (hstatus.2.1.symm.trans hanswered.2.1)))
  by_cases hmem : cmd.seqnum.toInt32 ∈ s.env.1
  · -- the command has been unlinked before
    have hplan : host.plan s.env.1 cmd.signed = .status (-104) := if_pos hmem
    have hnone := (host.answeredWith_of_status env h hcmd hbody hfresh hplan).2.2
    rw [ReachesNamed]
    constructor
    · rintro (hanswered | ⟨ep, hmemEp, hnamed, -⟩)
      · exact absurd hanswered (hother (by decide) hplan)
      · exact .inr ⟨hmem, ep, hmemEp, hnamed⟩
    · rintro (⟨hnot, -⟩ | ⟨-, ep, hmemEp, hnamed⟩)
      · exact absurd hmem hnot
      · exact .inr ⟨ep, hmemEp, hnamed, by simp [hnone]⟩
  -- the tables of the phone hold the last endpoint with an address
  obtain ⟨htable, -⟩ := tables_of_init env hinit (Int32.ofNat (addressOf cmd).toNat)
  rw [lastEndpoint] at htable
  have hcontrol : ¬ cmd.signed.isControl = true := by
    have hzero : cmd.signed.isControl = cmd.isControl := decide_eq_decide.2 toInt32_eq_iff
    rw [hzero]
    simpa [CmdSubmit.isControl] using hep
  have hnot : cmd.signed.seqnum ∉ s.env.1 := hmem
  have hentry : host.endpointsByAddr (epAddress cmd.signed.direction cmd.signed.ep) =
      eps.reverse.find? fun ep => ep.address = Int32.ofNat (addressOf cmd).toNat := by
    rw [epAddress_signed]
    exact htable
  rcases hfound : eps.reverse.find? (fun ep => ep.address = Int32.ofNat (addressOf cmd).toNat)
    with _ | ep
  · rw [hfound] at hentry
    have hplan := host.plan_of_none hnot hcontrol hentry
    have hanswered := host.answeredWith_of_status env h hcmd hbody hfresh hplan
    refine iff_of_true (.inl hanswered) (.inl ⟨hmem, .inr fun ep hmemEp => ?_⟩)
    simpa using List.find?_eq_none.1 hfound ep (List.mem_reverse.2 hmemEp)
  · rw [hfound] at hentry
    have hmemEp : ep ∈ eps := List.mem_reverse.1 (List.mem_of_find?_eq_some hfound)
    have haddr : ep.address =
        Int32.ofNat (addressOf cmd).toNat := by simpa using List.find?_some hfound
    -- nothing goes through another endpoint, and the answer is not `-ENODEV`
    have hthrough : (∀ transfer ∈ transfersOf (host.submitted env header s).2.env.2.1,
        transfer = .bulkTransfer ep) ∧
        ¬ host.AnsweredWith cmd.seqnum.toInt32 (-19) s.output (host.submitted env header s) := by
      rcases host.plan_of_some hnot hcontrol hentry with ⟨isIn, timeout, hplan⟩ | hplan
      · have htransfer := host.transfersOf_of_transfer env h hcmd hbody hfresh hplan
        exact ⟨htransfer.1, htransfer.2 _ _⟩
      · have hstatus := host.answeredWith_of_status env h hcmd hbody hfresh hplan
        exact ⟨by simp [hstatus.2.2], hother (by decide) hplan⟩
    constructor
    · rintro (hanswered | ⟨ep', -, hnamed, -⟩)
      · exact absurd hanswered hthrough.2
      · exact .inl ⟨hmem, .inl hnamed.lt⟩
    · rintro (⟨-, hlt | habsent⟩ | ⟨hmem', -⟩)
      · exact .inr ⟨ep, hmemEp, UsbEndpoint.named_of_address haddr hlt, hthrough.1⟩
      · exact absurd haddr (habsent ep hmemEp)
      · exact absurd hmem' hmem

end UsbIpHost

/-! ### Both pumps -/

/-- **When a command reaches only the endpoint it names**: its number fits into four bits, or no
endpoint of the table has the address that is left of it.  On the phone a command that has been
unlinked before is not dispatched at all, and its answer is another one. -/
theorem reaches_named_iff {header : List UInt8} (h : header.length = urbHeaderLen)
    (hcmd : wordAt header 0 = UrbOp.cmdSubmit.toU32) (hep : (CmdSubmit.ofHeader header).ep ≠ 0)
    (device : FakeDevice) (outBody : List UInt8) {τ : Type} (env : Env usbSig τ)
    {ifaces : List UsbInterface} {importId : Int32} {forceClaim : Bool} {host : UsbIpHost}
    {s₀ s₁ : Io τ}
    (hinit : exec env (UsbIpHost.init ifaces importId forceClaim : Act usbSig Empty UsbIpHost) s₀ =
      (.ok host, s₁)) {s : Io (Finset Int32 × List (Call usbSig) × τ)}
    (hbody : outBodySize (UsbIpFrame.CmdSubmit.ofHeader header) ≤ s.input.length)
    (hfresh : s.env.2.1 = []) :
    let cmd := CmdSubmit.ofHeader header
    let eps := ifaces.flatMap UsbInterface.endpoints
    (device.ReachesNamed cmd outBody ↔
      cmd.ep.toNat < 16 ∨ ∀ e ∈ device.endpoints, e.address ≠ addressOf cmd) ∧
    (host.ReachesNamed env ifaces header s ↔
      (cmd.seqnum.toInt32 ∉ s.env.1 ∧
        (cmd.ep.toNat < 16 ∨ ∀ ep ∈ eps, ep.address ≠ Int32.ofNat (addressOf cmd).toNat)) ∨
      (cmd.seqnum.toInt32 ∈ s.env.1 ∧ ∃ ep ∈ eps, ep.Named cmd)) :=
  ⟨device.reachesNamed_iff hep outBody, UsbIpHost.reachesNamed_iff env hinit h hcmd hep hbody hfresh⟩

/-- Endpoint 1, which there is. -/
theorem reaches_named_readTwo :
    (FakeDevice.mk [] [] [⟨0x81, .bulk⟩]).ReachesNamed (CmdSubmit.ofHeader readTwo.encode) [] ∧
      UsbIpHost.bulkInHost.ReachesNamed UsbIpHost.fullTransfers [⟨0, [UsbIpHost.bulkIn]⟩]
        readTwo.encode ⟨[], [], [], (∅, [], ())⟩ := by
  have hinit : exec UsbIpHost.fullTransfers (UsbIpHost.init [⟨0, [UsbIpHost.bulkIn]⟩] 7 true :
      Act usbSig Empty UsbIpHost) ⟨[], [], [], ()⟩ = (.ok UsbIpHost.bulkInHost, ⟨[], [], [], ()⟩) :=
    rfl
  have hlen : readTwo.encode.length = urbHeaderLen := by decide
  obtain ⟨hdesktop, hphone⟩ :=
    reaches_named_iff hlen (by decide) (by decide) ⟨[], [], [⟨0x81, .bulk⟩]⟩ []
    UsbIpHost.fullTransfers hinit (s := ⟨[], [], [], (∅, [], ())⟩) (by decide) rfl
  exact ⟨hdesktop.2 (.inl (by decide)),
    hphone.2 (.inl ⟨Finset.notMem_empty _, .inl (by decide)⟩)⟩

/-- The same command for endpoint 17, which no device has. -/
def readTwoFrom17 : CmdSubmit := { readTwo with ep := 17 }

/-- It is taken for endpoint 1. -/
theorem readTwoFrom17_misdirected :
    ¬ (FakeDevice.mk [] [] [⟨0x81, .bulk⟩]).ReachesNamed (CmdSubmit.ofHeader readTwoFrom17.encode)
    [] ∧
      ¬ UsbIpHost.bulkInHost.ReachesNamed UsbIpHost.fullTransfers [⟨0, [UsbIpHost.bulkIn]⟩]
        readTwoFrom17.encode ⟨[], [], [], (∅, [], ())⟩ := by
  have hinit : exec UsbIpHost.fullTransfers (UsbIpHost.init [⟨0, [UsbIpHost.bulkIn]⟩] 7 true :
      Act usbSig Empty UsbIpHost) ⟨[], [], [], ()⟩ = (.ok UsbIpHost.bulkInHost, ⟨[], [], [], ()⟩) :=
    rfl
  constructor
  · rw [FakeDevice.reachesNamed_iff _ (by decide)]
    decide
  · have hlen : readTwoFrom17.encode.length = urbHeaderLen := by decide
    intro hreaches
    have hphone := UsbIpHost.reachesNamed_iff UsbIpHost.fullTransfers hinit hlen (by decide) (by decide)
      (s := ⟨[], [], [], (∅, [], ())⟩) (by decide) rfl
    rcases hphone.1 hreaches with ⟨-, hlt | habsent⟩ | ⟨hmem, -⟩
    · exact absurd hlt (by decide)
    · exact habsent UsbIpHost.bulkIn (by simp) (by decide)
    · exact absurd hmem (Finset.notMem_empty _)

end Zerowire

/-
**What the URB driver makes of the replies** (`desktop-linux/src/urb_driver.rs`, `run_script`).

The driver sends its script and reads one envelope for each command.  A reply has to be a packet of
the right op for the session's import; then its header is cut out, and status, length and data are
compared with the script.  Two things go wrong.  The op is known after four bytes, and the header is
cut out without a look at the length: a packet that ends before its 48th byte makes the driver
panic.  And the sequence number is only written to the transcript: a reply to another command is as
good as the one waited for.  In the unlink at the end even the import is not looked at.

Main definitions:

* `Zerowire.CarriesOp` — an envelope carries a packet of an op;
* `Zerowire.CutSubmit`, `Zerowire.CutUnlink` — it ends within its header;
* `Zerowire.PassesSubmit`, `Zerowire.PassesUnlink` — it stands up to the driver's checks;
* `Zerowire.Trips`, `Zerowire.Accepted` — the envelopes of a stream come to one that is cut, or
  pass;
* `Zerowire.MatchesUrb`, `Zerowire.MatchesUnlink`, `Zerowire.Matching` — they are replies to the
  commands sent;
* `Zerowire.RightNumbers` — their sequence numbers are the right ones.

Main results:

* `Zerowire.judgeSubmit_panic_iff`, `Zerowire.judgeSubmit_ok_iff` — what the driver makes of one
  reply;
* `Zerowire.runScript_panic_iff`, `Zerowire.runScript_ok_iff` — what it makes of a stream;
* `Zerowire.driver_survives_iff` — **when the driver survives its peer**;
* `Zerowire.success_matching_iff` — **when success means matching replies**.
-/

import Zerowire.ScriptedSession

set_option relaxedAutoImplicit false
set_option autoImplicit false

namespace Zerowire

open Bytes Program

/-! ### One reply -/

/-- The envelope carries a packet that starts with the op. -/
def CarriesOp (e : Envelope) (op : UrbOp) (f : UsbipFrame) : Prop :=
  e.channel = .usbip ∧ UsbipFrame.parse e.payload = .ok f ∧ peekUrbOp f.raw = .ok (some op)

/-- **A RET_SUBMIT for the import that ends within its header.** -/
def CutSubmit (importId : UInt32) (e : Envelope) : Prop :=
  ∃ f, CarriesOp e .retSubmit f ∧ f.importId = importId ∧ f.raw.length < urbHeaderLen

/-- **A RET_UNLINK that ends within its header.** -/
def CutUnlink (e : Envelope) : Prop :=
  ∃ f, CarriesOp e .retUnlink f ∧ f.raw.length < urbHeaderLen

/-- **A reply to a scripted URB that passes**: a whole RET_SUBMIT for the import with the status and
the length that the script expects, and, if data was asked for, with as much of it. -/
def PassesSubmit (importId : UInt32) (urb : ScriptedUrb) (e : Envelope) : Prop :=
  ∃ f, CarriesOp e .retSubmit f ∧ f.importId = importId ∧ urbHeaderLen ≤ f.raw.length ∧
    (RetSubmit.ofHeader f.raw).status = urb.expectedStatus ∧
    (RetSubmit.ofHeader f.raw).actualLength = urb.expectedActualLength ∧
    (urb.direction = urbDirIn →
      UInt32.ofNat (f.raw.length - urbHeaderLen) = (RetSubmit.ofHeader f.raw).actualLength)

/-- **A reply to the unlink that passes**: a whole RET_UNLINK of status 0. -/
def PassesUnlink (e : Envelope) : Prop :=
  ∃ f, CarriesOp e .retUnlink f ∧ urbHeaderLen ≤ f.raw.length ∧
  (RetUnlink.ofHeader f.raw).status = 0

/-- An envelope carries at most one packet. -/
theorem CarriesOp.unique {e : Envelope} {op op' : UrbOp} {f f' : UsbipFrame} (h : CarriesOp e op f)
    (h' : CarriesOp e op' f') : f = f' :=
  Except.ok.inj (h.2.1.symm.trans h'.2.1)

/-- So what holds of some packet that it carries holds of this one. -/
theorem CarriesOp.exists_iff {e : Envelope} {op : UrbOp} {f : UsbipFrame} (h : CarriesOp e op f)
    {P : UsbipFrame → Prop} : (∃ f', CarriesOp e op f' ∧ P f') ↔ P f := by
  constructor
  · rintro ⟨f', hf', hP⟩
    rwa [h.unique hf']
  · exact fun hP => ⟨f, h, hP⟩

/-- To look at the op does not fail. -/
theorem peekUrbOp_total (raw : List UInt8) : ∃ op, peekUrbOp raw = .ok op := by
  rw [peekUrbOp]
  split_ifs with h
  · exact ⟨_, rfl⟩
  · exact ⟨_, by rw [readU32_eq_ok (by omega), ok_bind, pure_eq_ok]⟩

theorem expectOp_of_peek {op : UrbOp} {raw : List UInt8} (h : peekUrbOp raw = .ok (some op)) :
    expectOp op raw = .ok () := by
  rw [expectOp, h, mapError_ok, ok_bind]
  simp only [ne_eq, not_true_eq_false, if_false, pure_eq_ok]

theorem expectOp_of_not_peek {op : UrbOp} {raw : List UInt8} (h : peekUrbOp raw ≠ .ok (some op)) :
    ∃ err, expectOp op raw = .error (.err err) := by
  obtain ⟨o, ho⟩ := peekUrbOp_total raw
  rw [expectOp, ho, mapError_ok, ok_bind]
  rcases o with _ | got
  · exact ⟨_, rfl⟩
  · have hne : got ≠ op := by
      rintro rfl
      exact h ho
    simp only [if_pos hne]
    exact ⟨_, rfl⟩

/-- **The header is cut out**, also where there is no whole one. -/
theorem cutHeader_eq {α : Type} {parse : List UInt8 → Except (Fault UrbError) α} {op : UrbOp}
    {ofHeader : List UInt8 → α} {raw : List UInt8}
    (hparse : parse (raw.take urbHeaderLen) =
      if (raw.take urbHeaderLen).length < urbHeaderLen then
        .error (.err (.short (raw.take urbHeaderLen).length))
      else if wordAt (raw.take urbHeaderLen) 0 ≠ op.toU32 then
        .error (.err (.unknownCommand (wordAt (raw.take urbHeaderLen) 0)))
      else .ok (ofHeader (raw.take urbHeaderLen)))
    (htake : ofHeader (raw.take urbHeaderLen) = ofHeader raw)
    (hpeek : peekUrbOp raw = .ok (some op)) :
    (do (parse (← slice raw 0 urbHeaderLen)).mapError (Fault.map DriverError.header)) =
      if raw.length < urbHeaderLen then .error .panic else .ok (ofHeader raw) := by
  split_ifs with hlen
  · rw [slice, if_neg (by omega), error_bind]
  · have hle : urbHeaderLen ≤ raw.length := Nat.le_of_not_lt hlen
    have hop : wordAt (raw.take urbHeaderLen) 0 = op.toU32 := by
      rw [wordAt_take (by decide)]
      rw [peekUrbOp_eq hle] at hpeek
      exact UrbOp.fromU32_eq_some.1 (Except.ok.inj hpeek)
    have hheader : parse (raw.take urbHeaderLen) = .ok (ofHeader raw) :=
      parse_of_header hparse (by rw [List.length_take]; omega) hop htake
    rw [slice_eq_ok (Nat.zero_le _) hle, ok_bind, List.drop_zero, hheader, mapError_ok]

theorem frameOf_cases (e : Envelope) :
    (∃ err, frameOf e = .error (.err err)) ∨
      ∃ f, UsbipFrame.parse e.payload = .ok f ∧ frameOf e = .ok f := by
  rw [frameOf, UsbipFrame.parse_eq]
  split_ifs with hlen
  · exact .inl ⟨_, rfl⟩
  · exact .inr ⟨_, rfl, rfl⟩

/-! ### The reply to a scripted URB -/

section Submit

variable {importId : UInt32} {e : Envelope}

theorem submitReply_of_carriesOp {f : UsbipFrame} (h : CarriesOp e .retSubmit f) :
    submitReply importId e =
      if f.importId ≠ importId then .error (.err (.importId f.importId importId))
      else if f.raw.length < urbHeaderLen then .error .panic
      else .ok (RetSubmit.ofHeader f.raw, UInt32.ofNat (f.raw.length - urbHeaderLen)) := by
  obtain ⟨-, hparse, hpeek⟩ := h
  have hheader := cutHeader_eq (RetSubmit.parse_eq _) RetSubmit.ofHeader_take hpeek
  rw [submitReply, frameOf, hparse, mapError_ok, ok_bind]
  split_ifs with himport hlen
  · rfl
  · rw [if_pos hlen] at hheader
    rw [expectOp_of_peek hpeek, ok_bind, ← bind_assoc, hheader, error_bind]
  · rw [if_neg hlen] at hheader
    rw [expectOp_of_peek hpeek, ok_bind, ← bind_assoc, hheader, ok_bind, pure_eq_ok]

/-- Any other reply is refused. -/
theorem submitReply_of_not_carriesOp (importId : UInt32) (hchan : e.channel = .usbip)
    (h : ∀ f, ¬ CarriesOp e .retSubmit f) : ∃ err, submitReply importId e = .error (.err err) := by
  rcases frameOf_cases e with ⟨err, hframe⟩ | ⟨f, hparse, hframe⟩
  · exact ⟨err, by rw [submitReply, hframe, error_bind]⟩
  · rw [submitReply, hframe, ok_bind]
    split_ifs with himport
    · exact ⟨_, rfl⟩
    · obtain ⟨err, hop⟩ := expectOp_of_not_peek fun hpeek => h f ⟨hchan, hparse, hpeek⟩
      exact ⟨err, by rw [hop, error_bind]⟩

/-- What `run_script` makes of a reply to a scripted URB. -/
def judgeSubmit (importId : UInt32) (urb : ScriptedUrb) (stats : DriverStats) (e : Envelope) :
    Except (Fault DriverError) DriverStats :=
  if e.channel ≠ .usbip then .error (.err (.unexpectedChannel e.channel))
  else do
    let (ret, bodyLen) ← submitReply importId e
    checkReply urb { stats with urbsIssued := stats.urbsIssued + 1 } ret bodyLen

/-- To compare a reply with the script does not make the driver panic. -/
theorem checkReply_ne_panic (urb : ScriptedUrb) (stats : DriverStats) (ret : RetSubmit)
    (bodyLen : UInt32) : checkReply urb stats ret bodyLen ≠ .error .panic := by
  rw [checkReply]
  split_ifs <;> intro h <;> cases h

/-- What is compared. -/
theorem checkReply_ok_iff (urb : ScriptedUrb) (stats : DriverStats) (ret : RetSubmit)
    (bodyLen : UInt32) :
    (∃ stats', checkReply urb stats ret bodyLen = .ok stats') ↔
      ret.status = urb.expectedStatus ∧ ret.actualLength = urb.expectedActualLength ∧
        (urb.direction = urbDirIn → bodyLen = ret.actualLength) := by
  rw [checkReply]
  split_ifs with hexpected hin hbody
  · simp [hin, hbody]
  · simp [hexpected, not_not.1 hbody]
  · simp [hexpected, hin]
  · simp only [exists_false, false_iff]
    rintro ⟨hstatus, hlength, -⟩
    exact hexpected ⟨hstatus, hlength⟩

theorem judgeSubmit_of_carriesOp {f : UsbipFrame} (h : CarriesOp e .retSubmit f)
    (urb : ScriptedUrb) (stats : DriverStats) :
    judgeSubmit importId urb stats e =
      if f.importId ≠ importId then .error (.err (.importId f.importId importId))
      else if f.raw.length < urbHeaderLen then .error .panic
      else checkReply urb { stats with urbsIssued := stats.urbsIssued + 1 } (RetSubmit.ofHeader f.raw)
        (UInt32.ofNat (f.raw.length - urbHeaderLen)) := by
  rw [judgeSubmit, if_neg (not_not.2 h.1), submitReply_of_carriesOp h]
  split_ifs
  · rw [error_bind]
  · rw [error_bind]
  · rw [ok_bind]

theorem judgeSubmit_of_not_carriesOp (importId : UInt32) (h : ¬ ∃ f, CarriesOp e .retSubmit f)
    (urb : ScriptedUrb) (stats : DriverStats) :
    ∃ err, judgeSubmit importId urb stats e = .error (.err err) := by
  rw [judgeSubmit]
  split_ifs with hchan
  · exact ⟨_, rfl⟩
  · obtain ⟨err, hreply⟩ := submitReply_of_not_carriesOp importId (not_not.1 hchan) (not_exists.1 h)
    exact ⟨err, by rw [hreply, error_bind]⟩

/-- **The driver panics at a reply** exactly if it is cut. -/
theorem judgeSubmit_panic_iff (urb : ScriptedUrb) (stats : DriverStats) :
    judgeSubmit importId urb stats e = .error .panic ↔ CutSubmit importId e := by
  by_cases hcarries : ∃ f, CarriesOp e .retSubmit f
  · obtain ⟨f, hf⟩ := hcarries
    rw [judgeSubmit_of_carriesOp hf, CutSubmit, hf.exists_iff]
    split_ifs with himport hlen
    · exact iff_of_false (by simp) fun h => himport h.1
    · exact iff_of_true rfl ⟨not_not.1 himport, hlen⟩
    · exact iff_of_false (checkReply_ne_panic _ _ _ _) fun h => hlen h.2
  · obtain ⟨err, hjudge⟩ := judgeSubmit_of_not_carriesOp importId hcarries urb stats
    rw [hjudge]
    exact iff_of_false (by simp) fun ⟨f, hf, _⟩ => hcarries ⟨f, hf⟩

/-- **The driver takes a reply** exactly if it passes. -/
theorem judgeSubmit_ok_iff (urb : ScriptedUrb) (stats : DriverStats) :
    (∃ stats', judgeSubmit importId urb stats e = .ok stats') ↔ PassesSubmit importId urb e := by
  by_cases hcarries : ∃ f, CarriesOp e .retSubmit f
  · obtain ⟨f, hf⟩ := hcarries
    rw [judgeSubmit_of_carriesOp hf, PassesSubmit, hf.exists_iff]
    split_ifs with himport hlen
    · exact iff_of_false (by simp) fun h => himport h.1
    · exact iff_of_false (by simp) fun h => absurd hlen (Nat.not_lt.2 h.2.1)
    · refine (checkReply_ok_iff urb _ _ _).trans ?_
      rw [and_iff_right (not_not.1 himport), and_iff_right (Nat.le_of_not_lt hlen)]
  · obtain ⟨err, hjudge⟩ := judgeSubmit_of_not_carriesOp importId hcarries urb stats
    rw [hjudge]
    exact iff_of_false (by simp) fun ⟨f, hf, _⟩ => hcarries ⟨f, hf⟩

end Submit

/-! ### The reply to the unlink -/

section Unlink

variable {e : Envelope}

theorem unlinkReply_of_carriesOp {f : UsbipFrame} (h : CarriesOp e .retUnlink f) :
    unlinkReply e =
      if f.raw.length < urbHeaderLen then .error .panic else .ok (RetUnlink.ofHeader f.raw) := by
  obtain ⟨-, hparse, hpeek⟩ := h
  have hheader := cutHeader_eq (RetUnlink.parse_eq _) RetUnlink.ofHeader_take hpeek
  rw [unlinkReply, frameOf, hparse, mapError_ok, ok_bind, expectOp_of_peek hpeek, ok_bind, hheader]

/-- Any other reply is refused. -/
theorem unlinkReply_of_not_carriesOp (hchan : e.channel = .usbip)
    (h : ∀ f, ¬ CarriesOp e .retUnlink f) : ∃ err, unlinkReply e = .error (.err err) := by
  rcases frameOf_cases e with ⟨err, hframe⟩ | ⟨f, hparse, hframe⟩
  · exact ⟨err, by rw [unlinkReply, hframe, error_bind]⟩
  · obtain ⟨err, hop⟩ := expectOp_of_not_peek fun hpeek => h f ⟨hchan, hparse, hpeek⟩
    exact ⟨err, by rw [unlinkReply, hframe, ok_bind, hop, error_bind]⟩

/-- What `run_script` makes of the reply to its unlink. -/
def judgeUnlink (stats : DriverStats) (e : Envelope) : Except (Fault DriverError) DriverStats :=
  if e.channel ≠ .usbip then .error (.err (.unexpectedChannel e.channel))
  else do
    let ret ← unlinkReply e
    if ret.status = 0 then
      .ok { stats with unlinksIssued := stats.unlinksIssued + 1, unlinksOk := stats.unlinksOk + 1 }
    else .error (.err (.unlinkStatus ret.status))

theorem judgeUnlink_of_carriesOp {f : UsbipFrame} (h : CarriesOp e .retUnlink f)
    (stats : DriverStats) :
    judgeUnlink stats e =
      if f.raw.length < urbHeaderLen then .error .panic
      else if (RetUnlink.ofHeader f.raw).status = 0 then
        .ok { stats with
          unlinksIssued := stats.unlinksIssued + 1
          unlinksOk := stats.unlinksOk + 1 }
      else .error (.err (.unlinkStatus (RetUnlink.ofHeader f.raw).status)) := by
  rw [judgeUnlink, if_neg (not_not.2 h.1), unlinkReply_of_carriesOp h]
  by_cases hlen : f.raw.length < urbHeaderLen
  · rw [if_pos hlen, if_pos hlen, error_bind]
  · rw [if_neg hlen, if_neg hlen, ok_bind]

theorem judgeUnlink_of_not_carriesOp (h : ¬ ∃ f, CarriesOp e .retUnlink f) (stats : DriverStats) :
    ∃ err, judgeUnlink stats e = .error (.err err) := by
  rw [judgeUnlink]
  split_ifs with hchan
  · exact ⟨_, rfl⟩
  · obtain ⟨err, hreply⟩ := unlinkReply_of_not_carriesOp (not_not.1 hchan) (not_exists.1 h)
    exact ⟨err, by rw [hreply, error_bind]⟩

/-- **The driver panics at the last reply** exactly if it is cut. -/
theorem judgeUnlink_panic_iff (stats : DriverStats) :
    judgeUnlink stats e = .error .panic ↔ CutUnlink e := by
  by_cases hcarries : ∃ f, CarriesOp e .retUnlink f
  · obtain ⟨f, hf⟩ := hcarries
    rw [judgeUnlink_of_carriesOp hf, CutUnlink, hf.exists_iff]
    split_ifs with hlen hstatus
    · exact iff_of_true rfl hlen
    · exact iff_of_false (by simp) hlen
    · exact iff_of_false (by simp) hlen
  · obtain ⟨err, hjudge⟩ := judgeUnlink_of_not_carriesOp hcarries stats
    rw [hjudge]
    exact iff_of_false (by simp) fun ⟨f, hf, _⟩ => hcarries ⟨f, hf⟩

/-- **The driver takes the last reply** exactly if it passes. -/
theorem judgeUnlink_ok_iff (stats : DriverStats) :
    (∃ stats', judgeUnlink stats e = .ok stats') ↔ PassesUnlink e := by
  by_cases hcarries : ∃ f, CarriesOp e .retUnlink f
  · obtain ⟨f, hf⟩ := hcarries
    rw [judgeUnlink_of_carriesOp hf, PassesUnlink, hf.exists_iff]
    split_ifs with hlen hstatus
    · exact iff_of_false (by simp) fun h => absurd hlen (Nat.not_lt.2 h.1)
    · exact iff_of_true ⟨_, rfl⟩ ⟨Nat.le_of_not_lt hlen, hstatus⟩
    · exact iff_of_false (by simp) fun h => hstatus h.2
  · obtain ⟨err, hjudge⟩ := judgeUnlink_of_not_carriesOp hcarries stats
    rw [hjudge]
    exact iff_of_false (by simp) fun ⟨f, hf, _⟩ => hcarries ⟨f, hf⟩

end Unlink

/-! ### The replies of a stream -/

/-- The command fits into an envelope. -/
def Sendable (urb : ScriptedUrb) : Prop := urbHeaderLen + 4 + urb.outBody.length ≤ maxPayload

instance (urb : ScriptedUrb) : Decidable (Sendable urb) := inferInstanceAs (Decidable (_ ≤ _))

/-- **The driver comes to a reply that is cut**: those before it pass. -/
def Trips (importId : UInt32) : List ScriptedUrb → List Envelope → Prop
  | _, [] => False
  | [], e :: _ => CutUnlink e
  | urb :: script, e :: es =>
      Sendable urb ∧ (CutSubmit importId e ∨ PassesSubmit importId urb e ∧ Trips importId script es)

/-- **All replies pass**. -/
def Accepted (importId : UInt32) : List ScriptedUrb → List Envelope → Prop
  | _, [] => False
  | [], e :: _ => PassesUnlink e
  | urb :: script, e :: es => Sendable urb ∧ PassesSubmit importId urb e ∧
      Accepted importId script es

theorem fits_packetEnvelope_iff {importId : UInt32} {payload : List UInt8} :
    (packetEnvelope importId payload).Fits ↔ 4 + payload.length ≤ maxPayload := by
  rw [Envelope.Fits, packetEnvelope, UsbipFrame.encode, List.length_append, length_toBe32]

theorem sendable_iff (importId : UInt32) (urb : ScriptedUrb) :
    Sendable urb ↔ (packetEnvelope importId (urb.cmd.encode ++ urb.outBody)).Fits := by
  rw [fits_packetEnvelope_iff, List.length_append, CmdSubmit.length_encode, Sendable]
  omega

section Run

variable (desk : Desk) (importId : UInt32)

/-- A command is sent. -/
theorem exec_sendPacket {payload : List UInt8} (hfits : (packetEnvelope importId payload).Fits)
    (io : Io Trail) :
    exec desk.env (mapErr (Fault.map DriverError.send)
        (Tls.sendEnvelope .usbip (UsbipFrame.encode ⟨importId, payload⟩))) io =
      (.ok (), { io with output := io.output ++ (packetEnvelope importId payload).bytes }) :=
  exec_mapErr_ok (exec_sendEnvelopeWith desk.env "writing TLS envelope" hfits io) _

/-- A command is sent and an envelope comes back. -/
theorem exec_exchange {payload : List UInt8} (hfits : (packetEnvelope importId payload).Fits)
    {io : Io Trail} {e : Envelope} {n : ℕ} (hparse : Envelope.parse io.input = .ok (some (e, n))) :
    exec desk.env (exchange importId payload) io =
      (if e.channel ≠ .usbip then .error (.err (.unexpectedChannel e.channel)) else .ok e,
        { io with
          input := io.input.drop n
          output := io.output ++ (packetEnvelope importId payload).bytes }) := by
  rw [exchange, exec_bind_ok (exec_sendPacket desk importId hfits io)]
  generalize io.output ++ (packetEnvelope importId payload).bytes = output
  have hrecv : exec desk.env (mapErr (Fault.map DriverError.recv) Tls.recvEnvelope)
      { io with output := output } =
      (.ok e, { io with input := io.input.drop n, output := output }) :=
    exec_mapErr_ok (exec_recvEnvelopeWith_of_parse desk.env "reading TLS header"
      "reading TLS payload" (s := { io with output := output }) hparse) _
  rw [exec_bind_ok hrecv]
  split_ifs
  · rfl
  · rfl

/-- The command cannot be sent, or no envelope comes back. -/
theorem exec_exchange_fails (payload : List UInt8) {io : Io Trail}
    (h : ¬ (packetEnvelope importId payload).Fits ∨ ∀ r, Envelope.parse io.input ≠ .ok (some r)) :
    ∃ err s', exec desk.env (exchange importId payload) io = (.error (.err err), s') := by
  by_cases hfits : (packetEnvelope importId payload).Fits
  · rw [exchange, exec_bind_ok (exec_sendPacket desk importId hfits io)]
    generalize io.output ++ (packetEnvelope importId payload).bytes = output
    obtain ⟨err, rest, hrecv⟩ := exec_recvEnvelopeWith_of_not_parse desk.env "reading TLS header"
      "reading TLS payload" (s := { io with output := output }) (h.resolve_left (not_not.2 hfits))
    have hfails : exec desk.env (mapErr (Fault.map DriverError.recv) Tls.recvEnvelope)
        { io with output := output } =
        (.error (.err (.recv err)), { io with input := rest, output := output }) := by
      rw [exec_mapErr, Tls.recvEnvelope, hrecv]
      rfl
    exact ⟨.recv err, _, exec_bind_error hfails⟩
  · have hsend := exec_sendEnvelopeWith_of_not_fits desk.env "writing TLS envelope" hfits io
    have hfails : exec desk.env (mapErr (Fault.map DriverError.send)
        (Tls.sendEnvelope .usbip (UsbipFrame.encode ⟨importId, payload⟩))) io =
        (.error (.err (.send (.encode
          (.tooLarge (packetEnvelope importId payload).payload.length)))), io) := by
      rw [exec_mapErr, Tls.sendEnvelope]
      exact congrArg (fun r => (Except.mapError (Fault.map DriverError.send) r.1, r.2)) hsend
    exact ⟨_, _, exec_bind_error hfails⟩

/-- **One round of the loop**, up to what it leaves in the transcript. -/
theorem exec_driveUrb {urb : ScriptedUrb} (hsend : Sendable urb) (stats : DriverStats)
    {io : Io Trail} {e : Envelope} {n : ℕ} (hparse : Envelope.parse io.input = .ok (some (e, n))) :
    ∃ s', exec desk.env (driveUrb importId stats urb) io =
      (judgeSubmit importId urb stats e, s') ∧ s'.input = io.input.drop n := by
  have hexchange := exec_exchange desk importId ((sendable_iff importId urb).1 hsend) hparse
  rw [driveUrb, judgeSubmit]
  split_ifs with hchan
  · rw [if_pos hchan] at hexchange
    exact ⟨_, exec_bind_error hexchange, rfl⟩
  · rw [if_neg hchan] at hexchange
    rw [exec_bind_ok hexchange]
    rcases submitReply importId e with err | ⟨ret, bodyLen⟩
    · exact ⟨_, rfl, rfl⟩
    · exact ⟨_, rfl, rfl⟩

/-- The unlink at the end. -/
theorem exec_driveUnlink (stats : DriverStats) {io : Io Trail} {e : Envelope} {n : ℕ}
    (hparse : Envelope.parse io.input = .ok (some (e, n))) :
    ∃ s', exec desk.env (driveUnlink importId stats) io = (judgeUnlink stats e, s') ∧
      s'.input = io.input.drop n := by
  have hfits : (packetEnvelope importId finalUnlink.encode).Fits :=
    fits_packetEnvelope importId (by rw [CmdUnlink.length_encode]; decide)
  have hexchange := exec_exchange desk importId hfits hparse
  rw [driveUnlink, judgeUnlink]
  split_ifs with hchan
  · rw [if_pos hchan] at hexchange
    exact ⟨_, exec_bind_error hexchange, rfl⟩
  · rw [if_neg hchan] at hexchange
    rw [exec_bind_ok hexchange]
    rcases unlinkReply e with err | ret
    · exact ⟨_, rfl, rfl⟩
    · exact ⟨_, rfl, rfl⟩

/-- The driver from some point of the script on. -/
def drive (script : List ScriptedUrb) (stats : DriverStats) :
    Act simulatedSig (Fault DriverError) DriverStats := do
  let stats ← script.foldlM (driveUrb importId) stats
  let stats ← driveUnlink importId stats
  summarize stats

theorem drive_cons (urb : ScriptedUrb) (script : List ScriptedUrb) (stats : DriverStats) :
    drive importId (urb :: script) stats =
      driveUrb importId stats urb >>= drive importId script := by
  rw [drive, List.foldlM_cons, bind_assoc]
  rfl

theorem drive_nil (stats : DriverStats) :
    drive importId [] stats = driveUnlink importId stats >>= summarize := by
  rw [drive, List.foldlM_nil, pure_bind]

theorem exec_summarize (stats : DriverStats) (io : Io Trail) :
    ∃ s', exec desk.env (summarize stats) io = (.ok stats, s') ∧ s'.input = io.input :=
  ⟨_, rfl, rfl⟩

/-- The exchange of a round fails if its command cannot be sent, or if no envelope comes back. -/
theorem exec_driveUrb_fails (urb : ScriptedUrb) (stats : DriverStats) {io : Io Trail}
    (h : ¬ Sendable urb ∨ ∀ r, Envelope.parse io.input ≠ .ok (some r)) :
    ∃ err s', exec desk.env (driveUrb importId stats urb) io = (.error (.err err), s') := by
  rw [sendable_iff importId] at h
  obtain ⟨err, s', hfails⟩ := exec_exchange_fails desk importId _ h
  exact ⟨err, s', exec_bind_error hfails⟩

theorem exec_driveUnlink_fails (stats : DriverStats) {io : Io Trail}
    (h : ∀ r, Envelope.parse io.input ≠ .ok (some r)) :
    ∃ err s', exec desk.env (driveUnlink importId stats) io = (.error (.err err), s') := by
  obtain ⟨err, s', hfails⟩ := exec_exchange_fails desk importId finalUnlink.encode (.inr h)
  exact ⟨err, s', exec_bind_error hfails⟩

/-- An envelope starts the stream, or there is none. -/
theorem parse_cases (b : List UInt8) :
    (∃ e n, Envelope.parse b = .ok (some (e, n)) ∧ StreamCodec.frames Envelope.parse b =
        e :: StreamCodec.frames Envelope.parse (b.drop n)) ∨
      (∀ r, Envelope.parse b ≠ .ok (some r)) ∧ StreamCodec.frames Envelope.parse b = [] := by
  by_cases h : ∃ r, Envelope.parse b = .ok (some r)
  · obtain ⟨⟨e, n⟩, hparse⟩ := h
    exact .inl ⟨e, n, hparse, StreamCodec.frames_eq_cons Envelope.codec.toStable hparse⟩
  · exact .inr ⟨not_exists.1 h, StreamCodec.frames_eq_nil Envelope.codec.toStable (not_exists.1 h)⟩

/-- **When the driver panics**, from some point of the script on. -/
theorem drive_panic_iff (script : List ScriptedUrb) (stats : DriverStats) (io : Io Trail) :
    (exec desk.env (drive importId script stats) io).1 = .error .panic ↔
      Trips importId script (StreamCodec.frames Envelope.parse io.input) := by
  -- along the script: each URB takes one envelope off the stream
  induction script generalizing stats io with
  | nil =>
      rw [drive_nil]
      rcases parse_cases io.input with ⟨e, n, hparse, hframes⟩ | ⟨hno, hframes⟩
      · obtain ⟨s', hunlink, -⟩ := exec_driveUnlink desk importId stats hparse
        rw [exec_bind_error_iff hunlink, judgeUnlink_panic_iff, hframes, Trips]
        refine or_iff_left ?_
        rintro ⟨stats', -, hpanic⟩
        cases hpanic
      · obtain ⟨err, s', hfails⟩ := exec_driveUnlink_fails desk importId stats hno
        rw [exec_bind_error hfails, hframes, Trips]
        simp
  | cons urb script ih =>
      rw [drive_cons]
      rcases parse_cases io.input with ⟨e, n, hparse, hframes⟩ | ⟨hno, hframes⟩
      · by_cases hsend : Sendable urb
        · obtain ⟨s', hround, hs'⟩ := exec_driveUrb desk importId hsend stats hparse
          rw [exec_bind_error_iff hround, judgeSubmit_panic_iff, hframes, Trips, and_iff_right hsend,
            ← judgeSubmit_ok_iff urb stats]
          simp only [ih, hs', exists_and_right]
        · obtain ⟨err, s', hfails⟩ := exec_driveUrb_fails desk importId urb stats (.inl hsend)
          rw [exec_bind_error hfails, hframes, Trips]
          simp [hsend]
      · obtain ⟨err, s', hfails⟩ := exec_driveUrb_fails desk importId urb stats (.inr hno)
        rw [exec_bind_error hfails, hframes, Trips]
        simp

/-- **When it succeeds.** -/
theorem drive_ok_iff (script : List ScriptedUrb) (stats : DriverStats) (io : Io Trail) :
    (∃ stats', (exec desk.env (drive importId script stats) io).1 = .ok stats') ↔
      Accepted importId script (StreamCodec.frames Envelope.parse io.input) := by
  induction script generalizing stats io with
  | nil =>
      rw [drive_nil]
      rcases parse_cases io.input with ⟨e, n, hparse, hframes⟩ | ⟨hno, hframes⟩
      · obtain ⟨s', hunlink, -⟩ := exec_driveUnlink desk importId stats hparse
        rw [exec_bind_ok_iff hunlink, hframes, Accepted, ← judgeUnlink_ok_iff stats]
        exact exists_congr fun stats' => and_iff_left ⟨stats', rfl⟩
      · obtain ⟨err, s', hfails⟩ := exec_driveUnlink_fails desk importId stats hno
        rw [exec_bind_error hfails, hframes, Accepted]
        simp
  | cons urb script ih =>
      rw [drive_cons]
      rcases parse_cases io.input with ⟨e, n, hparse, hframes⟩ | ⟨hno, hframes⟩
      · by_cases hsend : Sendable urb
        · obtain ⟨s', hround, hs'⟩ := exec_driveUrb desk importId hsend stats hparse
          rw [exec_bind_ok_iff hround, hframes, Accepted, and_iff_right hsend,
            ← judgeSubmit_ok_iff urb stats]
          simp only [ih, hs', exists_and_right]
        · obtain ⟨err, s', hfails⟩ := exec_driveUrb_fails desk importId urb stats (.inl hsend)
          rw [exec_bind_error hfails, hframes, Accepted]
          simp [hsend]
      · obtain ⟨err, s', hfails⟩ := exec_driveUrb_fails desk importId urb stats (.inr hno)
        rw [exec_bind_error hfails, hframes, Accepted]
        simp

/-- The stream starts with these envelopes, and the rest is left. -/
def Reads (input : List UInt8) (es : List Envelope) (rest : List UInt8) : Prop :=
  input = es.flatMap Envelope.bytes ++ rest ∧ ∀ e ∈ es, e.Fits

theorem Reads.cons {input rest : List UInt8} {e : Envelope} {n : ℕ} {es : List Envelope}
    (hparse : Envelope.parse input = .ok (some (e, n))) (h : Reads (input.drop n) es rest) :
    Reads input (e :: es) rest := by
  obtain ⟨hfits, rfl, rest', rfl⟩ := Envelope.eq_bytes_of_parse hparse
  obtain ⟨hbytes, hall⟩ := h
  rw [List.drop_left] at hbytes
  refine ⟨?_, List.forall_mem_cons.2 ⟨hfits, hall⟩⟩
  rw [hbytes, List.flatMap_cons, List.append_assoc]

/-- The frames of a stream that starts with envelopes. -/
theorem Reads.frames {input rest : List UInt8} {es : List Envelope} (h : Reads input es rest) :
    StreamCodec.frames Envelope.parse input = es ++ StreamCodec.frames Envelope.parse rest := by
  rw [h.1]
  exact Envelope.codec.frames_append h.2 rest

/-- **What it has read when it succeeds**: an envelope for each scripted URB, and one more. -/
theorem drive_reads {script : List ScriptedUrb} {stats stats' : DriverStats} {io io' : Io Trail}
    (h : exec desk.env (drive importId script stats) io = (.ok stats', io')) :
    ∃ replies last, replies.length = script.length ∧
    Reads io.input (replies ++ [last]) io'.input := by
  induction script generalizing stats io with
  | nil =>
      rw [drive_nil] at h
      rcases parse_cases io.input with ⟨e, n, hparse, -⟩ | ⟨hno, -⟩
      · obtain ⟨s', hunlink, hs'⟩ := exec_driveUnlink desk importId stats hparse
        rcases hjudge : judgeUnlink stats e with err | stats₁
        · rw [hjudge] at hunlink
          rw [exec_bind_error hunlink] at h
          cases h
        · rw [hjudge] at hunlink
          obtain ⟨s₂, hsummary, hs₂⟩ := exec_summarize desk stats₁ s'
          rw [exec_bind_ok hunlink, hsummary] at h
          cases h
          refine ⟨[], e, rfl, Reads.cons hparse ⟨?_, by simp⟩⟩
          rw [hs₂, hs', List.flatMap_nil, List.nil_append]
      · obtain ⟨err, s', hfails⟩ := exec_driveUnlink_fails desk importId stats hno
        rw [exec_bind_error hfails] at h
        cases h
  | cons urb script ih =>
      rw [drive_cons] at h
      -- a round that fails would have ended the run
      by_cases hsend : Sendable urb
      · rcases parse_cases io.input with ⟨e, n, hparse, -⟩ | ⟨hno, -⟩
        · obtain ⟨s', hround, hs'⟩ := exec_driveUrb desk importId hsend stats hparse
          rcases hjudge : judgeSubmit importId urb stats e with err | stats₁
          · rw [hjudge] at hround
            rw [exec_bind_error hround] at h
            cases h
          · rw [hjudge] at hround
            rw [exec_bind_ok hround] at h
            obtain ⟨replies, last, hlength, hreads⟩ := ih h
            rw [hs'] at hreads
            exact ⟨e :: replies, last, by rw [List.length_cons, List.length_cons, hlength],
              Reads.cons hparse hreads⟩
        · obtain ⟨err, s', hfails⟩ := exec_driveUrb_fails desk importId urb stats (.inr hno)
          rw [exec_bind_error hfails] at h
          cases h
      · obtain ⟨err, s', hfails⟩ := exec_driveUrb_fails desk importId urb stats (.inl hsend)
        rw [exec_bind_error hfails] at h
        cases h

/-- With its transcript open the driver goes through its script. -/
theorem exec_runScript_open {io : Io Trail} (hopen : desk.opens io.env.opened = true)
    (script : List ScriptedUrb) :
    exec desk.env (runScript importId script) io =
      exec desk.env (drive importId script {})
        { io with env := { io.env with opened := io.env.opened + 1 } } := by
  have hopens := exec_openTranscript desk io
  rw [hopen] at hopens
  have hrun : runScript importId script = openTranscript >>= fun _ =>
    drive importId script {} := rfl
  rw [hrun, exec_bind_ok hopens]

/-- **When `run_script` panics.** -/
theorem runScript_panic_iff (script : List ScriptedUrb) (io : Io Trail) :
    (exec desk.env (runScript importId script) io).1 = .error .panic ↔
      desk.opens io.env.opened = true ∧
        Trips importId script (StreamCodec.frames Envelope.parse io.input) := by
  cases hopen : desk.opens io.env.opened with
  | true =>
      rw [exec_runScript_open desk importId hopen, drive_panic_iff]
      simp
  | false =>
      rw [exec_runScript_closed desk hopen]
      simp

/-- **When it returns `Ok`.** -/
theorem runScript_ok_iff (script : List ScriptedUrb) (io : Io Trail) :
    (∃ stats, (exec desk.env (runScript importId script) io).1 = .ok stats) ↔
      desk.opens io.env.opened = true ∧
        Accepted importId script (StreamCodec.frames Envelope.parse io.input) := by
  cases hopen : desk.opens io.env.opened with
  | true =>
      rw [exec_runScript_open desk importId hopen, drive_ok_iff]
      simp
  | false =>
      rw [exec_runScript_closed desk hopen]
      simp

/-- **When the driver survives its peer.**  For every script, import and stream of the peer:
`run_script` returns, with `Ok` or with `Err`, exactly if it does not come to a reply that is
cut. -/
theorem driver_survives_iff (script : List ScriptedUrb) (io : Io Trail) :
    ((∃ stats, (exec desk.env (runScript importId script) io).1 = .ok stats) ∨
      ∃ err, (exec desk.env (runScript importId script) io).1 = .error (.err err)) ↔
      ¬ (desk.opens io.env.opened = true ∧
        Trips importId script (StreamCodec.frames Envelope.parse io.input)) := by
  rw [← runScript_panic_iff desk importId script io]
  rcases (exec desk.env (runScript importId script) io).1 with (err | _) | stats
  · simp
  · simp
  · simp

end Run

/-! ### Replies to the commands sent -/

/-- **The envelope is the reply to the scripted URB**: a RET_SUBMIT for the import, with the
sequence number of the URB, the status and the length expected, and, if data was asked for, just as
much of it. -/
def MatchesUrb (importId : UInt32) (urb : ScriptedUrb) (e : Envelope) : Prop :=
  e.channel = .usbip ∧ ∃ f ret, UsbipFrame.parse e.payload = .ok f ∧ f.importId = importId ∧
    RetSubmit.parse f.raw = .ok ret ∧ ret.seqnum = urb.seqnum ∧ ret.status = urb.expectedStatus ∧
    ret.actualLength = urb.expectedActualLength ∧
    (urb.direction = urbDirIn → (f.raw.drop urbHeaderLen).length = ret.actualLength.toNat)

/-- **The envelope is the reply to the unlink.** -/
def MatchesUnlink (importId : UInt32) (e : Envelope) : Prop :=
  e.channel = .usbip ∧ ∃ f ret, UsbipFrame.parse e.payload = .ok f ∧ f.importId = importId ∧
    RetUnlink.parse f.raw = .ok ret ∧ ret.seqnum = finalUnlink.seqnum

/-- **What has been read are the replies to the commands**, one after the other. -/
def Matching (importId : UInt32) (script : List ScriptedUrb) (input rest : List UInt8) : Prop :=
  ∃ replies last, Reads input (replies ++ [last]) rest ∧
    List.Forall₂ (MatchesUrb importId) script replies ∧ MatchesUnlink importId last

/-- **The numbers that the driver does not look at are right**: the sequence numbers (the third word
of a payload), and the import of the last reply (the first). -/
def RightNumbers (importId : UInt32) : List ScriptedUrb → List Envelope → Prop
  | _, [] => True
  | [], e :: _ => wordAt e.payload 0 = importId ∧ wordAt e.payload 8 = finalUnlink.seqnum
  | urb :: script, e :: es => wordAt e.payload 8 = urb.seqnum ∧ RightNumbers importId script es

theorem wordAt_drop (b : List UInt8) (n off : ℕ) : wordAt (b.drop n) off = wordAt b (n + off) := by
  have hget (i : ℕ) : (b.drop n).getD i 0 = b.getD (n + i) 0 := by
    rw [List.getD_eq_getElem?_getD, List.getElem?_drop, List.getD_eq_getElem?_getD]
  rw [wordAt, hget, hget, hget, hget, wordAt]
  rfl

/-- The words of a frame in its payload. -/
theorem UsbipFrame.words {payload : List UInt8} {f : UsbipFrame}
    (h : UsbipFrame.parse payload = .ok f) :
    f.importId = wordAt payload 0 ∧ (∀ off, wordAt f.raw off = wordAt payload (4 + off)) ∧
      f.raw.length ≤ payload.length := by
  rw [UsbipFrame.parse_eq] at h
  split_ifs at h with hlen
  cases h
  refine ⟨rfl, fun off => wordAt_drop payload 4 off, ?_⟩
  rw [List.length_drop]
  omega

/-- A packet that starts with its op has a header if it is long enough. -/
theorem wordAt_of_carriesOp {e : Envelope} {op : UrbOp} {f : UsbipFrame} (h : CarriesOp e op f)
    (hle : urbHeaderLen ≤ f.raw.length) : wordAt f.raw 0 = op.toU32 := by
  have hpeek := h.2.2
  rw [peekUrbOp_eq hle] at hpeek
  exact UrbOp.fromU32_eq_some.1 (Except.ok.inj hpeek)

/-- **A reply that passes is the reply to the URB** if its sequence number is right. -/
theorem PassesSubmit.matchesUrb {importId : UInt32} {urb : ScriptedUrb} {e : Envelope}
    (h : PassesSubmit importId urb e) (hfits : e.Fits) (hseq : wordAt e.payload 8 = urb.seqnum) :
    MatchesUrb importId urb e := by
  obtain ⟨f, hf, himport, hle, hstatus, hlength, hbody⟩ := h
  obtain ⟨-, hwords, hshort⟩ := UsbipFrame.words hf.2.1
  have hparse : RetSubmit.parse f.raw = .ok (RetSubmit.ofHeader f.raw) :=
    (parse_header_iff hle (RetSubmit.parse_eq f.raw)).2 ⟨wordAt_of_carriesOp hf hle, rfl⟩
  refine ⟨hf.1, f, RetSubmit.ofHeader f.raw, hf.2.1, himport, hparse, (hwords 4).trans hseq, hstatus,
    hlength, fun hin => ?_⟩
  have hsmall : f.raw.length - urbHeaderLen < 2 ^ 32 := by
    have : e.payload.length ≤ 2 ^ 20 := hfits
    omega
  rw [← hbody hin, UInt32.toNat_ofNat_of_lt' hsmall, List.length_drop]

theorem PassesUnlink.matchesUnlink {importId : UInt32} {e : Envelope} (h : PassesUnlink e)
    (himport : wordAt e.payload 0 = importId) (hseq : wordAt e.payload 8 = finalUnlink.seqnum) :
    MatchesUnlink importId e := by
  obtain ⟨f, hf, hle, hstatus⟩ := h
  obtain ⟨himport', hwords, -⟩ := UsbipFrame.words hf.2.1
  have hparse : RetUnlink.parse f.raw = .ok (RetUnlink.ofHeader f.raw) :=
    (parse_header_iff hle (RetUnlink.parse_eq f.raw)).2 ⟨wordAt_of_carriesOp hf hle, rfl⟩
  exact ⟨hf.1, f, RetUnlink.ofHeader f.raw, hf.2.1, himport'.trans himport, hparse,
    (hwords 4).trans hseq⟩

/-- A header that is parsed is the header of the packet. -/
theorem MatchesUrb.seqnum {importId : UInt32} {urb : ScriptedUrb} {e : Envelope}
    (h : MatchesUrb importId urb e) : wordAt e.payload 8 = urb.seqnum := by
  obtain ⟨-, f, ret, hframe, -, hret, hseq, -⟩ := h
  obtain ⟨-, hwords, -⟩ := UsbipFrame.words hframe
  rw [RetSubmit.parse_eq] at hret
  split_ifs at hret
  cases hret
  exact (hwords 4).symm.trans hseq

theorem MatchesUnlink.numbers {importId : UInt32} {e : Envelope} (h : MatchesUnlink importId e) :
    wordAt e.payload 0 = importId ∧ wordAt e.payload 8 = finalUnlink.seqnum := by
  obtain ⟨-, f, ret, hframe, himport, hret, hseq⟩ := h
  obtain ⟨himport', hwords, -⟩ := UsbipFrame.words hframe
  rw [RetUnlink.parse_eq] at hret
  split_ifs at hret
  cases hret
  exact ⟨himport'.symm.trans himport, (hwords 4).symm.trans hseq⟩

/-- Where the replies match the numbers are right. -/
theorem Matching.rightNumbers {importId : UInt32} {script : List ScriptedUrb}
    {input rest : List UInt8} (h : Matching importId script input rest) :
    RightNumbers importId script (StreamCodec.frames Envelope.parse input) := by
  obtain ⟨replies, last, hreads, hreplies, hlast⟩ := h
  rw [hreads.frames]
  generalize StreamCodec.frames Envelope.parse rest = more
  clear hreads
  induction hreplies with
  | nil => exact hlast.numbers
  | cons hreply _ ih => exact ⟨hreply.seqnum, ih⟩

/-- **Where the numbers are right, replies that pass match.** -/
theorem matches_of_rightNumbers {importId : UInt32} {script : List ScriptedUrb}
    {replies more : List Envelope} {last : Envelope} (hlength : replies.length = script.length)
    (hfits : ∀ e ∈ replies, e.Fits) (hpass : Accepted importId script (replies ++ last :: more))
    (hright : RightNumbers importId script (replies ++ last :: more)) :
    List.Forall₂ (MatchesUrb importId) script replies ∧ MatchesUnlink importId last := by
  induction script generalizing replies with
  | nil =>
      obtain rfl := List.length_eq_zero_iff.1 hlength
      exact ⟨.nil, PassesUnlink.matchesUnlink hpass hright.1 hright.2⟩
  | cons urb script ih =>
      rcases replies with _ | ⟨e, replies⟩
      · cases hlength
      · obtain ⟨-, he, hpass'⟩ := hpass
        obtain ⟨hseq, hright'⟩ := hright
        obtain ⟨hreplies, hlast⟩ :=
          ih (Nat.succ.inj hlength) (fun e' he' => hfits e' (by simp [he']))
          hpass' hright'
        exact ⟨.cons (he.matchesUrb (hfits e (by simp)) hseq) hreplies, hlast⟩

/-- **When success means matching replies.**  For every script, import and stream of the peer: if
`run_script` returns `Ok`, then it has read the replies to its commands, exactly if the numbers that
it does not look at are right wherever all else passes. -/
theorem success_matching_iff (desk : Desk) (importId : UInt32) (script : List ScriptedUrb)
    (io : Io Trail) :
    (∀ stats io', exec desk.env (runScript importId script) io = (.ok stats, io') →
      Matching importId script io.input io'.input) ↔
      (desk.opens io.env.opened = true →
        Accepted importId script (StreamCodec.frames Envelope.parse io.input) →
        RightNumbers importId script (StreamCodec.frames Envelope.parse io.input)) := by
  constructor
  · intro hmatching hopen hpass
    obtain ⟨stats, hok⟩ := (runScript_ok_iff desk importId script io).2 ⟨hopen, hpass⟩
    exact (hmatching stats _ (exec_of_fst hok)).rightNumbers
  · intro hright stats io' hexec
    obtain ⟨hopen, hpass⟩ := (runScript_ok_iff desk importId script io).1 ⟨stats, by rw [hexec]⟩
    have hright' := hright hopen hpass
    rw [exec_runScript_open desk importId hopen] at hexec
    obtain ⟨replies, last, hlength, hreads⟩ := drive_reads desk importId hexec
    have hframes := hreads.frames
    rw [List.append_assoc] at hframes
    rw [hframes] at hpass hright'
    obtain ⟨hreplies, hlast⟩ := matches_of_rightNumbers hlength
      (fun e he => hreads.2 e (List.mem_append_left _ he)) hpass hright'
    exact ⟨replies, last, hreads, hreplies, hlast⟩

/-! ### Two peers -/

/-- A stream of the peer, and a transcript that can be opened. -/
def heard (es : List Envelope) : Io Trail := { input := es.flatMap Envelope.bytes, env := {} }

def openDesk : Desk := ⟨fun _ => false, fun _ => true⟩

/-- A RET_SUBMIT of four bytes. -/
def stub : Envelope := packetEnvelope 7 [0, 0, 0, 3]

/-- The driver panics at it. -/
theorem stub_not_survived :
    ¬ ((∃ stats, (exec openDesk.env (runScript 7 (scriptDefault 0 0)) (heard [stub])).1 = .ok stats) ∨
      ∃ err, (exec openDesk.env (runScript 7 (scriptDefault 0 0)) (heard [stub])).1 =
        .error (.err err)) := by
  have hfits : ∀ e ∈ [stub], e.Fits := by
    rw [List.forall_mem_singleton]
    exact fits_packetEnvelope 7 (by decide)
  have hcut : CutSubmit 7 stub :=
    ⟨⟨7, [0, 0, 0, 3]⟩, ⟨rfl, UsbipFrame.parse_encode _, rfl⟩, rfl, by decide⟩
  have hpanic : (exec openDesk.env (runScript 7 (scriptDefault 0 0)) (heard [stub])).1 =
      .error .panic := by
    refine (runScript_panic_iff openDesk 7 _ (heard [stub])).2 ⟨rfl, ?_⟩
    rw [heard, Envelope.codec.frames_wire hfits]
    exact ⟨by decide, .inl hcut⟩
  rw [hpanic]
  simp

/-- The first control write of the script, by itself. -/
def setConfiguration : ScriptedUrb :=
  { label := "SET_CONFIGURATION(1)", seqnum := 4, ep := 0, direction := urbDirOut,
    setup := .of 0x00 0x09 0x01 0x00 0x00 0x00 0x00 0x00,
    transferBufferLength := 0, expectedActualLength := 0 }

/-- A RET_SUBMIT for another command. -/
def stale : Envelope := packetEnvelope 7 (RetSubmit.encode ⟨3, 0, 0, 0, 0, 0, 0, 0, 0⟩)

/-- The RET_UNLINK that the driver waits for. -/
def unlinked : Envelope := packetEnvelope 7 (RetUnlink.encode ⟨9001, 0, 0, 0, 0⟩)

/-- The driver takes the reply to another command for the one it waits for. -/
theorem stale_accepted :
    ¬ ∀ stats io', exec openDesk.env (runScript 7 [setConfiguration]) (heard [stale, unlinked]) =
        (.ok stats, io') →
      Matching 7 [setConfiguration] (heard [stale, unlinked]).input io'.input := by
  have hfits : ∀ e ∈ [stale, unlinked], e.Fits := by
    rw [List.forall_mem_cons, List.forall_mem_singleton]
    exact ⟨fits_packetEnvelope 7 (by decide), fits_packetEnvelope 7 (by decide)⟩
  have hframes : StreamCodec.frames Envelope.parse (heard [stale, unlinked]).input =
      [stale, unlinked] := Envelope.codec.frames_wire hfits
  have hstale : PassesSubmit 7 setConfiguration stale :=
    ⟨⟨7, RetSubmit.encode ⟨3, 0, 0, 0, 0, 0, 0, 0, 0⟩⟩, ⟨rfl, UsbipFrame.parse_encode _, by decide⟩,
      rfl, by decide, by decide, by decide, by decide⟩
  have hunlinked : PassesUnlink unlinked :=
    ⟨⟨7, RetUnlink.encode ⟨9001, 0, 0, 0, 0⟩⟩, ⟨rfl, UsbipFrame.parse_encode _, by decide⟩, by decide,
      by decide⟩
  intro hmatching
  obtain ⟨stats, hok⟩ := (runScript_ok_iff openDesk 7 [setConfiguration]
    (heard [stale, unlinked])).2 ⟨rfl, by rw [hframes]; exact ⟨by decide, hstale, hunlinked⟩⟩
  have hright := (hmatching stats _ (exec_of_fst hok)).rightNumbers
  rw [hframes] at hright
  exact absurd hright.1 (by decide)

end Zerowire

/-
**The session loop of the receiver** (`desktop-linux/src/receiver.rs`, `run_receive`).

After its BIND the receiver reads envelopes.  A BIND_ACK makes it create a virtual device, the
reports that come then are decoded and written to it, an UNBIND or the end of the stream ends the
loop.  All that the loop itself keeps is the device and the sequence number of the last report.
What a report does depends on more: the decoder compares it with the last one, which it keeps in
statics of the process.  So the statics belong here to the surroundings of the loop, together with
`/dev/uinput`, the flag that Ctrl-C raises, and the diagnostic log, of which only the `seq_jump`
events are modelled.

Main definitions:

* `Zerowire.pushReport` — `apply_report`, with its writes;
* `Zerowire.receiverSig`, `Zerowire.Desktop` — the surroundings of the loop;
* `Zerowire.Session`, `Zerowire.handleEnvelope`, `Zerowire.sessionRound`, `Zerowire.runSession` —
  the loop;
* `Zerowire.sessionStep`, `Zerowire.sessionOutcome` — the loop as a function on the envelopes
  received.

Main results:

* `Zerowire.runSession_eq` — **the loop consumes the envelopes of its stream**, and what it does
  rests with them and its surroundings alone;
* `Zerowire.answer_handleFrame_reportIn`, `Zerowire.answer_handleFrame_bindAck`,
  `Zerowire.answer_handleFrame_skip` — what it does for a frame.
-/

import Zerowire.Consumer
import Zerowire.Hid
import Zerowire.Report
import Zerowire.Surroundings
import Zerowire.Wire

set_option relaxedAutoImplicit false
set_option autoImplicit false

namespace Zerowire

open Bytes Program

variable {τ : Type}

/-! ### Writing a report -/

/-- Write events to the device, until one cannot be written. -/
def writeEvents : List InputEvent → Act (uinputSig.withRef ReportState) (Fault String) Unit
  | [] => pure ()
  | e :: es => do
      match ← callOp (X := uinputSig) (.write e) with
      | .ok () => writeEvents es
      | .error text => throw (.err text)

/-- `apply_report`: decode a report and push it through the device.  The variable holds the
statics. -/
def pushReport (body : List UInt8) : Act (uinputSig.withRef ReportState) (Fault String) Unit := do
  let st ← getRef
  let (es, st) ← ofResult (applyReport st body)
  writeEvents es
  setRef st

/-! ### The surroundings -/

/-- What the session loop asks of its surroundings. -/
inductive ReceiverOp where
  /-- `stop.load()`. -/
  | stopped
  /-- `UinputDevice::create`. -/
  | create (profile : DeviceProfile)
  /-- `apply_report`, on the device created last. -/
  | applyReport (body : List UInt8)
  /-- `diag.event("seq_jump", ..)`. -/
  | seqJump (prev got : UInt16)
  deriving Repr, DecidableEq

/-- The answers. -/
@[reducible] def ReceiverOp.Ans : ReceiverOp → Type
  | .stopped => Bool
  | .create _ => Except String Unit
  | .applyReport _ => Except (Fault String) Unit
  | .seqJump _ _ => Unit

/-- The surroundings of the session loop. -/
abbrev receiverSig : Sig := ⟨ReceiverOp, ReceiverOp.Ans⟩

/-- A desktop: its `/dev/uinput`, and the flag that Ctrl-C raises. -/
structure Desktop (τ : Type) where
  uinput : Env uinputSig τ
  stop : τ → Bool

/-- The surroundings on a desktop: the statics of the decoder, and what is beneath. -/
def Desktop.env (desktop : Desktop τ) : Env receiverSig (ReportState × τ)
  | .stopped, s => (desktop.stop s.2, s)
  | .create profile, s =>
      let r := desktop.uinput (.create profile) s.2
      (r.1, (s.1, r.2))
  | .applyReport body, s => answer desktop.uinput.withRef (pushReport body) s
  | .seqJump _ _, s => ((), s)

/-! ### The loop -/

/-- The number of the one binding that the receiver asks for (`let bind_id = 1u8`). -/
def bindId : UInt8 := 1

/-- What the receiver sends to ask for it. -/
def bindFrame (json : Json BindRequest) (busid : String) : HidFrame :=
  ⟨.bind, bindId, 0, json.toVec ⟨busid, "input"⟩⟩

/-- What the loop keeps: the virtual device, as which it was created, and the sequence number of the
last report. -/
structure Session where
  device : Option DeviceProfile := none
  lastSeq : UInt16 := 0
  deriving Repr, DecidableEq

/-- Why the loop ended. -/
inductive SessionEnd where
  | stopped
  | recvError
  | unbound
  deriving Repr, DecidableEq

/-- What makes `run_receive` fail while the loop runs. -/
inductive ReceiveError where
  /-- "parsing HID frame". -/
  | frame (e : HidError)
  /-- "parsing BindAck body". -/
  | bindAck (e : HidError)
  /-- "device kind .. is not yet supported on the Linux receiver". -/
  | unsupported (kind : DeviceKind)
  | create (text : String)
  | report (text : String)
  deriving Repr, DecidableEq

/-- The profile for a device, if its kind is supported. -/
def profileOf (info : BindAckMeta) : Option DeviceProfile :=
  match info.kind with
  | .mouse => some (.mouse ("zerowire: " ++ info.name) info.vendorId info.productId)
  | .keyboard => some (.keyboard ("zerowire: " ++ info.name) info.vendorId info.productId)
  | .gamepad | .other => none

/-- `open_device`. -/
def openDevice (info : BindAckMeta) : Act receiverSig (Fault ReceiveError) DeviceProfile :=
  match profileOf info with
  | none => throw (.err (.unsupported info.kind))
  | some profile => do
      match ← call (X := receiverSig) (.create profile) with
      | .ok () => return profile
      | .error text => throw (.err (.create text))

/-- The sequence number of a report is not the one after the last report's, and there is a last
report, as far as the loop can tell. -/
def Session.Jump (s : Session) (f : HidFrame) : Prop := f.seq ≠ s.lastSeq + 1 ∧ s.lastSeq ≠ 0

instance (s : Session) (f : HidFrame) : Decidable (s.Jump f) := inferInstanceAs (Decidable (_ ∧ _))

/-- Note a jump of the sequence numbers. -/
def noteJump (s : Session) (f : HidFrame) : Act receiverSig (Fault ReceiveError) Unit :=
  if s.Jump f then call (X := receiverSig) (.seqJump s.lastSeq f.seq) else pure ()

/-- Apply a report if there is a device; one that comes before is ignored. -/
def applyIfBound (s : Session) (f : HidFrame) : Act receiverSig (Fault ReceiveError) Unit :=
  if s.device.isSome then do
    let r ← call (X := receiverSig) (.applyReport f.body)
    ofResult (r.mapError (Fault.map .report))
  else pure ()

/-- The arm for a report: note a jump, then apply the report if there is a device. -/
def handleReport (s : Session) (f : HidFrame) : Act receiverSig (Fault ReceiveError) Session := do
  noteJump s f
  applyIfBound s f
  return { s with lastSeq := f.seq }

/-- What is done for a HID frame. -/
def handleFrame (json : Json BindAckMeta) (s : Session) (f : HidFrame) :
    Act receiverSig (Fault ReceiveError) (Session ⊕ SessionEnd) :=
  match f.op with
  | .bindAck => do
      let (info, _) ← ofResult ((parseBindAckBody json f.body).mapError (Fault.map .bindAck))
      let profile ← openDevice info
      return .inl { s with device := some profile }
  | .reportIn => do return .inl (← handleReport s f)
  | .unbind => return .inr .unbound
  | .bind | .reportOut | .reportFeature => return .inl s

/-- What is done for an envelope. -/
def handleEnvelope (json : Json BindAckMeta) (s : Session) (e : Envelope) :
    Act receiverSig (Fault ReceiveError) (Session ⊕ SessionEnd) :=
  match e.channel with
  | .keepalive | .control | .usbip => return .inl s
  | .hid => do
      let f ← ofResult ((HidFrame.parse e.payload).mapError (Fault.map .frame))
      handleFrame json s f

/-- One round of the loop. -/
def sessionRound (json : Json BindAckMeta) (s : Session) :
    Act receiverSig (Fault ReceiveError) (Session ⊕ SessionEnd) := do
  if ← call (X := receiverSig) .stopped then return .inr .stopped
  else
    match ← catchErr Wire.recvEnvelope with
    | .error _ => return .inr .recvError
    | .ok e => handleEnvelope json s e

/-- The session loop of `run_receive`, on a stream that is closed after its last byte. -/
def runSession (json : Json BindAckMeta) (env : Env receiverSig τ) (fuel : ℕ) (s : Session)
    (io : Io τ) : Option (Except (Fault ReceiveError) SessionEnd × Io τ) :=
  loop env (rounds (sessionRound json)) fuel s io

/-! ### The loop on the envelopes received -/

/-- How a round ends: the loop goes on, or it ends. -/
def roundEnd : Except (Fault ReceiveError) (Session ⊕ SessionEnd) × τ →
    (Session × τ) ⊕ (Except (Fault ReceiveError) SessionEnd × τ)
  | (.ok (.inl s), t) => .inl (s, t)
  | (.ok (.inr c), t) => .inr (.ok c, t)
  | (.error err, t) => .inr (.error err, t)

/-- What the loop does with an envelope. -/
def sessionStep (json : Json BindAckMeta) (env : Env receiverSig τ) :
    Consumer.Step Envelope (Session × τ) (Except (Fault ReceiveError) SessionEnd × τ) := fun e st =>
  match env .stopped st.2 with
  | (true, t) => .inr (.ok .stopped, t)
  | (false, t) => roundEnd (answer env (handleEnvelope json st.1 e) t)

/-- What the loop does when nothing is received. -/
def sessionFin (env : Env receiverSig τ) (st : Session × τ) :
    Except (Fault ReceiveError) SessionEnd × τ :=
  match env .stopped st.2 with
  | (true, t) => (.ok .stopped, t)
  | (false, t) => (.ok .recvError, t)

/-- What comes of the envelopes received. -/
def sessionOutcome (json : Json BindAckMeta) (env : Env receiverSig τ) (es : List Envelope)
    (s : Session) (t : τ) : Except (Fault ReceiveError) SessionEnd × τ :=
  Consumer.outcome (sessionStep json env) (sessionFin env) es (s, t)

theorem callsOnly_openDevice (info : BindAckMeta) : CallsOnly (openDevice info) := by
  rw [openDevice]
  split
  · exact .throw _
  · refine .bind (.call _) fun r => ?_
    split
    · exact .pure _
    · exact .throw _

theorem callsOnly_noteJump (s : Session) (f : HidFrame) : CallsOnly (noteJump s f) :=
  .ite (.call _) (.pure _)

theorem callsOnly_applyIfBound (s : Session) (f : HidFrame) : CallsOnly (applyIfBound s f) :=
  .ite (.bind (.call _) fun _ => .ofResult _) (.pure _)

theorem callsOnly_handleReport (s : Session) (f : HidFrame) : CallsOnly (handleReport s f) :=
  .bind (callsOnly_noteJump s f) fun _ => .bind (callsOnly_applyIfBound s f) fun _ => .pure _

/-- What is done for an envelope rests with the surroundings. -/
theorem callsOnly_handleEnvelope (json : Json BindAckMeta) (s : Session) (e : Envelope) :
    CallsOnly (handleEnvelope json s e) := by
  rw [handleEnvelope]
  split
  · exact .pure _
  · exact .pure _
  · exact .pure _
  · refine .bind (.ofResult _) fun f => ?_
    rw [handleFrame]
    split
    · exact .bind (.ofResult _) fun r => .bind (callsOnly_openDevice _) fun _ => .pure _
    · exact .bind (callsOnly_handleReport s f) fun _ => .pure _
    · exact .pure _
    · exact .pure _
    · exact .pure _
    · exact .pure _

section Loop

variable (json : Json BindAckMeta) (env : Env receiverSig τ)

/-- A round that has been told to stop. -/
theorem exec_sessionRound_stopped (s : Session) (io : Io τ) {t : τ}
    (h : env .stopped io.env = (true, t)) :
    exec env (sessionRound json s) io = (.ok (.inr .stopped), { io with env := t }) := by
  have hcall : exec env (call (X := receiverSig) .stopped : Act receiverSig (Fault ReceiveError) _) io =
      (.ok true, { io with env := t }) := by
    rw [exec_call, h]
  rw [sessionRound, exec_bind_ok hcall, if_pos rfl, exec_pure]

/-- A round that has not. -/
theorem exec_sessionRound_reading (s : Session) (io : Io τ) {t : τ}
    (h : env .stopped io.env = (false, t)) :
    exec env (sessionRound json s) io =
      exec env (do
        match ← catchErr Wire.recvEnvelope with
        | .error _ => return .inr .recvError
        | .ok e => handleEnvelope json s e) { io with env := t } := by
  have hcall : exec env (call (X := receiverSig) .stopped : Act receiverSig (Fault ReceiveError) _) io =
      (.ok false, { io with env := t }) := by
    rw [exec_call, h]
  rw [sessionRound, exec_bind_ok hcall, if_neg (by decide)]

/-- The round on a stream that does not start an envelope. -/
theorem run_sessionRound_none (s : Session) (io : Io τ)
    (hno : ∀ r, Envelope.parse io.input ≠ .ok (some r)) :
    ∃ rest, (rounds (sessionRound json) s).run env io =
      (.inr (sessionFin env (s, io.env)).1,
        { io with input := rest, env := (sessionFin env (s, io.env)).2 }) := by
  rw [sessionFin]
  rcases hstop : env .stopped io.env with ⟨stop, t⟩
  cases stop with
  | true => exact ⟨io.input, by rw [run_rounds, exec_sessionRound_stopped json env s io hstop]⟩
  | false =>
      obtain ⟨err, rest, hrecv⟩ := exec_recvEnvelopeWith_of_not_parse env "reading envelope header"
        "reading envelope payload" (s := { io with env := t }) hno
      refine ⟨rest, ?_⟩
      rw [run_rounds, exec_sessionRound_reading json env s io hstop, Wire.recvEnvelope,
        exec_bind_ok (exec_catchErr_err hrecv)]
      rfl

/-- The round on a stream that starts an envelope. -/
theorem run_sessionRound_some (s : Session) (io : Io τ) (e : Envelope) (n : ℕ)
    (hparse : Envelope.parse io.input = .ok (some (e, n))) {t : τ}
    (hstop : env .stopped io.env = (false, t)) :
    (rounds (sessionRound json) s).run env io =
      match answer env (handleEnvelope json s e) t with
      | (.ok (.inl s'), t') => (.inl s', { io with input := io.input.drop n, env := t' })
      | (.ok (.inr c), t') => (.inr (.ok c), { io with input := io.input.drop n, env := t' })
      | (.error err, t') =>
          (.inr (.error err), { io with input := io.input.drop n, env := t' }) := by
  have hrecv := exec_recvEnvelopeWith_of_parse env "reading envelope header"
    "reading envelope payload" (s := { io with env := t }) hparse
  rw [run_rounds, exec_sessionRound_reading json env s io hstop, Wire.recvEnvelope,
    exec_bind_ok (exec_catchErr_ok hrecv)]
  simp only
  rw [(callsOnly_handleEnvelope json s e).exec_eq env]
  rcases answer env (handleEnvelope json s e) t with ⟨err | s' | c, t'⟩
  · rfl
  · rfl
  · rfl

/-- A round that goes on takes the envelope off the stream. -/
theorem run_sessionRound_inl (s : Session) (io : Io τ) (e : Envelope) (n : ℕ) (s' : Session) (t : τ)
    (hparse : Envelope.parse io.input = .ok (some (e, n)))
    (hstep : sessionStep json env e (s, io.env) = .inl (s', t)) :
    (rounds (sessionRound json) s).run env io =
      (.inl s', { io with input := io.input.drop n, env := t }) := by
  rw [sessionStep] at hstep
  rcases hstop : env .stopped io.env with ⟨stop, t₀⟩
  rw [hstop] at hstep
  cases stop with
  | true => cases hstep
  | false =>
      simp only at hstep
      rw [run_sessionRound_some json env s io e n hparse hstop]
      rcases hanswer : answer env (handleEnvelope json s e) t₀ with ⟨err | s₁ | c, t₁⟩
      · rw [hanswer] at hstep
        cases hstep
      · rw [hanswer] at hstep
        cases hstep
        rfl
      · rw [hanswer] at hstep
        cases hstep

/-- A round that ends the loop. -/
theorem run_sessionRound_inr (s : Session) (io : Io τ) (e : Envelope) (n : ℕ)
    (r : Except (Fault ReceiveError) SessionEnd) (t : τ)
    (hparse : Envelope.parse io.input = .ok (some (e, n)))
    (hstep : sessionStep json env e (s, io.env) = .inr (r, t)) :
    ∃ rest, (rounds (sessionRound json) s).run env io =
      (.inr r, { io with input := rest, env := t }) := by
  rw [sessionStep] at hstep
  rcases hstop : env .stopped io.env with ⟨stop, t₀⟩
  rw [hstop] at hstep
  cases stop with
  | true =>
      cases hstep
      exact ⟨io.input, by rw [run_rounds, exec_sessionRound_stopped json env s io hstop]⟩
  | false =>
      simp only at hstep
      rw [run_sessionRound_some json env s io e n hparse hstop]
      rcases hanswer : answer env (handleEnvelope json s e) t₀ with ⟨err | s₁ | c, t₁⟩
      · rw [hanswer] at hstep
        cases hstep
        exact ⟨_, rfl⟩
      · rw [hanswer] at hstep
        cases hstep
      · rw [hanswer] at hstep
        cases hstep
        exact ⟨_, rfl⟩

/-- **The loop consumes the envelopes of its stream.** -/
theorem runSession_eq (s : Session) (io : Io τ) :
    ∃ rest, ∀ fuel, io.input.length < fuel →
      runSession json env fuel s io =
        some ((sessionOutcome json env (StreamCodec.frames Envelope.parse io.input) s io.env).1,
          { io with
            input := rest
            env :=
              (sessionOutcome json env (StreamCodec.frames Envelope.parse io.input) s io.env).2 }) := by
  obtain ⟨rest, hrest⟩ := Consumer.loop_frames Envelope.codec.toStable (sessionStep json env)
    (sessionFin env) (run_sessionRound_none json env) (run_sessionRound_inl json env)
    (run_sessionRound_inr json env) (io.input.length + 1) s io
    (Nat.lt_succ_self _)
  exact ⟨rest, fun fuel hfuel => loop_mono hfuel hrest⟩

/-! ### What is done for an envelope -/

/-- The envelope carries the HID frame. -/
def Carries (e : Envelope) (f : HidFrame) : Prop :=
  e.channel = .hid ∧ HidFrame.parse e.payload = .ok f

/-- The envelope of a frame. -/
def HidFrame.envelope (f : HidFrame) : Envelope := ⟨.hid, f.encode⟩

theorem carries_envelope (f : HidFrame) : Carries f.envelope f := ⟨rfl, HidFrame.parse_encode f⟩

theorem Carries.unique {e : Envelope} {f g : HidFrame} (hf : Carries e f) (hg : Carries e g) :
    f = g :=
  Except.ok.inj (hf.2.symm.trans hg.2)

/-- Envelopes of the other channels are skipped. -/
theorem answer_handleEnvelope_other {e : Envelope} (h : e.channel ≠ .hid) (s : Session) (t : τ) :
    answer env (handleEnvelope json s e) t = (.ok (.inl s), t) := by
  rw [handleEnvelope]
  split
  · rfl
  · rfl
  · rfl
  · next hid => exact absurd hid h

theorem answer_handleEnvelope_frame {e : Envelope} {f : HidFrame} (h : Carries e f) (s : Session)
    (t : τ) : answer env (handleEnvelope json s e) t = answer env (handleFrame json s f) t := by
  obtain ⟨hchan, hparse⟩ := h
  rw [handleEnvelope, hchan]
  simp only
  rw [answer_bind env (.ofResult _), hparse]
  rfl

/-- A payload that is no frame ends the session. -/
theorem answer_handleEnvelope_fault {e : Envelope} (hchan : e.channel = .hid)
    {err : Fault HidError} (hparse : HidFrame.parse e.payload = .error err) (s : Session) (t : τ) :
    answer env (handleEnvelope json s e) t = (.error (err.map .frame), t) := by
  rw [handleEnvelope, hchan]
  simp only
  rw [answer_bind env (.ofResult _), hparse]
  rfl

theorem answer_noteJump (s : Session) (f : HidFrame) (t : τ) :
    answer env (noteJump s f) t =
      (.ok (), if s.Jump f then (env (.seqJump s.lastSeq f.seq) t).2 else t) := by
  rw [noteJump]
  split_ifs
  · rfl
  · rfl

/-- A report that comes before a device only counts. -/
theorem answer_handleReport_unbound {s : Session} (h : s.device = none) (f : HidFrame) (t : τ) :
    answer env (handleReport s f) t =
      (.ok { s with lastSeq := f.seq },
        if s.Jump f then (env (.seqJump s.lastSeq f.seq) t).2 else t) := by
  have happly : applyIfBound s f = pure () := by
    rw [applyIfBound, h]
    rfl
  rw [handleReport, answer_bind env (callsOnly_noteJump s f), answer_noteJump, happly]
  rfl

/-- A report is applied if there is a device, and the session ends if that fails. -/
theorem answer_handleReport_bound {s : Session} (h : s.device.isSome = true) (f : HidFrame)
    (t : τ) :
    answer env (handleReport s f) t =
      match env (.applyReport f.body)
        (if s.Jump f then (env (.seqJump s.lastSeq f.seq) t).2 else t) with
      | (.ok (), t') => (.ok { s with lastSeq := f.seq }, t')
      | (.error err, t') => (.error (err.map .report), t') := by
  rw [handleReport, answer_bind env (callsOnly_noteJump s f), answer_noteJump]
  simp only
  rw [answer_bind env (callsOnly_applyIfBound s f), applyIfBound, if_pos h,
    answer_bind env (.call _), answer_call]
  simp only
  rcases env (.applyReport f.body) _ with ⟨err | ⟨⟩, t'⟩
  · rfl
  · rfl

/-- A BIND_ACK for a device of a supported kind has it created, and the session ends if that
fails. -/
theorem answer_handleFrame_bindAck {f : HidFrame} (hop : f.op = .bindAck) {info : BindAckMeta}
    {descriptor : List UInt8} (hbody : parseBindAckBody json f.body = .ok (info, descriptor))
    {profile : DeviceProfile} (hprofile : profileOf info = some profile) (s : Session) (t : τ) :
    answer env (handleFrame json s f) t =
      match env (.create profile) t with
      | (.ok (), t') => (.ok (.inl { s with device := some profile }), t')
      | (.error text, t') => (.error (.err (.create text)), t') := by
  rw [handleFrame, hop]
  simp only
  rw [answer_bind env (.ofResult _), hbody]
  simp only [mapError_ok, answer_ofResult]
  rw [answer_bind env (callsOnly_openDevice info), openDevice, hprofile]
  simp only
  rw [answer_bind env (.call _), answer_call]
  simp only
  rcases env (.create profile) t with ⟨text | ⟨⟩, t'⟩
  · rfl
  · rfl

/-- Any other BIND_ACK ends the session. -/
theorem answer_handleFrame_bindAck_fault {f : HidFrame} (hop : f.op = .bindAck)
    (h : ∀ info descriptor, parseBindAckBody json f.body = .ok (info, descriptor) →
      profileOf info = none) (s : Session) (t : τ) :
    ∃ err, answer env (handleFrame json s f) t = (.error err, t) := by
  rw [handleFrame, hop]
  simp only
  rw [answer_bind env (.ofResult _)]
  rcases hbody : parseBindAckBody json f.body with err | ⟨info, descriptor⟩
  · exact ⟨_, rfl⟩
  · simp only [mapError_ok, answer_ofResult]
    rw [answer_bind env (callsOnly_openDevice info), openDevice, h info descriptor hbody]
    exact ⟨_, rfl⟩

theorem answer_handleFrame_reportIn {f : HidFrame} (hop : f.op = .reportIn) (s : Session) (t : τ) :
    answer env (handleFrame json s f) t =
      match answer env (handleReport s f) t with
      | (.ok s', t') => (.ok (.inl s'), t')
      | (.error err, t') => (.error err, t') := by
  rw [handleFrame, hop]
  simp only
  rw [answer_bind env (callsOnly_handleReport s f)]
  rcases answer env (handleReport s f) t with ⟨err | s', t'⟩
  · rfl
  · rfl

theorem answer_handleFrame_unbind {f : HidFrame} (hop : f.op = .unbind) (s : Session) (t : τ) :
    answer env (handleFrame json s f) t = (.ok (.inr .unbound), t) := by
  rw [handleFrame, hop]
  rfl

/-- The other frames are skipped. -/
theorem answer_handleFrame_skip {f : HidFrame}
    (hop : f.op = .bind ∨ f.op = .reportOut ∨ f.op = .reportFeature) (s : Session) (t : τ) :
    answer env (handleFrame json s f) t = (.ok (.inl s), t) := by
  rw [handleFrame]
  rcases hop with hop | hop | hop
  · rw [hop]
    rfl
  · rw [hop]
    rfl
  · rw [hop]
    rfl

end Loop

end Zerowire

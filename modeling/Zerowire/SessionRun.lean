/-
**Runs of the session loop of the receiver.**

What can be seen of a session is why it ended, what was asked of `/dev/uinput`, which devices it
created and what was written to each of them, and the jumps of the sequence numbers it noted.  All of it is read off two logs here, that
of the calls of the loop (`Zerowire/Receiver.lean`) and that of the operations of `/dev/uinput`
beneath it.

Two questions are asked.  The first is whether other traffic on the socket can disturb a session.
The second is whose reports a session takes.  A frame names the binding it belongs to, so that
several can share a socket, and a BIND_ACK names the device; the loop looks at neither.

Main definitions:

* `Zerowire.Desktop.logged`, `Zerowire.devicesOf`, `Zerowire.jumpsOf`, `Zerowire.observe` — what can
  be seen of a session;
* `Zerowire.Noise` — other traffic;
* `Zerowire.AppliesReport`, `Zerowire.lastAck`, `Zerowire.ForBinding` — which report is applied, and
  for which binding;
* `Zerowire.Addressed` — the frame belongs to the binding that was asked for.

Main results:

* `Zerowire.session_undisturbed` — **other traffic does not disturb a session**, and nothing is
  written before the first BIND_ACK or after the first UNBIND;
* `Zerowire.reports_for_binding` — **whose reports are applied**.
-/

import Zerowire.Receiver

set_option relaxedAutoImplicit false
set_option autoImplicit false

namespace Zerowire

open Bytes Program

variable {τ : Type}

/-! ### What can be seen of a session -/

/-- The calls of the loop that leave a trace: all but looking at the flag. -/
def ReceiverOp.logged : ReceiverOp → Bool
  | .stopped => false
  | .create _ | .applyReport _ | .seqJump _ _ => true

/-- The calls of the loop, the statics of the decoder, the operations of `/dev/uinput`, and its
state. -/
abbrev SessionLog (τ : Type) := List (Call receiverSig) × ReportState × List (Call uinputSig) × τ

/-- The desktop with a log of the operations of `/dev/uinput`. -/
def Desktop.watched (desktop : Desktop τ) : Desktop (List (Call uinputSig) × τ) where
  uinput := desktop.uinput.traced fun _ => true
  stop s := desktop.stop s.2

/-- The surroundings on a desktop with both logs. -/
def Desktop.logged (desktop : Desktop τ) : Env receiverSig (SessionLog τ) :=
  desktop.watched.env.traced ReceiverOp.logged

/-- An operation that worked makes a new device, or is an event more for the one made last. -/
def addCall (devices : List (DeviceProfile × List InputEvent)) :
    Call uinputSig → List (DeviceProfile × List InputEvent)
  | ⟨_, .error _⟩ => devices
  | ⟨.create profile, .ok ()⟩ => (profile, []) :: devices
  | ⟨.write e, .ok ()⟩ =>
      match devices with
      | [] => []
      | (profile, es) :: devices => (profile, es ++ [e]) :: devices

/-- The devices created, the last one first, with the events written to each. -/
def devicesOf (calls : List (Call uinputSig)) : List (DeviceProfile × List InputEvent) :=
  calls.foldl addCall []

/-- The jumps noted. -/
def jumpsOf (calls : List (Call receiverSig)) : List (UInt16 × UInt16) :=
  calls.filterMap fun c =>
    match c.1 with
    | .seqJump prev got => some (prev, got)
    | .stopped | .create _ | .applyReport _ => none

/-- What can be seen of a session. -/
structure SessionRecord where
  ended : Except (Fault ReceiveError) SessionEnd
  operations : List UinputOp
  devices : List (DeviceProfile × List InputEvent)
  jumps : List (UInt16 × UInt16)
  deriving DecidableEq

/-- The record of what came of a session. -/
def recordOf (r : Except (Fault ReceiveError) SessionEnd × SessionLog τ) : SessionRecord :=
  ⟨r.1, r.2.2.2.1.map Sigma.fst, devicesOf r.2.2.2.1, jumpsOf r.2.1⟩

/-- **What can be seen of a session** that reads the given stream. -/
def observe (json : Json BindAckMeta) (desktop : Desktop τ) (statics : ReportState) (t : τ)
    (fuel : ℕ) (input : List UInt8) : Option SessionRecord :=
  (runSession json desktop.logged fuel {} { input, env := ([], statics, [], t) }).map fun r =>
    recordOf (r.1, r.2.env)

theorem Desktop.watched_uinput (desktop : Desktop τ) (o : UinputOp)
    (s : List (Call uinputSig) × τ) :
    desktop.watched.uinput o s =
      ((desktop.uinput o s.2).1, (s.1 ++ [⟨o, (desktop.uinput o s.2).1⟩], (desktop.uinput o s.2).2)) :=
  rfl

theorem Desktop.logged_stopped (desktop : Desktop τ) (log : SessionLog τ) :
    desktop.logged .stopped log = (desktop.stop log.2.2.2, log) := rfl

section Observe

variable (json : Json BindAckMeta) (desktop : Desktop τ)

theorem sessionStep_stopped {log : SessionLog τ} (h : desktop.stop log.2.2.2 = true) (e : Envelope)
    (s : Session) : sessionStep json desktop.logged e (s, log) = .inr (.ok .stopped, log) := by
  rw [sessionStep, desktop.logged_stopped, h]

theorem sessionStep_reading {log : SessionLog τ} (h : desktop.stop log.2.2.2 = false) (e : Envelope)
    (s : Session) :
    sessionStep json desktop.logged e (s, log) =
      roundEnd (answer desktop.logged (handleEnvelope json s e) log) := by
  rw [sessionStep, desktop.logged_stopped, h]

theorem sessionFin_log (st : Session × SessionLog τ) : (sessionFin desktop.logged st).2 = st.2 := by
  rw [sessionFin, desktop.logged_stopped]
  cases desktop.stop st.2.2.2.2 with
  | true => rfl
  | false => rfl

/-- What can be seen of a session is what comes of the envelopes received. -/
theorem observe_eq (statics : ReportState) (t : τ) (input : List UInt8) {fuel : ℕ}
    (hfuel : input.length < fuel) :
    observe json desktop statics t fuel input =
      some (recordOf (sessionOutcome json desktop.logged (StreamCodec.frames Envelope.parse input) {}
        ([], statics, [], t))) := by
  obtain ⟨rest, hrun⟩ := runSession_eq json desktop.logged {}
    { input, env := (([], statics, [], t) : SessionLog τ) }
  rw [observe, hrun fuel hfuel]
  rfl

/-! ### Other traffic -/

/-- Other traffic: an envelope of another channel, or a frame that the receiver has no use for. -/
def Noise (e : Envelope) : Prop :=
  e.channel ≠ .hid ∨
    ∃ f, Carries e f ∧ (f.op = .bind ∨ f.op = .reportOut ∨ f.op = .reportFeature)

/-- Nothing is done for other traffic. -/
theorem answer_noise {e : Envelope} (h : Noise e) (s : Session) (log : SessionLog τ) :
    answer desktop.logged (handleEnvelope json s e) log = (.ok (.inl s), log) := by
  rcases h with hchan | ⟨f, hf, hop⟩
  · exact answer_handleEnvelope_other json _ hchan s log
  · rw [answer_handleEnvelope_frame json _ hf, answer_handleFrame_skip json _ hop]

/-- The loop does not care about other traffic, whatever its state. -/
theorem idle_of_noise {e : Envelope} (h : Noise e) :
    Consumer.Idle (sessionStep json desktop.logged) (sessionFin desktop.logged) e := by
  rintro ⟨s, log⟩
  by_cases hstop : desktop.stop log.2.2.2 = true
  · right
    intro e'
    rw [sessionStep_stopped json desktop hstop, sessionFin, desktop.logged_stopped, hstop]
  · rw [Bool.not_eq_true] at hstop
    left
    rw [sessionStep_reading json desktop hstop, answer_noise json desktop h]
    rfl

/-- The operation of a step that is no BIND_ACK, before there is a device: none. -/
theorem answer_unbound {e : Envelope} (hack : ∀ f, Carries e f → f.op ≠ .bindAck) {s : Session}
    (hs : s.device = none) (log : SessionLog τ) :
    (answer desktop.logged (handleEnvelope json s e) log).2.2 = log.2 ∧
      ∀ s', (answer desktop.logged (handleEnvelope json s e) log).1 = .ok (.inl s') →
        s'.device = none := by
  by_cases hchan : e.channel = .hid
  · rcases hparse : HidFrame.parse e.payload with err | f
    · rw [answer_handleEnvelope_fault json _ hchan hparse]
      exact ⟨rfl, fun s' h => by cases h⟩
    · have hf : Carries e f := ⟨hchan, hparse⟩
      rw [answer_handleEnvelope_frame json _ hf]
      cases hop : f.op with
      | bindAck => exact absurd hop (hack f hf)
      | reportIn =>
          rw [answer_handleFrame_reportIn json _ hop, answer_handleReport_unbound _ hs]
          simp only
          split_ifs
          · exact ⟨rfl, fun s' h => by cases h; exact hs⟩
          · exact ⟨rfl, fun s' h => by cases h; exact hs⟩
      | unbind =>
          rw [answer_handleFrame_unbind json _ hop]
          exact ⟨rfl, fun s' h => by cases h⟩
      | bind | reportOut | reportFeature =>
          rw [answer_handleFrame_skip json _ (by simp [hop])]
          exact ⟨rfl, fun s' h => by cases h; exact hs⟩
  · rw [answer_handleEnvelope_other json _ hchan]
    exact ⟨rfl, fun s' h => by cases h; exact hs⟩

/-- Without a BIND_ACK nothing is asked of `/dev/uinput`. -/
theorem outcome_unbound {es : List Envelope}
    (hack : ∀ e ∈ es, ∀ f, Carries e f → f.op ≠ .bindAck) (log : SessionLog τ) :
    (sessionOutcome json desktop.logged es {} log).2.2 = log.2 := by
  -- the invariant: there is no device, and the log of its calls is as it was
  refine Consumer.outcome_inv
    (I := fun st : Session × SessionLog τ => st.1.device = none ∧ st.2.2 = log.2)
    (J := fun r : Except (Fault ReceiveError) SessionEnd × SessionLog τ => r.2.2 = log.2)
    ?_ ?_ ⟨rfl, rfl⟩
  · rintro e he ⟨s, log'⟩ ⟨hs, hlog⟩
    by_cases hstop : desktop.stop log'.2.2.2 = true
    · rw [sessionStep_stopped json desktop hstop]
      exact ⟨fun _ h => (by cases h), fun _ h => (by cases h; exact hlog)⟩
    · rw [Bool.not_eq_true] at hstop
      obtain ⟨hcalls, hnext⟩ := answer_unbound json desktop (hack e he) hs log'
      rw [sessionStep_reading json desktop hstop]
      rcases hanswer : answer desktop.logged (handleEnvelope json s e) log' with ⟨err | s' | c, log₁⟩
      · rw [hanswer] at hcalls
        exact ⟨fun _ h => (by cases h), fun _ h => (by cases h; exact hcalls.trans hlog)⟩
      · rw [hanswer] at hcalls hnext
        refine ⟨fun _ h => ?_, fun _ h => (by cases h)⟩
        cases h
        exact ⟨hnext s' rfl, hcalls.trans hlog⟩
      · rw [hanswer] at hcalls
        exact ⟨fun _ h => (by cases h), fun _ h => (by cases h; exact hcalls.trans hlog)⟩
  · rintro st ⟨-, hlog⟩
    rw [sessionFin_log]
    exact hlog

/-- Nothing is done for an UNBIND and what follows it. -/
theorem outcome_unbind {u : Envelope} {f : HidFrame} (hu : Carries u f) (hop : f.op = .unbind)
    (pre post : List Envelope) (log : SessionLog τ) :
    (sessionOutcome json desktop.logged (pre ++ u :: post) {} log).2 =
      (sessionOutcome json desktop.logged pre {} log).2 := by
  have hstep (st : Session × SessionLog τ) :
      ∃ c, sessionStep json desktop.logged u st = .inr (.ok c, st.2) := by
    by_cases hstop : desktop.stop st.2.2.2.2 = true
    · exact ⟨_, sessionStep_stopped json desktop hstop u st.1⟩
    · rw [Bool.not_eq_true] at hstop
      refine ⟨.unbound, ?_⟩
      rw [sessionStep_reading json desktop hstop, answer_handleEnvelope_frame json _ hu,
        answer_handleFrame_unbind json _ hop]
      rfl
  rw [sessionOutcome, sessionOutcome, Consumer.outcome, Consumer.outcome, Consumer.run_append]
  rcases Consumer.run (sessionStep json desktop.logged) pre ({}, log) with st | r
  · obtain ⟨c, hc⟩ := hstep st
    simp only
    rw [Consumer.run_cons_inr hc, sessionFin_log]
  · rfl

/-- **Other traffic does not disturb a session.**  On any stream: if other traffic is put between
the envelopes at any positions, the same can be seen of the session.  As long as there is no
BIND_ACK, nothing is asked of `/dev/uinput`: no device is created and no event is written.  And what
comes after an UNBIND makes no difference to what is asked of it. -/
theorem session_undisturbed (statics : ReportState) (t : τ) (input : List UInt8) :
    (∀ input', Consumer.Inserted Noise (StreamCodec.frames Envelope.parse input)
        (StreamCodec.frames Envelope.parse input') →
      ∃ record,
        (∀ fuel, input.length < fuel → observe json desktop statics t fuel input = some record) ∧
        ∀ fuel, input'.length < fuel → observe json desktop statics t fuel input' = some record) ∧
    ((∀ e ∈ StreamCodec.frames Envelope.parse input, ∀ f, Carries e f → f.op ≠ .bindAck) →
      ∃ record,
        (∀ fuel, input.length < fuel → observe json desktop statics t fuel input = some record) ∧
        record.operations = [] ∧ record.devices = []) ∧
    ∀ before u f post, StreamCodec.frames Envelope.parse input =
        StreamCodec.frames Envelope.parse before ++ u :: post → Carries u f → f.op = .unbind →
      ∃ record record',
        (∀ fuel, input.length < fuel → observe json desktop statics t fuel input = some record) ∧
        (∀ fuel, before.length < fuel → observe json desktop statics t fuel before = some record') ∧
        record.operations = record'.operations ∧ record.devices = record'.devices := by
  refine ⟨?_, ?_, ?_⟩
  · intro input' h
    refine ⟨_, fun fuel hfuel => observe_eq json desktop statics t input hfuel, fun fuel hfuel => ?_⟩
    rw [observe_eq json desktop statics t input' hfuel, sessionOutcome, sessionOutcome,
      h.outcome_eq fun e he => idle_of_noise json desktop he]
  · intro hack
    refine ⟨_, fun fuel hfuel => observe_eq json desktop statics t input hfuel, ?_⟩
    rw [recordOf, outcome_unbound json desktop hack]
    exact ⟨rfl, rfl⟩
  · intro before u f post hframes hu hop
    refine ⟨_, _, fun fuel hfuel => observe_eq json desktop statics t input hfuel,
      fun fuel hfuel => observe_eq json desktop statics t before hfuel, ?_⟩
    rw [recordOf, recordOf, hframes, outcome_unbind json desktop hu hop]
    exact ⟨rfl, rfl⟩

/-! ### Whose reports are applied -/

/-- The calls of the loop so far, after a step. -/
def callsAfter :
    (Session × SessionLog τ) ⊕ (Except (Fault ReceiveError) SessionEnd × SessionLog τ) →
      List (Call receiverSig)
  | .inl (_, log) => log.1
  | .inr (_, log) => log.1

/-- **The step hands the body to `apply_report`**: the call is among those of the step. -/
def AppliesReport (e : Envelope) (st : Session × SessionLog τ) (body : List UInt8) : Prop :=
  ∃ calls, callsAfter (sessionStep json desktop.logged e st) = st.2.1 ++ calls ∧
    ∃ c ∈ calls, c.1 = .applyReport body

/-- The BIND_ACK that an envelope carries, with what it says of the device. -/
def ackOf (e : Envelope) : Option (HidFrame × BindAckMeta) :=
  if e.channel = .hid then
    (HidFrame.parse e.payload).toOption.bind fun f =>
      if f.op = .bindAck then (parseBindAckBody json f.body).toOption.map fun r =>
        (f, r.1) else none
  else none

/-- The last BIND_ACK among the envelopes: the one that created the device there is. -/
def lastAck (es : List Envelope) : Option (HidFrame × BindAckMeta) :=
  (es.filterMap (ackOf json)).getLast?

/-- The envelope carries a report with the given body, of the binding that the last BIND_ACK among
the others created, and this BIND_ACK answered the receiver's own BIND. -/
def ForBinding (busid : String) (pre : List Envelope) (e : Envelope) (body : List UInt8) : Prop :=
  ∃ f ack info, Carries e f ∧ f.op = .reportIn ∧ f.body = body ∧
  lastAck json pre = some (ack, info) ∧
    f.bindId = ack.bindId ∧ ack.bindId = bindId ∧ info.busid = busid

/-- The envelope belongs to the binding asked for, as far as it is a report or a BIND_ACK. -/
def Addressed (busid : String) (e : Envelope) : Prop :=
  ∀ f, Carries e f →
    (f.op = .reportIn → f.bindId = bindId) ∧
    (f.op = .bindAck → f.bindId = bindId ∧
      ∀ info descriptor, parseBindAckBody json f.body = .ok (info, descriptor) → info.busid = busid)

theorem ackOf_eq_some {e : Envelope} {f : HidFrame} {info : BindAckMeta} :
    ackOf json e = some (f, info) ↔
      Carries e f ∧ f.op = .bindAck ∧ ∃ descriptor, parseBindAckBody json f.body =
        .ok (info, descriptor)
      := by
  rw [ackOf]
  constructor
  · intro h
    split_ifs at h with hchan
    rcases hparse : HidFrame.parse e.payload with err | g
    · rw [hparse] at h
      cases h
    · rw [hparse, toOption_ok, Option.bind_some] at h
      split_ifs at h with hop
      rcases hbody : parseBindAckBody json g.body with err | ⟨info', descriptor⟩
      · rw [hbody] at h
        cases h
      · rw [hbody] at h
        cases h
        exact ⟨⟨hchan, hparse⟩, hop, descriptor, hbody⟩
  · rintro ⟨⟨hchan, hparse⟩, hop, descriptor, hbody⟩
    rw [if_pos hchan, hparse, toOption_ok, Option.bind_some, if_pos hop, hbody]
    rfl

theorem lastAck_concat (es : List Envelope) (e : Envelope) :
    lastAck json (es ++ [e]) = (ackOf json e).or (lastAck json es) := by
  rw [lastAck, List.filterMap_append]
  rcases hack : ackOf json e with _ | ack
  · rw [List.filterMap_cons_none hack, List.filterMap_nil, List.append_nil, Option.none_or, lastAck]
  · rw [List.filterMap_cons_some hack, List.filterMap_nil, List.getLast?_concat, Option.some_or]

/-- What an operation that leaves a trace adds to the calls. -/
theorem logged_calls {o : ReceiverOp} (h : o.logged = true) (log : SessionLog τ) :
    ∃ c : Call receiverSig, c.1 = o ∧ (desktop.logged o log).2.1 = log.1 ++ [c] :=
  ⟨⟨o, _⟩, rfl, by rw [Desktop.logged, Env.traced_keep _ h]⟩

/-- The operations that leave a trace, of the step for a frame. -/
def frameOps (s : Session) (f : HidFrame) : List ReceiverOp :=
  match f.op with
  | .bindAck =>
      (((parseBindAckBody json f.body).toOption.bind fun r => profileOf r.1).map .create).toList
  | .reportIn =>
      (if s.Jump f then [.seqJump s.lastSeq f.seq] else []) ++
        if s.device.isSome then [.applyReport f.body] else []
  | .bind | .reportOut | .reportFeature | .unbind => []

/-- The operations that leave a trace, of the step for an envelope. -/
def envelopeOps (s : Session) (e : Envelope) : List ReceiverOp :=
  if e.channel = .hid then
    match HidFrame.parse e.payload with
    | .ok f => frameOps json s f
    | .error _ => []
  else []

theorem mem_envelopeOps {s : Session} {e : Envelope} {o : ReceiverOp} :
    o ∈ envelopeOps json s e ↔ ∃ f, Carries e f ∧ o ∈ frameOps json s f := by
  rw [envelopeOps]
  by_cases hchan : e.channel = .hid
  · rw [if_pos hchan]
    rcases hparse : HidFrame.parse e.payload with err | f
    · refine iff_of_false (by simp) ?_
      rintro ⟨f, ⟨-, hf⟩, -⟩
      rw [hparse] at hf
      cases hf
    · have hf : Carries e f := ⟨hchan, hparse⟩
      constructor
      · intro ho
        exact ⟨f, hf, ho⟩
      · rintro ⟨g, hg, ho⟩
        rwa [hg.unique hf] at ho
  · rw [if_neg hchan]
    exact iff_of_false (by simp) fun ⟨f, hf, _⟩ => hchan hf.1

/-- The calls of a part of the loop, from one log to another: their operations. -/
def Made (ops : List ReceiverOp) (before after : List (Call receiverSig)) : Prop :=
  ∃ calls, after = before ++ calls ∧ calls.map Sigma.fst = ops

theorem Made.none (log : List (Call receiverSig)) : Made [] log log := ⟨[], by simp, rfl⟩

theorem Made.append {ops ops' : List ReceiverOp} {before mid after : List (Call receiverSig)}
    (h : Made ops before mid) (h' : Made ops' mid after) : Made (ops ++ ops') before after := by
  obtain ⟨calls, rfl, rfl⟩ := h
  obtain ⟨calls', rfl, rfl⟩ := h'
  exact ⟨calls ++ calls', by rw [List.append_assoc], by rw [List.map_append]⟩

/-- An operation that leaves a trace. -/
theorem made_logged {o : ReceiverOp} (h : o.logged = true) (log : SessionLog τ) :
    Made [o] log.1 (desktop.logged o log).2.1 := by
  obtain ⟨c, hc, hlog⟩ := logged_calls desktop h log
  exact ⟨[c], hlog, by rw [List.map_singleton, hc]⟩

/-- What a report makes the loop do. -/
theorem made_handleReport {f : HidFrame} (hop : f.op = .reportIn) (s : Session)
    (log : SessionLog τ) :
    Made (frameOps json s f) log.1 (answer desktop.logged (handleReport s f) log).2.1 := by
  have hjump : Made (if s.Jump f then [.seqJump s.lastSeq f.seq] else []) log.1
      (if s.Jump f then (desktop.logged (.seqJump s.lastSeq f.seq) log).2 else log).1 := by
    split_ifs
    · exact made_logged desktop rfl log
    · exact .none _
  rw [frameOps, hop]
  simp only
  by_cases hdev : s.device.isSome = true
  · rw [if_pos hdev, answer_handleReport_bound _ hdev]
    refine hjump.append ?_
    generalize (if s.Jump f then (desktop.logged (.seqJump s.lastSeq f.seq) log).2 else log) = log₁
    have happly := made_logged desktop (o := .applyReport f.body) rfl log₁
    rcases hcall : desktop.logged (.applyReport f.body) log₁ with ⟨err | ⟨⟩, log₂⟩
    · rwa [hcall] at happly
    · rwa [hcall] at happly
  · rw [if_neg hdev, answer_handleReport_unbound _ (by simpa using hdev), List.append_nil]
    exact hjump

/-- What a BIND_ACK makes the loop do. -/
theorem made_bindAck {f : HidFrame} (hop : f.op = .bindAck) (s : Session) (log : SessionLog τ) :
    Made (frameOps json s f) log.1 (answer desktop.logged (handleFrame json s f) log).2.1 := by
  rw [frameOps, hop]
  simp only
  rcases hprofile : (parseBindAckBody json f.body).toOption.bind fun r => profileOf r.1 with
    _ | profile
  · have hfault (info : BindAckMeta) (descriptor : List UInt8)
        (hbody : parseBindAckBody json f.body = .ok (info, descriptor)) :
          profileOf info = none := by
      rwa [hbody, toOption_ok, Option.bind_some] at hprofile
    obtain ⟨err, hanswer⟩ := answer_handleFrame_bindAck_fault json desktop.logged hop hfault s log
    rw [hanswer]
    exact .none _
  · obtain ⟨⟨info, descriptor⟩, hparse, hinfo⟩ := Option.bind_eq_some_iff.1 hprofile
    rcases hbody : parseBindAckBody json f.body with err | r
    · rw [hbody] at hparse
      cases hparse
    · rw [hbody] at hparse
      cases hparse
      have hcreate := made_logged desktop (o := .create profile) rfl log
      rw [answer_handleFrame_bindAck json _ hop hbody hinfo]
      rcases hcall : desktop.logged (.create profile) log with ⟨text | ⟨⟩, log'⟩
      · rwa [hcall] at hcreate
      · rwa [hcall] at hcreate

/-- **What the loop asks for an envelope.** -/
theorem made_handleEnvelope (s : Session) (e : Envelope) (log : SessionLog τ) :
    Made (envelopeOps json s e) log.1
      (answer desktop.logged (handleEnvelope json s e) log).2.1 := by
  rw [envelopeOps]
  by_cases hchan : e.channel = .hid
  · rw [if_pos hchan]
    rcases hparse : HidFrame.parse e.payload with err | f
    · rw [answer_handleEnvelope_fault json _ hchan hparse]
      exact .none _
    · rw [answer_handleEnvelope_frame json _ ⟨hchan, hparse⟩]
      cases hop : f.op with
      | bindAck => exact made_bindAck json desktop hop s log
      | reportIn =>
          have hreport := made_handleReport json desktop hop s log
          rw [answer_handleFrame_reportIn json _ hop]
          rcases hanswer : answer desktop.logged (handleReport s f) log with ⟨err | s', log'⟩
          · rwa [hanswer] at hreport
          · rwa [hanswer] at hreport
      | unbind =>
          have hops : frameOps json s f = [] := by rw [frameOps, hop]
          rw [answer_handleFrame_unbind json _ hop]
          exact hops ▸ .none _
      | bind | reportOut | reportFeature =>
          have hops : frameOps json s f = [] := by rw [frameOps, hop]
          rw [answer_handleFrame_skip json _ (by simp [hop])]
          exact hops ▸ .none _
  · rw [if_neg hchan, answer_handleEnvelope_other json _ hchan]
    exact .none _

theorem callsAfter_roundEnd
    (r : Except (Fault ReceiveError) (Session ⊕ SessionEnd) × SessionLog τ) :
    callsAfter (roundEnd r) = r.2.1 := by
  rcases r with ⟨err | s | c, log⟩
  · rfl
  · rfl
  · rfl

/-- **The step asks for an operation**: it is among those of its calls. -/
def Asks (e : Envelope) (st : Session × SessionLog τ) (o : ReceiverOp) : Prop :=
  ∃ calls, callsAfter (sessionStep json desktop.logged e st) =
    st.2.1 ++ calls ∧ ∃ c ∈ calls, c.1 = o

/-- The operations that a step asks for, unless it has been told to stop. -/
theorem asks_iff (e : Envelope) (s : Session) (log : SessionLog τ) (o : ReceiverOp) :
    Asks json desktop e (s, log) o ↔ desktop.stop log.2.2.2 = false ∧ o ∈ envelopeOps json s e := by
  by_cases hstop : desktop.stop log.2.2.2 = true
  · have hquiet : callsAfter (sessionStep json desktop.logged e (s, log)) = log.1 ++ [] := by
      rw [sessionStep_stopped json desktop hstop, List.append_nil]
      rfl
    constructor
    · rintro ⟨calls, hcalls, c, hc, -⟩
      rw [List.append_cancel_left (hcalls.symm.trans hquiet)] at hc
      cases hc
    · rintro ⟨hgo, -⟩
      rw [hstop] at hgo
      cases hgo
  · rw [Bool.not_eq_true] at hstop
    obtain ⟨calls, hcalls, hops⟩ := made_handleEnvelope json desktop s e log
    rw [Asks, sessionStep_reading json desktop hstop, callsAfter_roundEnd, hcalls, ← hops]
    constructor
    · rintro ⟨calls', hcalls', c, hc, rfl⟩
      rw [← List.append_cancel_left hcalls'] at hc
      exact ⟨hstop, List.mem_map_of_mem hc⟩
    · rintro ⟨-, ho⟩
      exact ⟨calls, rfl, List.mem_map.1 ho⟩

/-- **What is handed to `apply_report`**: the body of a report, once there is a device.  No number
is compared with another. -/
theorem appliesReport_iff (e : Envelope) (s : Session) (log : SessionLog τ) (body : List UInt8) :
    AppliesReport json desktop e (s, log) body ↔
      desktop.stop log.2.2.2 = false ∧ s.device.isSome = true ∧
        ∃ f, Carries e f ∧ f.op = .reportIn ∧ f.body = body := by
  have hframe (f : HidFrame) : .applyReport body ∈ frameOps json s f ↔
      s.device.isSome = true ∧ f.op = .reportIn ∧ f.body = body := by
    rw [frameOps]
    cases f.op with
    | reportIn =>
        simp only [List.mem_append, List.mem_ite_nil_right, List.mem_singleton, reduceCtorEq,
          and_false, false_or, ReceiverOp.applyReport.injEq, true_and, eq_comm]
    | bindAck =>
        generalize (parseBindAckBody json f.body).toOption.bind (fun r => profileOf r.1) = profile
        cases profile <;> simp
    | bind | reportOut | reportFeature | unbind => simp
  rw [show AppliesReport json desktop e (s, log) body ↔ Asks json desktop e (s, log) _ from Iff.rfl,
    asks_iff, mem_envelopeOps]
  constructor
  · rintro ⟨hstop, f, hf, ho⟩
    obtain ⟨hdev, hop, hbody⟩ := (hframe f).1 ho
    exact ⟨hstop, hdev, f, hf, hop, hbody⟩
  · rintro ⟨hstop, hdev, f, hf, hop, hbody⟩
    exact ⟨hstop, f, hf, (hframe f).2 ⟨hdev, hop, hbody⟩⟩

/-! ### The device and its BIND_ACK -/

/-- A step after which the loop goes on. -/
theorem sessionStep_eq_inl {e : Envelope} {s s' : Session} {log log' : SessionLog τ}
    (h : sessionStep json desktop.logged e (s, log) = .inl (s', log')) :
    desktop.stop log.2.2.2 = false ∧
      answer desktop.logged (handleEnvelope json s e) log = (.ok (.inl s'), log') := by
  by_cases hstop : desktop.stop log.2.2.2 = true
  · rw [sessionStep_stopped json desktop hstop] at h
    cases h
  · rw [Bool.not_eq_true] at hstop
    rw [sessionStep_reading json desktop hstop] at h
    refine ⟨hstop, ?_⟩
    rcases hanswer : answer desktop.logged (handleEnvelope json s e) log with ⟨err | s₁ | c, log₁⟩
    · rw [hanswer] at h
      cases h
    · rw [hanswer] at h
      cases h
      rfl
    · rw [hanswer] at h
      cases h

/-- A report that is taken leaves its sequence number. -/
theorem answer_handleReport_session {s s' : Session} {f : HidFrame} {log log' : SessionLog τ}
    (h : answer desktop.logged (handleReport s f) log = (.ok s', log')) :
    s' = { s with lastSeq := f.seq } := by
  by_cases hdev : s.device.isSome = true
  · rw [answer_handleReport_bound _ hdev] at h
    generalize (if s.Jump f then (desktop.logged (.seqJump s.lastSeq f.seq) log).2 else log) = log₁
      at h
    rcases hcall : desktop.logged (.applyReport f.body) log₁ with ⟨err | ⟨⟩, log₂⟩
    · rw [hcall] at h
      cases h
    · rw [hcall] at h
      cases h
      rfl
  · have hnone : s.device = none := by simpa using hdev
    rw [answer_handleReport_unbound _ hnone] at h
    cases h
    rfl

/-- **What a step makes of the state of the loop**: it has taken a report, or a BIND_ACK for a
device that it created, or nothing that concerns the state. -/
theorem sessionStep_cases {e : Envelope} {s s' : Session} {log log' : SessionLog τ}
    (h : sessionStep json desktop.logged e (s, log) = .inl (s', log')) :
    (∃ f, Carries e f ∧ f.op = .reportIn ∧ s' = { s with lastSeq := f.seq }) ∨
    (∃ f info descriptor profile, Carries e f ∧ f.op = .bindAck ∧
      parseBindAckBody json f.body = .ok (info, descriptor) ∧ profileOf info = some profile ∧
      s' = { s with device := some profile }) ∨
    ((∀ f, Carries e f → f.op ≠ .reportIn ∧ f.op ≠ .bindAck) ∧ s' = s) := by
  obtain ⟨-, hanswer⟩ := sessionStep_eq_inl json desktop h
  -- the loop goes on, so every branch that ends it contradicts the hypothesis
  by_cases hchan : e.channel = .hid
  · rcases hparse : HidFrame.parse e.payload with err | f
    · rw [answer_handleEnvelope_fault json _ hchan hparse] at hanswer
      cases hanswer
    · have hf : Carries e f := ⟨hchan, hparse⟩
      rw [answer_handleEnvelope_frame json _ hf] at hanswer
      cases hop : f.op with
      | bindAck =>
          -- a BIND_ACK that is not understood, or that names no known kind, ends the loop
          by_cases hcreate : ∃ info descriptor profile,
              parseBindAckBody json f.body = .ok (info, descriptor) ∧ profileOf info = some profile
          · obtain ⟨info, descriptor, profile, hbody, hprofile⟩ := hcreate
            rw [answer_handleFrame_bindAck json _ hop hbody hprofile] at hanswer
            rcases hcall : desktop.logged (.create profile) log with ⟨text | ⟨⟩, log₁⟩
            · rw [hcall] at hanswer
              cases hanswer
            · rw [hcall] at hanswer
              cases hanswer
              exact .inr (.inl ⟨f, info, descriptor, profile, hf, hop, hbody, hprofile, rfl⟩)
          · have hfault (info : BindAckMeta) (descriptor : List UInt8)
                (hbody : parseBindAckBody json f.body = .ok (info, descriptor)) :
                profileOf info = none :=
              Option.eq_none_iff_forall_ne_some.2 fun profile hprofile =>
                hcreate ⟨info, descriptor, profile, hbody, hprofile⟩
            obtain ⟨err, herr⟩ :=
              answer_handleFrame_bindAck_fault json desktop.logged hop hfault s log
            rw [herr] at hanswer
            cases hanswer
      | reportIn =>
          rw [answer_handleFrame_reportIn json _ hop] at hanswer
          rcases hreport : answer desktop.logged (handleReport s f) log with ⟨err | s₁, log₁⟩
          · rw [hreport] at hanswer
            cases hanswer
          · rw [hreport] at hanswer
            cases hanswer
            exact .inl ⟨f, hf, hop, answer_handleReport_session desktop hreport⟩
      | unbind =>
          rw [answer_handleFrame_unbind json _ hop] at hanswer
          cases hanswer
      | bind | reportOut | reportFeature =>
          rw [answer_handleFrame_skip json _ (by simp [hop])] at hanswer
          cases hanswer
          refine .inr (.inr ⟨fun g hg => ?_, rfl⟩)
          rw [hg.unique hf, hop]
          exact ⟨by simp, by simp⟩
  · rw [answer_handleEnvelope_other json _ hchan] at hanswer
    cases hanswer
    exact .inr (.inr ⟨fun g hg => absurd hg.1 hchan, rfl⟩)

/-- An envelope that carries no BIND_ACK. -/
theorem ackOf_eq_none {e : Envelope} (h : ∀ f, Carries e f → f.op ≠ .bindAck) :
    ackOf json e = none := by
  rw [Option.eq_none_iff_forall_ne_some]
  rintro ⟨f, info⟩ hack
  obtain ⟨hf, hop, -⟩ := (ackOf_eq_some json).1 hack
  exact h f hf hop

/-- There is a device after a step exactly if there was one or the step took a BIND_ACK. -/
theorem device_step {e : Envelope} {s s' : Session} {log log' : SessionLog τ}
    (h : sessionStep json desktop.logged e (s, log) = .inl (s', log')) :
    s'.device.isSome = ((ackOf json e).isSome || s.device.isSome) := by
  rcases sessionStep_cases json desktop h with
    ⟨f, hf, hop, rfl⟩ | ⟨f, info, descriptor, profile, hf, hop, hbody, -, rfl⟩ | ⟨hno, rfl⟩
  · have hack : ackOf json e = none := ackOf_eq_none json fun g hg => by
      rw [hg.unique hf, hop]
      simp
    rw [hack, Option.isSome_none, Bool.false_or]
  · rw [(ackOf_eq_some json).2 ⟨hf, hop, descriptor, hbody⟩]
    rfl
  · rw [ackOf_eq_none json fun g hg => (hno g hg).2, Option.isSome_none, Bool.false_or]

/-- **The device there is was created by the last BIND_ACK**, and there is none before the first. -/
theorem device_isSome {pre : List Envelope} {log : SessionLog τ} {st : Session × SessionLog τ}
    (h : Consumer.run (sessionStep json desktop.logged) pre ({}, log) = .inl st) :
    st.1.device.isSome = (lastAck json pre).isSome := by
  induction pre using List.reverseRecOn generalizing st with
  | nil =>
      rw [Consumer.run] at h
      cases h
      rfl
  | append_singleton pre e ih =>
      obtain ⟨⟨s, log₁⟩, hpre, hlast⟩ := Consumer.exists_run_of_append h
      rcases hstep : sessionStep json desktop.logged e (s, log₁) with ⟨s', log'⟩ | r
      · rw [Consumer.run_cons_inl hstep, Consumer.run] at hlast
        cases hlast
        rw [device_step json desktop hstep, ih hpre, lastAck_concat]
        rcases ackOf json e with _ | ack
        · rfl
        · rfl
      · rw [Consumer.run_cons_inr hstep] at hlast
        cases hlast

/-- Between two BIND_ACKs the last one stays. -/
theorem lastAck_append {pre mid : List Envelope} (hmid : ∀ e ∈ mid, ackOf json e = none) :
    lastAck json (pre ++ mid) = lastAck json pre := by
  induction mid using List.reverseRecOn with
  | nil => rw [List.append_nil]
  | append_singleton mid e ih =>
      rw [← List.append_assoc, lastAck_concat, hmid e (by simp), Option.none_or,
        ih fun e' he' => hmid e' (by simp [he'])]

/-- The envelope of the last BIND_ACK. -/
theorem exists_lastAck {pre : List Envelope} (h : (lastAck json pre).isSome = true) :
    ∃ before a mid, pre = before ++ a :: mid ∧ (ackOf json a).isSome = true ∧
      ∀ b ∈ mid, ackOf json b = none := by
  induction pre using List.reverseRecOn with
  | nil => cases h
  | append_singleton pre e ih =>
      rw [lastAck_concat] at h
      rcases hack : ackOf json e with _ | ack
      · rw [hack, Option.none_or] at h
        obtain ⟨before, a, mid, rfl, ha, hmid⟩ := ih h
        refine ⟨before, a, mid ++ [e], by simp, ha, fun b hb => ?_⟩
        rcases List.mem_append.1 hb with hb | hb
        · exact hmid b hb
        · rwa [List.mem_singleton.1 hb]
      · exact ⟨pre, e, [], rfl, by rw [hack]; rfl, by simp⟩

/-- The BIND_ACK that is followed by no other is the last one. -/
theorem lastAck_eq (before : List Envelope) {a : Envelope} {mid : List Envelope}
    (ha : (ackOf json a).isSome = true) (hmid : ∀ b ∈ mid, ackOf json b = none) :
    lastAck json (before ++ a :: mid) = ackOf json a := by
  obtain ⟨ack, hack⟩ := Option.isSome_iff_exists.1 ha
  rw [List.append_cons, lastAck_append json hmid, lastAck_concat, hack, Option.some_or]

/-- A report belongs to the binding asked for exactly if it carries its number. -/
theorem addressed_reportIn {busid : String} {e : Envelope} {f : HidFrame} (hf : Carries e f)
    (hop : f.op = .reportIn) : Addressed json busid e ↔ f.bindId = bindId := by
  constructor
  · intro h
    exact (h f hf).1 hop
  · intro hid g hg
    rw [hg.unique hf]
    refine ⟨fun _ => hid, fun hack => ?_⟩
    rw [hop] at hack
    cases hack

/-- A BIND_ACK that is understood belongs to the binding asked for exactly if it carries its number
and names the device. -/
theorem addressed_bindAck {busid : String} {e : Envelope} {ack : HidFrame} {info : BindAckMeta}
    (h : ackOf json e = some (ack, info)) :
    Addressed json busid e ↔ ack.bindId = bindId ∧ info.busid = busid := by
  obtain ⟨hack, hop, descriptor, hparse⟩ := (ackOf_eq_some json).1 h
  constructor
  · intro ha
    obtain ⟨hid, hbusid⟩ := (ha ack hack).2 hop
    exact ⟨hid, hbusid info descriptor hparse⟩
  · rintro ⟨hid, hbusid⟩ g hg
    rw [hg.unique hack]
    refine ⟨fun hin => ?_, fun _ => ⟨hid, fun info' descriptor' hparse' => ?_⟩⟩
    · rw [hop] at hin
      cases hin
    · rw [hparse] at hparse'
      cases hparse'
      exact hbusid

/-- **Whose reports are applied.**  In every run a report that is applied is for the binding asked
for exactly if it belongs to it itself, and the last BIND_ACK before it does; the loop sees to
neither.  So it is in every run in which all the frames that arrive belong to that binding, as far
as they are reports or BIND_ACKs. -/
theorem reports_for_binding (busid : String) (statics : ReportState) (t : τ) {pre : List Envelope}
    {st : Session × SessionLog τ}
    (hrun : Consumer.run (sessionStep json desktop.logged) pre ({}, ([], statics, [], t)) = .inl st)
    {e : Envelope} {body : List UInt8} (happly : AppliesReport json desktop e st body) :
    ((∀ a ∈ pre ++ [e], Addressed json busid a) → ForBinding json busid pre e body) ∧
    (ForBinding json busid pre e body ↔ Addressed json busid e ∧
      ∀ before a mid, pre = before ++ a :: mid → (ackOf json a).isSome = true →
        (∀ b ∈ mid, ackOf json b = none) → Addressed json busid a) := by
  obtain ⟨s, log⟩ := st
  obtain ⟨-, hdev, f, hf, hop, hbody⟩ := (appliesReport_iff json desktop e s log body).1 happly
  have hsome : (lastAck json pre).isSome = true := by
    rw [← device_isSome json desktop hrun]
    exact hdev
  obtain ⟨before, a, mid, rfl, ha, hmid⟩ := exists_lastAck json hsome
  obtain ⟨⟨ack, info⟩, hack⟩ := Option.isSome_iff_exists.1 ha
  have hlast : lastAck json (before ++ a :: mid) = some (ack, info) :=
    (lastAck_eq json before ha hmid).trans hack
  have hexact : ForBinding json busid (before ++ a :: mid) e body ↔
      Addressed json busid e ∧ Addressed json busid a := by
    rw [addressed_reportIn json hf hop, addressed_bindAck json hack]
    constructor
    · rintro ⟨g, ack', info', hg, -, -, hlast', heq, hid, hbusid⟩
      rw [hlast] at hlast'
      cases hlast'
      rw [hg.unique hf] at heq
      exact ⟨heq.trans hid, hid, hbusid⟩
    · rintro ⟨hreport, hid, hbusid⟩
      exact ⟨f, ack, info, hf, hop, hbody, hlast, hreport.trans hid.symm, hid, hbusid⟩
  constructor
  · intro hall
    exact hexact.2 ⟨hall e (by simp), hall a (by simp)⟩
  · rw [hexact]
    refine and_congr_right fun _ => ⟨fun haddr before' a' mid' hpre ha' hmid' => ?_, fun h =>
      h before a mid rfl ha hmid⟩
    -- whichever way the last BIND_ACK is found, it is the same one
    obtain ⟨⟨ack', info'⟩, hack'⟩ := Option.isSome_iff_exists.1 ha'
    have hsame : some (ack', info') = some (ack, info) := by
      rw [← hack', ← lastAck_eq json before' ha' hmid', ← hpre, hlast]
    cases hsame
    rw [addressed_bindAck json hack', ← addressed_bindAck json hack]
    exact haddr

end Observe

/-! ### A session with frames of another binding -/

/-- A desktop on which every operation works and nobody presses Ctrl-C. -/
def idleDesktop : Desktop Unit where
  uinput _ t := (.ok (), t)
  stop _ := false

/-- A mouse at the given place. -/
def mouseAt (busid : String) : BindAckMeta := ⟨busid, .mouse, 0xBADD, 0xC0DE, "mouse"⟩

/-- JSON for the mouse at 5-2. -/
def mouseJson : Json BindAckMeta :=
  .single (mouseAt "5-2") ("\x7b\"busid\":\"5-2\",\"kind\":\"mouse\",\"vendor_id\":47837," ++
    "\"product_id\":49374,\"name\":\"mouse\"\x7d").toUTF8.data.toList

/-- A BIND_ACK for the mouse at 5-2. -/
def mouseAck (id : UInt8) : HidFrame :=
  ⟨.bindAck, id, 0, encodeBindAckBody mouseJson (mouseAt "5-2") []⟩

/-- The report of a pressed left button. -/
def pressReport (id : UInt8) : HidFrame := ⟨.reportIn, id, 1, [1, 0, 0]⟩

theorem parse_mouseAck (id : UInt8) :
    parseBindAckBody mouseJson (mouseAck id).body = .ok (mouseAt "5-2", []) :=
  parseBindAckBody_encode (by decide) (Json.single_round _ _) []

/-- The loop takes the BIND_ACK and then the report, whatever their numbers. -/
theorem press_applied (id id' : UInt8) :
    ∃ st, Consumer.run (sessionStep mouseJson idleDesktop.logged) [(mouseAck id).envelope]
        ({}, ([], {}, [], ())) = .inl st ∧
      AppliesReport mouseJson idleDesktop (pressReport id').envelope st [1, 0, 0] := by
  have hstep : sessionStep mouseJson idleDesktop.logged (mouseAck id).envelope ({}, ([], {}, [], ())) =
      .inl (⟨some (.mouse "zerowire: mouse" 0xBADD 0xC0DE), 0⟩,
        (idleDesktop.logged (.create (.mouse "zerowire: mouse" 0xBADD 0xC0DE))
          ([], {}, [], ())).2) := by
    rw [sessionStep_reading _ _ rfl, answer_handleEnvelope_frame _ _ (carries_envelope (mouseAck id)),
      answer_handleFrame_bindAck _ _ rfl (parse_mouseAck id) rfl]
    rfl
  refine ⟨_, by rw [Consumer.run_cons_inl hstep, Consumer.run], ?_⟩
  rw [appliesReport_iff]
  exact ⟨rfl, rfl, _, carries_envelope _, rfl, rfl⟩

/-- The receiver asked for the device at 5-1.  What it is sent is a BIND_ACK of binding 2 for the
one at 5-2 and a report of binding 7, and the report is applied. -/
theorem strayReport_applied :
    ∃ st, Consumer.run (sessionStep mouseJson idleDesktop.logged) [(mouseAck 2).envelope]
        ({}, ([], {}, [], ())) = .inl st ∧
      AppliesReport mouseJson idleDesktop (pressReport 7).envelope st [1, 0, 0] ∧
      ¬ ForBinding mouseJson "5-1" [(mouseAck 2).envelope] (pressReport 7).envelope [1, 0, 0] := by
  obtain ⟨st, hrun, happly⟩ := press_applied 2 7
  refine ⟨st, hrun, happly, ?_⟩
  rintro ⟨f, ack, info, hf, -, -, hlast, hid, hone, -⟩
  rw [hf.unique (carries_envelope (pressReport 7)), hone] at hid
  revert hid
  decide

/-- The device that was asked for, and its report. -/
theorem reports_for_binding_press :
    ForBinding mouseJson "5-2" [(mouseAck bindId).envelope] (pressReport bindId).envelope [1, 0, 0] := by
  obtain ⟨st, hrun, happly⟩ := press_applied bindId bindId
  refine (reports_for_binding mouseJson idleDesktop "5-2" {} () hrun happly).1 fun a ha f hf => ?_
  rcases List.mem_append.1 ha with hmem | hmem
  · rw [List.mem_singleton.1 hmem] at hf
    rw [hf.unique (carries_envelope (mouseAck bindId))]
    refine ⟨fun _ => rfl, fun _ => ⟨rfl, fun info descriptor hparse => ?_⟩⟩
    rw [parse_mouseAck] at hparse
    cases hparse
    rfl
  · rw [List.mem_singleton.1 hmem] at hf
    rw [hf.unique (carries_envelope (pressReport bindId))]
    exact ⟨fun _ => rfl, fun h => by cases h⟩

/-- The stream of some envelopes. -/
def streamOf (es : List Envelope) : List UInt8 := es.flatMap Envelope.bytes

/-- A keepalive between a BIND_ACK and a report. -/
theorem session_undisturbed_keepalive :
    ∃ record,
      (∀ fuel, (streamOf [(mouseAck 1).envelope, (pressReport 1).envelope]).length < fuel →
        observe mouseJson idleDesktop {} () fuel
          (streamOf [(mouseAck 1).envelope, (pressReport 1).envelope]) = some record) ∧
      ∀ fuel,
        (streamOf [(mouseAck 1).envelope, ⟨.keepalive, []⟩, (pressReport 1).envelope]).length < fuel →
        observe mouseJson idleDesktop {} () fuel
          (streamOf [(mouseAck 1).envelope, ⟨.keepalive, []⟩, (pressReport 1).envelope]) = some record
    := by
  refine (session_undisturbed mouseJson idleDesktop {} () _).1 _ ?_
  have hack : (mouseAck 1).envelope.Fits := by decide
  have hpress : (pressReport 1).envelope.Fits := by decide
  have hkeep : (⟨.keepalive, []⟩ : Envelope).Fits := by decide
  rw [streamOf, streamOf, Envelope.codec.frames_wire (by simp [hack, hpress]),
    Envelope.codec.frames_wire (by simp [hack, hpress, hkeep])]
  exact .keep _ (.insert (Or.inl (by decide)) (.keep _ .nil))

end Zerowire

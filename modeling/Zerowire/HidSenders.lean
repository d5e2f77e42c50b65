/-
**Whoever plays the sender's part** (`desktop-linux/src/receiver.rs`, `run_receive`,
`run_simulate_source_with`; `desktop-linux/src/bin/zerowire_cli.rs`, `hid_simulate_source_loop`).

A receiver of HID reports cannot see who is at the other end.  It may be the phone, the sender for
Linux or a stand-in: what counts is that the handshake is answered, and that the BIND is followed by
a BIND_ACK, the reports, numbered one by one, and an UNBIND.  The connection may have been closed
before all of that has been sent; then the receiver has the reports that were sent as a whole, and
finds the end of the stream where the UNBIND would be.  Here is what that comes to at the three
receivers, for anybody who does it.

Main definitions:

* `Zerowire.PlaysSender` — a party plays the sender's part, on a connection that takes so many bytes;
* `Zerowire.wholeReports` — the reports that are sent as a whole;
* `Zerowire.reportsSent` — the reports among all that has been sent;
* `Zerowire.outputFile` — the file that a capture program writes;
* `Zerowire.capturedLines` — what is in it in the end.

Main results:

* `Zerowire.PlaysSender.received` — **the receiver applies the reports**, each once and in its
  place;
* `Zerowire.PlaysSender.captured`, `Zerowire.PlaysSender.captured_tls` — **the capture programs
  write them down**, line by line;
* `Zerowire.PlaysSender.received_all`, `Zerowire.PlaysSender.captured_all` — nothing is lost if the
  connection takes all of it.
-/

import Zerowire.Handshakes

set_option relaxedAutoImplicit false
set_option autoImplicit false

namespace Zerowire

open Bytes Program Relation

variable {Y : Sig} {τ β : Type}

/-! ### The part -/

/-- The frames that a sender sends when it has been sent the BIND. -/
def streamEnvelopes (ack last : HidFrame) (bodies : List (List UInt8)) : List Envelope :=
  ack.envelope :: (reportEnvelopes 0 bodies ++ [last.envelope])

/-- What follows the BIND_ACK. -/
def behindAck (last : HidFrame) (bodies : List (List UInt8)) : List UInt8 :=
  (reportEnvelopes 0 bodies ++ [last.envelope]).flatMap Envelope.bytes

theorem flatMap_streamEnvelopes (ack last : HidFrame) (bodies : List (List UInt8)) :
    (streamEnvelopes ack last bodies).flatMap Envelope.bytes =
      ack.envelope.bytes ++ behindAck last bodies := List.flatMap_cons

/-- **The reports that are sent as a whole** over a connection that takes so many bytes behind the
BIND_ACK. -/
def wholeReports (room : ℕ) (bodies : List (List UInt8)) : List (List UInt8) :=
  StreamCodec.wholeFrames (fun body => (Arrival.frame 0 bindId body).envelope.bytes) room bodies

/-- The number of a report makes no difference to its size. -/
theorem length_report (n : ℕ) (body : List UInt8) :
    (Arrival.frame n bindId body).envelope.bytes.length =
      (Arrival.frame 0 bindId body).envelope.bytes.length := by
  rw [Envelope.length_bytes, Envelope.length_bytes]
  rfl

theorem length_reportEnvelopes (n : ℕ) (bodies : List (List UInt8)) :
    ((reportEnvelopes n bodies).flatMap Envelope.bytes).length =
      (bodies.flatMap fun body => (Arrival.frame 0 bindId body).envelope.bytes).length := by
  induction bodies generalizing n with
  | nil => rfl
  | cons body bodies ih =>
      rw [reportEnvelopes, List.flatMap_cons, List.flatMap_cons, List.length_append,
        List.length_append, length_report, ih]

/-- The envelopes that are left whole are those of the reports that are sent as a whole. -/
theorem wholeFrames_reportEnvelopes (room n : ℕ) (bodies : List (List UInt8)) :
    StreamCodec.wholeFrames Envelope.bytes room (reportEnvelopes n bodies) =
      reportEnvelopes n (wholeReports room bodies) := by
  induction bodies generalizing room n with
  | nil => rfl
  | cons body bodies ih =>
      rw [reportEnvelopes, StreamCodec.wholeFrames, wholeReports, StreamCodec.wholeFrames,
        length_report]
      split_ifs
      · rw [ih, reportEnvelopes]
        rfl
      · rfl

/-- The UNBIND follows them if there is room for all. -/
theorem wholeFrames_behindAck (last : HidFrame) (room : ℕ) (bodies : List (List UInt8)) :
    StreamCodec.wholeFrames Envelope.bytes room (reportEnvelopes 0 bodies ++ [last.envelope]) =
      if (behindAck last bodies).length ≤ room then reportEnvelopes 0 bodies ++ [last.envelope]
      else reportEnvelopes 0 (wholeReports room bodies) := by
  rw [StreamCodec.wholeFrames_concat, wholeFrames_reportEnvelopes]
  rfl

/-- Where there is room for all, all reports are sent as a whole. -/
theorem wholeReports_of_le {last : HidFrame} {bodies : List (List UInt8)} {room : ℕ}
    (h : (behindAck last bodies).length ≤ room) : wholeReports room bodies = bodies := by
  refine StreamCodec.wholeFrames_of_le ?_
  rw [behindAck, List.flatMap_append, List.length_append, length_reportEnvelopes] at h
  omega

/-- The report that an envelope carries. -/
def reportOf (e : Envelope) : Option HidFrame :=
  if e.channel = .hid then (HidFrame.parse e.payload).toOption.filter fun f => f.op = .reportIn else none

/-- **The reports among all that has been sent**, in their order. -/
def reportsSent (stream : List UInt8) : List HidFrame :=
  (StreamCodec.frames Envelope.parse stream).filterMap reportOf

/-- **The reports with these bodies**, numbered one by one from 1 on. -/
def numbered (bodies : List (List UInt8)) : List HidFrame :=
  (bodies.zipIdx 1).map fun r => Arrival.frame r.2 bindId r.1

theorem reportOf_envelope (f : HidFrame) :
    reportOf f.envelope = if f.op = .reportIn then some f else none := by
  rw [reportOf, HidFrame.envelope, if_pos rfl, HidFrame.parse_encode, toOption_ok, Option.filter]
  by_cases hop : f.op = .reportIn
  · simp only [hop, decide_true, if_true]
  · simp only [hop, decide_false, if_false, Bool.false_eq_true]

/-- A control message is no report. -/
theorem reportOf_control {json : Json ControlMessage} {e : Envelope} {msg : ControlMessage}
    (h : e.Says json msg) : reportOf e = none := by
  have hreads := h.reads
  rw [controlOf] at hreads
  cases hchan : e.channel with
  | control => rw [reportOf, if_neg (by rw [hchan]; decide)]
  | _ =>
      rw [hchan] at hreads
      cases hreads

theorem filterMap_reportEnvelopes (n : ℕ) (bodies : List (List UInt8)) :
    (reportEnvelopes n bodies).filterMap reportOf =
      (bodies.zipIdx (n + 1)).map fun r => Arrival.frame r.2 bindId r.1 := by
  induction bodies generalizing n with
  | nil => rfl
  | cons body bodies ih =>
      rw [reportEnvelopes, List.filterMap_cons_some (reportOf_envelope _), ih, List.zipIdx_cons,
        List.map_cons]

theorem fits_reportEnvelopes {bodies : List (List UInt8)} (h : ∀ body ∈ bodies, 4 + body.length ≤ maxPayload)
    (n : ℕ) : ∀ e ∈ reportEnvelopes n bodies, e.Fits := by
  induction bodies generalizing n with
  | nil =>
      intro e he
      cases he
  | cons body bodies ih =>
      rw [List.forall_mem_cons] at h
      rw [reportEnvelopes, List.forall_mem_cons]
      have hlen : (Arrival.frame (n + 1) bindId body).encode.length = body.length + 4 := rfl
      refine ⟨?_, ih h.2 (n + 1)⟩
      rw [Envelope.Fits, HidFrame.envelope, hlen, Nat.add_comm]
      exact h.1

/-- **The reports of a session**: the handshake has none, and behind it they are numbered. -/
theorem reportsSent_session {json : Json ControlMessage} {hello attach attached : ControlMessage}
    {ack list reply : Envelope} {devices : List DeviceSummary}
    (h : Handshake json hello attach ack list reply devices attached) {ackFrame last : HidFrame}
    (hop : ackFrame.op = .bindAck) (hlast : last.op = .unbind) {bodies : List (List UInt8)}
    (hfits : ∀ e ∈ streamEnvelopes ackFrame last bodies, e.Fits) (room : ℕ) :
    reportsSent ((spoken (greeting json hello attach ack list reply)).flatMap Prod.snd ++
      (ackFrame.envelope.bytes ++ (behindAck last bodies).take room)) =
        numbered (wholeReports room bodies) := by
  obtain ⟨_, _, _, hack⟩ := h.helloAck
  rw [streamEnvelopes, List.forall_mem_cons] at hfits
  have hall : ∀ e ∈ [ack, list, reply, ackFrame.envelope], e.Fits := by
    simp [hack.fits, h.deviceList.fits, h.attached.fits, hfits.1]
  have hbytes : (spoken (greeting json hello attach ack list reply)).flatMap Prod.snd ++
      (ackFrame.envelope.bytes ++ (behindAck last bodies).take room) =
        [ack, list, reply, ackFrame.envelope].flatMap Envelope.bytes ++
          (behindAck last bodies).take room := by
    simp [spoken, greeting]
  have hbehind : (if (behindAck last bodies).length ≤ room then
      reportEnvelopes 0 bodies ++ [last.envelope] else
      reportEnvelopes 0 (wholeReports room bodies)).filterMap reportOf =
        numbered (wholeReports room bodies) := by
    split_ifs with hle
    · rw [wholeReports_of_le hle, List.filterMap_append, filterMap_reportEnvelopes,
        List.filterMap_cons_none (by rw [reportOf_envelope, hlast]; rfl), List.filterMap_nil,
        List.append_nil, numbered]
    · rw [filterMap_reportEnvelopes, numbered]
  rw [reportsSent, hbytes, Envelope.codec.frames_append hall, behindAck,
    Envelope.codec.frames_take hfits.2, wholeFrames_behindAck, List.filterMap_append, hbehind,
    List.filterMap_cons_none (reportOf_control hack),
    List.filterMap_cons_none (reportOf_control h.deviceList),
    List.filterMap_cons_none (reportOf_control h.attached),
    List.filterMap_cons_none (by rw [reportOf_envelope, hop]; rfl), List.filterMap_nil,
    List.nil_append]

/-- **A party plays the sender's part**: it answers the handshake that begins with this HELLO, and
when it has been sent the BIND it sends a BIND_ACK, the reports and an UNBIND, or as much of them as
the connection takes, and returns. -/
inductive PlaysSender (F : Env Y τ) (serde : Serde) (hello : ControlMessage)
    (devices : List DeviceSummary) (chosen : DeviceSummary) (info : BindAckMeta) (last : HidFrame)
    (bodies : List (List UInt8)) (room : ℕ) : Party Y τ β → β → Prop
  | intro {p bound : Party Y τ β} {b : β} {t : Io τ} {ack list reply : Envelope} {attached : String}
      {importId : UInt32} {ackFrame : HidFrame} {descriptor : List UInt8}
      (handshake : Handshake serde.control hello (.attach chosen.busid "hid") ack list reply devices
        (.attachOk attached importId))
      (responds : Responds F p
        (spoken (greeting serde.control hello (.attach chosen.busid "hid") ack list reply)) bound)
      (bind_fits : (bindFrame serde.bindRequest chosen.busid).envelope.Fits)
      (ack_op : ackFrame.op = .bindAck)
      (ack_body : parseBindAckBody serde.bindAckMeta ackFrame.body = .ok (info, descriptor))
      (last_op : last.op = .unbind)
      (fits : ∀ e ∈ streamEnvelopes ackFrame last bodies, e.Fits)
      (streams : Moves F false
        (bound.receive (bindFrame serde.bindRequest chosen.busid).envelope.bytes) ⟨.ret b, t⟩
        (ackFrame.envelope.bytes ++ (behindAck last bodies).take room)) :
      PlaysSender F serde hello devices chosen info last bodies room p b

/-- A party that sends all of it. -/
theorem PlaysSender.of_streams {F : Env Y τ} {serde : Serde} {hello : ControlMessage}
    {devices : List DeviceSummary} {chosen : DeviceSummary} {info : BindAckMeta} {last : HidFrame}
    {bodies : List (List UInt8)} {p bound : Party Y τ β} {b : β} {t : Io τ}
    {ack list reply : Envelope} {attached : String} {importId : UInt32} {ackFrame : HidFrame}
    {descriptor : List UInt8}
    (handshake : Handshake serde.control hello (.attach chosen.busid "hid") ack list reply devices
      (.attachOk attached importId))
    (responds : Responds F p
      (spoken (greeting serde.control hello (.attach chosen.busid "hid") ack list reply)) bound)
    (bind_fits : (bindFrame serde.bindRequest chosen.busid).envelope.Fits)
    (ack_op : ackFrame.op = .bindAck)
    (ack_body : parseBindAckBody serde.bindAckMeta ackFrame.body = .ok (info, descriptor))
    (last_op : last.op = .unbind)
    (fits : ∀ e ∈ streamEnvelopes ackFrame last bodies, e.Fits)
    (streams : Moves F false
      (bound.receive (bindFrame serde.bindRequest chosen.busid).envelope.bytes) ⟨.ret b, t⟩
      ((streamEnvelopes ackFrame last bodies).flatMap Envelope.bytes)) :
    PlaysSender F serde hello devices chosen info last bodies (behindAck last bodies).length p b := by
  rw [flatMap_streamEnvelopes, ← List.take_length (l := behindAck last bodies)] at streams
  exact .intro handshake responds bind_fits ack_op ack_body last_op fits streams

/-! ### The receiver -/

section Reading

variable {json : Json BindAckMeta} {desktop : Desktop τ}

/-- How the session loop ends: with the UNBIND, or where it would be. -/
def endOf (last : HidFrame) (bodies : List (List UInt8)) (room : ℕ) : SessionEnd :=
  if (behindAck last bodies).length ≤ room then .unbound else .recvError

/-- **What the session loop does with all that a sender sends.** -/
theorem outcome_stream (h : desktop.Works) {ack last : HidFrame} (hop : ack.op = .bindAck)
    (hlast : last.op = .unbind) {info : BindAckMeta} {descriptor : List UInt8}
    (hbody : parseBindAckBody json ack.body = .ok (info, descriptor)) {profile : DeviceProfile}
    (hprofile : profileOf info = some profile) (bodies : List (List UInt8)) (room : ℕ)
    (log : SessionLog τ) :
    ∃ log', sessionOutcome json desktop.logged (ack.envelope :: StreamCodec.wholeFrames
        Envelope.bytes room (reportEnvelopes 0 bodies ++ [last.envelope])) {} log =
        (.ok (endOf last bodies room), log') ∧
      Made (bindingOps profile (wholeReports room bodies)) log.1 log'.1 := by
  obtain ⟨profile', log₁, hstep, -, -⟩ :=
    h.step_ack json ⟨hop, info, descriptor, profile, hbody, hprofile⟩ {} log
  obtain ⟨s₂, log₂, hrun, hmade⟩ := run_reportEnvelopes h (wholeReports room bodies) 0
    (s := { ({} : Session) with device := some profile' }) rfl rfl log₁
  refine ⟨log₂, ?_, ?_⟩
  · rw [sessionOutcome, Consumer.outcome_cons_inl hstep, Consumer.outcome, wholeFrames_behindAck,
      endOf]
    split_ifs with hle
    · have hend : sessionStep json desktop.logged last.envelope (s₂, log₂) =
          .inr (.ok .unbound, log₂) := by
        rw [sessionStep_reading json desktop (h.stop _),
          answer_handleEnvelope_frame _ _ (carries_envelope last),
          answer_handleFrame_unbind _ _ hlast]
        rfl
      rw [wholeReports_of_le hle] at hrun
      rw [Consumer.run_append_inl hrun, Consumer.run_cons_inr hend]
    · rw [hrun]
      change sessionFin desktop.logged (s₂, log₂) = _
      rw [sessionFin, desktop.logged_stopped, h.stop]
  · have hcreate := made_step hstep
    rw [envelopeOps_envelope, frameOps, hop] at hcreate
    simp only [hbody, toOption_ok, Option.bind_some, hprofile, Option.map_some,
      Option.toList_some] at hcreate
    exact hcreate.append hmade

end Reading

/-- **The receiver applies the reports of whoever plays the sender's part**, each once and in its
place: those that were sent as a whole.  In whatever order the two move, both return, the receiver
because of the UNBIND or where it would be; each report has been sent with its number, and no jump
has been noted. -/
theorem PlaysSender.received {F : Env Y τ} {serde : Serde} {clientName : String}
    {wanted : Option String} {devices : List DeviceSummary} {chosen : DeviceSummary} {info : BindAckMeta}
    {last : HidFrame} {bodies : List (List UInt8)} {room : ℕ} {p : Party Y τ β} {b : β}
    (h : PlaysSender F serde (.hello 1 clientName ["hid-fastlane/1"]) devices chosen info last bodies
      room p b)
    (hfresh : p.io.output = []) (hchosen : pickHidDevice devices wanted = .ok chosen)
    {profile : DeviceProfile} (hprofile : profileOf info = some profile)
    {σ : Type} {desktop : Desktop σ} (hworks : desktop.Works)
    (statics : ReportState) (u : σ) :
    ∃ enough, ∀ fuel, enough ≤ fuel → ∃ s' t',
      Ends (Net.Step desktop.logged F)
        ⟨⟨((runReceive serde clientName wanted).unrolled fuel).run,
            { input := [], env := ([], statics, [], u) }⟩, p⟩
        ⟨⟨.ret (.ok (endOf last bodies room)), s'⟩, ⟨.ret b, t'⟩⟩ ∧
      Made (bindingOps profile (wholeReports room bodies)) [] s'.env.1 ∧
        reportsSent t'.output = numbered (wholeReports room bodies) := by
  obtain @⟨bound, _, t, ack, list, reply, attached, importId, ackFrame, descriptor,
    handshake, responds, bind_fits, ack_op, ack_body, last_op, fits, streams⟩ := h
  obtain ⟨log', houtcome, hmade⟩ := outcome_stream hworks ack_op last_op ack_body hprofile bodies
    room ([], statics, [], u)
  let sent : List UInt8 := ackFrame.envelope.bytes ++ (behindAck last bodies).take room
  refine ⟨sent.length + 1, fun fuel hfuel => ?_⟩
  obtain ⟨s₁, hs₁, hsenv, hinquires⟩ := inquires_runReceive desktop.logged
    (s := { input := [], env := ([], statics, [], u) }) rfl handshake hchosen fuel
  have hgreeted := Net.reaches_of_dialogue hinquires responds
  -- the receiver sends its BIND, and the sender does all that it has to do
  let s₂ := s₁.sent (bindFrame serde.bindRequest chosen.busid).envelope.bytes
  have hasked := Net.reaches_left (E := desktop.logged) (F := F) (f := fun _ => sessionLoop serde fuel)
    (((enough_sendEnvelope bind_fits s₁).mapErr (Fault.map RunError.send)).mapErr Stop.failed) rfl bound
  have hreturned := Net.reaches_of_moves_right (E := desktop.logged)
    (r := ⟨(sessionLoop serde fuel).run, s₂⟩) streams.of_false
  -- and the receiver reads what it has been sent
  have hinput : (s₂.fed sent).input = sent := by
    rw [Io.fed_input, Io.sent_input, hs₁, List.nil_append]
  have hlen : (s₂.fed sent).input.length < fuel := by
    rw [hinput]
    omega
  have hframes : StreamCodec.frames Envelope.parse sent = ackFrame.envelope ::
      StreamCodec.wholeFrames Envelope.bytes room (reportEnvelopes 0 bodies ++ [last.envelope]) := by
    rw [streamEnvelopes, List.forall_mem_cons] at fits
    rw [StreamCodec.frames_eq_cons Envelope.codec.toStable (Envelope.codec.round _ fits.1),
      List.drop_left, behindAck, Envelope.codec.frames_take fits.2]
  have hended : sessionOutcome serde.bindAckMeta desktop.logged
      (StreamCodec.frames Envelope.parse (s₂.fed sent).input) {} (s₂.fed sent).env =
        (.ok (endOf last bodies room), log') := by
    rw [hinput, hframes, Io.fed_env, Io.sent_env, hsenv]
    exact houtcome
  obtain ⟨rest, hread⟩ := exec_sessionLoop hlen hended
  obtain ⟨said, hlast⟩ := Net.reaches_left_end (F := F) hread b t
  have houtput : t.output = (spoken (greeting serde.control (.hello 1 clientName ["hid-fastlane/1"])
      (.attach chosen.busid "hid") ack list reply)).flatMap Prod.snd ++ sent := by
    rw [streams.output_eq, Party.receive, Io.fed_output, responds.output_eq, hfresh, List.nil_append]
  refine ⟨_, t.fed said, Net.diamond.ends (hgreeted.trans (hasked.trans (hreturned.trans hlast)))
    (Net.final _ _ _ _), hmade, ?_⟩
  rw [Io.fed_output, houtput]
  exact reportsSent_session handshake ack_op last_op fits room

/-- Nothing is lost if the connection takes all of it. -/
theorem PlaysSender.received_all {F : Env Y τ} {serde : Serde} {clientName : String}
    {wanted : Option String} {devices : List DeviceSummary} {chosen : DeviceSummary} {info : BindAckMeta}
    {last : HidFrame} {bodies : List (List UInt8)} {room : ℕ} {p : Party Y τ β} {b : β}
    (h : PlaysSender F serde (.hello 1 clientName ["hid-fastlane/1"]) devices chosen info last bodies
      room p b) (hroom : (behindAck last bodies).length ≤ room)
    (hfresh : p.io.output = []) (hchosen : pickHidDevice devices wanted = .ok chosen)
    {profile : DeviceProfile} (hprofile : profileOf info = some profile)
    {σ : Type} {desktop : Desktop σ} (hworks : desktop.Works)
    (statics : ReportState) (u : σ) :
    ∃ enough, ∀ fuel, enough ≤ fuel → ∃ s' t',
      Ends (Net.Step desktop.logged F)
        ⟨⟨((runReceive serde clientName wanted).unrolled fuel).run,
            { input := [], env := ([], statics, [], u) }⟩, p⟩
        ⟨⟨.ret (.ok .unbound), s'⟩, ⟨.ret b, t'⟩⟩ ∧
      Made (bindingOps profile bodies) [] s'.env.1 ∧ reportsSent t'.output = numbered bodies := by
  have hreceived := h.received hfresh hchosen hprofile hworks statics u
  rwa [endOf, if_pos hroom, wholeReports_of_le hroom] at hreceived

/-! ### The capture programs -/

/-- **The file that a capture program writes**: nothing, until it is created, and then its lines. -/
def outputFile : Env captureSig (Option (List String))
  | .create, _ => (.ok (), some [])
  | .writeln line, some lines => (.ok (), some (lines ++ [line]))
  | .writeln _, none => (.error "", none)

/-- The line of a BIND_ACK. -/
def ackLine (debugStr : String → String) (info : BindAckMeta) : String :=
  "bind_ack kind=" ++ info.kind.debug ++ " name=" ++ debugStr info.name

/-- The line of the report with the given number. -/
def reportLine (body : List UInt8) (n : ℕ) : String :=
  "report seq=" ++ toString (n % 2 ^ 16) ++ " bytes=" ++ debugBytes body

/-- The lines of some reports, the first of them with the number after `n`. -/
def reportLines (n : ℕ) (bodies : List (List UInt8)) : List String :=
  (bodies.zipIdx (n + 1)).map fun r => reportLine r.1 r.2

/-- The last line. -/
def summaryLine (reports : ℕ) : String :=
  "summary bind_ack=true reports=" ++ toString (reports % 2 ^ 32)

/-- **What is in the file in the end.** -/
def capturedLines (debugStr : String → String) (info : BindAckMeta) (bodies : List (List UInt8)) :
    List String :=
  ackLine debugStr info :: reportLines 0 bodies ++ ["unbind", summaryLine bodies.length]

/-- The line of the UNBIND, if it comes. -/
def unbindLine (last : HidFrame) (bodies : List (List UInt8)) (room : ℕ) : List String :=
  if (behindAck last bodies).length ≤ room then ["unbind"] else []

/-- **What is in the file in the end** when the connection has taken so many bytes. -/
def linesWithin (debugStr : String → String) (info : BindAckMeta) (last : HidFrame)
    (bodies : List (List UInt8)) (room : ℕ) : List String :=
  ackLine debugStr info :: reportLines 0 (wholeReports room bodies) ++ unbindLine last bodies room ++
    [summaryLine (wholeReports room bodies).length]

theorem linesWithin_of_le (debugStr : String → String) (info : BindAckMeta) {last : HidFrame}
    {bodies : List (List UInt8)} {room : ℕ} (h : (behindAck last bodies).length ≤ room) :
    linesWithin debugStr info last bodies room = capturedLines debugStr info bodies := by
  rw [linesWithin, unbindLine, if_pos h, wholeReports_of_le h, List.append_assoc]
  rfl

section Capturing

variable (serde : Serde) (debugStr : String → String)

/-- The loop of the capture programs. -/
def captureRounds (fuel : ℕ) (c : Capture) : Act captureSig (Stop (Fault CaptureError)) Capture :=
  unroll (fun c => mapErr .failed (captureRound serde debugStr c)) fuel c

/-- A round takes an envelope off the stream. -/
theorem exec_captureRound {e : Envelope} (hfits : e.Fits) {rest : List UInt8}
    {s : Io (Option (List String))} (hs : s.input = e.bytes ++ rest) (c : Capture) :
    exec outputFile (captureRound serde debugStr c) s =
      exec outputFile (captureEnvelope serde debugStr c e) { s with input := rest } := by
  have hparse : Envelope.parse s.input = .ok (some (e, e.bytes.length)) := by
    rw [hs]
    exact Envelope.codec.round rest hfits
  have hrecv := exec_recvEnvelopeWith_of_parse outputFile "reading envelope header"
    "reading envelope payload" hparse
  rw [hs, List.drop_left' rfl] at hrecv
  rw [captureRound, Wire.recvEnvelope, exec_bind_ok (exec_catchErr_ok hrecv)]

variable {c : Capture} {lines : List String} {rest : List UInt8}

/-- A BIND_ACK is written down. -/
theorem exec_captureRound_ack {f : HidFrame} (hop : f.op = .bindAck) {info : BindAckMeta}
    {descriptor : List UInt8}
    (hbody : parseBindAckBody serde.bindAckMeta f.body = .ok (info, descriptor))
    (hfits : f.envelope.Fits)
    {s : Io (Option (List String))} (hs : s.input = f.envelope.bytes ++ rest)
    (hlines : s.env = some lines) :
    exec outputFile (captureRound serde debugStr c) s =
      (.ok (.inl { c with gotBindAck := true }),
        { s with input := rest, env := some (lines ++ [ackLine debugStr info]) }) := by
  obtain ⟨input, chunks, output, env⟩ := s
  cases hlines
  rw [exec_captureRound serde debugStr hfits hs, captureEnvelope, HidFrame.envelope,
    if_neg (not_not.2 rfl), HidFrame.parse_encode]
  refine (exec_bind_ok (show exec outputFile (ofResult _) _ = (.ok f, _) from rfl)).trans ?_
  simp only [hop, hbody, mapError_ok]
  rfl

/-- A report is written down. -/
theorem exec_captureRound_report (n : ℕ) {body : List UInt8}
    (hfits : (Arrival.frame n bindId body).envelope.Fits) {s : Io (Option (List String))}
    (hs : s.input = (Arrival.frame n bindId body).envelope.bytes ++ rest)
    (hlines : s.env = some lines) :
    exec outputFile (captureRound serde debugStr c) s =
      (.ok (.inl { c with reportCount := c.reportCount + 1 }),
        { s with input := rest, env := some (lines ++ [reportLine body n]) }) := by
  obtain ⟨input, chunks, output, env⟩ := s
  cases hlines
  rw [exec_captureRound serde debugStr hfits hs, captureEnvelope, HidFrame.envelope,
    if_neg (not_not.2 rfl), HidFrame.parse_encode]
  have hseq : (seqOf n).toNat = n % 2 ^ 16 := UInt16.toNat_ofNat'
  rw [reportLine, ← hseq]
  rfl

/-- An UNBIND is written down, and is the end. -/
theorem exec_captureRound_unbind {f : HidFrame} (hop : f.op = .unbind) (hfits : f.envelope.Fits)
    {s : Io (Option (List String))} (hs : s.input = f.envelope.bytes ++ rest)
    (hlines : s.env = some lines) :
    exec outputFile (captureRound serde debugStr c) s =
      (.ok (.inr c), { s with input := rest, env := some (lines ++ ["unbind"]) }) := by
  obtain ⟨input, chunks, output, env⟩ := s
  cases hlines
  rw [exec_captureRound serde debugStr hfits hs, captureEnvelope, HidFrame.envelope,
    if_neg (not_not.2 rfl), HidFrame.parse_encode]
  refine (exec_bind_ok (show exec outputFile (ofResult _) _ = (.ok f, _) from rfl)).trans ?_
  simp only [hop]
  rfl

/-- The end of the stream is the end. -/
theorem exec_captureRound_end {s : Io (Option (List String))}
    (hs : ∀ r, Envelope.parse s.input ≠ .ok (some r)) :
    ∃ left, exec outputFile (captureRound serde debugStr c) s =
      (.ok (.inr c), { s with input := left }) := by
  obtain ⟨err, left, hrecv⟩ := exec_recvEnvelopeWith_of_not_parse outputFile
    "reading envelope header" "reading envelope payload" hs
  refine ⟨left, ?_⟩
  rw [captureRound, Wire.recvEnvelope, exec_bind_ok (exec_catchErr_err hrecv)]
  rfl

/-- **The reports are written down**, any number of them. -/
theorem exec_captureRounds (bodies : List (List UInt8)) (n : ℕ)
    (hfits : ∀ e ∈ reportEnvelopes n bodies, e.Fits) (fuel : ℕ) {s : Io (Option (List String))}
    (hs : s.input = (reportEnvelopes n bodies).flatMap Envelope.bytes ++ rest)
    (hlines : s.env = some lines) :
    exec outputFile (captureRounds serde debugStr (bodies.length + fuel) c) s =
      exec outputFile (captureRounds serde debugStr fuel
          { c with reportCount := c.reportCount + UInt32.ofNat bodies.length })
        { s with input := rest, env := some (lines ++ reportLines n bodies) } := by
  induction bodies generalizing n c lines s with
  | nil =>
      obtain ⟨input, chunks, output, env⟩ := s
      cases hlines
      cases hs
      simp [reportLines]
  | cons body bodies ih =>
      rw [reportEnvelopes, List.forall_mem_cons] at hfits
      rw [reportEnvelopes, List.flatMap_cons, List.append_assoc] at hs
      have hround := exec_captureRound_report serde debugStr (c := c) (n + 1) hfits.1 hs hlines
      have hfuel : (body :: bodies).length + fuel = (bodies.length + fuel) + 1 := by
        rw [List.length_cons]
        omega
      rw [captureRounds, hfuel, unroll, exec_bind_ok (exec_mapErr_ok hround _)]
      have hrest := ih (n + 1) hfits.2 (c := { c with reportCount := c.reportCount + 1 })
        (s := { s with
          input := (reportEnvelopes (n + 1) bodies).flatMap Envelope.bytes ++ rest
          env := some (lines ++ [reportLine body (n + 1)]) }) rfl rfl
      have hcount : c.reportCount + 1 + UInt32.ofNat bodies.length =
          c.reportCount + UInt32.ofNat (body :: bodies).length := by
        rw [List.length_cons, UInt32.add_assoc, Nat.add_comm bodies.length, UInt32.ofNat_add]
        rfl
      rw [List.append_assoc, List.singleton_append, hcount] at hrest
      rw [reportLines, List.zipIdx_cons, List.map_cons]
      exact hrest

/-- A line is written. -/
theorem exec_writeln (line : String) {s : Io (Option (List String))} (hlines : s.env = some lines) :
    exec outputFile (fileOp (.writeln line)) s =
      (.ok (), { s with env := some (lines ++ [line]) }) := by
  obtain ⟨input, chunks, output, env⟩ := s
  cases hlines
  rfl

/-- The summary. -/
theorem finish_eq (n : UInt32) :
    (runSimulateSourceWith serde debugStr).finish ⟨true, n⟩ =
      fileOp (.writeln ("summary bind_ack=true reports=" ++ toString n.toNat)) := rfl

/-- The capture program behind its BIND. -/
def captureRest (fuel : ℕ) : Act captureSig (Stop (Fault CaptureError)) Unit := do
  mapErr .failed (fileOp .create)
  let c ← captureRounds serde debugStr fuel {}
  mapErr .failed ((runSimulateSourceWith serde debugStr).finish c)

/-- **What is behind the reports**: the UNBIND, or the end of the stream. -/
theorem exists_tail {last : HidFrame} (hlast : last.op = .unbind) {bodies : List (List UInt8)}
    (hfits : ∀ e ∈ reportEnvelopes 0 bodies ++ [last.envelope], e.Fits) (room : ℕ) :
    ∃ tail, (behindAck last bodies).take room =
        (reportEnvelopes 0 (wholeReports room bodies)).flatMap Envelope.bytes ++ tail ∧
      ∀ (c : Capture) (lines : List String) (s : Io (Option (List String))), s.input = tail →
        s.env = some lines → ∃ left, exec outputFile (captureRound serde debugStr c) s =
          (.ok (.inr c),
            { s with input := left, env := some (lines ++ unbindLine last bodies room) }) := by
  obtain ⟨rest, htake, hrest⟩ := Envelope.codec.take_eq hfits room
  rw [wholeFrames_behindAck] at htake
  rw [behindAck, htake, unbindLine]
  split_ifs with hle
  · refine ⟨last.envelope.bytes ++ rest, ?_, fun c lines s hs hlines => ⟨rest, ?_⟩⟩
    · rw [wholeReports_of_le hle, List.flatMap_append, List.flatMap_singleton, List.append_assoc]
    · exact exec_captureRound_unbind serde debugStr hlast
        ((List.forall_mem_append.1 hfits).2 _ (List.mem_singleton_self _)) hs hlines
  · refine ⟨rest, rfl, fun c lines s hs hlines => ?_⟩
    obtain ⟨input, chunks, output, env⟩ := s
    cases hlines
    obtain ⟨left, hend⟩ := exec_captureRound_end serde debugStr (c := c)
      (s := ⟨input, chunks, output, some lines⟩) fun r hr => by
        rw [hs, hrest] at hr
        cases hr
    exact ⟨left, by rw [hend, List.append_nil]⟩

/-- **The loop of a capture program, on all that a sender sends.** -/
theorem exec_captureRounds_stream {ack last : HidFrame} (hop : ack.op = .bindAck)
    (hlast : last.op = .unbind) {info : BindAckMeta} {descriptor : List UInt8}
    (hbody : parseBindAckBody serde.bindAckMeta ack.body = .ok (info, descriptor))
    {bodies : List (List UInt8)} (hfits : ∀ e ∈ streamEnvelopes ack last bodies, e.Fits) (room : ℕ)
    {fuel : ℕ} (hfuel : bodies.length + 2 ≤ fuel) {s : Io (Option (List String))}
    (hs : s.input = ack.envelope.bytes ++ (behindAck last bodies).take room) (henv : s.env = some []) :
    ∃ left, exec outputFile (captureRounds serde debugStr fuel {}) s =
      (.ok { gotBindAck := true, reportCount := 0 + UInt32.ofNat (wholeReports room bodies).length },
        { s with
          input := left
          env := some ([] ++ [ackLine debugStr info] ++ reportLines 0 (wholeReports room bodies) ++
            unbindLine last bodies room) }) := by
  rw [streamEnvelopes, List.forall_mem_cons] at hfits
  obtain ⟨hack, hfits⟩ := hfits
  have hwhole : (wholeReports room bodies).length ≤ bodies.length :=
    (StreamCodec.wholeFrames_isPrefix bodies room).length_le
  obtain ⟨spare, rfl⟩ : ∃ spare, fuel = (wholeReports room bodies).length + (spare + 1) + 1 :=
    ⟨fuel - (wholeReports room bodies).length - 2, by omega⟩
  obtain ⟨tail, htake, htail⟩ := exists_tail serde debugStr hlast hfits room
  have hreports : ∀ e ∈ reportEnvelopes 0 (wholeReports room bodies), e.Fits := by
    rw [← wholeFrames_reportEnvelopes]
    exact fun e he => hfits e (List.mem_append_left _
      ((StreamCodec.wholeFrames_isPrefix (reportEnvelopes 0 bodies) room).subset he))
  rw [htake] at hs
  -- the BIND_ACK is written down, then the reports, and what is behind them
  have hfirst := exec_captureRound_ack serde debugStr (c := {}) hop hbody hack hs henv
  have hrounds := exec_captureRounds serde debugStr (c := { gotBindAck := true })
    (wholeReports room bodies) 0 hreports (spare + 1) (s := { s with
      input := (reportEnvelopes 0 (wholeReports room bodies)).flatMap Envelope.bytes ++ tail
      env := some ([] ++ [ackLine debugStr info]) }) rfl rfl
  obtain ⟨left, hend⟩ := htail
    { gotBindAck := true, reportCount := 0 + UInt32.ofNat (wholeReports room bodies).length }
    ([] ++ [ackLine debugStr info] ++ reportLines 0 (wholeReports room bodies)) { s with
      input := tail
      env := some ([] ++ [ackLine debugStr info] ++ reportLines 0 (wholeReports room bodies)) }
    rfl rfl
  refine ⟨left, ?_⟩
  rw [captureRounds, unroll, exec_bind_ok (exec_mapErr_ok hfirst _)]
  refine hrounds.trans ?_
  rw [captureRounds, unroll, exec_bind_ok (exec_mapErr_ok hend _)]
  rfl

/-- **What a capture program makes of all that a sender sends.** -/
theorem exec_captureRest {ack last : HidFrame} (hop : ack.op = .bindAck) (hlast : last.op = .unbind)
    {info : BindAckMeta} {descriptor : List UInt8}
    (hbody : parseBindAckBody serde.bindAckMeta ack.body = .ok (info, descriptor))
    {bodies : List (List UInt8)} (hfits : ∀ e ∈ streamEnvelopes ack last bodies, e.Fits) (room : ℕ)
    {fuel : ℕ} (hfuel : bodies.length + 2 ≤ fuel) {s : Io (Option (List String))}
    (hs : s.input = ack.envelope.bytes ++ (behindAck last bodies).take room) :
    ∃ left, exec outputFile (captureRest serde debugStr fuel) s =
      (.ok (), { s with input := left, env := some (linesWithin debugStr info last bodies room) }) := by
  have hcreate : exec outputFile (mapErr Stop.failed (fileOp .create) :
      Act captureSig (Stop (Fault CaptureError)) Unit) s = (.ok (), { s with env := some [] }) := rfl
  obtain ⟨left, hloop⟩ := exec_captureRounds_stream serde debugStr hop hlast hbody hfits room hfuel
    (s := { s with env := some [] }) hs rfl
  have hcount : (0 + UInt32.ofNat (wholeReports room bodies).length).toNat =
      (wholeReports room bodies).length % 2 ^ 32 := by
    rw [UInt32.zero_add]
    exact UInt32.toNat_ofNat'
  have hlines : linesWithin debugStr info last bodies room =
      [] ++ [ackLine debugStr info] ++ reportLines 0 (wholeReports room bodies) ++
        unbindLine last bodies room ++ [summaryLine (wholeReports room bodies).length] := rfl
  have hfinish := exec_writeln (summaryLine (wholeReports room bodies).length) (s := { s with
    input := left
    env := some ([] ++ [ackLine debugStr info] ++ reportLines 0 (wholeReports room bodies) ++
      unbindLine last bodies room) }) rfl
  refine ⟨left, ?_⟩
  rw [captureRest, exec_bind_ok hcreate, exec_bind_ok hloop, hlines, finish_eq, hcount]
  exact exec_mapErr_ok hfinish _

end Capturing

/-- **A capture program writes down the reports of whoever plays the sender's part.**  In whatever
order the two move, both return, and in the file there are the BIND_ACK, the reports that were sent
as a whole in their order, each with its number, the UNBIND if it was sent, and the number of the
reports. -/
theorem PlaysSender.captured {F : Env Y τ} {serde : Serde} (debugStr : String → String)
    {devices : List DeviceSummary} {chosen : DeviceSummary} {info : BindAckMeta} {last : HidFrame}
    {bodies : List (List UInt8)} {room : ℕ} {p : Party Y τ β} {b : β}
    (h : PlaysSender F serde (.hello 1 "zerowire-test/0" ["hid-fastlane/1"]) devices chosen info last
      bodies room p b) (hchosen : pickHidDevice devices none = .ok chosen) {fuel : ℕ}
    (hfuel : bodies.length + 2 ≤ fuel) :
    ∃ s' t',
      Ends (Net.Step outputFile F)
        ⟨⟨((runSimulateSourceWith serde debugStr).unrolled fuel).run, { input := [], env := none }⟩, p⟩
        ⟨⟨.ret (.ok ()), s'⟩, ⟨.ret b, t'⟩⟩ ∧
      s'.env = some (linesWithin debugStr info last bodies room) := by
  obtain @⟨bound, _, t, ack, list, reply, attached, importId, ackFrame, descriptor,
    handshake, responds, bind_fits, ack_op, ack_body, last_op, fits, streams⟩ := h
  let sent : List UInt8 := ackFrame.envelope.bytes ++ (behindAck last bodies).take room
  obtain ⟨s₁, hs₁, -, hinquires⟩ := inquires_capture outputFile debugStr
    (s := { input := [], env := none }) rfl handshake hchosen fuel
  have hgreeted := Net.reaches_of_dialogue hinquires responds
  let s₂ := s₁.sent (bindFrame serde.bindRequest chosen.busid).envelope.bytes
  have hasked := Net.reaches_left (E := outputFile) (F := F) (f := fun _ => captureRest serde debugStr fuel)
    (((enough_sendEnvelope bind_fits s₁).mapErr (Fault.map CaptureError.send)).mapErr Stop.failed) rfl
    bound
  have hreturned := Net.reaches_of_moves_right (E := outputFile)
    (r := ⟨(captureRest serde debugStr fuel).run, s₂⟩) streams.of_false
  have hinput : (s₂.fed sent).input = sent := by
    rw [Io.fed_input, Io.sent_input, hs₁, List.nil_append]
  obtain ⟨left, hread⟩ :=
    exec_captureRest serde debugStr ack_op last_op ack_body fits room hfuel hinput
  obtain ⟨said, hlast⟩ := Net.reaches_left_end (F := F) hread b t
  exact ⟨_, _, Net.diamond.ends (hgreeted.trans (hasked.trans (hreturned.trans hlast)))
    (Net.final _ _ _ _), rfl⟩

/-- **So does the one over TLS.** -/
theorem PlaysSender.captured_tls {F : Env Y τ} {serde : Serde} (debugStr : String → String)
    {devices : List DeviceSummary} {chosen : DeviceSummary} {info : BindAckMeta} {last : HidFrame}
    {bodies : List (List UInt8)} {room : ℕ} {p : Party Y τ β} {b : β}
    (h : PlaysSender F serde (.hello 1 "zerowire-test/0" ["hid-fastlane/1"]) devices chosen info last
      bodies room p b) (hchosen : pickHidDevice devices none = .ok chosen) {fuel : ℕ}
    (hfuel : bodies.length + 2 ≤ fuel) :
    ∃ s' t',
      Ends (Net.Step outputFile F)
        ⟨⟨((hidSimulateSourceLoop serde debugStr).unrolled fuel).run, { input := [], env := none }⟩, p⟩
        ⟨⟨.ret (.ok ()), s'⟩, ⟨.ret b, t'⟩⟩ ∧
      s'.env = some (linesWithin debugStr info last bodies room) := by
  obtain ⟨s', t', hends, hfile⟩ := h.captured debugStr hchosen hfuel
  exact ⟨s', t', (capture_alike serde debugStr).ends hends, hfile⟩

/-- Nothing is lost if the connection takes all of it. -/
theorem PlaysSender.captured_all {F : Env Y τ} {serde : Serde} (debugStr : String → String)
    {devices : List DeviceSummary} {chosen : DeviceSummary} {info : BindAckMeta} {last : HidFrame}
    {bodies : List (List UInt8)} {room : ℕ} {p : Party Y τ β} {b : β}
    (h : PlaysSender F serde (.hello 1 "zerowire-test/0" ["hid-fastlane/1"]) devices chosen info last
      bodies room p b) (hroom : (behindAck last bodies).length ≤ room)
    (hchosen : pickHidDevice devices none = .ok chosen) {fuel : ℕ} (hfuel : bodies.length + 2 ≤ fuel) :
    (∃ s' t',
      Ends (Net.Step outputFile F)
        ⟨⟨((runSimulateSourceWith serde debugStr).unrolled fuel).run, { input := [], env := none }⟩, p⟩
        ⟨⟨.ret (.ok ()), s'⟩, ⟨.ret b, t'⟩⟩ ∧
      s'.env = some (capturedLines debugStr info bodies)) ∧
    (∃ s' t',
      Ends (Net.Step outputFile F)
        ⟨⟨((hidSimulateSourceLoop serde debugStr).unrolled fuel).run, { input := [], env := none }⟩, p⟩
        ⟨⟨.ret (.ok ()), s'⟩, ⟨.ret b, t'⟩⟩ ∧
      s'.env = some (capturedLines debugStr info bodies)) := by
  rw [← linesWithin_of_le debugStr info hroom]
  exact ⟨h.captured debugStr hchosen hfuel, h.captured_tls debugStr hchosen hfuel⟩

end Zerowire

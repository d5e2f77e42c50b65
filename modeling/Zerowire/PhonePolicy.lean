/-
**What the phone answers.**

The session of the phone follows a policy: it grants an ATTACH with mode "hid" for a device that it
has listed and denies any other, and it takes every Bind, if only the BIND_ACK can be put together.

The stream is that of a receiver that says a sequence of well-formed messages and then closes; of
the phone it is asked that its socket works and that its devices can be opened.

Main definitions:

* `Zerowire.ReceiverSession.PrintsOps` — what is relied on of `org.json`, of the messages of one
  session;
* `Zerowire.ReceiverSession.PhoneServes` — a phone whose devices can be opened;
* `Zerowire.ReceiverSession.policy` — its policy.

Main results:

* `Zerowire.ReceiverSession.answered_run` — **the session answers as its policy says.**
-/

import Zerowire.ReplyPolicy
import Zerowire.SessionDiscipline

set_option relaxedAutoImplicit false
set_option autoImplicit false

namespace Zerowire.ReceiverSession

open Bytes Jvm Program Android Senders

/-! ### The policy -/

/-- `org.json` reads the field `op` back from a message that it has printed. -/
def PrintsOp (json : OrgJson) (r : ControlReply) (msg : JsonValue) : Prop :=
  ∃ obj, json.parse (json.print msg).val = some obj ∧ obj "op" = r.op

/-- **`org.json`** does so for the messages that a session has for what is said to it. -/
structure PrintsOps {serde : Serde} (json : OrgJson) (senderId deviceName : String)
    (ds : List UsbDevice) (ws : List (Said serde json)) : Prop where
  helloAck : PrintsOp json .helloAck (helloAck senderId deviceName)
  deviceList : PrintsOp json .deviceList (deviceListMessage ds)
  attachOk : ∀ text busid mode h, .control text (.attach busid mode) h ∈ ws →
    PrintsOp json .attachOk (attachOk busid)
  attachDenied : ∀ text busid mode h, .control text (.attach busid mode) h ∈ ws →
    ∀ reason ∈ ["unknown busid", s!"mode {mode} not supported"],
      PrintsOp json .attachDenied (attachDenied busid reason)

theorem PrintsOps.tail {serde : Serde} {json : OrgJson} {senderId deviceName : String}
    {ds : List UsbDevice} {w : Said serde json} {ws : List (Said serde json)}
    (h : PrintsOps json senderId deviceName ds (w :: ws)) :
    PrintsOps json senderId deviceName ds ws where
  helloAck := h.helloAck
  deviceList := h.deviceList
  attachOk text busid mode ht hmem := h.attachOk text busid mode ht (List.mem_cons_of_mem w hmem)
  attachDenied text busid mode ht hmem :=
    h.attachDenied text busid mode ht (List.mem_cons_of_mem w hmem)

/-- The kind that a report descriptor is classified as. -/
def kindOf {ε : Type} (descriptor : Jvm.Array) : Except (Throwable ε) HidDescriptor.Kind :=
  (HidDescriptor.classifyDescriptor (descriptor.val.length + 1) descriptor.val).getD (.ok .other)

/-- The body of the BIND_ACK of a device with that report descriptor. -/
def ackBody (json : OrgJson) (d : UsbDevice) (descriptor : Jvm.Array) :
    Except (Throwable WireProtocol.WireError) (List UInt8) := do
  let kind ← kindOf descriptor
  bindAckBody json (busidFor d) (kindName kind) d.vendorId d.productId
    (d.productName.getD d.deviceName) descriptor.val

/-- Whether the BIND_ACK can be put together, as an array. -/
def acknowledges (json : OrgJson) (d : UsbDevice) (descriptor : Jvm.Array) : Bool :=
  match ackBody json d descriptor with
  | .ok body => decide (4 + body.length < 2 ^ 31)
  | .error _ => false

/-- The device with the given busid. -/
def deviceWith (ds : List UsbDevice) (busid : String) : Option UsbDevice :=
  ds.find? fun d => decide (busidFor d = busid)

/-- **The policy of the phone.** -/
def policy (json : OrgJson) (ds : List UsbDevice)
    (descriptor : UsbDevice → Jvm.Array) : Policy where
  greets := true
  lists := true
  attach busid mode :=
    match deviceWith ds busid with
    | none => .denied
    | some _ => if mode ≠ "hid" then .denied else .granted
  takes busid _ :=
    match deviceWith ds busid with
    | none => false
    | some d => acknowledges json d (descriptor d)

/-- **A phone that serves its devices**: the socket works, and every device can be opened and has
the report descriptor that is given. -/
structure PhoneServes {τ : Type} (env : Env phoneSig τ) (ds : List UsbDevice)
    (descriptor : UsbDevice → Jvm.Array) : Prop where
  setTcpNoDelay : ∀ t, (env (.setTcpNoDelay true) t).1 = .ok ()
  setSoTimeout : ∀ t, (env (.setSoTimeout 30000) t).1 = .ok ()
  getInputStream : ∀ t, (env .getInputStream t).1 = .ok ()
  getOutputStream : ∀ t, (env .getOutputStream t).1 = .ok ()
  deviceList : ∀ t, (env .deviceList t).1 = .ok ds
  openable : ∀ d ∈ ds, ∀ s : Io τ, ∃ ep s', exec env (HidEndpoint.openOn d) s = (.ok (some ep), s') ∧
    ep.reportDescriptor = descriptor d

/-! ### The calls -/

section Calls

variable {τ α : Type} {P : Envelope → Prop}

theorem exec_perform {p : Prog sessionSig (Outcome α)} {q : Act phoneSig Thrown α}
    (h : p.handle phone = q.run) (env : Env phoneSig τ) (s : Io τ) :
    exec env (handled phone (perform p)) s =
      ((exec env q s).1.mapError .failed, (exec env q s).2) := by
  rw [exec, handled, ExceptT.run_mk, perform, ExceptT.run_mk, Prog.handle_bind, h, Prog.run_bind]
  rfl

theorem sendsOnly_perform {p : Prog sessionSig (Outcome α)} {q : Act phoneSig Thrown α}
    (h : p.handle phone = q.run) (hq : SendsOnly P q) :
    SendsOnly P (handled phone (perform p)) := by
  refine ⟨fun env s => ?_⟩
  rw [exec_perform h]
  exact hq.writes env s

theorem handle_request (o : SessionOp) : (request o).handle phone = phone o := Prog.bind_ret _

theorem exec_readEnvelope {serde : Serde} {json : OrgJson} {env : Env phoneSig τ} {s : Io τ}
    {w : Said serde json} {ws : List (Said serde json)} (hs : s.input = Said.stream (w :: ws)) :
    exec env (handled phone (perform (request .readEnvelope))) s =
      (.ok w.envelope, { s with input := Said.stream ws }) := by
  have hparse : Envelope.parse s.input = .ok (some (w.envelope, w.envelope.bytes.length)) := by
    rw [hs, Said.parse_stream]
  have hread := WireProtocol.exec_readEnvelope_of_parse env hparse
  rw [hs, Said.drop_stream] at hread
  rw [exec_perform (q := mapErr wireThrown WireProtocol.readEnvelope) (handle_request _),
    exec_mapErr_ok hread]
  rfl

/-- At the end of the stream nothing is read. -/
theorem exec_readEnvelope_nil (env : Env phoneSig τ) {s : Io τ} (hs : s.input = []) :
    ∃ t s', exec env (handled phone (perform (request .readEnvelope))) s =
      (.error (.failed t), s') ∧
      s'.output = s.output := by
  have hread := WireProtocol.exec_readEnvelope_short env (s := s) (by rw [hs]; decide)
  rw [exec_perform (q := mapErr wireThrown WireProtocol.readEnvelope) (handle_request _),
    exec_mapErr_error hread]
  exact ⟨_, _, rfl, rfl⟩

theorem exec_writeEnvelope (env : Env phoneSig τ) (channel : Channel) (payload : List UInt8)
    (s : Io τ) :
    exec env (handled phone (perform (request (.writeEnvelope channel payload)))) s =
      (.ok (), { s with output := s.output ++ (⟨channel, payload⟩ : Envelope).bytes }) := by
  have hwrite := WireProtocol.exec_writeEnvelope env channel payload s
  rw [exec_perform (q := mapErr wireThrown (WireProtocol.writeEnvelope channel payload))
    (handle_request _), exec_mapErr_ok hwrite]
  rfl

/-- A call that the phone answers by itself, and that does not throw. -/
theorem exec_ask {o : PhoneOp} {p : Prog sessionSig (Outcome α)} {a : α}
    {f : o.Ans → Outcome α} (hp : p.handle phone = ask o >>= fun x => Prog.ret (f x))
    {env : Env phoneSig τ} {s : Io τ} (h : f (env o s.env).1 = .ok a) :
    exec env (handled phone (perform p)) s = (.ok a, { s with env := (env o s.env).2 }) := by
  rw [exec_perform (q := ExceptT.mk (ask o >>= fun x => Prog.ret (f x))) hp]
  exact congrArg (fun r => (Except.mapError Stop.failed r, _)) h

end Calls

/-! ### The messages of the receiver -/

section Messages

variable {τ : Type} {serde : Serde} {json : OrgJson} (env : Env phoneSig τ)

/-- The control message that is expected is taken. -/
theorem exec_expectControl {s : Io τ} {text : List UInt8} {m : ControlMessage}
    {h : IsText serde json text m} {ws : List (Said serde json)}
    (hs : s.input = Said.stream (.control text m h :: ws)) (op : String) (hop : m.op = op) :
    ∃ obj, m.Shows obj ∧ exec env (handled phone (expectControl json op)) s =
      (.ok obj, { s with input := Said.stream ws }) := by
  obtain ⟨obj, hparse, hshows⟩ := h.shown
  refine ⟨obj, hshows, ?_⟩
  have hchan : ¬ (Said.envelope (.control text m h)).channel ≠ .control := fun hne => hne rfl
  have hpayload : json.parse (Said.envelope (.control text m h)).payload = some obj := hparse
  rw [expectControl, handled_bind, exec_bind_ok (exec_readEnvelope hs), if_neg hchan]
  simp only [hpayload]
  rw [if_neg (not_not.2 (hshows.op.trans hop))]
  rfl

/-- Anything else ends the session. -/
theorem exec_expectControl_error {s : Io τ} {ws : List (Said serde json)}
    (hs : s.input = Said.stream ws) {op : String}
    (hne : ∀ text m h ws', ws = .control text m h :: ws' → m.op ≠ op) :
    ∃ t s', exec env (handled phone (expectControl json op)) s = (.error (.failed t), s') ∧
      s'.output = s.output := by
  rw [expectControl, handled_bind]
  rcases ws with _ | ⟨⟨text, m, h⟩ | ⟨f, h⟩, ws⟩
  · obtain ⟨t, s', hread, hout⟩ := exec_readEnvelope_nil env hs
    exact ⟨t, s', exec_bind_error hread, hout⟩
  · obtain ⟨obj, hparse, hshows⟩ := h.shown
    have hchan : ¬ (Said.envelope (.control text m h)).channel ≠ .control := fun hne => hne rfl
    have hpayload : json.parse (Said.envelope (.control text m h)).payload = some obj := hparse
    rw [exec_bind_ok (exec_readEnvelope hs), if_neg hchan]
    simp only [hpayload]
    rw [if_pos (by rw [hshows.op]; exact hne text m h ws rfl)]
    exact ⟨_, _, rfl, rfl⟩
  · have hchan : (Said.envelope (.hid f h : Said serde json)).channel ≠ .control := by
      intro heq
      cases heq
    rw [exec_bind_ok (exec_readEnvelope hs), if_pos hchan]
    exact ⟨_, _, rfl, rfl⟩

theorem exec_sendJson (msg : JsonValue) (s : Io τ) :
    exec env (handled phone (sendJson json msg)) s =
      (.ok (), { s with output := s.output ++ (⟨.control, (json.print msg).val⟩ : Envelope).bytes }) :=
  exec_writeEnvelope env .control _ s

/-- What is written behind a control message, with it. -/
theorem appended_sendJson {r : ControlReply} {msg : JsonValue} (hprint : PrintsOp json r msg)
    {β : Type} {k : Unit → SessionAct β} {s : Io τ} {x : ReplyLog}
    (hk : ∀ s', s'.input = s.input →
      Appended json s' (exec env (handled phone (k ())) s').2 x) :
    Appended json s
      (exec env (handled phone (sendJson json msg >>= k)) s).2 (x.behind r) := by
  obtain ⟨obj, hparse, hop⟩ := hprint
  have hlen := (json.print msg).property
  rw [handled_bind, exec_bind_ok (exec_sendJson env _ s)]
  exact Appended.behind (t := { s with output := s.output ++ _ }) (hk _ rfl) rfl (by omega) hparse hop

end Messages

/-! ### The frames of the phone -/

section Frames

variable {τ : Type} {json : OrgJson} {P : Envelope → Prop}

theorem length_encodeHidFrame {ε : Type} {op : HidOp} {bindId seq : Int32} {body frame : List UInt8}
    (h : (WireProtocol.encodeHidFrame op bindId seq body : Except (Throwable ε) _) = .ok frame) :
    frame.length < 2 ^ 31 := by
  rw [WireProtocol.encodeHidFrame] at h
  obtain ⟨a₀, h₀, h⟩ := bind_eq_ok h
  obtain ⟨a₁, h₁, h⟩ := bind_eq_ok h
  obtain ⟨a₂, h₂, h⟩ := bind_eq_ok h
  obtain ⟨a₃, h₃, h⟩ := bind_eq_ok h
  obtain ⟨a₄, h₄, h⟩ := bind_eq_ok h
  rw [length_of_arraycopy h, length_of_put h₄, length_of_put h₃, length_of_put h₂, length_of_put h₁]
  exact length_of_newByteArray h₀

theorem exec_onArrays_ok {ε α β : Type} {f : ε → SessionException} (env : Env phoneSig τ) (a : α)
    (k : α → Act phoneSig (Stop Thrown) β) (s : Io τ) :
    exec env (handled phone (onArrays f (.ok a)) >>= k) s = exec env (k a) s := rfl

/-- A frame that there is an array for is written. -/
theorem exec_writeFrame (env : Env phoneSig τ) {f : HidFrame} (hlen : 4 + f.body.length < 2 ^ 31)
    (s : Io τ) :
    exec env (handled phone (writeFrame f.op (Int32.ofNat f.bindId.toNat) (Int32.ofNat f.seq.toNat)
      f.body)) s =
      (.ok (), { s with output := s.output ++ (⟨.hid, f.encode⟩ : Envelope).bytes }) := by
  rw [writeFrame, WireProtocol.encodeHidFrame_eq f (by omega), if_pos hlen, handled_bind]
  exact exec_writeEnvelope env .hid f.encode s

/-- Any other is not. -/
theorem exec_writeFrame_error (env : Env phoneSig τ) {f : HidFrame} (hlen : f.body.length < 2 ^ 31)
    (hbig : ¬ 4 + f.body.length < 2 ^ 31) (s : Io τ) :
    ∃ t, exec env (handled phone (writeFrame f.op (Int32.ofNat f.bindId.toNat)
      (Int32.ofNat f.seq.toNat) f.body)) s = (.error (.failed t), s) := by
  rw [writeFrame, WireProtocol.encodeHidFrame_eq f hlen, if_neg hbig, handled_bind]
  exact ⟨_, rfl⟩

/-- What is written to the HID channel is a HID envelope. -/
theorem sendsOnly_writeEnvelope {frame : List UInt8} (h : frame.length < 2 ^ 31) :
    SendsOnly IsHid (handled phone (perform (request (.writeEnvelope .hid frame)))) := by
  have hlt : frame.length < 2 ^ 32 := by omega
  refine ⟨fun env s => ⟨[⟨.hid, frame⟩], List.forall_mem_singleton.2 ⟨rfl, hlt⟩, ?_⟩⟩
  rw [exec_writeEnvelope, List.flatMap_singleton]

theorem sendsOnly_writeFrame (op : HidOp) (bindId seq : Int32) (body : List UInt8) :
    SendsOnly IsHid (handled phone (writeFrame op bindId seq body)) := by
  rw [writeFrame, handled_bind]
  rcases hframe : (WireProtocol.encodeHidFrame op bindId seq body :
    Except (Throwable WireProtocol.WireError) _) with e | frame
  · exact .throw _
  · exact sendsOnly_writeEnvelope (length_encodeHidFrame hframe)

theorem sendsOnly_orBreak {α β : Type} {p : SessionAct α} {k : α → SessionAct (β ⊕ Unit)}
    (hp : SendsOnly P (handled phone p)) (hk : ∀ a, SendsOnly P (handled phone (k a))) :
    SendsOnly P (handled phone (orBreak p k)) := by
  rw [orBreak, handled_bind, handled_attempt]
  refine hp.attempt.bind ?_
  rintro ((e | _) | a)
  · rw [handled_ite]
    exact .ite (.pure _) (.throw _)
  · exact .throw _
  · exact hk a

/-- Reading a report writes nothing. -/
theorem silent_readReport (ep : HidEndpoint) (timeoutMs : Int32) :
    Silent (ep.readReport timeoutMs) := by
  rw [HidEndpoint.readReport]
  refine (SendsOnly.ofResult _).bind fun buf => SendsOnly.bind (.of_same fun _ _ => rfl) fun r => ?_
  exact .ite ((SendsOnly.ofResult _).bind fun _ => .pure _) (.pure _)

/-- Nor does opening a device. -/
theorem silent_openOn (device : UsbDevice) : Silent (HidEndpoint.openOn device) := by
  rw [HidEndpoint.openOn]
  split
  · exact .pure _
  split
  · exact .pure _
  refine SendsOnly.bind (.of_same fun _ _ => rfl) ?_
  rintro (_ | conn)
  · exact .pure _
  refine SendsOnly.bind (.of_same fun _ _ => rfl) fun claimed => .ite ?_ ?_
  · refine SendsOnly.bind ?_ fun rd => .pure _
    refine (SendsOnly.ofResult _).bind fun buf =>
      SendsOnly.bind (.of_same fun _ _ => rfl) fun r => ?_
    exact .ite (.pure _) (.ofResult _)
  · exact SendsOnly.bind (.of_same fun _ _ => rfl) fun _ => .pure _

/-- The loop over the reports writes HID frames. -/
theorem sendsOnly_reportRound (ep : HidEndpoint) (bindId seq : Int32) :
    SendsOnly IsHid (handled phone (reportRound ep bindId seq)) := by
  rw [reportRound, handled_bind]
  refine SendsOnly.bind (.of_same fun _ _ => rfl) fun running => ?_
  rw [handled_ite]
  refine .ite (sendsOnly_orBreak ?_ ?_) (.pure _)
  · exact sendsOnly_perform (handle_request _) ((silent_readReport ep 1000).mono fun _ => False.elim)
  rintro (_ | report)
  · exact .pure _
  simp only [handled_bind]
  rcases hframe : (WireProtocol.encodeHidFrame .reportIn bindId ((seq + 1) &&& 0xFFFF) report.val :
    Except (Throwable WireProtocol.WireError) _) with e | frame
  · exact .throw _
  · exact sendsOnly_orBreak (sendsOnly_writeEnvelope (length_encodeHidFrame hframe)) fun _ =>
      .pure _

end Frames

/-! ### The session -/

section Session

variable {τ : Type} {serde : Serde} {json : OrgJson} {env : Env phoneSig τ} {ds : List UsbDevice}
  {descriptor : UsbDevice → Jvm.Array} {senderId deviceName : String}

/-- The BIND_ACK and what follows it. -/
theorem appended_stream (json : OrgJson) (env : Env phoneSig τ) (fuel : ℕ)
    (d : UsbDevice) (b : UInt8)
    (ep : HidEndpoint) (s : Io τ) :
    Appended json s (exec env (handled phone (stream json fuel d (Int32.ofNat b.toNat) ep)) s).2
      { bound := acknowledges json d ep.reportDescriptor } := by
  have hkind : (ep.kind : Except (Throwable WireProtocol.WireError) _) =
    kindOf ep.reportDescriptor := rfl
  rw [stream, handled_bind, acknowledges, ackBody, hkind]
  rcases (kindOf ep.reportDescriptor : Except (Throwable WireProtocol.WireError) _) with e | kind
  · exact appended_nothing rfl
  rw [ok_bind, exec_onArrays_ok]
  obtain ⟨b', hb'⟩ := exists_bindId b
  simp only [hb', handled_bind]
  rcases hbody : (bindAckBody json (busidFor d) (kindName kind) d.vendorId d.productId
    (d.productName.getD d.deviceName) ep.reportDescriptor.val :
    Except (Throwable WireProtocol.WireError) _) with e | body
  · exact appended_nothing rfl
  have hlen := length_bindAckBody hbody
  rw [exec_onArrays_ok]
  by_cases hfit : 4 + body.length < 2 ^ 31
  · have hack : exec env (handled phone (writeFrame .bindAck (Int32.ofNat b'.toNat) 0 body)) s = _ :=
      exec_writeFrame env (f := ⟨.bindAck, b', 0, body⟩) hfit s
    rw [exec_bind_ok hack]
    -- behind the BIND_ACK there are only HID frames
    have hrest : SendsOnly IsHid (handled phone (unroll (reportRound ep (Int32.ofNat b'.toNat)) fuel 0)
        >>= fun _ => handled phone (ignoring (writeFrame .unbind (Int32.ofNat b'.toNat) 0 unbindBody)))
        := by
      refine SendsOnly.bind ?_ fun _ => ?_
      · rw [handled_unroll]
        exact .unroll (fun seq => sendsOnly_reportRound ep _ seq) fuel 0
      · rw [handled_ignoring]
        exact (sendsOnly_writeFrame _ _ _ _).ignoring
    obtain ⟨es, hes, hout⟩ := hrest.writes env { s with output := s.output ++ _ }
    have hsize : (⟨.bindAck, b', 0, body⟩ : HidFrame).encode.length < 2 ^ 32 := by
      rw [HidFrame.encode, List.length_append]
      change 4 + body.length < 2 ^ 32
      omega
    have hholds := holdReplies_ack json ⟨.bindAck, b', 0, body⟩ rfl hsize hes
    simp only [decide_eq_true hfit]
    refine ⟨_, hholds, ?_⟩
    rw [hout, List.flatMap_cons, List.append_assoc]
  · obtain ⟨t, hack⟩ : ∃ t, exec env (handled phone (writeFrame .bindAck (Int32.ofNat b'.toNat) 0
        body)) s = (.error (.failed t), s) :=
      exec_writeFrame_error env (f := ⟨.bindAck, b', 0, body⟩) hlen hfit s
    rw [exec_bind_error hack]
    simp only [decide_eq_false hfit]
    exact appended_nothing rfl

/-- The Bind, from the message that is expected to be one. -/
theorem appended_runHidBinding (hphone : PhoneServes env ds descriptor) (fuel : ℕ) {busid : String}
    {d : UsbDevice} (hd : deviceWith ds busid = some d) {s : Io τ} {ws : List (Said serde json)}
    (hs : s.input = Said.stream ws) :
    Appended json s (exec env (handled phone (runHidBinding json fuel d)) s).2
      ((policy json ds descriptor).afterAttach busid ws) := by
  rw [runHidBinding, handled_bind]
  -- nothing comes, a control message comes, or a HID frame
  rcases ws with _ | ⟨⟨text, m, h⟩ | ⟨f, h⟩, ws⟩
  · obtain ⟨t, s', hread, hout⟩ := exec_readEnvelope_nil env hs
    rw [exec_bind_error hread]
    exact appended_nothing hout
  · have hchan : (Said.envelope (.control text m h)).channel ≠ .hid := by
      intro heq
      cases heq
    rw [exec_bind_ok (exec_readEnvelope hs), if_pos hchan]
    exact appended_nothing rfl
  have hchan : ¬ (Said.envelope (.hid f h : Said serde json)).channel ≠ .hid := fun hne => hne rfl
  have hlen : f.encode.length < 2 ^ 31 := Nat.lt_of_le_of_lt h (by decide)
  have hparse : WireProtocol.parseHidFrame (Said.envelope (.hid f h : Said serde json)).payload =
      .ok (WireProtocol.HidFrameView.ofFrame f) := by
    refine (WireProtocol.parseHidFrame_eq hlen).trans ?_
    rw [HidFrame.parse_encode]
    rfl
  rw [exec_bind_ok (exec_readEnvelope hs), if_neg hchan, hparse, handled_bind, exec_onArrays_ok]
  have htakes : (policy json ds descriptor).takes busid f = acknowledges json d (descriptor d) := by
    rw [policy]
    simp only [hd]
  rw [Policy.afterAttach, htakes]
  by_cases hop : f.op = .bind
  · have hview : ¬ (WireProtocol.HidFrameView.ofFrame f).op ≠ .bind := not_not.2 hop
    obtain ⟨ep, s', hopen, hdesc⟩ := hphone.openable d (List.mem_of_find?_eq_some hd)
      { s with input := Said.stream ws }
    have hsame := (silent_openOn d).output_eq env { s with input := Said.stream ws }
    rw [hopen] at hsame
    have hperform : exec env (handled phone (perform (request (.openEndpoint d))))
        { s with input := Said.stream ws } = (.ok (some ep), s') := by
      rw [exec_perform (q := HidEndpoint.openOn d) (handle_request _), hopen]
      rfl
    rw [if_neg hview, handled_bind, exec_bind_ok hperform, decide_eq_true hop, Bool.true_and, ← hdesc]
    simp only
    rw [handled_tryFinally]
    obtain ⟨es, hes, hout⟩ := appended_stream json env fuel d f.bindId ep s'
    refine ⟨es, hes, ?_⟩
    rw [output_tryFinally fun t => rfl]
    exact hout.trans (congrArg (· ++ _) hsame)
  · have hview : (WireProtocol.HidFrameView.ofFrame f).op ≠ .bind := hop
    rw [if_pos hview, decide_eq_false hop, Bool.false_and]
    exact appended_nothing rfl

/-- The answer to an ATTACH, and what follows it. -/
theorem appended_attachTo (hphone : PhoneServes env ds descriptor)
    (fuel : ℕ) {busid mode : String} {obj : String → String} (hbusid : obj "busid" = busid)
    (hmode : obj "mode" = mode) {s : Io τ} {text : List UInt8}
    {h : IsText serde json text (.attach busid mode)} {ws : List (Said serde json)}
    (hprint : PrintsOps json senderId deviceName ds (.control text (.attach busid mode) h :: ws))
    (hs : s.input = Said.stream ws) :
    Appended json s (exec env (handled phone (attachTo json fuel ds obj)) s).2
      ((policy json ds descriptor).afterList (.control text (.attach busid mode) h :: ws)) := by
  have hdenied {reason : String}
      (hmem : reason ∈ ["unknown busid", s!"mode {mode} not supported"]) : Appended json s
      (exec env (handled phone (sendJson json (attachDenied busid reason))) s).2
      { sent := [.attachDenied] } := by
    obtain ⟨obj', hparse, hop⟩ :=
      hprint.attachDenied text busid mode h List.mem_cons_self reason hmem
    have hlen := (json.print (attachDenied busid reason)).property
    rw [exec_sendJson]
    exact Appended.behind (appended_nothing rfl) rfl (by omega) hparse hop
  rw [attachTo, hbusid, hmode, Policy.afterList]
  -- no such device; a device, but another mode; a device to be bound
  rcases hd : deviceWith ds busid with _ | d
  · have hverdict : (policy json ds descriptor).attach busid mode = .denied := by
      rw [policy]
      simp only [hd]
    rw [deviceWith] at hd
    simp only [hd, hverdict]
    exact hdenied List.mem_cons_self
  have hfind := hd
  rw [deviceWith] at hfind
  by_cases hhid : mode ≠ "hid"
  · have hverdict : (policy json ds descriptor).attach busid mode = .denied := by
      rw [policy]
      simp only [hd]
      exact if_pos hhid
    simp only [hfind, hverdict, if_pos hhid]
    exact hdenied (List.mem_cons_of_mem _ List.mem_cons_self)
  · have hverdict : (policy json ds descriptor).attach busid mode = .granted := by
      rw [policy]
      simp only [hd]
      exact if_neg hhid
    simp only [hfind, hverdict, if_neg hhid]
    refine appended_sendJson env (hprint.attachOk text busid mode h List.mem_cons_self)
      fun s' hs' => ?_
    exact appended_runHidBinding hphone fuel hd (hs'.trans hs)

/-- The ATTACH, from the message that is expected to be one. -/
theorem appended_attach (hphone : PhoneServes env ds descriptor) (fuel : ℕ) {s : Io τ}
    {ws : List (Said serde json)} (hprint : PrintsOps json senderId deviceName ds ws)
    (hs : s.input = Said.stream ws) :
    Appended json s (exec env (handled phone
      (expectControl json "ATTACH" >>= fun obj => attachTo json fuel ds obj)) s).2
      ((policy json ds descriptor).afterList ws) := by
  rw [handled_bind]
  by_cases hsaid : ∃ text busid mode h ws', ws = .control text (.attach busid mode) h :: ws'
  · obtain ⟨text, busid, mode, h, ws', rfl⟩ := hsaid
    obtain ⟨obj, hshows, hexpect⟩ := exec_expectControl env hs "ATTACH" rfl
    rw [exec_bind_ok hexpect]
    exact appended_attachTo hphone fuel hshows.2.1 hshows.2.2 hprint rfl
  · have hne : ∀ text m h ws', ws = .control text m h :: ws' → m.op ≠ "ATTACH" := by
      rintro text m h ws' rfl hop
      obtain ⟨busid, mode, rfl⟩ := ControlMessage.exists_attach hop
      exact hsaid ⟨text, busid, mode, h, ws', rfl⟩
    obtain ⟨t, s', hexpect, hout⟩ := exec_expectControl_error env hs hne
    rw [exec_bind_error hexpect, Policy.afterList]
    · exact appended_nothing hout
    · rintro text busid mode h ws' rfl
      exact hsaid ⟨text, busid, mode, h, ws', rfl⟩

/-- The LIST_DEVICES, from the message that is expected to be one. -/
theorem appended_list (hphone : PhoneServes env ds descriptor) (fuel : ℕ) {s : Io τ}
    {ws : List (Said serde json)} (hprint : PrintsOps json senderId deviceName ds ws)
    (hs : s.input = Said.stream ws) :
    Appended json s (exec env (handled phone (expectControl json "LIST_DEVICES" >>= fun _ =>
      perform (request .deviceList) >>= fun devices => sendJson json (deviceListMessage devices) >>=
      fun _ => expectControl json "ATTACH" >>= fun obj => attachTo json fuel devices obj)) s).2
      ((policy json ds descriptor).afterHello ws) := by
  rw [handled_bind]
  by_cases hsaid : ∃ text h ws', ws = .control text .listDevices h :: ws'
  · obtain ⟨text, h, ws', rfl⟩ := hsaid
    obtain ⟨obj, -, hexpect⟩ := exec_expectControl env hs "LIST_DEVICES" rfl
    rw [exec_bind_ok hexpect, handled_bind, exec_bind_ok (exec_ask rfl (hphone.deviceList _)),
      Policy.afterHello, policy, if_pos rfl]
    refine appended_sendJson env hprint.deviceList fun s' hs' => ?_
    exact appended_attach hphone fuel hprint.tail hs'
  · have hne : ∀ text m h ws', ws = .control text m h :: ws' → m.op ≠ "LIST_DEVICES" := by
      rintro text m h ws' rfl hop
      obtain rfl := ControlMessage.eq_listDevices hop
      exact hsaid ⟨text, h, ws', rfl⟩
    obtain ⟨t, s', hexpect, hout⟩ := exec_expectControl_error env hs hne
    rw [exec_bind_error hexpect, Policy.afterHello]
    · exact appended_nothing hout
    · rintro text h ws' rfl
      exact hsaid ⟨text, h, ws', rfl⟩

/-- The HELLO, from the message that is expected to be one. -/
theorem appended_hello (hphone : PhoneServes env ds descriptor) (fuel : ℕ) {s : Io τ}
    {ws : List (Said serde json)} (hprint : PrintsOps json senderId deviceName ds ws)
    (hs : s.input = Said.stream ws) :
    Appended json s (exec env (handled phone (expectControl json "HELLO" >>= fun _ =>
      sendJson json (helloAck senderId deviceName) >>= fun _ =>
      expectControl json "LIST_DEVICES" >>= fun _ =>
      perform (request .deviceList) >>= fun devices =>
      sendJson json (deviceListMessage devices) >>= fun _ =>
      expectControl json "ATTACH" >>= fun obj =>
      attachTo json fuel devices obj)) s).2 ((policy json ds descriptor).replies ws) := by
  rw [handled_bind]
  by_cases hsaid : ∃ text version client supports h ws',
      ws = .control text (.hello version client supports) h :: ws'
  · obtain ⟨text, version, client, supports, h, ws', rfl⟩ := hsaid
    obtain ⟨obj, -, hexpect⟩ := exec_expectControl env hs "HELLO" rfl
    rw [exec_bind_ok hexpect, Policy.replies, policy, if_pos rfl]
    refine appended_sendJson env hprint.helloAck fun s' hs' => ?_
    exact appended_list hphone fuel hprint.tail hs'
  · have hne : ∀ text m h ws', ws = .control text m h :: ws' → m.op ≠ "HELLO" := by
      rintro text m h ws' rfl hop
      obtain ⟨version, client, supports, rfl⟩ := ControlMessage.exists_hello hop
      exact hsaid ⟨text, version, client, supports, h, ws', rfl⟩
    obtain ⟨t, s', hexpect, hout⟩ := exec_expectControl_error env hs hne
    rw [exec_bind_error hexpect, Policy.replies]
    · exact appended_nothing hout
    · rintro text version client supports h ws' rfl
      exact hsaid ⟨text, version, client, supports, h, ws', rfl⟩

theorem appended_converse (hphone : PhoneServes env ds descriptor) (fuel : ℕ) {s : Io τ}
    {ws : List (Said serde json)} (hprint : PrintsOps json senderId deviceName ds ws)
    (hs : s.input = Said.stream ws) :
    Appended json s (exec env (handled phone (converse json senderId deviceName fuel)) s).2
      ((policy json ds descriptor).replies ws) := by
  rw [converse, handled_bind, exec_bind_ok (exec_ask rfl (hphone.getInputStream _)), handled_bind,
    exec_bind_ok (exec_ask rfl (hphone.getOutputStream _))]
  exact appended_hello hphone fuel hprint hs

/-- **The session answers as its policy says**, whatever it sends behind the BIND_ACK. -/
theorem answered_run (hphone : PhoneServes env ds descriptor) (fuel : ℕ)
    {ws : List (Said serde json)} (hprint : PrintsOps json senderId deviceName ds ws) (t : τ) :
    Answered json
      (exec env (handled phone (run json senderId deviceName fuel))
        { input := Said.stream ws, env := t }).2.output
      ((policy json ds descriptor).replies ws) := by
  rw [run, handled_bind, exec_bind_ok (exec_ask rfl (hphone.setTcpNoDelay _)), handled_bind,
    exec_bind_ok (exec_ask rfl (hphone.setSoTimeout _)), handled_tryFinally, handled_ignoring,
    handled_ignoring, output_tryFinally, exec_ignoring_snd]
  · exact Appended.answered rfl (appended_converse hphone fuel hprint rfl)
  · intro s
    rw [exec_ignoring_snd]
    rfl

end Session

end Zerowire.ReceiverSession

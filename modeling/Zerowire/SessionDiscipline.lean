/-
**The discipline of the phone's session.**

Between a peer on the network and the user's keyboard there is nothing but the session of the phone.
Its discipline is a monitor on the calls of the session: a device is opened only when the receiver
has said what it has to say, and nothing else, reports are sent only between the BIND_ACK and the
UNBIND and in their order, and an endpoint is closed once.  The session keeps to it whatever it is
answered: the stream may end anywhere, writes may fail, and every call of the Android API may throw.

Main definitions:

* `Zerowire.ReceiverSession.Ledger` — what has happened in a session;
* `Zerowire.ReceiverSession.Asked` — what a receiver has to say;
* `Zerowire.ReceiverSession.Permits`, `Zerowire.ReceiverSession.discipline` — the discipline;
* `Zerowire.ReceiverSession.Disciplined` — what it means for the bytes of the stream.

Main results:

* `Zerowire.ReceiverSession.holds_run` — the session keeps to the discipline;
* `Zerowire.ReceiverSession.run_disciplined` — **so does every run over a byte stream and the
  Android API.**
-/

import Zerowire.ReceiverSession

set_option relaxedAutoImplicit false
set_option autoImplicit false

namespace Zerowire.ReceiverSession

open Bytes Jvm Program Android

/-! ### The discipline of a session -/

/-- A call that has returned. -/
abbrev returned {α : Type} (a : α) : Option (Outcome α) := some (.ok a)

/-- **What has happened**: the calls that matter, with their answers, in their order. -/
structure Ledger where
  reads : List (Option (Outcome Envelope)) := []
  listed : List (Option (Outcome (List UsbDevice))) := []
  opens : List (UsbDevice × Option (Outcome (Option HidEndpoint))) := []
  closes : List HidEndpoint := []
  /-- The payloads of the HID envelopes. -/
  frames : List (List UInt8 × Option (Outcome Unit)) := []

namespace Ledger

/-- Enter an event. -/
def add (l : Ledger) : Event sessionSig → Ledger
  | .called .readEnvelope a => { l with reads := l.reads ++ [a] }
  | .called .deviceList a => { l with listed := l.listed ++ [a] }
  | .called (.openEndpoint device) a => { l with opens := l.opens ++ [(device, a)] }
  | .called (.closeEndpoint ep) _ => { l with closes := l.closes ++ [ep] }
  | .called (.writeEnvelope .hid payload) a => { l with frames := l.frames ++ [(payload, a)] }
  | _ => l

/-- The endpoints that `open` returned. -/
def opened (l : Ledger) : List HidEndpoint :=
  l.opens.filterMap fun call =>
    match call.2 with
    | some (.ok (some ep)) => some ep
    | _ => none

/-- **Every endpoint that was opened has been closed**, once. -/
def Settled (l : Ledger) : Prop := l.closes = l.opened

end Ledger

/-- The envelope is a control message with the given op; `obj` is its object. -/
def IsControl (json : OrgJson) (op : String) (e : Envelope) (obj : String → String) : Prop :=
  e.channel = .control ∧ json.parse e.payload = some obj ∧ obj "op" = op

/-- The envelope is a HID Bind frame. -/
def IsBind (e : Envelope) : Prop :=
  e.channel = .hid ∧ ∃ frame, WireProtocol.parseHidFrame e.payload = .ok frame ∧ frame.op = .bind

/-- **What a receiver has to say** to have a device opened: HELLO, LIST_DEVICES, ATTACH with mode
"hid" and the busid of a listed device, and a HID Bind.  The device is the first with that busid. -/
structure Asked (json : OrgJson) (devices : List UsbDevice) (device : UsbDevice)
    (hello list attach bind : Envelope) : Prop where
  hello : ∃ obj, IsControl json "HELLO" hello obj
  list : ∃ obj, IsControl json "LIST_DEVICES" list obj
  attach : ∃ obj, IsControl json "ATTACH" attach obj ∧ obj "mode" = "hid" ∧
    (devices.find? fun d => decide (busidFor d = obj "busid")) = some device
  bind : IsBind bind

/-- A device may be opened: none has been, and the receiver has said what it has to and nothing
else. -/
def MayOpen (json : OrgJson) (l : Ledger) (device : UsbDevice) : Prop :=
  l.opens = [] ∧ ∃ hello list attach bind devices,
    l.reads = [returned hello, returned list, returned attach, returned bind] ∧
    l.listed = [returned devices] ∧ Asked json devices device hello list attach bind

/-- The frame is the BIND_ACK of that endpoint. -/
def IsAck (json : OrgJson) (device : UsbDevice) (ep : HidEndpoint) (ack : HidFrame) : Prop :=
  ack.op = .bindAck ∧ ack.seq = 0 ∧ ∃ kind : HidDescriptor.Kind,
    (ep.kind : Except (Throwable WireProtocol.WireError) _) = .ok kind ∧
    (bindAckBody json (busidFor device) (kindName kind) device.vendorId device.productId
      (device.productName.getD device.deviceName) ep.reportDescriptor.val :
      Except (Throwable WireProtocol.WireError) _) = .ok ack.body

/-- The REPORT_IN frames of a binding: the sequence number counts them, modulo 2^16. -/
def reportFrames (bindId : UInt8) (reports : List (List UInt8)) : List HidFrame :=
  reports.mapIdx fun i report => ⟨.reportIn, bindId, UInt16.ofNat (i + 1), report⟩

/-- A frame that has been written. -/
def written (f : HidFrame) : List UInt8 × Option (Outcome Unit) := (f.encode, returned ())

/-- **A frame in its turn**: while an endpoint is open, its BIND_ACK first, then its REPORT_IN
frames as long as everything has been written. -/
def InTurn (json : OrgJson) (l : Ledger) (f : HidFrame) : Prop :=
  ∃ device ep, l.opens = [(device, returned (some ep))] ∧ l.closes = [] ∧
    match f.op with
    | .bindAck => l.frames = [] ∧ IsAck json device ep f
    | .reportIn => ∃ ack reports, IsAck json device ep ack ∧
        l.frames = (ack :: reportFrames ack.bindId reports).map written ∧
        f.bindId = ack.bindId ∧ f.seq = UInt16.ofNat (reports.length + 1)
    | .unbind => l.frames ≠ []
    | _ => False

/-- An endpoint may be closed: it is the one that was opened, and it has not been. -/
def MayClose (l : Ledger) (ep : HidEndpoint) : Prop := l.opened = [ep] ∧ l.closes = []

/-- What may happen next. -/
def Permits (json : OrgJson) (l : Ledger) : Event sessionSig → Prop
  | .called (.openEndpoint device) _ => MayOpen json l device
  | .called (.closeEndpoint ep) _ => MayClose l ep
  | .called (.writeEnvelope .hid payload) _ => ∃ f : HidFrame, payload = f.encode ∧ InTurn json l f
  | .called _ _ => True
  | _ => False

/-- **The discipline of a session.** -/
def discipline (json : OrgJson) : Monitor sessionSig Ledger := ⟨Ledger.add, Permits json⟩

/-! ### The session keeps to it -/

section Keeps

variable {json : OrgJson} {l : Ledger} {α : Type}

/-- What is promised when the session fails: its endpoint has been closed. -/
def Failed : Stop Thrown → Ledger → Prop
  | .failed _, l => l.Settled
  | .ranOut, _ => True

/-- The ledger before a device is opened. -/
def early (reads : List (Option (Outcome Envelope)))
    (listed : List (Option (Outcome (List UsbDevice)))) : Ledger :=
  { reads := reads, listed := listed }

theorem settled_early (reads : List (Option (Outcome Envelope)))
    (listed : List (Option (Outcome (List UsbDevice)))) : (early reads listed).Settled := rfl

theorem holds_perform {M : Monitor sessionSig Ledger} {p : Prog sessionSig (Outcome α)}
    {Q : α → Ledger → Prop} {E : Stop Thrown → Ledger → Prop} :
    Holds M (perform p) Q E l ↔ p.Keeps M (outcome Q fun e => E (.failed e)) l := by
  rw [Holds, perform, ExceptT.run_mk, Prog.keeps_bind]
  constructor
  · intro h
    refine h.mono ?_
    rintro (e | a) s hs
    · exact hs
    · exact hs
  · intro h
    refine h.mono ?_
    rintro (e | a) s hs
    · exact hs
    · exact hs

/-! ### The calls of the session -/

section Calls

variable {E : Stop Thrown → Ledger → Prop}

theorem holds_readEnvelope {Q : Envelope → Ledger → Prop}
    (hok : ∀ e, Q e { l with reads := l.reads ++ [returned e] })
    (hfail : ∀ t, E (.failed t) { l with reads := l.reads ++ [some (.error t)] }) :
    Holds (discipline json) (perform (request .readEnvelope)) Q E l := by
  refine holds_perform.2 ⟨trivial, fun a => ⟨trivial, ?_⟩⟩
  rcases a with t | e
  · exact hfail t
  · exact hok e

theorem holds_deviceList {Q : List UsbDevice → Ledger → Prop}
    (hok : ∀ devices, Q devices { l with listed := l.listed ++ [returned devices] })
    (hfail : ∀ t, E (.failed t) { l with listed := l.listed ++ [some (.error t)] }) :
    Holds (discipline json) (perform (request .deviceList)) Q E l := by
  refine holds_perform.2 ⟨trivial, fun a => ⟨trivial, ?_⟩⟩
  rcases a with t | devices
  · exact hfail t
  · exact hok devices

theorem holds_openEndpoint {device : UsbDevice} {Q : Option HidEndpoint → Ledger → Prop}
    (hmay : MayOpen json l device)
    (hok : ∀ ep, Q ep { l with opens := l.opens ++ [(device, returned ep)] })
    (hfail : ∀ t, E (.failed t) { l with opens := l.opens ++ [(device, some (.error t))] }) :
    Holds (discipline json) (perform (request (.openEndpoint device))) Q E l := by
  refine holds_perform.2 ⟨hmay, fun a => ⟨hmay, ?_⟩⟩
  rcases a with t | ep
  · exact hfail t
  · exact hok ep

theorem holds_closeEndpoint {ep : HidEndpoint} {Q : Unit → Ledger → Prop} (hmay : MayClose l ep)
    (hok : Q () { l with closes := l.closes ++ [ep] }) :
    Holds (discipline json) (ExceptT.lift (request (.closeEndpoint ep))) Q E l :=
  ⟨hmay, fun _ => ⟨hmay, hok⟩⟩

/-- A call that does not matter. -/
theorem holds_silent {p : Prog sessionSig (Outcome Unit)}
    (hp : p.Keeps (discipline json) (fun _ l' => l' = l) l)
    {Q : Unit → Ledger → Prop} (hok : Q () l)
    (hfail : ∀ t, E (.failed t) l) : Holds (discipline json) (perform p) Q E l := by
  refine holds_perform.2 (hp.mono ?_)
  rintro (t | _) _ rfl
  · exact hfail t
  · exact hok

/-- A message on the control channel is no frame. -/
theorem holds_sendJson {msg : JsonValue} {Q : Unit → Ledger → Prop} (hok : Q () l)
    (hfail : ∀ t, E (.failed t) l) : Holds (discipline json) (sendJson json msg) Q E l :=
  holds_silent (by exact ⟨trivial, fun _ => ⟨trivial, rfl⟩⟩) hok hfail

/-- A frame is written in its turn. -/
theorem holds_writeFrame {f : HidFrame} {Q : Unit → Ledger → Prop} (hturn : InTurn json l f)
    (hok : Q () { l with frames := l.frames ++ [written f] })
    (hfail : ∀ t, E (.failed t) { l with frames := l.frames ++ [(f.encode, some (.error t))] }) :
    Holds (discipline json) (perform (request (.writeEnvelope .hid f.encode))) Q E l := by
  refine holds_perform.2 ⟨⟨f, rfl, hturn⟩, fun a => ⟨⟨f, rfl, hturn⟩, ?_⟩⟩
  rcases a with t | a
  · exact hfail t
  · exact hok

end Calls

/-! ### The session keeps to it -/

theorem holds_expectControl (op : String) (reads : List (Option (Outcome Envelope)))
    (listed : List (Option (Outcome (List UsbDevice)))) :
    Holds (discipline json) (expectControl json op)
      (fun obj l => ∃ e, IsControl json op e obj ∧ l = early (reads ++ [returned e]) listed)
      Failed (early reads listed) := by
  rw [expectControl, holds_bind]
  refine holds_readEnvelope (fun e => ?_) fun t => settled_early _ _
  by_cases hchan : e.channel ≠ .control
  · rw [if_pos hchan]
    exact settled_early _ _
  rw [if_neg hchan]
  rcases hparse : json.parse e.payload with _ | obj
  · exact settled_early _ _
  simp only
  by_cases hop : obj "op" ≠ op
  · rw [if_pos hop]
    exact settled_early _ _
  · rw [if_neg hop]
    exact ⟨e, ⟨Decidable.not_not.1 hchan, hparse, Decidable.not_not.1 hop⟩, rfl⟩

/-! #### The binding -/

/-- The identifier of a parsed frame is a byte. -/
theorem bindId_of_parse {payload : List UInt8} {frame : WireProtocol.HidFrameView}
    (h : WireProtocol.parseHidFrame payload = .ok frame) :
    ∃ b : UInt8, frame.bindId = Int32.ofNat b.toNat := by
  rw [WireProtocol.parseHidFrame] at h
  split_ifs at h
  obtain ⟨b₀, h₀, h⟩ := bind_eq_ok h
  rcases hop : WireProtocol.hidOpFromByte b₀ with _ | op
  · rw [hop] at h
    cases h
  · rw [hop] at h
    obtain ⟨b₁, h₁, h⟩ := bind_eq_ok h
    obtain ⟨b₂, h₂, h⟩ := bind_eq_ok h
    obtain ⟨b₃, h₃, h⟩ := bind_eq_ok h
    obtain ⟨body, hbody, h⟩ := bind_eq_ok h
    cases h
    exact ⟨b₁, unsigned_eq b₁⟩

/-- The identifier of the binding is that byte, or 1 if it is 0. -/
theorem exists_bindId (b : UInt8) :
    ∃ b' : UInt8, (if Int32.ofNat b.toNat = 0 then 1 else Int32.ofNat b.toNat) =
      Int32.ofNat b'.toNat := by
  by_cases hzero : Int32.ofNat b.toNat = 0
  · exact ⟨1, by rw [if_pos hzero]; rfl⟩
  · exact ⟨b, by rw [if_neg hzero]⟩

/-- The next sequence number. -/
theorem next_seq (n : ℕ) :
    (Int32.ofNat (UInt16.ofNat n).toNat + 1) &&& 0xFFFF =
      Int32.ofNat (UInt16.ofNat (n + 1)).toNat := by
  have hmask : (0xFFFF : Int32).toBitVec.toNat = 2 ^ 16 - 1 := rfl
  have hone : (1 : Int32).toBitVec.toNat = 1 := rfl
  apply Int32.toBitVec_inj.1
  apply BitVec.eq_of_toNat_eq
  rw [Int32.toBitVec_and, BitVec.toNat_and, hmask, Nat.and_two_pow_sub_one_eq_mod,
    Int32.toBitVec_add, BitVec.toNat_add, hone, Int32.toNat_toBitVec, Int32.toNat_toBitVec,
    Int32.toUInt32_ofNat', Int32.toUInt32_ofNat', UInt32.toNat_ofNat', UInt32.toNat_ofNat',
    UInt16.toNat_ofNat', UInt16.toNat_ofNat']
  omega

/-- The ledger while an endpoint is open. -/
def bound (reads : List (Option (Outcome Envelope)))
    (listed : List (Option (Outcome (List UsbDevice))))
    (device : UsbDevice) (ep : HidEndpoint) (frames : List (List UInt8 × Option (Outcome Unit))) :
    Ledger :=
  { reads := reads, listed := listed, opens := [(device, returned (some ep))], frames := frames }

/-- What is promised when the stream of reports is interrupted: the endpoint is still open. -/
def Interrupted (reads : List (Option (Outcome Envelope)))
    (listed : List (Option (Outcome (List UsbDevice)))) (device : UsbDevice) (ep : HidEndpoint) :
    Stop Thrown → Ledger → Prop
  | .failed _, l => ∃ frames, l = bound reads listed device ep frames
  | .ranOut, _ => True

theorem reportFrames_concat (bindId : UInt8) (reports : List (List UInt8)) (report : List UInt8) :
    reportFrames bindId (reports ++ [report]) =
      reportFrames bindId reports ++
        [⟨.reportIn, bindId, UInt16.ofNat (reports.length + 1), report⟩] :=
  List.mapIdx_concat

section Binding

variable {E : Stop Thrown → Ledger → Prop}

/-- A frame is put into an array, if there is one of its size. -/
theorem holds_encodeHidFrame {f : HidFrame} (hlen : f.body.length < 2 ^ 31)
    {Q : List UInt8 → Ledger → Prop} (hok : Q f.encode l) (hfail : ∀ t, E (.failed t) l) :
    Holds (discipline json) (onArrays .wire (WireProtocol.encodeHidFrame f.op
      (Int32.ofNat f.bindId.toNat) (Int32.ofNat f.seq.toNat) f.body)) Q E l := by
  rw [WireProtocol.encodeHidFrame_eq f hlen]
  split
  · exact hok
  · exact hfail _

theorem holds_orBreak {β : Type} {p : SessionAct α} {k : α → SessionAct (β ⊕ Unit)}
    {Q : β ⊕ Unit → Ledger → Prop}
    (h : Holds (discipline json) p (fun a => Holds (discipline json) (k a) Q E)
      (fun e l => Q (.inr ()) l ∧ E e l) l) : Holds (discipline json) (orBreak p k) Q E l := by
  rw [orBreak, holds_bind, holds_attempt]
  refine h.mono (fun a l' hl' => hl') ?_
  rintro (t | _) l' ⟨hbreak, hfail⟩
  · simp only
    split
    · exact hbreak
    · exact hfail
  · exact hfail

variable (reads : List (Option (Outcome Envelope)))
  (listed : List (Option (Outcome (List UsbDevice)))) {device : UsbDevice} {ep : HidEndpoint}

/-- **What a round of reports keeps**: the BIND_ACK and the reports so far have been written, and
the sequence number is that of the last report. -/
def Streaming (device : UsbDevice) (ep : HidEndpoint) (ack : HidFrame) (seq : Int32) (l : Ledger) :
    Prop :=
  ∃ reports : List (List UInt8), seq = Int32.ofNat (UInt16.ofNat reports.length).toNat ∧
    l = bound reads listed device ep ((ack :: reportFrames ack.bindId reports).map written)

/-- What is the case when the loop has been left. -/
def Streamed (device : UsbDevice) (ep : HidEndpoint) (l : Ledger) : Prop :=
  ∃ frames, frames ≠ [] ∧ l = bound reads listed device ep frames

variable {reads listed}

theorem Streaming.streamed {ack : HidFrame} {seq : Int32}
    (h : Streaming reads listed device ep ack seq l) : Streamed reads listed device ep l := by
  obtain ⟨reports, -, rfl⟩ := h
  exact ⟨_, List.cons_ne_nil _ _, rfl⟩

theorem Streamed.interrupted (h : Streamed reads listed device ep l) (t : Thrown) :
    Interrupted reads listed device ep (.failed t) l := by
  obtain ⟨frames, -, rfl⟩ := h
  exact ⟨frames, rfl⟩

theorem holds_reportRound {ack : HidFrame} (hack : IsAck json device ep ack) {seq : Int32}
    (h : Streaming reads listed device ep ack seq l) :
    Holds (discipline json) (reportRound ep (Int32.ofNat ack.bindId.toNat) seq)
      (fun r l' => Sum.elim (Streaming reads listed device ep ack · l')
        (fun _ => Streamed reads listed device ep l') r)
      (Interrupted reads listed device ep) l := by
  have hstreamed := h.streamed
  rw [reportRound, holds_bind]
  refine ⟨trivial, fun running => ⟨trivial, ?_⟩⟩
  cases running with
  | false => exact hstreamed
  | true =>
    refine holds_orBreak (holds_perform.2 ⟨trivial, fun a => ⟨trivial, ?_⟩⟩)
    rcases a with t | _ | report
    · exact ⟨hstreamed, hstreamed.interrupted t⟩
    · exact h
    -- a report has been read: its number is the next one
    obtain ⟨reports, rfl, rfl⟩ := h
    let f : HidFrame := ⟨.reportIn, ack.bindId, UInt16.ofNat (reports.length + 1), report.val⟩
    have hturn : InTurn json (bound reads listed device ep
        ((ack :: reportFrames ack.bindId reports).map written)) f :=
      ⟨device, ep, rfl, rfl, ack, reports, hack, rfl, rfl, rfl⟩
    change Holds _ (onArrays _ _ >>= _) _ _ _
    rw [next_seq, holds_bind]
    refine holds_encodeHidFrame (f := f) report.property ?_ fun t => hstreamed.interrupted t
    refine holds_orBreak (holds_writeFrame hturn ?_ fun t => ?_)
    · refine ⟨reports ++ [report.val], by rw [List.length_append]; rfl, ?_⟩
      rw [reportFrames_concat, ← List.cons_append, List.map_append]
      rfl
    · have hleft : Streamed reads listed device ep (bound reads listed device ep
          ((ack :: reportFrames ack.bindId reports).map written ++ [(f.encode, some (.error t))])) :=
        ⟨_, List.append_ne_nil_of_right_ne_nil _ (List.cons_ne_nil _ _), rfl⟩
      exact ⟨hleft, hleft.interrupted t⟩

/-- The UNBIND is written in its turn, and what is thrown on the way is ignored. -/
theorem holds_unbind (b : UInt8) (h : Streamed reads listed device ep l) :
    Holds (discipline json)
      (ignoring (writeFrame .unbind (Int32.ofNat b.toNat) 0 unbindBody))
      (fun _ => Streamed reads listed device ep) (Interrupted reads listed device ep) l := by
  obtain ⟨frames, hne, rfl⟩ := h
  let f : HidFrame := ⟨.unbind, b, 0, unbindBody⟩
  have hturn : InTurn json (bound reads listed device ep frames) f := ⟨device, ep, rfl, rfl, hne⟩
  have hlen : unbindBody.length < 2 ^ 31 := by decide
  refine holds_ignoring ?_
  rw [writeFrame, holds_bind]
  refine holds_encodeHidFrame (f := f) hlen ?_ fun t => ⟨frames, hne, rfl⟩
  refine holds_writeFrame hturn ?_ fun t => ?_
  · exact ⟨_, List.append_ne_nil_of_left_ne_nil hne _, rfl⟩
  · exact ⟨_, List.append_ne_nil_of_left_ne_nil hne _, rfl⟩

theorem holds_stream (fuel : ℕ) (b : UInt8) :
    Holds (discipline json) (stream json fuel device (Int32.ofNat b.toNat) ep)
      (fun _ => Streamed reads listed device ep) (Interrupted reads listed device ep)
      (bound reads listed device ep []) := by
  obtain ⟨b', hb'⟩ := exists_bindId b
  rw [stream, holds_bind]
  rcases hkind : (ep.kind : Except (Throwable WireProtocol.WireError) _) with e | kind
  · exact ⟨[], rfl⟩
  change Holds _ (onArrays _ _ >>= _) _ _ _
  rw [hb', holds_bind]
  rcases hbody : (bindAckBody json (busidFor device) (kindName kind) device.vendorId
    device.productId (device.productName.getD device.deviceName) ep.reportDescriptor.val :
    Except (Throwable WireProtocol.WireError) _) with e | body
  · exact ⟨[], rfl⟩
  let ack : HidFrame := ⟨.bindAck, b', 0, body⟩
  have hack : IsAck json device ep ack := ⟨rfl, rfl, kind, hkind, hbody⟩
  have hturn : InTurn json (bound reads listed device ep []) ack :=
    ⟨device, ep, rfl, rfl, rfl, hack⟩
  change Holds _ (writeFrame _ _ _ _ >>= _) _ _ _
  rw [writeFrame, bind_assoc, holds_bind]
  refine holds_encodeHidFrame (f := ack) (length_bindAckBody hbody) ?_ fun t => ⟨[], rfl⟩
  rw [holds_bind]
  refine holds_writeFrame hturn ?_ fun t => ⟨_, rfl⟩
  rw [holds_bind]
  -- no report has been written yet, and the sequence number is 0
  refine (holds_unroll (Streaming reads listed device ep ack)
    (fun seq l h => holds_reportRound hack h) (fun _ _ _ => trivial) fuel 0 ⟨[], rfl, rfl⟩).mono
    ?_ fun _ _ h => h
  rintro ⟨⟩ l' hl'
  exact holds_unbind b' hl'

end Binding

/-! #### The whole session -/

/-- The endpoint is closed, however the stream of reports ended. -/
theorem holds_closeEndpoint_bound (reads : List (Option (Outcome Envelope)))
    (listed : List (Option (Outcome (List UsbDevice)))) (device : UsbDevice) (ep : HidEndpoint)
    (frames : List (List UInt8 × Option (Outcome Unit))) :
    Holds (discipline json) (ExceptT.lift (request (.closeEndpoint ep)))
      (fun _ => Ledger.Settled) Failed (bound reads listed device ep frames) :=
  holds_closeEndpoint ⟨rfl, rfl⟩ rfl

theorem holds_runHidBinding {hello list attach : Envelope} {devices : List UsbDevice}
    {device : UsbDevice}
    (hasked : ∀ bind, IsBind bind → Asked json devices device hello list attach bind) (fuel : ℕ) :
    Holds (discipline json) (runHidBinding json fuel device) (fun _ => Ledger.Settled) Failed
      (early [returned hello, returned list, returned attach] [returned devices]) := by
  rw [runHidBinding, holds_bind]
  refine holds_readEnvelope (fun e => ?_) fun t => settled_early _ _
  change Holds _ _ _ _ (early [returned hello, returned list, returned attach, returned e]
    [returned devices])
  by_cases hchan : e.channel ≠ .hid
  · rw [if_pos hchan]
    exact settled_early _ _
  rw [if_neg hchan, holds_bind]
  rcases hframe : WireProtocol.parseHidFrame e.payload with err | frame
  · exact settled_early _ _
  change Holds _ (if _ then _ else _) _ _ _
  obtain ⟨b, hb⟩ := bindId_of_parse hframe
  by_cases hop : frame.op ≠ .bind
  · rw [if_pos hop]
    exact settled_early _ _
  have hbind : IsBind e := ⟨Decidable.not_not.1 hchan, frame, hframe, Decidable.not_not.1 hop⟩
  -- here, and nowhere else, the endpoint may be opened
  have hmay : MayOpen json (early [returned hello, returned list, returned attach, returned e]
      [returned devices]) device :=
    ⟨rfl, hello, list, attach, e, devices, rfl, rfl, hasked e hbind⟩
  rw [if_neg hop, holds_bind]
  refine holds_openEndpoint hmay (fun ep => ?_) fun t => rfl
  rcases ep with _ | ep
  · rfl
  change Holds _ (tryFinally _ _) _ _ (bound _ _ _ _ _)
  rw [hb]
  -- however the stream ends, the endpoint is closed behind it
  refine holds_tryFinally ((holds_stream fuel b).mono ?_ ?_)
  · rintro ⟨⟩ l ⟨frames, -, rfl⟩
    exact holds_closeEndpoint_bound _ _ device ep frames
  · rintro (t | _) l hl
    · obtain ⟨frames, rfl⟩ := hl
      exact holds_closeEndpoint_bound _ _ device ep frames
    · trivial

theorem holds_attachTo {hello list attach : Envelope} {devices : List UsbDevice}
    {obj : String → String} (hhello : ∃ obj, IsControl json "HELLO" hello obj)
    (hlist : ∃ obj, IsControl json "LIST_DEVICES" list obj)
    (hattach : IsControl json "ATTACH" attach obj) (fuel : ℕ) :
    Holds (discipline json) (attachTo json fuel devices obj) (fun _ => Ledger.Settled) Failed
      (early [returned hello, returned list, returned attach] [returned devices]) := by
  rw [attachTo]
  rcases hfind : devices.find? (fun d => decide (busidFor d = obj "busid")) with _ | device
  · exact holds_sendJson (settled_early _ _) fun t => settled_early _ _
  simp only
  by_cases hmode : obj "mode" ≠ "hid"
  · rw [if_pos hmode]
    exact holds_sendJson (settled_early _ _) fun t => settled_early _ _
  rw [if_neg hmode, holds_bind]
  refine holds_sendJson (holds_runHidBinding (fun bind hbind => ?_) fuel) fun t => settled_early _ _
  exact ⟨hhello, hlist, ⟨obj, hattach, Decidable.not_not.1 hmode, hfind⟩, hbind⟩

theorem holds_converse (senderId deviceName : String) (fuel : ℕ) :
    Holds (discipline json) (converse json senderId deviceName fuel)
    (fun _ => Ledger.Settled) Failed
      (early [] []) := by
  rw [converse, holds_bind]
  refine holds_silent (by exact ⟨trivial, fun _ => ⟨trivial, rfl⟩⟩) ?_ fun t => settled_early _ _
  rw [holds_bind]
  refine holds_silent (by exact ⟨trivial, fun _ => ⟨trivial, rfl⟩⟩) ?_ fun t => settled_early _ _
  rw [holds_bind]
  refine (holds_expectControl "HELLO" [] []).mono ?_ fun _ _ h => h
  rintro obj _ ⟨hello, hhello, rfl⟩
  rw [holds_bind]
  refine holds_sendJson ?_ fun t => settled_early _ _
  rw [holds_bind]
  refine (holds_expectControl "LIST_DEVICES" _ []).mono ?_ fun _ _ h => h
  rintro obj' _ ⟨list, hlist, rfl⟩
  rw [holds_bind]
  refine holds_deviceList (fun devices => ?_) fun t => settled_early _ _
  rw [holds_bind]
  refine holds_sendJson ?_ fun t => settled_early _ _
  rw [holds_bind]
  refine (holds_expectControl "ATTACH" _ [returned devices]).mono ?_ fun _ _ h => h
  rintro attach _ ⟨e, hattach, rfl⟩
  exact holds_attachTo ⟨obj, hhello⟩ ⟨obj', hlist⟩ hattach fuel

/-- **The session keeps to its discipline**, and when it has ended, its endpoint has been closed. -/
theorem holds_run (senderId deviceName : String) (fuel : ℕ) :
    Holds (discipline json) (run json senderId deviceName fuel) (fun _ => Ledger.Settled) Failed
      {} := by
  have hclose (l : Ledger) (h : l.Settled) {Q : Unit → Ledger → Prop}
      {E : Stop Thrown → Ledger → Prop} (hQ : Q () l) :
      Holds (discipline json) (ignoring (perform (request .closeSocket))) Q E l :=
    holds_ignoring (holds_silent (by exact ⟨trivial, fun _ => ⟨trivial, rfl⟩⟩) hQ fun _ => hQ)
  rw [run, holds_bind]
  refine holds_silent (by exact ⟨trivial, fun _ => ⟨trivial, rfl⟩⟩) ?_ fun t => settled_early _ _
  rw [holds_bind]
  refine holds_silent (by exact ⟨trivial, fun _ => ⟨trivial, rfl⟩⟩) ?_ fun t => settled_early _ _
  refine holds_tryFinally (holds_ignoring ((holds_converse senderId deviceName fuel).mono ?_ ?_))
  · intro _ l hl
    exact hclose l hl hl
  · rintro (t | _) l hl
    · exact hclose l hl hl
    · trivial

end Keeps

/-! ### The bytes of the stream -/

section Delivered

theorem holds_readFully (buf acc : List UInt8) :
    Holds intake (WireProtocol.readFully buf : Act phoneSig _ _)
      (fun bytes acc' => bytes.length = buf.length ∧ acc' = acc ++ bytes)
      (fun _ _ => True) acc := by
  rw [WireProtocol.readFully, holds_bind]
  exact ⟨⟨trivial, trivial⟩, fun bytes hlen => ⟨trivial, hlen, rfl⟩⟩

/-- **An envelope that has been read is what the stream has delivered.** -/
theorem holds_readEnvelope_intake :
    Holds intake (WireProtocol.readEnvelope : Act phoneSig _ _) (fun e acc => acc = e.bytes)
      (fun _ _ => True) [] := by
  have hbuf : (newByteArray 8 : Except (Throwable WireProtocol.WireError) _) =
      .ok (List.replicate 8 0) := rfl
  rw [WireProtocol.readEnvelope, hbuf, holds_ok_bind, holds_bind]
  refine (holds_readFully _ _).mono ?_ fun _ _ h => h
  rintro hdr acc ⟨hlen, hacc⟩
  rw [List.length_replicate] at hlen
  have hshort : ¬ hdr.length < headerLen := by
    rw [hlen]
    decide
  obtain ⟨b₀, b₁, b₂, b₃, b₄, b₅, b₆, b₇, rest, rfl⟩ := Envelope.exists_header hshort
  obtain rfl : rest = [] := List.length_eq_zero_iff.1 (by simpa using hlen)
  subst hacc
  rcases hcheck : WireProtocol.checkHeader [b₀, b₁, b₂, b₃, b₄, b₅, b₆, b₇] with err | ⟨channel, len⟩
  · rw [holds_error_bind]
    trivial
  rw [holds_ok_bind]
  obtain ⟨rfl, hcap, -⟩ := WireProtocol.parse_of_checkHeader_ok hcheck []
  have hlt : (beU32 b₄ b₅ b₆ b₇).toNat < 2 ^ 31 :=
    Nat.lt_of_le_of_lt (Nat.le_of_not_lt hcap) (by decide)
  have hval := toInt_toInt32 hlt
  -- header and payload together are the envelope, as the parser takes it apart again
  have hbytes (payload : List UInt8) (hpay : payload.length = (beU32 b₄ b₅ b₆ b₇).toNat) :
      [b₀, b₁, b₂, b₃, b₄, b₅, b₆, b₇] ++ payload = (⟨channel, payload⟩ : Envelope).bytes := by
    obtain ⟨-, -, hparse⟩ := WireProtocol.parse_of_checkHeader_ok hcheck payload
    rw [if_neg (by omega), List.take_of_length_le (by omega)] at hparse
    obtain ⟨-, hn, rest, hsplit⟩ := Envelope.eq_bytes_of_parse hparse
    have hrest : rest = [] := by
      have hlens := congrArg List.length hsplit
      rw [List.length_append, ← hn] at hlens
      simp only [List.length_cons, headerLen] at hlens
      exact List.length_eq_zero_iff.1 (by omega)
    rw [hrest, List.append_nil] at hsplit
    exact hsplit
  generalize hn : (beU32 b₄ b₅ b₆ b₇).toNat = n at hval hbytes
  simp only
  rw [newByteArray_of_nonneg (by omega), hval, Int.toNat_natCast, holds_ok_bind]
  by_cases hpos : (beU32 b₄ b₅ b₆ b₇).toInt32 > 0
  · rw [if_pos hpos, holds_bind]
    refine (holds_readFully _ _).mono ?_ fun _ _ h => h
    rintro payload _ ⟨hpay, rfl⟩
    rw [List.length_replicate] at hpay
    exact hbytes payload hpay
  · have hzero : n = 0 := by
      rw [gt_iff_lt, Int32.lt_iff_toInt_lt, Int32.toInt_zero] at hpos
      omega
    subst hzero
    rw [if_neg hpos]
    exact hbytes [] rfl

theorem unfed_writeEnvelope (channel : Channel) (payload : List UInt8) :
    Unfed (WireProtocol.writeEnvelope channel payload : Act phoneSig _ Unit) := by
  have hwrite (bytes : List UInt8) : Unfed (WireProtocol.write bytes : Act phoneSig _ Unit) :=
    (Unfed.writeAll bytes).bind fun _ => .ite (.pure _) trivial
  exact (Unfed.ofResult _).bind fun hdr => (hwrite hdr).bind fun _ => hwrite payload

theorem unfed_openOn (device : UsbDevice) : Unfed (HidEndpoint.openOn device) := by
  rw [HidEndpoint.openOn]
  split
  · exact .pure _
  split
  · exact .pure _
  refine Unfed.bind ⟨rfl, fun a => ⟨rfl, ?_⟩⟩ ?_
  · cases a <;> trivial
  rintro (_ | conn)
  · exact .pure _
  refine Unfed.bind ⟨rfl, fun a => ⟨rfl, ?_⟩⟩ fun claimed => .ite ?_ ?_
  · cases a <;> trivial
  · refine Unfed.bind ?_ fun rd => .pure _
    refine (Unfed.ofResult _).bind fun buf =>
      Unfed.bind ⟨rfl, fun a => ⟨rfl, ?_⟩⟩ fun r => .ite ?_ ?_
    · cases a <;> trivial
    · exact .pure _
    · exact .ofResult _
  · refine Unfed.bind ⟨rfl, fun a => ⟨rfl, ?_⟩⟩ fun _ => .pure _
    cases a <;> trivial

theorem unfed_readReport (ep : HidEndpoint) (timeoutMs : Int32) :
    Unfed (ep.readReport timeoutMs) := by
  refine (Unfed.ofResult _).bind fun buf => Unfed.bind ⟨rfl, fun a => ⟨rfl, ?_⟩⟩ fun r => .ite ?_ ?_
  · cases a <;> trivial
  · exact (Unfed.ofResult _).bind fun _ => .pure _
  · exact .pure _

/-- Nothing but the reader of envelopes reads from the stream. -/
theorem unfed_phone (o : SessionOp) (ho : o ≠ .readEnvelope) :
    (phone o).Keeps unfed (fun _ _ => True) () := by
  cases o with
  | readEnvelope => exact absurd rfl ho
  | writeEnvelope channel payload =>
      exact Prog.Keeps.mono (unfed_writeEnvelope channel payload).mapErr fun _ _ _ => trivial
  | openEndpoint device => exact Prog.Keeps.mono (unfed_openOn device) fun _ _ _ => trivial
  | readReport ep timeoutMs =>
      exact Prog.Keeps.mono (unfed_readReport ep timeoutMs) fun _ _ _ => trivial
  | closeEndpoint ep => exact ⟨rfl, fun _ => ⟨rfl, rfl, fun _ => ⟨rfl, trivial⟩⟩⟩
  | setTcpNoDelay on => exact ⟨rfl, fun _ => ⟨rfl, trivial⟩⟩
  | setSoTimeout ms => exact ⟨rfl, fun _ => ⟨rfl, trivial⟩⟩
  | getInputStream => exact ⟨rfl, fun _ => ⟨rfl, trivial⟩⟩
  | getOutputStream => exact ⟨rfl, fun _ => ⟨rfl, trivial⟩⟩
  | closeSocket => exact ⟨rfl, fun _ => ⟨rfl, trivial⟩⟩
  | deviceList => exact ⟨rfl, fun _ => ⟨rfl, trivial⟩⟩
  | running => exact ⟨rfl, fun _ => ⟨rfl, trivial⟩⟩

/-- The answer of an event that reads an envelope. -/
def readAnswer : Event sessionSig → Option (Option (Outcome Envelope))
  | .called .readEnvelope a => some a
  | _ => none

theorem reads_after (json : OrgJson) (l : Ledger) (es : List (Event sessionSig)) :
    ((discipline json).after l es).reads = l.reads ++ es.filterMap readAnswer := by
  induction es generalizing l with
  | nil => exact (List.append_nil _).symm
  | cons e es ih =>
      have hadd : (l.add e).reads = l.reads ++ (readAnswer e).toList := by
        rcases e with bs | _ | ⟨bs, ok⟩ | ⟨o, a⟩
        · exact (List.append_nil _).symm
        · exact (List.append_nil _).symm
        · exact (List.append_nil _).symm
        · rcases o with _ | _ | _ | _ | _ | _ | ⟨_ | _ | _ | _, _⟩ | _ | _ | _ | _ | _
          all_goals first | rfl | exact (List.append_nil _).symm
      rw [Monitor.after_cons]
      refine (ih (l.add e)).trans ?_
      rw [hadd, List.append_assoc]
      congr 1
      cases h : readAnswer e with
      | none => rw [List.filterMap_cons_none h]; rfl
      | some a => rw [List.filterMap_cons_some h]; rfl

/-- **The stream has delivered the envelopes that were read.** -/
theorem delivered_of_expands {es : List (Event sessionSig)} {fs : List (Event phoneSig)}
    (h : Expands phone es fs) (hcalls : ∀ e ∈ es, e.bytes = []) {envs : List Envelope}
    (hreads : es.filterMap readAnswer = envs.map returned) :
    delivered fs = envs.flatMap Envelope.bytes := by
  -- call by call; only `readEnvelope` takes bytes off the stream
  induction h generalizing envs with
  | nil =>
      obtain rfl : envs = [] := List.map_eq_nil_iff.1 hreads.symm
      rfl
  | received bs hes ih =>
      obtain rfl : bs = [] := hcalls _ (List.mem_cons_self ..)
      exact ih (fun e he => hcalls e (List.mem_cons_of_mem _ he)) hreads
  | starved hes ih => exact ih (fun e he => hcalls e (List.mem_cons_of_mem _ he)) hreads
  | sent bs ok hes ih => exact ih (fun e he => hcalls e (List.mem_cons_of_mem _ he)) hreads
  | @called o a gs es fs hcall hes ih =>
      have hrest := fun e he => hcalls e (List.mem_cons_of_mem _ he)
      rw [delivered_append]
      -- a call that did not return has not read an envelope
      by_cases ho : o = .readEnvelope
      · subst ho
        obtain ⟨e, envs', rfl, he, hmap⟩ := List.map_eq_cons_iff.1 hreads.symm
        obtain rfl : a = .ok e := (Option.some.inj he).symm
        have hbytes : delivered gs = e.bytes := by
          have hkeeps : Holds intake (mapErr wireThrown WireProtocol.readEnvelope : Act phoneSig _ _)
              (fun e acc => acc = e.bytes) (fun _ _ => True) [] :=
            holds_mapErr.2 holds_readEnvelope_intake
          exact Prog.Keeps.delivered hkeeps hcall
        rw [hbytes, ih hrest hmap.symm, List.flatMap_cons]
      · have hnone : readAnswer (.called o (some a)) = none := by
          cases o <;> first | rfl | exact absurd rfl ho
        rw [List.filterMap_cons_none hnone] at hreads
        rw [(unfed_phone o ho).delivered_nil hcall, ih hrest hreads, List.nil_append]
  | @hung o gs hcall =>
      by_cases ho : o = .readEnvelope
      · subst ho
        obtain ⟨e, envs', -, he, -⟩ := List.map_eq_cons_iff.1 hreads.symm
        cases he
      · have hnone : readAnswer (.called o none) = none := by
          cases o <;> first | rfl | exact absurd rfl ho
        rw [List.filterMap_cons_none hnone] at hreads
        obtain rfl : envs = [] := List.map_eq_nil_iff.1 hreads.symm
        exact (unfed_phone o ho).delivered_nil hcall

end Delivered

/-! ### Every run -/

/-- The ledger of a trace. -/
def ledger (calls : List (Event sessionSig)) : Ledger := calls.foldl Ledger.add {}

/-- **A disciplined run.**  `calls` are the calls of the session and `fs` what has become of them on
the byte stream and the Android API; the run may have broken off anywhere (`r` is `none` then). -/
structure Disciplined (json : OrgJson) (calls : List (Event sessionSig))
    (fs : List (Event phoneSig))
    (r : Option (Except (Stop Thrown) Unit)) : Prop where
  expands : Expands phone calls fs
  /-- `HidEndpoint.open` is called at most once. -/
  opens_once : (ledger calls).opens.length ≤ 1
  /-- When it is, the stream has delivered the four messages, in this order and nothing else. -/
  opens_asked : ∀ pre device a post, calls = pre ++ .called (.openEndpoint device) a :: post →
    ∃ hello list attach bind devices fs₁ fs₂, fs = fs₁ ++ fs₂ ∧ Expands phone pre fs₁ ∧
      delivered fs₁ = hello.bytes ++ list.bytes ++ attach.bytes ++ bind.bytes ∧
      (ledger pre).listed = [returned devices] ∧ Asked json devices device hello list attach bind
  /-- Frames are written in their turn. -/
  frames_in_turn : ∀ pre payload a post,
    calls = pre ++ .called (.writeEnvelope .hid payload) a :: post →
    ∃ f : HidFrame, payload = f.encode ∧ InTurn json (ledger pre) f
  /-- When the session has ended, an endpoint that `open` returned has been closed once. -/
  closed_once : ∀ result, r = some result → result ≠ .error .ranOut → (ledger calls).Settled

theorem opens_length (json : OrgJson) {l : Ledger} {e : Event sessionSig} (he : Permits json l e)
    (hl : l.opens.length ≤ 1) : (l.add e).opens.length ≤ 1 := by
  rcases e with bs | _ | ⟨bs, ok⟩ | ⟨o, a⟩
  · exact hl
  · exact hl
  · exact hl
  cases o with
  | openEndpoint device =>
      have hnone : l.opens = [] := he.1
      change (l.opens ++ [(device, a)]).length ≤ 1
      rw [hnone]
      exact Nat.le_refl 1
  | writeEnvelope channel payload => cases channel <;> exact hl
  | _ => exact hl

/-- **Every run of the session is disciplined**, over any byte stream and whatever the phone
answers. -/
theorem run_disciplined (json : OrgJson) (senderId deviceName : String) (fuel : ℕ)
    {fs : List (Event phoneSig)} {r : Option (Except (Stop Thrown) Unit)}
    (h : ((run json senderId deviceName fuel).run.handle phone).Trace fs r) :
    ∃ calls, Disciplined json calls fs r := by
  obtain ⟨calls, htrace, hexp⟩ := h.of_handle
  -- the session, as a program over its own calls, keeps to the discipline
  have hkeeps : Holds (discipline json) (run json senderId deviceName fuel) _ _ {} :=
    holds_run senderId deviceName fuel
  obtain ⟨haccepts, hresult⟩ := Prog.Keeps.sound hkeeps htrace
  refine ⟨calls, hexp, ?_, ?_, ?_, ?_⟩
  · have hlen := Monitor.Accepts.invariant (I := fun l => l.opens.length ≤ 1)
      (fun l e he hl => opens_length json he hl) haccepts (Nat.zero_le 1)
    exact hlen
  · rintro pre device a post rfl
    obtain ⟨-, hello, list, attach, bind, devices, hreads, hlisted, hasked⟩ :=
      haccepts pre _ post rfl
    obtain ⟨fs₁, fs₂, rfl, hpre, -⟩ := hexp.split
    -- the session itself reads nothing: the bytes are read within its calls
    have hcalls : ∀ e ∈ pre, e.bytes = [] := by
      intro e he
      obtain ⟨pre', post', rfl⟩ := List.append_of_mem he
      have hpermit := haccepts pre' e _ (List.append_assoc _ _ _)
      rcases e with bs | _ | ⟨bs, ok⟩ | ⟨o, a⟩
      · exact hpermit.elim
      · rfl
      · rfl
      · rfl
    have hanswers : pre.filterMap readAnswer = [hello, list, attach, bind].map returned := by
      have hafter := reads_after json {} pre
      rw [hreads] at hafter
      exact hafter.symm
    refine ⟨hello, list, attach, bind, devices, fs₁, fs₂, rfl, hpre, ?_, hlisted, hasked⟩
    rw [delivered_of_expands hpre hcalls hanswers]
    simp only [List.flatMap_cons, List.flatMap_nil, List.append_nil, List.append_assoc]
  · rintro pre payload a post rfl
    exact haccepts pre _ post rfl
  · rintro (stop | _) hr hran
    · rcases stop with t | _
      · exact hresult _ hr
      · exact absurd rfl hran
    · exact hresult _ hr

/-! #### A mouse -/

/-- A mouse with one interface. -/
def mouse : UsbDevice where
  deviceName := "/dev/bus/usb/001/002"
  vendorId := 0x046D
  productId := 0xC077
  manufacturerName := none
  productName := some "Mouse"
  deviceClass := 0
  deviceSubclass := 0
  deviceProtocol := 0
  interfaces := [⟨0, 3, [⟨⟨0x81, 3, 0⟩, 0x80, 4⟩]⟩]

/-- What a receiver says to have the mouse. -/
def helloText : List UInt8 := "\x7b\"op\":\"HELLO\"\x7d".toUTF8.data.toList
def listText : List UInt8 := "\x7b\"op\":\"LIST_DEVICES\"\x7d".toUTF8.data.toList
def attachText : List UInt8 :=
  "\x7b\"op\":\"ATTACH\",\"busid\":\"1-2\",\"mode\":\"hid\"\x7d".toUTF8.data.toList
def bindFrame : HidFrame := ⟨.bind, 1, 0, []⟩

/-- An `org.json` that knows these messages. -/
def mouseJson : OrgJson where
  parse text :=
    if text = helloText then some fun key => if key = "op" then "HELLO" else ""
    else if text = listText then some fun key => if key = "op" then "LIST_DEVICES" else ""
    else if text = attachText then some fun key =>
      if key = "op" then "ATTACH" else if key = "busid" then "1-2"
      else if key = "mode" then "hid" else ""
    else none
  print := JsonValue.print

/-- A phone with the mouse, for a session that is stopped behind the second report; the mouse has no
report descriptor to show. -/
def mousePhone : Env phoneSig ℕ
  | .running, n => (decide (n < 2), n + 1)
  | .deviceList, n => (.ok [mouse], n)
  | .openDevice _, n => (.ok (some ⟨7⟩), n)
  | .claimInterface _ _ _, n => (.ok true, n)
  | .controlTransfer _ _ _ _ _ buffer _ _, n => (.ok (-1, Jvm.untouched buffer), n)
  | .bulkTransfer _ _ buffer _ _, n => (.ok (Jvm.size buffer, Jvm.untouched buffer), n)
  | .releaseInterface _ _, n => (.ok true, n)
  | .closeConnection _, n => (.ok (), n)
  | .setTcpNoDelay _, n => (.ok (), n)
  | .setSoTimeout _, n => (.ok (), n)
  | .getInputStream, n => (.ok (), n)
  | .getOutputStream, n => (.ok (), n)
  | .closeSocket, n => (.ok (), n)

/-- The stream of that receiver. -/
def mouseIo : Io ℕ where
  input := [⟨.control, helloText⟩, ⟨.control, listText⟩, ⟨.control, attachText⟩,
    ⟨.hid, bindFrame.encode⟩].flatMap Envelope.bytes
  env := 0

/-- The session with the mouse, up to its end: two reports are sent. -/
theorem mouse_disciplined :
    ∃ calls, Disciplined mouseJson calls
      (((run mouseJson "phone" "Phone" 3).run.handle phone).transcript mousePhone mouseIo)
      (some (.ok ())) := by
  have hend : (((run mouseJson "phone" "Phone" 3).run.handle phone).run mousePhone mouseIo).1 =
      .ok () := by decide +kernel
  have htrace := Prog.trace_transcript mousePhone
    ((run mouseJson "phone" "Phone" 3).run.handle phone) mouseIo
  rw [hend] at htrace
  exact run_disciplined mouseJson "phone" "Phone" 3 htrace

end Zerowire.ReceiverSession

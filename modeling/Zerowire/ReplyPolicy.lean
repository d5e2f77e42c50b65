/-
**What a sender answers to what a receiver says.**

Seen from its receiver a sender answers HELLO, LIST_DEVICES and ATTACH with control messages, and a
HID Bind with a BIND_ACK, in this order; anything else ends the session.  What is left to a sender
is a policy: which of its answers it can send, which attachments it grants, denies or drops, and
which Binds it takes.  The replies to a sequence of messages are a function of the policy.

A sender is a program that writes bytes.  What it has answered is read off them: the control
messages by their field `op`, and whether there is a BIND_ACK among the HID frames.

Main definitions:

* `Zerowire.Senders.IsText`, `Zerowire.Senders.Said` — well-formed control messages, and what a
  receiver says;
* `Zerowire.Senders.Policy`, `Zerowire.Senders.Policy.replies` — the policy of a sender, and its
  replies;
* `Zerowire.Senders.Answered`, `Zerowire.Senders.SameReplies` — the replies that are read off the
  bytes;
* `Zerowire.Senders.SendsOnly` — programs that write nothing but certain envelopes.

Main results:

* `Zerowire.Senders.Answered.unique` — **the bytes determine the replies**;
* `Zerowire.Senders.holdReplies_ack` — whatever HID frames follow a BIND_ACK make no difference.
-/

import Zerowire.Control
import Zerowire.Monitor
import Zerowire.UsbInventory

set_option relaxedAutoImplicit false
set_option autoImplicit false

namespace Zerowire

open Bytes Program Android

/-! ### What a receiver says -/

/-- The fields of an object are those of the message, as far as the phone looks at them. -/
def ControlMessage.Shows (obj : String → String) : ControlMessage → Prop
  | .attach busid mode => obj "op" = "ATTACH" ∧ obj "busid" = busid ∧ obj "mode" = mode
  | m => obj "op" = m.op

theorem ControlMessage.Shows.op {obj : String → String} {m : ControlMessage} (h : m.Shows obj) :
    obj "op" = m.op := by
  cases m with
  | attach busid mode => exact h.1
  | _ => exact h

/-- The field `op` tells the messages of a receiver. -/
theorem ControlMessage.exists_hello {m : ControlMessage} (h : m.op = "HELLO") :
    ∃ version client supports, m = .hello version client supports := by
  cases m with
  | hello version client supports => exact ⟨version, client, supports, rfl⟩
  | _ => simp [op] at h

theorem ControlMessage.eq_listDevices {m : ControlMessage} (h : m.op = "LIST_DEVICES") :
    m = .listDevices := by
  cases m with
  | listDevices => rfl
  | _ => simp [op] at h

theorem ControlMessage.exists_attach {m : ControlMessage} (h : m.op = "ATTACH") :
    ∃ busid mode, m = .attach busid mode := by
  cases m with
  | attach busid mode => exact ⟨busid, mode, rfl⟩
  | _ => simp [op] at h

namespace Senders

/-- **A well-formed control message**: it fits into an envelope, and both libraries read its text as
the same message. -/
structure IsText (serde : Serde) (json : OrgJson) (text : List UInt8)
    (m : ControlMessage) : Prop where
  fits : (⟨.control, text⟩ : Envelope).Fits
  read : serde.control.fromSlice text = some m
  shown : ∃ obj, json.parse text = some obj ∧ m.Shows obj

/-- **What a receiver says**: well-formed control messages, and HID frames. -/
inductive Said (serde : Serde) (json : OrgJson) where
  | control (text : List UInt8) (m : ControlMessage) (h : IsText serde json text m)
  | hid (f : HidFrame) (h : (⟨.hid, f.encode⟩ : Envelope).Fits)

namespace Said

variable {serde : Serde} {json : OrgJson}

/-- The envelope. -/
def envelope : Said serde json → Envelope
  | control text _ _ => ⟨.control, text⟩
  | hid f _ => ⟨.hid, f.encode⟩

theorem fits (w : Said serde json) : w.envelope.Fits := by
  cases w with
  | control text m h => exact h.fits
  | hid f h => exact h

/-- The bytes of a sequence of messages. -/
def stream (ws : List (Said serde json)) : List UInt8 := ws.flatMap fun w => w.envelope.bytes

@[simp] theorem stream_nil : stream ([] : List (Said serde json)) = [] := rfl

@[simp] theorem stream_cons (w : Said serde json) (ws : List (Said serde json)) :
    stream (w :: ws) = w.envelope.bytes ++ stream ws := rfl

/-- The parser finds the messages one by one. -/
theorem parse_stream (w : Said serde json) (ws : List (Said serde json)) :
    Envelope.parse (stream (w :: ws)) = .ok (some (w.envelope, w.envelope.bytes.length)) :=
  Envelope.parse_bytes w.fits _

theorem drop_stream (w : Said serde json) (ws : List (Said serde json)) :
    (stream (w :: ws)).drop w.envelope.bytes.length = stream ws := List.drop_left' rfl

end Said

/-! ### Policies -/

/-- The control messages of a sender. -/
inductive ControlReply where
  | helloAck
  | deviceList
  | attachOk
  | attachDenied
  deriving Repr, DecidableEq

/-- Their fields `op`. -/
def ControlReply.op : ControlReply → String
  | .helloAck => "HELLO_ACK"
  | .deviceList => "DEVICE_LIST"
  | .attachOk => "ATTACH_OK"
  | .attachDenied => "ATTACH_DENIED"

theorem ControlReply.op_injective : Function.Injective ControlReply.op := by
  intro r r' h
  cases r <;> cases r' <;> first | rfl | exact absurd h (by decide)

/-- What becomes of an ATTACH. -/
inductive Verdict where
  | granted
  | denied
  /-- The session ends without an answer. -/
  | dropped
  deriving Repr, DecidableEq

/-- What a sender has answered: its control messages, and whether it got to a BIND_ACK. -/
structure ReplyLog where
  sent : List ControlReply := []
  bound : Bool := false
  deriving Repr, DecidableEq

/-- With a reply in front. -/
def ReplyLog.behind (r : ControlReply) (x : ReplyLog) : ReplyLog := { x with sent := r :: x.sent }

theorem ReplyLog.behind_inj {r r' : ControlReply} {x y : ReplyLog} :
    x.behind r = y.behind r' ↔ r = r' ∧ x = y := by
  cases x
  cases y
  simp only [behind, mk.injEq, List.cons.injEq, and_assoc]

theorem ReplyLog.behind_ne (r : ControlReply) (x : ReplyLog) : x.behind r ≠ {} := by
  intro h
  exact absurd (congrArg ReplyLog.sent h) (List.cons_ne_nil _ _)

/-- **The policy of a sender.** -/
structure Policy where
  /-- Whether the HELLO_ACK can be sent. -/
  greets : Bool
  /-- Whether the DEVICE_LIST can be sent. -/
  lists : Bool
  attach (busid mode : String) : Verdict
  /-- Whether a Bind for the attached device is taken. -/
  takes (busid : String) (f : HidFrame) : Bool

namespace Policy

variable {serde : Serde} {json : OrgJson} (P : Policy)

/-- The replies of a sender that has granted an ATTACH. -/
def afterAttach (busid : String) : List (Said serde json) → ReplyLog
  | .hid f _ :: _ => { bound := decide (f.op = .bind) && P.takes busid f }
  | _ => {}

/-- The replies of a sender that has sent its DEVICE_LIST. -/
def afterList : List (Said serde json) → ReplyLog
  | .control _ (.attach busid mode) _ :: ws =>
      match P.attach busid mode with
      | .granted => (P.afterAttach busid ws).behind .attachOk
      | .denied => { sent := [.attachDenied] }
      | .dropped => {}
  | _ => {}

/-- The replies of a sender that has sent its HELLO_ACK. -/
def afterHello : List (Said serde json) → ReplyLog
  | .control _ .listDevices _ :: ws => if P.lists then (P.afterList ws).behind .deviceList else {}
  | _ => {}

/-- **The replies of a sender** to a sequence of messages. -/
def replies : List (Said serde json) → ReplyLog
  | .control _ (.hello _ _ _) _ :: ws => if P.greets then (P.afterHello ws).behind .helloAck else {}
  | _ => {}

end Policy

/-! ### ReplyLog read off the bytes -/

section Answered

variable (json : OrgJson)

/-- The `op` of a control message. -/
def replyOf (e : Envelope) : Option String :=
  if e.channel = .control then (json.parse e.payload).map (· "op") else none

/-- The envelope is a BIND_ACK. -/
def IsBindAck (e : Envelope) : Prop :=
  e.channel = .hid ∧ ∃ f : HidFrame, HidFrame.parse e.payload = .ok f ∧ f.op = .bindAck

/-- The envelopes hold these replies. -/
structure HoldReplies (es : List Envelope) (r : ReplyLog) : Prop where
  sized : ∀ e ∈ es, e.payload.length < 2 ^ 32
  sent : es.filterMap (replyOf json) = r.sent.map ControlReply.op
  bound : (∃ e ∈ es, IsBindAck e) ↔ r.bound = true

/-- **The bytes hold these replies.** -/
def Answered (out : List UInt8) (r : ReplyLog) : Prop :=
  ∃ es, HoldReplies json es r ∧ out = es.flatMap Envelope.bytes

/-- Both hold the same replies. -/
def SameReplies (out out' : List UInt8) : Prop := ∃ r, Answered json out r ∧ Answered json out' r

variable {json}

/-- **The bytes determine the replies.** -/
theorem Answered.unique {out : List UInt8} {r r' : ReplyLog} (h : Answered json out r)
    (h' : Answered json out r') : r = r' := by
  obtain ⟨es, hes, rfl⟩ := h
  obtain ⟨es', hes', heq⟩ := h'
  obtain rfl := Envelope.flatMap_bytes_inj hes.sized hes'.sized heq
  have hsent : r.sent = r'.sent :=
    List.map_injective_iff.2 ControlReply.op_injective (hes.sent.symm.trans hes'.sent)
  have hbound : r.bound = r'.bound := Bool.eq_iff_iff.2 (hes.bound.symm.trans hes'.bound)
  cases r
  cases r'
  exact congrArg₂ ReplyLog.mk hsent hbound

/-- Two outputs hold the same replies if what they hold is the same. -/
theorem sameReplies_iff {out out' : List UInt8} {r r' : ReplyLog} (h : Answered json out r)
    (h' : Answered json out' r') : SameReplies json out out' ↔ r = r' := by
  constructor
  · rintro ⟨x, hx, hx'⟩
    exact (h.unique hx).trans (hx'.unique h')
  · rintro rfl
    exact ⟨r, h, h'⟩

theorem holdReplies_nil : HoldReplies json [] {} where
  sized := nofun
  sent := rfl
  bound := by simp

theorem not_isBindAck_control (payload : List UInt8) : ¬ IsBindAck ⟨.control, payload⟩ := by
  rintro ⟨h, -⟩
  cases h

/-- A control message goes in front. -/
theorem HoldReplies.behind {es : List Envelope} {x : ReplyLog} (h : HoldReplies json es x)
    {r : ControlReply} {payload : List UInt8} (hlen : payload.length < 2 ^ 32)
    {obj : String → String}
    (hparse : json.parse payload = some obj) (hop : obj "op" = r.op) :
    HoldReplies json (⟨.control, payload⟩ :: es) (x.behind r) where
  sized := List.forall_mem_cons.2 ⟨hlen, h.sized⟩
  sent := by
    have hreply : replyOf json ⟨.control, payload⟩ = some r.op := by
      rw [replyOf, if_pos rfl, hparse, Option.map_some, hop]
    rw [List.filterMap_cons_some hreply, h.sent]
    rfl
  bound := by
    refine Iff.trans ?_ h.bound
    simp only [List.mem_cons, exists_eq_or_imp, not_isBindAck_control, false_or]

/-- An envelope with a HID frame. -/
def IsHid (e : Envelope) : Prop := e.channel = .hid ∧ e.payload.length < 2 ^ 32

/-- **Whatever HID frames follow a BIND_ACK make no difference.** -/
theorem holdReplies_ack (json : OrgJson) (ack : HidFrame) (hop : ack.op = .bindAck)
    (hlen : ack.encode.length < 2 ^ 32) {es : List Envelope} (hes : ∀ e ∈ es, IsHid e) :
    HoldReplies json (⟨.hid, ack.encode⟩ :: es) { bound := true } where
  sized := List.forall_mem_cons.2 ⟨hlen, fun e he => (hes e he).2⟩
  sent := by
    refine List.filterMap_eq_nil_iff.2 ?_
    refine List.forall_mem_cons.2 ⟨rfl, fun e he => ?_⟩
    rw [replyOf, (hes e he).1]
    rfl
  bound := by
    refine iff_of_true ⟨_, List.mem_cons_self .., rfl, ack, ?_, hop⟩ rfl
    exact HidFrame.parse_encode ack

/-- What has been written in a run on from `s` holds these replies. -/
def Appended {τ : Type} (json : OrgJson) (s s' : Io τ) (r : ReplyLog) : Prop :=
  ∃ es, HoldReplies json es r ∧ s'.output = s.output ++ es.flatMap Envelope.bytes

theorem appended_nothing {τ : Type} {s s' : Io τ} (h : s'.output = s.output) :
    Appended json s s' {} := ⟨[], holdReplies_nil, h.trans (List.append_nil _).symm⟩

/-- In a run from the beginning that is all there is. -/
theorem Appended.answered {τ : Type} {s s' : Io τ} {r : ReplyLog} (hs : s.output = [])
    (h : Appended json s s' r) : Answered json s'.output r := by
  obtain ⟨es, hes, hout⟩ := h
  exact ⟨es, hes, by rw [hout, hs, List.nil_append]⟩

/-- A control message goes in front of what is written after it. -/
theorem Appended.behind {τ : Type} {s t s' : Io τ} {x : ReplyLog} (h : Appended json t s' x)
    {r : ControlReply} {payload : List UInt8} (ht : t.output = s.output ++ (⟨.control, payload⟩ : Envelope).bytes)
    (hlen : payload.length < 2 ^ 32)
    {obj : String → String} (hparse : json.parse payload = some obj)
    (hop : obj "op" = r.op) : Appended json s s' (x.behind r) := by
  obtain ⟨es, hes, hout⟩ := h
  refine ⟨_, hes.behind hlen hparse hop, ?_⟩
  rw [hout, ht, List.flatMap_cons, List.append_assoc]

end Answered

/-! ### Programs that write nothing but certain envelopes -/

section SendsOnly

variable {X : Sig} {α β γ ε ε' : Type} {P : Envelope → Prop}

/-- **The program writes nothing but such envelopes.** -/
structure SendsOnly (P : Envelope → Prop) (p : Act X ε α) : Prop where
  writes : ∀ {τ : Type} (env : Env X τ) (s : Io τ),
    ∃ es : List Envelope, (∀ e ∈ es, P e) ∧
      (exec env p s).2.output = s.output ++ es.flatMap Envelope.bytes

namespace SendsOnly

theorem of_same {p : Act X ε α}
    (h : ∀ {τ : Type} (env : Env X τ) (s : Io τ), (exec env p s).2.output = s.output) :
    SendsOnly P p := ⟨fun env s => ⟨[], nofun, (h env s).trans (List.append_nil _).symm⟩⟩

theorem pure (a : α) : SendsOnly P (pure a : Act X ε α) := of_same fun _ _ => rfl

theorem throw (e : ε) : SendsOnly P (throw e : Act X ε α) := of_same fun _ _ => rfl

theorem ofResult (r : Except ε α) : SendsOnly P (ofResult r : Act X ε α) := of_same fun _ _ => rfl

theorem call (o : X.Op) : SendsOnly P (call o : Act X ε (X.Ans o)) := of_same fun _ _ => rfl

theorem bind {p : Act X ε α} {f : α → Act X ε β} (hp : SendsOnly P p)
    (hf : ∀ a, SendsOnly P (f a)) : SendsOnly P (p >>= f) := by
  refine ⟨fun env s => ?_⟩
  obtain ⟨es, hes, hout⟩ := hp.writes env s
  rcases hx : exec env p s with ⟨e | a, s'⟩
  · rw [exec_bind_error hx]
    rw [hx] at hout
    exact ⟨es, hes, hout⟩
  · rw [exec_bind_ok hx]
    rw [hx] at hout
    obtain ⟨es', hes', hout'⟩ := (hf a).writes env s'
    refine ⟨es ++ es', List.forall_mem_append.2 ⟨hes, hes'⟩, ?_⟩
    rw [hout', hout, List.append_assoc, List.flatMap_append]

theorem mapErr {p : Act X ε α} (hp : SendsOnly P p) (f : ε → ε') : SendsOnly P (mapErr f p) := by
  refine ⟨fun env s => ?_⟩
  rw [exec_mapErr]
  exact hp.writes env s

theorem attempt {p : Act X ε α} (hp : SendsOnly P p) :
    SendsOnly P (attempt p : Act X ε' (Except ε α)) := by
  refine ⟨fun env s => ?_⟩
  rw [exec_attempt]
  exact hp.writes env s

theorem ite {c : Prop} [Decidable c] {p q : Act X ε α} (hp : SendsOnly P p) (hq : SendsOnly P q) :
    SendsOnly P (if c then p else q) := by
  split
  · exact hp
  · exact hq

theorem unroll {round : β → Act X (Stop ε) (β ⊕ γ)} (hround : ∀ b, SendsOnly P (round b)) (fuel : ℕ)
    (b : β) : SendsOnly P (unroll round fuel b) := by
  induction fuel generalizing b with
  | zero => exact throw _
  | succ fuel ih =>
      refine (hround b).bind ?_
      rintro (b' | c)
      · exact ih b'
      · exact pure c

theorem mono {Q : Envelope → Prop} {p : Act X ε α} (hp : SendsOnly P p) (h : ∀ e, P e → Q e) :
    SendsOnly Q p := by
  refine ⟨fun env s => ?_⟩
  obtain ⟨es, hes, hout⟩ := hp.writes env s
  exact ⟨es, fun e he => h e (hes e he), hout⟩

theorem ignoring {p : Act X (Stop ε) Unit} (hp : SendsOnly P p) : SendsOnly P (ignoring p) := by
  refine ⟨fun env s => ?_⟩
  rw [exec_ignoring_snd]
  exact hp.writes env s

end SendsOnly

/-- The program writes nothing. -/
abbrev Silent (p : Act X ε α) : Prop := SendsOnly (fun _ => False) p

theorem Silent.output_eq {p : Act X ε α} (hp : Silent p) {τ : Type} (env : Env X τ) (s : Io τ) :
    (exec env p s).2.output = s.output := by
  obtain ⟨es, hes, hout⟩ := hp.writes env s
  obtain rfl : es = [] := List.eq_nil_iff_forall_not_mem.2 hes
  exact hout.trans (List.append_nil _)

end SendsOnly

end Senders

end Zerowire

/-
**The sender for Linux and the phone compared.**

The sender for Linux stands in for the phone where there is no phone, so it should answer a receiver
as the phone does.  It follows a policy of the same kind, but not the same policy: it drops an
ATTACH for a device that it does not list where the phone denies it, it grants an ATTACH whatever
its mode, it takes a Bind only if its body names the attached device, and it sends no message that
does not fit into an envelope.

Main definitions:

* `Zerowire.LinuxSender.policy` — the policy of the sender for Linux;
* `Zerowire.LinuxSender.Leads` — what a part of a session leads to;
* `Zerowire.Senders.Expected` — the sequences of messages that do not reach a difference.

Main results:

* `Zerowire.LinuxSender.answered_serveSession` — the session answers as its policy says;
* `Zerowire.Senders.sameReplies_iff_expected` — **the two answer alike on exactly these sequences.**
-/

import Zerowire.LinuxSender
import Zerowire.PhonePolicy

set_option relaxedAutoImplicit false
set_option autoImplicit false

namespace Zerowire

open Bytes Program Senders

/-! ### The sender for Linux -/

namespace LinuxSender

/-- **`serde_json`** writes the field `op` so that `org.json` reads it back, as long as the message
fits into an envelope. -/
def WritesOps (serde : Serde) (json : Android.OrgJson) : Prop :=
  ∀ m : ControlMessage, (m.envelope serde.control).Fits →
    ∃ obj, json.parse (serde.control.toVec m) = some obj ∧ obj "op" = m.op

/-- The body of a Bind is a request for the device with that busid. -/
def Names (serde : Serde) (body : List UInt8) (busid : String) : Prop :=
  ∃ req, serde.bindRequest.fromSlice body = some req ∧ req.busid = busid

instance (serde : Serde) (body : List UInt8) (busid : String) :
    Decidable (Names serde body busid) :=
  match h : serde.bindRequest.fromSlice body with
  | none => isFalse fun ⟨_, hreq, _⟩ => by rw [h] at hreq; cases hreq
  | some req =>
      if hbusid : req.busid = busid then isTrue ⟨req, h, hbusid⟩
      else isFalse fun ⟨_, hreq, hb⟩ => by rw [h] at hreq; cases hreq; exact hbusid hb

/-- The envelope of the BIND_ACK. -/
def ackEnvelope (serde : Serde) (d : ExposedHidraw) (f : HidFrame) : Envelope :=
  ⟨.hid, (ackFor serde d (if f.bindId = 0 then 1 else f.bindId)).encode⟩

/-- **The policy of the sender for Linux.** -/
def policy (serde : Serde) (name : String) (xs : List ExposedHidraw) : Policy where
  greets := decide ((helloAck name).envelope serde.control).Fits
  lists := decide ((deviceList xs).envelope serde.control).Fits
  attach busid _ :=
    match deviceWith xs busid with
    | none => .dropped
    | some d => if ((attachOk d).envelope serde.control).Fits then .granted else .dropped
  takes busid f :=
    match deviceWith xs busid with
    | none => false
    | some d => decide (Names serde f.body busid ∧ (ackEnvelope serde d f).Fits)

/-! ### What a part of a session leads to -/

section Leads

variable {τ α β ε ε' : Type} {serde : Serde} {json : Android.OrgJson} {env : Env linuxSig τ}

/-- **What a part of a session leads to.**  `x` are the replies from here to the end of the session,
and `K` those that are still to come when this part has returned. -/
def Leads (serde : Serde) (json : Android.OrgJson) (env : Env linuxSig τ) (p : Act linuxSig ε α)
    (s : Io τ) (x : ReplyLog) (K : α → List (Said serde json) → ReplyLog) : Prop :=
  match exec env p s with
  | (.error _, s') => Appended json s s' x
  | (.ok a, s') => ∃ ws, s'.input = Said.stream ws ∧
      ∀ s'', Appended json s' s'' (K a ws) → Appended json s s'' x

theorem leads_of_error {p : Act linuxSig ε α} {s s' : Io τ} {e : ε} {x : ReplyLog}
    {K : α → List (Said serde json) → ReplyLog} (h : exec env p s = (.error e, s'))
    (hx : Appended json s s' x) : Leads serde json env p s x K := by
  rw [Leads, h]
  exact hx

/-- A part that writes nothing. -/
theorem leads_of_ok {p : Act linuxSig ε α} {s s' : Io τ} {a : α}
    {K : α → List (Said serde json) → ReplyLog} (h : exec env p s = (.ok a, s'))
    (hout : s'.output = s.output) {ws : List (Said serde json)} (hs : s'.input = Said.stream ws) :
    Leads serde json env p s (K a ws) K := by
  rw [Leads, h]
  refine ⟨ws, hs, ?_⟩
  rintro s'' ⟨es, hes, hes'⟩
  exact ⟨es, hes, by rw [hes', hout]⟩

theorem Leads.bind {p : Act linuxSig ε α} {f : α → Act linuxSig ε β} {s : Io τ} {x : ReplyLog}
    {K : α → List (Said serde json) → ReplyLog} {K' : β → List (Said serde json) → ReplyLog}
    (hp : Leads serde json env p s x K)
    (hf : ∀ a s' ws, s'.input = Said.stream ws → Leads serde json env (f a) s' (K a ws) K') :
    Leads serde json env (p >>= f) s x K' := by
  rw [Leads] at hp ⊢
  rcases hx : exec env p s with ⟨e | a, s'⟩
  · rw [hx] at hp
    rw [exec_bind_error hx]
    exact hp
  · rw [hx] at hp
    obtain ⟨ws, hs', hrest⟩ := hp
    have hlead := hf a s' ws hs'
    rw [Leads] at hlead
    rw [exec_bind_ok hx]
    rcases hy : exec env (f a) s' with ⟨e | b, t⟩
    · rw [hy] at hlead
      exact hrest t hlead
    · rw [hy] at hlead
      obtain ⟨ws', ht, hrest'⟩ := hlead
      exact ⟨ws', ht, fun s'' h => hrest s'' (hrest' s'' h)⟩

theorem Leads.mapErr {p : Act linuxSig ε α} {s : Io τ} {x : ReplyLog}
    {K : α → List (Said serde json) → ReplyLog} (hp : Leads serde json env p s x K) (g : ε → ε') :
    Leads serde json env (mapErr g p) s x K := by
  rw [Leads] at hp ⊢
  rw [exec_mapErr]
  rcases hx : exec env p s with ⟨e | a, s'⟩
  · rw [hx] at hp
    exact hp
  · rw [hx] at hp
    exact hp

/-- What follows gives the replies that are still to come. -/
theorem Leads.appended {p : Act linuxSig ε α} {f : α → Act linuxSig ε β} {s : Io τ} {x : ReplyLog}
    {K : α → List (Said serde json) → ReplyLog} (hp : Leads serde json env p s x K)
    (hf : ∀ a s' ws, s'.input = Said.stream ws → Appended json s' (exec env (f a) s').2 (K a ws)) :
    Appended json s (exec env (p >>= f) s).2 x := by
  rw [Leads] at hp
  rcases hx : exec env p s with ⟨e | a, s'⟩
  · rw [hx] at hp
    rw [exec_bind_error hx]
    exact hp
  · rw [hx] at hp
    obtain ⟨ws, hs', hrest⟩ := hp
    rw [exec_bind_ok hx]
    exact hrest _ (hf a s' ws hs')

/-- The replies if the result is one to go on with. -/
def onOk (r : Except ε α) (K : α → List (Said serde json) → ReplyLog)
    (ws : List (Said serde json)) :
    ReplyLog :=
  match r with
  | .ok a => K a ws
  | .error _ => {}

theorem leads_ofResult (r : Except ε α) {s : Io τ} {ws : List (Said serde json)}
    (hs : s.input = Said.stream ws) (K : α → List (Said serde json) → ReplyLog) :
    Leads serde json env (ofResult r) s (onOk r K ws) K := by
  rcases r with e | a
  · exact leads_of_error rfl (appended_nothing rfl)
  · exact leads_of_ok rfl rfl hs

theorem leads_recvControl {s : Io τ} {x : ReplyLog} {ws : List (Said serde json)}
    (hs : s.input = Said.stream ws) {K : ControlMessage → List (Said serde json) → ReplyLog}
    (hcontrol : ∀ text m h ws', ws = .control text m h :: ws' → x = K m ws')
    (hother : (∀ text m h ws', ws ≠ .control text m h :: ws') → x = {}) :
    Leads serde json env (recvControl serde) s x K := by
  rcases ws with _ | ⟨w, ws⟩
  · rw [hother (by intro text m h ws' heq; cases heq)]
    have hrecv := exec_recvControlWith_nil env serde.control "reading envelope header"
      "reading envelope payload" hs
    exact leads_of_error (exec_mapErr_error hrecv _) (appended_nothing rfl)
  have hrecv := exec_recvControlWith env serde.control "reading envelope header"
    "reading envelope payload" w.fits hs
  rcases w with ⟨text, m, h⟩ | ⟨f, h⟩
  · rw [hcontrol text m h ws rfl]
    have hof : controlOf serde.control (Said.envelope (.control text m h)) = .ok m := by
      rw [controlOf, Said.envelope, h.read]
    rw [hof] at hrecv
    exact leads_of_ok (exec_mapErr_ok hrecv _) rfl rfl
  · rw [hother (by intro text m h ws' heq; cases heq)]
    exact leads_of_error (exec_mapErr_error hrecv _) (appended_nothing rfl)

theorem leads_sendControl (hwrite : WritesOps serde json) {msg : ControlMessage} {r : ControlReply}
    (hop : msg.op = r.op) {s : Io τ} {ws : List (Said serde json)} (hs : s.input = Said.stream ws)
    (K : Unit → List (Said serde json) → ReplyLog) :
    Leads serde json env (sendControl serde msg) s
      (if (msg.envelope serde.control).Fits then (K () ws).behind r else {}) K := by
  by_cases hfits : (msg.envelope serde.control).Fits
  · have hsend : exec env (Wire.sendControl serde.control msg) s = _ :=
      exec_sendControlWith env serde.control "writing envelope" hfits s
    obtain ⟨obj, hparse, hobj⟩ := hwrite msg hfits
    have hlen : (serde.control.toVec msg).length < 2 ^ 32 := Nat.lt_of_le_of_lt hfits (by decide)
    rw [if_pos hfits, Leads, sendControl, exec_mapErr_ok hsend]
    exact ⟨ws, hs, fun s'' h => h.behind rfl hlen hparse (hobj.trans hop)⟩
  · obtain ⟨e, hsend⟩ :=
      exec_sendControlWith_of_not_fits env serde.control "writing envelope" hfits s
    rw [if_neg hfits]
    exact leads_of_error (exec_mapErr_error hsend _) (appended_nothing rfl)

theorem leads_orFail (f : String → LinuxError) (r : Except String α) {s : Io τ}
    {ws : List (Said serde json)} (hs : s.input = Said.stream ws)
    (K : α → List (Said serde json) → ReplyLog) :
    Leads serde json env (orFail f r) s (onOk r K ws) K := by
  rcases r with e | a
  · exact leads_of_error rfl (appended_nothing rfl)
  · exact leads_of_ok rfl rfl hs

theorem leads_enumerate {xs : List ExposedHidraw} (hdevices : ∀ t, (env .enumerate t).1 = .ok xs)
    {s : Io τ} {ws : List (Said serde json)} (hs : s.input = Said.stream ws)
    (K : List ExposedHidraw → List (Said serde json) → ReplyLog) :
    Leads serde json env (call (X := linuxSig) .enumerate : Act linuxSig ε _) s (K xs ws)
      (fun r => onOk r K) := by
  have hcall : exec env (call (X := linuxSig) .enumerate : Act linuxSig ε _) s =
      (.ok (.ok xs), { s with env := (env .enumerate s.env).2 }) := by
    rw [exec_call, hdevices]
  exact leads_of_ok (K := fun r => onOk r K) hcall rfl hs

end Leads

/-! ### The session -/

section Session

variable {τ : Type} {serde : Serde} {json : Android.OrgJson} {env : Env linuxSig τ} {name : String}
  {xs : List ExposedHidraw}

/-- The replies of the sender that has granted an ATTACH for the device. -/
def afterAttachTo (d : ExposedHidraw) : List (Said serde json) → ReplyLog
  | .hid f _ :: _ =>
      { bound := decide (f.op = .bind) &&
          decide (Names serde f.body d.summary.busid ∧ (ackEnvelope serde d f).Fits) }
  | _ => {}

theorem afterAttach_eq {busid : String} {d : ExposedHidraw} (hd : deviceWith xs busid = some d)
    (ws : List (Said serde json)) :
    (policy serde name xs).afterAttach busid ws = afterAttachTo d ws := by
  have hfind : xs.find? (fun d => decide (d.summary.busid = busid)) = some d := hd
  have hbusid : d.summary.busid = busid := by simpa using List.find?_some hfind
  rcases ws with _ | ⟨⟨text, m, h⟩ | ⟨f, h⟩, ws⟩
  · rfl
  · rfl
  · rw [Policy.afterAttach, afterAttachTo, policy, hbusid]
    simp only [hd]

/-- The replies from an ATTACH on, its device looked up. -/
def afterChosen (d : ExposedHidraw) (ws : List (Said serde json)) : ReplyLog :=
  if ((attachOk d).envelope serde.control).Fits then (afterAttachTo d ws).behind .attachOk else {}

theorem afterList_eq (text : List UInt8) (busid mode : String)
    (h : IsText serde json text (.attach busid mode)) (ws : List (Said serde json)) :
    (policy serde name xs).afterList (.control text (.attach busid mode) h :: ws) =
      onOk (chosenOf xs busid) afterChosen ws := by
  rw [Policy.afterList, chosenOf]
  rcases hd : deviceWith xs busid with _ | d
  · have hverdict : (policy serde name xs).attach busid mode = .dropped := by
      rw [policy]
      simp only [hd]
    rw [deviceWith] at hd
    simp only [hverdict, hd]
    rfl
  · have hfind := hd
    rw [deviceWith] at hfind
    simp only [hfind, onOk, afterChosen]
    by_cases hfits : ((attachOk d).envelope serde.control).Fits
    · have hverdict : (policy serde name xs).attach busid mode = .granted := by
        rw [policy]
        simp only [hd]
        exact if_pos hfits
      simp only [hverdict, if_pos hfits, afterAttach_eq hd]
    · have hverdict : (policy serde name xs).attach busid mode = .dropped := by
        rw [policy]
        simp only [hd]
        exact if_neg hfits
      simp only [hverdict, if_neg hfits]

/-- **The session up to the answer to the ATTACH.** -/
theorem leads_handshake (name : String) (hwrite : WritesOps serde json)
    (hdevices : ∀ t, (env .enumerate t).1 = .ok xs) {s : Io τ} {ws : List (Said serde json)}
    (hs : s.input = Said.stream ws) :
    Leads serde json env (handshake serde name) s ((policy serde name xs).replies ws)
      afterAttachTo := by
  -- what is still to come after the HELLO_ACK, the DEVICE_LIST and the ATTACH
  let hello : Unit → List (Said serde json) → ReplyLog := fun _ ws =>
    if ((helloAck name).envelope serde.control).Fits then
      ((policy serde name xs).afterHello ws).behind .helloAck else {}
  let list (devices : List ExposedHidraw) : Unit → List (Said serde json) → ReplyLog := fun _ ws =>
    if ((deviceList devices).envelope serde.control).Fits then
      ((policy serde name devices).afterList ws).behind .deviceList else {}
  let attach (devices : List ExposedHidraw) : String → List (Said serde json) → ReplyLog :=
    fun busid =>
    onOk (chosenOf devices busid) afterChosen
  rw [handshake]
  refine Leads.bind (leads_recvControl hs (K := fun m => onOk (helloOf m) hello) ?_ ?_) ?_
  · rintro text m h ws' rfl
    cases m with
    | hello version client supports =>
        simp only [Policy.replies, policy, decide_eq_true_eq]
        rfl
    | _ => rfl
  · intro hne
    rw [Policy.replies]
    rintro text version client supports h ws' rfl
    exact hne _ _ _ _ rfl
  rintro m s₁ ws₁ hs₁
  refine Leads.bind (leads_ofResult _ hs₁ _) ?_
  rintro ⟨⟩ s₂ ws₂ hs₂
  refine Leads.bind (leads_sendControl hwrite (r := .helloAck) rfl hs₂ fun _ ws =>
    (policy serde name xs).afterHello ws) ?_
  rintro ⟨⟩ s₃ ws₃ hs₃
  refine Leads.bind (leads_enumerate hdevices hs₃ fun devices ws =>
    (policy serde name devices).afterHello ws) ?_
  rintro r s₄ ws₄ hs₄
  refine Leads.bind (leads_orFail _ r hs₄ _) ?_
  rintro devices s₅ ws₅ hs₅
  refine Leads.bind (leads_recvControl hs₅ (K := fun m => onOk (listDevicesOf m) (list devices)) ?_ ?_) ?_
  · rintro text m h ws' rfl
    cases m with
    | listDevices =>
        simp only [Policy.afterHello, policy, decide_eq_true_eq]
        rfl
    | _ => rfl
  · intro hne
    rw [Policy.afterHello]
    rintro text h ws' rfl
    exact hne _ _ _ _ rfl
  rintro m s₆ ws₆ hs₆
  refine Leads.bind (leads_ofResult _ hs₆ _) ?_
  rintro ⟨⟩ s₇ ws₇ hs₇
  refine Leads.bind (leads_sendControl hwrite (r := .deviceList) rfl hs₇ fun _ ws =>
    (policy serde name devices).afterList ws) ?_
  rintro ⟨⟩ s₈ ws₈ hs₈
  refine Leads.bind (leads_recvControl hs₈ (K := fun m => onOk (attachOf m) (attach devices)) ?_ ?_) ?_
  · rintro text m h ws' rfl
    cases m with
    | attach busid mode => exact afterList_eq text busid mode h ws'
    | _ => rfl
  · intro hne
    rw [Policy.afterList]
    rintro text busid mode h ws' rfl
    exact hne _ _ _ _ rfl
  rintro m s₉ ws₉ hs₉
  refine Leads.bind (leads_ofResult _ hs₉ _) ?_
  rintro busid s₁₀ ws₁₀ hs₁₀
  refine Leads.bind (leads_ofResult _ hs₁₀ _) ?_
  rintro d s₁₁ ws₁₁ hs₁₁
  refine Leads.bind (leads_sendControl hwrite (r := .attachOk) rfl hs₁₁ fun _ => afterAttachTo d) ?_
  rintro ⟨⟩ s₁₂ ws₁₂ hs₁₂
  exact leads_of_ok rfl rfl hs₁₂

/-! #### The frames of the sender -/

/-- An envelope that fits is sent, and it is a HID envelope. -/
theorem sendsOnly_writeFrame (f : HidFrame) : SendsOnly IsHid (writeFrame f) := by
  rw [writeFrame]
  by_cases hfits : (⟨.hid, f.encode⟩ : Envelope).Fits
  · have hlen : f.encode.length < 2 ^ 32 := Nat.lt_of_le_of_lt hfits (by decide)
    rw [hidEnvelope_of_fits hfits]
    refine ⟨fun env s => ⟨[⟨.hid, f.encode⟩], List.forall_mem_singleton.2 ⟨rfl, hlen⟩, ?_⟩⟩
    rw [List.flatMap_singleton]
    rfl
  · rw [hidEnvelope_of_not_fits hfits]
    exact .throw _

theorem sendsOnly_pumpRound (p : Pump) : SendsOnly IsHid (pumpRound p) := by
  refine (SendsOnly.call _).bind ?_
  rintro (bs | _ | _ | text)
  · refine (sendsOnly_writeFrame _).bind fun ok => .ite (.pure _) (.pure _)
  · exact .pure _
  · exact (SendsOnly.call _).bind fun _ => .pure _
  · exact .throw _

theorem sendsOnly_afterAck (d : ExposedHidraw) (fuel : ℕ) (bindId : UInt8) :
    SendsOnly IsHid (afterAck d fuel bindId) := by
  have hopen : SendsOnly IsHid (openPump d) := by
    refine (SendsOnly.call _).bind fun r => SendsOnly.bind (.ofResult _) fun _ => ?_
    exact (SendsOnly.call _).bind fun r => .ofResult _
  have hunbind (c : UInt8) : SendsOnly IsHid (unbind c) :=
    (sendsOnly_writeFrame _).bind fun _ => .pure _
  refine ((hopen.bind fun _ => .pure _).mapErr _).bind ?_
  rintro (p | c)
  · refine (SendsOnly.unroll (fun p => (sendsOnly_pumpRound p).mapErr _) fuel p).bind fun c => ?_
    exact (hunbind c).mapErr _
  · exact (hunbind c).mapErr _

/-! #### The Bind -/

theorem bindOf_of_names {d : ExposedHidraw} {f : HidFrame} (hop : f.op = .bind)
    (hnames : Names serde f.body d.summary.busid) :
    bindOf serde d ⟨.hid, f.encode⟩ = .ok (if f.bindId = 0 then 1 else f.bindId) := by
  obtain ⟨req, hreq, hbusid⟩ := hnames
  rw [bindOf_hid, if_neg (not_not.2 hop), hreq]
  exact if_neg (not_not.2 hbusid)

theorem bindOf_of_not_names {d : ExposedHidraw} {f : HidFrame}
    (hnot : ¬ (f.op = .bind ∧ Names serde f.body d.summary.busid)) :
    ∃ e, bindOf serde d ⟨.hid, f.encode⟩ = .error e := by
  rw [bindOf_hid]
  by_cases hop : f.op = .bind
  · rw [if_neg (not_not.2 hop)]
    rcases hreq : serde.bindRequest.fromSlice f.body with _ | req
    · exact ⟨_, rfl⟩
    · simp only
      rw [if_pos fun hbusid => hnot ⟨hop, req, hreq, hbusid⟩]
      exact ⟨_, rfl⟩
  · rw [if_pos hop]
    exact ⟨_, rfl⟩

theorem exec_recvEnvelope (env : Env linuxSig τ) {s : Io τ} {w : Said serde json}
    {ws : List (Said serde json)} (hs : s.input = Said.stream (w :: ws)) :
    exec env (mapErr (Fault.map LinuxError.recv) Wire.recvEnvelope) s =
      (.ok w.envelope, { s with input := Said.stream ws }) := by
  have hparse : Envelope.parse s.input = .ok (some (w.envelope, w.envelope.bytes.length)) := by
    rw [hs, Said.parse_stream]
  have hrecv := exec_recvEnvelopeWith_of_parse env "reading envelope header"
    "reading envelope payload" hparse
  rw [hs, Said.drop_stream] at hrecv
  exact exec_mapErr_ok hrecv _

/-- The Bind, the BIND_ACK and what follows it. -/
theorem appended_acknowledge (d : ExposedHidraw)
    {k : UInt8 → Act linuxSig (Stop (Fault LinuxError)) Unit} (hk : ∀ bindId, SendsOnly IsHid (k bindId))
    {s : Io τ} {ws : List (Said serde json)} (hs : s.input = Said.stream ws) :
    Appended json s (exec env (mapErr .failed (acknowledge serde d) >>= k) s).2
      (afterAttachTo d ws) := by
  rcases ws with _ | ⟨w, ws⟩
  · have hrecv := exec_recvEnvelopeWith_short env "reading envelope header" "reading envelope payload"
      (s := s) (by rw [hs, Said.stream_nil]; decide)
    have hack : exec env (acknowledge serde d) s = _ := exec_bind_error (exec_mapErr_error hrecv _)
    rw [exec_bind_error (exec_mapErr_error hack _)]
    exact appended_nothing rfl
  have hrecv := exec_recvEnvelope env hs
  rcases w with ⟨text, m, h⟩ | ⟨f, h⟩
  · have hack : exec env (acknowledge serde d) s =
        (.error (.err (.expectedHid .control)), { s with input := Said.stream ws }) := by
      rw [acknowledge, exec_bind_ok hrecv]
      rfl
    rw [exec_bind_error (exec_mapErr_error hack _)]
    exact appended_nothing rfl
  -- a Bind for the device is answered, if the BIND_ACK fits; nothing else is
  by_cases hbind : f.op = .bind ∧ Names serde f.body d.summary.busid
  · have hof : bindOf serde d (Said.envelope (.hid f h : Said serde json)) = _ :=
      bindOf_of_names hbind.1 hbind.2
    by_cases hfits : (ackEnvelope serde d f).Fits
    · have hack : exec env (acknowledge serde d) s =
          (.ok (if f.bindId = 0 then 1 else f.bindId),
            { s with input := Said.stream ws, output := s.output ++ (ackEnvelope serde d f).bytes }) := by
        rw [acknowledge, exec_bind_ok hrecv, hof, exec_ofResult_ok_bind, writeFrame,
          hidEnvelope_of_fits hfits]
        rfl
      rw [exec_bind_ok (exec_mapErr_ok hack _)]
      obtain ⟨es, hes, hout⟩ := (hk (if f.bindId = 0 then 1 else f.bindId)).writes env
        { s with input := Said.stream ws, output := s.output ++ (ackEnvelope serde d f).bytes }
      have hsize : (ackFor serde d (if f.bindId = 0 then 1 else f.bindId)).encode.length < 2 ^ 32 :=
        Nat.lt_of_le_of_lt hfits (by decide)
      rw [afterAttachTo, decide_eq_true hbind.1, decide_eq_true ⟨hbind.2, hfits⟩]
      refine ⟨_, holdReplies_ack json _ rfl hsize hes, ?_⟩
      rw [hout, List.flatMap_cons, ← List.append_assoc]
      rfl
    · have hack : exec env (acknowledge serde d) s =
          (.error .panic, { s with input := Said.stream ws }) := by
        rw [acknowledge, exec_bind_ok hrecv, hof, exec_ofResult_ok_bind, writeFrame,
          hidEnvelope_of_not_fits hfits]
        rfl
      rw [exec_bind_error (exec_mapErr_error hack _), afterAttachTo, decide_eq_true hbind.1,
        Bool.true_and, decide_eq_false fun htakes => hfits htakes.2]
      exact appended_nothing rfl
  · obtain ⟨e, hof⟩ := bindOf_of_not_names hbind
    have hof' : bindOf serde d (Said.envelope (.hid f h : Said serde json)) = .error e := hof
    have hack : exec env (acknowledge serde d) s =
        (.error e, { s with input := Said.stream ws }) := by
      rw [acknowledge, exec_bind_ok hrecv, hof', exec_ofResult_error_bind]
    have hbound : (decide (f.op = .bind) &&
        decide (Names serde f.body d.summary.busid ∧ (ackEnvelope serde d f).Fits)) = false := by
      rw [← Bool.decide_and, decide_eq_false fun hall => hbind ⟨hall.1, hall.2.1⟩]
    rw [exec_bind_error (exec_mapErr_error hack _), afterAttachTo, hbound]
    exact appended_nothing rfl

/-- **The session answers as its policy says**, whatever it sends behind the BIND_ACK. -/
theorem answered_serveSession (hwrite : WritesOps serde json)
    (hdevices : ∀ t, (env .enumerate t).1 = .ok xs) (fuel : ℕ)
    (ws : List (Said serde json)) (t : τ) :
    Answered json
      (exec env ((serveSession serde name).unrolled fuel)
        { input := Said.stream ws, env := t }).2.output
      ((policy serde name xs).replies ws) := by
  rw [unrolled_eq]
  have hstream : ({ input := Said.stream ws, env := t } : Io τ).input = Said.stream ws := rfl
  have happended := ((leads_handshake name hwrite hdevices hstream).mapErr Stop.failed).appended
    fun d s' ws' hs' => appended_acknowledge d (sendsOnly_afterAck d fuel) hs'
  exact happended.answered rfl

end Session

end LinuxSender

/-! ### The two compared -/

namespace Senders

section Compared

variable {serde : Serde} {json : Android.OrgJson} (name : String) (ds : List Android.UsbDevice)
  (descriptor : Android.UsbDevice → Jvm.Array) (xs : List ExposedHidraw)

/-- **What does not reach a difference**, from a Bind on: both take it, or neither does. -/
def BindExpected (d : Android.UsbDevice) (x : ExposedHidraw) : List (Said serde json) → Prop
  | .hid f _ :: _ => f.op = .bind →
      (ReceiverSession.acknowledges json d (descriptor d) = true ↔
        LinuxSender.Names serde f.body x.summary.busid ∧ (LinuxSender.ackEnvelope serde x f).Fits)
  | _ => True

/-- From an ATTACH on: its mode is "hid", and its device is listed. -/
def AttachExpected : List (Said serde json) → Prop
  | .control _ (.attach busid mode) _ :: ws => mode = "hid" ∧
      ∃ d x, ReceiverSession.deviceWith ds busid = some d ∧
      LinuxSender.deviceWith xs busid = some x ∧
        ((LinuxSender.attachOk x).envelope serde.control).Fits ∧ BindExpected descriptor d x ws
  | _ => True

/-- From a LIST_DEVICES on: the DEVICE_LIST fits into an envelope. -/
def ListExpected : List (Said serde json) → Prop
  | .control _ .listDevices _ :: ws =>
      ((LinuxSender.deviceList xs).envelope serde.control).Fits ∧ AttachExpected ds descriptor xs ws
  | _ => True

/-- **The sequences of messages that do not reach a difference.** -/
def Expected : List (Said serde json) → Prop
  | .control _ (.hello _ _ _) _ :: ws =>
      ((LinuxSender.helloAck name).envelope serde.control).Fits ∧ ListExpected ds descriptor xs ws
  | _ => True

variable {name ds descriptor xs}

/-- The same busids are listed. -/
def SameBusids (ds : List Android.UsbDevice) (xs : List ExposedHidraw) : Prop :=
  ∀ busid, busid ∈ ds.map Android.busidFor ↔ busid ∈ xs.map (·.summary.busid)

theorem SameBusids.isSome_iff (h : SameBusids ds xs) (busid : String) :
    (ReceiverSession.deviceWith ds busid).isSome ↔ (LinuxSender.deviceWith xs busid).isSome := by
  rw [ReceiverSession.deviceWith, LinuxSender.deviceWith, List.find?_isSome, List.find?_isSome]
  simpa only [List.mem_map, decide_eq_true_eq] using h busid

theorem afterAttach_eq_iff {busid : String} {d : Android.UsbDevice} {x : ExposedHidraw}
    (hd : ReceiverSession.deviceWith ds busid = some d)
    (hx : LinuxSender.deviceWith xs busid = some x)
    (ws : List (Said serde json)) :
    (ReceiverSession.policy json ds descriptor).afterAttach busid ws =
        (LinuxSender.policy serde name xs).afterAttach busid ws ↔
          BindExpected descriptor d x ws := by
  rw [LinuxSender.afterAttach_eq hx]
  rcases ws with _ | ⟨⟨text, m, h⟩ | ⟨f, h⟩, ws⟩
  · exact iff_of_true rfl trivial
  · exact iff_of_true rfl trivial
  · have htakes : (ReceiverSession.policy json ds descriptor).takes busid f =
        ReceiverSession.acknowledges json d (descriptor d) := by
      rw [ReceiverSession.policy]
      simp only [hd]
    rw [Policy.afterAttach, LinuxSender.afterAttachTo, BindExpected, htakes]
    by_cases hop : f.op = .bind
    · simp only [hop, decide_true, Bool.true_and, true_implies, ReplyLog.mk.injEq, true_and]
      rw [Bool.eq_iff_iff, decide_eq_true_eq]
    · simp only [hop, decide_false, Bool.false_and, false_implies]

theorem afterList_eq_iff (name : String) (hsame : SameBusids ds xs) (ws : List (Said serde json)) :
    (ReceiverSession.policy json ds descriptor).afterList ws =
        (LinuxSender.policy serde name xs).afterList ws ↔ AttachExpected ds descriptor xs ws := by
  -- the two differ only on an ATTACH; on everything else both stop
  by_cases hsaid : ∃ text busid mode h ws', ws = .control text (.attach busid mode) h :: ws'
  · obtain ⟨text, busid, mode, h, ws, rfl⟩ := hsaid
    rw [Policy.afterList, Policy.afterList, AttachExpected]
    rcases hd : ReceiverSession.deviceWith ds busid with _ | d
    · have hnone : LinuxSender.deviceWith xs busid = none := by
        rw [← Option.not_isSome_iff_eq_none, ← hsame.isSome_iff, hd]
        exact Bool.false_ne_true
      have hphone : (ReceiverSession.policy json ds descriptor).attach busid mode = .denied := by
        rw [ReceiverSession.policy]
        simp only [hd]
      have hlinux : (LinuxSender.policy serde name xs).attach busid mode = .dropped := by
        rw [LinuxSender.policy]
        simp only [hnone]
      simp only [hphone, hlinux]
      refine iff_of_false (by simp) ?_
      rintro ⟨-, d, x, hd', -⟩
      cases hd'
    obtain ⟨x, hx⟩ : ∃ x, LinuxSender.deviceWith xs busid = some x := by
      rw [← Option.isSome_iff_exists, ← hsame.isSome_iff, hd]
      rfl
    have hlinux : (LinuxSender.policy serde name xs).attach busid mode =
        if ((LinuxSender.attachOk x).envelope serde.control).Fits then .granted else .dropped := by
      rw [LinuxSender.policy]
      simp only [hx]
    have hphone : (ReceiverSession.policy json ds descriptor).attach busid mode =
        if mode ≠ "hid" then .denied else .granted := by
      rw [ReceiverSession.policy]
      simp only [hd]
    rw [hphone, hlinux]
    have hsimp : (mode = "hid" ∧ ∃ d' x', some d = some d' ∧ LinuxSender.deviceWith xs busid = some x' ∧
        ((LinuxSender.attachOk x').envelope serde.control).Fits ∧
        BindExpected descriptor d' x' ws) ↔
        mode = "hid" ∧ ((LinuxSender.attachOk x).envelope serde.control).Fits ∧
          BindExpected descriptor d x ws := by
      constructor
      · rintro ⟨hmode, d', x', hd', hx', hrest⟩
        obtain rfl := Option.some.inj hd'
        obtain rfl := Option.some.inj (hx.symm.trans hx')
        exact ⟨hmode, hrest⟩
      · rintro ⟨hmode, hrest⟩
        exact ⟨hmode, d, x, rfl, hx, hrest⟩
    rw [hsimp]
    -- the phone looks at the mode, the computer whether its answer can be sent
    by_cases hmode : mode = "hid"
    · rw [if_neg (not_not.2 hmode)]
      by_cases hfits : ((LinuxSender.attachOk x).envelope serde.control).Fits
      · rw [if_pos hfits]
        simp only [ReplyLog.behind_inj, true_and, afterAttach_eq_iff hd hx, hmode, hfits]
      · rw [if_neg hfits]
        exact iff_of_false (ReplyLog.behind_ne _ _) fun hall => hfits hall.2.1
    · rw [if_pos hmode]
      refine iff_of_false ?_ fun hall => hmode hall.1
      by_cases hfits : ((LinuxSender.attachOk x).envelope serde.control).Fits
      · rw [if_pos hfits]
        exact fun heq => absurd (congrArg ReplyLog.sent heq) (by simp [ReplyLog.behind])
      · rw [if_neg hfits]
        exact fun heq => absurd (congrArg ReplyLog.sent heq) (by simp)
  · have hne : ∀ text busid mode h ws', ws = .control text (.attach busid mode) h :: ws' → False :=
      fun text busid mode h ws' heq => hsaid ⟨text, busid, mode, h, ws', heq⟩
    rw [Policy.afterList, Policy.afterList, AttachExpected]
    · exact iff_of_true rfl trivial
    all_goals exact hne

theorem afterHello_eq_iff (name : String) (hsame : SameBusids ds xs) (ws : List (Said serde json)) :
    (ReceiverSession.policy json ds descriptor).afterHello ws =
        (LinuxSender.policy serde name xs).afterHello ws ↔ ListExpected ds descriptor xs ws := by
  by_cases hsaid : ∃ text h ws', ws = .control text .listDevices h :: ws'
  · obtain ⟨text, h, ws, rfl⟩ := hsaid
    rw [Policy.afterHello, Policy.afterHello, ListExpected, ← afterList_eq_iff name hsame]
    have hlists : (ReceiverSession.policy json ds descriptor).lists = true := rfl
    rw [if_pos hlists]
    by_cases hfits : ((LinuxSender.deviceList xs).envelope serde.control).Fits
    · have hlinux : (LinuxSender.policy serde name xs).lists = true := decide_eq_true hfits
      rw [if_pos hlinux]
      simp only [ReplyLog.behind_inj, true_and, hfits]
    · have hlinux : ¬ (LinuxSender.policy serde name xs).lists = true := mt of_decide_eq_true hfits
      rw [if_neg hlinux]
      exact iff_of_false (ReplyLog.behind_ne _ _) fun hall => hfits hall.1
  · have hne : ∀ text h ws', ws = .control text .listDevices h :: ws' → False :=
      fun text h ws' heq => hsaid ⟨text, h, ws', heq⟩
    rw [Policy.afterHello, Policy.afterHello, ListExpected]
    · exact iff_of_true rfl trivial
    all_goals exact hne

/-- **The two policies give the same replies** to exactly the sequences that do not reach a
difference. -/
theorem replies_eq_iff (hsame : SameBusids ds xs) (ws : List (Said serde json)) :
    (ReceiverSession.policy json ds descriptor).replies ws =
        (LinuxSender.policy serde name xs).replies ws ↔ Expected name ds descriptor xs ws := by
  by_cases hsaid : ∃ text version client supports h ws',
      ws = .control text (.hello version client supports) h :: ws'
  · obtain ⟨text, version, client, supports, h, ws, rfl⟩ := hsaid
    rw [Policy.replies, Policy.replies, Expected, ← afterHello_eq_iff name hsame]
    have hgreets : (ReceiverSession.policy json ds descriptor).greets = true := rfl
    rw [if_pos hgreets]
    by_cases hfits : ((LinuxSender.helloAck name).envelope serde.control).Fits
    · have hlinux : (LinuxSender.policy serde name xs).greets = true := decide_eq_true hfits
      rw [if_pos hlinux]
      simp only [ReplyLog.behind_inj, true_and, hfits]
    · have hlinux : ¬ (LinuxSender.policy serde name xs).greets = true := mt of_decide_eq_true hfits
      rw [if_neg hlinux]
      exact iff_of_false (ReplyLog.behind_ne _ _) fun hall => hfits hall.1
  · have hne : ∀ text version client supports h ws',
        ws = .control text (.hello version client supports) h :: ws' → False :=
      fun text version client supports h ws' heq =>
        hsaid ⟨text, version, client, supports, h, ws', heq⟩
    rw [Policy.replies, Policy.replies, Expected]
    · exact iff_of_true rfl trivial
    all_goals exact hne

/-- **The two senders answer alike on exactly these sequences**: they send the same control messages
and get to a BIND_ACK alike. -/
theorem sameReplies_iff_expected {τ τ' : Type} {phone : Env Android.phoneSig τ}
    {linux : Env linuxSig τ'} (hwrite : LinuxSender.WritesOps serde json)
    (hphone : ReceiverSession.PhoneServes phone ds descriptor)
    (hlinux : ∀ t, (linux .enumerate t).1 = .ok xs) (hsame : SameBusids ds xs)
    {senderId deviceName : String} {ws : List (Said serde json)}
    (hprint : ReceiverSession.PrintsOps json senderId deviceName ds ws) (fuel fuel' : ℕ)
    (t : τ) (t' : τ') :
    SameReplies json
        (exec phone (handled ReceiverSession.phone (ReceiverSession.run json senderId deviceName fuel))
          { input := Said.stream ws, env := t }).2.output
        (exec linux ((LinuxSender.serveSession serde name).unrolled fuel')
          { input := Said.stream ws, env := t' }).2.output ↔
      Expected name ds descriptor xs ws := by
  rw [sameReplies_iff
    (ReceiverSession.answered_run hphone fuel hprint t)
    (LinuxSender.answered_serveSession hwrite hlinux fuel' ws t'), replies_eq_iff hsame]

end Compared

/-! #### A mouse -/

section Mouse

open Android

/-- The bytes of a text. -/
def utf8 (s : String) : List UInt8 := s.toUTF8.data.toList

theorem utf8_append (s t : String) : utf8 (s ++ t) = utf8 s ++ utf8 t := by
  rw [utf8, String.toUTF8, String.toByteArray_append, ByteArray.data_append, Array.toList_append]
  rfl

/-- What stands between the key and the next quotation mark. -/
def valueBehind (key : List UInt8) : List UInt8 → Option (List UInt8)
  | [] => none
  | b :: text =>
      if key <+: b :: text then some (((b :: text).drop key.length).takeWhile (· ≠ 34))
      else valueBehind key text

/-- A reader of objects whose strings have no escapes. -/
def fieldOf (text : List UInt8) (key : String) : String :=
  String.ofList (((valueBehind (utf8 ("\"" ++ key ++ "\":\"")) text).getD []).map
    fun b => Char.ofNat b.toNat)

theorem fieldOf_op (m : ControlMessage) (rest : List UInt8) :
    fieldOf (utf8 "\x7b\"op\":\"" ++ utf8 m.op ++ 34 :: rest) "op" = m.op := by
  have hvalue : valueBehind (utf8 "\"op\":\"") (utf8 "\x7b\"op\":\"" ++ utf8 m.op ++ 34 :: rest) =
      some (utf8 m.op) := by
    cases m <;> rfl
  have hkey : "\"" ++ "op" ++ "\":\"" = "\"op\":\"" := rfl
  rw [fieldOf, hkey, hvalue]
  cases m <;> rfl

/-- A printed object begins with its first field. -/
theorem text_object (op : String) (fields : List (String × JsonValue)) :
    ∃ rest, (JsonValue.object (("op", .string op) :: fields)).text =
      "\x7b\"op\":\"" ++ (op ++ ("\"" ++ rest)) := by
  have hopen : "\x7b\"op\":\"" = "\x7b" ++ ("\"" ++ ("op" ++ ("\":" ++ "\""))) := rfl
  cases fields with
  | nil =>
      refine ⟨"\x7d", ?_⟩
      simp only [JsonValue.text, JsonValue.textOfFields, hopen, String.append_assoc]
  | cons field fields =>
      refine ⟨"," ++ (JsonValue.textOfFields (field :: fields) ++ "\x7d"), ?_⟩
      simp only [JsonValue.text, JsonValue.textOfFields, hopen, String.append_assoc]

theorem fieldOf_object (m : ControlMessage) (fields : List (String × JsonValue)) :
    [123] <+: utf8 (JsonValue.object (("op", .string m.op) :: fields)).text ∧
      fieldOf (utf8 (JsonValue.object (("op", .string m.op) :: fields)).text) "op" = m.op := by
  obtain ⟨rest, htext⟩ := text_object m.op fields
  have hquote : utf8 "\"" = [34] := rfl
  have hbytes : utf8 (JsonValue.object (("op", .string m.op) :: fields)).text =
      utf8 "\x7b\"op\":\"" ++ utf8 m.op ++ 34 :: utf8 rest := by
    rw [htext, utf8_append, utf8_append, utf8_append, hquote, List.append_assoc, List.singleton_append]
  rw [hbytes]
  exact ⟨⟨_, rfl⟩, fieldOf_op m _⟩

/-- An `org.json` that knows objects whose strings have no escapes. -/
def plainJson : OrgJson where
  parse text := if [123] <+: text then some (fieldOf text) else none
  print := JsonValue.print

theorem parse_plainJson {text : List UInt8} (h : [123] <+: text) :
    plainJson.parse text = some (fieldOf text) := by
  simp only [plainJson, if_pos h]

/-- It prints what there is an array for. -/
theorem print_plainJson {v : JsonValue} (h : (utf8 v.text).length < 2 ^ 31) :
    (plainJson.print v).val = utf8 v.text := by
  have hprint : plainJson.print v = JsonValue.print v := rfl
  rw [hprint, JsonValue.print]
  exact congrArg Subtype.val (dif_pos h)

theorem printsOp_plainJson {m : ControlMessage} {r : ControlReply} (hm : m.op = r.op)
    {fields : List (String × JsonValue)}
    (hlen : (utf8 (JsonValue.object (("op", .string r.op) :: fields)).text).length < 2 ^ 31) :
    ReceiverSession.PrintsOp plainJson r (.object (("op", .string r.op) :: fields)) := by
  obtain ⟨hstart, hop⟩ := fieldOf_object m fields
  rw [hm] at hstart hop
  refine ⟨_, ?_, hop⟩
  rw [print_plainJson hlen]
  exact parse_plainJson hstart

/-- What `serde_json` writes of a message, behind its `op`. -/
def fieldsOf : ControlMessage → List (String × JsonValue)
  | .hello version client supports =>
      [("version", .int (Int32.ofNat version.toNat)), ("client", .string client),
        ("supports", .array (supports.map .string))]
  | .helloAck senderId name supports =>
      [("sender_id", .string senderId), ("name", .string name),
        ("supports", .array (supports.map .string))]
  | .attach busid mode => [("busid", .string busid), ("mode", .string mode)]
  | .deviceList devices => [("devices", .array (devices.map fun d => .object
      [("busid", .string d.busid), ("vendor_id", .int (Int32.ofNat d.vendorId.toNat)),
        ("product_id", .int (Int32.ofNat d.productId.toNat)),
        ("manufacturer", .string (d.manufacturer.getD "")), ("product", .string (d.product.getD "")),
        ("serial", .string (d.serial.getD "")),
        ("device_class", .int (Int32.ofNat d.deviceClass.toNat)),
        ("device_subclass", .int (Int32.ofNat d.deviceSubclass.toNat)),
        ("device_protocol", .int (Int32.ofNat d.deviceProtocol.toNat)), ("is_hid", .bool d.isHid)]))]
  | .attachOk busid importId =>
      [("busid", .string busid), ("import_id", .int (Int32.ofNat importId.toNat))]
  | _ => []

def textOf (m : ControlMessage) : List UInt8 :=
  utf8 (JsonValue.object (("op", .string m.op) :: fieldsOf m)).text

/-- What the receiver says. -/
def mouseHello : ControlMessage := .hello 1 "zerowire-cli/0.2.0" ["usbip/1.1.1", "hid-fastlane/1"]
def mouseAttach (busid : String) : ControlMessage := .attach busid "hid"
def mouseBind : HidFrame := ⟨.bind, 1, 0, utf8 "\x7b\"busid\":\"1-2\",\"want\":\"input\"\x7d"⟩

/-- A `serde_json` that knows the messages of the receiver. -/
def mouseSerde : Serde where
  control :=
    { toVec := textOf
      fromSlice := fun bs =>
        [mouseHello, .listDevices, mouseAttach "1-2", mouseAttach "3-4"].find? fun m =>
          textOf m = bs }
  bindRequest := .single ⟨"1-2", "input"⟩ mouseBind.body
  bindAckMeta := .single ⟨"1-2", .mouse, 0x046D, 0xC077, "Mouse"⟩ <| utf8 <|
    "\x7b\"busid\":\"1-2\",\"kind\":\"mouse\",\"vendor_id\":1133,\"product_id\":49271," ++
      "\"name\":\"Mouse\"\x7d"

theorem writesOps_mouseSerde : LinuxSender.WritesOps mouseSerde plainJson := by
  intro m hfits
  obtain ⟨hstart, hop⟩ := fieldOf_object m (fieldsOf m)
  exact ⟨_, parse_plainJson hstart, hop⟩

theorem isText {m : ControlMessage}
    (hm : m ∈ [mouseHello, .listDevices, mouseAttach "1-2", mouseAttach "3-4"]) :
    IsText mouseSerde plainJson (textOf m) m where
  fits := by
    simp only [List.mem_cons, List.not_mem_nil, or_false] at hm
    rcases hm with rfl | rfl | rfl | rfl <;> decide +kernel
  read := by
    simp only [List.mem_cons, List.not_mem_nil, or_false] at hm
    rcases hm with rfl | rfl | rfl | rfl <;> decide +kernel
  shown := by
    obtain ⟨hstart, hop⟩ := fieldOf_object m (fieldsOf m)
    refine ⟨_, parse_plainJson hstart, ?_⟩
    simp only [List.mem_cons, List.not_mem_nil, or_false] at hm
    rcases hm with rfl | rfl | rfl | rfl
    · exact hop
    · exact hop
    · exact ⟨hop, by decide +kernel, by decide +kernel⟩
    · exact ⟨hop, by decide +kernel, by decide +kernel⟩

/-- HELLO, LIST_DEVICES, ATTACH for that busid and a Bind. -/
def mouseSaid (busid : String) (h : busid ∈ ["1-2", "3-4"]) : List (Said mouseSerde plainJson) :=
  [.control _ mouseHello (isText (by simp)), .control _ .listDevices (isText (by simp)),
    .control _ (mouseAttach busid) (isText (by
      simp only [List.mem_cons, List.not_mem_nil, or_false] at h
      rcases h with rfl | rfl <;> simp)),
    .hid mouseBind (by decide +kernel)]

theorem attach_of_mem_mouseSaid {busid busid' mode : String} {h : busid ∈ ["1-2", "3-4"]}
    {text : List UInt8} {ht : IsText mouseSerde plainJson text (.attach busid' mode)}
    (hmem : .control text (.attach busid' mode) ht ∈ mouseSaid busid h) :
    busid' = busid ∧ mode = "hid" := by
  simp only [mouseSaid, mouseHello, mouseAttach, List.mem_cons, List.not_mem_nil, or_false,
    Said.control.injEq, ControlMessage.attach.injEq, reduceCtorEq, and_false, false_or] at hmem
  exact hmem.2

/-- The messages that a phone with the mouse has for them. -/
theorem printsOps_mouseSaid (busid : String) (h : busid ∈ ["1-2", "3-4"]) :
    ReceiverSession.PrintsOps plainJson "phone" "Phone" [ReceiverSession.mouse]
      (mouseSaid busid h) where
  helloAck := printsOp_plainJson (m := .helloAck "" "" []) rfl (by decide +kernel)
  deviceList := printsOp_plainJson (m := .deviceList []) rfl (by decide +kernel)
  attachOk text busid' mode ht hmem := by
    obtain ⟨rfl, -⟩ := attach_of_mem_mouseSaid hmem
    simp only [List.mem_cons, List.not_mem_nil, or_false] at h
    refine printsOp_plainJson (m := .attachOk "" 0) rfl ?_
    rcases h with rfl | rfl <;> decide +kernel
  attachDenied text busid' mode ht hmem reason hreason := by
    obtain ⟨rfl, rfl⟩ := attach_of_mem_mouseSaid hmem
    simp only [List.mem_cons, List.not_mem_nil, or_false] at h hreason
    refine printsOp_plainJson (m := .attachDenied "" "") rfl ?_
    rcases h with rfl | rfl <;> rcases hreason with rfl | rfl <;> decide +kernel

/-- The mouse as `/dev/hidraw0`. -/
def hidrawMouse : ExposedHidraw where
  summary := ⟨"1-2", 0x046D, 0xC077, some "Logitech", some "Mouse", some "0", 0, 0, 0, true⟩
  hidrawPath := "/dev/hidraw0"
  interfaceClass := 3
  interfaceProtocol := 2

/-- A computer with the mouse, which is unplugged at once. -/
def hidrawEnv : Env linuxSig Unit
  | .enumerate, _ => (.ok [hidrawMouse], ())
  | .openHidraw _, _ => (.ok (), ())
  | .setNonblocking, _ => (.ok (), ())
  | .read, _ => (.eof, ())
  | .sleep, _ => ((), ())

theorem phoneServes_mouse :
    ReceiverSession.PhoneServes ReceiverSession.mousePhone [ReceiverSession.mouse]
      fun _ => ⟨[], by decide⟩ where
  setTcpNoDelay _ := rfl
  setSoTimeout _ := rfl
  getInputStream _ := rfl
  getOutputStream _ := rfl
  deviceList _ := rfl
  openable d hd s := by
    obtain rfl := List.mem_singleton.1 hd
    exact ⟨_, _, rfl, rfl⟩

theorem sameBusids_mouse : SameBusids [ReceiverSession.mouse] [hidrawMouse] := fun _ => Iff.rfl

/-- What the phone and the computer write for that receiver. -/
def phoneOutput (ws : List (Said mouseSerde plainJson)) : List UInt8 :=
  (exec ReceiverSession.mousePhone
    (handled ReceiverSession.phone (ReceiverSession.run plainJson "phone" "Phone" 3))
    { input := Said.stream ws, env := 0 }).2.output
def linuxOutput (ws : List (Said mouseSerde plainJson)) : List UInt8 :=
  (exec hidrawEnv ((LinuxSender.serveSession mouseSerde "linux").unrolled 3)
    { input := Said.stream ws, env := () }).2.output

/-- A receiver that asks for the mouse is answered alike. -/
theorem mouse_sameReplies :
    SameReplies plainJson (phoneOutput (mouseSaid "1-2" (by decide)))
      (linuxOutput (mouseSaid "1-2" (by decide))) := by
  refine (sameReplies_iff_expected writesOps_mouseSerde phoneServes_mouse (fun _ => rfl)
    sameBusids_mouse (printsOps_mouseSaid "1-2" (by decide)) 3 3 0 ()).2 ?_
  refine ⟨by decide +kernel, by decide +kernel, rfl, ReceiverSession.mouse, hidrawMouse, rfl, rfl,
    by decide +kernel, fun _ => ⟨fun _ => ⟨⟨⟨"1-2", "input"⟩, ?_, rfl⟩, ?_⟩, fun _ => ?_⟩⟩
  · decide +kernel
  · decide +kernel
  · decide +kernel

/-- **One that asks for a device that is not there is not**: the phone denies it the device, and the
sender for Linux says nothing. -/
theorem unknown_not_sameReplies :
    ¬ SameReplies plainJson (phoneOutput (mouseSaid "3-4" (by decide)))
      (linuxOutput (mouseSaid "3-4" (by decide))) := by
  have hphone : Answered plainJson (phoneOutput (mouseSaid "3-4" (by decide))) _ :=
    ReceiverSession.answered_run phoneServes_mouse 3 (printsOps_mouseSaid "3-4" (by decide)) 0
  have hlinux : Answered plainJson (linuxOutput (mouseSaid "3-4" (by decide))) _ :=
    LinuxSender.answered_serveSession writesOps_mouseSerde (fun _ => rfl) 3 _ ()
  rw [sameReplies_iff hphone hlinux]
  decide +kernel

end Mouse

end Senders

end Zerowire

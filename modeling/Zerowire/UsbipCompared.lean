/-
**USB/IP receive with and without TLS.**

The two receivers of `Zerowire/UsbipReceive.lean` are given the same envelopes, and their
surroundings answer alike: the flag is up or not the nth time that it is looked at, and the
transcript can or cannot be opened the nth time.  They are alike if both abort at the same message,
or both send the same after their HELLO, append the same lines to the transcript and end at the same
envelope.

They differ in three places.  The one over TLS takes any control message for a reply to HELLO; it
does not know the ATTACH_OK of old senders; and a control ERROR does not end its loop.

Main definitions:

* `Zerowire.EndAlike`, `Zerowire.ReceivedAlike` — the two runs are alike;
* `Zerowire.Greeted`, `Zerowire.Asked`, `Zerowire.Reached` — how far the envelopes carry the
  handshake;
* `Zerowire.ErrorLast`, `Zerowire.AlikeWhen` — none of the three differences shows.

Main results:

* `Zerowire.relay_compared` — the loops;
* `Zerowire.received_alike_iff` — **exactly when the two receivers are alike.**
-/

import Zerowire.ControlJson
import Zerowire.UsbipReceive

set_option relaxedAutoImplicit false
set_option autoImplicit false

namespace Zerowire

open Bytes Program

/-! ### Runs that are alike -/

/-- How a run ends. -/
abbrev Ending := Except (Stop (Fault UsbipReceiveError)) Unit × Io Trail

/-- Both abort, with the same left unread and the same written, apart from `h` and `h'` bytes. -/
def AbortTogether (h h' : ℕ) (x y : Ending) : Prop :=
  x.1 ≠ .ok () ∧ y.1 ≠ .ok () ∧ x.2.input = y.2.input ∧ x.2.output.drop h = y.2.output.drop h'

/-- Both come to their end, with the same left unread, the same written and the same noted. -/
def EndTogether (h h' : ℕ) (x y : Ending) : Prop :=
  x.1 = .ok () ∧ y.1 = .ok () ∧ x.2.input = y.2.input ∧ x.2.output.drop h = y.2.output.drop h' ∧
    x.2.env.transcript = y.2.env.transcript

/-- Both abort together or end together. -/
def EndAlike (h h' : ℕ) (x y : Ending) : Prop := AbortTogether h h' x y ∨ EndTogether h h' x y

/-- Neither how the two runs end, nor what they leave unread or have written, tells them apart. -/
def SameEnd (x y : Ending) : Prop :=
  (x.1 = .ok () ↔ y.1 = .ok ()) ∧ x.2.input = y.2.input ∧ x.2.output = y.2.output

/-- The two runs end in the same way, and differ at most in how often they have looked at the
flag. -/
structure Twins (x y : Ending) : Prop where
  outcome : x.1 = y.1
  input : x.2.input = y.2.input
  output : x.2.output = y.2.output
  opened : x.2.env.opened = y.2.env.opened
  transcript : x.2.env.transcript = y.2.env.transcript

section Alike

variable {h h' : ℕ} {x y : Ending}

theorem EndAlike.input_eq (hxy : EndAlike h h' x y) : x.2.input = y.2.input := by
  rcases hxy with ⟨-, -, hin, -⟩ | ⟨-, -, hin, -⟩
  · exact hin
  · exact hin

theorem EndAlike.output_eq (hxy : EndAlike h h' x y) : x.2.output.drop h = y.2.output.drop h' := by
  rcases hxy with ⟨-, -, -, hout⟩ | ⟨-, -, -, hout, -⟩
  · exact hout
  · exact hout

theorem EndAlike.ok_iff (hxy : EndAlike h h' x y) : x.1 = .ok () ↔ y.1 = .ok () := by
  rcases hxy with ⟨hx, hy, -⟩ | ⟨hx, hy, -⟩
  · exact ⟨fun h => absurd h hx, fun h => absurd h hy⟩
  · exact ⟨fun _ => hy, fun _ => hx⟩

theorem EndAlike.sameEnd (hxy : EndAlike 0 0 x y) : SameEnd x y :=
  ⟨hxy.ok_iff, hxy.input_eq, hxy.output_eq⟩

theorem Twins.endAlike (hxy : Twins x y) : EndAlike 0 0 x y := by
  by_cases hx : x.1 = .ok ()
  · exact Or.inr ⟨hx, hxy.outcome ▸ hx, hxy.input, hxy.output, hxy.transcript⟩
  · exact Or.inl ⟨hx, hxy.outcome ▸ hx, hxy.input, hxy.output⟩

/-- A run is like itself. -/
theorem Twins.refl (x : Ending) : Twins x x := ⟨rfl, rfl, rfl, rfl, rfl⟩

/-- What the two have written before is what is left out of the comparison. -/
theorem endAlike_behind (o o' : List UInt8) :
    EndAlike o.length o'.length (x.1, x.2.behind o) (y.1, y.2.behind o') ↔ EndAlike 0 0 x y := by
  simp only [EndAlike, AbortTogether, EndTogether, Io.behind_input, Io.behind_output, Io.behind_env,
    List.drop_left, List.drop_zero]

end Alike

/-- The two receivers, given the envelopes, are alike: after the HELLO of each. -/
def ReceivedAlike (serde : Serde) (clientName : String) (busid : Option String)
    (drive : Option UInt32) (desk : Desk) (es : List Envelope) : Prop :=
  ∃ x y : Ending,
    (∀ fuel, (es.flatMap Envelope.bytes).length < fuel →
      exec desk.env (runUsbipReceive serde clientName busid drive fuel)
          { input := es.flatMap Envelope.bytes, env := {} } = x ∧
        exec desk.env (runUsbipReceiveTls serde busid drive fuel)
          { input := es.flatMap Envelope.bytes, env := {} } = y) ∧
      x.1 ≠ .error .ranOut ∧ y.1 ≠ .error .ranOut ∧
      EndAlike ((usbipHello clientName).envelope serde.control).bytes.length
        (tlsUsbipHello.envelope serde.control).bytes.length x y

/-! ### Where the difference does not show -/

/-- The envelope is an HELLO_ACK. -/
def Greeted (serde : Serde) (e : Envelope) : Prop :=
  ∃ senderId name supports, controlOf serde.control e = .ok (.helloAck senderId name supports)

/-- The envelope lists devices, of which one is chosen, and can be asked for. -/
def Asked (serde : Serde) (busid : Option String) (e : Envelope) (chosen : DeviceSummary) : Prop :=
  ∃ devs, controlOf serde.control e = .ok (.deviceList devs) ∧ pickDevice busid devs = .ok chosen ∧
    ((ControlMessage.attach chosen.busid "usbip").envelope serde.control).Fits

/-- The handshake gets as far as a reply to ATTACH, and this envelopes follow it. -/
def Reached (serde : Serde) (busid : Option String) (es : List Envelope) (reply : ControlMessage)
    (rest : List Envelope) : Prop :=
  ∃ e₀ e₁ e₂ chosen, es = e₀ :: e₁ :: e₂ :: rest ∧ Greeted serde e₀ ∧ Asked serde busid e₁ chosen ∧
    controlOf serde.control e₂ = .ok reply

/-- The envelope is a control ERROR. -/
def isError (json : Json ControlMessage) (e : Envelope) : Bool :=
  match e.channel, json.fromSlice e.payload with
  | .control, some (.error _ _) => true
  | _, _ => false

/-- **The first control ERROR that a relaying loop comes to, if it comes to one, is the last
envelope, or the flag is up when it is looked at next.**  A loop does not come to what is behind a
frame that is too short, or one that cannot be noted, or what comes when the flag is up. -/
def ErrorLast (json : Json ControlMessage) (desk : Desk) : ℕ → ℕ → List Envelope → Prop
  | _, _, [] => True
  | polls, opened, e :: es =>
      desk.stop polls = true ∨
        if e.channel = .usbip then
          e.payload.length < 4 ∨ desk.opens opened = false ∨
            ErrorLast json desk (polls + 1) (opened + 1) es
        else if isError json e = true then es = [] ∨ desk.stop (polls + 1) = true
        else ErrorLast json desk (polls + 1) opened es

instance ErrorLast.decidable (json : Json ControlMessage) (desk : Desk) :
    (polls opened : ℕ) → (es : List Envelope) → Decidable (ErrorLast json desk polls opened es)
  | _, _, [] => .isTrue trivial
  | polls, opened, e :: es =>
      have := decidable json desk (polls + 1) (opened + 1) es
      have := decidable json desk (polls + 1) opened es
      inferInstanceAs (Decidable (desk.stop polls = true ∨
        if e.channel = .usbip then
          e.payload.length < 4 ∨ desk.opens opened = false ∨
            ErrorLast json desk (polls + 1) (opened + 1) es
        else if isError json e = true then es = [] ∨ desk.stop (polls + 1) = true
        else ErrorLast json desk (polls + 1) opened es))

/-- **None of the three differences shows.** -/
structure AlikeWhen (serde : Serde) (busid : Option String) (drive : Option UInt32) (desk : Desk)
    (es : List Envelope) : Prop where
  /-- The reply to HELLO, if it is a control message at all, is HELLO_ACK. -/
  hello : ∀ e rest, es = e :: rest → ∀ msg, controlOf serde.control e = .ok msg → Greeted serde e
  /-- The reply to ATTACH is not the ATTACH_OK of old senders, unless the transcript cannot be
  opened for what the first receiver would then do. -/
  attach : ∀ b i rest, Reached serde busid es (.attachOk b i) rest →
    desk.opens 0 = false ∨ (drive.isSome = true ∧ desk.opens 1 = false)
  /-- No control ERROR separates the loops. -/
  session : ∀ info rest, Reached serde busid es (.attachOkUsbip info) rest → drive = none →
    desk.opens 0 = true → ErrorLast serde.control desk 0 1 rest

/-- `serde_json` writes the first messages of the receivers so short that they fit into
envelopes. -/
structure GreetingFits (serde : Serde) (clientName : String) : Prop where
  hello : ((usbipHello clientName).envelope serde.control).Fits
  tlsHello : (tlsUsbipHello.envelope serde.control).Fits
  list : (ControlMessage.listDevices.envelope serde.control).Fits

/-! ### The loops -/

section Loops

variable (serde : Serde) (desk : Desk)

theorem simulatedEnvelope_usbip {e : Envelope} (h : e.channel = .usbip) (r : Relay) :
    simulatedEnvelope serde r e = relayFrame r e := by
  rw [simulatedEnvelope, h]

/-- A control ERROR ends the first loop. -/
theorem simulatedEnvelope_error {e : Envelope} (h : isError serde.control e = true) (r : Relay) :
    simulatedEnvelope serde r e = pure (.inr ()) := by
  rw [isError] at h
  split at h
  · next hchan hmsg => rw [simulatedEnvelope, hchan]; simp only [hmsg]
  · cases h

/-- Nothing else that is not a USB/IP frame matters to it. -/
theorem simulatedEnvelope_other {e : Envelope} (hchan : e.channel ≠ .usbip)
    (h : ¬ isError serde.control e = true) (r : Relay) :
    simulatedEnvelope serde r e = pure (.inl r) := by
  rw [simulatedEnvelope]
  split
  · next hu => exact absurd hu hchan
  · next hc =>
      split
      · next hmsg =>
          rw [isError, hc, hmsg] at h
          exact absurd rfl h
      · rfl
  · rfl
  · rfl

/-- Both loops come to an end with enough fuel.  They leave the same if `P` holds, and otherwise how
they end, or what they leave unread, tells them apart. -/
def LoopsCompared (n : ℕ) (r r' : Relay) (io io' : Io Trail) (P : Prop) : Prop :=
  ∃ x y, (∀ fuel, n < fuel →
      exec desk.env (relayRounds serde fuel r) io = x ∧
        exec desk.env (tlsRelayRounds fuel r') io' = y) ∧
    x.1 ≠ .error .ranOut ∧ y.1 ≠ .error .ranOut ∧ (P → Twins x y) ∧ (SameEnd x y → P)

section Rounds

variable {serde desk} {n : ℕ} {r : Relay} {io t : Io Trail} {P : Prop}

/-- Both loops end in this round. -/
theorem LoopsCompared.of_inr
    (h : exec desk.env (pollingRound Wire.recvEnvelope (simulatedEnvelope serde) r) io =
      (.ok (.inr ()), t))
    (h' : exec desk.env (pollingRound Tls.recvEnvelope tlsEnvelope r) io = (.ok (.inr ()), t))
    (hP : P) : LoopsCompared serde desk n r r io io P := by
  refine ⟨(.ok (), t), (.ok (), t), fun fuel hfuel => ?_, nofun, nofun, fun _ => .refl _,
    fun _ => hP⟩
  obtain ⟨m, rfl⟩ : ∃ m, fuel = m + 1 := ⟨fuel - 1, by omega⟩
  exact ⟨exec_unroll_inr h, exec_unroll_inr h'⟩

/-- Both loops fail in this round. -/
theorem LoopsCompared.of_error {err : Fault UsbipReceiveError}
    (h : exec desk.env (pollingRound Wire.recvEnvelope (simulatedEnvelope serde) r) io =
      (.error err, t))
    (h' : exec desk.env (pollingRound Tls.recvEnvelope tlsEnvelope r) io = (.error err, t))
    (hP : P) : LoopsCompared serde desk n r r io io P := by
  refine ⟨(.error (.failed err), t), (.error (.failed err), t), fun fuel hfuel => ?_, nofun, nofun,
    fun _ => .refl _, fun _ => hP⟩
  obtain ⟨m, rfl⟩ : ∃ m, fuel = m + 1 := ⟨fuel - 1, by omega⟩
  exact ⟨exec_unroll_error h, exec_unroll_error h'⟩

/-- Both loops go on after this round. -/
theorem LoopsCompared.of_inl {r₁ : Relay} {m : ℕ} (hm : m < n)
    (h : exec desk.env (pollingRound Wire.recvEnvelope (simulatedEnvelope serde) r) io =
      (.ok (.inl r₁), t))
    (h' : exec desk.env (pollingRound Tls.recvEnvelope tlsEnvelope r) io = (.ok (.inl r₁), t))
    (hrest : LoopsCompared serde desk m r₁ r₁ t t P) : LoopsCompared serde desk n r r io io P := by
  obtain ⟨x, y, hruns, hverdict⟩ := hrest
  refine ⟨x, y, fun fuel hfuel => ?_, hverdict⟩
  obtain ⟨k, rfl⟩ : ∃ k, fuel = k + 1 := ⟨fuel - 1, by omega⟩
  obtain ⟨hx, hy⟩ := hruns k (by omega)
  exact ⟨(exec_unroll_inl h).trans hx, (exec_unroll_inl h').trans hy⟩

end Rounds

theorem length_flatMap_cons (e : Envelope) (es : List Envelope) :
    (es.flatMap Envelope.bytes).length < ((e :: es).flatMap Envelope.bytes).length := by
  rw [List.flatMap_cons, List.length_append, Envelope.length_bytes, headerLen]
  omega

/-- Where the second loop ends where it is. -/
theorem tlsRelayRounds_end {fs : List Envelope} {r : Relay} {t : Io Trail}
    (hin : t.input = fs.flatMap Envelope.bytes) (hends : fs = [] ∨ desk.stop t.env.polls = true)
    (fuel : ℕ) :
    exec desk.env (tlsRelayRounds (fuel + 1) r) t =
      (.ok (), { t with env := { t.env with polls := t.env.polls + 1 } }) := by
  rcases hstop : desk.stop t.env.polls with _ | _
  · rw [hstop] at hends
    obtain rfl := hends.resolve_right Bool.false_ne_true
    exact exec_unroll_inr (exec_pollingRound_nil desk "reading TLS header" "reading TLS payload"
      tlsEnvelope hin hstop r)
  · exact exec_unroll_inr (exec_pollingRound_stopped desk "reading TLS header" "reading TLS payload"
      tlsEnvelope hstop r)

/-- Elsewhere it reads on. -/
theorem tlsRelayRounds_reads {fs : List Envelope} (hfits : ∀ e ∈ fs, e.Fits) {r : Relay}
    {t : Io Trail} (hin : t.input = fs.flatMap Envelope.bytes)
    (hends : ¬ (fs = [] ∨ desk.stop t.env.polls = true)) (fuel : ℕ) :
    (exec desk.env (tlsRelayRounds (fuel + 1) r) t).2.input.length < t.input.length := by
  obtain ⟨hne, hstop⟩ := not_or.1 hends
  obtain ⟨e, fs, rfl⟩ := List.exists_cons_of_ne_nil hne
  have hround := exec_pollingRound_cons desk "reading TLS header" "reading TLS payload" tlsEnvelope
    (hfits e (List.mem_cons_self ..)) hin (Bool.eq_false_iff.2 hstop) r
  have hle := exec_unroll_input_le desk.env (pollingRound Tls.recvEnvelope tlsEnvelope) fuel r t
  rw [Tls.recvEnvelope, hround] at hle
  have hbody := run_input_le desk.env (tlsEnvelope r e).run
    { t with
      input := fs.flatMap Envelope.bytes
      env := { t.env with polls := t.env.polls + 1 } }
  rw [hin]
  exact Nat.lt_of_le_of_lt (Nat.le_trans hle hbody) (length_flatMap_cons e fs)

/-- **The loops on the same envelopes.** -/
theorem relay_compared {fs : List Envelope} (hfits : ∀ e ∈ fs, e.Fits) (r : Relay) (io : Io Trail)
    (hin : io.input = fs.flatMap Envelope.bytes) :
    LoopsCompared serde desk (fs.flatMap Envelope.bytes).length r r io io
      (ErrorLast serde.control desk io.env.polls io.env.opened fs) := by
  -- envelope by envelope; both loops poll the stop flag first, and equally often
  induction fs generalizing r io with
  | nil =>
      rcases hstop : desk.stop io.env.polls with _ | _
      · exact .of_inr (exec_pollingRound_nil desk _ _ _ hin hstop r)
          (exec_pollingRound_nil desk _ _ _ hin hstop r) trivial
      · exact .of_inr (exec_pollingRound_stopped desk _ _ _ hstop r)
          (exec_pollingRound_stopped desk _ _ _ hstop r) trivial
  | cons e es ih =>
      rcases hstop : desk.stop io.env.polls with _ | _
      swap
      · exact .of_inr (exec_pollingRound_stopped desk _ _ _ hstop r)
          (exec_pollingRound_stopped desk _ _ _ hstop r) (Or.inl hstop)
      have he := hfits e (List.mem_cons_self ..)
      have hfits' : ∀ e' ∈ es, e'.Fits := fun e' h => hfits e' (List.mem_cons_of_mem _ h)
      have hround := exec_pollingRound_cons desk "reading envelope header" "reading envelope payload"
        (simulatedEnvelope serde) he hin hstop r
      have hround' := exec_pollingRound_cons desk "reading TLS header" "reading TLS payload" tlsEnvelope
        he hin hstop r
      have hlt := length_flatMap_cons e es
      rw [ErrorLast, or_iff_right (by rw [hstop]; exact Bool.false_ne_true)]
      by_cases husb : e.channel = .usbip
      · rw [if_pos husb]
        rw [simulatedEnvelope_usbip serde husb] at hround
        rw [tlsEnvelope, if_pos husb] at hround'
        -- a USB/IP envelope: both parse its frame, and then both append to the transcript
        by_cases hshort : e.payload.length < 4
        · obtain ⟨err, hx⟩ := exec_relayFrame_short desk hshort r
            { io with
              input := es.flatMap Envelope.bytes
              env := { io.env with polls := io.env.polls + 1 } }
          exact .of_error (hround.trans hx) (hround'.trans hx) (Or.inl hshort)
        · rcases hopen : desk.opens io.env.opened with _ | _
          · obtain ⟨err, hx⟩ := exec_relayFrame_closed desk hshort r (show desk.opens ({ io with
                input := es.flatMap Envelope.bytes
                env := { io.env with polls := io.env.polls + 1 } } : Io Trail).env.opened = false
              from hopen)
            exact .of_error (hround.trans hx) (hround'.trans hx) (Or.inr (Or.inl rfl))
          · obtain ⟨f, hf⟩ : ∃ f, UsbipFrame.parse e.payload = .ok f := by
              rw [UsbipFrame.parse_eq, if_neg hshort]
              exact ⟨_, rfl⟩
            have hx := exec_relayFrame desk hf r (show desk.opens ({ io with
                input := es.flatMap Envelope.bytes
                env := { io.env with polls := io.env.polls + 1 } } : Io Trail).env.opened = true
              from hopen)
            rw [or_iff_right hshort, or_iff_right (by simp)]
            exact .of_inl hlt (hround.trans hx) (hround'.trans hx) (ih hfits' _ _ rfl)
      · rw [if_neg husb]
        rw [tlsEnvelope, if_neg husb] at hround'
        by_cases herr : isError serde.control e = true
        · -- the first loop ends here, the second one goes on
          rw [if_pos herr]
          rw [simulatedEnvelope_error serde herr] at hround
          let t : Io Trail := { io with
            input := es.flatMap Envelope.bytes
            env := { io.env with polls := io.env.polls + 1 } }
          obtain ⟨x, y, hruns, -, hran, -⟩ := ih hfits' r t rfl
          refine ⟨(.ok (), t), y, fun fuel hfuel => ?_, nofun, hran, fun hends => ?_, fun hsame => ?_⟩
          · obtain ⟨k, rfl⟩ : ∃ k, fuel = k + 1 := ⟨fuel - 1, by omega⟩
            exact ⟨exec_unroll_inr (hround.trans rfl),
              (exec_unroll_inl (hround'.trans rfl)).trans (hruns k (by omega)).2⟩
          · have hy := (hruns _ (Nat.lt_succ_self _)).2
            rw [tlsRelayRounds_end desk (t := t) rfl hends] at hy
            subst hy
            exact ⟨rfl, rfl, rfl, rfl, rfl⟩
          · by_contra hends
            have hreads := tlsRelayRounds_reads desk hfits' (r := r) (t := t) rfl hends
              (es.flatMap Envelope.bytes).length
            rw [(hruns _ (Nat.lt_succ_self _)).2, ← hsame.2.1] at hreads
            exact Nat.lt_irrefl _ hreads
        · rw [if_neg herr]
          rw [simulatedEnvelope_other serde husb herr] at hround
          exact .of_inl hlt (hround.trans rfl) (hround'.trans rfl) (ih hfits' r _ rfl)

end Loops

/-! ### What comes before the loops -/

section Sessions

variable (serde : Serde) (busid : Option String) (drive : Option UInt32) (desk : Desk)

/-- A driver does not run out of fuel. -/
theorem exec_driveScript_ne_ranOut (info : AttachInfo) (n : UInt32) (io : Io Trail) :
    (exec desk.env (driveScript info n) io).1 ≠ .error .ranOut := by
  rcases hrun : exec desk.env (runScript info.importId (scriptDefault n info.devid)) io with
    ⟨e | stats, t⟩
  · have hfails := exec_bind_error (f := fun _ : DriverStats => pure ())
      (exec_mapErr_error (exec_mapErr_error hrun (Fault.map UsbipReceiveError.driver)) Stop.failed)
    rw [driveScript, hfails]
    nofun
  · have hworks := exec_bind_ok (f := fun _ : DriverStats => pure ())
      (exec_mapErr_ok (exec_mapErr_ok hrun (Fault.map UsbipReceiveError.driver)) Stop.failed)
    rw [driveScript, hworks]
    nofun

theorem exec_runSimulatedDrive_ne_ranOut (info : AttachInfo) (n : UInt32) (io : Io Trail) :
    (exec desk.env (runSimulatedDrive info n) io).1 ≠ .error .ranOut := by
  rw [runSimulatedDrive]
  rcases hcreate : exec desk.env (SimulatedAttach.create info) io with ⟨e | sim, t⟩
  · rw [exec_bind_error (exec_mapErr_error hcreate _)]
    nofun
  · rw [exec_bind_ok (exec_mapErr_ok hcreate _),
      exec_scope desk rfl (exec_driveScript_ne_ranOut desk info n t) sim]
    exact exec_driveScript_ne_ranOut desk info n t

/-- The receivers, from some point on, come to an end with enough fuel, and are then alike exactly if
`P` holds. -/
def Compared (p p' : ℕ → Act simulatedSig (Stop (Fault UsbipReceiveError)) Unit) (io : Io Trail)
    (P : Prop) : Prop :=
  ∃ x y, (∀ fuel, io.input.length < fuel →
      exec desk.env (p fuel) io = x ∧ exec desk.env (p' fuel) io = y) ∧
    x.1 ≠ .error .ranOut ∧ y.1 ≠ .error .ranOut ∧ (EndAlike 0 0 x y ↔ P)

section Phases

variable {desk} {p p' : ℕ → Act simulatedSig (Stop (Fault UsbipReceiveError)) Unit}
  {io t : Io Trail} {P Q : Prop}

/-- Both fail, with the same left unread and the same written. -/
theorem Compared.of_errors {t' : Io Trail} {e e' : Fault UsbipReceiveError}
    (h : ∀ fuel, exec desk.env (p fuel) io = (.error (.failed e), t))
    (h' : ∀ fuel, exec desk.env (p' fuel) io = (.error (.failed e'), t'))
    (hin : t.input = t'.input) (hout : t.output = t'.output) (hP : P) :
    Compared desk p p' io P :=
  ⟨(.error (.failed e), t), (.error (.failed e'), t'), fun fuel _ => ⟨h fuel, h' fuel⟩, nofun, nofun,
    iff_of_true (Or.inl ⟨nofun, nofun, hin, hout⟩) hP⟩

/-- Both do the same. -/
theorem Compared.of_same {x : Ending} (h : ∀ fuel, exec desk.env (p fuel) io = x)
    (h' : ∀ fuel, exec desk.env (p' fuel) io = x) (hran : x.1 ≠ .error .ranOut) (hP : P) :
    Compared desk p p' io P :=
  ⟨x, x, fun fuel _ => ⟨h fuel, h' fuel⟩, hran, hran, iff_of_true (Twins.refl x).endAlike hP⟩

/-- Both have done the first part, and go on. -/
theorem Compared.bind {α α' : Type} {q : Act simulatedSig (Fault UsbipReceiveError) α}
    {q' : Act simulatedSig (Fault UsbipReceiveError) α'}
    {f : ℕ → α → Act simulatedSig (Stop (Fault UsbipReceiveError)) Unit}
    {f' : ℕ → α' → Act simulatedSig (Stop (Fault UsbipReceiveError)) Unit} {a : α} {a' : α'}
    (h : exec desk.env q io = (.ok a, t)) (h' : exec desk.env q' io = (.ok a', t))
    (hrest : Compared desk (fun fuel => f fuel a) (fun fuel => f' fuel a') t P) :
    Compared desk (fun fuel => mapErr .failed q >>= f fuel)
      (fun fuel => mapErr .failed q' >>= f' fuel) io P := by
  obtain ⟨x, y, hruns, hverdict⟩ := hrest
  have hle : t.input.length ≤ io.input.length := by
    have hle := run_input_le desk.env q.run io
    rw [← exec, h] at hle
    exact hle
  refine ⟨x, y, fun fuel hfuel => ?_, hverdict⟩
  obtain ⟨hx, hy⟩ := hruns fuel (by omega)
  exact ⟨(exec_bind_ok (exec_mapErr_ok h _)).trans hx, (exec_bind_ok (exec_mapErr_ok h' _)).trans hy⟩

/-- Where the condition is the same. -/
theorem Compared.congr (h : Compared desk p p' io P) (hPQ : P ↔ Q) : Compared desk p p' io Q := by
  obtain ⟨x, y, hruns, hran, hran', hiff⟩ := h
  exact ⟨x, y, hruns, hran, hran', hiff.trans hPQ⟩

/-- Both fail in the first part. -/
theorem exec_failing {α β : Type} {q : Act simulatedSig (Fault UsbipReceiveError) α}
    {e : Fault UsbipReceiveError} (h : exec desk.env q io = (.error e, t))
    (f : α → Act simulatedSig (Stop (Fault UsbipReceiveError)) β) :
    exec desk.env (mapErr .failed q >>= f) io = (.error (.failed e), t) :=
  exec_bind_error (exec_mapErr_error h _)

/-- **Both have come to their loops**, with the same attachment.  What is noted when it goes out of
scope is the same if what was noted before is. -/
theorem Compared.of_loops {fs : List Envelope} (hfits : ∀ e ∈ fs, e.Fits) (sim : SimulatedAttach)
    (hin : io.input = fs.flatMap Envelope.bytes) :
    Compared desk (fun fuel => tryFinally (relayRounds serde fuel { sim }) sim.drop)
      (fun fuel => tryFinally (tlsRelayRounds fuel { sim }) sim.drop) io
      (ErrorLast serde.control desk io.env.polls io.env.opened fs) := by
  obtain ⟨x, y, hruns, hran, hran', htwins, hsame⟩ := relay_compared serde desk hfits { sim } io hin
  rw [← hin] at hruns
  refine ⟨(x.1, { x.2 with env := desk.detached sim x.2.env }),
    (y.1, { y.2 with env := desk.detached sim y.2.env }), fun fuel hfuel => ?_, hran, hran',
    fun halike => ?_, fun hP => ?_⟩
  · obtain ⟨hx, hy⟩ := hruns fuel hfuel
    exact ⟨exec_scope desk hx hran sim, exec_scope desk hy hran' sim⟩
  · exact hsame halike.sameEnd
  · have h := htwins hP
    have hlines : (desk.detached sim x.2.env).transcript = (desk.detached sim y.2.env).transcript := by
      rw [Desk.detached, Desk.detached, h.transcript, h.opened]
    exact Twins.endAlike ⟨h.outcome, h.input, h.output, congrArg (· + 1) h.opened, hlines⟩

end Phases

/-- A control message is received, or there is none to be received. -/
theorem recvControl_cases {es : List Envelope} (hfits : ∀ e ∈ es, e.Fits) {io : Io Trail}
    (hin : io.input = es.flatMap Envelope.bytes) :
    (∃ e rest msg, es = e :: rest ∧ controlOf serde.control e = .ok msg ∧
        exec desk.env (mapErr (Fault.map UsbipReceiveError.control)
          (Wire.recvControl serde.control)) io =
          (.ok msg, { io with input := rest.flatMap Envelope.bytes })) ∨
      (∀ e rest msg, es = e :: rest → controlOf serde.control e ≠ .ok msg) ∧
        ∃ err t, exec desk.env (mapErr (Fault.map UsbipReceiveError.control)
          (Wire.recvControl serde.control)) io = (.error err, t) := by
  rcases es with _ | ⟨e, rest⟩
  · have h := exec_recvControlWith_nil desk.env serde.control "reading envelope header"
      "reading envelope payload" hin
    exact Or.inr ⟨nofun, _, io, exec_mapErr_error h _⟩
  · have h := exec_recvControlWith desk.env serde.control "reading envelope header"
      "reading envelope payload" (hfits e (List.mem_cons_self ..)) hin
    rcases hmsg : controlOf serde.control e with err | msg
    · rw [hmsg] at h
      refine Or.inr ⟨?_, _, _, exec_mapErr_error h _⟩
      rintro _ _ msg ⟨⟩
      rw [hmsg]
      exact nofun
    · rw [hmsg] at h
      exact Or.inl ⟨e, rest, msg, rfl, hmsg, exec_mapErr_ok h _⟩

/-- A control message is sent, or there is no envelope for it. -/
theorem sendControl_cases (msg : ControlMessage) (io : Io Trail) :
    ((msg.envelope serde.control).Fits ∧
      exec desk.env (mapErr (Fault.map UsbipReceiveError.control)
        (Wire.sendControl serde.control msg)) io =
        (.ok (), { io with output := io.output ++ (msg.envelope serde.control).bytes })) ∨
      ¬ (msg.envelope serde.control).Fits ∧
        ∃ err, exec desk.env (mapErr (Fault.map UsbipReceiveError.control)
          (Wire.sendControl serde.control msg)) io = (.error err, io) := by
  by_cases h : (msg.envelope serde.control).Fits
  · exact Or.inl ⟨h, exec_mapErr_ok (exec_sendControlWith desk.env serde.control _ h io) _⟩
  · obtain ⟨e, he⟩ :=
      exec_sendControlWith_of_not_fits desk.env serde.control "writing envelope" h io
    exact Or.inr ⟨h, _, exec_mapErr_error he _⟩

/-- The device that an envelope with the list makes the receivers choose. -/
def chosenBy (e : Envelope) : Except (Fault UsbipReceiveError) DeviceSummary := do
  let msg ← (controlOf serde.control e).mapError (Fault.map .control)
  let devs ← listReply msg
  pickDevice busid devs

theorem asked_iff {e : Envelope} {chosen : DeviceSummary} :
    Asked serde busid e chosen ↔ chosenBy serde busid e = .ok chosen ∧
      ((ControlMessage.attach chosen.busid "usbip").envelope serde.control).Fits := by
  rw [chosenBy]
  rcases hmsg : controlOf serde.control e with err | msg
  · refine iff_of_false ?_ nofun
    rintro ⟨devs, hlisted, -⟩
    rw [hmsg] at hlisted
    cases hlisted
  · rw [mapError_ok, ok_bind]
    constructor
    · rintro ⟨devs, hlisted, hpick, hfit⟩
      rw [hmsg] at hlisted
      cases hlisted
      exact ⟨hpick, hfit⟩
    · rintro ⟨hpick, hfit⟩
      cases msg with
      | deviceList devs => exact ⟨devs, hmsg, hpick, hfit⟩
      | _ => cases hpick

/-- A device is asked for, or the receiver fails. -/
theorem requestAttach_cases (hlist : (ControlMessage.listDevices.envelope serde.control).Fits)
    {es : List Envelope} (hfits : ∀ e ∈ es, e.Fits) {io : Io Trail}
    (hin : io.input = es.flatMap Envelope.bytes) :
    (∃ e rest chosen t, es = e :: rest ∧ Asked serde busid e chosen ∧
        exec desk.env (requestAttach serde busid) io = (.ok chosen, t) ∧
        t.input = rest.flatMap Envelope.bytes ∧ t.env = io.env) ∨
      (∀ e rest chosen, es = e :: rest → ¬ Asked serde busid e chosen) ∧
        ∃ err t, exec desk.env (requestAttach serde busid) io = (.error err, t) := by
  obtain ⟨-, hsend⟩ := (sendControl_cases serde desk .listDevices io).resolve_right
    fun h => h.1 hlist
  rcases recvControl_cases serde desk hfits (show ({ io with
      output := io.output ++ (ControlMessage.listDevices.envelope serde.control).bytes } :
        Io Trail).input = _ from hin) with
    ⟨e, rest, msg, rfl, hmsg, hrecv⟩ | ⟨hnone, err, t, hrecv⟩
  · have hchosen : chosenBy serde busid e = listReply msg >>= pickDevice busid := by
      rw [chosenBy, hmsg]
      rfl
    obtain ⟨t, hrest, hinput, henv⟩ : ∃ t, exec desk.env (requestAttach serde busid) io =
        exec desk.env (ofResult (chosenBy serde busid e) >>= fun chosen => do
          mapErr (Fault.map .control) (Wire.sendControl serde.control (.attach chosen.busid "usbip"))
          return chosen) t ∧ t.input = rest.flatMap Envelope.bytes ∧ t.env = io.env := by
      refine ⟨{ io with
        input := rest.flatMap Envelope.bytes
        output := io.output ++ (ControlMessage.listDevices.envelope serde.control).bytes }, ?_,
        rfl, rfl⟩
      rw [requestAttach, exec_bind_ok hsend, exec_bind_ok hrecv, hchosen]
      rcases listReply msg with err | devs
      · rfl
      · rfl
    -- the list may be refused, and so may the device; the ATTACH may also be too long to be sent
    rcases hpick : chosenBy serde busid e with err | chosen
    · rw [hpick, exec_ofResult_error_bind] at hrest
      refine Or.inr ⟨?_, err, t, hrest⟩
      rintro _ _ chosen ⟨⟩ hasked
      have hok := ((asked_iff serde busid).1 hasked).1
      rw [hpick] at hok
      cases hok
    · rw [hpick, exec_ofResult_ok_bind] at hrest
      rcases sendControl_cases serde desk (.attach chosen.busid "usbip") t with
        ⟨hfit, hattach⟩ | ⟨hfit, err, hattach⟩
      · rw [exec_bind_ok hattach, exec_pure] at hrest
        exact Or.inl ⟨e, rest, chosen, _, rfl, (asked_iff serde busid).2 ⟨hpick, hfit⟩, hrest,
          hinput, henv⟩
      · rw [exec_bind_error hattach] at hrest
        refine Or.inr ⟨?_, err, t, hrest⟩
        rintro _ _ chosen' ⟨⟩ hasked
        obtain ⟨hok, hfit'⟩ := (asked_iff serde busid).1 hasked
        rw [hpick] at hok
        cases hok
        exact hfit hfit'
  · refine Or.inr ⟨?_, err, t, ?_⟩
    · rintro e rest chosen rfl ⟨devs, hlisted, -⟩
      exact hnone e rest _ rfl hlisted
    · rw [requestAttach, exec_bind_ok hsend, exec_bind_error hrecv]

/-- **What both receivers do with an ATTACH_OK_USBIP**: only a control ERROR can tell them apart. -/
theorem simulate_compared {fs : List Envelope} (hfits : ∀ e ∈ fs, e.Fits) (info : AttachInfo)
    {io : Io Trail} (hin : io.input = fs.flatMap Envelope.bytes) (henv : io.env = {}) :
    Compared desk (fun fuel => simulateUntilEnd serde drive fuel info)
      (fun fuel => tlsSimulateUntilEnd drive fuel info) io
      (drive = none → desk.opens 0 = true → ErrorLast serde.control desk 0 1 fs) := by
  rcases drive with _ | n
  · rcases hopen : desk.opens 0 with _ | _
    · have hfails := exec_create_closed desk (show desk.opens io.env.opened = false by rw [henv]; exact hopen) info
      exact .of_errors (fun _ => exec_failing hfails _) (fun _ => exec_failing hfails _) rfl rfl
        fun _ h => absurd h Bool.false_ne_true
    · have hcreate := exec_create desk (show desk.opens io.env.opened = true by rw [henv]; exact hopen) info
      refine .congr (.bind hcreate hcreate (.of_loops serde hfits (attachmentOf info) hin)) ?_
      rw [henv]
      exact ⟨fun h _ _ => h, fun h => h rfl rfl⟩
  · exact .of_same (fun _ => rfl) (fun _ => rfl) (exec_runSimulatedDrive_ne_ranOut desk info n io)
      fun h => absurd h nofun

/-- A receiver that relays ends well, or has read something. -/
theorem exec_relaying {fs : List Envelope} (hfits : ∀ e ∈ fs, e.Fits) (sim : SimulatedAttach)
    {t : Io Trail} (hin : t.input = fs.flatMap Envelope.bytes) :
    ∃ x : Ending, (∀ fuel, t.input.length < fuel →
        exec desk.env (tryFinally (relayRounds serde fuel { sim }) sim.drop) t = x) ∧
      x.1 ≠ .error .ranOut ∧ (x.1 = .ok () ∨ x.2.input.length < t.input.length) := by
  obtain ⟨x, y, hruns, hran, -⟩ := relay_compared serde desk hfits { sim } t hin
  rw [← hin] at hruns
  refine ⟨(x.1, { x.2 with env := desk.detached sim x.2.env }), fun fuel hfuel =>
    exec_scope desk (hruns fuel hfuel).1 hran sim, hran, ?_⟩
  obtain ⟨hx, -⟩ := hruns _ (Nat.lt_succ_self _)
  rcases x with ⟨(e | _) | _, s⟩
  · have hreads : s.input.length < t.input.length := exec_unroll_error_reads
      (fun st s e s' h => pollingRound_reads desk "reading envelope header"
        "reading envelope payload" (simulatedEnvelope serde) h nofun) hx
    exact Or.inr hreads
  · exact absurd rfl hran
  · exact Or.inl rfl

/-- **What they do with the ATTACH_OK of an old sender**: the second one fails, and the first one
goes on, unless the transcript cannot be opened. -/
theorem legacy_compared {fs : List Envelope} (hfits : ∀ e ∈ fs, e.Fits) (info : AttachInfo)
    {p' : ℕ → Act simulatedSig (Stop (Fault UsbipReceiveError)) Unit} {e' : Fault UsbipReceiveError}
    {io : Io Trail} (hin : io.input = fs.flatMap Envelope.bytes) (henv : io.env = {})
    (h' : ∀ fuel, exec desk.env (p' fuel) io = (.error (.failed e'), io)) :
    Compared desk (fun fuel => simulateUntilEnd serde drive fuel info) p' io
      (desk.opens 0 = false ∨ (drive.isSome = true ∧ desk.opens 1 = false)) := by
  rcases hopen : desk.opens 0 with _ | _
  · have hfails := exec_create_closed desk (show desk.opens io.env.opened = false by rw [henv]; exact hopen) info
    rcases drive with _ | n
    · exact .of_errors (fun _ => exec_failing hfails _) h' rfl rfl (Or.inl rfl)
    · exact .of_errors (fun _ => exec_failing hfails _) h' rfl rfl (Or.inl rfl)
  -- the transcript is open: the first receiver has taken the reply for that of an old sender
  · have hcreate := exec_create desk (show desk.opens io.env.opened = true by rw [henv]; exact hopen) info
    have hstart := exec_mapErr_ok hcreate Stop.failed
    rw [or_iff_right (by simp)]
    rcases drive with _ | n
    · -- it relays: it succeeds, or it fails at a later envelope
      obtain ⟨x, hruns, hran, hends⟩ := exec_relaying serde desk hfits (attachmentOf info)
        (t := { io with env := { io.env with
          opened := io.env.opened + 1
          transcript := io.env.transcript ++ attachLines info } }) hin
      refine ⟨x, (.error (.failed e'), io), fun fuel hfuel => ⟨?_, h' fuel⟩, hran, nofun,
        iff_of_false (fun halike => ?_) (by simp)⟩
      · exact (exec_bind_ok hstart).trans (hruns fuel hfuel)
      · rcases hends with hok | hreads
        · cases halike.ok_iff.1 hok
        · rw [halike.input_eq] at hreads
          exact Nat.lt_irrefl _ hreads
    · -- it drives the script: it fails before it sends anything, or has sent something
      rw [and_iff_right (by rfl)]
      let t : Io Trail := { io with env := { io.env with
        opened := io.env.opened + 1
        transcript := io.env.transcript ++ attachLines info } }
      rcases hdrive : exec desk.env (driveScript info n) t with ⟨r, t'⟩
      have hran : r ≠ .error .ranOut := by
        have hran := exec_driveScript_ne_ranOut desk info n t
        rwa [hdrive] at hran
      have hrun (fuel : ℕ) : exec desk.env (simulateUntilEnd serde (some n) fuel info) io = _ :=
        (exec_bind_ok hstart).trans (exec_scope desk hdrive hran _)
      have hopened : t.env.opened = 1 := congrArg (fun t : Trail => t.opened + 1) henv
      rcases hagain : desk.opens 1 with _ | _
      · have hscript := exec_runScript_closed desk (show desk.opens t.env.opened = false by rw [hopened]; exact hagain)
          info.importId (scriptDefault n info.devid)
        have hfails := exec_bind_error (f := fun _ : DriverStats => pure ())
          (exec_mapErr_error (exec_mapErr_error hscript (Fault.map UsbipReceiveError.driver))
            Stop.failed)
        rw [driveScript, hfails] at hdrive
        cases hdrive
        exact .of_errors hrun h' rfl rfl rfl
      · have hwrites := runScript_writes desk (show desk.opens t.env.opened = true by rw [hopened]; exact hagain)
          info.importId n info.devid
        have hlong : io.output.length < t'.output.length := by
          have hlong : t.output.length < (exec desk.env (driveScript info n) t).2.output.length := by
            refine exec_bind_writes ?_ _
            rw [exec_mapErr, exec_mapErr]
            exact hwrites
          rwa [hdrive] at hlong
        refine ⟨_, (.error (.failed e'), io), fun fuel _ => ⟨hrun fuel, h' fuel⟩, hran, nofun,
          iff_of_false (fun halike => ?_) (by simp)⟩
        exact absurd (congrArg List.length halike.output_eq) (Nat.ne_of_gt hlong)

/-- What both sides go on with, what only the first one does, and what both fail at. -/
theorem attachReply_cases (chosen : DeviceSummary) (msg : ControlMessage) :
    (∃ info, msg = .attachOkUsbip info) ∨ (∃ b i, msg = .attachOk b i) ∨
      (∀ info, msg ≠ .attachOkUsbip info) ∧ (∀ b i, msg ≠ .attachOk b i) ∧
        (∃ err, attachReply chosen msg = .error err) ∧ ∃ err, tlsAttachReply msg = .error err := by
  cases msg with
  | attachOkUsbip info => exact Or.inl ⟨info, rfl⟩
  | attachOk b i => exact Or.inr (Or.inl ⟨b, i, rfl⟩)
  | _ => exact Or.inr (Or.inr ⟨nofun, nofun, ⟨_, rfl⟩, ⟨_, rfl⟩⟩)

/-- The first receiver from the reply to ATTACH on. -/
def usbipAttached (chosen : DeviceSummary) (fuel : ℕ) :
    Act simulatedSig (Stop (Fault UsbipReceiveError)) Unit := do
  let reply ← mapErr .failed (usbipReply serde)
  let info ← mapErr .failed (ofResult (attachReply chosen reply))
  simulateUntilEnd serde drive fuel info

/-- The second receiver from there on. -/
def tlsAttached (fuel : ℕ) : Act simulatedSig (Stop (Fault UsbipReceiveError)) Unit := do
  let reply ← mapErr .failed (tlsReply serde)
  let info ← mapErr .failed (ofResult (tlsAttachReply reply))
  tlsSimulateUntilEnd drive fuel info

/-- The reply to ATTACH, and what follows it. -/
theorem attached_compared {es : List Envelope} (hfits : ∀ e ∈ es, e.Fits) (chosen : DeviceSummary)
    {io : Io Trail} (hin : io.input = es.flatMap Envelope.bytes) (henv : io.env = {}) :
    Compared desk (usbipAttached serde drive chosen) (tlsAttached serde drive) io
      ((∀ e rest b i, es = e :: rest → controlOf serde.control e = .ok (.attachOk b i) →
          desk.opens 0 = false ∨ (drive.isSome = true ∧ desk.opens 1 = false)) ∧
        ∀ e rest info, es = e :: rest → controlOf serde.control e = .ok (.attachOkUsbip info) →
          drive = none → desk.opens 0 = true → ErrorLast serde.control desk 0 1 rest) := by
  have hrecv := (recvControl_alike (X := simulatedSig) serde.control).mapErr
    UsbipReceiveError.control UsbipReceiveError.control
  rcases recvControl_cases serde desk hfits hin with
    ⟨e, rest, msg, rfl, hmsg, hx⟩ | ⟨hnone, err, t, hx⟩
  · have hrest : ∀ e' ∈ rest, e'.Fits := fun e' h => hfits e' (List.mem_cons_of_mem _ h)
    refine .bind hx (hrecv.exec_ok hx) ?_
    let t : Io Trail := { io with input := rest.flatMap Envelope.bytes }
    rcases attachReply_cases chosen msg with ⟨info, rfl⟩ | ⟨b, i, rfl⟩ | ⟨hnew, hold, herr, herr'⟩
    -- an answer that both take
    · have hboth := simulate_compared serde drive desk hrest info
        (show t.input = _ from rfl) henv
      refine .congr (.bind (exec_ofResult ..) (exec_ofResult ..) hboth) ⟨fun h => ⟨?_, ?_⟩, ?_⟩
      · rintro _ _ b i ⟨⟩ hattached
        rw [hmsg] at hattached
        cases hattached
      · rintro _ _ info' ⟨⟩ -
        exact h
      · exact fun h => h.2 e rest info rfl hmsg
    -- the answer of an old sender, which only the first one takes
    · have hold := legacy_compared serde drive desk hrest
        ⟨⟨b, i, 0, 2⟩, chosen.vendorId, chosen.productId, none⟩
        (show t.input = _ from rfl) henv fun fuel => exec_failing
          (exec_ofResult desk.env (tlsAttachReply (.attachOk b i)) t) (tlsSimulateUntilEnd drive fuel)
      refine .congr hold ⟨fun h => ⟨?_, ?_⟩, ?_⟩
      · rintro _ _ b' i' ⟨⟩ -
        exact h
      · rintro _ _ info ⟨⟩ hattached
        rw [hmsg] at hattached
        cases hattached
      · exact fun h => h.1 e rest b i rfl hmsg
    · obtain ⟨err, herr⟩ := herr
      obtain ⟨err', herr'⟩ := herr'
      rw [herr, herr']
      refine .of_errors (fun _ => exec_failing (exec_ofResult ..) _)
        (fun _ => exec_failing (exec_ofResult ..) _) rfl rfl ⟨?_, ?_⟩
      · rintro _ _ b i ⟨⟩ hattached
        rw [hmsg] at hattached
        exact absurd (Except.ok.inj hattached) (hold b i)
      · rintro _ _ info ⟨⟩ hattached
        rw [hmsg] at hattached
        exact absurd (Except.ok.inj hattached) (hnew info)
  · refine .of_errors (fun _ => exec_failing hx _)
      (fun _ => exec_failing (hrecv.exec_error hx).choose_spec _) rfl rfl ⟨?_, ?_⟩
    · exact fun e rest b i hes hattached => absurd hattached (hnone e rest _ hes)
    · exact fun e rest info hes hattached => absurd hattached (hnone e rest _ hes)

/-- The first receiver after its HELLO. -/
def usbipGreeted (fuel : ℕ) : Act simulatedSig (Stop (Fault UsbipReceiveError)) Unit := do
  let reply ← mapErr .failed (usbipReply serde)
  mapErr .failed (ofResult (helloReply reply))
  let chosen ← mapErr .failed (requestAttach serde busid)
  usbipAttached serde drive chosen fuel

/-- The second receiver after its HELLO. -/
def tlsGreeted (fuel : ℕ) : Act simulatedSig (Stop (Fault UsbipReceiveError)) Unit := do
  let _reply ← mapErr .failed (tlsReply serde)
  let _chosen ← mapErr .failed (tlsRequestAttach serde busid)
  tlsAttached serde drive fuel

theorem runUsbipReceive_eq (clientName : String) (fuel : ℕ) :
    runUsbipReceive serde clientName busid drive fuel =
      mapErr .failed (mapErr (Fault.map .control)
        (Wire.sendControl serde.control (usbipHello clientName))) >>=
        fun _ => usbipGreeted serde busid drive fuel := by
  simp only [runUsbipReceive, negotiate, usbipGreeted, usbipAttached, mapErr_bind, bind_assoc]

theorem runUsbipReceiveTls_eq (fuel : ℕ) :
    runUsbipReceiveTls serde busid drive fuel =
      mapErr .failed (mapErr (Fault.map .control)
        (Tls.sendControl serde.control tlsUsbipHello)) >>=
        fun _ => tlsGreeted serde busid drive fuel := by
  simp only [runUsbipReceiveTls, tlsNegotiate, tlsGreeted, tlsAttached, mapErr_bind, bind_assoc]

/-- The program comes to an end with enough fuel. -/
def Settles (p : ℕ → Act simulatedSig (Stop (Fault UsbipReceiveError)) Unit) (io : Io Trail) : Prop :=
  ∃ x, x.1 ≠ .error .ranOut ∧ ∀ fuel, io.input.length < fuel → exec desk.env (p fuel) io = x

theorem Settles.bind {α : Type} {q : Act simulatedSig (Fault UsbipReceiveError) α}
    {f : ℕ → α → Act simulatedSig (Stop (Fault UsbipReceiveError)) Unit}
    (hf : ∀ a t, Settles desk (fun fuel => f fuel a) t) (io : Io Trail) :
    Settles desk (fun fuel => mapErr .failed q >>= f fuel) io := by
  have hle := run_input_le desk.env q.run io
  rcases hq : exec desk.env q io with ⟨e | a, t⟩
  · exact ⟨(.error (.failed e), t), nofun, fun fuel _ => exec_failing hq (f fuel)⟩
  · obtain ⟨x, hran, hx⟩ := hf a t
    rw [← exec, hq] at hle
    exact ⟨x, hran, fun fuel hfuel => (exec_bind_ok (exec_mapErr_ok hq _)).trans
      (hx fuel (Nat.lt_of_le_of_lt hle hfuel))⟩

theorem Settles.finally {p : ℕ → Act simulatedSig (Stop (Fault UsbipReceiveError)) Unit}
    {io : Io Trail} (hp : Settles desk p io) (sim : SimulatedAttach) :
    Settles desk (fun fuel => tryFinally (p fuel) sim.drop) io := by
  obtain ⟨x, hran, hx⟩ := hp
  exact ⟨(x.1, { x.2 with env := desk.detached sim x.2.env }), hran, fun fuel hfuel =>
    exec_scope desk (hx fuel hfuel) hran sim⟩

/-- **The second receiver comes to an end.** -/
theorem settles_tlsGreeted (io : Io Trail) : Settles desk (tlsGreeted serde busid drive) io := by
  refine Settles.bind desk (fun _ _ => Settles.bind desk (fun _ _ => Settles.bind desk (fun _ _ =>
    Settles.bind desk (fun info _ => Settles.bind desk (fun sim t => ?_) _) _) _) _) io
  refine Settles.finally desk ?_ sim
  cases drive with
  | some n => exact ⟨_, exec_driveScript_ne_ranOut desk info n t, fun _ _ => rfl⟩
  | none =>
      exact exec_unroll_total (fun st s st' s' h => pollingRound_reads desk "reading TLS header"
        "reading TLS payload" tlsEnvelope (r := .ok (.inl st')) h nofun) _ t

/-- **A reply to HELLO that is another control message tells them apart**: the first receiver fails,
and the second one sends LIST_DEVICES. -/
theorem ungreeted_compared (hlist : (ControlMessage.listDevices.envelope serde.control).Fits)
    {es : List Envelope} (hfits : ∀ e ∈ es, e.Fits) {io : Io Trail}
    (hin : io.input = es.flatMap Envelope.bytes) {e : Envelope} {rest : List Envelope}
    {msg : ControlMessage} (hes : es = e :: rest) (hmsg : controlOf serde.control e = .ok msg)
    (hno : ¬ Greeted serde e) :
    Compared desk (usbipGreeted serde busid drive) (tlsGreeted serde busid drive) io False := by
  subst hes
  have hrecv := (recvControl_alike (X := simulatedSig) serde.control).mapErr
    UsbipReceiveError.control UsbipReceiveError.control
  obtain ⟨msg', hx⟩ : ∃ msg', exec desk.env (mapErr (Fault.map UsbipReceiveError.control)
      (Wire.recvControl serde.control)) io =
        (.ok msg', { io with input := rest.flatMap Envelope.bytes }) ∧ msg' = msg := by
    rcases recvControl_cases serde desk hfits hin with
      ⟨_, _, msg', ⟨⟩, hmsg', hx⟩ | ⟨hnone, -⟩
    · rw [hmsg] at hmsg'
      exact ⟨msg', hx, (Except.ok.inj hmsg').symm⟩
    · exact absurd hmsg (hnone e rest msg rfl)
  obtain ⟨hx, rfl⟩ := hx
  obtain ⟨err, hreply⟩ : ∃ err, helloReply msg' = .error err := by
    cases msg' with
    | helloAck senderId name supports => exact absurd ⟨senderId, name, supports, hmsg⟩ hno
    | _ => exact ⟨_, rfl⟩
  have hfails (fuel : ℕ) : exec desk.env (usbipGreeted serde busid drive fuel) io =
      (.error (.failed err), { io with input := rest.flatMap Envelope.bytes }) := by
    refine (exec_bind_ok (exec_mapErr_ok hx _)).trans ?_
    rw [hreply]
    exact exec_failing (exec_ofResult ..) _
  -- the second receiver has sent something by the time that it ends
  obtain ⟨y, hran, hy⟩ := settles_tlsGreeted serde busid drive desk io
  have hlong : io.output.length < y.2.output.length := by
    rw [← hy _ (Nat.lt_succ_self _)]
    have hsend := (sendControl_alike (X := simulatedSig) serde.control .listDevices).mapErr
      UsbipReceiveError.control UsbipReceiveError.control
    obtain ⟨-, hlisted⟩ := (sendControl_cases serde desk .listDevices
      { io with input := rest.flatMap Envelope.bytes }).resolve_right fun h => h.1 hlist
    rw [tlsGreeted, tlsReply, exec_bind_ok (exec_mapErr_ok (hrecv.exec_ok hx) _)]
    refine exec_bind_writes (s := { io with input := rest.flatMap Envelope.bytes }) ?_ _
    rw [exec_mapErr]
    refine exec_bind_writes (s := { io with input := rest.flatMap Envelope.bytes }) ?_ _
    rw [hsend.exec_ok hlisted, List.length_append, Envelope.length_bytes, headerLen]
    omega
  have hended : (.error (.failed err) : Except (Stop (Fault UsbipReceiveError)) Unit) ≠ .error .ranOut := by
    rintro ⟨⟩
  refine ⟨_, y, fun fuel hfuel => ⟨hfails fuel, hy fuel hfuel⟩, hended, hran,
    iff_of_false (fun halike => ?_) id⟩
  exact absurd (congrArg List.length halike.output_eq) (Nat.ne_of_lt hlong)

/-- **The two receivers after their HELLO.** -/
theorem session_compared (hlist : (ControlMessage.listDevices.envelope serde.control).Fits)
    {es : List Envelope} (hfits : ∀ e ∈ es, e.Fits) {io : Io Trail}
    (hin : io.input = es.flatMap Envelope.bytes) (henv : io.env = {}) :
    Compared desk (usbipGreeted serde busid drive) (tlsGreeted serde busid drive) io
      (AlikeWhen serde busid drive desk es) := by
  have hrecv := (recvControl_alike (X := simulatedSig) serde.control).mapErr
    UsbipReceiveError.control UsbipReceiveError.control
  rcases recvControl_cases serde desk hfits hin with
    ⟨e, rest, msg, rfl, hmsg, hx⟩ | ⟨hnone, err, t, hx⟩
  · have hrest : ∀ e' ∈ rest, e'.Fits := fun e' h => hfits e' (List.mem_cons_of_mem _ h)
    -- only the first receiver looks whether the reply is a HELLO_ACK
    by_cases hgreeted : Greeted serde e
    · obtain ⟨senderId, name, supports, hack⟩ := hgreeted
      rw [hmsg] at hack
      obtain rfl := Except.ok.inj hack
      have hgreeted : Greeted serde e := ⟨senderId, name, supports, hmsg⟩
      have hhello : ∀ e' rest', e :: rest = e' :: rest' → ∀ msg,
          controlOf serde.control e' = .ok msg → Greeted serde e' := by
        rintro _ _ ⟨⟩ - -
        exact hgreeted
      have hrequest : Compared desk
          (fun fuel => mapErr .failed (requestAttach serde busid) >>= fun chosen =>
            usbipAttached serde drive chosen fuel)
          (fun fuel => mapErr .failed (tlsRequestAttach serde busid) >>= fun _ =>
            tlsAttached serde drive fuel)
          { io with input := rest.flatMap Envelope.bytes }
          (AlikeWhen serde busid drive desk (e :: rest)) := by
        rcases requestAttach_cases serde busid desk hlist hrest
            (show ({ io with input := rest.flatMap Envelope.bytes } : Io Trail).input = _ from rfl) with
          ⟨e₁, rest₁, chosen, t, rfl, hasked, hreq, htin, htenv⟩ | ⟨hnone, err, t, hreq⟩
        · have hrest₁ : ∀ e' ∈ rest₁, e'.Fits := fun e' h => hrest e' (List.mem_cons_of_mem _ h)
          refine .bind hreq ((requestAttach_alike serde busid).exec_ok hreq) (.congr
            (attached_compared serde drive desk hrest₁ chosen htin (htenv.trans henv)) ?_)
          constructor
          · rintro ⟨hold, hnew⟩
            refine ⟨hhello, ?_, ?_⟩
            · rintro b i rest₂ ⟨_, _, e₂, _, ⟨⟩, -, -, hreply⟩
              exact hold e₂ rest₂ b i rfl hreply
            · rintro info rest₂ ⟨_, _, e₂, _, ⟨⟩, -, -, hreply⟩
              exact hnew e₂ rest₂ info rfl hreply
          · intro h
            refine ⟨?_, ?_⟩
            · rintro e₂ rest₂ b i rfl hreply
              exact h.attach b i rest₂ ⟨e, e₁, e₂, chosen, rfl, hgreeted, hasked, hreply⟩
            · rintro e₂ rest₂ info rfl hreply
              exact h.session info rest₂ ⟨e, e₁, e₂, chosen, rfl, hgreeted, hasked, hreply⟩
        · obtain ⟨err', hreq'⟩ := (requestAttach_alike serde busid).exec_error hreq
          refine .of_errors (fun _ => exec_failing hreq _) (fun _ => exec_failing hreq' _) rfl rfl
            ⟨hhello, ?_, ?_⟩
          · rintro b i rest₂ ⟨_, e₁, e₂, chosen, ⟨⟩, -, hasked, -⟩
            exact absurd hasked (hnone e₁ _ chosen rfl)
          · rintro info rest₂ ⟨_, e₁, e₂, chosen, ⟨⟩, -, hasked, -⟩
            exact absurd hasked (hnone e₁ _ chosen rfl)
      exact .bind hx (hrecv.exec_ok hx) hrequest
    · exact .congr (ungreeted_compared serde busid drive desk hlist hfits hin rfl hmsg hgreeted)
        (iff_of_false id fun h => hgreeted (h.hello e rest rfl msg hmsg))
  · refine .of_errors (fun _ => exec_failing hx _)
      (fun _ => exec_failing (hrecv.exec_error hx).choose_spec _) rfl rfl ⟨?_, ?_, ?_⟩
    · exact fun e rest hes msg hmsg => absurd hmsg (hnone e rest msg hes)
    · rintro b i rest ⟨e, _, _, _, hes, ⟨_, _, _, hmsg⟩, -⟩
      exact absurd hmsg (hnone e _ _ hes)
    · rintro info rest ⟨e, _, _, _, hes, ⟨_, _, _, hmsg⟩, -⟩
      exact absurd hmsg (hnone e _ _ hes)

end Sessions

/-! ### The receivers -/

section Receivers

variable {serde : Serde} {clientName : String} (busid : Option String) (drive : Option UInt32)
  (desk : Desk)

/-- A receiver after its HELLO. -/
theorem exec_after_hello {p : Act simulatedSig (Stop (Fault UsbipReceiveError)) Unit}
    {q : Act simulatedSig (Fault UsbipReceiveError) Unit} {io : Io Trail} {o : List UInt8}
    (h : exec desk.env q io = (.ok (), { io with output := io.output ++ o })) (hout : io.output = [])
    {x : Ending} (hx : exec desk.env p io = x) :
    exec desk.env (mapErr .failed q >>= fun _ => p) io = (x.1, x.2.behind o) := by
  have hbehind : { io with output := io.output ++ o } = io.behind o := by
    rw [Io.behind, hout, List.append_nil, List.nil_append]
  rw [hbehind] at h
  rw [exec_bind_ok (exec_mapErr_ok h _), exec_behind, hx]

/-- The receivers come to an end with enough fuel, and are then alike exactly if none of the three
differences shows. -/
theorem receivers_compared (hfits : GreetingFits serde clientName) {es : List Envelope}
    (hes : ∀ e ∈ es, e.Fits) :
    ∃ x y : Ending, (∀ fuel, (es.flatMap Envelope.bytes).length < fuel →
        exec desk.env (runUsbipReceive serde clientName busid drive fuel)
            { input := es.flatMap Envelope.bytes, env := {} } = x ∧
          exec desk.env (runUsbipReceiveTls serde busid drive fuel)
            { input := es.flatMap Envelope.bytes, env := {} } = y) ∧
      x.1 ≠ .error .ranOut ∧ y.1 ≠ .error .ranOut ∧
      (EndAlike ((usbipHello clientName).envelope serde.control).bytes.length
        (tlsUsbipHello.envelope serde.control).bytes.length x y ↔
        AlikeWhen serde busid drive desk es) := by
  obtain ⟨x, y, hruns, hran, hran', hiff⟩ := session_compared serde busid drive desk hfits.list hes
    (show ({ input := es.flatMap Envelope.bytes, env := {} } : Io Trail).input = _ from rfl) rfl
  have hhello := exec_mapErr_ok (exec_sendControlWith desk.env serde.control "writing envelope"
    hfits.hello { input := es.flatMap Envelope.bytes, env := {} })
    (Fault.map UsbipReceiveError.control)
  have htls := exec_mapErr_ok (exec_sendControlWith desk.env serde.control "writing TLS envelope"
    hfits.tlsHello { input := es.flatMap Envelope.bytes, env := {} })
    (Fault.map UsbipReceiveError.control)
  refine ⟨(x.1, x.2.behind _), (y.1, y.2.behind _), fun fuel hfuel => ?_, hran, hran',
    (endAlike_behind _ _).trans hiff⟩
  obtain ⟨hx, hy⟩ := hruns fuel hfuel
  rw [runUsbipReceive_eq, runUsbipReceiveTls_eq]
  exact ⟨exec_after_hello desk hhello rfl hx, exec_after_hello desk htls rfl hy⟩

variable {busid drive desk}

/-- Where the two receivers are alike, none of the differences shows. -/
theorem ReceivedAlike.alikeWhen (hfits : GreetingFits serde clientName) {es : List Envelope}
    (hes : ∀ e ∈ es, e.Fits) (h : ReceivedAlike serde clientName busid drive desk es) :
    AlikeWhen serde busid drive desk es := by
  obtain ⟨x, y, hruns, -, -, hiff⟩ := receivers_compared busid drive desk hfits hes
  obtain ⟨x', y', hruns', -, -, halike⟩ := h
  -- there is only one way in which each of them ends
  obtain ⟨hx, hy⟩ := hruns _ (Nat.lt_succ_self _)
  obtain ⟨hx', hy'⟩ := hruns' _ (Nat.lt_succ_self _)
  rw [← hx', ← hy', hx, hy] at halike
  exact hiff.1 halike

end Receivers

/-- **Exactly when the two receivers are alike.** -/
theorem received_alike_iff {serde : Serde} {clientName : String} (busid : Option String)
    (drive : Option UInt32) (desk : Desk) (hfits : GreetingFits serde clientName)
    {es : List Envelope} (hes : ∀ e ∈ es, e.Fits) :
    ReceivedAlike serde clientName busid drive desk es ↔ AlikeWhen serde busid drive desk es := by
  obtain ⟨x, y, hruns, hran, hran', hiff⟩ := receivers_compared busid drive desk hfits hes
  exact ⟨ReceivedAlike.alikeWhen hfits hes, fun h => ⟨x, y, hruns, hran, hran', hiff.2 h⟩⟩

/-! ### A memory stick -/

/-- A memory stick, and what attaches it. -/
def stick : DeviceSummary := ⟨"1-2", 0x046D, 0xC52B, none, some "Stick", none, 8, 6, 0x50, false⟩
def stickInfo : AttachInfo := ⟨⟨"1-2", 7, 0x10002, 3⟩, 0x046D, 0xC52B, none⟩

/-- A `serde_json` that knows the messages of a session with it. -/
def stickSerde : Serde where
  control :=
    { toVec := SerdeJson.controlText
      fromSlice := fun bs =>
        [.helloAck "1" "Pixel" [], .deviceList [stick], .attachOkUsbip stickInfo,
          .error "busy" "in use"].find? fun msg => SerdeJson.controlText msg = bs }
  bindRequest := .table []
  bindAckMeta := .table []

theorem stickSerde_fits : GreetingFits stickSerde "zerowire-cli/0.2.0" :=
  ⟨by decide +kernel, by decide +kernel, by decide +kernel⟩

/-- A flag that is never raised, and a transcript that can always be opened. -/
def quietDesk : Desk := ⟨fun _ => false, fun _ => true⟩

/-- The sender lets the receivers attach the stick, sends two frames and a HID envelope between
them, and takes it back. -/
def stickSaid : List Envelope :=
  [(ControlMessage.helloAck "1" "Pixel" []).envelope stickSerde.control,
    (ControlMessage.deviceList [stick]).envelope stickSerde.control,
    (ControlMessage.attachOkUsbip stickInfo).envelope stickSerde.control,
    ⟨.usbip, (UsbipFrame.mk 7 (List.replicate 48 0)).encode⟩, ⟨.hid, []⟩,
    ⟨.usbip, (UsbipFrame.mk 7 (List.replicate 64 0)).encode⟩,
    (ControlMessage.error "busy" "in use").envelope stickSerde.control]

theorem stickSaid_fits : ∀ e ∈ stickSaid, e.Fits :=
  List.forall_iff_forall_mem.1 (by decide +kernel)

/-- **Both relay the frames of the stick alike**: the ERROR is the last thing that is said. -/
theorem received_alike_stick :
    ReceivedAlike stickSerde "zerowire-cli/0.2.0" none none quietDesk stickSaid := by
  have hack : controlOf stickSerde.control stickSaid[0] = .ok (.helloAck "1" "Pixel" []) := by
    decide +kernel
  have hattached : controlOf stickSerde.control stickSaid[2] = .ok (.attachOkUsbip stickInfo) := by
    decide +kernel
  refine (received_alike_iff none none quietDesk stickSerde_fits stickSaid_fits).2 ⟨?_, ?_, ?_⟩
  · rintro e rest hes msg -
    obtain ⟨rfl, -⟩ := List.cons.inj hes
    exact ⟨_, _, _, hack⟩
  · rintro b i rest ⟨e₀, e₁, e₂, chosen, hes, -, -, hreply⟩
    have he₂ : stickSaid[2] = e₂ := by simp only [hes, List.getElem_cons_succ, List.getElem_cons_zero]
    rw [← he₂, hattached] at hreply
    cases hreply
  · rintro info rest ⟨e₀, e₁, e₂, chosen, hes, -⟩ - -
    have hrest : stickSaid.drop 3 = rest := by rw [hes]; rfl
    rw [← hrest]
    decide +kernel

/-- **A sender that answers HELLO with an ERROR**: the first receiver gives up, and the second one
goes on. -/
theorem refused_not_alike :
    ¬ ReceivedAlike stickSerde "zerowire-cli/0.2.0" none none quietDesk
      [(ControlMessage.error "busy" "in use").envelope stickSerde.control] := by
  have hes : ∀ e ∈ [(ControlMessage.error "busy" "in use").envelope stickSerde.control], e.Fits := by
    intro e he
    rw [List.mem_singleton.1 he]
    decide +kernel
  intro halike
  have hmsg : controlOf stickSerde.control
      ((ControlMessage.error "busy" "in use").envelope stickSerde.control) =
        .ok (.error "busy" "in use") := by decide +kernel
  obtain ⟨senderId, name, supports, hack⟩ :=
    (halike.alikeWhen stickSerde_fits hes).hello _ _ rfl _ hmsg
  rw [hmsg] at hack
  cases hack

end Zerowire

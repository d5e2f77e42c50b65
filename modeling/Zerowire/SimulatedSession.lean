/-
**A whole session of the simulated USB/IP receiver** (`desktop-linux/src/usbip_receiver.rs`,
`run_usbip_receive`).

The transcript of a session begins with the attachment and ends with the line of `Drop`.  Between the
two there are the lines of the frames that have come, or those of the driver.  Of the stream, the
relaying loop takes a first part, and it notes each of the frames in it; what comes behind that part
says why the loop ends there.

Main definitions:

* `Zerowire.GoesOn`, `Zerowire.RelayEnd`, `Zerowire.Relayed` — which part of the stream a relaying loop
  takes, and why it ends there;
* `Zerowire.NotedScript` — the lines of a driver that has succeeded.

Main results:

* `Zerowire.exec_relayRounds` — **what the relaying loop notes**;
* `Zerowire.exec_runScript_ok` — **what a driver that succeeds has noted**, whatever it was sent;
* `Zerowire.runUsbipReceive_transcript` — **what is in the transcript after any session**;
* `Zerowire.inquires_negotiate` — the receiver leads the handshake.
-/

import Zerowire.DriverReplies
import Zerowire.Handshakes
import Zerowire.UsbipCompared

set_option relaxedAutoImplicit false
set_option autoImplicit false

namespace Zerowire

open Bytes Program

variable {τ : Type}

/-! ### What is noted of an attachment -/

/-- The line of the frame with the given number. -/
def SimulatedAttach.frameLine (sim : SimulatedAttach) (f : UsbipFrame) (n : ℕ) : String :=
  sim.urbLine f.importId (UInt32.ofNat n) f.raw.length

/-- The lines of some frames, the first of them with the number after `n`. -/
def SimulatedAttach.frameLines (sim : SimulatedAttach) (n : ℕ)
    (fs : List UsbipFrame) : List String :=
  (fs.zipIdx (n + 1)).map fun f => sim.frameLine f.1 f.2

/-- The USB/IP frame of an envelope. -/
def usbipFrameOf (e : Envelope) : Option UsbipFrame :=
  if e.channel = .usbip then (UsbipFrame.parse e.payload).toOption else none

section Transcript

variable (serde : Serde) (desk : Desk)

/-- **A relaying loop goes on behind these envelopes**: the flag is not up at any of them, none is a
USB/IP frame that is too short or cannot be noted, and none is a control ERROR.  The flag has been
looked at `polls` times before, and the transcript been opened `opened` times. -/
structure GoesOn (polls opened : ℕ) (taken : List Envelope) : Prop where
  going : ∀ i < taken.length, desk.stop (polls + i) = false
  long : ∀ e ∈ taken, e.channel = .usbip → 4 ≤ e.payload.length
  noted : ∀ i < (taken.filterMap usbipFrameOf).length, desk.opens (opened + i) = true
  quiet : ∀ e ∈ taken, isError serde.control e = false

/-- **Why a relaying loop ends in front of these envelopes**, and how. -/
inductive RelayEnd (polls opened : ℕ) :
    List Envelope → Except (Stop (Fault UsbipReceiveError)) Unit → Prop
  /-- The stream is at its end. -/
  | over (hgoing : desk.stop polls = false) : RelayEnd polls opened [] (.ok ())
  /-- The flag is up. -/
  | stopped {left : List Envelope} (hstop : desk.stop polls = true) :
      RelayEnd polls opened left (.ok ())
  /-- The sender takes the device back. -/
  | refused {e : Envelope} {left : List Envelope} (hgoing : desk.stop polls = false)
      (herror : isError serde.control e = true) : RelayEnd polls opened (e :: left) (.ok ())
  /-- A frame is too short, or cannot be noted. -/
  | failed {e : Envelope} {left : List Envelope} (err : Fault UsbipReceiveError)
      (hgoing : desk.stop polls = false) (hchan : e.channel = .usbip)
      (hwhy : e.payload.length < 4 ∨ desk.opens opened = false) :
      RelayEnd polls opened (e :: left) (.error (.failed err))

/-- **What a relaying loop makes of the envelopes in front of it**: it notes the frames of a first
part of them, all of these, and then it ends. -/
def Relayed (polls opened : ℕ) (es : List Envelope) (fs : List UsbipFrame)
    (r : Except (Stop (Fault UsbipReceiveError)) Unit) : Prop :=
  ∃ taken left, es = taken ++ left ∧ fs = taken.filterMap usbipFrameOf ∧
    GoesOn serde desk polls opened taken ∧
      RelayEnd serde desk (polls + taken.length) (opened + fs.length) left r

/-- **Nothing ends a relaying loop in front of one of these envelopes.** -/
structure Undisturbed (es : List Envelope) : Prop where
  never : ∀ k, desk.stop k = false
  opens : ∀ k, desk.opens k = true
  long : ∀ e ∈ es, e.channel = .usbip → 4 ≤ e.payload.length
  noError : ∀ e ∈ es, isError serde.control e = false

section Relaying

variable {serde desk} {polls opened : ℕ} {e : Envelope} {es : List Envelope} {fs : List UsbipFrame}
  {r : Except (Stop (Fault UsbipReceiveError)) Unit}

theorem Relayed.of_end (h : RelayEnd serde desk polls opened es r) :
    Relayed serde desk polls opened es [] r :=
  ⟨[], es, rfl, rfl, ⟨nofun, nofun, nofun, nofun⟩, h⟩

/-- Behind one more envelope. -/
theorem GoesOn.cons {opened' : ℕ} (hstop : desk.stop polls = false)
    (hlong : e.channel = .usbip → 4 ≤ e.payload.length) (herror : isError serde.control e = false)
    (hnoted : ∀ i < ((e :: es).filterMap usbipFrameOf).length, desk.opens (opened + i) = true)
    (h : GoesOn serde desk (polls + 1) opened' es) : GoesOn serde desk polls opened (e :: es) where
  going
    | 0, _ => hstop
    | i + 1, hi => by
        have hgoing := h.going i (by rw [List.length_cons] at hi; omega)
        rwa [Nat.add_right_comm, Nat.add_assoc] at hgoing
  long e' he' := by
    rcases List.mem_cons.1 he' with rfl | he'
    · exact hlong
    · exact h.long e' he'
  noted := hnoted
  quiet e' he' := by
    rcases List.mem_cons.1 he' with rfl | he'
    · exact herror
    · exact h.quiet e' he'

/-- A frame that is noted. -/
theorem Relayed.noted {f : UsbipFrame} (hstop : desk.stop polls = false)
    (hf : usbipFrameOf e = some f) (hlong : 4 ≤ e.payload.length) (hopen : desk.opens opened = true)
    (herror : isError serde.control e = false)
    (h : Relayed serde desk (polls + 1) (opened + 1) es fs r) :
    Relayed serde desk polls opened (e :: es) (f :: fs) r := by
  obtain ⟨taken, left, rfl, rfl, hgoes, hend⟩ := h
  rw [Nat.add_right_comm, Nat.add_assoc, Nat.add_right_comm opened, Nat.add_assoc opened] at hend
  refine ⟨e :: taken, left, rfl, (List.filterMap_cons_some hf).symm, ?_, hend⟩
  refine .cons hstop (fun _ => hlong) herror ?_ hgoes
  rw [List.filterMap_cons_some hf]
  rintro (_ | i) hi
  · exact hopen
  · have hnoted := hgoes.noted i (by rw [List.length_cons] at hi; omega)
    rwa [Nat.add_right_comm, Nat.add_assoc] at hnoted

/-- An envelope that is skipped. -/
theorem Relayed.skipped (hstop : desk.stop polls = false) (hchan : e.channel ≠ .usbip)
    (herror : isError serde.control e = false) (h : Relayed serde desk (polls + 1) opened es fs r) :
    Relayed serde desk polls opened (e :: es) fs r := by
  obtain ⟨taken, left, rfl, rfl, hgoes, hend⟩ := h
  have hnone : usbipFrameOf e = none := if_neg hchan
  rw [Nat.add_right_comm, Nat.add_assoc] at hend
  refine ⟨e :: taken, left, rfl, (List.filterMap_cons_none hnone).symm, ?_, hend⟩
  refine .cons hstop (fun h => absurd h hchan) herror ?_ hgoes
  rw [List.filterMap_cons_none hnone]
  exact hgoes.noted

/-- The loop does not end in front of one of them. -/
theorem Undisturbed.not_relayEnd (h : Undisturbed serde desk es) (he : e ∈ es) {left : List Envelope} :
    ¬ RelayEnd serde desk polls opened (e :: left) r := by
  intro hend
  cases hend with
  | stopped hstop =>
      rw [h.never] at hstop
      cases hstop
  | refused _ herror =>
      rw [h.noError e he] at herror
      cases herror
  | failed _ _ hchan hwhy =>
      rcases hwhy with hshort | hclosed
      · exact absurd (h.long e he hchan) (Nat.not_le.2 hshort)
      · rw [h.opens] at hclosed
        cases hclosed

/-- Where nothing ends the loop, every frame is noted. -/
theorem Relayed.all (h : Relayed serde desk polls opened es fs r) (hquiet : Undisturbed serde desk es) :
    r = .ok () ∧ fs = es.filterMap usbipFrameOf := by
  obtain ⟨taken, left, rfl, rfl, -, hend⟩ := h
  rcases left with _ | ⟨e, left⟩
  · cases hend
    · exact ⟨rfl, by rw [List.append_nil]⟩
    · exact ⟨rfl, by rw [List.append_nil]⟩
  · exact absurd hend (hquiet.not_relayEnd (List.mem_append_right _ List.mem_cons_self))

/-- Where a control ERROR does, every frame in front of it is. -/
theorem Relayed.until_error {rest : List Envelope}
    (h : Relayed serde desk polls opened (es ++ e :: rest) fs r) (hquiet : Undisturbed serde desk es)
    (herror : isError serde.control e = true) : fs = es.filterMap usbipFrameOf := by
  obtain ⟨taken, left, hes, rfl, hgoes, hend⟩ := h
  rcases List.append_eq_append_iff.1 hes with ⟨more, rfl, hleft⟩ | ⟨more, rfl, hleft⟩
  · -- the loop does not go on behind the ERROR
    rcases more with _ | ⟨e', more⟩
    · rw [List.append_nil]
    · obtain ⟨rfl, -⟩ := List.cons.inj hleft
      have hno := hgoes.quiet e (List.mem_append_right _ List.mem_cons_self)
      rw [herror] at hno
      cases hno
  · rcases more with _ | ⟨e', more⟩
    · rw [List.append_nil]
    · rw [hleft] at hend
      exact absurd hend (hquiet.not_relayEnd (List.mem_append_right _ List.mem_cons_self))

end Relaying

/-- A frame is noted. -/
theorem exec_relayFrame_next {e : Envelope} {f : UsbipFrame}
    (hparse : UsbipFrame.parse e.payload = .ok f) {io : Io Trail}
    (hopen : desk.opens io.env.opened = true) (sim : SimulatedAttach) (n : ℕ) :
    exec desk.env (relayFrame ⟨sim, UInt32.ofNat n⟩ e) io =
      (.ok (.inl ⟨sim, UInt32.ofNat (n + 1)⟩), { io with env := { io.env with
        opened := io.env.opened + 1
        transcript := io.env.transcript ++ [sim.frameLine f (n + 1)] } }) := by
  have hnext : UInt32.ofNat n + 1 = UInt32.ofNat (n + 1) := (UInt32.ofNat_add n 1).symm
  rw [exec_relayFrame desk hparse _ hopen]
  simp only [hnext]
  rfl

/-- **What one round of the relaying loop comes to.**  Either it ends the loop, or it takes an
envelope off the stream, and notes its frame if it has one. -/
inductive RelayRound (n : ℕ) (sim : SimulatedAttach) (io : Io Trail) :
    Except (Fault UsbipReceiveError) (Relay ⊕ Unit) → Io Trail → Prop
  | ended {io' : Io Trail}
      (hend : RelayEnd serde desk io.env.polls io.env.opened
        (StreamCodec.frames Envelope.parse io.input) (.ok ()))
      (houtput : io'.output = io.output) (hlines : io'.env.transcript = io.env.transcript) :
      RelayRound n sim io (.ok (.inr ())) io'
  | failed {io' : Io Trail} {err : Fault UsbipReceiveError}
      (hend : RelayEnd serde desk io.env.polls io.env.opened
        (StreamCodec.frames Envelope.parse io.input) (.error (.failed err)))
      (houtput : io'.output = io.output) (hlines : io'.env.transcript = io.env.transcript) :
      RelayRound n sim io (.error err) io'
  | noted {e : Envelope} {f : UsbipFrame} {io' : Io Trail} (hstop : desk.stop io.env.polls = false)
      (hframes : StreamCodec.frames Envelope.parse io.input =
        e :: StreamCodec.frames Envelope.parse io'.input)
      (hlt : io'.input.length < io.input.length) (hf : usbipFrameOf e = some f)
      (hlong : 4 ≤ e.payload.length) (hopen : desk.opens io.env.opened = true)
      (herror : isError serde.control e = false) (houtput : io'.output = io.output)
      (henv : io'.env = ⟨io.env.polls + 1, io.env.opened + 1,
        io.env.transcript ++ [sim.frameLine f (n + 1)]⟩) :
      RelayRound n sim io (.ok (.inl ⟨sim, UInt32.ofNat (n + 1)⟩)) io'
  | skipped {e : Envelope} {io' : Io Trail} (hstop : desk.stop io.env.polls = false)
      (hframes : StreamCodec.frames Envelope.parse io.input =
        e :: StreamCodec.frames Envelope.parse io'.input)
      (hlt : io'.input.length < io.input.length) (hchan : e.channel ≠ .usbip)
      (herror : isError serde.control e = false) (houtput : io'.output = io.output)
      (henv : io'.env = { io.env with polls := io.env.polls + 1 }) :
      RelayRound n sim io (.ok (.inl ⟨sim, UInt32.ofNat n⟩)) io'

/-- A USB/IP envelope is no control ERROR. -/
theorem isError_usbip {e : Envelope} (h : e.channel = .usbip) : isError serde.control e = false := by
  rw [isError, h]

/-- One round does one of these. -/
theorem exec_relayRound (n : ℕ) (sim : SimulatedAttach) (io : Io Trail) :
    ∃ r io', exec desk.env (pollingRound Wire.recvEnvelope (simulatedEnvelope serde)
      ⟨sim, UInt32.ofNat n⟩) io = (r, io') ∧ RelayRound serde desk n sim io r io' := by
  rcases hstop : desk.stop io.env.polls with _ | _
  swap
  · have hround := exec_pollingRound_stopped desk "reading envelope header"
      "reading envelope payload" (simulatedEnvelope serde) hstop ⟨sim, UInt32.ofNat n⟩
    exact ⟨_, _, hround, .ended (.stopped hstop) rfl rfl⟩
  have hreading := exec_pollingRound_reading desk "reading envelope header"
    "reading envelope payload" (simulatedEnvelope serde) hstop ⟨sim, UInt32.ofNat n⟩
  let io₁ : Io Trail := { io with env := { io.env with polls := io.env.polls + 1 } }
  by_cases hparse : ∃ r, Envelope.parse io.input = .ok (some r)
  swap
  · have hno : ∀ r, Envelope.parse io.input ≠ .ok (some r) := fun r h => hparse ⟨r, h⟩
    obtain ⟨err, rest, hrecv⟩ := exec_recvEnvelopeWith_of_not_parse desk.env "reading envelope header"
      "reading envelope payload" (s := io₁) hno
    refine ⟨_, _, hreading.trans (exec_bind_ok (exec_catchErr_err hrecv)), .ended ?_ rfl rfl⟩
    rw [StreamCodec.frames_eq_nil Envelope.codec.toStable hno]
    exact .over hstop
  obtain ⟨⟨e, m⟩, hparse⟩ := hparse
  have hframes := StreamCodec.frames_eq_cons Envelope.codec.toStable hparse
  have hrecv := exec_recvEnvelopeWith_of_parse desk.env "reading envelope header"
    "reading envelope payload" (s := io₁) hparse
  have hpos := Envelope.codec.pos hparse
  have hle := Envelope.codec.le hparse
  let io₂ : Io Trail := { io₁ with input := io.input.drop m }
  have hlt : io₂.input.length < io.input.length := by
    change (io.input.drop m).length < io.input.length
    rw [List.length_drop]
    omega
  have hround : exec desk.env (pollingRound Wire.recvEnvelope (simulatedEnvelope serde)
      ⟨sim, UInt32.ofNat n⟩) io = exec desk.env (simulatedEnvelope serde ⟨sim, UInt32.ofNat n⟩ e) io₂ :=
    hreading.trans (exec_bind_ok (exec_catchErr_ok hrecv))
  rw [hround]
  by_cases hchan : e.channel = .usbip
  · rw [simulatedEnvelope_usbip serde hchan]
    by_cases hshort : e.payload.length < 4
    · obtain ⟨err, hfails⟩ := exec_relayFrame_short desk hshort ⟨sim, UInt32.ofNat n⟩ io₂
      refine ⟨_, _, hfails, .failed ?_ rfl rfl⟩
      rw [hframes]
      exact .failed _ hstop hchan (.inl hshort)
    · rcases hopen : desk.opens io.env.opened with _ | _
      · obtain ⟨err, hfails⟩ := exec_relayFrame_closed desk hshort ⟨sim, UInt32.ofNat n⟩
          (show desk.opens io₂.env.opened = false from hopen)
        refine ⟨_, _, hfails, .failed ?_ rfl rfl⟩
        rw [hframes]
        exact .failed _ hstop hchan (.inr hopen)
      · obtain ⟨f, hf⟩ : ∃ f, UsbipFrame.parse e.payload = .ok f := by
          rw [UsbipFrame.parse_eq, if_neg hshort]
          exact ⟨_, rfl⟩
        have hframe : usbipFrameOf e = some f := by
          rw [usbipFrameOf, if_pos hchan, hf]
          rfl
        exact ⟨_, _, exec_relayFrame_next desk hf (show desk.opens io₂.env.opened = true from hopen) sim n,
          .noted hstop hframes hlt hframe (Nat.le_of_not_lt hshort) hopen (isError_usbip serde hchan)
            rfl rfl⟩
  · rcases herror : isError serde.control e with _ | _
    · rw [simulatedEnvelope_other serde hchan (by rw [herror]; exact Bool.false_ne_true)]
      exact ⟨_, _, rfl, .skipped hstop hframes hlt hchan herror rfl rfl⟩
    · rw [simulatedEnvelope_error serde herror]
      refine ⟨_, _, rfl, .ended ?_ rfl rfl⟩
      rw [hframes]
      exact .refused hstop herror

/-- **What the relaying loop notes**: one line for each frame that it takes off the stream, one
number after the other. -/
theorem exec_relayRounds (fuel n : ℕ) (sim : SimulatedAttach) {io : Io Trail}
    (hfuel : io.input.length < fuel) :
    ∃ r io' fs, exec desk.env (relayRounds serde fuel ⟨sim, UInt32.ofNat n⟩) io = (r, io') ∧
      r ≠ .error .ranOut ∧ io'.output = io.output ∧
      io'.env.transcript = io.env.transcript ++ sim.frameLines n fs ∧
      Relayed serde desk io.env.polls io.env.opened
        (StreamCodec.frames Envelope.parse io.input) fs r := by
  -- on the fuel; a round after which the loop goes on has taken an envelope off the stream
  induction fuel generalizing n io with
  | zero => omega
  | succ fuel ih =>
      obtain ⟨r, io₁, hround, hcases⟩ := exec_relayRound serde desk n sim io
      cases hcases with
      | ended hend houtput hlines =>
          exact ⟨_, _, [], exec_unroll_inr hround, nofun, houtput,
            hlines.trans (List.append_nil _).symm, .of_end hend⟩
      | failed hend houtput hlines =>
          exact ⟨_, _, [], exec_unroll_error hround, nofun, houtput,
            hlines.trans (List.append_nil _).symm, .of_end hend⟩
      | @noted e f _ hstop hframes hlt hf hlong hopen herror houtput henv =>
          obtain ⟨r, io', fs, hloop, hran, hout, htranscript, hrelayed⟩ :=
            ih (n + 1) (show io₁.input.length < fuel by omega)
          rw [henv] at htranscript hrelayed
          refine ⟨r, io', f :: fs, (exec_unroll_inl hround).trans hloop, hran, hout.trans houtput, ?_,
            ?_⟩
          · rw [htranscript, List.append_assoc]
            rfl
          · rw [hframes]
            exact hrelayed.noted hstop hf hlong hopen herror
      | @skipped e _ hstop hframes hlt hchan herror houtput henv =>
          obtain ⟨r, io', fs, hloop, hran, hout, htranscript, hrelayed⟩ :=
            ih n (show io₁.input.length < fuel by omega)
          rw [henv] at htranscript hrelayed
          refine ⟨r, io', fs, (exec_unroll_inl hround).trans hloop, hran, hout.trans houtput,
            htranscript, ?_⟩
          rw [hframes]
          exact hrelayed.skipped hstop hchan herror

/-- **What `run_simulated` notes**, on any stream, whenever the flag goes up and whether or not the
transcript can be opened: the attachment, one line for each frame that the loop takes, and at last
that the device is detached, also where it fails. -/
theorem exec_runSimulated (info : AttachInfo) {io : Io Trail}
    (hopen : desk.opens io.env.opened = true) {fuel : ℕ} (hfuel : io.input.length < fuel) :
    ∃ r io' fs t, exec desk.env (runSimulated serde info fuel) io = (r, io') ∧
      r ≠ .error .ranOut ∧ io'.env = desk.detached (attachmentOf info) t ∧
      t.transcript = io.env.transcript ++ attachLines info ++ (attachmentOf info).frameLines 0 fs ∧
      Relayed serde desk io.env.polls (io.env.opened + 1)
        (StreamCodec.frames Envelope.parse io.input) fs r := by
  let io₁ : Io Trail := { io with env := { io.env with
    opened := io.env.opened + 1
    transcript := io.env.transcript ++ attachLines info } }
  obtain ⟨r, io₂, fs, hloop, hran, -, hlines, hrelayed⟩ :=
    exec_relayRounds serde desk fuel 0 (attachmentOf info) (show io₁.input.length < fuel from hfuel)
  have hrun : exec desk.env (runSimulated serde info fuel) io = _ :=
    (exec_bind_ok (exec_mapErr_ok (exec_create desk hopen info) _)).trans (exec_scope desk hloop hran _)
  exact ⟨r, _, fs, io₂.env, hrun, hran, rfl, hlines, hrelayed⟩

/-- A transcript is only written to at its end. -/
theorem transcript_prefix {α : Type} (p : Prog simulatedSig α) (io : Io Trail) :
    io.env.transcript <+: (p.run desk.env io).2.env.transcript := by
  induction p generalizing io with
  | ret a => exact List.prefix_rfl
  | readExact n k ih =>
      rw [Prog.run]
      split_ifs
      · exact ih (some (io.input.take n)) { io with input := io.input.drop n }
      · exact ih none { io with input := [] }
  | read n k ih =>
      rw [Prog.run]
      split_ifs
      · exact ih none io
      · exact ih (some (io.input.take (pieceSize io.chunks n)))
          { io with input := io.input.drop (pieceSize io.chunks n), chunks := io.chunks.tail }
  | writeAll bs k ih => exact ih true { io with output := io.output ++ bs }
  | call o k ih =>
      refine List.IsPrefix.trans ?_ (ih (desk.env o io.env).1 { io with env := (desk.env o io.env).2 })
      cases o with
      | stopped => exact List.prefix_rfl
      | createDirAll => exact List.prefix_rfl
      | openAppend create => exact List.prefix_rfl
      | writeln line => exact List.prefix_append _ _

/-- A control message is received, or there is none to be received. -/
theorem usbipReply_cases (io : Io Trail) :
    (∃ e n msg, Envelope.parse io.input = .ok (some (e, n)) ∧ e.channel = .control ∧
      exec desk.env (usbipReply serde) io = (.ok msg, { io with input := io.input.drop n })) ∨
    ∃ err rest, exec desk.env (usbipReply serde) io = (.error err, { io with input := rest }) := by
  by_cases hparse : ∃ r, Envelope.parse io.input = .ok (some r)
  · obtain ⟨⟨e, n⟩, hparse⟩ := hparse
    have hrecv := exec_mapErr_ok (exec_recvEnvelopeWith_of_parse desk.env "reading envelope header"
      "reading envelope payload" hparse) (Fault.map ControlError.recv)
    rcases hmsg : controlOf serde.control e with err | msg
    · have hfails : exec desk.env (Wire.recvControl serde.control : Act simulatedSig _ ControlMessage) io =
          (.error err, { io with input := io.input.drop n }) := by
        refine (exec_bind_ok hrecv).trans ?_
        rw [hmsg]
        rfl
      exact .inr ⟨_, _, exec_mapErr_error hfails _⟩
    · have hchan : e.channel = .control := by
        rw [controlOf] at hmsg
        split at hmsg
        · assumption
        · cases hmsg
      have hworks : exec desk.env (Wire.recvControl serde.control : Act simulatedSig _ ControlMessage) io =
          (.ok msg, { io with input := io.input.drop n }) := by
        refine (exec_bind_ok hrecv).trans ?_
        rw [hmsg]
        rfl
      exact .inl ⟨e, n, msg, hparse, hchan, exec_mapErr_ok hworks _⟩
  · obtain ⟨err, rest, hrecv⟩ :=
      exec_recvEnvelopeWith_of_not_parse desk.env "reading envelope header"
      "reading envelope payload" fun r hr => hparse ⟨r, hr⟩
    have hfails : exec desk.env (Wire.recvControl serde.control : Act simulatedSig _ ControlMessage) io =
        (.error (Fault.map .recv (.err err)), { io with input := rest }) :=
      exec_bind_error (exec_mapErr_error hrecv _)
    exact .inr ⟨_, rest, exec_mapErr_error hfails _⟩

/-- **A program notes nothing**, and unless it fails it takes so many control envelopes off the
stream, and nothing else. -/
structure Unnoted {ε α : Type} (n : ℕ) (p : Act simulatedSig ε α) : Prop where
  env : ∀ io, (exec desk.env p io).2.env = io.env
  said : ∀ io a io', exec desk.env p io = (.ok a, io') →
    ∃ said, said.length = n ∧ (∀ e ∈ said, e.channel = .control) ∧
      StreamCodec.frames Envelope.parse io.input = said ++ StreamCodec.frames Envelope.parse io'.input

namespace Unnoted

variable {ε α β : Type} {n m : ℕ} {p : Act simulatedSig ε α} {f : α → Act simulatedSig ε β}

theorem bind (hp : Unnoted desk n p) (hf : ∀ a, Unnoted desk m (f a)) :
    Unnoted desk (n + m) (p >>= f) where
  env io := by
    have henv := hp.env io
    rcases h : exec desk.env p io with ⟨e | a, io'⟩
    · rw [h] at henv
      rw [exec_bind_error h]
      exact henv
    · rw [h] at henv
      rw [exec_bind_ok h, (hf a).env io']
      exact henv
  said io b io' h := by
    rcases hx : exec desk.env p io with ⟨e | a, io₁⟩
    · rw [exec_bind_error hx] at h
      cases h
    · rw [exec_bind_ok hx] at h
      obtain ⟨first, hlength, hchan, hframes⟩ := hp.said io a io₁ hx
      obtain ⟨second, hlength', hchan', hframes'⟩ := (hf a).said io₁ b io' h
      refine ⟨first ++ second, by rw [List.length_append, hlength, hlength'],
        List.forall_mem_append.2 ⟨hchan, hchan'⟩, ?_⟩
      rw [hframes, hframes', List.append_assoc]

theorem ofResult (r : Except ε α) : Unnoted desk 0 (ofResult r : Act simulatedSig ε α) where
  env io := by cases r <;> rfl
  said io a io' h := by
    cases r with
    | error e => cases h
    | ok a =>
        cases h
        exact ⟨[], rfl, nofun, rfl⟩

theorem send (msg : ControlMessage) :
    Unnoted desk 0 (mapErr (Fault.map UsbipReceiveError.control)
      (Wire.sendControl serde.control msg)) where
  env io := by
    rcases sendControl_cases serde desk msg io with ⟨-, h⟩ | ⟨-, err, h⟩
    · rw [h]
    · rw [h]
  said io a io' h := by
    rcases sendControl_cases serde desk msg io with ⟨-, h'⟩ | ⟨-, err, h'⟩
    · rw [h'] at h
      cases h
      exact ⟨[], rfl, nofun, rfl⟩
    · rw [h'] at h
      cases h

/-- What is received as a control message is one envelope. -/
theorem reply : Unnoted desk 1 (usbipReply serde) where
  env io := by
    rcases usbipReply_cases serde desk io with ⟨_, _, _, -, -, h⟩ | ⟨_, _, h⟩
    · rw [h]
    · rw [h]
  said io a io' h := by
    rcases usbipReply_cases serde desk io with ⟨e, n, msg, hparse, hchan, h'⟩ | ⟨_, _, h'⟩
    · rw [h'] at h
      cases h
      exact ⟨[e], rfl, List.forall_mem_singleton.2 hchan,
        StreamCodec.frames_eq_cons Envelope.codec.toStable hparse⟩
    · rw [h'] at h
      cases h

end Unnoted

/-- What is negotiated is not noted, and takes three control envelopes. -/
theorem unnoted_negotiate (clientName : String) (busid : Option String) :
    Unnoted desk 3 (negotiate serde clientName busid) := by
  have hsend (msg : ControlMessage) := Unnoted.send serde desk msg
  have hreply := Unnoted.reply serde desk
  have hrequest : Unnoted desk 1 (requestAttach serde busid) :=
    (hsend _).bind desk fun _ => hreply.bind desk fun _ => (Unnoted.ofResult desk _).bind desk fun _ =>
      (Unnoted.ofResult desk _).bind desk fun _ => (hsend _).bind desk fun _ =>
        Unnoted.ofResult desk (.ok _)
  exact (hsend _).bind desk fun _ => hreply.bind desk fun _ => (Unnoted.ofResult desk _).bind desk
    fun _ => hrequest.bind desk fun _ => hreply.bind desk fun _ => Unnoted.ofResult desk _

/-! #### The lines of the driver -/

/-- **The line says that the URB has passed.**  The number in it is the one of the reply, whatever
it was. -/
def ScriptedUrb.Noted (urb : ScriptedUrb) (line : String) : Prop :=
  ∃ (ret : RetSubmit) (bodyLen : UInt32), line = urbLine urb ret bodyLen ∧
    ret.status = urb.expectedStatus ∧ ret.actualLength = urb.expectedActualLength ∧
      (urb.direction = urbDirIn → bodyLen = urb.expectedActualLength)

/-- The line of a RET_UNLINK. -/
def unlinkLine (ret : RetUnlink) : String :=
  "sim-unlink seq=" ++ toString ret.seqnum.toNat ++ " status=" ++ toString ret.status.toInt ++
    " target_seq=" ++ toString finalUnlink.unlinkSeqnum.toNat

/-- The line at the end of `run_script`. -/
def totalsLine (stats : DriverStats) : String :=
  "sim-summary urbs_issued=" ++ toString stats.urbsIssued.toNat ++ " urbs_ok=" ++
    toString stats.urbsOk.toNat ++ " unlinks_issued=" ++ toString stats.unlinksIssued.toNat ++
    " unlinks_ok=" ++ toString stats.unlinksOk.toNat ++ " bytes_returned=" ++
    toString stats.bytesReturned.toNat

/-- **The lines of a driver that has succeeded**: one for each URB of the script, in its order, one
for the unlink, and one with what the script amounts to. -/
def NotedScript (script : List ScriptedUrb) (stats : DriverStats) (lines : List String) : Prop :=
  ∃ (passed : List String) (ret : RetUnlink), List.Forall₂ ScriptedUrb.Noted script passed ∧
    ret.status = 0 ∧ lines = passed ++ [unlinkLine ret, totalsLine stats]

/-- A reply that passes. -/
theorem passed_of_checkReply {urb : ScriptedUrb} {stats stats' : DriverStats} {ret : RetSubmit}
    {bodyLen : UInt32}
    (h : checkReply urb { stats with urbsIssued := stats.urbsIssued + 1 } ret bodyLen = .ok stats') :
    urb.Noted (urbLine urb ret bodyLen) ∧ stats' = stats.passed urb := by
  rw [checkReply] at h
  split_ifs at h with hexpected hin hbody
  · cases h
    refine ⟨⟨ret, bodyLen, rfl, hexpected.1, hexpected.2, fun _ => ?_⟩, ?_⟩
    · rw [← hexpected.2]
      exact not_not.1 hbody
    · rw [DriverStats.passed, if_pos hin, hexpected.2]
  · cases h
    refine ⟨⟨ret, bodyLen, rfl, hexpected.1, hexpected.2, fun h => absurd h hin⟩, ?_⟩
    rw [DriverStats.passed, if_neg hin]

variable (importId : UInt32)

/-- A round of the driver that does not fail. -/
theorem exec_driveUrb_ok {urb : ScriptedUrb} {stats stats' : DriverStats} {io io' : Io Trail}
    (h : exec desk.env (driveUrb importId stats urb) io = (.ok stats', io')) :
    ∃ line, urb.Noted line ∧ stats' = stats.passed urb ∧
      io'.env = { io.env with transcript := io.env.transcript ++ [line] } := by
  by_cases hfails : ¬ Sendable urb ∨ ∀ r, Envelope.parse io.input ≠ .ok (some r)
  · obtain ⟨err, s', hfails⟩ := exec_driveUrb_fails desk importId urb stats hfails
    rw [hfails] at h
    cases h
  · obtain ⟨hsend, hno⟩ := not_or.1 hfails
    obtain ⟨⟨e, n⟩, hparse⟩ := not_forall_not.1 hno
    have hexchange :=
      exec_exchange desk importId ((sendable_iff importId urb).1 (not_not.1 hsend)) hparse
    rw [driveUrb] at h
    split_ifs at hexchange with hchan
    · rw [exec_bind_error hexchange] at h
      cases h
    · rw [exec_bind_ok hexchange] at h
      rcases hreply : submitReply importId e with err | ⟨ret, bodyLen⟩
      · rw [hreply] at h
        cases h
      · rw [hreply, exec_ofResult_ok_bind] at h
        rcases hcheck : checkReply urb { stats with urbsIssued := stats.urbsIssued + 1 } ret bodyLen with
          err | stats₁
        · simp only [hcheck] at h
          cases h
        · simp only [hcheck] at h
          cases h
          obtain ⟨hnoted, hpassed⟩ := passed_of_checkReply hcheck
          exact ⟨_, hnoted, hpassed, rfl⟩

/-- An unlink that does not fail. -/
theorem exec_driveUnlink_ok {stats stats' : DriverStats} {io io' : Io Trail}
    (h : exec desk.env (driveUnlink importId stats) io = (.ok stats', io')) :
    ∃ ret : RetUnlink, ret.status = 0 ∧
      stats' = { stats with
        unlinksIssued := stats.unlinksIssued + 1
        unlinksOk := stats.unlinksOk + 1 } ∧
      io'.env = { io.env with transcript := io.env.transcript ++ [unlinkLine ret] } := by
  by_cases hno : ∀ r, Envelope.parse io.input ≠ .ok (some r)
  · obtain ⟨err, s', hfails⟩ := exec_driveUnlink_fails desk importId stats hno
    rw [hfails] at h
    cases h
  · obtain ⟨⟨e, n⟩, hparse⟩ := not_forall_not.1 hno
    have hfits : (packetEnvelope importId finalUnlink.encode).Fits :=
      fits_packetEnvelope importId (by rw [CmdUnlink.length_encode]; decide)
    have hexchange := exec_exchange desk importId hfits hparse
    rw [driveUnlink] at h
    split_ifs at hexchange with hchan
    · rw [exec_bind_error hexchange] at h
      cases h
    · rw [exec_bind_ok hexchange] at h
      rcases hreply : unlinkReply e with err | ret
      · rw [hreply] at h
        cases h
      · rw [hreply, exec_ofResult_ok_bind] at h
        by_cases hstatus : ret.status = 0
        · simp only [if_pos hstatus] at h
          cases h
          exact ⟨ret, hstatus, rfl, rfl⟩
        · simp only [if_neg hstatus] at h
          cases h

/-- **What a driver that succeeds has noted and counted**, from some point of the script on. -/
theorem exec_drive_ok {script : List ScriptedUrb} {stats stats' : DriverStats} {io io' : Io Trail}
    (h : exec desk.env (drive importId script stats) io = (.ok stats', io')) :
    ∃ lines, NotedScript script stats' lines ∧
      stats' = { script.foldl DriverStats.passed stats with
        unlinksIssued := (script.foldl DriverStats.passed stats).unlinksIssued + 1
        unlinksOk := (script.foldl DriverStats.passed stats).unlinksOk + 1 } ∧
      io'.env = { io.env with transcript := io.env.transcript ++ lines } := by
  induction script generalizing stats io with
  | nil =>
      rw [drive_nil] at h
      rcases hunlink : exec desk.env (driveUnlink importId stats) io with ⟨err | stats₁, io₁⟩
      · rw [exec_bind_error hunlink] at h
        cases h
      · obtain ⟨ret, hstatus, hstats, henv⟩ := exec_driveUnlink_ok desk importId hunlink
        rw [exec_bind_ok hunlink] at h
        cases h
        refine ⟨_, ⟨[], ret, .nil, hstatus, rfl⟩, hstats, ?_⟩
        rw [Desk.env, henv, List.nil_append, List.append_assoc]
        rfl
  | cons urb script ih =>
      rw [drive_cons] at h
      rcases hround : exec desk.env (driveUrb importId stats urb) io with ⟨err | stats₁, io₁⟩
      · rw [exec_bind_error hround] at h
        cases h
      · obtain ⟨line, hnoted, rfl, henv⟩ := exec_driveUrb_ok desk importId hround
        rw [exec_bind_ok hround] at h
        obtain ⟨_, ⟨passed, ret, hpassed, hstatus, rfl⟩, hstats, henv'⟩ := ih h
        refine ⟨_, ⟨line :: passed, ret, .cons hnoted hpassed, hstatus, rfl⟩, hstats, ?_⟩
        rw [henv', henv, List.append_assoc]
        rfl

/-- **What `run_script` has noted and returned if it succeeds**, whatever it was sent. -/
theorem exec_runScript_ok {script : List ScriptedUrb} {stats : DriverStats} {io io' : Io Trail}
    (h : exec desk.env (runScript importId script) io = (.ok stats, io')) :
    stats = driverTotals script ∧ ∃ lines, NotedScript script stats lines ∧
      io'.env.transcript = io.env.transcript ++ lines := by
  rcases hopen : desk.opens io.env.opened with _ | _
  · rw [exec_runScript_closed desk hopen] at h
    cases h
  · rw [exec_runScript_open desk importId hopen] at h
    obtain ⟨lines, hnoted, hstats, henv⟩ := exec_drive_ok desk importId h
    exact ⟨hstats, lines, hnoted, by rw [henv]⟩

/-- What the driver has noted, whether it fails or not. -/
theorem exec_driveScript_lines (info : AttachInfo) (n : UInt32) (io : Io Trail) :
    ∃ r io' lines, exec desk.env (driveScript info n) io = (r, io') ∧
      io'.env.transcript = io.env.transcript ++ lines ∧
      (r = .ok () → NotedScript (scriptDefault n info.devid)
        (driverTotals (scriptDefault n info.devid)) lines) := by
  rcases hrun : exec desk.env (runScript info.importId (scriptDefault n info.devid)) io with
    ⟨e | stats, io'⟩
  · obtain ⟨lines, hlines⟩ : io.env.transcript <+: io'.env.transcript := by
      have hprefix := transcript_prefix desk (runScript info.importId (scriptDefault n info.devid)).run io
      rwa [show (runScript info.importId _).run.run desk.env io = (.error e, io') from hrun] at hprefix
    have hfails := exec_bind_error (f := fun _ : DriverStats => pure ())
      (exec_mapErr_error (exec_mapErr_error hrun (Fault.map UsbipReceiveError.driver)) Stop.failed)
    exact ⟨_, io', lines, hfails, hlines.symm, nofun⟩
  · obtain ⟨rfl, lines, hnoted, hlines⟩ := exec_runScript_ok desk info.importId hrun
    have hworks := exec_bind_ok (f := fun _ : DriverStats => pure ())
      (exec_mapErr_ok (exec_mapErr_ok hrun (Fault.map UsbipReceiveError.driver)) Stop.failed)
    exact ⟨_, io', lines, hworks, hlines, fun _ => hnoted⟩

/-- **What `run_simulated_drive` notes**: the attachment, what the driver notes, and at last that
the device is detached, also where the driver fails. -/
theorem exec_runSimulatedDrive (info : AttachInfo) {io : Io Trail}
    (hopen : desk.opens io.env.opened = true) (n : UInt32) :
    ∃ r io' lines t, exec desk.env (runSimulatedDrive info n) io = (r, io') ∧
      r ≠ .error .ranOut ∧ io'.env = desk.detached (attachmentOf info) t ∧
      t.transcript = io.env.transcript ++ attachLines info ++ lines ∧
      (r = .ok () → NotedScript (scriptDefault n info.devid)
        (driverTotals (scriptDefault n info.devid)) lines) := by
  let io₁ : Io Trail := { io with env := { io.env with
    opened := io.env.opened + 1
    transcript := io.env.transcript ++ attachLines info } }
  obtain ⟨r, io₂, lines, hscript, hlines, hnoted⟩ := exec_driveScript_lines desk info n io₁
  have hran : r ≠ .error .ranOut := by
    have hran := exec_driveScript_ne_ranOut desk info n io₁
    rwa [hscript] at hran
  have hrun : exec desk.env (runSimulatedDrive info n) io = _ :=
    (exec_bind_ok (exec_mapErr_ok (exec_create desk hopen info) _)).trans
      (exec_scope desk hscript hran _)
  exact ⟨r, _, lines, io₂.env, hrun, hran, rfl, hlines, hnoted⟩

/-- **What is in the transcript after any session.**  Whatever is sent to the receiver, whenever the
flag goes up, and whether or not the transcript can be opened each time: either nothing is
negotiated, or the transcript cannot be opened at first, and nothing is noted and the receiver fails;
or what has been negotiated is noted first, and at last that the device is detached, whether the
receiver fails or not, if only the transcript can be opened then.  In between are the lines of the
driver, and if it succeeds one for each URB of its script; or without a driver a line for each frame
that the relaying loop takes off the stream behind the handshake, one number after the other. -/
theorem runUsbipReceive_transcript (clientName : String) (busid : Option String)
    (drive : Option UInt32) {fuel : ℕ} {io : Io Trail} (hfuel : io.input.length < fuel) :
    ∃ r io', exec desk.env (runUsbipReceive serde clientName busid drive fuel) io = (r, io') ∧
      r ≠ .error .ranOut ∧
      (((∀ info, (exec desk.env (negotiate serde clientName busid) io).1 ≠ .ok info) ∨
          desk.opens io.env.opened = false) ∧
        io'.env.transcript = io.env.transcript ∧ r ≠ .ok () ∨
      ∃ info lines t, (exec desk.env (negotiate serde clientName busid) io).1 = .ok info ∧
        desk.opens io.env.opened = true ∧ io'.env = desk.detached (attachmentOf info) t ∧
        t.transcript = io.env.transcript ++ attachLines info ++ lines ∧
        match drive with
        | none => ∃ fs, lines = (attachmentOf info).frameLines 0 fs ∧
            Relayed serde desk io.env.polls (io.env.opened + 1)
              ((StreamCodec.frames Envelope.parse io.input).drop 3) fs r
        | some n => r = .ok () → NotedScript (scriptDefault n info.devid)
            (driverTotals (scriptDefault n info.devid)) lines) := by
  have hquiet := unnoted_negotiate serde desk clientName busid
  have henv := hquiet.env io
  have hle := run_input_le desk.env (negotiate serde clientName busid).run io
  rcases hnegotiate : exec desk.env (negotiate serde clientName busid) io with ⟨e | info, io₁⟩
  · rw [hnegotiate] at henv
    refine ⟨_, io₁, exec_bind_error (exec_mapErr_error hnegotiate _), nofun,
      .inl ⟨.inl nofun, ?_, nofun⟩⟩
    rw [henv]
  obtain ⟨said, hlength, -, hframes⟩ := hquiet.said io info io₁ hnegotiate
  rw [hnegotiate] at henv
  rw [show (negotiate serde clientName busid).run.run desk.env io = _ from hnegotiate] at hle
  have hstart := exec_bind_ok (f := simulateUntilEnd serde drive fuel)
    (exec_mapErr_ok hnegotiate Stop.failed)
  have hleft : StreamCodec.frames Envelope.parse io₁.input =
      (StreamCodec.frames Envelope.parse io.input).drop 3 := by
    rw [hframes, List.drop_left' hlength]
  rcases hopen : desk.opens io.env.opened with _ | _
  · -- nothing can be noted of the attachment
    have hfails := exec_create_closed desk (show desk.opens io₁.env.opened = false by rw [henv]; exact hopen)
      info
    have hends : exec desk.env (simulateUntilEnd serde drive fuel info) io₁ =
        (.error (.failed (.err (.transcript ""))),
          { io₁ with env := { io₁.env with opened := io₁.env.opened + 1 } }) := by
      cases drive with
      | none => exact exec_failing hfails _
      | some n => exact exec_failing hfails _
    have hquiet : io₁.env.transcript = io.env.transcript := congrArg Trail.transcript henv
    exact ⟨_, _, hstart.trans hends, nofun, .inl ⟨.inr rfl, hquiet, nofun⟩⟩
  · rw [← henv] at hopen
    cases drive with
    | some n =>
        obtain ⟨r, io', lines, t, hrun, hran, hdropped, hlines, hnoted⟩ :=
          exec_runSimulatedDrive desk info hopen n
        rw [henv] at hlines
        exact ⟨r, io', hstart.trans hrun, hran,
          .inr ⟨info, lines, t, rfl, rfl, hdropped, hlines, hnoted⟩⟩
    | none =>
        obtain ⟨r, io', fs, t, hrun, hran, hdropped, hlines, hrelayed⟩ :=
          exec_runSimulated serde desk info hopen (Nat.lt_of_le_of_lt hle hfuel)
        rw [henv, hleft] at hrelayed
        rw [henv] at hlines
        exact ⟨r, io', hstart.trans hrun, hran,
          .inr ⟨info, _, t, rfl, rfl, hdropped, hlines, fs, rfl, hrelayed⟩⟩

end Transcript

/-- A sender that lets the receiver attach the stick. -/
def stickSession : Io Trail where
  input := stickSaid.flatMap Envelope.bytes
  env := {}

/-- The stick is attached, and its two frames are noted. -/
theorem runUsbipReceive_transcript_stick :
    ∃ r io', exec quietDesk.env (runUsbipReceive stickSerde "zerowire-cli/0.2.0" none none 1024)
        stickSession = (r, io') ∧
      io'.env.transcript = [
        "sim-attach port=7 busid=1-2 import_id=7 devid=0x10002 speed=3 vid=046d pid=c52b",
        "sim-urb port=7 import_id=7 seq=1 bytes=48", "sim-urb port=7 import_id=7 seq=2 bytes=64",
        "sim-detach port=7 busid=1-2"] := by
  have hnegotiated : (exec quietDesk.env (negotiate stickSerde "zerowire-cli/0.2.0" none)
      stickSession).1 = .ok stickInfo := by decide +kernel
  have hframes : StreamCodec.frames Envelope.parse stickSession.input = stickSaid :=
    Envelope.codec.frames_wire stickSaid_fits
  obtain ⟨r, io', hexec, -, ⟨hno | hclosed, -⟩ | ⟨info, lines, t, hinfo, -, hdropped, hlines, fs, rfl,
    hrelayed⟩⟩ := runUsbipReceive_transcript stickSerde quietDesk "zerowire-cli/0.2.0" none none
      (show stickSession.input.length < 1024 by decide +kernel)
  · exact absurd hnegotiated (hno stickInfo)
  · cases hclosed
  · obtain rfl : stickInfo = info := Except.ok.inj (hnegotiated.symm.trans hinfo)
    -- the two frames come in front of the ERROR
    have hquiet : Undisturbed stickSerde quietDesk ((stickSaid.drop 3).take 3) :=
      ⟨fun _ => rfl, fun _ => rfl, List.forall_iff_forall_mem.1 (by decide +kernel),
        List.forall_iff_forall_mem.1 (by decide +kernel)⟩
    have hsaid : stickSaid.drop 3 = (stickSaid.drop 3).take 3 ++ stickSaid[6] :: [] := rfl
    rw [hframes, hsaid] at hrelayed
    obtain rfl := hrelayed.until_error hquiet (by decide +kernel)
    have hdetached : io'.env.transcript = t.transcript ++ [(attachmentOf stickInfo).detachLine] := by
      rw [hdropped]
      rfl
    refine ⟨r, io', hexec, ?_⟩
    rw [hdetached, hlines]
    decide +kernel

/-! ### The handshake -/

/-- **`run_usbip_receive` leads the handshake**, up to what it makes of the reply. -/
theorem inquires_negotiate {serde : Serde} (env : Env simulatedSig τ) {clientName : String}
    {wanted : Option String} (drive : Option UInt32) {s : Io τ} (hs : s.input = [])
    {ack list reply : Envelope} {devices : List DeviceSummary} {chosen : DeviceSummary}
    {attached : ControlMessage}
    (h : Handshake serde.control (usbipHello clientName) (.attach chosen.busid "usbip") ack list reply
      devices attached)
    (hchosen : pickDevice wanted devices = .ok chosen) (fuel : ℕ) :
    ∃ s', s'.input = [] ∧ s'.env = s.env ∧
      Inquires env ⟨(runUsbipReceive serde clientName wanted drive fuel).run, s⟩
        (spoken (greeting serde.control (usbipHello clientName) (.attach chosen.busid "usbip") ack list
          reply))
        ⟨((mapErr .failed (ofResult (attachReply chosen attached)) :
          Act simulatedSig (Stop (Fault UsbipReceiveError)) AttachInfo) >>=
          simulateUntilEnd serde drive fuel).run, s'⟩ := by
  obtain ⟨_, _, _, hack⟩ := h.helloAck
  let bytes (msg : ControlMessage) : List UInt8 := (msg.envelope serde.control).bytes
  refine ⟨((s.sent (bytes (usbipHello clientName))).sent (bytes .listDevices)).sent
    (bytes (.attach chosen.busid "usbip")), hs, rfl, ?_⟩
  rw [runUsbipReceive, negotiate, requestAttach]
  simp only [usbipReply, mapErr_bind, bind_assoc, pure_bind]
  refine .step (enough_asked h.hello _ s) (enough_taken hack _ hs) (.check rfl ?_)
  refine .step (enough_asked h.listDevices _ _) (enough_taken h.deviceList _ hs)
    (.check rfl (.check hchosen ?_))
  exact .step (enough_asked h.attach _ _) (enough_taken h.attached _ hs) (.done _)

/-- A reply by which something is attached. -/
theorem inquires_runUsbipReceive {serde : Serde} (env : Env simulatedSig τ) {clientName : String}
    {wanted : Option String} (drive : Option UInt32) {s : Io τ} (hs : s.input = [])
    {ack list reply : Envelope} {devices : List DeviceSummary} {chosen : DeviceSummary}
    {attached : ControlMessage}
    (h : Handshake serde.control (usbipHello clientName) (.attach chosen.busid "usbip") ack list reply
      devices attached)
    (hchosen : pickDevice wanted devices = .ok chosen) {info : AttachInfo}
    (hinfo : attachReply chosen attached = .ok info) (fuel : ℕ) :
    ∃ s', s'.input = [] ∧ s'.env = s.env ∧
      Inquires env ⟨(runUsbipReceive serde clientName wanted drive fuel).run, s⟩
        (spoken (greeting serde.control (usbipHello clientName) (.attach chosen.busid "usbip") ack list
          reply))
        ⟨(simulateUntilEnd serde drive fuel info).run, s'⟩ := by
  obtain ⟨s', hs', henv, hinquires⟩ := inquires_negotiate env drive hs h hchosen fuel
  rw [hinfo] at hinquires
  exact ⟨s', hs', henv, hinquires⟩

end Zerowire

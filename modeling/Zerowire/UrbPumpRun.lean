/-
**A run of the URB pump of the fixture, command by command.**

A run of the pump is described here as the run of a machine that serves one envelope after the
other: what it serves depends on the device and on the envelope, and its state are the counters.
The reply is written last, so that a round either answers its command in full or writes nothing.

Main definitions:

* `Zerowire.Served` — a command that has been served, with what came of it;
* `Zerowire.servedOf` — what is served for a packet;
* `Zerowire.serve` — what is done for an envelope.

Main results:

* `Zerowire.exec_handleUrbPacket` — a packet is served, or refused without a reply;
* `Zerowire.runPump_run` — **a run serves the envelopes in turn**, until one is refused;
* `Zerowire.runPump_answers` — **the replies correspond to the commands** over a whole run, on any
  byte stream.
-/

import Zerowire.Transducer
import Zerowire.UrbPump

set_option relaxedAutoImplicit false
set_option autoImplicit false

namespace Zerowire

open Bytes Program

/-! ### Dispatching a command -/

/-- The address that a command names. -/
def addressOf (cmd : CmdSubmit) : UInt8 :=
  (if cmd.direction = urbDirIn then 0x80 else 0) ||| (cmd.ep.toUInt8 &&& 0x0F)

/-- What a command comes down to: a control transfer, a bulk or interrupt transfer, or a status. -/
inductive DispatchAction where
  | control
  | bulk (ep : FakeEndpoint)
  | status (status : Int32)
  deriving DecidableEq

/-- **What a command comes down to.** -/
def actionOf (device : FakeDevice) (cmd : CmdSubmit) : DispatchAction :=
  if cmd.isControl then .control
  else
    match device.endpoint (addressOf cmd) with
    | none => .status eNoDev
    | some ep =>
        match ep.xferType with
        | .bulk | .interrupt => .bulk ep
        | .isochronous => .status eOpNotSupp
        | .control => .control

/-- The dispatch carries out what a command comes down to. -/
theorem dispatchSubmit_eq (device : FakeDevice) (cmd : CmdSubmit) (outBody : List UInt8) :
    dispatchSubmit device cmd outBody =
      match actionOf device cmd with
      | .control => executeControl device cmd outBody
      | .bulk ep => .ok (executeBulk cmd ep outBody)
      | .status status => .ok (.empty status) := by
  rw [dispatchSubmit, actionOf, addressOf]
  by_cases hcontrol : cmd.isControl = true
  · rw [if_pos hcontrol, if_pos hcontrol]
  · rw [if_neg hcontrol, if_neg hcontrol]
    simp only
    generalize (if cmd.direction = urbDirIn then (0x80 : UInt8) else 0) ||| _ = addr
    rcases device.endpoint addr with _ | ⟨address, xferType⟩
    · rfl
    · cases xferType with
      | control => rfl
      | isochronous => rfl
      | bulk => rfl
      | interrupt => rfl

/-! ### Serving a packet -/

/-- **A command that has been served.** -/
inductive Served where
  | submit (cmd : CmdSubmit) (res : SubmitResult)
  | unlink (u : CmdUnlink)
  deriving DecidableEq

namespace Served

/-- The USB/IP packet of the reply. -/
def packet : Served → List UInt8
  | .submit cmd res => (retSubmitOf cmd res).encode ++ res.data
  | .unlink u => (retUnlinkOf u 0).encode

/-- The envelope of the reply. -/
def envelope (importId : UInt32) (served : Served) : Envelope :=
  ⟨.usbip, UsbipFrame.encode ⟨importId, served.packet⟩⟩

/-- The counters after the reply. -/
def record (stats : PumpStats) : Served → PumpStats
  | .submit cmd res => stats.record cmd res
  | .unlink _ => { stats with unlinksSeen := stats.unlinksSeen + 1 }

end Served

/-- **What is served for a packet**; nothing if it is refused. -/
def servedOf (device : FakeDevice) (raw : List UInt8) : Option Served :=
  if raw.length < urbHeaderLen then none
  else if wordAt raw 0 = UrbOp.cmdSubmit.toU32 then
    (outBodyOf (CmdSubmit.ofHeader raw) raw).toOption.bind fun body =>
      (dispatchSubmit device (CmdSubmit.ofHeader raw) body).toOption.map
        (Served.submit (CmdSubmit.ofHeader raw))
  else if wordAt raw 0 = UrbOp.cmdUnlink.toU32 then some (.unlink (CmdUnlink.ofHeader raw))
  else none

/-- What is served for a packet, if the reply respects the cap of an envelope. -/
def replyTo (importId : UInt32) (device : FakeDevice) (raw : List UInt8) : Option Served :=
  (servedOf device raw).filter fun served => (served.envelope importId).Fits

section Packet

variable {X : Sig} {τ : Type} (env : Env X τ) (importId : UInt32) (device : FakeDevice)

/-- What comes of a packet: the reply and the counters, or an error and nothing. -/
def Handled (stats : PumpStats) (s : Io τ) (reply : Option Served)
    (r : Except (Fault PumpError) PumpStats × Io τ) : Prop :=
  match reply with
  | some served => r = (.ok (served.record stats),
      { s with output := s.output ++ (served.envelope importId).bytes })
  | none => ∃ err, r = (.error (.err err), s)

/-- A reply is written if its envelope respects the cap. -/
theorem exec_sendReply (served : Served) (stats : PumpStats) (s : Io τ) :
    Handled importId stats s ((some served).filter fun served => (served.envelope importId).Fits)
      (exec env (do
        mapErr (Fault.map PumpError.send)
          (Tls.sendEnvelope .usbip (UsbipFrame.encode ⟨importId, served.packet⟩))
        return served.record stats) s) := by
  rw [Tls.sendEnvelope]
  have hmap := exec_mapErr env (Fault.map PumpError.send) (sendEnvelopeWith "writing TLS envelope"
    .usbip (UsbipFrame.encode ⟨importId, served.packet⟩)) s
  by_cases hfits : (served.envelope importId).Fits
  · rw [exec_sendEnvelopeWith env _ hfits, mapError_ok] at hmap
    rw [Option.filter_some_pos (by simpa using hfits), Handled, exec_bind_ok hmap, exec_pure]
    rfl
  · rw [exec_sendEnvelopeWith_of_not_fits env _ hfits, mapError_error] at hmap
    rw [Option.filter_some_neg (by simpa using hfits), Handled]
    exact ⟨_, exec_bind_error hmap⟩

/-- **A packet is served, or refused without a reply.** -/
theorem exec_handleUrbPacket (raw : List UInt8) (stats : PumpStats) (s : Io τ) :
    Handled importId stats s (replyTo importId device raw)
      (exec env (handleUrbPacket importId device raw stats) s) := by
  rw [handleUrbPacket, replyTo, servedOf]
  by_cases hshort : raw.length < urbHeaderLen
  · rw [if_pos hshort, if_pos hshort]
    exact ⟨_, exec_throw _ _ _⟩
  have hlen : urbHeaderLen ≤ raw.length := Nat.le_of_not_lt hshort
  have hhdr : (slice raw 0 urbHeaderLen : Except (Fault PumpError) _) =
      .ok (raw.take urbHeaderLen) := slice_eq_ok (by omega) hlen
  have htake : urbHeaderLen ≤ (raw.take urbHeaderLen).length := by
    rw [List.length_take]
    omega
  have hword : wordAt (raw.take urbHeaderLen) 0 = wordAt raw 0 := wordAt_take (by decide)
  rw [if_neg hshort, if_neg hshort, peekUrbOp_eq hlen, mapError_ok, exec_ofResult_ok_bind]
  -- the branches of the match on the op: only two of the four are commands
  by_cases hsubmit : wordAt raw 0 = UrbOp.cmdSubmit.toU32
  · have hop : UrbOp.fromU32 (wordAt raw 0) = some .cmdSubmit := UrbOp.fromU32_eq_some.2 hsubmit
    have hparse : CmdSubmit.parse (raw.take urbHeaderLen) = .ok (CmdSubmit.ofHeader raw) :=
      parse_of_header (CmdSubmit.parse_eq _) htake (hword.trans hsubmit) CmdSubmit.ofHeader_take
    rw [if_pos hsubmit]
    simp only [hop, hhdr]
    rw [exec_ofResult_ok_bind, hparse, mapError_ok, exec_ofResult_ok_bind]
    rcases outBodyOf_cases (CmdSubmit.ofHeader raw) raw with ⟨body, hbody⟩ | ⟨err, hbody⟩
    · obtain ⟨res, hres⟩ := dispatchSubmit_eq_ok device (CmdSubmit.ofHeader raw) body
      have hsend := exec_sendReply env importId (.submit (CmdSubmit.ofHeader raw) res) stats s
      simp only [Served.packet, Served.record] at hsend
      rw [hbody, exec_ofResult_ok_bind, hres, exec_ofResult_ok_bind, toOption_ok, Option.bind_some,
        hres, toOption_ok, Option.map_some]
      simp only [sendRetSubmit]
      exact hsend
    · rw [hbody, exec_ofResult_error_bind, toOption_error, Option.bind_none]
      exact ⟨err, rfl⟩
  rw [if_neg hsubmit]
  by_cases hunlink : wordAt raw 0 = UrbOp.cmdUnlink.toU32
  · have hop : UrbOp.fromU32 (wordAt raw 0) = some .cmdUnlink := UrbOp.fromU32_eq_some.2 hunlink
    have hparse : CmdUnlink.parse (raw.take urbHeaderLen) = .ok (CmdUnlink.ofHeader raw) :=
      parse_of_header (CmdUnlink.parse_eq _) htake (hword.trans hunlink) CmdUnlink.ofHeader_take
    rw [if_pos hunlink]
    simp only [hop, hhdr]
    rw [exec_ofResult_ok_bind, hparse, mapError_ok, exec_ofResult_ok_bind]
    have hsend := exec_sendReply env importId (.unlink (CmdUnlink.ofHeader raw)) stats s
    simp only [Served.packet, Served.record] at hsend
    simp only [sendRetUnlink]
    exact hsend
  rw [if_neg hunlink]
  rcases hop : UrbOp.fromU32 (wordAt raw 0) with _ | _ | _ | _ | _
  · simp only
    rw [slice_eq_ok (by omega) (by rw [urbHeaderLen] at hlen; omega), exec_ofResult_ok_bind]
    exact ⟨_, exec_throw _ _ _⟩
  · exact absurd (UrbOp.fromU32_eq_some.1 hop) hsubmit
  · exact absurd (UrbOp.fromU32_eq_some.1 hop) hunlink
  · exact ⟨_, exec_throw _ _ _⟩
  · exact ⟨_, exec_throw _ _ _⟩

end Packet

/-! ### Serving envelopes -/

/-- What is served for a USB/IP envelope. -/
def replyToEnvelope (importId : UInt32) (device : FakeDevice) (e : Envelope) : Option Served :=
  (UsbipFrame.parse e.payload).toOption.bind fun frame =>
    if frame.importId = importId then replyTo importId device frame.raw else none

/-- **What is done for an envelope**: a reply or nothing, or a breakdown. -/
def serve (importId : UInt32) (device : FakeDevice) (e : Envelope) (stats : PumpStats) :
    Option (Option Served) × PumpStats :=
  if e.channel = .usbip then
    match replyToEnvelope importId device e with
    | some served => (some (some served), served.record stats)
    | none => (none, stats)
  else (some none, stats)

/-- The bytes of a reply. -/
def bytesOfReply (importId : UInt32) : Option Served → List UInt8
  | some served => (served.envelope importId).bytes
  | none => []

section Run

variable {X : Sig} {τ : Type} (env : Env X τ) (importId : UInt32) (device : FakeDevice)

/-- What a round comes to: the end of the loop, or what is done for an envelope. -/
theorem exec_pumpRound (stats : PumpStats) (s : Io τ) :
    ((∀ r, Envelope.parse s.input ≠ .ok (some r)) ∧
      ∃ rest, exec env (pumpRound importId device stats) s =
        (.ok (.inr stats), { s with input := rest })) ∨
    ∃ e n, Envelope.parse s.input = .ok (some (e, n)) ∧
      ((∃ reply stats', serve importId device e stats = (some reply, stats') ∧
        exec env (pumpRound importId device stats) s = (.ok (.inl stats'),
          { s with
            input := s.input.drop n
            output := s.output ++ bytesOfReply importId reply })) ∨
      (serve importId device e stats).1 = none ∧
        ∃ err, exec env (pumpRound importId device stats) s =
          (.error (.err err), { s with input := s.input.drop n })) := by
  by_cases hparse : ∃ r, Envelope.parse s.input = .ok (some r)
  · obtain ⟨⟨e, n⟩, hparse⟩ := hparse
    refine Or.inr ⟨e, n, hparse, ?_⟩
    have hrecv := exec_recvEnvelopeWith_of_parse env "reading TLS header" "reading TLS payload" hparse
    rw [pumpRound, Tls.recvEnvelope, exec_bind_ok (exec_catchErr_ok hrecv)]
    simp only
    -- only the envelopes of the USB/IP channel are handled
    by_cases hchan : e.channel = .usbip
    · simp only [hchan]
      by_cases hshort : e.payload.length < 4
      · have hframe : UsbipFrame.parse e.payload = .error (.err (.short e.payload.length)) := by
          rw [UsbipFrame.parse_eq, if_pos hshort]
        refine Or.inr ⟨?_, .frame (.short e.payload.length), ?_⟩
        · rw [serve, if_pos hchan, replyToEnvelope, hframe, toOption_error, Option.bind_none]
        · rw [hframe, mapError_error, exec_ofResult_error_bind]
          rfl
      have hframe : UsbipFrame.parse e.payload = .ok ⟨wordAt e.payload 0, e.payload.drop 4⟩ := by
        rw [UsbipFrame.parse_eq, if_neg hshort]
      -- and of these only the ones for this import
      by_cases hid : wordAt e.payload 0 = importId
      · have hreply : replyToEnvelope importId device e =
            replyTo importId device (e.payload.drop 4) := by
          rw [replyToEnvelope, hframe, toOption_ok, Option.bind_some, if_pos hid]
        have hpacket := exec_handleUrbPacket env importId device (e.payload.drop 4) stats
          { s with input := s.input.drop n }
        rw [hframe, mapError_ok, exec_ofResult_ok_bind, exec_ite, if_neg (not_not.2 hid)]
        rcases hserved : replyTo importId device (e.payload.drop 4) with _ | served
        · rw [hserved, Handled] at hpacket
          obtain ⟨err, hpacket⟩ := hpacket
          refine Or.inr ⟨?_, err, exec_bind_error hpacket⟩
          rw [serve, if_pos hchan, hreply, hserved]
        · rw [hserved, Handled] at hpacket
          refine Or.inl ⟨some served, served.record stats, ?_, ?_⟩
          · rw [serve, if_pos hchan, hreply, hserved]
          · rw [exec_bind_ok hpacket, exec_pure, bytesOfReply]
      · refine Or.inr ⟨?_, .importId (wordAt e.payload 0) importId, ?_⟩
        · rw [serve, if_pos hchan, replyToEnvelope, hframe, toOption_ok, Option.bind_some,
            if_neg hid]
        · rw [hframe, mapError_ok, exec_ofResult_ok_bind, exec_ite, if_pos hid, exec_throw]
    · refine Or.inl ⟨none, stats, by rw [serve, if_neg hchan], ?_⟩
      rw [bytesOfReply, List.append_nil]
      cases hc : e.channel with
      | usbip => exact absurd hc hchan
      | control => rfl
      | hid => rfl
      | keepalive => rfl
  · have hno : ∀ r, Envelope.parse s.input ≠ .ok (some r) := fun r h => hparse ⟨r, h⟩
    exact Or.inl ⟨hno, exec_pumpRound_none env importId device stats hno⟩

/-- **A run that fails** has read the envelopes that it has served and the one behind them, and
nothing else. -/
def FailedBehind (served : ℕ) (result : Except (Fault PumpError) PumpStats)
    (input input' : List UInt8) : Prop :=
  (∃ err, result = .error (.err err)) ∧
    input = ((StreamCodec.frames Envelope.parse input).take (served + 1)).flatMap Envelope.bytes ++ input'

/-- The rounds of a run serve the envelopes in turn. -/
theorem loop_serve (fuel : ℕ) (stats : PumpStats) (s : Io τ) (hfuel : s.input.length < fuel) :
    ∃ result s',
      let r := Transducer.run (serve importId device) (StreamCodec.frames Envelope.parse s.input)
        stats
      loop env (rounds (pumpRound importId device)) fuel stats s = some (result, s') ∧
      s'.output = s.output ++ r.outputs.flatMap (bytesOfReply importId) ∧
      (r.completed = true → result = .ok r.state) ∧
      (r.completed = false → FailedBehind r.outputs.length result s.input s'.input) := by
  induction fuel generalizing stats s with
  | zero => omega
  | succ fuel ih =>
      -- a round at a time: no envelope, an envelope that is dealt with, or a breakdown
      rcases exec_pumpRound env importId device stats s with
        ⟨hno, rest, hx⟩ | ⟨e, n, hparse, ⟨reply, stats', hserve, hx⟩ | ⟨hnone, err, hx⟩⟩
      · rw [StreamCodec.frames_eq_nil Envelope.codec.toStable hno, Transducer.run_nil]
        refine ⟨_, _, loop_rounds_inr hx, ?_, fun _ => rfl, ?_⟩
        · rw [List.flatMap_nil, List.append_nil]
        · intro h
          cases h
      · have hpos := Envelope.codec.pos hparse
        have hle := Envelope.codec.le hparse
        have hlen : (s.input.drop n).length < fuel := by
          rw [List.length_drop]
          omega
        obtain ⟨result, s', hloop, hout, htrue, hfalse⟩ := ih stats'
          { s with
            input := s.input.drop n
            output := s.output ++ bytesOfReply importId reply } hlen
        have hframes := StreamCodec.frames_eq_cons Envelope.codec.toStable hparse
        rw [hframes, Transducer.run_cons_some hserve]
        refine ⟨result, s', (loop_rounds_inl hx).trans hloop, ?_, htrue, fun h => ?_⟩
        · rw [hout, List.append_assoc, List.flatMap_cons]
        · obtain ⟨herror, hrest⟩ := hfalse h
          refine ⟨herror, (Envelope.eq_bytes_append_drop hparse).trans ?_⟩
          rw [hframes, List.length_cons, List.take_succ_cons, List.flatMap_cons, List.append_assoc]
          exact congrArg (e.bytes ++ ·) hrest
      · rcases hserve : serve importId device e stats with ⟨_ | reply, stats'⟩
        · have hframes := StreamCodec.frames_eq_cons Envelope.codec.toStable hparse
          rw [hframes, Transducer.run_cons_none hserve]
          refine ⟨_, _, loop_rounds_error hx, ?_, ?_, fun _ => ⟨⟨err, rfl⟩, ?_⟩⟩
          · rw [List.flatMap_nil, List.append_nil]
          · intro h
            cases h
          · rw [hframes, List.length_nil, List.take_succ_cons, List.take_zero, List.flatMap_singleton]
            exact Envelope.eq_bytes_append_drop hparse
        · rw [hserve] at hnone
          cases hnone

/-- **A run serves the envelopes in turn**, until one is refused. -/
theorem runPump_run (s : Io τ) :
    ∃ result s',
      let r := Transducer.run (serve importId device) (StreamCodec.frames Envelope.parse s.input) {}
      (∀ fuel, s.input.length < fuel → runPump env importId device fuel s = some (result, s')) ∧
      s'.output = s.output ++ r.outputs.flatMap (bytesOfReply importId) ∧
      (r.completed = true → result = .ok r.state) ∧
      (r.completed = false → FailedBehind r.outputs.length result s.input s'.input) := by
  obtain ⟨result, s', hloop, hrest⟩ :=
    loop_serve env importId device (s.input.length + 1) {} s (Nat.lt_succ_self _)
  exact ⟨result, s', fun fuel hfuel => loop_mono hfuel hloop, hrest⟩

end Run

/-! ### Replies and commands -/

/-- What a round writes for an envelope: the reply to its command, and nothing for the envelopes of
the other channels. -/
def RoundWrites (importId : UInt32) (e : Envelope) (bytes : List UInt8) : Prop :=
  (e.channel ≠ .usbip ∧ bytes = []) ∨
    ∃ cmd, commandOf importId e = some cmd ∧ Answers importId cmd bytes

/-- What is served for a packet answers the command it starts with. -/
theorem exists_answers {importId : UInt32} {device : FakeDevice} {raw : List UInt8}
    {served : Served} (h : replyTo importId device raw = some served) :
    ∃ cmd, Command.ofRaw raw = some cmd ∧
      Answers importId cmd (served.envelope importId).bytes := by
  obtain ⟨hserved, hfits⟩ := Option.filter_eq_some_iff.1 h
  have hfits : (served.envelope importId).Fits := of_decide_eq_true hfits
  rw [servedOf] at hserved
  by_cases hshort : raw.length < urbHeaderLen
  · rw [if_pos hshort] at hserved
    cases hserved
  have hlen : urbHeaderLen ≤ raw.length := Nat.le_of_not_lt hshort
  rw [if_neg hshort] at hserved
  by_cases hsubmit : wordAt raw 0 = UrbOp.cmdSubmit.toU32
  · rw [if_pos hsubmit] at hserved
    obtain ⟨body, -, hserved⟩ := Option.bind_eq_some_iff.1 hserved
    obtain ⟨res, -, rfl⟩ := Option.map_eq_some_iff.1 hserved
    exact ⟨_, ofRaw_submit hlen hsubmit, _, _, parse_frame_bytes hfits, UsbipFrame.parse_encode _,
      _, RetSubmit.parse_encode _ _, rfl⟩
  rw [if_neg hsubmit] at hserved
  by_cases hunlink : wordAt raw 0 = UrbOp.cmdUnlink.toU32
  · rw [if_pos hunlink] at hserved
    cases hserved
    have hret := RetUnlink.parse_encode (retUnlinkOf (CmdUnlink.ofHeader raw) 0) []
    rw [List.append_nil] at hret
    exact ⟨_, ofRaw_unlink hlen hunlink, _, _, parse_frame_bytes hfits, UsbipFrame.parse_encode _,
      _, hret, rfl⟩
  · rw [if_neg hunlink] at hserved
    cases hserved

/-- What is done for an envelope writes what belongs to it. -/
theorem serve_writes {importId : UInt32} {device : FakeDevice} {e : Envelope} {stats : PumpStats}
    {reply : Option Served} (h : (serve importId device e stats).1 = some reply) :
    RoundWrites importId e (bytesOfReply importId reply) := by
  rw [serve] at h
  by_cases hchan : e.channel = .usbip
  · rw [if_pos hchan] at h
    rcases hreply : replyToEnvelope importId device e with _ | served
    · rw [hreply] at h
      cases h
    rw [hreply] at h
    cases h
    rw [replyToEnvelope] at hreply
    obtain ⟨frame, hframe, hreply⟩ := Option.bind_eq_some_iff.1 hreply
    have hframe := toOption_eq_some.1 hframe
    split at hreply
    · next hid =>
        obtain ⟨cmd, hcmd, hanswers⟩ := exists_answers hreply
        refine Or.inr ⟨cmd, ?_, hanswers⟩
        rw [commandOf, hchan, hframe]
        simp only
        rw [if_pos hid, hcmd]
    · cases hreply
  · rw [if_neg hchan] at h
    cases h
    exact Or.inl ⟨hchan, rfl⟩

/-- Only a USB/IP envelope is refused. -/
theorem channel_of_serve_eq_none {importId : UInt32} {device : FakeDevice} {e : Envelope}
    {stats : PumpStats} (h : (serve importId device e stats).1 = none) : e.channel = .usbip := by
  by_contra hchan
  rw [serve, if_neg hchan] at h
  cases h

/-- The replies of a run, without the empty contributions of the other channels. -/
theorem exists_replies {importId : UInt32} {es : List Envelope} {chunks : List (List UInt8)}
    (h : List.Forall₂ (RoundWrites importId) es chunks) :
    (∀ e ∈ es, e.channel = .usbip → (commandOf importId e).isSome) ∧
    ∃ replies, replies.flatten = chunks.flatten ∧
      List.Forall₂ (Answers importId) (es.filterMap (commandOf importId)) replies := by
  induction h with
  | nil => exact ⟨by simp, [], rfl, .nil⟩
  | @cons e bytes es chunks hwrites _ ih =>
      obtain ⟨hall, replies, hflat, hans⟩ := ih
      rcases hwrites with ⟨hchan, rfl⟩ | ⟨cmd, hcmd, hreply⟩
      · have hnone : commandOf importId e = none := by
          rw [commandOf]
          split
          · next hc _ => exact absurd hc hchan
          · rfl
        refine ⟨?_, replies, by simpa using hflat, ?_⟩
        · simpa [hchan] using hall
        · rwa [List.filterMap_cons_none hnone]
      · refine ⟨?_, bytes :: replies, by simp [hflat], ?_⟩
        · simpa [hcmd] using hall
        · rw [List.filterMap_cons_some hcmd]
          exact .cons hreply hans

/-- **The replies correspond to the commands.**  On every byte stream the pump ends, without an
access out of range.  The envelopes of the decodable prefix that it has processed are a prefix
`done` of them; what it has written is one reply for each command among these, in their order, and
nothing else.  If it returns `Ok` the whole decodable prefix was processed; if it returns an error,
it is at a USB/IP envelope for which nothing was written, and nothing behind it has been read. -/
theorem runPump_answers {X : Sig} {τ : Type} (env : Env X τ) (importId : UInt32)
    (device : FakeDevice) (s : Io τ) :
    ∃ result s' done rest replies,
      (∀ fuel, s.input.length < fuel → runPump env importId device fuel s = some (result, s')) ∧
      result ≠ .error .panic ∧
      StreamCodec.frames Envelope.parse s.input = done ++ rest ∧
      s'.output = s.output ++ replies.flatten ∧
      List.Forall₂ (Answers importId) (done.filterMap (commandOf importId)) replies ∧
      (∀ e ∈ done, e.channel = .usbip → (commandOf importId e).isSome) ∧
      (∀ stats, result = .ok stats → rest = []) ∧
      (∀ err, result = .error err → ∃ bad rest', rest = bad :: rest' ∧ bad.channel = .usbip ∧
        s.input = (done ++ [bad]).flatMap Envelope.bytes ++ s'.input) := by
  obtain ⟨result, s', hrun, hout, htrue, hfalse⟩ := runPump_run env importId device s
  -- the envelopes up to the breakdown are those that were served
  have hserve (e : Envelope) (stats : PumpStats) (reply : Option Served)
      (h : (serve importId device e stats).1 = some reply) :
      RoundWrites importId e (bytesOfReply importId reply) := serve_writes h
  obtain ⟨done, rest, hframes, hwrites, hall, hbad⟩ :=
    Transducer.exists_served hserve (StreamCodec.frames Envelope.parse s.input) {}
  obtain ⟨hsome, replies, hflat, hanswers⟩ := exists_replies (List.forall₂_map_right_iff.2 hwrites)
  refine ⟨result, s', done, rest, replies, hrun, ?_, hframes, ?_, hanswers, hsome, ?_, ?_⟩
  · rintro rfl
    by_cases hcompleted : (Transducer.run (serve importId device)
      (StreamCodec.frames Envelope.parse s.input) {}).completed = true
    · cases htrue hcompleted
    · obtain ⟨⟨err, herr⟩, -⟩ := hfalse (Bool.eq_false_of_not_eq_true hcompleted)
      cases herr
  · rw [hout, hflat, List.flatMap_def]
  · rintro stats rfl
    apply hall
    by_contra hnot
    obtain ⟨⟨err, herr⟩, -⟩ := hfalse (Bool.eq_false_of_not_eq_true hnot)
    cases herr
  · rintro err rfl
    have hnot : (Transducer.run (serve importId device)
        (StreamCodec.frames Envelope.parse s.input) {}).completed = false := by
      rw [Bool.eq_false_iff]
      intro hcompleted
      cases htrue hcompleted
    obtain ⟨bad, rest', stats, rfl, hnone⟩ := hbad hnot
    refine ⟨bad, rest', rfl, channel_of_serve_eq_none hnone, ?_⟩
    -- one outcome for each envelope that was served
    have hcount := (List.forall₂_map_right_iff.2 hwrites).length_eq
    rw [List.length_map] at hcount
    have htake : (done ++ bad :: rest').take (done.length + 1) = done ++ [bad] := by
      rw [List.append_cons]
      exact List.take_left' (by rw [List.length_append, List.length_singleton])
    obtain ⟨-, hread⟩ := hfalse hnot
    rwa [← hcount, hframes, htake] at hread

/-- GET_DESCRIPTOR(Device). -/
def readDescriptor : CmdSubmit where
  seqnum := 5
  devid := 0
  direction := urbDirIn
  ep := 0
  transferFlags := 0
  transferBufferLength := 18
  startFrame := 0
  numberOfPackets := 0
  interval := 0
  setup := .of 0x80 0x06 0x00 0x01 0x00 0x00 0x12 0x00

/-- The envelope with this command, for an import. -/
def readDescriptorFor (importId : UInt32) : Envelope :=
  ⟨.usbip, UsbipFrame.encode ⟨importId, readDescriptor.encode⟩⟩

/-- A command that is answered, and one for another import, at which the pump stops. -/
theorem runPump_answers_readDescriptor :
    ∃ err s', (∀ fuel, ((readDescriptorFor 7).bytes ++ (readDescriptorFor 8).bytes).length < fuel →
        runPump Env.none 7 ⟨List.replicate 18 1, [], []⟩ fuel
          ⟨(readDescriptorFor 7).bytes ++ (readDescriptorFor 8).bytes, [], [], ()⟩ =
            some (.error err, s')) ∧
      Answers 7 (.submit readDescriptor) s'.output ∧ s'.input = [] := by
  obtain ⟨result, s', done, rest, replies, hrun, -, hframes, hout, hanswers, -, -, herror⟩ :=
    runPump_answers Env.none 7 ⟨List.replicate 18 1, [], []⟩
      ⟨(readDescriptorFor 7).bytes ++ (readDescriptorFor 8).bytes, [], [], ()⟩
  have hended : (runPump Env.none 7 ⟨List.replicate 18 1, [], []⟩ 200
      ⟨(readDescriptorFor 7).bytes ++ (readDescriptorFor 8).bytes, [], [], ()⟩).map
        (fun r => (r.1.toOption.isNone, r.2.output.length)) = some (true, 78) := by decide +kernel
  rw [hrun 200 (by decide), Option.map_some, Option.some.injEq, Prod.mk.injEq] at hended
  obtain ⟨hfailed, hlength⟩ := hended
  obtain ⟨err, rfl⟩ : ∃ err, result = .error err := by
    cases result with
    | error err => exact ⟨err, rfl⟩
    | ok stats => cases hfailed
  obtain ⟨bad, rest', rfl, -, hread⟩ := herror err rfl
  have hfits : ∀ e ∈ [readDescriptorFor 7, readDescriptorFor 8], e.Fits := by decide
  have hwire := Envelope.codec.frames_wire hfits
  rw [List.flatMap_cons, List.flatMap_singleton, hframes] at hwire
  refine ⟨err, s', hrun, ?_⟩
  -- something was written, so the first command was answered
  rcases done with _ | ⟨e, _ | ⟨e', done⟩⟩
  · cases hanswers
    rw [hout] at hlength
    cases hlength
  · obtain ⟨rfl, htail⟩ := List.cons.inj (hwire : e :: bad :: rest' = _)
    have hcmd : [readDescriptorFor 7].filterMap (commandOf 7) = [.submit readDescriptor] := by decide
    rw [hcmd] at hanswers
    obtain ⟨reply, _, hanswer, hnil, rfl⟩ := List.forall₂_cons_left_iff.1 hanswers
    cases hnil
    obtain ⟨rfl, -⟩ := List.cons.inj htail
    refine ⟨by simpa [hout] using hanswer, ?_⟩
    simpa using hread
  · simp at hwire

end Zerowire

/-
**Isochronous transfers and the pump of the phone.**

The protocol puts the descriptors of the packets of an isochronous transfer behind the transfer
buffer, sixteen bytes for each, and `number_of_packets` says how many there are.  The pump does not
look at this field.  What it takes for the next header starts with the first descriptor.

Main definitions:

* `Zerowire.IsoUrb` — a command packet with its descriptors;
* `Zerowire.UsbIpHost.Isochronous` — the commands that are isochronous submits;
* `Zerowire.unsupportedReply` — the reply with the status `-EOPNOTSUPP`.

Main results:

* `Zerowire.commandsOf_eq_iff` — when the pump takes given packets off a stream;
* `Zerowire.UsbIpHost.pumpUrbs_isochronous_iff` — **when the pump recovers the commands** and
  answers each of them.
-/

import Zerowire.UrbStream

set_option relaxedAutoImplicit false
set_option autoImplicit false

namespace Zerowire

open Bytes Program Jvm UsbIpFrame

/-! ### Packets with descriptors -/

/-- The size of the descriptors; a CMD_UNLINK has none. -/
def descriptorSize (raw : List UInt8) : ℕ :=
  if wordAt raw 0 = UrbOp.cmdSubmit.toU32 then 16 * (wordAt raw 32).toNat else 0

/-- **A command packet with its descriptors.** -/
structure IsoUrb extends Urb where
  descriptors : List UInt8
  length_descriptors : descriptors.length = descriptorSize raw

/-- A packet as it stands in the stream. -/
def IsoUrb.bytes (p : IsoUrb) : List UInt8 := p.raw ++ p.descriptors

/-- The transfer buffer of a packet has a size that is not negative as a signed integer. -/
def Urb.Sized (p : Urb) : Prop := transferSize p.raw < 2 ^ 31

instance (p : Urb) : Decidable p.Sized := inferInstanceAs (Decidable (_ < _))

theorem transferSize_of_unlink {raw : List UInt8} (h : wordAt raw 0 ≠ UrbOp.cmdSubmit.toU32) :
    transferSize raw = 0 := by
  rw [transferSize, bufferLength, if_neg h, ite_self]

/-- An OUT body of a size that is negative as a signed integer is not read. -/
theorem outBodySize_of_large {cmd : UsbIpFrame.CmdSubmit} {len : UInt32}
    (hlen : cmd.transferBufferLength = len.toInt32) (h : 2 ^ 31 ≤ len.toNat) :
    outBodySize cmd = 0 := by
  have hneg : cmd.transferBufferLength < 0 := by
    rw [hlen]
    exact (toInt32_lt_zero_iff len).2 h
  rw [outBodySize, if_neg]
  rintro ⟨-, hpos⟩
  exact Int32.lt_irrefl (Int32.lt_trans hpos hneg)

/-- A body is not read if the direction is not OUT. -/
theorem outBodySize_of_not_out {cmd : UsbIpFrame.CmdSubmit} {dir : UInt32}
    (hdir : cmd.direction = dir.toInt32) (h : dir ≠ urbDirOut) : outBodySize cmd = 0 := by
  rw [outBodySize, if_neg]
  rintro ⟨hout, -⟩
  rw [hdir] at hout
  exact h (toInt32_eq_iff.1 hout)

/-- **The pump takes a packet to be as long as it is** exactly if its transfer buffer is sized. -/
theorem Urb.urbSize_raw_iff (p : Urb) : urbSize p.raw = p.raw.length ↔ p.Sized := by
  rw [p.length_raw, urbSize, Sized]
  by_cases hsubmit : wordAt p.raw 0 = UrbOp.cmdSubmit.toU32
  · rw [if_pos hsubmit, transferSize, bufferLength, if_pos hsubmit, Nat.add_left_cancel_iff]
    generalize hdir : wordAt p.raw 12 = dir
    generalize hlen : wordAt p.raw 24 = len
    have hdir' : (UsbIpFrame.CmdSubmit.ofHeader p.raw).direction = dir.toInt32 :=
      congrArg UInt32.toInt32 hdir
    have hlen' : (UsbIpFrame.CmdSubmit.ofHeader p.raw).transferBufferLength = len.toInt32 :=
      congrArg UInt32.toInt32 hlen
    by_cases hout : dir = urbDirOut
    · rw [if_pos hout]
      by_cases hsmall : len.toNat < 2 ^ 31
      · rw [outBodySize_of hdir' hlen' hsmall, if_pos hout]
        exact iff_of_true rfl hsmall
      · rw [outBodySize_of_large hlen' (Nat.le_of_not_lt hsmall)]
        exact iff_of_false (by omega) hsmall
    · rw [if_neg hout, outBodySize_of_not_out hdir' hout]
      exact iff_of_true rfl (by omega)
  · rw [if_neg hsubmit, transferSize_of_unlink hsubmit]
    exact iff_of_true rfl (by omega)

/-- **When the pump takes given packets off a stream**: they stand at its front, one after the
other, and what is behind them does not start a whole command. -/
theorem commandsOf_eq_iff {stream : List UInt8} {packets : List Urb} :
    commandsOf stream = packets.map Urb.raw ↔
      ∃ rest, stream = packets.flatMap Urb.raw ++ rest ∧ (∀ p ∈ packets, p.Sized) ∧
        ∀ r, takeUrb rest ≠ .ok (some r) := by
  have hexact {b raw : List UInt8} {n : ℕ} (h : takeUrb b = .ok (some (raw, n))) :
      (IsCommand raw ∧ urbSize raw = raw.length) ∧ b = raw ++ b.drop n := by
    obtain ⟨hcmd, hsize, rfl, rfl⟩ := takeUrb_eq_some.1 h
    have hle := le_urbSize b
    have hlen : (b.take (urbSize b)).length = urbSize b := by
      rw [List.length_take, Nat.min_eq_left hsize]
    refine ⟨⟨?_, ?_⟩, (List.take_append_drop _ _).symm⟩
    · rwa [IsCommand, wordAt_take (Nat.le_trans (by decide) hle)]
    · have happend := urbSize_append (b.drop (urbSize b)) (b := b.take (urbSize b)) (by omega)
      rw [List.take_append_drop] at happend
      rw [hlen, ← happend]
  rw [commandsOf, takeUrb_codec.frames_eq_iff hexact]
  refine exists_congr fun rest => ?_
  rw [List.flatMap_map, List.forall_mem_map]
  refine and_congr_right fun _ => and_congr_left fun _ => forall₂_congr fun p _ => ?_
  rw [p.urbSize_raw_iff]
  exact and_iff_right p.isCommand

/-- The reply with the status `-EOPNOTSUPP`. -/
def unsupportedReply (importId : UInt32) (raw : List UInt8) : List UInt8 :=
  (⟨.usbip, UsbipFrame.encode
    ⟨importId, RetSubmit.encode ⟨wordAt raw 4, 0, 0, 0, -95, 0, 0, 0, 0⟩⟩⟩ : Envelope).bytes

/-- The header of a RET_SUBMIT can be told from its envelope. -/
theorem RetSubmit.envelope_inj {importId : UInt32} {r r' : RetSubmit}
    (h : (⟨.usbip, UsbipFrame.encode ⟨importId, r.encode⟩⟩ : Envelope).bytes =
      (⟨.usbip, UsbipFrame.encode ⟨importId, r'.encode⟩⟩ : Envelope).bytes) : r = r' := by
  have hlen (r : RetSubmit) : 4 + r.encode.length < 2 ^ 32 := by
    rw [RetSubmit.length_encode]
    decide
  have hparse := congrArg (fun packet => RetSubmit.parse (packet ++ []))
    (packet_inj (hlen r) (hlen r') h)
  simp only [RetSubmit.parse_encode] at hparse
  exact Except.ok.inj hparse

/-- A reply is an envelope. -/
theorem Replies.envelope {importId : UInt32} {raw b : List UInt8} (h : Replies importId raw b) :
    ∃ e : Envelope, e.payload.length < 2 ^ 32 ∧ b = e.bytes := by
  obtain ⟨packet, rfl, hlen, -⟩ := h
  refine ⟨_, ?_, rfl⟩
  rw [UsbipFrame.encode, List.length_append, length_toBe32]
  simp only
  omega

namespace UsbIpHost

variable {τ : Type}

/-- **An isochronous CMD_SUBMIT**, by the tables of the pump. -/
def Isochronous (host : UsbIpHost) (raw : List UInt8) : Prop :=
  let cmd := UsbIpFrame.CmdSubmit.ofHeader raw
  wordAt raw 0 = UrbOp.cmdSubmit.toU32 ∧ cmd.isControl = false ∧
    (host.endpointsByAddr (epAddress cmd.direction cmd.ep)).isSome = true ∧
    host.endpointTypeByAddr (epAddress cmd.direction cmd.ep) = some xferIsoc

section Answer

variable {host : UsbIpHost} (env : Env usbSig τ) {raw : List UInt8} {st : Finset Int32 × τ}

/-- An isochronous submit is answered without a transfer, as unlinked or as unsupported. -/
theorem answer_of_isochronous (h : host.Isochronous raw) :
    (host.answer env raw st).1 = some (host.envelopeOf
      (retSubmitPacket (UsbIpFrame.CmdSubmit.ofHeader raw).seqnum
        ⟨if (UsbIpFrame.CmdSubmit.ofHeader raw).seqnum ∈ st.1 then -104 else -95, 0, []⟩)) := by
  obtain ⟨hsubmit, hcontrol, hep, htype⟩ := h
  obtain ⟨ep, hep⟩ := Option.isSome_iff_exists.1 hep
  have hplan : host.plan st.1 (UsbIpFrame.CmdSubmit.ofHeader raw) =
      .status (if (UsbIpFrame.CmdSubmit.ofHeader raw).seqnum ∈ st.1 then -104 else -95) := by
    have hother : ¬ (xferIsoc = xferBulk ∨ xferIsoc = xferInt) := by decide
    rw [plan, hcontrol, hep, htype]
    by_cases hin : (UsbIpFrame.CmdSubmit.ofHeader raw).seqnum ∈ st.1
    · rw [if_pos hin, if_pos hin]
    · simp only [hin, if_false, Bool.false_eq_true, Option.getD_some, hother]
  rw [answer, if_pos hsubmit]
  simp only [hplan, carryOut, Option.bind_some]
  exact replyOf_of_le host _ (by simp)

/-- It is answered as unsupported exactly if it has not been unlinked. -/
theorem unsupported_iff (h : host.Isochronous raw) {e : Envelope}
    (he : (host.answer env raw st).1 = some e) :
    e.bytes = unsupportedReply host.importId.toUInt32 raw ↔
      (UsbIpFrame.CmdSubmit.ofHeader raw).seqnum ∉ st.1 := by
  rw [answer_of_isochronous env h] at he
  obtain rfl := Option.some.inj he
  have hseqnum : (UsbIpFrame.CmdSubmit.ofHeader raw).seqnum.toUInt32 = wordAt raw 4 :=
    UInt32.toUInt32_toInt32 _
  by_cases hin : (UsbIpFrame.CmdSubmit.ofHeader raw).seqnum ∈ st.1
  · refine iff_of_false ?_ (not_not.2 hin)
    intro hbytes
    rw [if_pos hin, envelopeOf, retSubmitPacket, List.append_nil, unsupportedReply] at hbytes
    have hstatus : (-104 : Int32) = -95 :=
      congrArg RetSubmit.status (RetSubmit.envelope_inj hbytes)
    exact absurd hstatus (by decide)
  · refine iff_of_true ?_ hin
    rw [if_neg hin, envelopeOf, retSubmitPacket, hseqnum, List.append_nil]
    rfl

end Answer

/-- **The pump recovers the commands of a stream with descriptors and answers each of them**, an
isochronous submit as unsupported, in the following case only.  The transfer buffers are sized;
without the descriptors the stream would begin in the same way, and what it has in excess does not
start a whole command; and when its turn comes every command can be answered, and no isochronous one
has been unlinked. -/
theorem pumpUrbs_isochronous_iff (host : UsbIpHost) (env : Env usbSig τ)
    (hstop : ∀ t, env .stopped t = (false, t)) {packets : List IsoUrb} {s : Io (Finset Int32 × τ)}
    (hs : s.input = packets.flatMap IsoUrb.bytes) (hout : s.output = []) :
    (commandsOf s.input = packets.map (fun p => p.raw) ∧
      ∃ s' replies,
        (∀ fuel, s.input.length < fuel → host.pumpUrbs env fuel s = some (.ok (), s')) ∧
        s'.output = replies.flatten ∧
        List.Forall₂ (fun (p : IsoUrb) bytes => Replies host.importId.toUInt32 p.raw bytes ∧
          (host.Isochronous p.raw → bytes = unsupportedReply host.importId.toUInt32 p.raw))
          packets replies) ↔
    (∀ p ∈ packets, p.Sized) ∧
      (∃ rest, packets.flatMap IsoUrb.bytes = packets.flatMap (fun p => p.raw) ++ rest ∧
        ∀ r, takeUrb rest ≠ .ok (some r)) ∧
      Transducer.Always (host.answer env) (fun raw st => host.CanAnswer env raw st ∧
          (host.Isochronous raw → (UsbIpFrame.CmdSubmit.ofHeader raw).seqnum ∉ st.1))
        (packets.map fun p => p.raw) s.env := by
  have hcommands : commandsOf s.input = packets.map (fun p => p.raw) ↔
      (∀ p ∈ packets, p.Sized) ∧ ∃ rest, packets.flatMap IsoUrb.bytes =
        packets.flatMap (fun p => p.raw) ++ rest ∧ ∀ r, takeUrb rest ≠ .ok (some r) := by
    have h := @commandsOf_eq_iff s.input (packets.map IsoUrb.toUrb)
    rw [List.map_map, List.flatMap_map, List.forall_mem_map, hs] at h
    rw [hs]
    refine h.trans ?_
    constructor
    · rintro ⟨rest, hrest, hsized, hnone⟩
      exact ⟨hsized, rest, hrest, hnone⟩
    · rintro ⟨hsized, rest, hrest, hnone⟩
      exact ⟨rest, hrest, hsized, hnone⟩
  rw [← and_assoc, ← hcommands]
  refine and_congr_right fun hcmds => ?_
  have hok := pumpUrbs_ok_iff env hstop host s
  have hsmall : ∀ e ∈ (Transducer.run (host.answer env) (packets.map fun p => p.raw) s.env).outputs,
      e.payload.length < 2 ^ 32 :=
    Transducer.forall_outputs fun raw _ st e he => Nat.lt_trans (length_answer he) (by omega)
  rw [hcmds] at hok
  rw [hout] at hok
  have hcan : (Transducer.run (host.answer env) (packets.map fun p => p.raw) s.env).completed = true ↔
      Transducer.Always (host.answer env) (host.CanAnswer env) (packets.map fun p => p.raw) s.env :=
    Transducer.completed_iff_always fun raw _ st => answer_isSome_iff host env raw st
  -- a reply to a packet, and the unsupported one to an isochronous packet
  have hR {outputs : List Envelope} : List.Forall₂ (fun (p : IsoUrb) bytes =>
        Replies host.importId.toUInt32 p.raw bytes ∧
          (host.Isochronous p.raw → bytes = unsupportedReply host.importId.toUInt32 p.raw))
        packets (outputs.map Envelope.bytes) ↔
      List.Forall₂ (fun raw (e : Envelope) => Replies host.importId.toUInt32 raw e.bytes ∧
          (host.Isochronous raw → e.bytes = unsupportedReply host.importId.toUInt32 raw))
        (packets.map fun p => p.raw) outputs := by
    rw [List.forall₂_map_right_iff, List.forall₂_map_left_iff]
  rw [Transducer.always_and, ← hcan]
  constructor
  · rintro ⟨s', replies, hrun, hflat, hreplies⟩
    obtain ⟨hc, hbytes⟩ := (hok replies.flatten).1 ⟨s', hrun, hflat⟩
    have henvelopes : ∀ b ∈ replies, ∃ e : Envelope, e.payload.length < 2 ^ 32 ∧ b = e.bytes := by
      have hflip : List.Forall₂ (fun b p => (∃ e : Envelope, e.payload.length < 2 ^ 32 ∧
          b = e.bytes) ∧ Replies host.importId.toUInt32 p.raw b) replies packets :=
        hreplies.flip.imp fun b p h => ⟨h.1.envelope, h.1⟩
      exact ((List.forall₂_and_left _ _).1 hflip).1
    rw [Envelope.eq_map_bytes hsmall henvelopes hbytes] at hreplies
    refine ⟨hc, Transducer.always_of_forall₂ ?_ (hR.1 hreplies)⟩
    intro raw _ st e he hr hiso
    exact (unsupported_iff env hiso he).1 (hr.2 hiso)
  · rintro ⟨hc, hnot⟩
    obtain ⟨s', hrun, hflat⟩ := (hok _).2 ⟨hc, rfl⟩
    refine ⟨s', _, hrun, hflat.trans ((List.nil_append _).trans (List.flatMap_def ..)), hR.2 ?_⟩
    refine Transducer.forall₂_of_always ?_ hc hnot
    intro raw _ st e he hiso
    exact ⟨answer_replies host env he, fun h => (unsupported_iff env h he).2 (hiso h)⟩

/-- A pump with one isochronous endpoint. -/
def isoHost : UsbIpHost := addEndpoint ⟨7, fun _ => none, fun _ => none, []⟩ ⟨0x81, xferIsoc, 0⟩

/-- A submit with one descriptor. -/
def isoIn : IsoUrb where
  raw := CmdSubmit.encode ⟨1, 0, 1, 1, 0, 192, 0, 1, 1, .zero⟩
  isCommand := by
    rw [IsCommand]
    decide
  length_raw := by decide
  descriptors := List.replicate 16 0
  length_descriptors := by decide

theorem isoIn_isochronous : isoHost.Isochronous isoIn.raw := by
  rw [Isochronous]
  decide

/-- At the end of the stream a descriptor does no harm. -/
theorem pumpUrbs_isoIn :
    ∃ s', (∀ fuel, isoIn.bytes.length < fuel → isoHost.pumpUrbs fullTransfers fuel
        ⟨isoIn.bytes, [], [], (∅, ())⟩ = some (.ok (), s')) ∧
      ∃ bytes, s'.output = [bytes].flatten ∧ bytes = unsupportedReply 7 isoIn.raw := by
  have hinput : (⟨isoIn.bytes, [], [], (∅, ())⟩ : Io (Finset Int32 × Unit)).input =
      [isoIn].flatMap IsoUrb.bytes := by simp
  have hcan : isoHost.CanAnswer fullTransfers isoIn.raw (∅, ()) := by
    rw [← answer_isSome_iff, answer_of_isochronous _ isoIn_isochronous]
    rfl
  obtain ⟨-, s', replies, hrun, hflat, hreplies⟩ := (pumpUrbs_isochronous_iff isoHost fullTransfers
    (fun _ => rfl) hinput rfl).2
    ⟨by decide, ⟨List.replicate 16 0, rfl, Junk.not_take (Or.inl (by decide))⟩,
      ⟨hcan, fun _ => by decide⟩, fun _ => trivial⟩
  obtain ⟨bytes, _, ⟨-, hiso⟩, hnil, rfl⟩ := List.forall₂_cons_left_iff.1 hreplies
  obtain rfl := List.forall₂_nil_left_iff.1 hnil
  exact ⟨s', hrun, bytes, hflat, hiso isoIn_isochronous⟩

/-- Before another command it makes the pump lose that command. -/
theorem pumpUrbs_isoIn_unlinkOne :
    ∃ s', (∀ fuel, (isoIn.bytes ++ unlinkOne.raw).length < fuel →
        isoHost.pumpUrbs fullTransfers fuel
          ⟨isoIn.bytes ++ unlinkOne.raw, [], [], (∅, ())⟩ = some (.ok (), s')) ∧
      s'.output = unsupportedReply 7 isoIn.raw := by
  have hnone : ∀ r, takeUrb (isoIn.descriptors ++ unlinkOne.raw) ≠ .ok (some r) := by
    intro r h
    have hcmd := (takeUrb_eq_some.1 h).1
    rw [IsCommand] at hcmd
    exact absurd hcmd (by decide)
  have hcommands : commandsOf (isoIn.bytes ++ unlinkOne.raw) = [isoIn.raw] := by
    refine (@commandsOf_eq_iff _ [isoIn.toUrb]).2
      ⟨isoIn.descriptors ++ unlinkOne.raw, ?_, by decide, hnone⟩
    rw [List.flatMap_singleton, IsoUrb.bytes, List.append_assoc]
  obtain ⟨e, he⟩ : ∃ e, (isoHost.answer fullTransfers isoIn.raw (∅, ())).1 = some e :=
    ⟨_, answer_of_isochronous _ isoIn_isochronous⟩
  have hbytes : e.bytes = unsupportedReply 7 isoIn.raw :=
    (unsupported_iff _ isoIn_isochronous he).2 (by decide)
  rcases hanswer : isoHost.answer fullTransfers isoIn.raw (∅, ()) with ⟨r, st⟩
  rw [hanswer] at he
  obtain rfl : r = some e := he
  have hok := pumpUrbs_ok_iff fullTransfers (fun _ => rfl) isoHost
    ⟨isoIn.bytes ++ unlinkOne.raw, [], [], (∅, ())⟩ e.bytes
  simp only [hcommands, Transducer.run_cons_some hanswer] at hok
  rw [← hbytes]
  exact hok.2 ⟨rfl, (List.flatMap_singleton _ _).symm⟩

end UsbIpHost

end Zerowire

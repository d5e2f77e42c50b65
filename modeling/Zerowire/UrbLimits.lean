/-
**What the other side can read of the pump of the phone.**

An envelope has a cap on its payload, `Zerowire.maxPayload`.  Every decoder enforces it, and so does
the encoder of the desktop; the encoder of the phone does not.  The size of a reply is chosen by the
peer, who asks for so many bytes of an IN transfer, and by the device, which delivers them.

Main definitions:

* `Zerowire.UsbIpHost.written` — the envelopes that a run writes;
* `Zerowire.UsbIpHost.Readable` — when the reply to a command respects the cap.

Main results:

* `Zerowire.UsbIpHost.round_fits_iff` — the replies that respect the cap;
* `Zerowire.UsbIpHost.pumpUrbs_readable_iff` — **when the other side can read every envelope.**
-/

import Zerowire.UrbStream

set_option relaxedAutoImplicit false
set_option autoImplicit false

namespace Zerowire

open Bytes Program Jvm UsbIpFrame

/-- An envelope is read back exactly if it respects the cap. -/
theorem Envelope.parse_bytes_iff {e : Envelope} :
    Envelope.parse e.bytes = .ok (some (e, e.bytes.length)) ↔ e.Fits := by
  rw [Envelope.parse_eq_some_iff]
  refine ⟨And.left, fun h => ⟨h, rfl, [], (List.append_nil _).symm⟩⟩

namespace UsbIpHost

variable {τ : Type} (host : UsbIpHost) (env : Env usbSig τ)

/-- **The envelopes that a run writes** (`UsbIpHost.pumpUrbs_outputs`). -/
def written (s : Io (Finset Int32 × τ)) : List Envelope :=
  (Transducer.run (host.round env) (commandsOf s.input) s.env).outputs

/-- **When the reply to a command respects the cap**: it is not an IN transfer, or the API returns
at most `maxPayload - 52` bytes.  If it returns more than `2 ^ 31 - 53`, there is no reply at all
(`UsbIpHost.CanAnswer`), and after a stop there is none either. -/
def Readable (raw : List UInt8) (st : Finset Int32 × τ) : Prop :=
  let cmd := UsbIpFrame.CmdSubmit.ofHeader raw
  let buf := List.replicate cmd.transferBufferLength.toNatClampNeg 0
  let t := (env .stopped st.2).2
  (env .stopped st.2).1 = false → wordAt raw 0 = UrbOp.cmdSubmit.toU32 → ∀ tr timeout,
    host.plan st.1 cmd = .transfer true tr timeout → ¬ cmd.transferBufferLength < 0 →
      ∀ n buf', (env (.transfer tr buf (size buf) timeout) t).1 = some (n, buf') →
        n.toInt ≤ maxPayload - 52 ∨ 2 ^ 31 - 53 < n.toInt

variable {host env}

/-- A reply without data respects the cap. -/
theorem fits_of_nil {seqnum : Int32} {o : Outcome} (ho : o.data = []) {e : Envelope}
    (h : host.replyOf seqnum o = some e) : e.Fits := by
  have hlen := (length_replyOf host h).1
  rw [ho, List.length_nil] at hlen
  rw [Envelope.Fits, hlen, maxPayload]
  omega

/-- The reply to an IN transfer respects the cap if the transfer brings little enough, or so much
that there is no reply. -/
theorem fits_ofTransfer_iff {seqnum : Int32} {k : ℕ} {n : Int32}
    {buf : { b : List UInt8 // b.length = k }} :
    (∀ e, host.replyOf seqnum (.ofTransfer true (some (n, buf))) = some e → e.Fits) ↔
      n.toInt ≤ maxPayload - 52 ∨ 2 ^ 31 - 53 < n.toInt := by
  have hdata := length_ofTransfer_in (n := n) buf
  have hclamp : n.toNatClampNeg = n.toInt.toNat := rfl
  rw [maxPayload]
  constructor
  · intro h
    by_cases hfits : 52 + (Outcome.ofTransfer true (some (n, buf))).data.length < 2 ^ 31
    · have hcap := h _ (replyOf_of_le host seqnum hfits)
      have hlen := (length_replyOf host (replyOf_of_le host seqnum hfits)).1
      rw [Envelope.Fits, hlen, hdata, hclamp, maxPayload] at hcap
      omega
    · rw [hdata, hclamp] at hfits
      omega
  · intro h e he
    obtain ⟨hlen, hsize⟩ := length_replyOf host he
    rw [hdata, hclamp] at hlen hsize
    rw [Envelope.Fits, hlen, maxPayload]
    omega

/-- A plan is carried out to a reply that respects the cap, or to none. -/
theorem fits_carryOut (cmd : UsbIpFrame.CmdSubmit) (outBody : List UInt8) (t : τ) (plan : Plan) :
    (∀ e, (carryOut env cmd outBody t plan).1.bind (host.replyOf cmd.seqnum) = some e → e.Fits) ↔
      ∀ tr timeout, plan = .transfer true tr timeout → ¬ cmd.transferBufferLength < 0 →
        ∀ n buf', (env (.transfer tr (List.replicate cmd.transferBufferLength.toNatClampNeg 0)
          (size (List.replicate cmd.transferBufferLength.toNatClampNeg 0)) timeout) t).1 =
            some (n, buf') → n.toInt ≤ maxPayload - 52 ∨ 2 ^ 31 - 53 < n.toInt := by
  have hsmall (o : Outcome) (ho : o.data = []) (e : Envelope)
      (he : (some o).bind (host.replyOf cmd.seqnum) = some e) : e.Fits := fits_of_nil ho he
  rw [carryOut_iff env (Q := fun o => ∀ e, o.bind (host.replyOf cmd.seqnum) = some e → e.Fits)
    hsmall]
  simp only [Option.bind_some, Option.bind_none, fits_ofTransfer_iff]
  refine forall_congr' fun tr => forall_congr' fun timeout => imp_congr_right fun _ => ?_
  simp

/-- **The replies that respect the cap.** -/
theorem round_fits_iff (raw : List UInt8) (st : Finset Int32 × τ) :
    (∀ e, (host.round env raw st).1 = some e → e.Fits) ↔ host.Readable env raw st := by
  rw [round, Readable]
  by_cases hstop : (env .stopped st.2).1 = true
  · simp [hstop]
  rw [if_neg hstop, answer]
  simp only [Bool.not_eq_true] at hstop
  by_cases hsubmit : wordAt raw 0 = UrbOp.cmdSubmit.toU32
  · rw [if_pos hsubmit]
    simp only [hstop, hsubmit, forall_const]
    exact fits_carryOut _ _ _ _
  · rw [if_neg hsubmit]
    refine iff_of_true ?_ fun _ h => absurd h hsubmit
    rintro e ⟨⟩
    rw [Envelope.Fits, envelopeOf, UsbipFrame.encode, retUnlinkPacket, List.length_append,
      length_toBe32, RetUnlink.length_encode, urbHeaderLen, maxPayload]
    omega

/-- **The other side can read every envelope that the pump writes** exactly if every reply respects
the cap when its turn comes.  The pump may be stopped at any time. -/
theorem pumpUrbs_readable_iff (s : Io (Finset Int32 × τ)) :
    (∃ result s', (∀ fuel, s.input.length < fuel → host.pumpUrbs env fuel s = some (result, s')) ∧
      s'.output = s.output ++ (host.written env s).flatMap Envelope.bytes) ∧
    ((∀ e ∈ host.written env s, Envelope.parse e.bytes = .ok (some (e, e.bytes.length))) ↔
      Transducer.Always (host.round env) (host.Readable env) (commandsOf s.input) s.env) := by
  refine ⟨host.pumpUrbs_outputs env s, ?_⟩
  simp only [Envelope.parse_bytes_iff]
  exact Transducer.forall_outputs_iff fun raw _ st => (round_fits_iff raw st).symm

/-- A request for as many bytes as the payload of an envelope may have. -/
def mebibyteIn : Urb where
  raw := CmdSubmit.encode ⟨1, 0, 1, 1, 0, 0x100000, 0, 0, 0, .zero⟩
  isCommand := by
    rw [IsCommand]
    decide
  length_raw := by decide

/-- The reply to it is written, and the other side cannot read it. -/
theorem written_mebibyteIn :
    ∃ e ∈ bulkInHost.written fullTransfers ⟨mebibyteIn.raw, [], [], (∅, ())⟩,
      Envelope.parse e.bytes ≠ .ok (some (e, e.bytes.length)) := by
  have hlength : ∀ p ∈ [mebibyteIn], bufferLength p.raw < 2 ^ 31 := by decide
  have hcommands : commandsOf mebibyteIn.raw = [mebibyteIn.raw] := by
    have h := commandsOf_packets hlength (Or.inl (by decide) : Junk [])
    rwa [List.flatMap_singleton, List.append_nil, List.map_singleton] at h
  have hunreadable : ¬ bulkInHost.Readable fullTransfers mebibyteIn.raw (∅, ()) := by
    rw [Readable]
    intro h
    have hlen : (UsbIpFrame.CmdSubmit.ofHeader mebibyteIn.raw).transferBufferLength.toNatClampNeg =
        2 ^ 20 := by decide
    have hsize := toInt_size (a := List.replicate (2 ^ 20) 0) (by
      rw [List.length_replicate]
      omega)
    rw [List.length_replicate] at hsize
    have hle := h rfl (by decide) (.bulkTransfer bulkIn) 5000 (by decide) (by decide) _ _ rfl
    rw [hlen, hsize, maxPayload] at hle
    omega
  rw [← round_fits_iff] at hunreadable
  simp only [not_forall] at hunreadable
  obtain ⟨e, he, hfits⟩ := hunreadable
  refine ⟨e, ?_, fun h => hfits (Envelope.parse_bytes_iff.1 h)⟩
  rcases hround : bulkInHost.round fullTransfers mebibyteIn.raw (∅, ()) with ⟨r, st⟩
  rw [hround] at he
  obtain rfl : r = some e := he
  rw [written, hcommands, Transducer.run_cons_some hround]
  exact List.mem_cons_self

end UsbIpHost

end Zerowire

/-
**The pump of the phone on a stream of commands.**

`Zerowire/UsbIpHost.lean` says what the pump does with whatever bytes arrive.  Here the bytes are
those of a peer that keeps to the protocol: packets one after the other, and possibly something
unusable behind them.  Every command gets one reply, as long as each reply can be built: a reply is
a Java array, whose size is a signed 32-bit integer, and the array for an IN transfer of almost
`2 ^ 31` bytes cannot be created.  The exception that is thrown then is none that the pump catches.

Main definitions:

* `Zerowire.Urb` — a command packet as it stands in the stream;
* `Zerowire.Junk` — what may follow the packets;
* `Zerowire.Replies` — the bytes of the reply to a packet;
* `Zerowire.UsbIpHost.CanAnswer` — when a command can be answered.

Main results:

* `Zerowire.commandsOf_packets` — the packets are what the pump takes off the stream;
* `Zerowire.UsbIpHost.answer_isSome_iff`, `Zerowire.UsbIpHost.answer_replies` — a command that can
  be answered gets its reply;
* `Zerowire.UsbIpHost.pumpUrbs_answers_iff` — **one reply for every command**, in order.
-/

import Zerowire.UsbIpHost

set_option relaxedAutoImplicit false
set_option autoImplicit false

namespace Zerowire

open Bytes Program Jvm UsbIpFrame

/-! ### Packets -/

/-- `transfer_buffer_length` of a packet; a CMD_UNLINK has none. -/
def bufferLength (raw : List UInt8) : ℕ :=
  if wordAt raw 0 = UrbOp.cmdSubmit.toU32 then (wordAt raw 24).toNat else 0

/-- How many bytes of transfer buffer follow the header. -/
def transferSize (raw : List UInt8) : ℕ :=
  if wordAt raw 12 = urbDirOut then bufferLength raw else 0

/-- **A command packet**: a header, and behind it the transfer buffer if the direction is OUT. -/
structure Urb where
  raw : List UInt8
  isCommand : IsCommand raw
  length_raw : raw.length = urbHeaderLen + transferSize raw

/-- The commands that the pump takes off a stream (`UsbIpHost.pumpUrbs_eq`). -/
def commandsOf (stream : List UInt8) : List (List UInt8) := StreamCodec.frames takeUrb stream

theorem outBodySize_of {cmd : UsbIpFrame.CmdSubmit} {dir len : UInt32}
    (hdir : cmd.direction = dir.toInt32) (hlen : cmd.transferBufferLength = len.toInt32)
    (h : len.toNat < 2 ^ 31) :
    outBodySize cmd = if dir = urbDirOut then len.toNat else 0 := by
  have hout : cmd.direction = dirOut ↔ dir = urbDirOut := by
    rw [hdir]
    exact toInt32_eq_iff
  have hval : cmd.transferBufferLength.toInt = len.toNat := by rw [hlen, toInt_toInt32 h]
  have hpos : cmd.transferBufferLength > 0 ↔ 0 < len.toNat := by
    rw [gt_iff_lt, Int32.lt_iff_toInt_lt, hval, Int32.toInt_zero]
    omega
  have hclamp : cmd.transferBufferLength.toNatClampNeg = len.toNat := by
    rw [Int32.toNatClampNeg, hval, Int.toNat_natCast]
  rw [outBodySize, hclamp]
  by_cases hd : dir = urbDirOut
  · by_cases hp : 0 < len.toNat
    · rw [if_pos ⟨hout.2 hd, hpos.2 hp⟩, if_pos hd]
    · rw [if_neg (fun hc => hp (hpos.1 hc.2)), if_pos hd]
      omega
  · rw [if_neg (fun hc => hd (hout.1 hc.1)), if_neg hd]

/-- The pump reads the transfer buffer that the protocol puts there, if its length is not negative
when read as a signed integer. -/
theorem outBodySize_eq {raw : List UInt8} (hcmd : wordAt raw 0 = UrbOp.cmdSubmit.toU32)
    (h : bufferLength raw < 2 ^ 31) :
    outBodySize (UsbIpFrame.CmdSubmit.ofHeader raw) = transferSize raw := by
  rw [bufferLength, if_pos hcmd] at h
  rw [transferSize, bufferLength, if_pos hcmd]
  generalize hdir : wordAt raw 12 = dir
  generalize hlen : wordAt raw 24 = len at h
  exact outBodySize_of (congrArg UInt32.toInt32 hdir) (congrArg UInt32.toInt32 hlen) h

theorem urbSize_eq {raw : List UInt8} (h : bufferLength raw < 2 ^ 31) :
    urbSize raw = urbHeaderLen + transferSize raw := by
  rw [urbSize]
  by_cases hsubmit : wordAt raw 0 = UrbOp.cmdSubmit.toU32
  · rw [if_pos hsubmit, outBodySize_eq hsubmit h]
  · rw [if_neg hsubmit, transferSize, bufferLength, if_neg hsubmit, ite_self, Nat.add_zero]

/-- **Packets are read back** by the reading of the pump, as long as their lengths are not
negative. -/
theorem takeUrb_codec : StreamCodec.Codec takeUrb (fun p : List UInt8 => p)
    (fun raw => IsCommand raw ∧ urbSize raw = raw.length) where
  toStable := takeUrb_stable
  round := by
    rintro raw rest ⟨hcmd, hsize⟩
    have hle : urbHeaderLen ≤ raw.length := by
      rw [← hsize]
      exact le_urbSize raw
    have happend := urbSize_append rest hle
    refine takeUrb_eq_some.2 ⟨?_, ?_, by rw [happend, hsize], by rw [List.take_left' rfl]⟩
    · rwa [IsCommand, wordAt_append rest (Nat.le_trans (by decide) hle)]
    · rw [happend, hsize, List.length_append]
      omega

theorem Urb.urbSize_raw (p : Urb) (h : bufferLength p.raw < 2 ^ 31) :
    urbSize p.raw = p.raw.length := by
  rw [urbSize_eq h, p.length_raw]

/-- What may follow the packets: less than a header, another command, or a packet that is cut
short. -/
def Junk (rest : List UInt8) : Prop :=
  rest.length < urbHeaderLen ∨ ¬ IsCommand rest ∨
    ∃ p : Urb, bufferLength p.raw < 2 ^ 31 ∧ ∃ t, t ≠ [] ∧ p.raw = rest ++ t

/-- Nothing is taken off what follows the packets. -/
theorem Junk.not_take {rest : List UInt8} (h : Junk rest) (r : List UInt8 × ℕ) :
    takeUrb rest ≠ .ok (some r) := by
  intro htake
  obtain ⟨raw, n⟩ := r
  rcases h with hshort | hcmd | ⟨p, hp, t, ht, hraw⟩
  · have hsize := (takeUrb_eq_some.1 htake).2.1
    have hle := le_urbSize rest
    omega
  · exact hcmd (takeUrb_eq_some.1 htake).1
  · -- a packet that is cut short is not taken to be a shorter one
    have hsize := (takeUrb_eq_some.1 htake).2.1
    have hle := Nat.le_trans (le_urbSize rest) hsize
    have hwhole := p.urbSize_raw hp
    rw [hraw, urbSize_append t hle, List.length_append] at hwhole
    have hpos : 0 < t.length := List.length_pos_iff.2 ht
    omega

/-- **The packets are what the pump takes off the stream.** -/
theorem commandsOf_packets {packets : List Urb} (h : ∀ p ∈ packets, bufferLength p.raw < 2 ^ 31)
    {rest : List UInt8} (hrest : Junk rest) :
    commandsOf (packets.flatMap Urb.raw ++ rest) = packets.map Urb.raw := by
  have hvalid : ∀ raw ∈ packets.map Urb.raw, IsCommand raw ∧ urbSize raw = raw.length := by
    intro raw hraw
    obtain ⟨p, hp, rfl⟩ := List.mem_map.1 hraw
    exact ⟨p.isCommand, p.urbSize_raw (h p hp)⟩
  have hframes := takeUrb_codec.frames_append hvalid rest
  rw [List.flatMap_map, StreamCodec.frames_eq_nil takeUrb_stable hrest.not_take,
    List.append_nil] at hframes
  exact hframes

/-! ### Replies -/

/-- **The reply to a packet**: one USB/IP envelope, its frame carries the `import_id` of the pump,
and in it is a RET_SUBMIT for a CMD_SUBMIT and a RET_UNLINK for a CMD_UNLINK, with the sequence
number of the command. -/
def Replies (importId : UInt32) (raw bytes : List UInt8) : Prop :=
  ∃ packet, bytes = (⟨.usbip, UsbipFrame.encode ⟨importId, packet⟩⟩ : Envelope).bytes ∧
    4 + packet.length < 2 ^ 31 ∧
    if wordAt raw 0 = UrbOp.cmdSubmit.toU32 then
      ∃ ret, RetSubmit.parse packet = .ok ret ∧ ret.seqnum = wordAt raw 4
    else ∃ ret, RetUnlink.parse packet = .ok ret ∧ ret.seqnum = wordAt raw 4

/-- The packet can be told from its envelope. -/
theorem packet_inj {importId : UInt32} {p p' : List UInt8} (h : 4 + p.length < 2 ^ 32)
    (h' : 4 + p'.length < 2 ^ 32)
    (heq : (⟨.usbip, UsbipFrame.encode ⟨importId, p⟩⟩ : Envelope).bytes =
      (⟨.usbip, UsbipFrame.encode ⟨importId, p'⟩⟩ : Envelope).bytes) : p = p' := by
  have hlen (q : List UInt8) : (UsbipFrame.encode ⟨importId, q⟩).length = 4 + q.length := by
    rw [UsbipFrame.encode, List.length_append, length_toBe32]
  have henvelope := (Envelope.bytes_append_inj (x := []) (y := []) ((hlen p).trans_lt h)
    ((hlen p').trans_lt h') (congrArg (· ++ []) heq)).1
  have hframe := (Envelope.mk.inj henvelope).2
  rw [UsbipFrame.encode, UsbipFrame.encode] at hframe
  exact List.append_cancel_left hframe

namespace UsbIpHost

variable {τ : Type}

/-- **When a command can be answered**: it is not an IN transfer, or the buffer of the transfer has
a size and not more than `2 ^ 31 - 53` bytes come back. -/
def CanAnswer (host : UsbIpHost) (env : Env usbSig τ) (raw : List UInt8) (st : Finset Int32 × τ) :
    Prop :=
  let cmd := UsbIpFrame.CmdSubmit.ofHeader raw
  let buf := List.replicate cmd.transferBufferLength.toNatClampNeg 0
  wordAt raw 0 = UrbOp.cmdSubmit.toU32 → ∀ t timeout,
    host.plan st.1 cmd = .transfer true t timeout →
      ¬ cmd.transferBufferLength < 0 ∧
      ∀ n buf', (env (.transfer t buf (size buf) timeout) st.2).1 = some (n, buf') →
        n.toInt ≤ 2 ^ 31 - 53

section Answer

variable (host : UsbIpHost) (env : Env usbSig τ)

theorem replyOf_of_le (seqnum : Int32) {o : Outcome} (h : 52 + o.data.length < 2 ^ 31) :
    host.replyOf seqnum o = some (host.envelopeOf (retSubmitPacket seqnum o)) := by
  rw [replyOf, if_pos h]

theorem replyOf_of_not_le (seqnum : Int32) {o : Outcome} (h : ¬ 52 + o.data.length < 2 ^ 31) :
    host.replyOf seqnum o = none := by
  rw [replyOf, if_neg h]

/-- The payload of a reply: four bytes of frame, the header and the data. -/
theorem length_replyOf {seqnum : Int32} {o : Outcome} {e : Envelope}
    (h : host.replyOf seqnum o = some e) :
    e.payload.length = 52 + o.data.length ∧ 52 + o.data.length < 2 ^ 31 := by
  by_cases hfits : 52 + o.data.length < 2 ^ 31
  · rw [replyOf_of_le _ _ hfits] at h
    obtain rfl := Option.some.inj h
    refine ⟨?_, hfits⟩
    rw [envelopeOf, UsbipFrame.encode, retSubmitPacket, List.length_append, List.length_append,
      length_toBe32, RetSubmit.length_encode, urbHeaderLen]
    omega
  · rw [replyOf_of_not_le _ _ hfits] at h
    cases h

/-- The size of the data that an IN transfer is answered with. -/
theorem length_ofTransfer_in {k : ℕ} {n : Int32} (buf : { b : List UInt8 // b.length = k }) :
    (Outcome.ofTransfer true (some (n, buf))).data.length = n.toNatClampNeg := by
  rw [Outcome.ofTransfer]
  by_cases hn : n < 0
  · have hzero : n.toNatClampNeg = 0 := by
      rw [Int32.lt_iff_toInt_lt, Int32.toInt_zero] at hn
      rw [Int32.toNatClampNeg]
      omega
    rw [if_pos hn, hzero]
    rfl
  · rw [if_neg hn]
    simp only [if_true]
    exact length_copied n buf.1 k buf.2

/-- A transfer that is not IN has no data. -/
theorem ofTransfer_out {k : ℕ} (r : Option (Int32 × { b : List UInt8 // b.length = k })) :
    (Outcome.ofTransfer false r).data = [] := by
  rcases r with _ | ⟨n, buf⟩
  · rfl
  · rw [Outcome.ofTransfer]
    by_cases hn : n < 0
    · rw [if_pos hn]
    · rw [if_neg hn]
      rfl

/-- **What comes of a plan** depends on the API only if it is an IN transfer: of anything else there
is an outcome without data. -/
theorem carryOut_iff {Q : Option Outcome → Prop} (hQ : ∀ o : Outcome, o.data = [] → Q (some o))
    (cmd : UsbIpFrame.CmdSubmit) (outBody : List UInt8) (t : τ) (plan : Plan) :
    Q (carryOut env cmd outBody t plan).1 ↔
      ∀ tr timeout, plan = .transfer true tr timeout →
        (cmd.transferBufferLength < 0 → Q none) ∧
        (¬ cmd.transferBufferLength < 0 →
          ∀ n buf', (env (.transfer tr (List.replicate cmd.transferBufferLength.toNatClampNeg 0)
            (size (List.replicate cmd.transferBufferLength.toNatClampNeg 0)) timeout) t).1 =
              some (n, buf') → Q (some (.ofTransfer true (some (n, buf'))))) := by
  -- only an IN transfer brings data from the API
  cases plan with
  | status status =>
      refine iff_of_true (hQ ⟨status, 0, []⟩ rfl) ?_
      intro tr timeout h
      cases h
  | transfer isIn tr timeout =>
      cases isIn with
      | false =>
          refine iff_of_true (hQ _ (ofTransfer_out _)) ?_
          intro tr' timeout' h
          cases h
      | true =>
          have hall (R : UsbTransfer → Int32 → Prop) :
              (∀ tr' timeout', Plan.transfer true tr timeout = .transfer true tr' timeout' →
                R tr' timeout') ↔ R tr timeout := by
            constructor
            · intro h
              exact h tr timeout rfl
            · rintro h _ _ ⟨⟩
              exact h
          rw [hall, carryOut, bufferOf, if_pos rfl]
          by_cases hneg : cmd.transferBufferLength < 0
          · simp [hneg]
          · simp only [hneg, if_false, not_false_eq_true, forall_const, false_implies, true_and]
            generalize env (.transfer tr (List.replicate cmd.transferBufferLength.toNatClampNeg 0)
              (size (List.replicate cmd.transferBufferLength.toNatClampNeg 0)) timeout) t = r
            rcases r with ⟨_ | ⟨n, buf'⟩, t'⟩
            · exact iff_of_true (hQ _ rfl) (by simp)
            · constructor
              · rintro h _ _ ⟨⟩
                exact h
              · intro h
                exact h n buf' rfl

/-- The reply to an IN transfer, by the size of what it brings. -/
theorem replyOf_ofTransfer_iff (seqnum : Int32) {k : ℕ} {n : Int32}
    (buf : { b : List UInt8 // b.length = k }) :
    (host.replyOf seqnum (.ofTransfer true (some (n, buf)))).isSome = true ↔
      n.toInt ≤ 2 ^ 31 - 53 := by
  have hdata := length_ofTransfer_in (n := n) buf
  have hclamp : n.toNatClampNeg = n.toInt.toNat := rfl
  by_cases hfits : 52 + (Outcome.ofTransfer true (some (n, buf))).data.length < 2 ^ 31
  · rw [replyOf_of_le _ _ hfits]
    rw [hdata, hclamp] at hfits
    exact iff_of_true rfl (by omega)
  · rw [replyOf_of_not_le _ _ hfits]
    rw [hdata, hclamp] at hfits
    exact iff_of_false (by simp) (by omega)

/-- A plan is carried out to an outcome that fits into a reply, or to none. -/
theorem replyOf_carryOut (cmd : UsbIpFrame.CmdSubmit) (outBody : List UInt8) (t : τ) (plan : Plan) :
    (((carryOut env cmd outBody t plan).1.bind (host.replyOf cmd.seqnum)).isSome = true) ↔
      ∀ tr timeout, plan = .transfer true tr timeout →
        ¬ cmd.transferBufferLength < 0 ∧
        ∀ n buf', (env (.transfer tr (List.replicate cmd.transferBufferLength.toNatClampNeg 0)
          (size (List.replicate cmd.transferBufferLength.toNatClampNeg 0)) timeout) t).1 =
            some (n, buf') → n.toInt ≤ 2 ^ 31 - 53 := by
  have hsmall (o : Outcome) (ho : o.data = []) :
      ((some o).bind (host.replyOf cmd.seqnum)).isSome = true := by
    rw [Option.bind_some, replyOf_of_le _ _ (by rw [ho, List.length_nil]; omega)]
    rfl
  rw [carryOut_iff env (Q := fun o => (o.bind (host.replyOf cmd.seqnum)).isSome = true) hsmall]
  simp only [Option.bind_some, Option.bind_none, replyOf_ofTransfer_iff]
  refine forall_congr' fun tr => forall_congr' fun timeout => imp_congr_right fun _ => ?_
  by_cases hneg : cmd.transferBufferLength < 0
  · simp [hneg]
  · simp [hneg]

/-- **When a command can be answered**, in terms of what comes of it. -/
theorem answer_isSome_iff (raw : List UInt8) (st : Finset Int32 × τ) :
    (host.answer env raw st).1.isSome = true ↔ host.CanAnswer env raw st := by
  rw [answer, CanAnswer]
  by_cases hsubmit : wordAt raw 0 = UrbOp.cmdSubmit.toU32
  · simp only [hsubmit, if_true, forall_const]
    exact replyOf_carryOut host env _ (raw.drop urbHeaderLen) st.2 _
  · simp [hsubmit]

/-- **What a command is answered with is its reply.** -/
theorem answer_replies {raw : List UInt8} {st : Finset Int32 × τ} {e : Envelope}
    (h : (host.answer env raw st).1 = some e) : Replies host.importId.toUInt32 raw e.bytes := by
  rw [answer] at h
  by_cases hsubmit : wordAt raw 0 = UrbOp.cmdSubmit.toU32
  · rw [if_pos hsubmit] at h
    obtain ⟨o, -, ho⟩ := Option.bind_eq_some_iff.1 h
    by_cases hfits : 52 + o.data.length < 2 ^ 31
    · rw [replyOf_of_le _ _ hfits] at ho
      obtain rfl := Option.some.inj ho
      refine ⟨retSubmitPacket _ o, rfl, ?_, ?_⟩
      · rw [retSubmitPacket, List.length_append, RetSubmit.length_encode, urbHeaderLen]
        omega
      · rw [if_pos hsubmit, retSubmitPacket]
        exact ⟨_, RetSubmit.parse_encode _ o.data, UInt32.toUInt32_toInt32 _⟩
    · rw [replyOf_of_not_le _ _ hfits] at ho
      cases ho
  · rw [if_neg hsubmit] at h
    obtain rfl := Option.some.inj h
    refine ⟨retUnlinkPacket _, rfl, ?_, ?_⟩
    · rw [retUnlinkPacket, RetUnlink.length_encode, urbHeaderLen]
      omega
    · have hparse := RetUnlink.parse_encode
        ⟨(UsbIpFrame.CmdUnlink.ofHeader raw).seqnum.toUInt32, 0, 0, 0, 0⟩ []
      rw [List.append_nil] at hparse
      rw [if_neg hsubmit, retUnlinkPacket]
      exact ⟨_, hparse, UInt32.toUInt32_toInt32 _⟩

variable {host env} in
/-- The payload of a reply has a length that a Java array can have. -/
theorem length_answer {raw : List UInt8} {st : Finset Int32 × τ} {e : Envelope}
    (h : (host.answer env raw st).1 = some e) : e.payload.length < 2 ^ 31 := by
  rw [answer] at h
  by_cases hsubmit : wordAt raw 0 = UrbOp.cmdSubmit.toU32
  · rw [if_pos hsubmit] at h
    obtain ⟨o, -, ho⟩ := Option.bind_eq_some_iff.1 h
    obtain ⟨hlen, hlt⟩ := length_replyOf _ ho
    rw [hlen]
    exact hlt
  · rw [if_neg hsubmit] at h
    obtain rfl := Option.some.inj h
    rw [envelopeOf, UsbipFrame.encode, retUnlinkPacket, List.length_append, length_toBe32,
      RetUnlink.length_encode, urbHeaderLen]
    omega

end Answer

/-! ### The calls of a run -/

section Trace

/-- What is logged of a run: the calls of the USB API. -/
def isApiCall : UsbOp → Bool
  | .stopped => false
  | _ => true

/-- The interface that a call has claimed. -/
def claimOf : Call usbSig → Option UsbInterface
  | ⟨.claimInterface iface _, true⟩ => some iface
  | _ => none

/-- The interface that a call releases. -/
def releaseOf : Call usbSig → Option UsbInterface
  | ⟨.releaseInterface iface, _⟩ => some iface
  | _ => none

/-- The interfaces that were claimed, in order. -/
def claims (trace : List (Call usbSig)) : List UsbInterface := trace.filterMap claimOf

/-- The interfaces that were released, in order. -/
def releases (trace : List (Call usbSig)) : List UsbInterface := trace.filterMap releaseOf

/-- The USB API with a log. -/
def logged (env : Env usbSig τ) : Env usbSig (List (Call usbSig) × τ) := env.traced isApiCall

theorem logged_stopped {env : Env usbSig τ} (hstop : ∀ t, env .stopped t = (false, t))
    (t : List (Call usbSig) × τ) : logged env .stopped t = (false, t) := by
  rw [logged, Env.traced, hstop]
  rfl

theorem logged_transfer (env : Env usbSig τ) (tr : UsbTransfer) (buf : List UInt8)
    (length timeout : Int32) (t : List (Call usbSig) × τ) :
    ∃ call, claimOf call = none ∧ releaseOf call = none ∧
      (logged env (.transfer tr buf length timeout) t).2.1 = t.1 ++ [call] := by
  refine ⟨⟨.transfer tr buf length timeout, (env (.transfer tr buf length timeout) t.2).1⟩,
    rfl, rfl, ?_⟩
  rw [logged, Env.traced_keep env (o := .transfer tr buf length timeout) rfl]

/-- Handling a command claims nothing and releases nothing. -/
theorem claims_answer (host : UsbIpHost) (env : Env usbSig τ) (raw : List UInt8)
    (st : Finset Int32 × List (Call usbSig) × τ) :
    claims (host.answer (logged env) raw st).2.2.1 = claims st.2.1 ∧
      releases (host.answer (logged env) raw st).2.2.1 = releases st.2.1 := by
  have hplan (cmd : UsbIpFrame.CmdSubmit) (outBody : List UInt8) (plan : Plan) :
      claims (carryOut (logged env) cmd outBody st.2 plan).2.1 = claims st.2.1 ∧
        releases (carryOut (logged env) cmd outBody st.2 plan).2.1 = releases st.2.1 := by
    cases plan with
    | status status => exact ⟨rfl, rfl⟩
    | transfer isIn tr timeout =>
        rw [carryOut]
        rcases bufferOf isIn cmd outBody with _ | buf
        · exact ⟨rfl, rfl⟩
        · obtain ⟨call, hclaim, hrelease, hlog⟩ :=
            logged_transfer env tr buf (size buf) timeout st.2
          simp only [hlog, claims, releases]
          simp [List.filterMap_append, hclaim, hrelease]
  rw [answer]
  by_cases hcmd : wordAt raw 0 = UrbOp.cmdSubmit.toU32
  · rw [if_pos hcmd]
    exact hplan _ _ _
  · rw [if_neg hcmd]
    exact ⟨rfl, rfl⟩

/-- Entering endpoints changes neither the number of the pump nor its interfaces. -/
theorem foldl_addEndpoint (host : UsbIpHost) (eps : List UsbEndpoint) :
    (eps.foldl addEndpoint host).importId = host.importId ∧
      (eps.foldl addEndpoint host).claimedInterfaces = host.claimedInterfaces := by
  induction eps generalizing host with
  | nil => exact ⟨rfl, rfl⟩
  | cons ep eps ih => exact ih (addEndpoint host ep)

/-- The pump notes an interface if it is claimed. -/
theorem exec_claim {ε : Type} (env : Env usbSig τ) (forceClaim : Bool) (host : UsbIpHost)
    (iface : UsbInterface) (s : Io (List (Call usbSig) × τ)) :
    ∃ host' s', exec (logged env)
    (initInterface.claim forceClaim host iface : Act usbSig ε UsbIpHost)
        s = (.ok host', s') ∧ host'.importId = host.importId ∧
      (claims s.env.1 = host.claimedInterfaces → claims s'.env.1 = host'.claimedInterfaces) ∧
      releases s'.env.1 = releases s.env.1 := by
  rw [initInterface.claim]
  cases forceClaim with
  | false => exact ⟨host, s, rfl, rfl, id, rfl⟩
  | true =>
      have hlog : (logged env (.claimInterface iface true) s.env).2.1 = s.env.1 ++
          [⟨.claimInterface iface true, (env (.claimInterface iface true) s.env.2).1⟩] := by
        rw [logged, Env.traced_keep env (o := .claimInterface iface true) rfl]
      have hcall : exec (logged env) (claimInterface iface true : Act usbSig ε Bool) s =
          (.ok (env (.claimInterface iface true) s.env.2).1,
            { s with env := (logged env (.claimInterface iface true) s.env).2 }) := rfl
      rw [if_pos rfl, exec_bind_ok hcall, exec_ite, exec_pure, exec_pure]
      -- only a claim that is granted is noted, here and in the log
      rcases hans : (env (.claimInterface iface true) s.env.2).1 with _ | _
      · refine ⟨host, _, if_neg Bool.false_ne_true, rfl, ?_, ?_⟩
        · intro h
          rw [hlog, hans, ← h]
          simp [claims, claimOf]
        · rw [hlog]
          simp [releases, releaseOf]
      · refine ⟨_, _, if_pos rfl, rfl, ?_, ?_⟩
        · intro h
          rw [hlog, hans, ← h]
          simp [claims, claimOf]
        · rw [hlog]
          simp [releases, releaseOf]

/-- The interfaces of the pump are those that its constructor has claimed. -/
theorem exec_initFrom {ε : Type} (env : Env usbSig τ) (forceClaim : Bool) (host : UsbIpHost)
    (device : List UsbInterface) (s : Io (List (Call usbSig) × τ)) :
    ∃ host' s', exec (logged env) (initFrom forceClaim host device : Act usbSig ε UsbIpHost) s =
        (.ok host', s') ∧ host'.importId = host.importId ∧
      (claims s.env.1 = host.claimedInterfaces → claims s'.env.1 = host'.claimedInterfaces) ∧
      releases s'.env.1 = releases s.env.1 := by
  induction device generalizing host s with
  | nil => exact ⟨host, s, rfl, rfl, id, rfl⟩
  | cons iface rest ih =>
      obtain ⟨host₁, s₁, hx, hid, hclaims, hreleases⟩ :=
        exec_claim (ε := ε) env forceClaim host iface s
      obtain ⟨hid₁, hclaimed₁⟩ := foldl_addEndpoint host₁ iface.endpoints
      obtain ⟨host₂, s₂, hx', hid₂, hclaims₂, hreleases₂⟩ :=
        ih (iface.endpoints.foldl addEndpoint host₁) s₁
      refine ⟨host₂, s₂, ?_, hid₂.trans (hid₁.trans hid), ?_, hreleases₂.trans hreleases⟩
      · rw [initFrom, initInterface, exec_bind_ok (exec_bind_ok hx)]
        exact hx'
      · intro h
        exact hclaims₂ ((hclaims h).trans hclaimed₁.symm)

theorem releases_released (env : Env usbSig τ) (ifaces : List UsbInterface)
    (t : List (Call usbSig) × τ) :
    releases (released (logged env) ifaces t).1 = releases t.1 ++ ifaces ∧
      claims (released (logged env) ifaces t).1 = claims t.1 := by
  induction ifaces generalizing t with
  | nil => exact ⟨(List.append_nil _).symm, rfl⟩
  | cons iface rest ih =>
      have hlog : (logged env (.releaseInterface iface) t).2.1 =
          t.1 ++ [⟨.releaseInterface iface, (env (.releaseInterface iface) t.2).1⟩] := by
        rw [logged, Env.traced_keep env (o := .releaseInterface iface) rfl]
      obtain ⟨hreleases, hclaims⟩ := ih (logged env (.releaseInterface iface) t).2
      rw [hlog] at hreleases hclaims
      rw [released, List.foldl_cons, ← released, hreleases, hclaims]
      simp [releases, claims, releaseOf, claimOf]

end Trace

/-! ### A whole stream -/

section Stream

variable (env : Env usbSig τ) (hstop : ∀ t, env .stopped t = (false, t))
  {device : List UsbInterface} {importId : Int32} {forceClaim : Bool} {host : UsbIpHost}
  {s₀ s₁ : Io (List (Call usbSig) × τ)}

include hstop

/-- The pump on a stream of packets. -/
theorem pumpUrbs_packets (host : UsbIpHost) {packets : List Urb}
    (hpackets : ∀ p ∈ packets, bufferLength p.raw < 2 ^ 31) {rest : List UInt8} (hrest : Junk rest)
    {s : Io (Finset Int32 × τ)} (hs : s.input = packets.flatMap Urb.raw ++ rest) :
    ∃ input chunks, ∀ fuel, s.input.length < fuel →
      let r := Transducer.run (host.answer env) (packets.map Urb.raw) s.env
      host.pumpUrbs env fuel s = some (resultOf r.completed,
        ⟨input, chunks, s.output ++ r.outputs.flatMap Envelope.bytes,
          (r.state.1, released env host.claimedInterfaces r.state.2)⟩) := by
  have hframes := commandsOf_packets hpackets hrest
  rw [commandsOf, ← hs] at hframes
  rw [← hframes]
  exact host.pumpUrbs_eq env hstop s

/-- **When a run ends well, and what it has written then.** -/
theorem pumpUrbs_ok_iff (host : UsbIpHost) (s : Io (Finset Int32 × τ)) (out : List UInt8) :
    (∃ s', (∀ fuel, s.input.length < fuel → host.pumpUrbs env fuel s = some (.ok (), s')) ∧
      s'.output = s.output ++ out) ↔
    (Transducer.run (host.answer env) (commandsOf s.input) s.env).completed = true ∧
      out = (Transducer.run (host.answer env) (commandsOf s.input) s.env).outputs.flatMap
        Envelope.bytes := by
  obtain ⟨input, chunks, hrun⟩ := host.pumpUrbs_eq env hstop s
  rw [← commandsOf] at hrun
  generalize Transducer.run (host.answer env) (commandsOf s.input) s.env = r at hrun ⊢
  constructor
  · rintro ⟨s', hok, hout⟩
    have heq := (hrun _ (Nat.lt_succ_self _)).symm.trans (hok _ (Nat.lt_succ_self _))
    obtain ⟨hresult, rfl⟩ := Prod.mk.inj (Option.some.inj heq)
    refine ⟨?_, (List.append_cancel_left hout).symm⟩
    rcases hc : r.completed with _ | _
    · rw [hc] at hresult
      cases hresult
    · rfl
  · rintro ⟨hc, rfl⟩
    simp only [hc, resultOf] at hrun
    exact ⟨_, hrun, rfl⟩

/-- **One reply for every command**, in order, and each interface that the pump has claimed is
released once: this is what happens exactly if every command can be answered when its turn comes. -/
theorem pumpUrbs_answers_iff (h₀ : s₀.env.1 = [])
    (hinit : exec (logged env) (init device importId forceClaim : Act usbSig Empty UsbIpHost) s₀ =
      (.ok host, s₁))
    {packets : List Urb} (hpackets : ∀ p ∈ packets, bufferLength p.raw < 2 ^ 31)
    {rest : List UInt8} (hrest : Junk rest) {s : Io (Finset Int32 × List (Call usbSig) × τ)}
    (hs : s.input = packets.flatMap Urb.raw ++ rest) (hout : s.output = [])
    (henv : s.env = (∅, s₁.env)) :
    (∃ s' replies,
      (∀ fuel, s.input.length < fuel → host.pumpUrbs (logged env) fuel s = some (.ok (), s')) ∧
      s'.output = replies.flatten ∧
      List.Forall₂ (fun p bytes => Replies importId.toUInt32 p.raw bytes) packets replies ∧
      releases s'.env.2.1 = claims s'.env.2.1) ↔
    Transducer.Always (host.answer (logged env)) (host.CanAnswer (logged env))
      (packets.map Urb.raw) (∅, s₁.env) := by
  obtain ⟨input, chunks', hrun⟩ :=
    pumpUrbs_packets (logged env) (logged_stopped hstop) host hpackets hrest hs
  rw [henv] at hrun
  -- what the constructor has claimed is what `cleanup` releases
  obtain ⟨host', s', hx, hid, hclaims, hreleases⟩ := exec_initFrom (ε := Empty) env forceClaim
    ⟨importId, fun _ => none, fun _ => none, []⟩ device s₀
  obtain ⟨hhost, rfl⟩ := Prod.mk.inj (hinit.symm.trans hx)
  obtain rfl := Except.ok.inj hhost
  have hid : host.importId = importId := hid
  rw [h₀] at hclaims hreleases
  obtain ⟨r, hr⟩ : ∃ r, r = Transducer.run (host.answer (logged env)) (packets.map Urb.raw)
    (∅, s₁.env) := ⟨_, rfl⟩
  have htrace : claims r.state.2.1 = host.claimedInterfaces ∧ releases r.state.2.1 = [] := by
    rw [hr]
    refine Transducer.run_inv (I := fun st : Finset Int32 × List (Call usbSig) × τ =>
      claims st.2.1 = host.claimedInterfaces ∧ releases st.2.1 = []) ?_ ⟨hclaims rfl, hreleases⟩
    rintro raw - st ⟨hc, hr⟩
    obtain ⟨hc', hr'⟩ := claims_answer host env raw st
    exact ⟨hc'.trans hc, hr'.trans hr⟩
  have halways : r.completed = true ↔ Transducer.Always (host.answer (logged env))
      (host.CanAnswer (logged env)) (packets.map Urb.raw) (∅, s₁.env) := by
    rw [hr]
    exact Transducer.completed_iff_always fun raw _ st =>
      answer_isSome_iff host (logged env) raw st
  simp only [← hr] at hrun
  constructor
  · rintro ⟨s', replies, hok, -⟩
    have heq := (hrun _ (Nat.lt_succ_self _)).symm.trans (hok _ (Nat.lt_succ_self _))
    have hresult := (Prod.mk.inj (Option.some.inj heq)).1
    rw [← halways]
    rcases hc : r.completed with _ | _
    · rw [hc] at hresult
      cases hresult
    · rfl
  · intro hall
    have hc := halways.2 hall
    have hreplies : List.Forall₂ (fun raw e => Replies importId.toUInt32 raw (Envelope.bytes e))
        (packets.map Urb.raw) r.outputs := by
      rw [hr] at hc ⊢
      refine Transducer.forall₂_of_always ?_ hc hall
      intro raw _ st e he _
      rw [← hid]
      exact answer_replies host (logged env) he
    obtain ⟨hreleased, hclaimed⟩ := releases_released env host.claimedInterfaces r.state.2
    rw [hc, resultOf] at hrun
    refine ⟨⟨input, chunks', s.output ++ r.outputs.flatMap Envelope.bytes,
      (r.state.1, released (logged env) host.claimedInterfaces r.state.2)⟩,
      r.outputs.map Envelope.bytes, hrun, ?_, ?_, ?_⟩
    · simp only [hout, List.nil_append, List.flatMap_def]
    · rw [List.forall₂_map_right_iff]
      exact List.forall₂_map_left_iff.1 hreplies
    · simp only [hreleased, hclaimed, htrace, List.nil_append]

end Stream

/-- A device whose transfers all fill their buffers. -/
def fullTransfers : Env usbSig Unit
  | .claimInterface _ _, _ => (true, ())
  | .releaseInterface _, _ => (some true, ())
  | .transfer _ buffer length _, _ => (some (length, untouched buffer), ())
  | .stopped, _ => (false, ())

/-- A packet that unlinks the command 1. -/
def unlinkOne : Urb where
  raw := CmdUnlink.encode ⟨2, 0, 0, 0, 1⟩
  isCommand := by
    rw [IsCommand]
    decide
  length_raw := by decide

/-- The bulk endpoint 1 in the direction IN. -/
def bulkIn : UsbEndpoint := ⟨0x81, xferBulk, 0⟩

/-- A device with this endpoint. -/
def bulkInHost : UsbIpHost :=
  addEndpoint ⟨7, fun _ => none, fun _ => none, [⟨0, [bulkIn]⟩]⟩ bulkIn

/-- The submit 1: four bytes of it are asked for. -/
def submitOne : Urb where
  raw := CmdSubmit.encode ⟨1, 0, 1, 1, 0, 4, 0, 0, 0, .zero⟩
  isCommand := by
    rw [IsCommand]
    decide
  length_raw := by decide

/-- The same with the number 3. -/
def submitThree : Urb where
  raw := CmdSubmit.encode ⟨3, 0, 1, 1, 0, 4, 0, 0, 0, .zero⟩
  isCommand := by
    rw [IsCommand]
    decide
  length_raw := by decide

theorem canAnswer_fullTransfers (host : UsbIpHost) {raw : List UInt8}
    (hlen : (UsbIpFrame.CmdSubmit.ofHeader raw).transferBufferLength = 4)
    (st : Finset Int32 × List (Call usbSig) × Unit) :
    host.CanAnswer (logged fullTransfers) raw st := by
  rw [CanAnswer]
  intro _ t timeout _
  rw [hlen]
  refine ⟨by decide, ?_⟩
  rintro n buf' hanswer
  obtain ⟨rfl, -⟩ := Prod.mk.inj (Option.some.inj hanswer)
  decide

/-- Two reads and an unlink are answered, and the interface is given back. -/
theorem pumpUrbs_answers_reads :
    ∃ s' replies,
      (∀ fuel, ([submitOne, unlinkOne, submitThree].flatMap Urb.raw).length < fuel →
        bulkInHost.pumpUrbs (logged fullTransfers) fuel
          ⟨[submitOne, unlinkOne, submitThree].flatMap Urb.raw, [], [],
            (∅, [⟨.claimInterface ⟨0, [bulkIn]⟩ true, true⟩], ())⟩ = some (.ok (), s')) ∧
      s'.output = replies.flatten ∧
      List.Forall₂ (fun p bytes => Replies (7 : Int32).toUInt32 p.raw bytes)
        [submitOne, unlinkOne, submitThree] replies ∧
      releases s'.env.2.1 = claims s'.env.2.1 := by
  have hinit : exec (logged fullTransfers)
      (init [⟨0, [bulkIn]⟩] 7 true : Act usbSig Empty UsbIpHost) ⟨[], [], [], ([], ())⟩ =
      (.ok bulkInHost, ⟨[], [], [], ([⟨.claimInterface ⟨0, [bulkIn]⟩ true, true⟩], ())⟩) := rfl
  have hlength : ∀ p ∈ [submitOne, unlinkOne, submitThree], bufferLength p.raw < 2 ^ 31 := by decide
  have hunlink (st : Finset Int32 × List (Call usbSig) × Unit) :
      bulkInHost.CanAnswer (logged fullTransfers) unlinkOne.raw st := by
    rw [CanAnswer]
    intro hsubmit
    exact absurd hsubmit (by decide)
  refine (pumpUrbs_answers_iff (s := ⟨_, [], [], (∅, _)⟩) fullTransfers (fun _ => rfl) rfl hinit
    hlength (Or.inl (by decide) : Junk []) (List.append_nil _).symm rfl rfl).2 ?_
  exact ⟨canAnswer_fullTransfers _ (by decide) _, fun _ => ⟨hunlink _, fun _ =>
    ⟨canAnswer_fullTransfers _ (by decide) _, fun _ => trivial⟩⟩⟩

/-- A request for `2 ^ 31 - 1` bytes. -/
def largestIn : Urb where
  raw := CmdSubmit.encode ⟨1, 0, 1, 1, 0, 0x7fffffff, 0, 0, 0, .zero⟩
  isCommand := by
    rw [IsCommand]
    decide
  length_raw := by decide

/-- The device fills the buffer, and no array is large enough for the reply: it is not sent, and the
exception ends the pump. -/
theorem pumpUrbs_largestIn :
    (exec fullTransfers (init [⟨0, [bulkIn]⟩] 7 true : Act usbSig Empty UsbIpHost)
      ⟨[], [], [], ()⟩).1 = .ok bulkInHost ∧ bufferLength largestIn.raw < 2 ^ 31 ∧
    ∃ s', (∀ fuel, largestIn.raw.length < fuel → bulkInHost.pumpUrbs fullTransfers fuel
        ⟨largestIn.raw, [], [], (∅, ())⟩ = some (.error .negativeArraySize, s')) ∧
      s'.output = [] := by
  have hhost : (exec fullTransfers (init [⟨0, [bulkIn]⟩] 7 true : Act usbSig Empty UsbIpHost)
      ⟨[], [], [], ()⟩).1 = .ok bulkInHost := rfl
  have hlength : ∀ p ∈ [largestIn], bufferLength p.raw < 2 ^ 31 := by decide
  have hinput : (⟨largestIn.raw, [], [], (∅, ())⟩ : Io (Finset Int32 × Unit)).input =
      [largestIn].flatMap Urb.raw ++ [] := by
    simp
  obtain ⟨input, chunks, hrun⟩ := pumpUrbs_packets fullTransfers (fun _ => rfl) bulkInHost hlength
    (Or.inl (by decide)) hinput
  have hnone : (bulkInHost.answer fullTransfers largestIn.raw (∅, ())).1 = none := by
    rw [← Option.not_isSome_iff_eq_none, answer_isSome_iff, CanAnswer]
    intro h
    have hlen : (UsbIpFrame.CmdSubmit.ofHeader largestIn.raw).transferBufferLength.toNatClampNeg =
        2 ^ 31 - 1 := by decide
    -- the device returns as many bytes as an array can have
    have hsize := toInt_size (a := List.replicate (2 ^ 31 - 1) 0) (by
      rw [List.length_replicate]
      omega)
    rw [List.length_replicate] at hsize
    have hle := (h (by decide) (.bulkTransfer bulkIn) 5000 (by decide)).2 _ _ rfl
    rw [hlen, hsize] at hle
    omega
  rcases hanswer : bulkInHost.answer fullTransfers largestIn.raw (∅, ()) with ⟨r, st⟩
  rw [hanswer] at hnone
  obtain rfl : r = none := hnone
  rw [List.map_singleton, Transducer.run_cons_none hanswer] at hrun
  exact ⟨hhost, hlength _ (by simp), ⟨input, chunks, [],
    (st.1, released fullTransfers bulkInHost.claimedInterfaces st.2)⟩, hrun, rfl⟩

end UsbIpHost

end Zerowire

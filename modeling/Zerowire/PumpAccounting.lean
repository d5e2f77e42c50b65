/-
**What the pump of the fixture counts** (`desktop-linux/src/urb_pump.rs`).

The pump counts what it does: the commands it has seen, those that went well, those it does not
support, and the bytes of the transfers.  Its tests judge it by these counters.  The other end only
sees the replies.  A counter goes up at one place of a handler and the reply is written at another,
behind several exits; this module compares the counters with the packets that can be read back from
the bytes that were written.

Main definitions:

* `Zerowire.RetPacket`, `Zerowire.retPackets` — the replies in a stretch of bytes;
* `Zerowire.submitsWith`, `Zerowire.bytesMoved` — what can be counted of them;
* `Zerowire.PumpStats.Accounts` — the counters are right for a list of replies.

Main results:

* `Transducer.run_outputs_inv` — what relates the outputs and the state of a machine along a run;
* `Zerowire.PumpStats.Accounts.record` — one more reply;
* `Zerowire.retPackets_written` — what is written consists of replies, and they are read back;
* `Zerowire.runPump_accounts` — **the counters of a run are right for what it has written**.
-/

import Mathlib.Data.Nat.ModEq
import Zerowire.ReplyDirection

set_option relaxedAutoImplicit false
set_option autoImplicit false

/-! ### Outputs and states -/

namespace Transducer

variable {α β σ : Type} {step : Step α β σ}

/-- What relates the outputs so far to the state, and is kept by every step that replies, holds at
the end of a run that gets through its list. -/
theorem run_outputs_inv {I : List β → σ → Prop}
    (hstep : ∀ a b s s' outs, step a s = (some b, s') → I outs s → I (outs ++ [b]) s')
    {as : List α} {outs : List β} {s : σ} (hs : I outs s)
    (hcompleted : (run step as s).completed = true) :
    I (outs ++ (run step as s).outputs) (run step as s).state := by
  induction as generalizing outs s with
  | nil =>
      rw [run_nil, List.append_nil]
      exact hs
  | cons a as ih =>
      rcases ha : step a s with ⟨_ | b, s'⟩
      · rw [run_cons_none ha] at hcompleted
        cases hcompleted
      · rw [run_cons_some ha] at hcompleted ⊢
        have hrest := ih (hstep a b s s' outs ha hs) hcompleted
        rw [List.append_assoc, List.singleton_append] at hrest
        exact hrest

end Transducer

namespace Zerowire

open Bytes Program

/-! ### Reading the replies -/

/-- A USB/IP packet of a sender. -/
inductive RetPacket where
  | submit (ret : RetSubmit)
  | unlink (ret : RetUnlink)
  deriving DecidableEq

/-- The packet that some bytes start with. -/
def RetPacket.ofRaw (raw : List UInt8) : Option RetPacket :=
  match RetSubmit.parse raw, RetUnlink.parse raw with
  | .ok ret, _ => some (.submit ret)
  | _, .ok ret => some (.unlink ret)
  | _, _ => none

/-- The packet in an envelope. -/
def retPacketOf (e : Envelope) : Option RetPacket :=
  match e.channel, UsbipFrame.parse e.payload with
  | .usbip, .ok frame => RetPacket.ofRaw frame.raw
  | _, _ => none

/-- **The replies in a stretch of bytes**: the packets of the envelopes at its front. -/
def retPackets (bytes : List UInt8) : List RetPacket :=
  (StreamCodec.frames Envelope.parse bytes).filterMap retPacketOf

theorem ofRaw_retSubmit (ret : RetSubmit) (data : List UInt8) :
    RetPacket.ofRaw (ret.encode ++ data) = some (.submit ret) := by
  rw [RetPacket.ofRaw, RetSubmit.parse_encode]

theorem ofRaw_retUnlink (ret : RetUnlink) : RetPacket.ofRaw ret.encode = some (.unlink ret) := by
  have hlen : ¬ ret.encode.length < urbHeaderLen := by
    rw [RetUnlink.length_encode]
    exact Nat.lt_irrefl _
  have hop : wordAt ret.encode 0 ≠ UrbOp.retSubmit.toU32 := by
    have hword := wordAt_headerOfWords [UrbOp.retUnlink.toU32, ret.seqnum, ret.devid, ret.direction,
      ret.ep, ret.status.toUInt32] [] 0 (Nat.succ_pos _)
    rw [List.append_nil] at hword
    rw [RetUnlink.encode, hword]
    exact (by decide : UrbOp.retUnlink.toU32 ≠ UrbOp.retSubmit.toU32)
  have hparse := RetUnlink.parse_encode ret []
  rw [List.append_nil] at hparse
  rw [RetPacket.ofRaw, hparse, RetSubmit.parse_eq, if_neg hlen, if_pos hop]

/-! ### Counting -/

/-- A RET_SUBMIT. -/
def RetPacket.isSubmit : RetPacket → Bool
  | .submit _ => true
  | .unlink _ => false

/-- A RET_UNLINK. -/
def RetPacket.isUnlink : RetPacket → Bool
  | .submit _ => false
  | .unlink _ => true

/-- A RET_SUBMIT with the given status. -/
def RetPacket.hasStatus (status : Int32) : RetPacket → Bool
  | .submit ret => ret.status = status
  | .unlink _ => false

/-- `actual_length` of a RET_SUBMIT with status 0. -/
def RetPacket.moved : RetPacket → ℕ
  | .submit ret => if ret.status = 0 then ret.actualLength.toNat else 0
  | .unlink _ => 0

/-- The number of RET_SUBMITs with the given status. -/
def submitsWith (status : Int32) (packets : List RetPacket) : ℕ :=
  packets.countP (RetPacket.hasStatus status)

/-- The sum of `actual_length` over the RET_SUBMITs with status 0. -/
def bytesMoved (packets : List RetPacket) : ℕ := (packets.map RetPacket.moved).sum

/-- **The counters are right** for a list of replies, modulo `2 ^ 32`. -/
structure PumpStats.Accounts (stats : PumpStats) (packets : List RetPacket) : Prop where
  submitsSeen : stats.submitsSeen.toNat ≡ packets.countP RetPacket.isSubmit [MOD 2 ^ 32]
  unlinksSeen : stats.unlinksSeen.toNat ≡ packets.countP RetPacket.isUnlink [MOD 2 ^ 32]
  submitsOk : stats.submitsOk.toNat ≡ submitsWith 0 packets [MOD 2 ^ 32]
  unsupported : stats.unsupported.toNat ≡ submitsWith (-95) packets [MOD 2 ^ 32]
  bytes : stats.controlInBytes.toNat + stats.bulkInBytes.toNat + stats.bulkOutBytes.toNat ≡
    bytesMoved packets [MOD 2 ^ 32]

theorem accounts_nil : PumpStats.Accounts {} [] := by
  constructor <;> exact Nat.ModEq.refl _

/-- A counter wraps around. -/
theorem toNat_add_modEq (a b : UInt32) : (a + b).toNat ≡ a.toNat + b.toNat [MOD 2 ^ 32] := by
  rw [UInt32.toNat_add]
  exact Nat.mod_modEq _ _

/-- A counter that goes up with its number. -/
theorem modEq_count {c d : UInt32} {n k : ℕ} (h : c.toNat ≡ n [MOD 2 ^ 32]) (hd : d.toNat = k) :
    (c + d).toNat ≡ n + k [MOD 2 ^ 32] := by
  rw [← hd]
  exact (toNat_add_modEq c d).trans (h.add_right _)

/-! ### What a reply adds -/

section Record

variable (stats : PumpStats) (cmd : CmdSubmit) (res : SubmitResult)

theorem record_submitsSeen : (stats.record cmd res).submitsSeen = stats.submitsSeen + 1 := by
  unfold PumpStats.record
  split_ifs <;> rfl

theorem record_unlinksSeen : (stats.record cmd res).unlinksSeen = stats.unlinksSeen := by
  unfold PumpStats.record
  split_ifs <;> rfl

theorem record_submitsOk :
    (stats.record cmd res).submitsOk = stats.submitsOk + if res.status = 0 then 1 else 0 := by
  by_cases hok : res.status = 0
  · rw [PumpStats.record, if_pos hok, if_pos hok]
    split_ifs <;> rfl
  · rw [PumpStats.record, if_neg hok, if_neg hok]
    split_ifs <;> exact (UInt32.add_zero _).symm

theorem record_unsupported :
    (stats.record cmd res).unsupported =
      stats.unsupported + if res.status = -95 then 1 else 0 := by
  by_cases hok : res.status = 0
  · have hne : ¬ res.status = -95 := by
      rw [hok]
      decide
    rw [PumpStats.record, if_pos hok, if_neg hne]
    split_ifs <;> exact (UInt32.add_zero _).symm
  · rw [PumpStats.record, if_neg hok, eOpNotSupp]
    split_ifs
    · rfl
    · exact (UInt32.add_zero _).symm

/-- The bytes of a transfer go to one of the three counters, whichever way it went. -/
theorem record_bytes :
    (stats.record cmd res).controlInBytes.toNat + (stats.record cmd res).bulkInBytes.toNat +
        (stats.record cmd res).bulkOutBytes.toNat ≡
      stats.controlInBytes.toNat + stats.bulkInBytes.toNat + stats.bulkOutBytes.toNat +
        (if res.status = 0 then res.actualLength.toNat else 0) [MOD 2 ^ 32] := by
  have hadd (c : UInt32) : (c + res.actualLength).toNat =
      (c.toNat + res.actualLength.toNat) % 2 ^ 32 := UInt32.toNat_add _ _
  by_cases hok : res.status = 0
  · rw [PumpStats.record, if_pos hok, if_pos hok, Nat.ModEq]
    split_ifs
    · simp only [hadd]
      omega
    · simp only [hadd]
      omega
    · simp only [hadd]
      omega
  · rw [PumpStats.record, if_neg hok, if_neg hok]
    split_ifs <;> exact Nat.ModEq.refl _

end Record

/-- The reply to a command. -/
def Served.reply : Served → RetPacket
  | .submit cmd res => .submit (retSubmitOf cmd res)
  | .unlink u => .unlink (retUnlinkOf u 0)

theorem ofRaw_packet (served : Served) : RetPacket.ofRaw served.packet = some served.reply := by
  cases served with
  | submit cmd res => exact ofRaw_retSubmit _ _
  | unlink u => exact ofRaw_retUnlink _

/-- **One more reply**: the counters keep up with it. -/
theorem PumpStats.Accounts.record {stats : PumpStats} {packets : List RetPacket}
    (h : stats.Accounts packets) (served : Served) :
    (served.record stats).Accounts (packets ++ [served.reply]) := by
  cases served with
  | submit cmd res =>
      constructor
      · rw [Served.record, record_submitsSeen, List.countP_append]
        exact modEq_count h.submitsSeen rfl
      · rw [Served.record, record_unlinksSeen, List.countP_append]
        exact h.unlinksSeen
      · rw [Served.record, record_submitsOk, submitsWith, List.countP_append]
        refine modEq_count h.submitsOk ?_
        -- the counter goes up exactly if the packet counts
        by_cases hok : res.status = 0 <;>
          simp [Served.reply, RetPacket.hasStatus, retSubmitOf, hok]
      · rw [Served.record, record_unsupported, submitsWith, List.countP_append]
        refine modEq_count h.unsupported ?_
        by_cases hns : res.status = -95 <;>
          simp [Served.reply, RetPacket.hasStatus, retSubmitOf, hns]
      · rw [bytesMoved, List.map_append, List.sum_append]
        exact (record_bytes stats cmd res).trans (h.bytes.add_right _)
  | unlink u =>
      constructor
      · rw [List.countP_append]
        exact h.submitsSeen
      · rw [List.countP_append]
        exact modEq_count h.unlinksSeen rfl
      · rw [submitsWith, List.countP_append]
        exact h.submitsOk
      · rw [submitsWith, List.countP_append]
        exact h.unsupported
      · rw [bytesMoved, List.map_append, List.sum_append]
        exact h.bytes

/-! ### A run -/

section Run

variable {importId : UInt32} {device : FakeDevice}

/-- A reply is read back from its envelope. -/
theorem retPacketOf_envelope (served : Served) :
    retPacketOf (served.envelope importId) = some served.reply := by
  rw [retPacketOf, Served.envelope]
  simp only [UsbipFrame.parse_encode]
  exact ofRaw_packet served

/-- What is written for an envelope respects the cap, and the counters are those behind it. -/
theorem serve_some {e : Envelope} {stats stats' : PumpStats} {reply : Option Served}
    (h : serve importId device e stats = (some reply, stats')) :
    match reply with
    | some served => (served.envelope importId).Fits ∧ stats' = served.record stats
    | none => stats' = stats := by
  rw [serve] at h
  by_cases hchan : e.channel = .usbip
  · rw [if_pos hchan] at h
    rcases hreply : replyToEnvelope importId device e with _ | served
    · rw [hreply] at h
      cases h
    · rw [hreply] at h
      cases h
      refine ⟨?_, rfl⟩
      rw [replyToEnvelope, Option.bind_eq_some_iff] at hreply
      obtain ⟨frame, -, hframe⟩ := hreply
      split_ifs at hframe
      rw [replyTo, Option.filter_eq_some_iff, decide_eq_true_eq] at hframe
      exact hframe.2
  · rw [if_neg hchan] at h
    cases h
    rfl

/-- The replies among what a run puts out. -/
def repliesOf (outputs : List (Option Served)) : List Served := outputs.filterMap id

/-- What is written, as envelopes. -/
theorem bytesOfReply_flatMap (outputs : List (Option Served)) :
    outputs.flatMap (bytesOfReply importId) =
      ((repliesOf outputs).map (Served.envelope importId)).flatMap Envelope.bytes := by
  induction outputs with
  | nil => rfl
  | cons reply outputs ih =>
      rw [List.flatMap_cons, ih]
      cases reply <;> rfl

/-- **What is written consists of replies**, and they are read back. -/
theorem retPackets_written {replies : List Served}
    (hfits : ∀ served ∈ replies, (served.envelope importId).Fits) :
    let written := (replies.map (Served.envelope importId)).flatMap Envelope.bytes
    (StreamCodec.frames Envelope.parse written).flatMap Envelope.bytes = written ∧
      (StreamCodec.frames Envelope.parse written).map retPacketOf = (retPackets written).map some ∧
      retPackets written = replies.map Served.reply := by
  intro written
  have hframes : StreamCodec.frames Envelope.parse written =
      replies.map (Served.envelope importId) := by
    refine Envelope.codec.frames_wire ?_
    intro e he
    obtain ⟨served, hserved, rfl⟩ := List.mem_map.1 he
    exact hfits served hserved
  have hpacket : retPacketOf ∘ Served.envelope importId = some ∘ Served.reply :=
    funext retPacketOf_envelope
  have hread : retPackets written = replies.map Served.reply := by
    rw [retPackets, hframes, List.filterMap_map, hpacket, List.filterMap_eq_map]
  rw [hread, hframes, List.map_map, List.map_map, hpacket]
  exact ⟨rfl, rfl, rfl⟩

/-- What is kept along a run: every reply respects the cap, and the counters are right for the
replies so far. -/
structure Accounted (importId : UInt32) (replies : List Served) (stats : PumpStats) : Prop where
  fits : ∀ served ∈ replies, (served.envelope importId).Fits
  accounts : stats.Accounts (replies.map Served.reply)

/-- One more reply. -/
theorem Accounted.concat {replies : List Served} {stats : PumpStats}
    (h : Accounted importId replies stats) {served : Served}
    (hfits : (served.envelope importId).Fits) :
    Accounted importId (replies ++ [served]) (served.record stats) := by
  constructor
  · intro served' hserved'
    rcases List.mem_append.1 hserved' with hbefore | hlast
    · exact h.fits served' hbefore
    · obtain rfl := List.mem_singleton.1 hlast
      exact hfits
  · rw [List.map_append, List.map_singleton]
    exact h.accounts.record served

/-- The counters and the replies along a run. -/
theorem run_accounts {as : List Envelope}
    (hcompleted : (Transducer.run (serve importId device) as {}).completed = true) :
    let r := Transducer.run (serve importId device) as {}
    Accounted importId (repliesOf r.outputs) r.state := by
  have hstart : Accounted importId (repliesOf []) {} :=
    ⟨fun _ h => absurd h List.not_mem_nil, accounts_nil⟩
  refine Transducer.run_outputs_inv (I := fun outs => Accounted importId (repliesOf outs)) ?_
    hstart hcompleted
  intro e reply stats stats' outs hserve hbefore
  have hnext := serve_some hserve
  rw [repliesOf, List.filterMap_append]
  cases reply with
  | none =>
      obtain rfl : stats' = stats := hnext
      rw [List.filterMap_cons_none rfl, List.filterMap_nil, List.append_nil]
      exact hbefore
  | some served =>
      obtain ⟨hcap, rfl⟩ := hnext
      exact hbefore.concat hcap

end Run

/-- **The counters of a run are right for what it has written.**  What is written consists of USB/IP
envelopes with one packet each, and if the pump ends without an error, its counters are those of
these packets, modulo `2 ^ 32`. -/
theorem runPump_accounts {X : Sig} {τ : Type} (env : Env X τ) {importId : UInt32}
    {device : FakeDevice} {fuel : ℕ} {s s' : Io τ} {stats : PumpStats}
    (h : runPump env importId device fuel s = some (.ok stats, s')) :
    ∃ written, s'.output = s.output ++ written ∧
      (StreamCodec.frames Envelope.parse written).flatMap Envelope.bytes = written ∧
      (StreamCodec.frames Envelope.parse written).map retPacketOf = (retPackets written).map some ∧
      stats.Accounts (retPackets written) := by
  obtain ⟨result, s'', hrun, hout, hok, herr⟩ := runPump_run env importId device s
  have hlong := hrun (max fuel (s.input.length + 1)) (by omega)
  rw [runPump, loop_mono (Nat.le_max_left _ _) h] at hlong
  cases hlong
  have hcompleted : (Transducer.run (serve importId device)
      (StreamCodec.frames Envelope.parse s.input) {}).completed = true := by
    by_contra hnot
    obtain ⟨⟨err, hfail⟩, -⟩ := herr (Bool.not_eq_true _ ▸ hnot)
    cases hfail
  have haccounted := run_accounts hcompleted
  obtain ⟨hbytes, hpackets, hread⟩ := retPackets_written haccounted.fits
  obtain rfl := Except.ok.inj (hok hcompleted)
  rw [← bytesOfReply_flatMap] at hbytes hpackets hread
  refine ⟨_, hout, hbytes, hpackets, ?_⟩
  rw [hread]
  exact haccounted.accounts

/-- The request for the device descriptor, and then an unlink. -/
def descriptorThenUnlink : List UInt8 :=
  let session raw := (⟨.usbip, UsbipFrame.encode ⟨7, raw⟩⟩ : Envelope).bytes
  session (CmdSubmit.encode { outGetDescriptor with direction := urbDirIn }) ++
    session (CmdUnlink.encode ⟨2, 0, 1, 0, 1⟩)

/-- What the pump counts for it. -/
def descriptorThenUnlinkStats : PumpStats where
  submitsSeen := 1
  submitsOk := 1
  controlInBytes := 18
  unlinksSeen := 1

theorem runPump_accounts_descriptorThenUnlink :
    ∃ s' written,
      runPump Env.none 7 ⟨List.replicate 18 1, [], []⟩ 3 ⟨descriptorThenUnlink, [], [], ()⟩ =
        some (.ok descriptorThenUnlinkStats, s') ∧
      s'.output = [] ++ written ∧
      (StreamCodec.frames Envelope.parse written).flatMap Envelope.bytes = written ∧
      (StreamCodec.frames Envelope.parse written).map retPacketOf = (retPackets written).map some ∧
      descriptorThenUnlinkStats.Accounts (retPackets written) := by
  obtain ⟨s', h⟩ : ∃ s',
      runPump Env.none 7 ⟨List.replicate 18 1, [], []⟩ 3 ⟨descriptorThenUnlink, [], [], ()⟩ =
        some (.ok descriptorThenUnlinkStats, s') := ⟨_, rfl⟩
  obtain ⟨written, hwritten⟩ := runPump_accounts Env.none h
  exact ⟨s', written, h, hwritten⟩

end Zerowire

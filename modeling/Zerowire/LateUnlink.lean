/-
**An unlink that comes too late.**

The pump of the phone notes the sequence number of every CMD_UNLINK, and forgets it when it meets a
submit with this number.  If the submit has been answered before, the number stays: a later submit
with the same number is not executed, and the set does not get empty again.  Two runs are compared
here, one of a stream with an unlink in it and one of the same stream without.

Main definitions:

* `Zerowire.Submits`, `Zerowire.Unlinks` — the commands that name a sequence number;
* `Zerowire.UsbIpHost.Caught` — a mark in the set that makes no difference to what follows;
* `Zerowire.UsbIpHost.Harmless` — two ends of runs that differ by one reply only.

Main results:

* `Zerowire.UsbIpHost.round_insert` — a round that does not execute the marked number;
* `Zerowire.UsbIpHost.run_eq_of_caught`, `Zerowire.UsbIpHost.caught_of_run` — **when a mark makes no
  difference** to a run;
* `Zerowire.UsbIpHost.pumpUrbs_unlink_iff` — **when an unlink can be deleted from a stream.**
-/

import Mathlib.Data.Finset.Basic
import Zerowire.Isochronous

set_option relaxedAutoImplicit false
set_option autoImplicit false

namespace Zerowire

open Bytes Program Jvm UsbIpFrame

/-! ### Commands that name a number -/

/-- A CMD_SUBMIT with the sequence number `q`. -/
def Submits (raw : List UInt8) (q : Int32) : Prop :=
  wordAt raw 0 = UrbOp.cmdSubmit.toU32 ∧ (UsbIpFrame.CmdSubmit.ofHeader raw).seqnum = q

/-- A CMD_UNLINK of the sequence number `q`. -/
def Unlinks (raw : List UInt8) (q : Int32) : Prop :=
  wordAt raw 0 = UrbOp.cmdUnlink.toU32 ∧ (UsbIpFrame.CmdUnlink.ofHeader raw).unlinkSeqnum = q

theorem Unlinks.not_submit {raw : List UInt8} {q : Int32} (h : Unlinks raw q) :
    wordAt raw 0 ≠ UrbOp.cmdSubmit.toU32 := by
  intro hsubmit
  exact absurd (hsubmit.symm.trans h.1) (by decide)

namespace UsbIpHost

variable {τ : Type} (host : UsbIpHost) (env : Env usbSig τ)

/-! ### A round with a marked number -/

section Round

variable {raw : List UInt8} {q : Int32} (st : Finset Int32 × τ)

/-- A plan looks up one number only. -/
theorem plan_insert {cmd : UsbIpFrame.CmdSubmit} (C : Finset Int32) (h : cmd.seqnum ≠ q) :
    host.plan (insert q C) cmd = host.plan C cmd := by
  have hmem : cmd.seqnum ∈ insert q C ↔ cmd.seqnum ∈ C := by
    rw [Finset.mem_insert, or_iff_right h]
  simp only [plan, hmem]

/-- **A round that does not meet the marked submit** does the same, and keeps the mark. -/
theorem round_insert (h : ¬ Submits raw q) :
    host.round env raw (insert q st.1, st.2) = ((host.round env raw st).1,
      insert q (host.round env raw st).2.1, (host.round env raw st).2.2) := by
  rw [round, round]
  simp only
  by_cases hstop : (env .stopped st.2).1 = true
  · rw [if_pos hstop, if_pos hstop]
  rw [if_neg hstop, if_neg hstop, answer, answer]
  by_cases hsubmit : wordAt raw 0 = UrbOp.cmdSubmit.toU32
  · have hq : (UsbIpFrame.CmdSubmit.ofHeader raw).seqnum ≠ q := fun hq => h ⟨hsubmit, hq⟩
    rw [if_pos hsubmit, if_pos hsubmit]
    simp only [plan_insert host st.1 hq]
    rw [Finset.erase_insert_of_ne hq.symm]
  · rw [if_neg hsubmit, if_neg hsubmit]
    simp only [Finset.insert_comm q]

/-- A mark appears by an unlink only. -/
theorem unlinks_of_mem (hcmd : IsCommand raw) (hq : q ∉ st.1)
    (h : q ∈ (host.round env raw st).2.1) : Unlinks raw q := by
  rw [round] at h
  by_cases hstop : (env .stopped st.2).1 = true
  · rw [if_pos hstop] at h
    exact absurd h hq
  rw [if_neg hstop, answer] at h
  by_cases hsubmit : wordAt raw 0 = UrbOp.cmdSubmit.toU32
  · rw [if_pos hsubmit] at h
    exact absurd (Finset.mem_of_mem_erase h) hq
  · rw [if_neg hsubmit] at h
    exact ⟨hcmd.resolve_left hsubmit, ((Finset.mem_insert.1 h).resolve_right hq).symm⟩

/-- A round without a reply makes no mark. -/
theorem not_mem_of_none (hq : q ∉ st.1) (hnone : (host.round env raw st).1 = none) :
    q ∉ (host.round env raw st).2.1 := by
  rw [round] at hnone ⊢
  by_cases hstop : (env .stopped st.2).1 = true
  · rwa [if_pos hstop]
  rw [if_neg hstop, answer] at hnone ⊢
  by_cases hsubmit : wordAt raw 0 = UrbOp.cmdSubmit.toU32
  · rw [if_pos hsubmit]
    exact fun h => hq (Finset.mem_of_mem_erase h)
  · rw [if_neg hsubmit] at hnone
    cases hnone

/-- An unlink leaves its mark, if it is handled. -/
theorem mem_of_unlinks (h : Unlinks raw q)
    (hsome : (host.round env raw st).1.isSome = true) :
    q ∈ (host.round env raw st).2.1 := by
  rw [round] at hsome ⊢
  by_cases hstop : (env .stopped st.2).1 = true
  · rw [if_pos hstop] at hsome
    cases hsome
  · rw [if_neg hstop, answer, if_neg h.not_submit]
    simp only [h.2]
    exact Finset.mem_insert_self q st.1

/-- The status of a reply can be told from its envelope. -/
theorem status_of_envelope {seqnum seqnum' : Int32} {o o' : Outcome}
    (h : host.envelopeOf (retSubmitPacket seqnum o) =
      host.envelopeOf (retSubmitPacket seqnum' o')) : o.status = o'.status := by
  have hframe := (Envelope.mk.inj h).2
  rw [UsbipFrame.encode, UsbipFrame.encode] at hframe
  have hparse := congrArg RetSubmit.parse (List.append_cancel_left hframe)
  rw [retSubmitPacket, retSubmitPacket, RetSubmit.parse_encode, RetSubmit.parse_encode] at hparse
  exact congrArg RetSubmit.status (Except.ok.inj hparse)

theorem status_ofTransfer (isIn : Bool) {k : ℕ}
    (r : Option (Int32 × { b : List UInt8 // b.length = k })) :
    (Outcome.ofTransfer isIn r).status ≠ -104 := by
  have hfailed : (-110 : Int32) ≠ -104 := by decide
  have hdone : (0 : Int32) ≠ -104 := by decide
  rcases r with _ | ⟨n, buf⟩
  · exact hfailed
  · rw [Outcome.ofTransfer]
    by_cases hn : n < 0
    · rw [if_pos hn]
      exact hfailed
    · rw [if_neg hn]
      exact hdone

/-- The status `-ECONNRESET` is kept for unlinked submits. -/
theorem status_carryOut {cmd : UsbIpFrame.CmdSubmit} {C : Finset Int32} {t : τ}
    (hq : cmd.seqnum ∉ C) {outBody : List UInt8} {o : Outcome}
    (h : (carryOut env cmd outBody t (host.plan C cmd)).1 = some o) :
    o.status ≠ -104 := by
  rcases hplan : host.plan C cmd with status | ⟨isIn, tr, timeout⟩
  · rw [hplan, carryOut] at h
    obtain rfl := Option.some.inj h
    rw [plan, if_neg hq] at hplan
    split_ifs at hplan
    split at hplan
    · cases hplan
      decide
    · simp only at hplan
      split_ifs at hplan
      cases hplan
      decide
  · rw [hplan, carryOut] at h
    split at h
    · cases h
    · obtain rfl := Option.some.inj h
      exact status_ofTransfer isIn _

/-- **A marked submit** is answered otherwise than one that is not marked. -/
theorem round_marked (h : Submits raw q) (hq : q ∉ st.1)
    (hstop : (env .stopped st.2).1 = false) :
    ∃ e, (host.round env raw (insert q st.1, st.2)).1 = some e ∧
      (host.round env raw st).1 ≠ some e := by
  obtain ⟨hsubmit, rfl⟩ := h
  have hplan : host.plan (insert (UsbIpFrame.CmdSubmit.ofHeader raw).seqnum st.1)
      (UsbIpFrame.CmdSubmit.ofHeader raw) = .status (-104) := by
    rw [plan, if_pos (Finset.mem_insert_self _ _)]
  have hsmall : 52 + (⟨-104, 0, []⟩ : Outcome).data.length < 2 ^ 31 := by simp
  rw [round, round]
  simp only [hstop, Bool.false_eq_true, if_false]
  rw [answer, answer, if_pos hsubmit, if_pos hsubmit]
  simp only [hplan, carryOut, Option.bind_some]
  refine ⟨_, replyOf_of_le host _ hsmall, fun heq => ?_⟩
  obtain ⟨o, ho, hreply⟩ := Option.bind_eq_some_iff.1 heq
  have hstatus := status_carryOut host env hq ho
  by_cases hfits : 52 + o.data.length < 2 ^ 31
  · rw [replyOf_of_le _ _ hfits] at hreply
    exact hstatus (status_of_envelope host (Option.some.inj hreply))
  · rw [replyOf_of_not_le _ _ hfits] at hreply
    cases hreply

end Round

/-! ### Runs with and without a mark -/

/-- **A mark in the set makes no difference to what follows**: it has been there before, or it is
made again before a submit meets it, and the run gets that far. -/
def Caught (q : Int32) (post : List (List UInt8)) (st : Finset Int32 × τ) : Prop :=
  q ∈ st.1 ∨ ∃ mid v rest, post = mid ++ v :: rest ∧ Unlinks v q ∧
    (∀ raw ∈ mid, ¬ Submits raw q) ∧
    (Transducer.run (host.round env) (mid ++ [v]) st).completed = true

section Run

variable {host env} {q : Int32} {post : List (List UInt8)}

/-- A mark that makes no difference. -/
theorem run_eq_of_caught {st : Finset Int32 × τ} (h : host.Caught env q post st) :
    Transducer.run (host.round env) post (insert q st.1, st.2) =
      Transducer.run (host.round env) post st := by
  rcases h with hmem | ⟨mid, v, rest, rfl, hv, hmid, hrun⟩
  · rw [Finset.insert_eq_of_mem hmem]
  -- the mark stays up to the second unlink, which sets it anyway
  · induction mid generalizing st with
    | nil =>
        have hins := round_insert host env st (q := q) fun hsub : Submits v q =>
          hv.not_submit hsub.1
        rcases hround : host.round env v st with ⟨_ | e, st'⟩
        · rw [List.nil_append, Transducer.run_cons_none hround] at hrun
          cases hrun
        · have hmem : q ∈ st'.1 := by
            have h := mem_of_unlinks host env st hv (by rw [hround]; rfl)
            rwa [hround] at h
          rw [hround, Finset.insert_eq_of_mem hmem] at hins
          rw [List.nil_append, Transducer.run_cons_some hround, Transducer.run_cons_some hins]
    | cons raw mid ih =>
        have hins := round_insert host env st
          (hmid raw (by simp))
        rcases hround : host.round env raw st with ⟨_ | e, st'⟩
        · rw [List.cons_append, Transducer.run_cons_none hround] at hrun
          cases hrun
        · rw [List.cons_append, Transducer.run_cons_some hround] at hrun
          rw [hround] at hins
          rw [List.cons_append, Transducer.run_cons_some hround, Transducer.run_cons_some hins,
            ih (fun raw hraw => hmid raw (by simp [hraw])) hrun]

/-- A mark that is met, or that stays, makes a difference. -/
theorem caught_of_run (hpost : ∀ raw ∈ post, IsCommand raw) {st : Finset Int32 × τ}
    (houtputs : (Transducer.run (host.round env) post (insert q st.1, st.2)).outputs =
      (Transducer.run (host.round env) post st).outputs)
    (hset : (Transducer.run (host.round env) post (insert q st.1, st.2)).state.1 =
      (Transducer.run (host.round env) post st).state.1) : host.Caught env q post st := by
  by_cases hq : q ∈ st.1
  · exact Or.inl hq
  refine Or.inr ?_
  -- along the commands behind the unlink, as long as the mark stays
  induction post generalizing st with
  | nil =>
      rw [Transducer.run_nil, Transducer.run_nil] at hset
      exact absurd (hset ▸ Finset.mem_insert_self q st.1) hq
  | cons raw post ih =>
      by_cases hsub : Submits raw q
      · -- the marked submit is met
        exfalso
        by_cases hstop : (env .stopped st.2).1 = true
        · have hnone (C : Finset Int32) : host.round env raw (C, st.2) =
              (none, C, (env .stopped st.2).2) := by rw [round, if_pos hstop]
          rw [Transducer.run_cons_none (hnone _), Transducer.run_cons_none (hnone st.1)] at hset
          exact hq (hset ▸ Finset.mem_insert_self q st.1)
        · obtain ⟨e, he, hne⟩ := round_marked host env st hsub hq (Bool.not_eq_true _ ▸ hstop)
          rcases hround' : host.round env raw (insert q st.1, st.2) with ⟨r, st'⟩
          rw [hround'] at he
          obtain rfl : r = some e := he
          rw [Transducer.run_cons_some hround'] at houtputs
          rcases hround : host.round env raw st with ⟨_ | e', st''⟩
          · rw [Transducer.run_cons_none hround] at houtputs
            cases houtputs
          · rw [Transducer.run_cons_some hround] at houtputs
            rw [hround] at hne
            exact hne (congrArg some (List.cons.inj houtputs).1.symm)
      · have hins := round_insert host env st hsub
        have hcmd := hpost raw (by simp)
        rcases hround : host.round env raw st with ⟨_ | e, st'⟩
        · rw [hround] at hins
          rw [Transducer.run_cons_none hround, Transducer.run_cons_none hins] at hset
          have hmem : q ∈ st'.1 := hset ▸ Finset.mem_insert_self q st'.1
          have hnot := not_mem_of_none host env st hq (by rw [hround])
          rw [hround] at hnot
          exact absurd hmem hnot
        · rw [hround] at hins
          rw [Transducer.run_cons_some hround, Transducer.run_cons_some hins] at houtputs hset
          -- this command is an unlink with the same number, or the marks differ as before
          by_cases hmem : q ∈ st'.1
          · refine ⟨[], raw, post, rfl, ?_, by simp, ?_⟩
            · exact unlinks_of_mem host env st hcmd hq (by rwa [hround])
            · rw [List.nil_append, Transducer.run_cons_some hround, Transducer.run_nil]
          · obtain ⟨mid, v, rest, rfl, hv, hmid, hrun⟩ :=
              ih (fun raw hraw => hpost raw (by simp [hraw])) (List.cons.inj houtputs).2 hset hmem
            refine ⟨raw :: mid, v, rest, rfl, hv, ?_, ?_⟩
            · exact List.forall_mem_cons.2 ⟨hsub, hmid⟩
            · rw [List.cons_append, Transducer.run_cons_some hround]
              exact hrun

end Run

/-! ### A stream with and without an unlink -/

/-- **Two ends of runs that differ by one reply only.**  The outputs are the same but for the reply,
which comes after the given bytes; the calls of the USB API are the same, and so is the set of
marked numbers. -/
def Harmless (before reply : List UInt8)
    (s s' : Io (Finset Int32 × List (Call usbSig) × τ)) : Prop :=
  (∃ after, s.output = before ++ reply ++ after ∧ s'.output = before ++ after) ∧
    s.env.2.1 = s'.env.2.1 ∧ s.env.1 = s'.env.1

/-- What a run writes are envelopes of a size that a Java array can have. -/
theorem length_outputs (commands : List (List UInt8)) (st : Finset Int32 × τ) :
    ∀ e ∈ (Transducer.run (host.round env) commands st).outputs, e.payload.length < 2 ^ 32 := by
  refine Transducer.forall_outputs fun raw _ st e he => ?_
  rw [round] at he
  by_cases hstop : (env .stopped st.2).1 = true
  · rw [if_pos hstop] at he
    cases he
  · rw [if_neg hstop] at he
    exact Nat.lt_trans (length_answer he) (by omega)

/-- A round that handles an unlink. -/
theorem round_of_unlinks {u : List UInt8} {q : Int32} (hu : Unlinks u q) (st : Finset Int32 × τ)
    (hstop : ¬ (env .stopped st.2).1 = true) :
    host.round env u st =
      (some (host.envelopeOf (retUnlinkPacket (UsbIpFrame.CmdUnlink.ofHeader u).seqnum)),
        insert q st.1, (env .stopped st.2).2) := by
  rw [round, if_neg hstop, answer, if_neg hu.not_submit]
  simp only [hu.2]

/-- The commands of a stream are those that it consists of. -/
theorem commandsOf_flatten {commands : List (List UInt8)}
    (hwhole : ∀ raw ∈ commands, IsCommand raw ∧ urbSize raw = raw.length) {rest : List UInt8}
    (hrest : ∀ r, takeUrb rest ≠ .ok (some r)) :
    commandsOf (commands.flatten ++ rest) = commands := by
  have h := takeUrb_codec.frames_append hwhole rest
  rwa [StreamCodec.frames_eq_nil takeUrb_stable hrest, List.append_nil, List.flatMap_id'] at h

/-- **When an unlink can be deleted from a stream**: without it the replies to the other commands,
the calls of the USB API and the set at the end are the same exactly if its mark makes no difference
to what follows.  This is so for every CMD_UNLINK that is handled, whatever it names. -/
theorem pumpUrbs_unlink_iff (hpure : ∀ t, (env .stopped t).2 = t)
    {pre post : List (List UInt8)} {u rest : List UInt8} {q : Int32}
    (hwhole : ∀ raw ∈ pre ++ u :: post, IsCommand raw ∧ urbSize raw = raw.length)
    (hrest : ∀ r, takeUrb rest ≠ .ok (some r)) (hu : Unlinks u q)
    {s : Io (Finset Int32 × List (Call usbSig) × τ)} (chunks : List ℕ)
    (hs : s.input = (pre ++ u :: post).flatten ++ rest) (hout : s.output = [])
    (hdone : (Transducer.run (host.round (logged env)) (pre ++ [u]) s.env).completed = true) :
    ∃ result s₁ result' s₂,
      (∀ fuel, s.input.length < fuel →
        host.pumpUrbs (logged env) fuel s = some (result, s₁)) ∧
      (∀ fuel, ((pre ++ post).flatten ++ rest).length < fuel →
        host.pumpUrbs (logged env) fuel ⟨(pre ++ post).flatten ++ rest, chunks, [], s.env⟩ =
          some (result', s₂)) ∧
      (Harmless
          ((Transducer.run (host.round (logged env)) pre s.env).outputs.flatMap Envelope.bytes)
          (host.envelopeOf (retUnlinkPacket (UsbIpFrame.CmdUnlink.ofHeader u).seqnum)).bytes s₁ s₂ ↔
        host.Caught (logged env) q post
          (Transducer.run (host.round (logged env)) pre s.env).state) := by
  have hpure' : ∀ t, (logged env .stopped t).2 = t := by
    rintro ⟨trace, t⟩
    exact Prod.ext rfl (hpure t)
  obtain ⟨result, input, ch, hrun⟩ := host.pumpUrbs_of_pure (logged env) hpure' s
  obtain ⟨result', input', ch', hrun'⟩ := host.pumpUrbs_of_pure (logged env) hpure'
    ⟨(pre ++ post).flatten ++ rest, chunks, [], s.env⟩
  have hcmds : StreamCodec.frames takeUrb s.input = pre ++ u :: post := by
    rw [hs]
    exact commandsOf_flatten hwhole hrest
  have hcmds' : StreamCodec.frames takeUrb ((pre ++ post).flatten ++ rest) = pre ++ post := by
    refine commandsOf_flatten (fun raw hraw => hwhole raw ?_) hrest
    rw [List.mem_append] at hraw ⊢
    exact hraw.imp_right (List.mem_cons_of_mem u)
  simp only [hcmds, hcmds', hout, List.nil_append] at hrun hrun'
  have hpre := Transducer.completed_of_append hdone
  rw [Transducer.run_append hpre] at hdone
  simp only [Transducer.run_append hpre] at hrun hrun'
  have hlength := length_outputs host (logged env) post
  generalize Transducer.run (host.round (logged env)) pre s.env = before at *
  -- the unlink is handled, and leaves its mark
  have hround : host.round (logged env) u before.state =
      (some (host.envelopeOf (retUnlinkPacket (UsbIpFrame.CmdUnlink.ofHeader u).seqnum)),
        insert q before.state.1, before.state.2) := by
    by_cases hstop : (logged env .stopped before.state.2).1 = true
    · have hnone : host.round (logged env) u before.state =
          (none, before.state.1, (logged env .stopped before.state.2).2) := by
        rw [round, if_pos hstop]
      simp only [Transducer.run_cons_none hnone] at hdone
      cases hdone
    · rw [round_of_unlinks host (logged env) hu _ hstop, hpure']
  simp only [Transducer.run_cons_some hround] at hrun
  refine ⟨result, _, result', _, hrun, hrun', ?_⟩
  rw [Harmless]
  simp only [List.flatMap_append, List.flatMap_cons]
  constructor
  · rintro ⟨⟨after, houtput, houtput'⟩, -, hset⟩
    have hafter := List.append_cancel_left houtput'
    rw [List.append_assoc] at houtput
    have hmarked := List.append_cancel_left (List.append_cancel_left houtput)
    refine caught_of_run (fun raw hraw => (hwhole raw ?_).1) ?_ hset
    · exact List.mem_append_right _ (List.mem_cons_of_mem u hraw)
    · exact Envelope.flatMap_bytes_inj (hlength _) (hlength _) (hmarked.trans hafter.symm)
  · intro h
    rw [run_eq_of_caught h]
    exact ⟨⟨_, (List.append_assoc ..).symm, rfl⟩, rfl, rfl⟩

/-- A pump without endpoints. -/
def bareHost : UsbIpHost := ⟨7, fun _ => none, fun _ => none, []⟩

/-- It is answered, and its number is not marked afterwards. -/
theorem round_submitOne {τ : Type} {env : Env usbSig τ} (hstop : ∀ t, env .stopped t = (false, t))
    (t : τ) : ∃ e, bareHost.round env submitOne.raw (∅, t) = (some e, ∅, t) := by
  have hplan : bareHost.plan ∅ (UsbIpFrame.CmdSubmit.ofHeader submitOne.raw) = .status (-19) := by
    decide
  rw [round_eq hstop, answer, if_pos (by decide)]
  simp only [hplan, carryOut, Option.bind_some, Finset.erase_empty]
  exact ⟨_, by rw [replyOf_of_le _ _ (by simp)]⟩

theorem unlinks_unlinkOne : Unlinks unlinkOne.raw 1 := by
  rw [Unlinks]
  decide

/-- Of two unlinks of one submit the first can be deleted. -/
theorem pumpUrbs_unlink_unlinkOne :
    ∃ before result s₁ result' s₂,
      (∀ fuel, (submitOne.raw ++ unlinkOne.raw ++ unlinkOne.raw).length < fuel →
        bareHost.pumpUrbs (logged fullTransfers) fuel
          ⟨submitOne.raw ++ unlinkOne.raw ++ unlinkOne.raw, [], [], (∅, [], ())⟩ =
            some (result, s₁)) ∧
      (∀ fuel, (submitOne.raw ++ unlinkOne.raw).length < fuel →
        bareHost.pumpUrbs (logged fullTransfers) fuel
          ⟨submitOne.raw ++ unlinkOne.raw, [], [], (∅, [], ())⟩ = some (result', s₂)) ∧
      Harmless before (bareHost.envelopeOf (retUnlinkPacket 2)).bytes s₁ s₂ := by
  have hstop : ∀ t, logged fullTransfers .stopped t = (false, t) := logged_stopped fun _ => rfl
  obtain ⟨e, he⟩ := round_submitOne hstop ([], ())
  have hunlink := round_of_unlinks bareHost (logged fullTransfers) unlinks_unlinkOne (∅, [], ())
    (by simp [hstop])
  have hwhole : ∀ raw ∈ [submitOne.raw] ++ unlinkOne.raw :: [unlinkOne.raw],
      IsCommand raw ∧ urbSize raw = raw.length := by
    rw [List.singleton_append, List.forall_mem_cons, List.forall_mem_cons, List.forall_mem_singleton]
    have hunlinkOne := And.intro unlinkOne.isCommand
      (show urbSize unlinkOne.raw = unlinkOne.raw.length by decide)
    exact ⟨⟨submitOne.isCommand, by decide⟩, hunlinkOne, hunlinkOne⟩
  have hnil : ∀ r, takeUrb [] ≠ .ok (some r) := Junk.not_take (Or.inl (by decide))
  have hdone : (Transducer.run (bareHost.round (logged fullTransfers))
      ([submitOne.raw] ++ [unlinkOne.raw]) (∅, [], ())).completed = true := by
    rw [List.singleton_append, Transducer.run_cons_some he, Transducer.run_cons_some hunlink,
      Transducer.run_nil]
  have hrun := Transducer.run_cons_some he []
  have hcaught : bareHost.Caught (logged fullTransfers) 1 [unlinkOne.raw]
      (Transducer.run (bareHost.round (logged fullTransfers)) [submitOne.raw] (∅, [], ())).state := by
    rw [hrun]
    refine Or.inr ⟨[], unlinkOne.raw, [], rfl, unlinks_unlinkOne, by simp, ?_⟩
    rw [List.nil_append, Transducer.run_nil, Transducer.run_cons_some hunlink, Transducer.run_nil]
  have hinput : (⟨submitOne.raw ++ unlinkOne.raw ++ unlinkOne.raw, [], [], (∅, [], ())⟩ :
      Io (Finset Int32 × List (Call usbSig) × Unit)).input =
      ([submitOne.raw] ++ unlinkOne.raw :: [unlinkOne.raw]).flatten ++ [] := by simp
  obtain ⟨result, s₁, result', s₂, hrun₁, hrun₂, hiff⟩ := pumpUrbs_unlink_iff bareHost fullTransfers
    (fun _ => rfl) hwhole hnil unlinks_unlinkOne [] hinput rfl hdone
  refine ⟨_, result, s₁, result', s₂, hrun₁, ?_, hiff.2 hcaught⟩
  simpa using hrun₂

/-- **An unlink behind the answer leaves its number marked for ever.** -/
theorem pumpUrbs_submitOne_unlinkOne :
    ∃ s₁ s₂,
      (∀ fuel, (submitOne.raw ++ unlinkOne.raw).length < fuel →
        bareHost.pumpUrbs fullTransfers fuel
          ⟨submitOne.raw ++ unlinkOne.raw, [], [], (∅, ())⟩ = some (.ok (), s₁)) ∧
      (∀ fuel, submitOne.raw.length < fuel →
        bareHost.pumpUrbs fullTransfers fuel ⟨submitOne.raw, [], [], (∅, ())⟩ =
          some (.ok (), s₂)) ∧
      s₁.env.1 = {1} ∧ s₂.env.1 = ∅ := by
  have hstop : ∀ t, fullTransfers .stopped t = (false, t) := fun _ => rfl
  have hsized : ∀ p ∈ [submitOne, unlinkOne], bufferLength p.raw < 2 ^ 31 := by decide
  have hsized' : ∀ p ∈ [submitOne], bufferLength p.raw < 2 ^ 31 := by decide
  have hnil : Junk [] := Or.inl (by decide)
  obtain ⟨e, he⟩ := round_submitOne hstop ()
  have hunlink := round_of_unlinks bareHost fullTransfers unlinks_unlinkOne (∅, ()) (by simp [hstop])
  rw [round_eq hstop] at he hunlink
  have hinput : (⟨submitOne.raw ++ unlinkOne.raw, [], [], (∅, ())⟩ :
      Io (Finset Int32 × Unit)).input = [submitOne, unlinkOne].flatMap Urb.raw ++ [] := by simp
  have hinput' : (⟨submitOne.raw, [], [], (∅, ())⟩ : Io (Finset Int32 × Unit)).input =
      [submitOne].flatMap Urb.raw ++ [] := by simp
  obtain ⟨input, chunks, hrun⟩ := pumpUrbs_packets fullTransfers hstop bareHost hsized hnil hinput
  obtain ⟨input', chunks', hrun'⟩ :=
    pumpUrbs_packets fullTransfers hstop bareHost hsized' hnil hinput'
  simp only [List.map_cons, List.map_nil, Transducer.run_cons_some he,
    Transducer.run_cons_some hunlink, Transducer.run_nil, resultOf] at hrun hrun'
  exact ⟨_, _, hrun, hrun', rfl, rfl⟩

end UsbIpHost

end Zerowire

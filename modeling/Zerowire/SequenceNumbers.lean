/-
**The sequence numbers of the reports** (`desktop-linux/src/receiver.rs`, `run_receive`;
`desktop-linux/src/bin/linux_sender.rs`, `pump_reports`).

The sender numbers its reports 1, 2, 3, … and sends 16 bits of the number.  The receiver keeps the
number of the last report and notes a jump when the next one is not its successor.  It starts with 0
for "no report yet".  But 0 is also what is sent with every 65536th report.

Main definitions:

* `Zerowire.seqOf` — what is sent of a number;
* `Zerowire.Arrival`, `Zerowire.Lossy` — what arrives when reports are lost;
* `Zerowire.Received` — the loop comes to a report;
* `Zerowire.NotesJump` — a jump is noted at it.

Main results:

* `Zerowire.exec_pumpRound_report` — the sender numbers its reports that way;
* `Zerowire.lastSeq_eq` — what the loop remembers of the last report;
* `Zerowire.jumps_exact_iff` — **when a jump is noted exactly where reports were lost**.
-/

import Mathlib.Data.List.Chain
import Zerowire.LinuxSender
import Zerowire.SessionRun

set_option relaxedAutoImplicit false
set_option autoImplicit false

namespace Zerowire

open Bytes Program

/-! ### The numbers that are sent -/

/-- What is sent of the number of a report. -/
def seqOf (n : ℕ) : UInt16 := UInt16.ofNat n

theorem seqOf_succ (n : ℕ) : seqOf (n + 1) = seqOf n + 1 := UInt16.ofNat_add n 1

theorem seqOf_eq_iff (n m : ℕ) : seqOf n = seqOf m ↔ n % 2 ^ 16 = m % 2 ^ 16 := by
  rw [← UInt16.toNat_inj, seqOf, seqOf, UInt16.toNat_ofNat', UInt16.toNat_ofNat']

/-- Zero is sent for every 65536th report. -/
theorem seqOf_eq_zero_iff (n : ℕ) : seqOf n = 0 ↔ n % 2 ^ 16 = 0 := by
  have hzero : (0 : UInt16) = seqOf 0 := rfl
  rw [hzero, seqOf_eq_iff, Nat.zero_mod]

/-- A report that fits into the sender's buffer fits into an envelope. -/
theorem fits_report (bindId : UInt8) (seq : UInt16) {body : List UInt8} (h : body.length ≤ 64) :
    (HidFrame.envelope ⟨.reportIn, bindId, seq, body⟩).Fits := by
  have hlen : (HidFrame.encode ⟨.reportIn, bindId, seq, body⟩).length = body.length + 4 := rfl
  rw [Envelope.Fits, HidFrame.envelope, hlen, maxPayload]
  omega

/-- **The sender numbers its reports one by one**: having sent `n` of them, it sends the next one
with what is sent of `n + 1`. -/
theorem exec_pumpRound_report {τ : Type} (env : Env linuxSig τ) (bindId : UInt8) (n : ℕ) (io : Io τ)
    {bs : { bs : List UInt8 // 0 < bs.length ∧ bs.length ≤ 64 }} {t : τ}
    (hread : env .read io.env = (.report bs, t)) :
    exec env (LinuxSender.pumpRound ⟨bindId, seqOf n⟩) io =
      (.ok (.inl ⟨bindId, seqOf (n + 1)⟩),
        { io with
          output := io.output ++
            (HidFrame.envelope ⟨.reportIn, bindId, seqOf (n + 1), bs.val⟩).bytes
          env := t }) := by
  have hcall : exec env (call (X := linuxSig) .read : Act linuxSig (Fault LinuxError) _) io =
      (.ok (.report bs), { io with env := t }) := by
    rw [exec_call, hread]
  have hframe : (LinuxSender.hidEnvelope ⟨.reportIn, bindId, seqOf (n + 1), bs.val⟩ :
      Except (Fault LinuxError) _) =
        .ok (HidFrame.envelope ⟨.reportIn, bindId, seqOf (n + 1), bs.val⟩).bytes :=
    LinuxSender.hidEnvelope_of_fits (fits_report bindId _ bs.property.2)
  rw [LinuxSender.pumpRound, exec_bind_ok hcall]
  simp only
  rw [← seqOf_succ, LinuxSender.writeFrame, hframe]
  rfl

/-! ### What arrives -/

/-- What arrives at the loop: a report, with its number, or an envelope that carries no report. -/
inductive Arrival where
  | report (n : ℕ) (bindId : UInt8) (body : List UInt8)
  | other (e : Envelope) (h : ∀ f, Carries e f → f.op ≠ .reportIn)

namespace Arrival

/-- The frame of a report. -/
def frame (n : ℕ) (bindId : UInt8) (body : List UInt8) : HidFrame :=
  ⟨.reportIn, bindId, seqOf n, body⟩

/-- The envelope that arrives. -/
def envelope : Arrival → Envelope
  | report n bindId body => (frame n bindId body).envelope
  | other e _ => e

/-- The number of a report. -/
def number : Arrival → Option ℕ
  | report n _ _ => some n
  | other _ _ => none

end Arrival

/-- The numbers of the reports that arrive. -/
def numbers (as : List Arrival) : List ℕ := as.filterMap Arrival.number

/-- **Some of the reports 1, 2, 3, … arrive**, in their order, and never are 65536 in a row lost. -/
def Lossy (as : List Arrival) : Prop :=
  (0 :: numbers as).IsChain fun n m => n < m ∧ m ≤ n + 2 ^ 16

/-- The numbers of two reports that arrive one after the other. -/
theorem Lossy.bounds {pre post : List Arrival} {prev n : ℕ} {bindId : UInt8} {body : List UInt8}
    (h : Lossy (pre ++ .report n bindId body :: post))
    (hprev : (numbers pre).getLast? = some prev) :
    prev < n ∧ n ≤ prev + 2 ^ 16 := by
  obtain ⟨before, hbefore⟩ := List.getLast?_eq_some_iff.1 hprev
  have hsplit : numbers (pre ++ .report n bindId body :: post) =
      before ++ prev :: n :: numbers post := by
    rw [numbers, List.filterMap_append, ← numbers, hbefore, List.append_assoc]
    rfl
  rw [Lossy, hsplit, ← List.cons_append, List.isChain_append_cons_cons] at h
  exact h.2.1

/-! ### What is noted -/

section Session

variable {τ : Type} (json : Json BindAckMeta) (desktop : Desktop τ)

/-- **A jump is noted** in the step for an envelope. -/
def NotesJump (e : Envelope) (st : Session × SessionLog τ) : Prop :=
  ∃ prev got, Asks json desktop e st (.seqJump prev got)

theorem notesJump_iff (e : Envelope) (s : Session) (log : SessionLog τ) :
    NotesJump json desktop e (s, log) ↔
      desktop.stop log.2.2.2 = false ∧ ∃ f, Carries e f ∧ f.op = .reportIn ∧ s.Jump f := by
  have hframe (f : HidFrame) :
      (∃ prev got, .seqJump prev got ∈ frameOps json s f) ↔ f.op = .reportIn ∧ s.Jump f := by
    rw [frameOps]
    cases f.op with
    | reportIn =>
        by_cases hjump : s.Jump f
        · simp [hjump]
        · simp [hjump]
    | bindAck =>
        generalize (parseBindAckBody json f.body).toOption.bind (fun r => profileOf r.1) = profile
        cases profile <;> simp
    | bind | reportOut | reportFeature | unbind => simp
  simp only [NotesJump, asks_iff, mem_envelopeOps]
  constructor
  · rintro ⟨prev, got, hstop, f, hf, ho⟩
    exact ⟨hstop, f, hf, (hframe f).1 ⟨prev, got, ho⟩⟩
  · rintro ⟨hstop, f, hf, hop⟩
    obtain ⟨prev, got, ho⟩ := (hframe f).2 hop
    exact ⟨prev, got, hstop, f, hf, ho⟩

/-- What the loop remembers of the last report, after a step. -/
theorem lastSeq_step {e : Envelope} {s s' : Session} {log log' : SessionLog τ}
    (h : sessionStep json desktop.logged e (s, log) = .inl (s', log')) :
    (∀ f, Carries e f → f.op = .reportIn → s'.lastSeq = f.seq) ∧
      ((∀ f, Carries e f → f.op ≠ .reportIn) → s'.lastSeq = s.lastSeq) := by
  rcases sessionStep_cases json desktop h with
    ⟨f, hf, hop, rfl⟩ | ⟨f, info, descriptor, profile, hf, hop, -, -, rfl⟩ | ⟨hno, rfl⟩
  · refine ⟨fun g hg _ => ?_, fun hno => absurd hop (hno f hf)⟩
    rw [hg.unique hf]
  · refine ⟨fun g hg hgop => ?_, fun _ => rfl⟩
    rw [hg.unique hf, hop] at hgop
    cases hgop
  · exact ⟨fun g hg hgop => absurd hgop (hno g hg).1, fun _ => rfl⟩

/-- **What the loop remembers** is what was sent of the number of the last report, or the zero that
it started with. -/
theorem lastSeq_eq {as : List Arrival} {log : SessionLog τ} {st : Session × SessionLog τ}
    (h : Consumer.run (sessionStep json desktop.logged) (as.map Arrival.envelope) ({}, log) = .inl st) :
    st.1.lastSeq = seqOf ((numbers as).getLast?.getD 0) := by
  -- from the end: the last report has the last number
  induction as using List.reverseRecOn generalizing st with
  | nil =>
      cases h
      rfl
  | append_singleton as a ih =>
      rw [List.map_append] at h
      obtain ⟨⟨s, log₁⟩, hpre, hlast⟩ := Consumer.exists_run_of_append h
      rcases hstep : sessionStep json desktop.logged a.envelope (s, log₁) with ⟨s', log'⟩ | r
      · rw [List.map_singleton, Consumer.run_cons_inl hstep] at hlast
        cases hlast
        obtain ⟨hreport, hother⟩ := lastSeq_step json desktop hstep
        cases a with
        | report n bindId body =>
            rw [hreport _ (carries_envelope (Arrival.frame n bindId body)) rfl, numbers,
              List.filterMap_append, List.filterMap_cons_some (f := Arrival.number) rfl,
              List.filterMap_nil, List.getLast?_concat]
            rfl
        | other e hno =>
            rw [hother hno, ih hpre, numbers, numbers, List.filterMap_append,
              List.filterMap_cons_none (f := Arrival.number) rfl, List.filterMap_nil, List.append_nil]
      · rw [List.map_singleton, Consumer.run_cons_inr hstep] at hlast
        cases hlast

/-- **The loop comes to a report**: to number `n`, in the state `st`, and the last one before it had
the number `prev`. -/
structure Received (statics : ReportState) (t : τ) (as : List Arrival) (prev n : ℕ) (e : Envelope)
    (st : Session × SessionLog τ) : Prop where
  arrives : ∃ pre bindId body post, as = pre ++ .report n bindId body :: post ∧
    e = (Arrival.frame n bindId body).envelope ∧ (numbers pre).getLast? = some prev ∧
    Consumer.run (sessionStep json desktop.logged) (pre.map Arrival.envelope)
      ({}, ([], statics, [], t)) = .inl st
  running : desktop.stop st.2.2.2.2 = false

/-- At a report a jump is noted exactly if one was lost before it and the last one did not have the
number zero. -/
theorem Received.notesJump_iff {statics : ReportState} {t : τ} {as : List Arrival} {prev n : ℕ}
    {e : Envelope} {st : Session × SessionLog τ} (hlossy : Lossy as)
    (h : Received json desktop statics t as prev n e st) :
    NotesJump json desktop e st ↔ n ≠ prev + 1 ∧ prev % 2 ^ 16 ≠ 0 := by
  obtain ⟨⟨pre, bindId, body, post, rfl, rfl, hprev, hrun⟩, hrunning⟩ := h
  have hlast := lastSeq_eq json desktop hrun
  rw [hprev, Option.getD_some] at hlast
  have hbounds := hlossy.bounds hprev
  have hframe := carries_envelope (Arrival.frame n bindId body)
  have hjump : st.1.Jump (Arrival.frame n bindId body) ↔ n ≠ prev + 1 ∧ prev % 2 ^ 16 ≠ 0 := by
    rw [Session.Jump, hlast, ← seqOf_succ, Arrival.frame, ne_eq, ne_eq, seqOf_eq_iff,
      seqOf_eq_zero_iff]
    omega
  rw [← hjump]
  constructor
  · intro hnotes
    obtain ⟨-, f, hf, -, hfjump⟩ := (Zerowire.notesJump_iff json desktop _ st.1 st.2).1 hnotes
    rwa [hf.unique hframe] at hfjump
  · intro hfjump
    exact (Zerowire.notesJump_iff json desktop _ st.1 st.2).2 ⟨hrunning, _, hframe, rfl, hfjump⟩

/-- **When a jump is noted exactly where reports were lost.**  In every run: at every report that
the loop comes to, and that is not the first one, a jump is noted exactly if one was lost before it,
if and only if no report is lost right behind a report whose number is a multiple of 65536. -/
theorem jumps_exact_iff (statics : ReportState) (t : τ) (as : List Arrival) (hlossy : Lossy as) :
    (∀ prev n e st, Received json desktop statics t as prev n e st →
      (NotesJump json desktop e st ↔ n ≠ prev + 1)) ↔
    ∀ prev n e st, Received json desktop statics t as prev n e st → n ≠ prev + 1 →
      prev % 2 ^ 16 ≠ 0 := by
  constructor
  · intro hexact prev n e st h hlost
    exact ((h.notesJump_iff json desktop hlossy).1 ((hexact prev n e st h).2 hlost)).2
  · intro hcond prev n e st h
    rw [h.notesJump_iff json desktop hlossy]
    exact ⟨And.left, fun hlost => ⟨hlost, hcond prev n e st h hlost⟩⟩

end Session

/-- The first and the third report arrive. -/
def secondLost : List Arrival := [.report 1 bindId [1, 0, 0], .report 3 bindId [0, 0, 0]]

/-- The first report before there is a device. -/
theorem sessionStep_first (n : ℕ) :
    sessionStep mouseJson idleDesktop.logged (Arrival.frame n bindId [1, 0, 0]).envelope
      ({}, ([], {}, [], ())) = .inl (⟨none, seqOf n⟩, ([], {}, [], ())) := by
  rw [sessionStep_reading _ _ rfl, answer_handleEnvelope_frame _ _ (carries_envelope _),
    answer_handleFrame_reportIn _ _ rfl, answer_handleReport_unbound _ rfl, if_neg]
  · rfl
  · rintro ⟨-, hzero⟩
    exact hzero rfl

/-- The loss of the second one is noted. -/
theorem jumps_exact_secondLost :
    ∃ e st, Received mouseJson idleDesktop {} () secondLost 1 3 e st ∧
      NotesJump mouseJson idleDesktop e st := by
  have hreceived : Received mouseJson idleDesktop {} () secondLost 1 3
      (Arrival.frame 3 bindId [0, 0, 0]).envelope (⟨none, seqOf 1⟩, ([], {}, [], ())) :=
    ⟨⟨[.report 1 bindId [1, 0, 0]], bindId, [0, 0, 0], [], rfl, rfl, rfl,
      Consumer.run_cons_inl (sessionStep_first 1) []⟩, rfl⟩
  refine ⟨_, _, hreceived, ((jumps_exact_iff mouseJson idleDesktop {} () secondLost
    (.cons_cons (by decide) (.cons_cons (by decide) (.singleton _)))).2 ?_ 1 3 _ _ hreceived).2
    (by decide)⟩
  rintro prev n e st ⟨⟨pre, bindId, body, post, hsplit, -, hprev, -⟩, -⟩ -
  -- only the first report has another one behind it
  have hmem : prev ∈ numbers secondLost := by
    rw [hsplit, numbers, List.filterMap_append]
    exact List.mem_append_left _ (List.mem_of_getLast? hprev)
  have hsmall : ∀ m ∈ numbers secondLost, m % 2 ^ 16 ≠ 0 := by decide
  exact hsmall prev hmem

/-- Two reports arrive: number 65536, and number 65538. -/
def lostBehindZero : List Arrival :=
  [.report 65536 bindId [1, 0, 0], .report 65538 bindId [0, 0, 0]]

/-- The loss between the two is not noted. -/
theorem lostBehindZero_not_noted :
    Lossy lostBehindZero ∧
    ¬ ∀ prev n e st, Received mouseJson idleDesktop {} () lostBehindZero prev n e st →
      (NotesJump mouseJson idleDesktop e st ↔ n ≠ prev + 1) := by
  refine ⟨.cons_cons (by decide) (.cons_cons (by decide) (.singleton _)), fun hexact => ?_⟩
  have hnotes := (hexact 65536 65538 (Arrival.frame 65538 bindId [0, 0, 0]).envelope
    ({}, ([], {}, [], ())) ⟨⟨[.report 65536 bindId [1, 0, 0]], bindId, [0, 0, 0], [], rfl, rfl, rfl,
      Consumer.run_cons_inl (sessionStep_first 65536) []⟩, rfl⟩).2 (by decide)
  obtain ⟨-, f, -, -, -, hzero⟩ := (notesJump_iff mouseJson idleDesktop _ _ _).1 hnotes
  exact hzero rfl

end Zerowire

/-
**Incremental decoding of a framed stream.**

A peer sends frames back to back and the transport delivers the bytes in pieces that have nothing
to do with the frames.  A decoder keeps what it has not used yet, appends each piece as it
arrives, and takes complete frames off the front.  When that yields the frames that were sent,
whatever the pieces were, is a question about the one-frame parser alone: what it answers on a
buffer must not be taken back when more bytes arrive.  This module states the condition
(`StreamCodec.Stable`), adds the round trip of a single frame (`StreamCodec.Codec`), and derives
the behaviour of the incremental decoder from the two.

A parser answers `ok none` when the buffer does not yet hold a whole frame, `ok (some (a, n))`
when the first `n` bytes are the frame `a`, and `error` when no continuation can be a frame.

Main definitions:

* `StreamCodec.Stable` — an answer other than "not yet" survives every extension of the buffer;
* `StreamCodec.Codec` — a stable parser that reads back the encoding of every valid frame;
* `StreamCodec.drain`, `StreamCodec.frames` — take frames off the front until the parser stops;
* `StreamCodec.Decoder`, `StreamCodec.feed` — the decoder that is fed one piece at a time;
* `StreamCodec.wholeFrames` — the frames that are left whole when a stream is cut off.

Main results:

* `StreamCodec.frames_eq_cons`, `StreamCodec.frames_eq_nil` — the decodable prefix, one frame at a
  time;
* `StreamCodec.Codec.frames_wire` — a concatenation of encodings decodes to its frames;
* `StreamCodec.Codec.feed_chunks` — **cutting does not matter**: however the concatenation is cut
  into pieces, feeding them yields exactly the frames and leaves nothing over;
* `StreamCodec.Codec.frames_take` — a stream that is cut off decodes to the frames that are whole.
-/

import Mathlib.Data.List.Basic
import Mathlib.Data.Nat.Notation
import Mathlib.Data.UInt

set_option relaxedAutoImplicit false
set_option autoImplicit false

namespace StreamCodec

variable {α β ε : Type}

/-- The answer of a one-frame parser. -/
abbrev Parser (α β ε : Type) := List β → Except ε (Option (α × ℕ))

/-- A parser whose answers are not taken back: a frame or an error found on a buffer is found on
every extension of it, a frame it finds is not empty and lies inside the buffer, and nothing is
decided before the first byte. -/
structure Stable (P : Parser α β ε) : Prop where
  /-- Nothing is decided on an empty buffer. -/
  nil : P [] = .ok none
  /-- A frame uses at least one byte. -/
  pos : ∀ {b a n}, P b = .ok (some (a, n)) → 0 < n
  /-- A frame lies inside the buffer. -/
  le : ∀ {b a n}, P b = .ok (some (a, n)) → n ≤ b.length
  /-- A frame is found again when bytes are appended. -/
  frame : ∀ {b r} (x : List β), P b = .ok (some r) → P (b ++ x) = .ok (some r)
  /-- An error is found again when bytes are appended. -/
  fault : ∀ {b e} (x : List β), P b = .error e → P (b ++ x) = .error e

/-- A stable parser together with the encoding it inverts on the valid frames. -/
structure Codec (P : Parser α β ε) (wire : α → List β) (Valid : α → Prop) : Prop
    extends Stable P where
  /-- The encoding of a valid frame is read back, whatever follows it. -/
  round : ∀ {a} (s : List β), Valid a → P (wire a ++ s) = .ok (some (a, (wire a).length))

/-! ### Taking frames off the front -/

/-- Take frames off the front of a buffer until the parser stops, at most `fuel` of them: the
frames, the bytes left, and the error that stopped the parser, if one did. -/
def drain (P : Parser α β ε) : ℕ → List β → List α × List β × Option ε
  | 0, b => ([], b, none)
  | fuel + 1, b =>
      match P b with
      | .error e => ([], b, some e)
      | .ok none => ([], b, none)
      | .ok (some (a, n)) =>
          let r := drain P fuel (b.drop n)
          (a :: r.1, r.2)

/-- Every frame uses a byte, so a buffer never holds more frames than bytes. -/
def drainAll (P : Parser α β ε) (b : List β) : List α × List β × Option ε := drain P b.length b

/-- **The decodable prefix** of a buffer: the frames taken off its front. -/
def frames (P : Parser α β ε) (b : List β) : List α := (drainAll P b).1

/-- More fuel than bytes changes nothing. -/
theorem drain_eq_drainAll {P : Parser α β ε} (hP : Stable P) :
    ∀ (fuel : ℕ) (b : List β), b.length ≤ fuel → drain P fuel b = drainAll P b := by
  intro fuel
  induction fuel using Nat.strongRecOn with
  | _ fuel ih =>
      intro b hb
      cases fuel with
      | zero => rw [drainAll, show b.length = 0 by omega]
      | succ fuel =>
          cases hlen : b.length with
          | zero =>
              obtain rfl := List.length_eq_zero_iff.1 hlen
              simp [drainAll, drain, hP.nil]
          | succ m =>
              rw [drainAll, hlen, drain, drain]
              cases hPb : P b with
              | error e => rfl
              | ok r =>
                  match r, hPb with
                  | none, _ => rfl
                  | some (a, n), hPb =>
                      -- a frame is not empty, so both fuels suffice for what is left
                      have hpos := hP.pos hPb
                      have hdrop : (b.drop n).length ≤ m := by
                        rw [List.length_drop]; omega
                      simp only
                      rw [ih fuel (by omega) (b.drop n) (by omega),
                        ih m (by omega) (b.drop n) hdrop]

theorem drainAll_eq {P : Parser α β ε} (hP : Stable P) (b : List β) :
    drainAll P b =
      match P b with
      | .error e => ([], b, some e)
      | .ok none => ([], b, none)
      | .ok (some (a, n)) => (a :: (drainAll P (b.drop n)).1, (drainAll P (b.drop n)).2) := by
  rw [← drain_eq_drainAll hP (b.length + 1) b (by omega), drain]
  cases hPb : P b with
  | error e => rfl
  | ok r =>
      match r, hPb with
      | none, _ => rfl
      | some (a, n), _ =>
          simp only
          rw [drain_eq_drainAll hP b.length (b.drop n) (by simp)]

/-- The decodable prefix starts with the frame the parser finds. -/
theorem frames_eq_cons {P : Parser α β ε} (hP : Stable P) {b : List β} {a : α} {n : ℕ}
    (h : P b = .ok (some (a, n))) : frames P b = a :: frames P (b.drop n) := by
  rw [frames, drainAll_eq hP, h]
  rfl

/-- The decodable prefix ends where the parser finds no frame. -/
theorem frames_eq_nil {P : Parser α β ε} (hP : Stable P) {b : List β}
    (h : ∀ r, P b ≠ .ok (some r)) : frames P b = [] := by
  rw [frames, drainAll_eq hP]
  cases hPb : P b with
  | error e => rfl
  | ok r =>
      cases r with
      | none => rfl
      | some r => exact absurd hPb (h r)

/-! ### The decoder that is fed in pieces -/

/-- A decoder between two pieces: the frames it has delivered, the bytes it keeps, and the error
that stopped it, if one did. -/
structure Decoder (α β ε : Type) where
  out : List α
  buf : List β
  fault : Option ε

/-- The decoder before the first piece. -/
def Decoder.start : Decoder α β ε := ⟨[], [], none⟩

/-- Append a piece and take every complete frame.  A stopped decoder ignores what arrives. -/
def feed (P : Parser α β ε) (d : Decoder α β ε) (chunk : List β) : Decoder α β ε :=
  match d.fault with
  | some _ => d
  | none =>
      let r := drainAll P (d.buf ++ chunk)
      ⟨d.out ++ r.1, r.2.1, r.2.2⟩

section Codec

variable {P : Parser α β ε} {wire : α → List β} {Valid : α → Prop}

/-- What the parser answers on a buffer that starts a concatenation of encodings: not yet, or the
first frame, whose encoding the buffer then holds. -/
theorem Codec.parse_prefix (hP : Codec P wire Valid) {b rest : List β} {a : α} {as : List α}
    (ha : Valid a) (h : b ++ rest = wire a ++ as.flatMap wire) :
    P b = .ok none ∨ ∃ b', b = wire a ++ b' ∧ P b = .ok (some (a, (wire a).length)) := by
  have hfull : P (b ++ rest) = .ok (some (a, (wire a).length)) := by
    rw [h]; exact hP.round _ ha
  cases hPb : P b with
  | error e =>
      rw [hP.fault rest hPb] at hfull
      cases hfull
  | ok r =>
      cases r with
      | none => exact Or.inl rfl
      | some r =>
          rw [hP.frame rest hPb] at hfull
          cases hfull
          obtain ⟨b', hb', -⟩ : ∃ b', b = wire a ++ b' ∧ as.flatMap wire = b' ++ rest := by
            rcases List.append_eq_append_iff.1 h with ⟨c, hc, hr⟩ | ⟨c, hc, hr⟩
            · -- the buffer is a prefix of the encoding, so it is the encoding
              have hlen := hP.le hPb
              have : c = [] := by
                apply List.eq_nil_of_length_eq_zero
                rw [hc, List.length_append] at hlen
                omega
              subst this
              exact ⟨[], by simpa using hc.symm, by simpa using hr.symm⟩
            · exact ⟨c, hc, hr⟩
          exact Or.inr ⟨b', hb', rfl⟩

/-- Draining a buffer that starts a concatenation of encodings takes the frames it holds, finds no
error, and leaves a buffer that starts the encodings of the others and holds no frame. -/
theorem Codec.drainAll_prefix (hP : Codec P wire Valid) :
    ∀ (as : List α) (b rest : List β), (∀ a ∈ as, Valid a) → b ++ rest = as.flatMap wire →
      ∃ done left b', as = done ++ left ∧ drainAll P b = (done, b', none) ∧
        b' ++ rest = left.flatMap wire ∧ P b' = .ok none := by
  intro as
  induction as with
  | nil =>
      intro b rest _ h
      obtain ⟨rfl, rfl⟩ := List.append_eq_nil_iff.1 (by simpa using h)
      exact ⟨[], [], [], rfl, rfl, rfl, hP.nil⟩
  | cons a as ih =>
      intro b rest hv h
      rw [List.flatMap_cons] at h
      rcases hP.parse_prefix (hv a (by simp)) h with hnone | ⟨b', rfl, hsome⟩
      · refine ⟨[], a :: as, b, rfl, ?_, by simpa using h, hnone⟩
        rw [drainAll_eq hP.toStable, hnone]
      · obtain ⟨done, left, b'', has, hdrain, hrest, hstop⟩ :=
          ih b' rest (fun x hx => hv x (by simp [hx])) (by simpa using h)
        refine ⟨a :: done, left, b'', by simp [has], ?_, hrest, hstop⟩
        rw [drainAll_eq hP.toStable, hsome]
        simp [hdrain]

/-- A buffer on which the parser waits is not a nonempty concatenation of encodings. -/
theorem Codec.eq_nil_of_waiting (hP : Codec P wire Valid) {as : List α}
    (hv : ∀ a ∈ as, Valid a) (h : P (as.flatMap wire) = .ok none) : as = [] := by
  cases as with
  | nil => rfl
  | cons a as =>
      rw [List.flatMap_cons, hP.round _ (hv a (by simp))] at h
      cases h

/-- **A concatenation of encodings decodes to its frames.** -/
theorem Codec.frames_wire (hP : Codec P wire Valid) {as : List α} (hv : ∀ a ∈ as, Valid a) :
    frames P (as.flatMap wire) = as := by
  obtain ⟨done, left, b', rfl, hdrain, hrest, hstop⟩ :=
    hP.drainAll_prefix as (as.flatMap wire) [] hv (by simp)
  rw [List.append_nil] at hrest
  rw [hrest] at hstop
  have hleft := hP.eq_nil_of_waiting (fun a ha => hv a (by simp [ha])) hstop
  rw [frames, hdrain, hleft, List.append_nil]

/-- Encodings in front of other bytes are decoded first. -/
theorem Codec.frames_append (hP : Codec P wire Valid) {as : List α} (hv : ∀ a ∈ as, Valid a)
    (rest : List β) : frames P (as.flatMap wire ++ rest) = as ++ frames P rest := by
  induction as with
  | nil => rfl
  | cons a as ih =>
      rw [List.flatMap_cons, List.append_assoc, List.cons_append,
        frames_eq_cons hP.toStable (hP.round _ (hv a (by simp))), List.drop_left,
        ih fun x hx => hv x (by simp [hx])]

/-- **What the decodable prefix says of a buffer**, for a parser that accepts encodings only: the
frames stand at its front, and what follows them does not start another one. -/
theorem Codec.frames_eq_iff (hP : Codec P wire Valid)
    (hexact : ∀ {b a n}, P b = .ok (some (a, n)) → Valid a ∧ b = wire a ++ b.drop n)
    {b : List β} {as : List α} :
    frames P b = as ↔
      ∃ rest, b = as.flatMap wire ++ rest ∧ (∀ a ∈ as, Valid a) ∧ ∀ r, P rest ≠ .ok (some r) := by
  constructor
  · intro h
    -- frame by frame
    induction as generalizing b with
    | nil =>
        refine ⟨b, rfl, by simp, ?_⟩
        rintro ⟨a, n⟩ hPb
        rw [frames_eq_cons hP.toStable hPb] at h
        cases h
    | cons a as ih =>
        have hsome : ∃ r, P b = .ok (some r) := by
          by_contra hnone
          rw [frames_eq_nil hP.toStable fun r hr => hnone ⟨r, hr⟩] at h
          cases h
        obtain ⟨⟨a', n⟩, hPb⟩ := hsome
        rw [frames_eq_cons hP.toStable hPb] at h
        obtain ⟨rfl, htail⟩ := List.cons.inj h
        obtain ⟨hvalid, hb⟩ := hexact hPb
        obtain ⟨rest, hrest, hall, hstop⟩ := ih htail
        refine ⟨rest, ?_, ?_, hstop⟩
        · rw [hb, hrest, List.flatMap_cons, List.append_assoc]
        · intro a ha
          rcases List.mem_cons.1 ha with rfl | ha
          · exact hvalid
          · exact hall a ha
  · rintro ⟨rest, rfl, hall, hstop⟩
    rw [hP.frames_append hall, frames_eq_nil hP.toStable hstop, List.append_nil]

/-- The invariant of a run of `feed`: no error was met, the frames delivered followed by those
still expected are the frames that were sent, and what is kept starts the encodings of the
latter. -/
theorem Codec.feed_prefix (hP : Codec P wire Valid) :
    ∀ (chunks : List (List β)) (d : Decoder α β ε) (as : List α) (rest : List β),
      (∀ a ∈ as, Valid a) → d.fault = none → P d.buf = .ok none →
      d.buf ++ chunks.flatten ++ rest = as.flatMap wire →
      ∃ done left b', as = done ++ left ∧
        chunks.foldl (feed P) d = ⟨d.out ++ done, b', none⟩ ∧
        b' ++ rest = left.flatMap wire ∧ P b' = .ok none := by
  intro chunks
  induction chunks with
  | nil =>
      rintro ⟨out, buf, fault⟩ as rest _ rfl hwait h
      exact ⟨[], as, buf, rfl, by simp, by simpa using h, hwait⟩
  | cons c chunks ih =>
      rintro ⟨out, buf, fault⟩ as rest hv rfl hwait h
      obtain ⟨done, left, b', rfl, hdrain, hrest, hstop⟩ :=
        hP.drainAll_prefix as (buf ++ c) (chunks.flatten ++ rest) hv (by simpa using h)
      have hfeed : feed P ⟨out, buf, none⟩ c = ⟨out ++ done, b', none⟩ := by
        simp [feed, hdrain]
      obtain ⟨done', left', b'', rfl, hfold, hrest', hstop'⟩ :=
        ih ⟨out ++ done, b', none⟩ left rest (fun a ha => hv a (by simp [ha])) rfl hstop
          (by simpa using hrest)
      refine ⟨done ++ done', left', b'', by simp, ?_, hrest', hstop'⟩
      rw [List.foldl_cons, hfeed, hfold]
      simp

/-- **Cutting does not matter.**  Feeding the pieces of a concatenation of encodings yields exactly
the frames, without an error and with nothing left over. -/
theorem Codec.feed_chunks (hP : Codec P wire Valid) {as : List α} {chunks : List (List β)}
    (hv : ∀ a ∈ as, Valid a) (h : chunks.flatten = as.flatMap wire) :
    chunks.foldl (feed P) Decoder.start = ⟨as, [], none⟩ := by
  obtain ⟨done, left, b', rfl, hfold, hrest, hstop⟩ :=
    hP.feed_prefix chunks Decoder.start as [] hv rfl hP.nil (by simpa [Decoder.start] using h)
  rw [List.append_nil] at hrest
  rw [hrest] at hstop
  have hleft := hP.eq_nil_of_waiting (fun a ha => hv a (by simp [ha])) hstop
  subst hleft
  rw [hfold, hrest]
  simp [Decoder.start]

/-! ### A stream that is cut off -/

/-- **The frames that are left whole** when a concatenation of encodings is cut off behind `n`
bytes. -/
def wholeFrames (wire : α → List β) : ℕ → List α → List α
  | _, [] => []
  | n, a :: as => if (wire a).length ≤ n then a :: wholeFrames wire (n - (wire a).length) as else []

/-- Behind all of them nothing is cut off. -/
theorem wholeFrames_of_le {as : List α} {n : ℕ} (h : (as.flatMap wire).length ≤ n) :
    wholeFrames wire n as = as := by
  induction as generalizing n with
  | nil => rfl
  | cons a as ih =>
      rw [List.flatMap_cons, List.length_append] at h
      rw [wholeFrames, if_pos (by omega), ih (by omega)]

/-- They are the first ones. -/
theorem wholeFrames_isPrefix (as : List α) (n : ℕ) : wholeFrames wire n as <+: as := by
  induction as generalizing n with
  | nil => exact List.prefix_refl []
  | cons a as ih =>
      rw [wholeFrames]
      split_ifs
      · exact (List.prefix_cons_inj a).2 (ih _)
      · exact List.nil_prefix

/-- The last one is whole if nothing has been cut off. -/
theorem wholeFrames_concat (as : List α) (b : α) (n : ℕ) :
    wholeFrames wire n (as ++ [b]) =
      if ((as ++ [b]).flatMap wire).length ≤ n then as ++ [b] else wholeFrames wire n as := by
  induction as generalizing n with
  | nil =>
      rw [List.nil_append, List.flatMap_singleton]
      rfl
  | cons a as ih =>
      rw [List.cons_append, wholeFrames, wholeFrames, ih, List.flatMap_cons, List.length_append]
      split_ifs with hfirst hrest hall hall
      · rfl
      · omega
      · omega
      · rfl
      · omega
      · rfl

/-- **What is cut off**: the frames that are whole, and the beginning of one that is not. -/
theorem Codec.take_eq (hP : Codec P wire Valid) {as : List α} (hv : ∀ a ∈ as, Valid a) (n : ℕ) :
    ∃ rest, (as.flatMap wire).take n = (wholeFrames wire n as).flatMap wire ++ rest ∧
      P rest = .ok none := by
  induction as generalizing n with
  | nil => exact ⟨[], List.take_nil, hP.nil⟩
  | cons a as ih =>
      rw [List.forall_mem_cons] at hv
      rcases Nat.lt_or_ge n (wire a).length with hlt | hle
      · refine ⟨(wire a).take n, ?_, ?_⟩
        · rw [wholeFrames, if_neg (Nat.not_le.2 hlt), List.flatMap_cons,
            List.take_append_of_le_length (Nat.le_of_lt hlt), List.flatMap_nil, List.nil_append]
        · -- the parser finds no frame, for that would be the whole one
          have hsplit : (wire a).take n ++ (wire a).drop n = wire a ++ ([] : List α).flatMap wire := by
            rw [List.take_append_drop, List.flatMap_nil, List.append_nil]
          rcases hP.parse_prefix hv.1 hsplit with hnone | ⟨b', hb', -⟩
          · exact hnone
          · have hlen := congrArg List.length hb'
            rw [List.length_take, List.length_append] at hlen
            omega
      · obtain ⟨rest, htake, hrest⟩ := ih hv.2 (n - (wire a).length)
        refine ⟨rest, ?_, hrest⟩
        rw [wholeFrames, if_pos hle, List.flatMap_cons, List.take_append, List.take_of_length_le hle,
          htake, List.flatMap_cons, List.append_assoc]

/-- The decodable prefix of what is cut off. -/
theorem Codec.frames_take (hP : Codec P wire Valid) {as : List α} (hv : ∀ a ∈ as, Valid a) (n : ℕ) :
    frames P ((as.flatMap wire).take n) = wholeFrames wire n as := by
  obtain ⟨rest, htake, hrest⟩ := hP.take_eq hv n
  have hwhole : ∀ a ∈ wholeFrames wire n as, Valid a := fun a ha =>
    hv a ((wholeFrames_isPrefix as n).subset ha)
  have hnil : frames P rest = [] := frames_eq_nil hP.toStable fun r hr => by
    rw [hrest] at hr
    cases hr
  rw [htake, hP.frames_append hwhole, hnil, List.append_nil]

end Codec

end StreamCodec

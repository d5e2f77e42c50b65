/-
**Two programs at the two ends of one connection.**

In a closed run the bytes to come are known.  Here they are what the other program sends: each party
reads what has arrived, waits while too little has, and finds the end of the stream once the other
one has returned and everything that it has sent is read.  Which party moves when both can is left
open.

It makes no difference.  What one party does is not disturbed by what arrives in the meantime, so
two moves from the same state can be made up for, and where one order of moves ends every order
does, in the same state and after the same number of moves.

Main definitions:

* `Program.Steps`, `Program.Diamond`, `Program.Ends` — runs of a relation, and where they all end;
* `Program.Party`, `Program.Prog.advance` — one party, and its next move;
* `Program.Net`, `Program.Net.Step` — two parties, and the moves of either;
* `Program.Enough` — what has arrived is enough for a program to return.

Main results:

* `Program.Diamond.ends` — **one run that ends decides where all of them end**;
* `Program.Net.diamond` — the moves of the two parties can be made up for;
* `Program.Net.reaches_left`, `Program.Net.reaches_right` — a party for which enough has arrived
  moves as in a closed run;
* `Program.Net.reaches_left_hands`, `Program.Net.reaches_right_hands` — one party sends what the
  other one is waiting for;
* `Program.Net.reaches_left_end`, `Program.Net.reaches_right_end` — once the other party has
  returned, the rest is a closed run.
-/

import Mathlib.Logic.Relation
import Zerowire.Monitor

set_option relaxedAutoImplicit false
set_option autoImplicit false

namespace Program

open Relation

/-! ### Where the runs of a relation end -/

section Diamonds

variable {S : Type} {r : S → S → Prop} {a b c f : S}

/-- A run of the given length. -/
inductive Steps (r : S → S → Prop) : ℕ → S → S → Prop
  | refl (a : S) : Steps r 0 a a
  | cons {k : ℕ} {a b c : S} (h : r a b) (hs : Steps r k b c) : Steps r (k + 1) a c

/-- Two different steps can be made up for by one step each. -/
def Diamond (r : S → S → Prop) : Prop :=
  ∀ ⦃a b c : S⦄, r a b → r a c → b = c ∨ ∃ d, r b d ∧ r c d

/-- No step leads out of the state. -/
def Final (r : S → S → Prop) (f : S) : Prop := ∀ b, ¬ r f b

/-- **All runs end in `f`**: they are of bounded length, each can be continued to `f`, and there it
ends. -/
def Ends (r : S → S → Prop) (a f : S) : Prop :=
  Final r f ∧ ∃ k, ∀ j b, Steps r j a b → j ≤ k ∧ Steps r (k - j) b f

theorem exists_steps (h : ReflTransGen r a b) : ∃ k, Steps r k a b := by
  induction h using ReflTransGen.head_induction_on with
  | refl => exact ⟨0, .refl b⟩
  | head hstep _ ih =>
      obtain ⟨k, hk⟩ := ih
      exact ⟨k + 1, .cons hstep hk⟩

/-- After one step the way to the end is one step shorter. -/
theorem Diamond.tail (hd : Diamond r) (hf : Final r f) {k : ℕ} (h : Steps r k a f) (hb : r a b) :
    ∃ m, k = m + 1 ∧ Steps r m b f := by
  induction h generalizing b with
  | refl a => exact absurd hb (hf b)
  | @cons k a c f hac hcf ih =>
      refine ⟨k, rfl, ?_⟩
      rcases hd hac hb with rfl | ⟨d, hcd, hbd⟩
      · exact hcf
      · obtain ⟨m, rfl, hm⟩ := ih hf hcd
        exact .cons hbd hm

/-- **One run that ends decides where all of them end.** -/
theorem Diamond.ends (hd : Diamond r) (h : ReflTransGen r a f) (hf : Final r f) : Ends r a f := by
  obtain ⟨k, hk⟩ := exists_steps h
  refine ⟨hf, k, fun j b hj => ?_⟩
  clear h
  induction hj generalizing k with
  | refl a => exact ⟨Nat.zero_le k, by rwa [Nat.sub_zero]⟩
  | @cons j a c b hac _ ih =>
      obtain ⟨m, rfl, hm⟩ := hd.tail hf hk hac
      obtain ⟨hle, hrest⟩ := ih m hm
      exact ⟨by omega, by rwa [Nat.add_sub_add_right]⟩

end Diamonds

/-! ### One party -/

section Party

variable {X : Sig} {τ α β ε : Type}

/-- A party: what it has still to do, what has arrived and is not yet read, what it has sent, and
its surroundings. -/
structure Party (X : Sig) (τ α : Type) where
  prog : Prog X α
  io : Io τ

/-- The program has returned. -/
def Prog.ended : Prog X α → Bool
  | .ret _ => true
  | .readExact _ _ | .read _ _ | .writeAll _ _ | .call _ _ => false

/-- More has arrived. -/
def Io.fed (s : Io τ) (more : List UInt8) : Io τ := { s with input := s.input ++ more }

@[simp] theorem Io.fed_input (s : Io τ) (more : List UInt8) :
    (s.fed more).input = s.input ++ more := rfl

@[simp] theorem Io.fed_output (s : Io τ) (more : List UInt8) : (s.fed more).output = s.output := rfl

@[simp] theorem Io.fed_env (s : Io τ) (more : List UInt8) : (s.fed more).env = s.env := rfl

@[simp] theorem Io.fed_chunks (s : Io τ) (more : List UInt8) : (s.fed more).chunks = s.chunks := rfl

/-- Something has been sent. -/
def Io.sent (s : Io τ) (bs : List UInt8) : Io τ := { s with output := s.output ++ bs }

@[simp] theorem Io.sent_input (s : Io τ) (bs : List UInt8) : (s.sent bs).input = s.input := rfl

@[simp] theorem Io.sent_env (s : Io τ) (bs : List UInt8) : (s.sent bs).env = s.env := rfl

/-- More has arrived. -/
def Party.receive (p : Party X τ α) (bs : List UInt8) : Party X τ α := ⟨p.prog, p.io.fed bs⟩

@[simp] theorem Party.receive_nil (p : Party X τ α) : p.receive [] = p := by
  rw [Party.receive, Io.fed, List.append_nil]

theorem Party.receive_append (p : Party X τ α) (bs cs : List UInt8) :
    p.receive (bs ++ cs) = (p.receive bs).receive cs := by
  simp only [Party.receive, Io.fed, List.append_assoc]

/-- **The next move of a program**, with the bytes that it sends.  Where the other party has not
returned, a read waits until enough has arrived; `read` waits for the piece that the transport is
going to hand out. -/
def Prog.advance (env : Env X τ) (ended : Bool) :
    Prog X α → Io τ → Option (Party X τ α × List UInt8)
  | .ret _, _ => none
  | .readExact n k, s =>
      if n ≤ s.input.length then
        some (⟨k (some (s.input.take n)), { s with input := s.input.drop n }⟩, [])
      else if ended then some (⟨k none, { s with input := [] }⟩, [])
      else none
  | .read n k, s =>
      if pieceSize s.chunks n ≤ s.input.length ∨ (ended = true ∧ s.input ≠ []) then
        some (⟨k (some (s.input.take (pieceSize s.chunks n))),
          { s with input := s.input.drop (pieceSize s.chunks n), chunks := s.chunks.tail }⟩, [])
      else if ended then some (⟨k none, s⟩, [])
      else none
  | .writeAll bs k, s => some (⟨k true, { s with output := s.output ++ bs }⟩, bs)
  | .call o k, s => some (⟨k (env o s.env).1, { s with env := (env o s.env).2 }⟩, [])

section Advance

variable {env : Env X τ} {ended : Bool} {n : ℕ} {k : Option (List UInt8) → Prog X α} {s : Io τ}

theorem Prog.advance_readExact (h : n ≤ s.input.length) :
    (readExact n k).advance env ended s =
      some (⟨k (some (s.input.take n)), { s with input := s.input.drop n }⟩, []) := by
  rw [advance, if_pos h]

theorem Prog.advance_readExact_end (h : ¬ n ≤ s.input.length) :
    (readExact n k).advance env true s = some (⟨k none, { s with input := [] }⟩, []) := by
  rw [advance, if_neg h, if_pos rfl]

theorem Prog.advance_read (h : pieceSize s.chunks n ≤ s.input.length ∨ (ended = true ∧ s.input ≠ [])) :
    (read n k).advance env ended s =
      some (⟨k (some (s.input.take (pieceSize s.chunks n))),
        { s with input := s.input.drop (pieceSize s.chunks n), chunks := s.chunks.tail }⟩, []) := by
  rw [advance, if_pos h]

theorem Prog.advance_read_end
    (h : ¬ (pieceSize s.chunks n ≤ s.input.length ∨ (true = true ∧ s.input ≠ []))) :
    (read n k).advance env true s = some (⟨k none, s⟩, []) := by
  rw [advance, if_neg h, if_pos rfl]

end Advance

/-- A party moves while it has not returned. -/
theorem Prog.ended_of_advance {env : Env X τ} {ended : Bool} {p : Prog X α} {s : Io τ}
    {r : Party X τ α × List UInt8} (h : p.advance env ended s = some r) : p.ended = false := by
  cases p with
  | ret a => cases h
  | readExact n k => rfl
  | read n k => rfl
  | writeAll bs k => rfl
  | call o k => rfl

/-- **What a party does is not disturbed** by what arrives in the meantime, nor by the end of the
other party. -/
theorem Prog.advance_fed {env : Env X τ} {p : Prog X α} {s : Io τ} {q : Party X τ α}
    {sent : List UInt8} (h : p.advance env false s = some (q, sent)) (ended : Bool)
    (more : List UInt8) : p.advance env ended (s.fed more) = some (q.receive more, sent) := by
  -- a move that could be made before finds the same bytes at the front
  cases p with
  | ret a => cases h
  | readExact n k =>
      simp only [advance, Bool.false_eq_true, if_false] at h
      split_ifs at h with hle
      cases h
      have hle' : n ≤ (s.fed more).input.length := by
        rw [Io.fed_input, List.length_append]
        omega
      rw [advance, if_pos hle', Io.fed_input, List.take_append_of_le_length hle,
        List.drop_append_of_le_length hle]
      rfl
  | read n k =>
      simp only [advance, Bool.false_eq_true, false_and, or_false, if_false] at h
      split_ifs at h with hle
      cases h
      have hle' : pieceSize (s.fed more).chunks n ≤ (s.fed more).input.length := by
        rw [Io.fed_chunks, Io.fed_input, List.length_append]
        omega
      rw [advance, if_pos (Or.inl hle'), Io.fed_chunks, Io.fed_input,
        List.take_append_of_le_length hle, List.drop_append_of_le_length hle]
      rfl
  | writeAll bs k =>
      cases h
      rfl
  | call o k =>
      cases h
      rfl

/-- A party on its own: several moves, and all that it has sent. -/
inductive Moves (env : Env X τ) (ended : Bool) : Party X τ α → Party X τ α → List UInt8 → Prop
  | refl (p : Party X τ α) : Moves env ended p p []
  | cons {p q r : Party X τ α} {sent sent' : List UInt8}
      (h : p.prog.advance env ended p.io = some (q, sent)) (hs : Moves env ended q r sent') :
      Moves env ended p r (sent ++ sent')

/-- A party keeps what it has sent. -/
theorem Prog.output_of_advance {env : Env X τ} {ended : Bool} {p : Prog X α} {s : Io τ}
    {q : Party X τ α} {sent : List UInt8} (h : p.advance env ended s = some (q, sent)) :
    q.io.output = s.output ++ sent := by
  cases p with
  | ret a => cases h
  | readExact n k =>
      rw [advance] at h
      split_ifs at h <;> cases h <;> exact (List.append_nil _).symm
  | read n k =>
      rw [advance] at h
      split_ifs at h <;> cases h <;> exact (List.append_nil _).symm
  | writeAll bs k =>
      cases h
      rfl
  | call o k =>
      cases h
      exact (List.append_nil _).symm

theorem Moves.output_eq {env : Env X τ} {ended : Bool} {p q : Party X τ α} {sent : List UInt8}
    (h : Moves env ended p q sent) : q.io.output = p.io.output ++ sent := by
  induction h with
  | refl p => exact (List.append_nil _).symm
  | cons h _ ih => rw [ih, Prog.output_of_advance h, List.append_assoc]

/-- A move that sends nothing. -/
theorem Moves.cons_silent {env : Env X τ} {ended : Bool} {p q r : Party X τ α} {sent : List UInt8}
    (h : p.prog.advance env ended p.io = some (q, [])) (hs : Moves env ended q r sent) :
    Moves env ended p r sent :=
  .cons h hs

/-! ### One party and its closed run -/

variable {env : Env X τ}

/-- After the other party has returned, a `read` gets a piece unless nothing is left. -/
theorem piece_left_iff (s : Io τ) (n : ℕ) :
    (pieceSize s.chunks n ≤ s.input.length ∨ (true = true ∧ s.input ≠ [])) ↔
      ¬ (s.input = [] ∧ n ≠ 0) := by
  by_cases hin : s.input = []
  · rw [hin, List.length_nil, pieceSize]
    simp only [ne_eq, not_true_eq_false, and_false, or_false, true_and, not_not]
    omega
  · exact iff_of_true (.inr ⟨rfl, hin⟩) fun hend => hin hend.1

/-- **Once the other party has returned**, the rest is a closed run. -/
theorem moves_of_run {p : Prog X α} {s s' : Io τ} {a : α} (h : p.run env s = (a, s')) :
    ∃ sent, s'.output = s.output ++ sent ∧ Moves env true ⟨p, s⟩ ⟨.ret a, s'⟩ sent := by
  -- on the program: each of its operations is one move
  induction p generalizing s with
  | ret b =>
      cases h
      exact ⟨[], (List.append_nil _).symm, .refl _⟩
  | readExact n k ih =>
      rw [Prog.run] at h
      split_ifs at h with hle
      · obtain ⟨sent, hout, hmoves⟩ := ih _ h
        exact ⟨sent, hout, .cons_silent (Prog.advance_readExact hle) hmoves⟩
      · obtain ⟨sent, hout, hmoves⟩ := ih _ h
        exact ⟨sent, hout, .cons_silent (Prog.advance_readExact_end hle) hmoves⟩
  | read n k ih =>
      rw [Prog.run] at h
      split_ifs at h with hend
      · obtain ⟨sent, hout, hmoves⟩ := ih _ h
        have hnone := mt (piece_left_iff s n).1 (not_not_intro hend)
        exact ⟨sent, hout, .cons_silent (Prog.advance_read_end hnone) hmoves⟩
      · obtain ⟨sent, hout, hmoves⟩ := ih _ h
        have hpiece := (piece_left_iff s n).2 hend
        exact ⟨sent, hout, .cons_silent (Prog.advance_read hpiece) hmoves⟩
  | writeAll bs k ih =>
      obtain ⟨sent, hout, hmoves⟩ := ih _ h
      exact ⟨bs ++ sent, by rw [hout, List.append_assoc], .cons rfl hmoves⟩
  | call o k ih =>
      obtain ⟨sent, hout, hmoves⟩ := ih _ h
      exact ⟨sent, hout, .cons_silent rfl hmoves⟩

/-- **A program that leaves what comes next** does not have to wait for it.  In the closed run it
would have found a byte more, and did not touch it. -/
theorem moves_of_run_fed {p : Prog X α} (f : α → Prog X β) {s s' : Io τ} {a : α} {rest : List UInt8}
    (hrest : rest ≠ []) (h : p.run env (s.fed rest) = (a, s'.fed rest)) (ended : Bool) :
    ∃ sent, s'.output = s.output ++ sent ∧ Moves env ended ⟨p >>= f, s⟩ ⟨f a, s'⟩ sent := by
  have hpos : 0 < rest.length := List.length_pos_iff.2 hrest
  induction p generalizing s with
  | ret b =>
      obtain ⟨rfl, hs⟩ := Prod.mk.inj h
      have hs' : s = s' := by
        obtain ⟨input, chunks, output, t⟩ := s
        obtain ⟨input', chunks', output', t'⟩ := s'
        simp only [Io.fed, Io.mk.injEq, List.append_cancel_right_eq] at hs
        simp only [hs]
      subst hs'
      exact ⟨[], (List.append_nil _).symm, .refl _⟩
  | readExact n k ih =>
      have hle : n ≤ s.input.length := by
        -- otherwise the read would have gone beyond what had arrived
        by_contra hlt
        have hleft : (s'.fed rest).input.length ≤ (s.fed rest).input.length - n := by
          rw [Prog.run] at h
          split_ifs at h with hle
          · have := run_input_le env (k (some ((s.fed rest).input.take n)))
              { s.fed rest with input := (s.fed rest).input.drop n }
            rw [h, List.length_drop] at this
            exact this
          · have := run_input_le env (k none) { s.fed rest with input := [] }
            rw [h] at this
            exact Nat.le_trans this (Nat.zero_le _)
        simp only [Io.fed_input, List.length_append] at hleft
        omega
      have hle' : n ≤ (s.fed rest).input.length := by
        rw [Io.fed_input, List.length_append]
        omega
      rw [Prog.run, if_pos hle', Io.fed_input, List.take_append_of_le_length hle,
        List.drop_append_of_le_length hle] at h
      obtain ⟨sent, hout, hmoves⟩ := ih _ (s := { s with input := s.input.drop n }) h
      exact ⟨sent, hout, .cons_silent (Prog.advance_readExact hle) hmoves⟩
  | read n k ih =>
      have hend : ¬ ((s.fed rest).input = [] ∧ n ≠ 0) := by
        intro hend
        exact hrest (List.append_eq_nil_iff.1 hend.1).2
      have hle : pieceSize s.chunks n ≤ s.input.length := by
        by_contra hlt
        rw [Prog.run, if_neg hend] at h
        have hleft := run_input_le env
          (k (some ((s.fed rest).input.take (pieceSize (s.fed rest).chunks n))))
          { s.fed rest with
            input := (s.fed rest).input.drop (pieceSize (s.fed rest).chunks n)
            chunks := (s.fed rest).chunks.tail }
        rw [h] at hleft
        simp only [Io.fed_input, Io.fed_chunks, List.length_drop, List.length_append] at hleft
        omega
      rw [Prog.run, if_neg hend] at h
      simp only [Io.fed_chunks, Io.fed_input, List.take_append_of_le_length hle,
        List.drop_append_of_le_length hle] at h
      obtain ⟨sent, hout, hmoves⟩ := ih _ (s := { s with
        input := s.input.drop (pieceSize s.chunks n)
        chunks := s.chunks.tail }) h
      exact ⟨sent, hout, .cons_silent (Prog.advance_read (Or.inl hle)) hmoves⟩
  | writeAll bs k ih =>
      obtain ⟨sent, hout, hmoves⟩ := ih _ (s := { s with output := s.output ++ bs }) h
      exact ⟨bs ++ sent, by rw [hout, List.append_assoc], .cons rfl hmoves⟩
  | call o k ih =>
      obtain ⟨sent, hout, hmoves⟩ := ih _ (s := { s with env := (env o s.env).2 }) h
      exact ⟨sent, hout, .cons_silent rfl hmoves⟩

/-- A move after the other party has returned is the beginning of the closed run. -/
theorem run_of_advance {p : Prog X α} {s : Io τ} {q : Party X τ α} {sent : List UInt8}
    (h : p.advance env true s = some (q, sent)) : p.run env s = q.prog.run env q.io := by
  cases p with
  | ret a => cases h
  | readExact n k =>
      simp only [Prog.advance, if_true] at h
      rw [Prog.run]
      split_ifs at h ⊢ with hle
      · cases h
        rfl
      · cases h
        rfl
  | read n k =>
      rw [Prog.run]
      by_cases hend : s.input = [] ∧ n ≠ 0
      · rw [Prog.advance_read_end (mt (piece_left_iff s n).1 (not_not_intro hend))] at h
        cases h
        rw [if_pos hend]
      · rw [Prog.advance_read ((piece_left_iff s n).2 hend)] at h
        cases h
        rw [if_neg hend]
  | writeAll bs k =>
      cases h
      rfl
  | call o k =>
      cases h
      rfl

/-- **What a party does before more arrives** is the beginning of every closed run. -/
theorem run_of_moves {p q : Party X τ α} {sent : List UInt8} (h : Moves env false p q sent)
    (rest : List UInt8) : p.prog.run env (p.io.fed rest) = q.prog.run env (q.io.fed rest) := by
  induction h with
  | refl p => rfl
  | cons h _ ih => exact (run_of_advance (Prog.advance_fed h true rest)).trans ih

/-! ### Enough has arrived -/

/-- **What has arrived is enough** for the program to return a value: whatever comes next is
left. -/
def Enough (env : Env X τ) (p : Act X ε α) (s : Io τ) (a : α) (s' : Io τ) : Prop :=
  ∀ rest, exec env p (s.fed rest) = (.ok a, s'.fed rest)

namespace Enough

theorem pure (a : α) (s : Io τ) : Enough env (pure a : Act X ε α) s a s := fun _ => rfl

theorem call (o : X.Op) (s : Io τ) :
    Enough env (call o : Act X ε (X.Ans o)) s (env o s.env).1 { s with env := (env o s.env).2 } :=
  fun _ => rfl

theorem call_eq {o : X.Op} {s : Io τ} {a : X.Ans o} {t : τ} (h : env o s.env = (a, t)) :
    Enough env (Program.call o : Act X ε (X.Ans o)) s a { s with env := t } := by
  have hcall : Enough env (Program.call o : Act X ε (X.Ans o)) s _ _ := Enough.call o s
  rwa [h] at hcall

theorem ofResult {r : Except ε α} {a : α} (h : r = .ok a) (s : Io τ) :
    Enough env (ofResult r) s a s := by
  subst h
  exact fun _ => rfl

theorem bind {p : Act X ε α} {f : α → Act X ε β} {s s' s'' : Io τ} {a : α} {b : β}
    (hp : Enough env p s a s') (hf : Enough env (f a) s' b s'') : Enough env (p >>= f) s b s'' :=
  fun rest => (exec_bind_ok (hp rest)).trans (hf rest)

theorem mapErr {ε' : Type} {p : Act X ε α} {s s' : Io τ} {a : α} (h : Enough env p s a s')
    (f : ε → ε') : Enough env (mapErr f p) s a s' :=
  fun rest => exec_mapErr_ok (h rest) f

/-- A party for which enough has arrived moves on to what comes next. -/
theorem moves {p : Act X ε α} {s s' : Io τ} {a : α} (h : Enough env p s a s') (f : α → Act X ε β)
    {sent : List UInt8} (hsent : s'.output = s.output ++ sent) (ended : Bool) :
    Moves env ended ⟨(p >>= f).run, s⟩ ⟨(f a).run, s'⟩ sent := by
  obtain ⟨sent', hsent', hmoves⟩ :=
    moves_of_run_fed (ExceptT.bindCont f) (List.cons_ne_nil 0 []) (h [0]) ended
  obtain rfl : sent = sent' := List.append_cancel_left (hsent.symm.trans hsent')
  exact hmoves

end Enough

end Party

/-! ### Two parties -/

/-- Two parties at the ends of one connection. -/
structure Net (X Y : Sig) (σ τ α β : Type) where
  left : Party X σ α
  right : Party Y τ β

namespace Net

variable {X Y : Sig} {σ τ α β γ ε η : Type} {E : Env X σ} {F : Env Y τ}

/-- **A step**: one of the parties moves, and what it sends has arrived at the other one. -/
inductive Step (E : Env X σ) (F : Env Y τ) : Net X Y σ τ α β → Net X Y σ τ α β → Prop
  | left {n : Net X Y σ τ α β} {p : Party X σ α} {sent : List UInt8}
      (h : n.left.prog.advance E n.right.prog.ended n.left.io = some (p, sent)) :
      Step E F n ⟨p, n.right.receive sent⟩
  | right {n : Net X Y σ τ α β} {p : Party Y τ β} {sent : List UInt8}
      (h : n.right.prog.advance F n.left.prog.ended n.right.io = some (p, sent)) :
      Step E F n ⟨n.left.receive sent, p⟩

/-- A move of the left party and one of the right party can be made in either order. -/
theorem commute {n : Net X Y σ τ α β} {p : Party X σ α} {q : Party Y τ β} {sent sent' : List UInt8}
    (hp : n.left.prog.advance E n.right.prog.ended n.left.io = some (p, sent))
    (hq : n.right.prog.advance F n.left.prog.ended n.right.io = some (q, sent')) :
    Step E F ⟨p, n.right.receive sent⟩ ⟨p.receive sent', q.receive sent⟩ ∧
      Step E F ⟨n.left.receive sent', q⟩ ⟨p.receive sent', q.receive sent⟩ := by
  -- both can move, so neither has returned
  rw [Prog.ended_of_advance hq] at hp
  rw [Prog.ended_of_advance (hp : _ = some _)] at hq
  exact ⟨.right (n := ⟨p, n.right.receive sent⟩) (Prog.advance_fed hq p.prog.ended sent),
    .left (n := ⟨n.left.receive sent', q⟩) (Prog.advance_fed hp q.prog.ended sent')⟩

/-- **The moves of the two parties can be made up for.** -/
theorem diamond : Diamond (Step (α := α) (β := β) E F) := by
  intro a b c hb hc
  cases hb with
  | left hp =>
      cases hc with
      | left hp' =>
          rw [hp] at hp'
          cases hp'
          exact Or.inl rfl
      | right hq => exact Or.inr ⟨_, commute hp hq⟩
  | right hq =>
      cases hc with
      | left hp => exact Or.inr ⟨_, (commute hp hq).symm⟩
      | right hq' =>
          rw [hq] at hq'
          cases hq'
          exact Or.inl rfl

/-- The left party moves several times. -/
theorem reaches_of_moves_left {p q : Party X σ α} {sent : List UInt8} {r : Party Y τ β}
    (h : Moves E r.prog.ended p q sent) :
    ReflTransGen (Step E F) ⟨p, r⟩ ⟨q, r.receive sent⟩ := by
  generalize hended : r.prog.ended = ended at h
  induction h generalizing r with
  | refl p =>
      rw [Party.receive_nil]
  | cons hp _ ih =>
      rw [Party.receive_append]
      exact .head (.left (n := ⟨_, r⟩) (by rw [hended, hp])) (ih hended)

/-- The right party moves several times. -/
theorem reaches_of_moves_right {p q : Party Y τ β} {sent : List UInt8} {r : Party X σ α}
    (h : Moves F r.prog.ended p q sent) :
    ReflTransGen (Step E F) ⟨r, p⟩ ⟨r.receive sent, q⟩ := by
  generalize hended : r.prog.ended = ended at h
  induction h generalizing r with
  | refl p =>
      rw [Party.receive_nil]
  | cons hp _ ih =>
      rw [Party.receive_append]
      exact .head (.right (n := ⟨r, _⟩) (by rw [hended, hp])) (ih hended)

/-- **The left party moves on**, if enough has arrived for it. -/
theorem reaches_left {p : Act X ε α} {f : α → Act X ε γ} {s s' : Io σ} {a : α} {sent : List UInt8}
    (h : Enough E p s a s') (hsent : s'.output = s.output ++ sent) (r : Party Y τ β) :
    ReflTransGen (Step E F) ⟨⟨(p >>= f).run, s⟩, r⟩ ⟨⟨(f a).run, s'⟩, r.receive sent⟩ :=
  reaches_of_moves_left (h.moves f hsent _)

/-- **The right party moves on**, if enough has arrived for it. -/
theorem reaches_right {p : Act Y ε β} {f : β → Act Y ε γ} {s s' : Io τ} {b : β} {sent : List UInt8}
    (h : Enough F p s b s') (hsent : s'.output = s.output ++ sent) (r : Party X σ α) :
    ReflTransGen (Step E F) ⟨r, ⟨(p >>= f).run, s⟩⟩ ⟨r.receive sent, ⟨(f b).run, s'⟩⟩ :=
  reaches_of_moves_right (h.moves f hsent _)

/-- The left party moves on and sends nothing. -/
theorem reaches_left_silent {p : Act X ε α} {f : α → Act X ε γ} {s s' : Io σ} {a : α}
    (h : Enough E p s a s') (hsilent : s'.output = s.output) (r : Party Y τ β) :
    ReflTransGen (Step E F) ⟨⟨(p >>= f).run, s⟩, r⟩ ⟨⟨(f a).run, s'⟩, r⟩ := by
  have hmoves := reaches_left (E := E) (F := F) (f := f) h
    (hsilent.trans (List.append_nil _).symm) r
  rwa [Party.receive_nil] at hmoves

/-- The right party moves on and sends nothing. -/
theorem reaches_right_silent {p : Act Y ε β} {f : β → Act Y ε γ} {s s' : Io τ} {b : β}
    (h : Enough F p s b s') (hsilent : s'.output = s.output) (r : Party X σ α) :
    ReflTransGen (Step E F) ⟨r, ⟨(p >>= f).run, s⟩⟩ ⟨r, ⟨(f b).run, s'⟩⟩ := by
  have hmoves := reaches_right (E := E) (F := F) (f := f) h
    (hsilent.trans (List.append_nil _).symm) r
  rwa [Party.receive_nil] at hmoves

/-- The left party finds that a check is passed. -/
theorem reaches_left_check {ε' : Type} {x : Except ε' α} {g : ε' → ε} {f : α → Act X ε γ} {a : α}
    (h : x = .ok a) (s : Io σ) (r : Party Y τ β) :
    ReflTransGen (Step E F) ⟨⟨(mapErr g (ofResult x) >>= f).run, s⟩, r⟩ ⟨⟨(f a).run, s⟩, r⟩ := by
  subst h
  exact .refl

/-- The right party finds that a check is passed. -/
theorem reaches_right_check {ε' : Type} {x : Except ε' β} {g : ε' → ε} {f : β → Act Y ε γ} {b : β}
    (h : x = .ok b) (s : Io τ) (r : Party X σ α) :
    ReflTransGen (Step E F) ⟨r, ⟨(mapErr g (ofResult x) >>= f).run, s⟩⟩ ⟨r, ⟨(f b).run, s⟩⟩ := by
  subst h
  exact .refl

section Hands

variable {p : Act X ε α} {f : α → Act X ε γ} {s : Io σ} {a : α} {q : Act Y η β} {δ : Type}
  {g : β → Act Y η δ} {t : Io τ} {b : β} {bs : List UInt8}

/-- **The left party sends what the right one is waiting for**, and the right one takes it. -/
theorem reaches_left_hands (hp : Enough E p s a (s.sent bs)) (hq : Enough F q (t.fed bs) b t) :
    ReflTransGen (Step E F) ⟨⟨(p >>= f).run, s⟩, ⟨(q >>= g).run, t⟩⟩
      ⟨⟨(f a).run, s.sent bs⟩, ⟨(g b).run, t⟩⟩ :=
  (reaches_left hp rfl ⟨(q >>= g).run, t⟩).trans (reaches_right_silent hq rfl _)

/-- **The right party sends what the left one is waiting for**, and the left one takes it. -/
theorem reaches_right_hands (hq : Enough F q t b (t.sent bs)) (hp : Enough E p (s.fed bs) a s) :
    ReflTransGen (Step E F) ⟨⟨(p >>= f).run, s⟩, ⟨(q >>= g).run, t⟩⟩
      ⟨⟨(f a).run, s⟩, ⟨(g b).run, t.sent bs⟩⟩ :=
  (reaches_right hq rfl ⟨(p >>= f).run, s⟩).trans (reaches_left_silent hp rfl _)

end Hands

/-- **The left party returns**, if enough has arrived for it. -/
theorem reaches_left_ret {p : Act X ε α} {s s' : Io σ} {a : α} {sent : List UInt8}
    (h : Enough E p s a s') (hsent : s'.output = s.output ++ sent) (r : Party Y τ β) :
    ReflTransGen (Step E F) ⟨⟨p.run, s⟩, r⟩ ⟨⟨.ret (.ok a), s'⟩, r.receive sent⟩ := by
  have hmoves := reaches_left (E := E) (F := F) (f := pure) h hsent r
  rwa [bind_pure] at hmoves

/-- **The right party returns**, if enough has arrived for it. -/
theorem reaches_right_ret {p : Act Y ε β} {s s' : Io τ} {b : β} {sent : List UInt8}
    (h : Enough F p s b s') (hsent : s'.output = s.output ++ sent) (r : Party X σ α) :
    ReflTransGen (Step E F) ⟨r, ⟨p.run, s⟩⟩ ⟨r.receive sent, ⟨.ret (.ok b), s'⟩⟩ := by
  have hmoves := reaches_right (E := E) (F := F) (f := pure) h hsent r
  rwa [bind_pure] at hmoves

/-- The right party does a round of its loop. -/
theorem reaches_right_round {δ : Type} (round : γ → Act Y (Stop ε) (γ ⊕ δ))
    {f : δ → Act Y (Stop ε) β} {c c' : γ} {s s' : Io τ} {sent : List UInt8}
    (h : Enough F (round c) s (.inl c') s') (hsent : s'.output = s.output ++ sent) (fuel : ℕ)
    (r : Party X σ α) :
    ReflTransGen (Step E F) ⟨r, ⟨(unroll round (fuel + 1) c >>= f).run, s⟩⟩
      ⟨r.receive sent, ⟨(unroll round fuel c' >>= f).run, s'⟩⟩ := by
  rw [unroll, bind_assoc]
  exact reaches_right h hsent r

/-- **Once the left party has returned**, the right one does its closed run. -/
theorem reaches_right_end {p : Prog Y β} {t t' : Io τ} {b : β} (h : p.run F t = (b, t')) (a : α)
    (s : Io σ) :
    ∃ sent, ReflTransGen (Step E F) ⟨⟨.ret a, s⟩, ⟨p, t⟩⟩ ⟨⟨.ret a, s.fed sent⟩, ⟨.ret b, t'⟩⟩ := by
  obtain ⟨sent, -, hmoves⟩ := moves_of_run h
  exact ⟨sent, reaches_of_moves_right (r := ⟨.ret a, s⟩) hmoves⟩

/-- **Once the right party has returned**, the left one does its closed run. -/
theorem reaches_left_end {p : Prog X α} {s s' : Io σ} {a : α} (h : p.run E s = (a, s')) (b : β)
    (t : Io τ) :
    ∃ sent, ReflTransGen (Step E F) ⟨⟨p, s⟩, ⟨.ret b, t⟩⟩ ⟨⟨.ret a, s'⟩, ⟨.ret b, t.fed sent⟩⟩ := by
  obtain ⟨sent, -, hmoves⟩ := moves_of_run h
  exact ⟨sent, reaches_of_moves_left (r := ⟨.ret b, t⟩) hmoves⟩

/-- Where both have returned nothing happens any more. -/
theorem final (a : α) (b : β) (s : Io σ) (t : Io τ) :
    Final (Step E F) ⟨⟨.ret a, s⟩, ⟨.ret b, t⟩⟩ := by
  intro m h
  cases h with
  | left h => cases h
  | right h => cases h

end Net

end Program

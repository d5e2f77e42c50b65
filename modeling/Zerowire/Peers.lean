/-
**More on two parties at the ends of one connection.**

What a program does inside of a block, a `try` or a `finally` or a call of its caller, it does in
front of a continuation that looks at how the block ends.  As long as it has not come to the end of
the block, the continuation makes no difference to how it gets on with its peer.

Much of what two parties do is a dialogue: the one asks, the other one answers, and each of them can
be looked at by itself.

A program may also be exchanged for one that does the same.  The peer cannot tell: the two
connections end after the same moves, in the same state.

Main definitions:

* `Program.finishing`, `Program.swallowing` — what follows the `try` block of `tryFinally` and
  `ignoring`;
* `Program.Inquires`, `Program.Responds` — the two sides of a dialogue;
* `Program.SameEnd` — the same outcome, or the fuel of a loop ran out in both.

Main results:

* `Program.Net.reaches_of_dialogue` — **the two parties get through a dialogue**;
* `Program.Responds.bind` — what follows a dialogue makes no difference to it;
* `Program.Net.ends_of_rel` — **a program that does the same ends the same way**, whoever the peer
  is;
* `Program.Looped.Alike.ends` — so does a program with one loop.
-/

import Zerowire.Network

set_option relaxedAutoImplicit false
set_option autoImplicit false

namespace Program

open Bytes Relation

variable {X Y : Sig} {σ τ α α' β γ δ ρ ε ε' η ζ : Type}

/-! ### Blocks -/

/-- What follows the `try` block of `tryFinally`. -/
def finishing (q : Act X (Stop ε) Unit) : Except (Stop ε) α → Act X (Stop ε) α
  | .error .ranOut => throw .ranOut
  | .error (.failed e) => do
      q
      throw (.failed e)
  | .ok a => do
      q
      return a

/-- What follows the block of `ignoring`. -/
def swallowing : Except (Stop ε) Unit → Act X (Stop ε) Unit
  | .error .ranOut => throw .ranOut
  | .error (.failed _) => return ()
  | .ok () => return ()

/-- A block and what follows it. -/
theorem run_attempt_bind (p : Act X ε α) (f : Except ε α → Act X ε' β) :
    (attempt p >>= f).run = p.run >>= fun r => (f r).run := by
  rw [attempt, ExceptT.run_bind, ExceptT.run_lift, map_eq_pure_bind, bind_assoc]
  rfl

theorem run_tryFinally (p : Act X (Stop ε) α) (q : Act X (Stop ε) Unit) :
    (tryFinally p q).run = p.run >>= fun r => (finishing q r).run := by
  rw [tryFinally, run_attempt_bind]
  refine congrArg (p.run >>= ·) (funext fun r => ?_)
  rcases r with (e | _) | a <;> rfl

theorem run_ignoring (p : Act X (Stop ε) Unit) :
    (ignoring p).run = p.run >>= fun r => (swallowing r).run := by
  rw [ignoring, run_attempt_bind]
  refine congrArg (p.run >>= ·) (funext fun r => ?_)
  rcases r with (e | _) | ⟨⟩ <;> rfl

/-- A block that does not run out of fuel, and a `finally` block that does not fail. -/
theorem exec_tryFinally {env : Env X τ} {p : Act X (Stop ε) α} {q : Act X (Stop ε) Unit}
    {r : Except (Stop ε) α} {s s' s'' : Io τ} (hp : exec env p s = (r, s'))
    (hr : r ≠ .error .ranOut) (hq : exec env q s' = (.ok (), s'')) :
    exec env (tryFinally p q) s = (r, s'') := by
  rw [tryFinally, exec_bind_ok (exec_attempt env p s), hp]
  rcases r with (e | _) | a
  · exact exec_bind_ok hq
  · exact absurd rfl hr
  · exact exec_bind_ok hq

/-! ### Rounds of a loop -/

section Rounds

variable {env : Env X τ} {round : β → Act X (Fault ε) (β ⊕ γ)} {fuel : ℕ} {b b' : β} {s s' : Io τ}

/-- A loop whose errors stop it. -/
abbrev unrollFailing (round : β → Act X (Fault ε) (β ⊕ γ)) (fuel : ℕ) (b : β) :
    Act X (Stop (Fault ε)) γ :=
  unroll (fun b => mapErr .failed (round b)) fuel b

/-- A round after which the loop goes on. -/
theorem exec_unroll_inl (h : exec env (round b) s = (.ok (.inl b'), s')) :
    exec env (unrollFailing round (fuel + 1) b) s = exec env (unrollFailing round fuel b') s' :=
  exec_bind_ok (exec_mapErr_ok h _)

/-- A round with which it ends. -/
theorem exec_unroll_inr {c : γ} (h : exec env (round b) s = (.ok (.inr c), s')) :
    exec env (unrollFailing round (fuel + 1) b) s = (.ok c, s') :=
  exec_bind_ok (exec_mapErr_ok h _)

/-- A round that fails. -/
theorem exec_unroll_error {e : Fault ε} (h : exec env (round b) s = (.error e, s')) :
    exec env (unrollFailing round (fuel + 1) b) s = (.error (.failed e), s') := by
  have hround : exec env (mapErr Stop.failed (round b)) s = (.error (.failed e), s') := by
    rw [exec_mapErr, h]
    rfl
  exact exec_bind_error hround

/-- A loop leaves no more unread than its first round does. -/
theorem exec_unroll_input_le (env : Env X τ) (round : β → Act X (Fault ε) (β ⊕ γ)) (fuel : ℕ) (b : β)
    (s : Io τ) :
    (exec env (unrollFailing round (fuel + 1) b) s).2.input.length ≤
      (exec env (round b) s).2.input.length := by
  rcases hround : exec env (round b) s with ⟨e | b' | c, s'⟩
  · rw [exec_unroll_error hround]
  · rw [exec_unroll_inl hround]
    exact run_input_le env (unrollFailing round fuel b').run s'
  · rw [exec_unroll_inr hround]

/-- **A loop ends** if every round that goes on reads something, and a larger number of rounds makes
no difference. -/
theorem exec_unroll_total
    (h : ∀ b s b' s', exec env (round b) s = (.ok (.inl b'), s') → s'.input.length < s.input.length)
    (b : β) (s : Io τ) :
    ∃ x, x.1 ≠ .error .ranOut ∧
      ∀ fuel, s.input.length < fuel → exec env (unrollFailing round fuel b) s = x := by
  -- on what is left to read
  induction hn : s.input.length using Nat.strong_induction_on generalizing b s with
  | _ n ih =>
      have hsucc {fuel : ℕ} (hfuel : n < fuel) : ∃ k, fuel = k + 1 := ⟨fuel - 1, by omega⟩
      rcases hround : exec env (round b) s with ⟨e | b' | c, s'⟩
      · refine ⟨(.error (.failed e), s'), nofun, fun fuel hfuel => ?_⟩
        obtain ⟨k, rfl⟩ := hsucc hfuel
        exact exec_unroll_error hround
      · have hlt := h b s b' s' hround
        obtain ⟨x, hran, hx⟩ := ih s'.input.length (by omega) b' s' rfl
        refine ⟨x, hran, fun fuel hfuel => ?_⟩
        obtain ⟨k, rfl⟩ := hsucc hfuel
        exact (exec_unroll_inl hround).trans (hx k (by omega))
      · refine ⟨(.ok c, s'), nofun, fun fuel hfuel => ?_⟩
        obtain ⟨k, rfl⟩ := hsucc hfuel
        exact exec_unroll_inr hround

/-- A loop that fails has read something if every round that fails has. -/
theorem exec_unroll_error_reads
    (h : ∀ b s e s', exec env (round b) s = (.error e, s') → s'.input.length < s.input.length)
    {e : Fault ε} (hloop : exec env (unrollFailing round fuel b) s = (.error (.failed e), s')) :
    s'.input.length < s.input.length := by
  induction fuel generalizing b s with
  | zero => cases hloop
  | succ fuel ih =>
      rcases hround : exec env (round b) s with ⟨e' | b' | c, s₁⟩
      · rw [exec_unroll_error hround] at hloop
        cases hloop
        exact h b s e s' hround
      · rw [exec_unroll_inl hround] at hloop
        have hle := run_input_le env (round b).run s
        rw [show (round b).run.run env s = _ from hround] at hle
        exact Nat.lt_of_lt_of_le (ih hloop) hle
      · rw [exec_unroll_inr hround] at hloop
        cases hloop

end Rounds

/-! ### Moves -/

section Moves

variable {env : Env X τ} {ended : Bool}

/-- What a program does in front of a continuation is what it does by itself. -/
theorem Prog.advance_bind {p : Prog X α} {s : Io τ} {q : Party X τ α} {sent : List UInt8}
    (h : p.advance env ended s = some (q, sent)) (k : α → Prog X β) :
    (p >>= k).advance env ended s = some (⟨q.prog >>= k, q.io⟩, sent) := by
  cases p with
  | ret a => cases h
  | readExact n f =>
      rw [Prog.readExact_bind, advance]
      rw [advance] at h
      split_ifs at h ⊢
      · cases h
        rfl
      · cases h
        rfl
  | read n f =>
      rw [Prog.read_bind, advance]
      rw [advance] at h
      split_ifs at h ⊢
      · cases h
        rfl
      · cases h
        rfl
  | writeAll bs f =>
      cases h
      rfl
  | call o f =>
      cases h
      rfl

/-- The moves of a party in front of a continuation. -/
theorem Moves.bind {p p' : Party X τ α} {sent : List UInt8} (h : Moves env ended p p' sent)
    (k : α → Prog X β) : Moves env ended ⟨p.prog >>= k, p.io⟩ ⟨p'.prog >>= k, p'.io⟩ sent := by
  induction h with
  | refl p => exact .refl _
  | cons h _ ih => exact .cons (Prog.advance_bind h k) ih

theorem Moves.trans {p q r : Party X τ α} {sent sent' : List UInt8} (h : Moves env ended p q sent)
    (h' : Moves env ended q r sent') : Moves env ended p r (sent ++ sent') := by
  induction h with
  | refl p => exact h'
  | cons h _ ih =>
      rw [List.append_assoc]
      exact .cons h (ih h')

theorem Moves.silent_trans {p q r : Party X τ α} {sent : List UInt8} (h : Moves env ended p q [])
    (h' : Moves env ended q r sent) : Moves env ended p r sent := h.trans h'

/-- **What is done before more arrives** is done all the same when more has arrived, or when the
peer has returned. -/
theorem Moves.receive {p q : Party X τ α} {sent : List UInt8} (h : Moves env false p q sent)
    (more : List UInt8) : Moves env ended (p.receive more) (q.receive more) sent := by
  induction h with
  | refl p => exact .refl _
  | cons h _ ih => exact .cons (Prog.advance_fed h ended more) ih

theorem Moves.of_false {p q : Party X τ α} {sent : List UInt8} (h : Moves env false p q sent) :
    Moves env ended p q sent := by
  have hmoves : Moves env ended (p.receive []) (q.receive []) sent := h.receive []
  rwa [Party.receive_nil, Party.receive_nil] at hmoves

/-- A party for which enough has arrived returns. -/
theorem Enough.moves_ret {p : Act X ε α} {s s' : Io τ} {a : α} (h : Enough env p s a s')
    {sent : List UInt8} (hsent : s'.output = s.output ++ sent) :
    Moves env ended ⟨p.run, s⟩ ⟨.ret (.ok a), s'⟩ sent := by
  have hmoves := h.moves (fun a => (Pure.pure a : Act X ε α)) hsent ended
  rwa [bind_pure] at hmoves

/-- What only calls its surroundings needs nothing to arrive. -/
theorem CallsOnly.enough {p : Act X ε α} (h : CallsOnly p) {s : Io τ} {a : α} {t : τ}
    (hr : answer env p s.env = (.ok a, t)) : Enough env p s a { s with env := t } := by
  intro rest
  rw [h.exec_eq env, Io.fed_env, hr]
  rfl

/-- Enough for a program is enough for one that does the same. -/
theorem Enough.of_alike {p : Act X (Fault ε) α} {p' : Act X (Fault ε') α} (h : Alike Eq p p')
    {s s' : Io τ} {a : α} (hp : Enough env p s a s') : Enough env p' s a s' :=
  fun rest => h.exec_ok (hp rest)

end Moves

/-! ### Dialogues -/

/-- **One party leads a dialogue**: it sends each question, and takes each answer without a word. -/
inductive Inquires (E : Env X σ) : Party X σ α → List (List UInt8 × List UInt8) → Party X σ α → Prop
  | done (a : Party X σ α) : Inquires E a [] a
  | ask {a b c d : Party X σ α} {question answer : List UInt8} {rest : List (List UInt8 × List UInt8)}
      (hsend : Moves E false a b question) (htake : Moves E false (b.receive answer) c [])
      (hrest : Inquires E c rest d) : Inquires E a ((question, answer) :: rest) d

/-- **The other party answers**: when a question has arrived, it sends the answer. -/
inductive Responds (F : Env Y τ) : Party Y τ β → List (List UInt8 × List UInt8) → Party Y τ β → Prop
  | done (a : Party Y τ β) : Responds F a [] a
  | answer {a b c : Party Y τ β} {question answer : List UInt8} {rest : List (List UInt8 × List UInt8)}
      (hanswer : Moves F false (a.receive question) b answer) (hrest : Responds F b rest c) :
      Responds F a ((question, answer) :: rest) c

namespace Inquires

variable {E : Env X σ}

/-- **A question and its answer**, where enough has arrived each time. -/
theorem step {p : Act X ε α} {q : Act X ε β} {f : β → Act X ε γ} {s : Io σ} {a : α} {b : β}
    {question answer : List UInt8} {rest : List (List UInt8 × List UInt8)}
    {d : Party X σ (Except ε γ)} (hp : Enough E p s a (s.sent question))
    (hq : Enough E q ((s.sent question).fed answer) b (s.sent question))
    (hrest : Inquires E ⟨(f b).run, s.sent question⟩ rest d) :
    Inquires E ⟨(p >>= fun _ => q >>= f).run, s⟩ ((question, answer) :: rest) d :=
  .ask (hp.moves _ rfl false) (hq.moves f (List.append_nil _).symm false) hrest

/-- A check that is passed. -/
theorem check {x : Except ε' α} {g : ε' → ε} {f : α → Act X ε γ} {a : α} (h : x = .ok a) {s : Io σ}
    {script : List (List UInt8 × List UInt8)} {d : Party X σ (Except ε γ)}
    (hrest : Inquires E ⟨(f a).run, s⟩ script d) :
    Inquires E ⟨(mapErr g (ofResult x) >>= f).run, s⟩ script d := by
  subst h
  exact hrest

end Inquires

namespace Responds

variable {F : Env Y τ}

/-- In front of a continuation. -/
theorem bind {a a' : Party Y τ α} {script : List (List UInt8 × List UInt8)}
    (h : Responds F a script a') (k : α → Prog Y β) :
    Responds F ⟨a.prog >>= k, a.io⟩ script ⟨a'.prog >>= k, a'.io⟩ := by
  induction h with
  | done a => exact .done _
  | answer hanswer _ ih => exact .answer (hanswer.bind k) ih

/-- Silent moves before the first question. -/
theorem behind {a b c : Party Y τ α} {script : List (List UInt8 × List UInt8)} (hne : script ≠ [])
    (hsilent : Moves F false a b []) (h : Responds F b script c) : Responds F a script c := by
  cases h with
  | done a => exact absurd rfl hne
  | answer hanswer hrest => exact .answer ((hsilent.receive _).trans hanswer) hrest

/-- What has been sent are the answers. -/
theorem output_eq {a b : Party Y τ β} {script : List (List UInt8 × List UInt8)}
    (h : Responds F a script b) : b.io.output = a.io.output ++ script.flatMap Prod.snd := by
  induction h with
  | done a => exact (List.append_nil _).symm
  | answer hanswer _ ih =>
      rw [ih, hanswer.output_eq, List.flatMap_cons, List.append_assoc]
      rfl

/-- **An answer to a question**, where enough has arrived each time. -/
theorem step {p : Act Y ε α} {q : α → Act Y ε β} {f : β → Act Y ε γ} {t : Io τ} {a : α} {b : β}
    {question answer : List UInt8} {rest : List (List UInt8 × List UInt8)}
    {d : Party Y τ (Except ε γ)} (hp : Enough F p (t.fed question) a t)
    (hq : Enough F (q a) t b (t.sent answer))
    (hrest : Responds F ⟨(f b).run, t.sent answer⟩ rest d) :
    Responds F ⟨(p >>= fun a => q a >>= f).run, t⟩ ((question, answer) :: rest) d := by
  have htake := hp.moves (fun a => q a >>= f) (List.append_nil _).symm false
  have hsend := hq.moves f (rfl : (t.sent answer).output = t.output ++ answer) false
  exact .answer (htake.trans hsend) hrest

/-- An answer to a question that passes a check. -/
theorem checked {p : Act Y ε α} {x : α → Except ε' δ} {g : ε' → ε} {q : δ → Act Y ε β}
    {f : β → Act Y ε γ} {t : Io τ} {a : α} {d : δ} {b : β} {question answer : List UInt8}
    {rest : List (List UInt8 × List UInt8)} {e : Party Y τ (Except ε γ)}
    (hp : Enough F p (t.fed question) a t) (hx : x a = .ok d)
    (hq : Enough F (q d) t b (t.sent answer))
    (hrest : Responds F ⟨(f b).run, t.sent answer⟩ rest e) :
    Responds F ⟨(p >>= fun a => mapErr g (ofResult (x a)) >>= fun d => q d >>= f).run, t⟩
      ((question, answer) :: rest) e := by
  have hstep := step (q := fun a => mapErr g (ofResult (x a)) >>= q) hp
    (((Enough.ofResult hx t).mapErr g).bind hq) hrest
  simpa only [bind_assoc] using hstep

/-- A check that is passed. -/
theorem check {x : Except ε' α} {g : ε' → ε} {f : α → Act Y ε γ} {a : α} (h : x = .ok a) {t : Io τ}
    {script : List (List UInt8 × List UInt8)} {d : Party Y τ (Except ε γ)}
    (hrest : Responds F ⟨(f a).run, t⟩ script d) :
    Responds F ⟨(mapErr g (ofResult x) >>= f).run, t⟩ script d := by
  subst h
  exact hrest

end Responds

namespace Net

variable {E : Env X σ} {F : Env Y τ}

/-- **The two parties get through a dialogue** that the one leads and the other one answers. -/
theorem reaches_of_dialogue {a a' : Party X σ α} {b b' : Party Y τ β}
    {script : List (List UInt8 × List UInt8)} (h : Inquires E a script a')
    (h' : Responds F b script b') :
    ReflTransGen (Step E F) ⟨a, b⟩ ⟨a', b'⟩ := by
  -- one question and its answer after the other
  induction h generalizing b with
  | done a =>
      cases h'
      exact .refl
  | @ask a c d e question answer rest hsend htake _ ih =>
      cases h' with
      | @answer _ b₁ _ _ _ _ hanswer hrest =>
          have hasked : ReflTransGen (Step E F) ⟨a, b⟩ ⟨c, b.receive question⟩ :=
            reaches_of_moves_left hsend.of_false
          have hanswered : ReflTransGen (Step E F) ⟨c, b.receive question⟩ ⟨c.receive answer, b₁⟩ :=
            reaches_of_moves_right hanswer.of_false
          have htaken : ReflTransGen (Step E F) ⟨c.receive answer, b₁⟩ ⟨d, b₁⟩ := by
            have htaken : Moves E b₁.prog.ended (c.receive answer) d [] := htake.of_false
            have hmoves := reaches_of_moves_left (F := F) (r := b₁) htaken
            rwa [Party.receive_nil] at hmoves
          exact hasked.trans (hanswered.trans (htaken.trans (ih hrest)))

/-! ### Continuations -/

/-- Until it comes to its end, a program in front of a continuation has not ended. -/
theorem ended_bind {p : Prog X α} (h : p.ended = false)
    (k : α → Prog X γ) : (p >>= k).ended = false := by
  cases p with
  | ret a => cases h
  | readExact n f => rfl
  | read n f => rfl
  | writeAll bs f => rfl
  | call o f => rfl

/-- What follows the program of the left party makes no difference until it comes to it. -/
theorem reaches_bind_left {n n' : Net X Y σ τ α β} (h : ReflTransGen (Step E F) n n')
    (hopen : n'.left.prog.ended = false) (k : α → Prog X γ) :
    ReflTransGen (Step E F) ⟨⟨n.left.prog >>= k, n.left.io⟩, n.right⟩
      ⟨⟨n'.left.prog >>= k, n'.left.io⟩, n'.right⟩ := by
  induction h with
  | refl => exact .refl
  | @tail n₁ n₂ _ hstep ih =>
      cases hstep with
      | left h =>
          exact (ih (Prog.ended_of_advance h)).tail
            (.left (n := ⟨⟨n₁.left.prog >>= k, n₁.left.io⟩, n₁.right⟩) (Prog.advance_bind h k))
      | right h =>
          have hopen₁ : n₁.left.prog.ended = false := hopen
          rw [hopen₁] at h
          refine (ih hopen₁).tail (.right (n := ⟨⟨n₁.left.prog >>= k, n₁.left.io⟩, n₁.right⟩) ?_)
          rw [ended_bind hopen₁]
          exact h

/-- What follows the program of the right party makes no difference until it comes to it. -/
theorem reaches_bind_right {n n' : Net X Y σ τ α β} (h : ReflTransGen (Step E F) n n')
    (hopen : n'.right.prog.ended = false) (k : β → Prog Y γ) :
    ReflTransGen (Step E F) ⟨n.left, ⟨n.right.prog >>= k, n.right.io⟩⟩
      ⟨n'.left, ⟨n'.right.prog >>= k, n'.right.io⟩⟩ := by
  induction h with
  | refl => exact .refl
  | @tail n₁ n₂ _ hstep ih =>
      cases hstep with
      | right h =>
          exact (ih (Prog.ended_of_advance h)).tail
            (.right (n := ⟨n₁.left, ⟨n₁.right.prog >>= k, n₁.right.io⟩⟩) (Prog.advance_bind h k))
      | left h =>
          have hopen₁ : n₁.right.prog.ended = false := hopen
          rw [hopen₁] at h
          refine (ih hopen₁).tail (.left (n := ⟨n₁.left, ⟨n₁.right.prog >>= k, n₁.right.io⟩⟩) ?_)
          rw [ended_bind hopen₁]
          exact h

/-! ### What a party has done in the end -/

/-- **What the left party comes to is a closed run** on the bytes that it has received, whoever the
other party is and in whatever order the two have moved. -/
theorem closed_left {n : Net X Y σ τ α β} {a : α} {s' : Io σ} {r : Party Y τ β}
    (h : ReflTransGen (Step E F) n ⟨⟨.ret a, s'⟩, r⟩) :
    ∃ received, (n.right.prog.ended = true → received = []) ∧
      n.left.prog.run E (n.left.io.fed received) = (a, s') := by
  -- on the run, from its end
  generalize hlast : (⟨⟨.ret a, s'⟩, r⟩ : Net X Y σ τ α β) = last at h
  induction h using ReflTransGen.head_induction_on with
  | refl =>
      subst hlast
      refine ⟨[], fun _ => rfl, ?_⟩
      rw [Io.fed, List.append_nil]
      rfl
  | @head n n₁ hstep _ ih =>
      obtain ⟨received, hended, hrun⟩ := ih
      cases hstep with
      | @left p sent h =>
          refine ⟨received, hended, ?_⟩
          rcases hr : n.right.prog.ended with _ | _
          · rw [hr] at h
            exact (run_of_advance (Prog.advance_fed h true received)).trans hrun
          · obtain rfl := hended hr
            rw [hr] at h
            rw [Io.fed, List.append_nil] at hrun ⊢
            exact (run_of_advance h).trans hrun
      | @right q sent h =>
          refine ⟨sent ++ received, fun hr => ?_, ?_⟩
          · rw [Prog.ended_of_advance h] at hr
            cases hr
          · rw [Io.fed, ← List.append_assoc]
            exact hrun

/-! ### Programs that do the same -/

/-- The next move of a program that does the same. -/
theorem advance_of_rel {R : α → α' → Prop} {p : Prog X α} {p' : Prog X α'} (h : Prog.Rel R p p')
    {ended : Bool} {s : Io σ} {q : Party X σ α} {sent : List UInt8}
    (hp : p.advance E ended s = some (q, sent)) :
    ∃ q', p'.advance E ended s = some (⟨q', q.io⟩, sent) ∧ Prog.Rel R q.prog q' := by
  cases h with
  | ret h => cases hp
  | readExact n h =>
      rw [Prog.advance] at hp ⊢
      split_ifs at hp ⊢
      · cases hp
        exact ⟨_, rfl, h _⟩
      · cases hp
        exact ⟨_, rfl, h _⟩
  | read n h =>
      rw [Prog.advance] at hp ⊢
      split_ifs at hp ⊢
      · cases hp
        exact ⟨_, rfl, h _⟩
      · cases hp
        exact ⟨_, rfl, h _⟩
  | writeAll bs h =>
      cases hp
      exact ⟨_, rfl, h _⟩
  | call o h =>
      cases hp
      exact ⟨_, rfl, h _⟩

theorem ended_of_rel {R : α → α' → Prop} {p : Prog X α} {p' : Prog X α'} (h : Prog.Rel R p p') :
    p.ended = p'.ended := by
  cases h <;> rfl

/-- A step, with another program that does the same. -/
theorem step_of_rel {R : α → α' → Prop} {n n₁ : Net X Y σ τ α β} (h : Step E F n n₁)
    {p' : Prog X α'} (hp : Prog.Rel R n.left.prog p') :
    ∃ p₁, Step E F ⟨⟨p', n.left.io⟩, n.right⟩ ⟨⟨p₁, n₁.left.io⟩, n₁.right⟩ ∧
      Prog.Rel R n₁.left.prog p₁ := by
  cases h with
  | left h =>
      obtain ⟨p₁, hadvance, hrel⟩ := advance_of_rel hp h
      exact ⟨p₁, .left (n := ⟨⟨p', n.left.io⟩, n.right⟩) hadvance, hrel⟩
  | right h =>
      rw [ended_of_rel hp] at h
      exact ⟨p', .right (n := ⟨⟨p', n.left.io⟩, n.right⟩) h, hp⟩

/-- A run, with another program that does the same. -/
theorem reaches_of_rel {R : α → α' → Prop} {n n₁ : Net X Y σ τ α β}
    (h : ReflTransGen (Step E F) n n₁) {p' : Prog X α'} (hp : Prog.Rel R n.left.prog p') :
    ∃ p₁, ReflTransGen (Step E F) ⟨⟨p', n.left.io⟩, n.right⟩ ⟨⟨p₁, n₁.left.io⟩, n₁.right⟩ ∧
      Prog.Rel R n₁.left.prog p₁ := by
  induction h with
  | refl => exact ⟨p', .refl, hp⟩
  | tail _ hstep ih =>
      obtain ⟨p₁, hreach, hrel⟩ := ih
      obtain ⟨p₂, hstep', hrel'⟩ := step_of_rel hstep hrel
      exact ⟨p₂, hreach.tail hstep', hrel'⟩

/-- A run that ends somewhere reaches its end. -/
theorem reaches_of_ends {S : Type} {r : S → S → Prop} {a f : S} (h : Ends r a f) :
    ReflTransGen r a f := by
  obtain ⟨-, k, hk⟩ := h
  obtain ⟨-, hsteps⟩ := hk 0 a (.refl a)
  rw [Nat.sub_zero] at hsteps
  clear hk
  induction hsteps with
  | refl a => exact .refl
  | cons hstep _ ih => exact .head hstep ih

/-- **A program that does the same ends the same way**, whoever the peer is and in whatever order
the two move. -/
theorem ends_of_rel {R : α → α' → Prop} {p : Prog X α} {p' : Prog X α'} (hp : Prog.Rel R p p')
    {s s' : Io σ} {a : α} {r : Party Y τ β} {b : β} {t' : Io τ}
    (h : Ends (Step E F) ⟨⟨p, s⟩, r⟩ ⟨⟨.ret a, s'⟩, ⟨.ret b, t'⟩⟩) :
    ∃ a', R a a' ∧ Ends (Step E F) ⟨⟨p', s⟩, r⟩ ⟨⟨.ret a', s'⟩, ⟨.ret b, t'⟩⟩ := by
  obtain ⟨p₁, hreach, hrel⟩ := reaches_of_rel (reaches_of_ends h) hp
  cases hrel with
  | @ret _ a' hR => exact ⟨a', hR, diamond.ends hreach (final _ _ _ _)⟩

end Net

/-! ### Loops that do the same -/

/-- The same outcome, or the fuel of a loop ran out in both. -/
inductive SameEnd (R : α → α' → Prop) :
    Except (Stop (Fault ε)) α → Except (Stop (Fault ε')) α' → Prop
  | ok {a : α} {a' : α'} (h : R a a') : SameEnd R (.ok a) (.ok a')
  | err (e : ε) (e' : ε') : SameEnd R (.error (.failed (.err e))) (.error (.failed (.err e')))
  | panic : SameEnd R (.error (.failed .panic)) (.error (.failed .panic))
  | ranOut : SameEnd R (.error .ranOut) (.error .ranOut)

section Unrolled

variable {R : α → α' → Prop} {S : β → β → Prop}

theorem rel_mapErr {p : Act X (Fault ε) α} {p' : Act X (Fault ε') α'} (h : Alike R p p') :
    Prog.Rel (SameEnd R) (mapErr .failed p : Act X (Stop (Fault ε)) α).run
      (mapErr .failed p' : Act X (Stop (Fault ε')) α').run := by
  refine Prog.Rel.bind h ?_
  rintro _ _ (h | _ | _)
  · exact .ret (.ok h)
  · exact .ret (.err _ _)
  · exact .ret .panic

theorem rel_bind {p : Act X (Stop (Fault ε)) α} {p' : Act X (Stop (Fault ε')) α}
    {f : α → Act X (Stop (Fault ε)) β} {f' : α → Act X (Stop (Fault ε')) β}
    (hp : Prog.Rel (SameEnd Eq) p.run p'.run)
    (hf : ∀ a, Prog.Rel (SameEnd Eq) (f a).run (f' a).run) :
    Prog.Rel (SameEnd Eq) (p >>= f).run (p' >>= f').run := by
  refine Prog.Rel.bind hp ?_
  rintro _ _ (h | _ | _ | _)
  · cases h
    exact hf _
  · exact .ret (.err _ _)
  · exact .ret .panic
  · exact .ret .ranOut

/-- Loops with bodies that do the same, unrolled. -/
theorem rel_unroll {round : β → Act X (Fault ε) (β ⊕ γ)} {round' : β → Act X (Fault ε') (β ⊕ γ)}
    (h : ∀ b, Alike Eq (round b) (round' b)) (fuel : ℕ) (b : β) :
    Prog.Rel (SameEnd Eq)
      (unroll (fun b => (mapErr .failed (round b) : Act X (Stop (Fault ε)) _)) fuel b).run
      (unroll (fun b => (mapErr .failed (round' b) : Act X (Stop (Fault ε')) _)) fuel b).run := by
  induction fuel generalizing b with
  | zero => exact .ret .ranOut
  | succ fuel ih =>
      refine rel_bind (rel_mapErr (h b)) ?_
      rintro (b' | c)
      · exact ih b'
      · exact .ret (.ok rfl)

/-- Programs with one loop that do the same, unrolled. -/
theorem Looped.Alike.unrolled {p : Looped X (Fault ε) β γ δ} {p' : Looped X (Fault ε') β γ δ}
    (h : Looped.Alike p p') (fuel : ℕ) :
    Prog.Rel (SameEnd Eq) (p.unrolled fuel).run (p'.unrolled fuel).run := by
  refine rel_bind (rel_mapErr h.start) ?_
  rintro (b | c)
  · exact rel_bind (rel_unroll h.round fuel b) fun c => rel_mapErr (h.finish c)
  · exact rel_mapErr (h.finish c)

/-- **A program with one loop that does the same ends the same way**, whoever the peer is. -/
theorem Looped.Alike.ends {p : Looped X (Fault ε) β γ δ} {p' : Looped X (Fault ε') β γ δ}
    (h : Looped.Alike p p') {E : Env X σ} {F : Env Y τ} {fuel : ℕ} {s s' : Io σ} {d : δ}
    {r : Party Y τ α} {b : α} {t' : Io τ}
    (hends : Ends (Net.Step E F) ⟨⟨(p.unrolled fuel).run, s⟩, r⟩ ⟨⟨.ret (.ok d), s'⟩, ⟨.ret b, t'⟩⟩) :
    Ends (Net.Step E F) ⟨⟨(p'.unrolled fuel).run, s⟩, r⟩ ⟨⟨.ret (.ok d), s'⟩, ⟨.ret b, t'⟩⟩ := by
  obtain ⟨a', hsame, hends'⟩ := Net.ends_of_rel (h.unrolled fuel) hends
  cases hsame with
  | ok h =>
      cases h
      exact hends'

end Unrolled

end Program

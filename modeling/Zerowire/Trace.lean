/-
**What a program does, whoever answers it.**

A closed run of `Zerowire/Program.lean` has one stream that ends and one way in which the
surroundings answer.  What has to hold whatever the peer and the surroundings do is a statement
about traces: the bytes that were delivered, what was written and whether it went through, and the
calls with their answers, in their order.  A trace may break off anywhere, also in a call that has
not returned.

The calls of a program can be programs themselves, over other surroundings.  A trace of the whole
then comes from a trace of the program in which each call stands for a trace of the program behind
it.

Main definitions:

* `Program.Event`, `Program.Prog.Trace` — the traces of a program;
* `Program.Prog.handle`, `Program.handled`, `Program.Expands` — programs behind the calls, and what
  becomes of a trace;
* `Program.Prog.transcript` — the trace of a closed run;
* `Program.delivered` — the bytes that the stream has delivered.

Main results:

* `Program.Prog.Trace.bind_cases` — a trace of a sequence is a trace of its parts;
* `Program.Prog.Trace.of_handle` — **every trace of the whole comes from a trace of the program**;
* `Program.Expands.split` — a beginning of the one stands for a beginning of the other.
-/

import Zerowire.Program

set_option relaxedAutoImplicit false
set_option autoImplicit false

namespace Program

variable {X Y : Sig} {τ α β ε : Type}

/-! ### Traces -/

/-- What a program does: it is delivered bytes or finds none, it writes, and it calls.  The answer
of a call is `none` as long as it has not returned. -/
inductive Event (X : Sig) where
  | received (bs : List UInt8)
  | starved
  | sent (bs : List UInt8) (ok : Bool)
  | called (o : X.Op) (a : Option (X.Ans o))

/-- **The traces of a program**, with its result if it has got to it. -/
inductive Prog.Trace : Prog X α → List (Event X) → Option α → Prop
  | cut (p : Prog X α) : Prog.Trace p [] none
  | ret (a : α) : Prog.Trace (.ret a) [] (some a)
  | readExact {n : ℕ} {k : Option (List UInt8) → Prog X α} {bs : List UInt8} {es : List (Event X)}
      {r : Option α} (hlen : bs.length = n) (h : Prog.Trace (k (some bs)) es r) :
      Prog.Trace (.readExact n k) (.received bs :: es) r
  | readExactStarved {n : ℕ} {k : Option (List UInt8) → Prog X α} {es : List (Event X)} {r : Option α}
      (h : Prog.Trace (k none) es r) : Prog.Trace (.readExact n k) (.starved :: es) r
  | read {n : ℕ} {k : Option (List UInt8) → Prog X α} {bs : List UInt8} {es : List (Event X)}
      {r : Option α} (hlen : bs.length ≤ n) (h : Prog.Trace (k (some bs)) es r) :
      Prog.Trace (.read n k) (.received bs :: es) r
  | readStarved {n : ℕ} {k : Option (List UInt8) → Prog X α} {es : List (Event X)} {r : Option α}
      (h : Prog.Trace (k none) es r) : Prog.Trace (.read n k) (.starved :: es) r
  | writeAll {bs : List UInt8} {k : Bool → Prog X α} {ok : Bool} {es : List (Event X)} {r : Option α}
      (h : Prog.Trace (k ok) es r) : Prog.Trace (.writeAll bs k) (.sent bs ok :: es) r
  | call {o : X.Op} {k : X.Ans o → Prog X α} {a : X.Ans o} {es : List (Event X)} {r : Option α}
      (h : Prog.Trace (k a) es r) : Prog.Trace (.call o k) (.called o (some a) :: es) r
  | hung (o : X.Op) (k : X.Ans o → Prog X α) : Prog.Trace (.call o k) [.called o none] none

/-- **A trace of a sequence** breaks off in its first part, or goes through that part. -/
theorem Prog.Trace.bind_cases {p : Prog X α} {f : α → Prog X β} {es : List (Event X)} {r : Option β}
    (h : (p >>= f).Trace es r) :
    (p.Trace es none ∧ r = none) ∨
      ∃ a es₁ es₂, es = es₁ ++ es₂ ∧ p.Trace es₁ (some a) ∧ (f a).Trace es₂ r := by
  -- on the first part: each of its events comes before those of what follows
  induction p generalizing es with
  | ret a => exact Or.inr ⟨a, [], es, rfl, .ret a, h⟩
  | readExact n k ih =>
      cases h with
      | cut => exact Or.inl ⟨.cut _, rfl⟩
      | readExact hlen h =>
          rcases ih _ h with ⟨ht, hr⟩ | ⟨a, es₁, es₂, rfl, ht, hf⟩
          · exact Or.inl ⟨.readExact hlen ht, hr⟩
          · exact Or.inr ⟨a, _, es₂, rfl, .readExact hlen ht, hf⟩
      | readExactStarved h =>
          rcases ih _ h with ⟨ht, hr⟩ | ⟨a, es₁, es₂, rfl, ht, hf⟩
          · exact Or.inl ⟨.readExactStarved ht, hr⟩
          · exact Or.inr ⟨a, _, es₂, rfl, .readExactStarved ht, hf⟩
  | read n k ih =>
      cases h with
      | cut => exact Or.inl ⟨.cut _, rfl⟩
      | read hlen h =>
          rcases ih _ h with ⟨ht, hr⟩ | ⟨a, es₁, es₂, rfl, ht, hf⟩
          · exact Or.inl ⟨.read hlen ht, hr⟩
          · exact Or.inr ⟨a, _, es₂, rfl, .read hlen ht, hf⟩
      | readStarved h =>
          rcases ih _ h with ⟨ht, hr⟩ | ⟨a, es₁, es₂, rfl, ht, hf⟩
          · exact Or.inl ⟨.readStarved ht, hr⟩
          · exact Or.inr ⟨a, _, es₂, rfl, .readStarved ht, hf⟩
  | writeAll bs k ih =>
      cases h with
      | cut => exact Or.inl ⟨.cut _, rfl⟩
      | writeAll h =>
          rcases ih _ h with ⟨ht, hr⟩ | ⟨a, es₁, es₂, rfl, ht, hf⟩
          · exact Or.inl ⟨.writeAll ht, hr⟩
          · exact Or.inr ⟨a, _, es₂, rfl, .writeAll ht, hf⟩
  | call o k ih =>
      cases h with
      | cut => exact Or.inl ⟨.cut _, rfl⟩
      | hung => exact Or.inl ⟨.hung o k, rfl⟩
      | call h =>
          rcases ih _ h with ⟨ht, hr⟩ | ⟨a, es₁, es₂, rfl, ht, hf⟩
          · exact Or.inl ⟨.call ht, hr⟩
          · exact Or.inr ⟨a, _, es₂, rfl, .call ht, hf⟩

/-! ### The trace of a closed run -/

/-- What a closed run does. -/
def Prog.transcript (env : Env X τ) : Prog X α → Io τ → List (Event X)
  | .ret _, _ => []
  | .readExact n k, s =>
      if n ≤ s.input.length then
        .received (s.input.take n) ::
          (k (some (s.input.take n))).transcript env { s with input := s.input.drop n }
      else .starved :: (k none).transcript env { s with input := [] }
  | .read n k, s =>
      if s.input = [] ∧ n ≠ 0 then .starved :: (k none).transcript env s
      else
        let m := pieceSize s.chunks n
        .received (s.input.take m) :: (k (some (s.input.take m))).transcript env
          { s with input := s.input.drop m, chunks := s.chunks.tail }
  | .writeAll bs k, s =>
      .sent bs true :: (k true).transcript env { s with output := s.output ++ bs }
  | .call o k, s =>
      let r := env o s.env
      .called o (some r.1) :: (k r.1).transcript env { s with env := r.2 }

/-- Closed runs are among those that the traces are about. -/
theorem Prog.trace_transcript (env : Env X τ) (p : Prog X α) (s : Io τ) :
    p.Trace (p.transcript env s) (some (p.run env s).1) := by
  induction p generalizing s with
  | ret a => exact .ret a
  | readExact n k ih =>
      rw [transcript, run]
      split
      case isTrue h => exact .readExact (List.length_take_of_le h) (ih _ _)
      case isFalse => exact .readExactStarved (ih _ _)
  | read n k ih =>
      rw [transcript, run]
      split
      · exact .readStarved (ih _ _)
      · have hle : pieceSize s.chunks n ≤ n := Nat.min_le_left _ _
        exact .read (Nat.le_trans (List.length_take_le _ _) hle) (ih _ _)
  | writeAll bs k ih => exact .writeAll (ih _ _)
  | call o k ih => exact .call (ih _ _)

/-! ### Programs behind the calls -/

/-- The program with the calls replaced by programs. -/
def Prog.handle (h : (o : X.Op) → Prog Y (X.Ans o)) : Prog X α → Prog Y α
  | .ret a => .ret a
  | .readExact n k => .readExact n fun r => (k r).handle h
  | .read n k => .read n fun r => (k r).handle h
  | .writeAll bs k => .writeAll bs fun r => (k r).handle h
  | .call o k => h o >>= fun a => (k a).handle h

/-- Replacing the calls of a sequence is replacing those of its parts. -/
theorem Prog.handle_bind (h : (o : X.Op) → Prog Y (X.Ans o)) (p : Prog X α) (f : α → Prog X β) :
    (p >>= f).handle h = p.handle h >>= fun a => (f a).handle h := by
  induction p with
  | ret a => rfl
  | readExact n k ih => exact congrArg (Prog.readExact n) (funext ih)
  | read n k ih => exact congrArg (Prog.read n) (funext ih)
  | writeAll bs k ih => exact congrArg (Prog.writeAll bs) (funext ih)
  | call o k ih =>
      rw [call_bind, handle, handle, bind_assoc]
      exact congrArg (h o >>= ·) (funext ih)

section Handled

variable {ε' : Type} (h : (o : X.Op) → Prog Y (X.Ans o))

/-- A program that may fail, with its calls replaced. -/
def handled (p : Act X ε α) : Act Y ε α := ExceptT.mk (p.run.handle h)

@[simp] theorem handled_pure (a : α) : handled h (pure a : Act X ε α) = pure a := rfl

@[simp] theorem handled_throw (e : ε) : handled h (throw e : Act X ε α) = throw e := rfl

@[simp] theorem handled_ofResult (r : Except ε α) :
    handled h (ofResult r : Act X ε α) = ofResult r := rfl

@[simp] theorem handled_bind (p : Act X ε α) (f : α → Act X ε β) :
    handled h (p >>= f) = handled h p >>= fun a => handled h (f a) := by
  refine ExceptT.ext ?_
  rw [ExceptT.run_bind, handled, ExceptT.run_mk, ExceptT.run_bind, Prog.handle_bind]
  refine congrArg ((p.run.handle h) >>= ·) (funext fun r => ?_)
  cases r with
  | ok a => rfl
  | error e => rfl

@[simp] theorem handled_ite (c : Prop) [Decidable c] (p q : Act X ε α) :
    handled h (if c then p else q) = if c then handled h p else handled h q := by
  split <;> rfl

@[simp] theorem handled_attempt (p : Act X ε α) :
    handled h (attempt p : Act X ε' _) = attempt (handled h p) := by
  refine ExceptT.ext ?_
  rw [attempt, attempt, handled, ExceptT.run_mk, ExceptT.run_lift, ExceptT.run_lift,
    map_eq_pure_bind, map_eq_pure_bind, Prog.handle_bind]
  rfl

end Handled

/-- **What becomes of a trace** when the calls are replaced by programs: each call becomes a trace
of the program behind it. -/
inductive Expands (h : (o : X.Op) → Prog Y (X.Ans o)) : List (Event X) → List (Event Y) → Prop
  | nil : Expands h [] []
  | received (bs : List UInt8) {es : List (Event X)} {fs : List (Event Y)} (hes : Expands h es fs) :
      Expands h (.received bs :: es) (.received bs :: fs)
  | starved {es : List (Event X)} {fs : List (Event Y)} (hes : Expands h es fs) :
      Expands h (.starved :: es) (.starved :: fs)
  | sent (bs : List UInt8) (ok : Bool) {es : List (Event X)} {fs : List (Event Y)}
      (hes : Expands h es fs) : Expands h (.sent bs ok :: es) (.sent bs ok :: fs)
  | called {o : X.Op} {a : X.Ans o} {gs : List (Event Y)} {es : List (Event X)} {fs : List (Event Y)}
      (hcall : (h o).Trace gs (some a)) (hes : Expands h es fs) :
      Expands h (.called o (some a) :: es) (gs ++ fs)
  | hung {o : X.Op} {gs : List (Event Y)} (hcall : (h o).Trace gs none) :
      Expands h [.called o none] gs

/-- **Every trace of the whole comes from a trace of the program.** -/
theorem Prog.Trace.of_handle {h : (o : X.Op) → Prog Y (X.Ans o)} {p : Prog X α} {fs : List (Event Y)}
    {r : Option α} (ht : (p.handle h).Trace fs r) : ∃ es, p.Trace es r ∧ Expands h es fs := by
  -- on the program; only a call becomes a trace of its own
  induction p generalizing fs with
  | ret a =>
      cases ht with
      | cut => exact ⟨[], .cut _, .nil⟩
      | ret => exact ⟨[], .ret a, .nil⟩
  | readExact n k ih =>
      cases ht with
      | cut => exact ⟨[], .cut _, .nil⟩
      | readExact hlen ht =>
          obtain ⟨es, hes, hexp⟩ := ih _ ht
          exact ⟨_, .readExact hlen hes, .received _ hexp⟩
      | readExactStarved ht =>
          obtain ⟨es, hes, hexp⟩ := ih _ ht
          exact ⟨_, .readExactStarved hes, .starved hexp⟩
  | read n k ih =>
      cases ht with
      | cut => exact ⟨[], .cut _, .nil⟩
      | read hlen ht =>
          obtain ⟨es, hes, hexp⟩ := ih _ ht
          exact ⟨_, .read hlen hes, .received _ hexp⟩
      | readStarved ht =>
          obtain ⟨es, hes, hexp⟩ := ih _ ht
          exact ⟨_, .readStarved hes, .starved hexp⟩
  | writeAll bs k ih =>
      cases ht with
      | cut => exact ⟨[], .cut _, .nil⟩
      | writeAll ht =>
          obtain ⟨es, hes, hexp⟩ := ih _ ht
          exact ⟨_, .writeAll hes, .sent bs _ hexp⟩
  | call o k ih =>
      rcases ht.bind_cases with ⟨hcall, rfl⟩ | ⟨a, gs, fs', rfl, hcall, ht⟩
      · exact ⟨_, .hung o k, .hung hcall⟩
      · obtain ⟨es, hes, hexp⟩ := ih a ht
        exact ⟨_, .call hes, .called hcall hexp⟩

/-- **A beginning of the one stands for a beginning of the other.** -/
theorem Expands.split {h : (o : X.Op) → Prog Y (X.Ans o)} {pre post : List (Event X)}
    {fs : List (Event Y)} (hexp : Expands h (pre ++ post) fs) :
    ∃ fs₁ fs₂, fs = fs₁ ++ fs₂ ∧ Expands h pre fs₁ ∧ Expands h post fs₂ := by
  induction pre generalizing fs with
  | nil => exact ⟨[], fs, rfl, .nil, hexp⟩
  | cons e pre ih =>
      generalize hes : pre ++ post = es at hexp ih
      rw [List.cons_append, hes] at hexp
      cases hexp with
      | received bs hexp =>
          obtain ⟨fs₁, fs₂, rfl, h₁, h₂⟩ := ih hexp
          exact ⟨_, fs₂, rfl, .received bs h₁, h₂⟩
      | starved hexp =>
          obtain ⟨fs₁, fs₂, rfl, h₁, h₂⟩ := ih hexp
          exact ⟨_, fs₂, rfl, .starved h₁, h₂⟩
      | sent bs ok hexp =>
          obtain ⟨fs₁, fs₂, rfl, h₁, h₂⟩ := ih hexp
          exact ⟨_, fs₂, rfl, .sent bs ok h₁, h₂⟩
      | @called o a gs _ _ hcall hexp =>
          obtain ⟨fs₁, fs₂, rfl, h₁, h₂⟩ := ih hexp
          exact ⟨gs ++ fs₁, fs₂, (List.append_assoc _ _ _).symm, .called hcall h₁, h₂⟩
      | hung hcall =>
          -- a call that has not returned is the last one
          obtain ⟨rfl, rfl⟩ := List.append_eq_nil_iff.1 hes
          exact ⟨fs, [], (List.append_nil fs).symm, .hung hcall, .nil⟩

/-! ### What the stream has delivered -/

/-- The bytes that an event delivers. -/
def Event.bytes : Event X → List UInt8
  | .received bs => bs
  | _ => []

/-- The bytes that the stream has delivered. -/
def delivered (es : List (Event X)) : List UInt8 := es.flatMap Event.bytes

@[simp] theorem delivered_nil : delivered ([] : List (Event X)) = [] := rfl

@[simp] theorem delivered_append (es es' : List (Event X)) :
    delivered (es ++ es') = delivered es ++ delivered es' := List.flatMap_append

end Program

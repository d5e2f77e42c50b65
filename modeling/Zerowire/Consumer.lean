/-
**Loops that read one symbol after another.**

A session loop takes what arrives, one symbol at a time, and ends when a symbol says so, when it
cannot go on, or when nothing more arrives.  This module is about such loops as functions on lists,
and about the programs (`Zerowire/Program.lean`) whose closed runs they describe.

Some symbols a loop does not care about.  A symbol is *idle* if a step on it changes nothing; a loop
that has been told to stop does not look at symbols at all, so in such a state nothing needs to be
said about them.  Taking idle symbols out of a list, or putting some in, makes no difference to what
comes of it.

Main definitions:

* `Consumer.Step`, `Consumer.run`, `Consumer.outcome` — a step, the run over a list, what comes of
  it;
* `Consumer.Idle` — symbols that change nothing;
* `Consumer.Inserted` — lists that differ by symbols put in.

Main results:

* `Consumer.run_append`, `Consumer.outcome_inv` — runs over concatenations, and invariants;
* `Consumer.Inserted.outcome_eq` — **idle symbols make no difference**;
* `Consumer.loop_frames` — a loop that reads a framed stream consumes its frames.
-/

import Zerowire.Program
import Zerowire.StreamCodec

set_option relaxedAutoImplicit false
set_option autoImplicit false

namespace Consumer

variable {α σ ρ : Type}

/-- One symbol: the loop goes on in a new state, or ends with a result. -/
abbrev Step (α σ ρ : Type) := α → σ → σ ⊕ ρ

/-- **The run over a list**: the state after it, or the result with which the loop ended on the
way. -/
def run (step : Step α σ ρ) : List α → σ → σ ⊕ ρ
  | [], s => .inl s
  | a :: as, s =>
      match step a s with
      | .inl s' => run step as s'
      | .inr r => .inr r

/-- What comes of a list if nothing follows it; `fin` is what the loop does about that. -/
def outcome (step : Step α σ ρ) (fin : σ → ρ) (as : List α) (s : σ) : ρ :=
  match run step as s with
  | .inl s' => fin s'
  | .inr r => r

section Run

variable {step : Step α σ ρ} {fin : σ → ρ}

theorem run_cons_inl {a : α} {s s' : σ} (h : step a s = .inl s') (as : List α) :
    run step (a :: as) s = run step as s' := by
  rw [run, h]

theorem run_cons_inr {a : α} {s : σ} {r : ρ} (h : step a s = .inr r) (as : List α) :
    run step (a :: as) s = .inr r := by
  rw [run, h]

@[simp] theorem outcome_nil (s : σ) : outcome step fin [] s = fin s := rfl

theorem outcome_cons_inl {a : α} {s s' : σ} (h : step a s = .inl s') (as : List α) :
    outcome step fin (a :: as) s = outcome step fin as s' := by
  rw [outcome, run_cons_inl h, outcome]

theorem outcome_cons_inr {a : α} {s : σ} {r : ρ} (h : step a s = .inr r) (as : List α) :
    outcome step fin (a :: as) s = r := by
  rw [outcome, run_cons_inr h]

/-- A run over a concatenation. -/
theorem run_append (as bs : List α) (s : σ) :
    run step (as ++ bs) s =
      match run step as s with
      | .inl s' => run step bs s'
      | .inr r => .inr r := by
  induction as generalizing s with
  | nil => rfl
  | cons a as ih =>
      rcases ha : step a s with s' | r
      · rw [List.cons_append, run_cons_inl ha, run_cons_inl ha, ih]
      · rw [List.cons_append, run_cons_inr ha, run_cons_inr ha]

theorem run_append_inl {as : List α} {s s' : σ} (h : run step as s = .inl s') (bs : List α) :
    run step (as ++ bs) s = run step bs s' := by
  rw [run_append, h]

/-- A loop that goes on after a list went on after its first part. -/
theorem exists_run_of_append {as bs : List α} {s s' : σ} (h : run step (as ++ bs) s = .inl s') :
    ∃ t, run step as s = .inl t ∧ run step bs t = .inl s' := by
  rw [run_append] at h
  rcases ha : run step as s with t | r
  · rw [ha] at h
    exact ⟨t, rfl, h⟩
  · rw [ha] at h
    cases h

/-- What every step preserves, also when it ends the loop, holds of what comes of a list. -/
theorem outcome_inv {I : σ → Prop} {J : ρ → Prop} {as : List α} {s : σ}
    (hstep : ∀ a ∈ as, ∀ t, I t → (∀ t', step a t = .inl t' → I t') ∧ ∀ r, step a t = .inr r → J r)
    (hfin : ∀ t, I t → J (fin t)) (hs : I s) : J (outcome step fin as s) := by
  induction as generalizing s with
  | nil => exact hfin s hs
  | cons a as ih =>
      obtain ⟨hinl, hinr⟩ := hstep a (by simp) s hs
      rcases ha : step a s with t | r
      · rw [outcome_cons_inl ha]
        exact ih (fun b hb => hstep b (by simp [hb])) (hinl t ha)
      · rw [outcome_cons_inr ha]
        exact hinr r ha

/-! ### Symbols that change nothing -/

/-- The symbol changes nothing, except where no symbol matters any more because the loop has been
told to stop. -/
def Idle (step : Step α σ ρ) (fin : σ → ρ) (a : α) : Prop :=
  ∀ s, step a s = .inl s ∨ ∀ b, step b s = .inr (fin s)

/-- The second list is the first with some symbols put in, at any positions. -/
inductive Inserted (idle : α → Prop) : List α → List α → Prop
  | nil : Inserted idle [] []
  | keep (a : α) {as bs : List α} : Inserted idle as bs → Inserted idle (a :: as) (a :: bs)
  | insert {a : α} {as bs : List α} : idle a → Inserted idle as bs → Inserted idle as (a :: bs)

/-- Where no symbol matters, nothing comes of a list. -/
theorem outcome_of_stopped {s : σ} (h : ∀ b, step b s = .inr (fin s)) (as : List α) :
    outcome step fin as s = fin s := by
  cases as with
  | nil => rfl
  | cons a as => exact outcome_cons_inr (h a) as

theorem Idle.outcome_cons {a : α} (h : Idle step fin a) (as : List α) (s : σ) :
    outcome step fin (a :: as) s = outcome step fin as s := by
  rcases h s with hinl | hstop
  · exact outcome_cons_inl hinl as
  · rw [outcome_of_stopped hstop, outcome_of_stopped hstop]

/-- **Idle symbols make no difference**, wherever they are put in. -/
theorem Inserted.outcome_eq {idle : α → Prop} {as bs : List α} (h : Inserted idle as bs)
    (hidle : ∀ a, idle a → Idle step fin a) (s : σ) :
    outcome step fin bs s = outcome step fin as s := by
  induction h generalizing s with
  | nil => rfl
  | keep a _ ih =>
      rcases ha : step a s with s' | r
      · rw [outcome_cons_inl ha, outcome_cons_inl ha, ih]
      · rw [outcome_cons_inr ha, outcome_cons_inr ha]
  | insert ha _ ih => rw [(hidle _ ha).outcome_cons, ih]

end Run

/-! ### Loops over a framed stream -/

section Loop

open Program

variable {X : Sig} {τ β γ ε : Type}

/-- **A loop that reads a framed stream consumes its frames**, if each round takes the next frame
and does with it what a step does, and ends where there is no frame. -/
theorem loop_frames {P : StreamCodec.Parser α UInt8 ε} (hP : StreamCodec.Stable P) {env : Env X τ}
    {body : β → Prog X (β ⊕ γ)} (step : Step α (β × τ) (γ × τ)) (fin : β × τ → γ × τ)
    (hnone : ∀ b (s : Io τ), (∀ r, P s.input ≠ .ok (some r)) →
      ∃ rest, (body b).run env s =
        (.inr (fin (b, s.env)).1, { s with input := rest, env := (fin (b, s.env)).2 }))
    (hinl : ∀ b (s : Io τ) a n b' t, P s.input = .ok (some (a, n)) →
      step a (b, s.env) = .inl (b', t) →
        (body b).run env s = (.inl b', { s with input := s.input.drop n, env := t }))
    (hinr : ∀ b (s : Io τ) a n c t, P s.input = .ok (some (a, n)) →
      step a (b, s.env) = .inr (c, t) →
        ∃ rest, (body b).run env s = (.inr c, { s with input := rest, env := t }))
    (fuel : ℕ) (b : β) (s : Io τ) (hfuel : s.input.length < fuel) :
    ∃ rest, loop env body fuel b s =
      some ((outcome step fin (StreamCodec.frames P s.input) (b, s.env)).1,
        { s with
          input := rest
          env := (outcome step fin (StreamCodec.frames P s.input) (b, s.env)).2 }) := by
  induction fuel generalizing b s with
  | zero => omega
  | succ fuel ih =>
      by_cases hparse : ∃ r, P s.input = .ok (some r)
      · obtain ⟨⟨a, n⟩, hparse⟩ := hparse
        rw [StreamCodec.frames_eq_cons hP hparse]
        rcases hstep : step a (b, s.env) with ⟨b', t⟩ | ⟨c, t⟩
        -- a frame takes at least one byte, so the fuel suffices
        · have hpos := hP.pos hparse
          have hle := hP.le hparse
          have hlen : (s.input.drop n).length < fuel := by
            rw [List.length_drop]
            omega
          rw [loop_inl (hinl b s a n b' t hparse hstep), outcome_cons_inl hstep]
          exact ih b' { s with input := s.input.drop n, env := t } hlen
        · obtain ⟨rest, hround⟩ := hinr b s a n c t hparse hstep
          rw [outcome_cons_inr hstep]
          exact ⟨rest, loop_inr hround⟩
      · have hno : ∀ r, P s.input ≠ .ok (some r) := fun r h => hparse ⟨r, h⟩
        obtain ⟨rest, hround⟩ := hnone b s hno
        rw [StreamCodec.frames_eq_nil hP hno]
        exact ⟨rest, loop_inr hround⟩

end Loop

end Consumer

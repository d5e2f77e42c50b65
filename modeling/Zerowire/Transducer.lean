/-
**Machines that answer symbol by symbol.**

A server reads commands and replies to each of them, keeping a state, until a command comes that it
cannot survive.  Its run over a whole list is therefore a list of replies, the news whether it got
through the list, and a state.  The questions asked of such a run are few: how it splits at a point
of the list, when it gets through, and when every reply is as it should be.

Main definitions:

* `Transducer.Step` — one symbol: a reply or a breakdown, and the new state;
* `Transducer.run`, `Transducer.Run` — a run over a list;
* `Transducer.Always` — a condition that holds before every step of a run.

Main results:

* `Transducer.run_append` — a run over a concatenation;
* `Transducer.exists_served` — how far a run gets;
* `Transducer.completed_iff_always` — when a run gets through its list;
* `Transducer.forall₂_of_always` — **one reply for each symbol**;
* `Transducer.forall_outputs_iff`, `Transducer.forall₂_take_iff` — when every reply has a property.
-/

import Mathlib.Data.List.Forall2
import Mathlib.Data.Nat.Notation
import Mathlib.Data.UInt

set_option relaxedAutoImplicit false
set_option autoImplicit false

namespace Transducer

variable {α β σ : Type}

/-- The answer to one symbol; `none` is a breakdown. -/
abbrev Step (α β σ : Type) := α → σ → Option β × σ

/-- What comes of a run. -/
structure Run (β σ : Type) where
  outputs : List β
  /-- The run got through the whole list. -/
  completed : Bool
  state : σ

/-- **A run over a list** of symbols, up to the first breakdown. -/
def run (step : Step α β σ) : List α → σ → Run β σ
  | [], s => ⟨[], true, s⟩
  | a :: as, s =>
      match step a s with
      | (none, s') => ⟨[], false, s'⟩
      | (some b, s') =>
          let r := run step as s'
          ⟨b :: r.outputs, r.completed, r.state⟩

section Run

variable {step : Step α β σ}

@[simp] theorem run_nil (s : σ) : run step [] s = ⟨[], true, s⟩ := rfl

theorem run_cons_none {a : α} {s s' : σ} (h : step a s = (none, s')) (as : List α) :
    run step (a :: as) s = ⟨[], false, s'⟩ := by
  rw [run, h]

theorem run_cons_some {a : α} {b : β} {s s' : σ} (h : step a s = (some b, s')) (as : List α) :
    run step (a :: as) s =
      ⟨b :: (run step as s').outputs, (run step as s').completed, (run step as s').state⟩ := by
  rw [run, h]

/-- A run over a concatenation, when the first part gets through. -/
theorem run_append {as : List α} {s : σ} (h : (run step as s).completed = true) (bs : List α) :
    run step (as ++ bs) s =
      ⟨(run step as s).outputs ++ (run step bs (run step as s).state).outputs,
        (run step bs (run step as s).state).completed,
        (run step bs (run step as s).state).state⟩ := by
  induction as generalizing s with
  | nil => rfl
  | cons a as ih =>
      rcases hstep : step a s with ⟨_ | b, s'⟩
      · rw [run_cons_none hstep] at h
        cases h
      · rw [run_cons_some hstep] at h ⊢
        rw [List.cons_append, run_cons_some hstep, ih h]
        rfl

/-- A breakdown ends the run. -/
theorem run_append_of_not_completed {as : List α} {s : σ}
    (h : (run step as s).completed = false) (bs : List α) :
    run step (as ++ bs) s = run step as s := by
  induction as generalizing s with
  | nil => cases h
  | cons a as ih =>
      rcases hstep : step a s with ⟨_ | b, s'⟩
      · rw [List.cons_append, run_cons_none hstep, run_cons_none hstep]
      · rw [run_cons_some hstep] at h
        rw [List.cons_append, run_cons_some hstep, run_cons_some hstep, ih h]

/-- A run that gets through a list has got through its first part. -/
theorem completed_of_append {as bs : List α} {s : σ}
    (h : (run step (as ++ bs) s).completed = true) : (run step as s).completed = true := by
  by_contra hnot
  rw [Bool.not_eq_true] at hnot
  rw [run_append_of_not_completed hnot, hnot] at h
  cases h

/-- **The symbols of a run**: those replied to, one by one, and behind them the one it broke down
at. -/
theorem exists_served {R : α → β → Prop} (hR : ∀ a s b, (step a s).1 = some b → R a b)
    (as : List α) (s : σ) :
    ∃ done rest, as = done ++ rest ∧ List.Forall₂ R done (run step as s).outputs ∧
      ((run step as s).completed = true → rest = []) ∧
      ((run step as s).completed = false →
        ∃ bad rest' s', rest = bad :: rest' ∧ (step bad s').1 = none) := by
  induction as generalizing s with
  | nil =>
      refine ⟨[], [], rfl, .nil, fun _ => rfl, ?_⟩
      intro h
      cases h
  | cons a as ih =>
      rcases ha : step a s with ⟨_ | b, s'⟩
      · rw [run_cons_none ha]
        refine ⟨[], a :: as, rfl, .nil, ?_, fun _ => ⟨a, as, s, rfl, by rw [ha]⟩⟩
        intro h
        cases h
      · obtain ⟨done, rest, rfl, hserved, hall, hbad⟩ := ih s'
        rw [run_cons_some ha]
        exact ⟨a :: done, rest, rfl, .cons (hR a s b (by rw [ha])) hserved, hall, hbad⟩

/-- What every step preserves holds at the end of the run. -/
theorem run_inv {I : σ → Prop} {as : List α} {s : σ}
    (hstep : ∀ a ∈ as, ∀ s, I s → I (step a s).2) (hs : I s) : I (run step as s).state := by
  induction as generalizing s with
  | nil => exact hs
  | cons a as ih =>
      have hnext := hstep a (by simp) s hs
      rcases ha : step a s with ⟨_ | b, s'⟩
      · rw [ha] at hnext
        rw [run_cons_none ha]
        exact hnext
      · rw [ha] at hnext
        rw [run_cons_some ha]
        exact ih (fun a' ha' => hstep a' (by simp [ha'])) hnext

/-! ### Conditions along a run -/

/-- The condition holds before every step of the run. -/
def Always (step : Step α β σ) (P : α → σ → Prop) : List α → σ → Prop
  | [], _ => True
  | a :: as, s => P a s ∧ ((step a s).1.isSome = true → Always step P as (step a s).2)

/-- **A run gets through its list** exactly if every step replies. -/
theorem completed_iff_always {P : α → σ → Prop} {as : List α} {s : σ}
    (hP : ∀ a ∈ as, ∀ s, (step a s).1.isSome = true ↔ P a s) :
    (run step as s).completed = true ↔ Always step P as s := by
  induction as generalizing s with
  | nil => simp [Always]
  | cons a as ih =>
      have hrest := ih (s := (step a s).2) fun a' ha' => hP a' (by simp [ha'])
      rw [Always, ← hP a (by simp) s, ← hrest]
      rcases ha : step a s with ⟨_ | b, s'⟩
      · rw [run_cons_none ha]
        simp
      · rw [run_cons_some ha]
        simp

/-- **One reply for each symbol**, in order, of a run that gets through its list. -/
theorem forall₂_of_always {R : α → β → Prop} {P : α → σ → Prop} {as : List α} {s : σ}
    (hR : ∀ a ∈ as, ∀ s b, (step a s).1 = some b → P a s → R a b)
    (h : (run step as s).completed = true) (hP : Always step P as s) :
    List.Forall₂ R as (run step as s).outputs := by
  induction as generalizing s with
  | nil => exact List.Forall₂.nil
  | cons a as ih =>
      obtain ⟨ha, hnext⟩ := hP
      rcases hstep : step a s with ⟨_ | b, s'⟩
      · rw [run_cons_none hstep] at h
        cases h
      · rw [hstep] at hnext
        rw [run_cons_some hstep] at h ⊢
        exact List.Forall₂.cons (hR a (by simp) s b (by rw [hstep]) ha)
          (ih (fun a' ha' => hR a' (by simp [ha'])) h (hnext rfl))

/-- What the replies of a run say about its steps. -/
theorem always_of_forall₂ {R : α → β → Prop} {P : α → σ → Prop} {as : List α} {s : σ}
    (hP : ∀ a ∈ as, ∀ s b, (step a s).1 = some b → R a b → P a s)
    (h : List.Forall₂ R as (run step as s).outputs) : Always step P as s := by
  induction as generalizing s with
  | nil => trivial
  | cons a as ih =>
      rcases ha : step a s with ⟨_ | b, s'⟩
      · rw [run_cons_none ha] at h
        cases h
      · rw [run_cons_some ha, List.forall₂_cons] at h
        refine ⟨hP a (by simp) s b (by rw [ha]) h.1, fun _ => ?_⟩
        rw [ha]
        exact ih (fun a' ha' => hP a' (by simp [ha'])) h.2

theorem always_and {P Q : α → σ → Prop} {as : List α} {s : σ} :
    Always step (fun a s => P a s ∧ Q a s) as s ↔ Always step P as s ∧ Always step Q as s := by
  induction as generalizing s with
  | nil => simp [Always]
  | cons a as ih =>
      rw [Always, Always, Always, ih]
      tauto

/-- What holds of the reply to every symbol holds of the replies of a run. -/
theorem forall_outputs {Q : β → Prop} {as : List α} {s : σ}
    (hQ : ∀ a ∈ as, ∀ s b, (step a s).1 = some b → Q b) : ∀ b ∈ (run step as s).outputs, Q b := by
  induction as generalizing s with
  | nil => simp
  | cons a as ih =>
      rcases ha : step a s with ⟨_ | b, s'⟩
      · rw [run_cons_none ha]
        simp
      · rw [run_cons_some ha, List.forall_mem_cons]
        exact ⟨hQ a (by simp) s b (by rw [ha]), ih fun a' ha' => hQ a' (by simp [ha'])⟩

/-- **Every reply of a run has a property** exactly if every step of the run sees to it. -/
theorem forall_outputs_iff {Q : β → Prop} {P : α → σ → Prop} {as : List α} {s : σ}
    (hP : ∀ a ∈ as, ∀ s, P a s ↔ ∀ b, (step a s).1 = some b → Q b) :
    (∀ b ∈ (run step as s).outputs, Q b) ↔ Always step P as s := by
  induction as generalizing s with
  | nil => simp [Always]
  | cons a as ih =>
      have hrest := ih (s := (step a s).2) fun a' ha' => hP a' (by simp [ha'])
      rw [Always, hP a (by simp) s]
      rcases ha : step a s with ⟨_ | b, s'⟩
      · rw [run_cons_none ha]
        simp
      · rw [ha] at hrest
        rw [run_cons_some ha, ← hrest]
        simp

/-- **Every reply of a run is in a relation to its symbol** exactly if every step of the run sees to
it. -/
theorem forall₂_take_iff {R : α → β → Prop} {P : α → σ → Prop} {as : List α} {s : σ}
    (hP : ∀ a ∈ as, ∀ s, P a s ↔ ∀ b, (step a s).1 = some b → R a b) :
    List.Forall₂ R (as.take (run step as s).outputs.length) (run step as s).outputs ↔
      Always step P as s := by
  induction as generalizing s with
  | nil => simp [Always]
  | cons a as ih =>
      have hrest := ih (s := (step a s).2) fun a' ha' => hP a' (by simp [ha'])
      rw [Always, hP a (by simp) s]
      rcases ha : step a s with ⟨_ | b, s'⟩
      · rw [run_cons_none ha]
        simp
      · rw [ha] at hrest
        rw [run_cons_some ha, ← hrest]
        simp

end Run

end Transducer

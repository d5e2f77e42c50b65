/-
**Parties that take turns in any order.**

Several parties share a state and act on it in atomic steps, in whatever order the scheduler lets
them.  A schedule is the list of the steps taken; a step that is not possible in the state it meets
has no result, so that only the schedules that can happen have runs.  Two questions are asked here:
what holds after every schedule, and which steps are to blame if something does not.

Main definitions:

* `Schedule.Runs` — the schedule leads from one state to another;
* `Schedule.Throughout` — a property holds in every state that a schedule passes;
* `Schedule.EveryStep` — a condition holds of every step of a schedule, in the state it meets.

Main results:

* `Schedule.Runs.inv` — **what every step preserves holds after every schedule**;
* `Schedule.throughout_iff` — **a property holds throughout exactly if every step is innocent**, if
  an innocent step is one that keeps it.
-/

import Mathlib.Data.List.Induction

set_option relaxedAutoImplicit false
set_option autoImplicit false

namespace Schedule

variable {σ α : Type}

/-- **A schedule that leads from one state to another.** -/
inductive Runs (step : σ → α → Option σ) (s : σ) : List α → σ → Prop
  | nil : Runs step s [] s
  | snoc {as : List α} {a : α} {t t' : σ} (h : Runs step s as t) (hstep : step t a = some t') :
      Runs step s (as ++ [a]) t'

section Runs

variable {step : σ → α → Option σ} {s t t' : σ} {as : List α}

/-- A schedule that ends with a step has a run up to it. -/
theorem Runs.of_snoc {a : α} (h : Runs step s (as ++ [a]) t') :
    ∃ t, Runs step s as t ∧ step t a = some t' := by
  generalize hbs : as ++ [a] = bs at h
  cases h with
  | nil => simp at hbs
  | snoc h hstep =>
      obtain ⟨rfl, rfl⟩ := List.append_singleton_inj.1 hbs
      exact ⟨_, h, hstep⟩

/-- The steps of a schedule determine where it leads. -/
theorem Runs.unique (h : Runs step s as t) (h' : Runs step s as t') : t = t' := by
  induction h generalizing t' with
  | nil =>
      generalize hbs : ([] : List α) = bs at h'
      cases h' with
      | nil => rfl
      | snoc _ _ => simp at hbs
  | snoc _ hstep ih =>
      obtain ⟨u, hu, hstep'⟩ := h'.of_snoc
      obtain rfl := ih hu
      exact Option.some.inj (hstep.symm.trans hstep')

/-- A schedule is carried out step by step. -/
theorem Runs.of_foldlM (h : as.foldlM step s = some t) : Runs step s as t := by
  induction as using List.reverseRecOn generalizing t with
  | nil =>
      cases h
      exact .nil
  | append_singleton as a ih =>
      rw [List.foldlM_append, Option.bind_eq_bind, Option.bind_eq_some_iff] at h
      obtain ⟨u, hu, hstep⟩ := h
      rw [List.foldlM_cons, Option.bind_eq_bind, Option.bind_eq_some_iff] at hstep
      obtain ⟨v, hv, hnil⟩ := hstep
      cases hnil
      exact (ih hu).snoc hv

/-- A schedule is run step by step. -/
theorem Runs.foldlM_eq (h : Runs step s as t) : as.foldlM step s = some t := by
  induction h with
  | nil => rfl
  | snoc _ hstep ih =>
      rw [List.foldlM_append, ih]
      exact congrArg (· >>= pure) hstep

/-- **What every step preserves holds after every schedule.** -/
theorem Runs.inv {I : σ → Prop} (hpres : ∀ a t t', I t → step t a = some t' → I t') (hs : I s)
    (h : Runs step s as t) : I t := by
  induction h with
  | nil => exact hs
  | snoc _ hstep ih => exact hpres _ _ _ ih hstep

end Runs

section Blame

variable (step : σ → α → Option σ) (s : σ)

/-- **A property holds in every state that a schedule passes.** -/
def Throughout (P : σ → Prop) (as : List α) : Prop :=
  ∀ pre t, pre <+: as → Runs step s pre t → P t

/-- **A condition holds of every step of a schedule**, in the state that the step meets. -/
def EveryStep (G : σ → α → Prop) (as : List α) : Prop :=
  ∀ pre a t t', pre ++ [a] <+: as → Runs step s pre t → step t a = some t' → G t a

variable {step s}

/-- **A property holds throughout exactly if every step is innocent.**  It holds at the start, and a
step from a state in which it holds keeps it exactly if it is innocent; an invariant of the parties
may be used. -/
theorem throughout_iff {I P : σ → Prop} {G : σ → α → Prop}
    (hI : ∀ a t t', I t → step t a = some t' → I t')
    (hP : ∀ a t t', I t → P t → step t a = some t' → (P t' ↔ G t a)) (hIs : I s) (hPs : P s)
    (as : List α) : Throughout step s P as ↔ EveryStep step s G as := by
  constructor
  · intro h pre a t t' hpre hrun hstep
    have hpre' : pre <+: as := (List.prefix_append pre [a]).trans hpre
    exact (hP a t t' (hrun.inv hI hIs) (h pre t hpre' hrun) hstep).1 (h _ t' hpre (hrun.snoc hstep))
  · intro h pre t hpre hrun
    induction hrun with
    | nil => exact hPs
    | snoc hrun hstep ih =>
        have hP' := ih ((List.prefix_append _ _).trans hpre)
        exact (hP _ _ _ (hrun.inv hI hIs) hP' hstep).2 (h _ _ _ _ hpre hrun hstep)

end Blame

end Schedule

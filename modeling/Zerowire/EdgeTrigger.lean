/-
**Edges and levels.**

An input device can be described by levels, the keys that are down right now, or by edges, the keys
that have just gone down or up.  A translator from levels to edges keeps the last levels it has seen
and reports the differences.  What can go wrong is a missed edge, which leaves a key stuck for ever,
or an edge reported twice.  Both are questions about a single key, and a single round: this module
states what a round must report (`EdgeTrigger.Follows`, `EdgeTrigger.Edge`), and derives that after
any number of rounds the last edge tells the level.

One key is looked at through a function `read`, which says what an event tells about it, if
anything.

Main definitions:

* `EdgeTrigger.values`, `EdgeTrigger.level` — what a sequence of events says about the key, and how
  it leaves it;
* `EdgeTrigger.Follows`, `EdgeTrigger.Edge` — the events of a round tell the change of the level,
  and do so once;
* `EdgeTrigger.Alternates` — no value is reported twice in a row;
* `EdgeTrigger.run` — the rounds of a translator.

Main results:

* `EdgeTrigger.level_run` — **the last edge tells the level**, after every run;
* `EdgeTrigger.alternates_run` — **the edges alternate**.
-/

import Mathlib.Data.List.Basic
import Mathlib.Data.List.Chain
import Mathlib.Data.Nat.Notation
import Mathlib.Data.UInt

set_option relaxedAutoImplicit false
set_option autoImplicit false

namespace EdgeTrigger

variable {ε ν σ ι : Type}

/-- What the events say about the key, in their order. -/
def values (read : ε → Option ν) (es : List ε) : List ν := es.filterMap read

/-- How the events leave the key: the value said last, `rest` if there is none. -/
def level (read : ε → Option ν) (rest : ν) (es : List ε) : ν := (values read es).getLast?.getD rest

/-- The events of a round tell the change of a level from `was` to `now`: they say nothing but
`now`, and they say it if there is a change. -/
structure Follows (read : ε → Option ν) (es : List ε) (was now : ν) : Prop where
  eq_now : ∀ v ∈ values read es, v = now
  eq_was : values read es = [] → was = now

/-- The events of a round tell a change exactly once. -/
def Edge [DecidableEq ν] (read : ε → Option ν) (es : List ε) (was now : ν) : Prop :=
  values read es = if was = now then [] else [now]

/-- Starting from `rest`, no value is said twice in a row. -/
def Alternates (read : ε → Option ν) (rest : ν) (es : List ε) : Prop :=
  List.IsChain (· ≠ ·) (rest :: values read es)

variable {read : ε → Option ν} {rest was now : ν} {es es' : List ε}

theorem values_append : values read (es ++ es') = values read es ++ values read es' :=
  List.filterMap_append

theorem mem_values {v : ν} : v ∈ values read es ↔ ∃ e ∈ es, read e = some v := List.mem_filterMap

/-- Events that say nothing about the key leave it as it is. -/
theorem Follows.of_silent (h : ∀ e ∈ es, read e = none) : Follows read es was was where
  eq_now v hv := by
    obtain ⟨e, he, hread⟩ := mem_values.1 hv
    rw [h e he] at hread
    cases hread
  eq_was _ := rfl

theorem Follows.nil : Follows read [] was was := .of_silent (by simp)

theorem values_eq_nil (h : ∀ e ∈ es, read e = none) : values read es = [] :=
  List.filterMap_eq_nil_iff.2 h

/-- Only what the events say about the key matters. -/
theorem Follows.congr (h : values read es = values read es') (hf : Follows read es' was now) :
    Follows read es was now :=
  ⟨by rw [h]; exact hf.eq_now, by rw [h]; exact hf.eq_was⟩

theorem Edge.follows [DecidableEq ν] (h : Edge read es was now) : Follows read es was now := by
  rw [Edge] at h
  split_ifs at h with heq
  · exact ⟨by simp [h], fun _ => heq⟩
  · exact ⟨by simp [h], by simp [h]⟩

/-- A round that follows the level leaves the key at the new level. -/
theorem Follows.level_append (h : Follows read es' was now) (hwas : level read rest es = was) :
    level read rest (es ++ es') = now := by
  rw [level, values_append]
  rcases List.eq_nil_or_concat (values read es') with hnil | ⟨vs, v, hv⟩
  · rw [hnil, List.append_nil, ← h.eq_was hnil]
    exact hwas
  · rw [List.concat_eq_append] at hv
    rw [hv, ← List.append_assoc, List.getLast?_concat, Option.getD_some]
    exact h.eq_now v (by simp [hv])

/-- A round that tells a change once keeps the values alternating. -/
theorem Edge.alternates_append [DecidableEq ν] (h : Edge read es' was now)
    (hwas : level read rest es = was) (halt : Alternates read rest es) :
    Alternates read rest (es ++ es') := by
  rw [Alternates, values_append, h]
  split_ifs with heq
  · rwa [List.append_nil]
  · rw [← List.cons_append, List.isChain_append]
    refine ⟨halt, List.isChain_singleton _, ?_⟩
    intro v hv w hw
    obtain rfl : now = w := by simpa using hw
    have hlast : v = level read rest es := by
      rw [List.getLast?_cons, Option.mem_some_iff] at hv
      exact hv.symm
    rw [hlast, hwas]
    exact heq

/-! ### Runs -/

/-- The rounds of a translator: the events of all of them, and the state it is left in. -/
def run (step : σ → ι → List ε × σ) : σ → List ι → List ε × σ
  | s, [] => ([], s)
  | s, i :: is =>
      let r := step s i
      let t := run step r.2 is
      (r.1 ++ t.1, t.2)

variable {step : σ → ι → List ε × σ} {out : σ → ν}

theorem run_concat (s : σ) (is : List ι) (i : ι) :
    run step s (is ++ [i]) =
      ((run step s is).1 ++ (step (run step s is).2 i).1, (step (run step s is).2 i).2) := by
  induction is generalizing s with
  | nil => simp [run]
  | cons j is ih => simp [run, ih]

/-- **The last edge tells the level**: if every round follows the level that the state stands for,
then so does every run from a state at rest. -/
theorem level_run (h : ∀ s i, Follows read (step s i).1 (out s) (out (step s i).2)) {s : σ}
    (hs : out s = rest) (is : List ι) :
    level read rest (run step s is).1 = out (run step s is).2 := by
  induction is using List.reverseRecOn with
  | nil => exact hs.symm
  | append_singleton is i ih =>
      rw [run_concat]
      exact (h _ i).level_append ih

/-- **The edges alternate** if every round tells a change once. -/
theorem alternates_run [DecidableEq ν] (h : ∀ s i, Edge read (step s i).1 (out s) (out (step s i).2))
    {s : σ} (hs : out s = rest) (is : List ι) : Alternates read rest (run step s is).1 := by
  induction is using List.reverseRecOn with
  | nil => exact List.isChain_singleton _
  | append_singleton is i ih =>
      rw [run_concat]
      exact (h _ i).alternates_append (level_run (fun s i => (h s i).follows) hs is) ih

end EdgeTrigger

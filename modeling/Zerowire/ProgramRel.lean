/-
**Programs that do the same up to their errors, and programs with one loop.**

Two programs over the same stream and surroundings do the same if they ask and write the same things
in the same order, whatever they are answered, and their results are related.  That is a relation
between the trees, so it says something about every way to run them, and about the closed runs of
`Zerowire/Program.lean` in particular.  Results that can go wrong are compared up to the error: both
return a value, both return an error, or both panic.

Most programs here have one loop: a beginning, which may already be the end, a body that is
repeated, and something that is done when the loop has ended.

Main definitions:

* `Program.Prog.Rel` — a relation between results, lifted to programs;
* `Program.SameOutcome`, `Program.Alike` — the same up to the errors;
* `Program.Looped`, `Program.Looped.exec` — a program with one loop, and its closed run.

Main results:

* `Program.Prog.Rel.bind`, `Program.Alike.bind` — sequences of programs that do the same do the
  same;
* `Program.Looped.Alike.exec` — **the runs of programs that do the same are the same**;
* `Program.exec_behind` — what has been written before makes no difference;
* `Program.loop_total`, `Program.Looped.exec_total` — a loop ends if every round that goes on reads
  something.
-/

import Zerowire.Bytes
import Zerowire.Program

set_option relaxedAutoImplicit false
set_option autoImplicit false

namespace Program

open Bytes

variable {X : Sig} {τ α α' β β' γ γ' δ δ' ε ε' : Type}

/-! ### Programs that do the same -/

/-- Both programs do the same, with related results. -/
inductive Prog.Rel (R : α → α' → Prop) : Prog X α → Prog X α' → Prop
  | ret {a : α} {a' : α'} (h : R a a') : Prog.Rel R (.ret a) (.ret a')
  | readExact (n : ℕ) {k : Option (List UInt8) → Prog X α} {k' : Option (List UInt8) → Prog X α'}
      (h : ∀ r, Prog.Rel R (k r) (k' r)) : Prog.Rel R (.readExact n k) (.readExact n k')
  | read (n : ℕ) {k : Option (List UInt8) → Prog X α} {k' : Option (List UInt8) → Prog X α'}
      (h : ∀ r, Prog.Rel R (k r) (k' r)) : Prog.Rel R (.read n k) (.read n k')
  | writeAll (bs : List UInt8) {k : Bool → Prog X α} {k' : Bool → Prog X α'}
      (h : ∀ r, Prog.Rel R (k r) (k' r)) : Prog.Rel R (.writeAll bs k) (.writeAll bs k')
  | call (o : X.Op) {k : X.Ans o → Prog X α} {k' : X.Ans o → Prog X α'}
      (h : ∀ r, Prog.Rel R (k r) (k' r)) : Prog.Rel R (.call o k) (.call o k')

namespace Prog.Rel

/-- A program does the same as itself. -/
theorem refl {R : α → α → Prop} (hR : ∀ a, R a a) (p : Prog X α) : Prog.Rel R p p := by
  induction p with
  | ret a => exact .ret (hR a)
  | readExact n k ih => exact .readExact n ih
  | read n k ih => exact .read n ih
  | writeAll bs k ih => exact .writeAll bs ih
  | call o k ih => exact .call o ih

/-- **Sequences of programs that do the same do the same.** -/
theorem bind {R : α → α' → Prop} {S : β → β' → Prop} {p : Prog X α} {p' : Prog X α'}
    {f : α → Prog X β} {f' : α' → Prog X β'} (hp : Prog.Rel R p p')
    (hf : ∀ a a', R a a' → Prog.Rel S (f a) (f' a')) : Prog.Rel S (p >>= f) (p' >>= f') := by
  induction hp with
  | ret h => exact hf _ _ h
  | readExact n _ ih => exact .readExact n ih
  | read n _ ih => exact .read n ih
  | writeAll bs _ ih => exact .writeAll bs ih
  | call o _ ih => exact .call o ih

/-- Closed runs of programs that do the same end in the same state, with related results. -/
theorem run {R : α → α' → Prop} {p : Prog X α} {p' : Prog X α'} (hp : Prog.Rel R p p')
    (env : Env X τ) (s : Io τ) :
    R (p.run env s).1 (p'.run env s).1 ∧ (p.run env s).2 = (p'.run env s).2 := by
  induction hp generalizing s with
  | ret h => exact ⟨h, rfl⟩
  | readExact n _ ih =>
      rw [Prog.run, Prog.run]
      split
      · exact ih _ _
      · exact ih _ _
  | read n _ ih =>
      rw [Prog.run, Prog.run]
      split
      · exact ih _ _
      · exact ih _ _
  | writeAll bs _ ih => exact ih _ _
  | call o _ ih => exact ih _ _

end Prog.Rel

/-! ### The same up to the errors -/

/-- Both results are values that are related, or both are errors, or both are panics. -/
inductive SameOutcome (R : α → α' → Prop) : Except (Fault ε) α → Except (Fault ε') α' → Prop
  | ok {a : α} {a' : α'} (h : R a a') : SameOutcome R (.ok a) (.ok a')
  | err (e : ε) (e' : ε') : SameOutcome R (.error (.err e)) (.error (.err e'))
  | panic : SameOutcome R (.error .panic) (.error .panic)

/-- Renaming the errors makes no difference. -/
theorem SameOutcome.mapError {R : α → α' → Prop} {η η' : Type} {r : Except (Fault ε) α}
    {r' : Except (Fault ε') α'} (h : SameOutcome R r r') (f : ε → η) (f' : ε' → η') :
    SameOutcome R (r.mapError (Fault.map f)) (r'.mapError (Fault.map f')) := by
  cases h with
  | ok h => exact .ok h
  | err e e' => exact .err _ _
  | panic => exact .panic

/-- A result is the same as itself. -/
theorem SameOutcome.refl {R : α → α → Prop} (hR : ∀ a, R a a) (r : Except (Fault ε) α) :
    SameOutcome R r r := by
  rcases r with (e | _) | a
  · exact .err e e
  · exact .panic
  · exact .ok (hR a)

/-- Both programs do the same, and have the same outcome. -/
def Alike (R : α → α' → Prop) (p : Act X (Fault ε) α) (p' : Act X (Fault ε') α') : Prop :=
  Prog.Rel (SameOutcome R) p.run p'.run

namespace Alike

theorem pure {R : α → α' → Prop} {a : α} {a' : α'} (h : R a a') :
    Alike R (pure a : Act X (Fault ε) α) (pure a' : Act X (Fault ε') α') := .ret (.ok h)

theorem throw {R : α → α' → Prop} (e : ε) (e' : ε') :
    Alike R (throw (.err e) : Act X (Fault ε) α) (throw (.err e') : Act X (Fault ε') α') :=
  .ret (.err e e')

theorem ofResult {R : α → α' → Prop} {r : Except (Fault ε) α} {r' : Except (Fault ε') α'}
    (h : SameOutcome R r r') :
    Alike R (ofResult r : Act X (Fault ε) α) (Program.ofResult r' : Act X (Fault ε') α') := .ret h

/-- The same program, used where errors are of another type. -/
theorem lift (p : Prog X α) :
    Alike Eq (ExceptT.lift p : Act X (Fault ε) α) (ExceptT.lift p : Act X (Fault ε') α) := by
  refine Prog.Rel.bind (Prog.Rel.refl (R := Eq) (fun _ => rfl) p) ?_
  rintro a _ rfl
  exact .ret (.ok rfl)

theorem refl {R : α → α → Prop} (hR : ∀ a, R a a) (p : Act X (Fault ε) α) : Alike R p p :=
  Prog.Rel.refl (SameOutcome.refl hR) p.run

/-- **Sequences of programs that do the same do the same.** -/
theorem bind {R : α → α' → Prop} {S : β → β' → Prop} {p : Act X (Fault ε) α}
    {p' : Act X (Fault ε') α'} {f : α → Act X (Fault ε) β} {f' : α' → Act X (Fault ε') β'}
    (hp : Alike R p p') (hf : ∀ a a', R a a' → Alike S (f a) (f' a')) :
    Alike S (p >>= f) (p' >>= f') := by
  refine Prog.Rel.bind hp ?_
  rintro r r' (h | ⟨e, e'⟩ | _)
  · exact hf _ _ h
  · exact .ret (.err e e')
  · exact .ret .panic

/-- The same, where the first parts have equal values. -/
theorem bind_eq {S : β → β' → Prop} {p : Act X (Fault ε) α} {p' : Act X (Fault ε') α}
    {f : α → Act X (Fault ε) β} {f' : α → Act X (Fault ε') β'} (hp : Alike Eq p p')
    (hf : ∀ a, Alike S (f a) (f' a)) : Alike S (p >>= f) (p' >>= f') := by
  refine bind hp ?_
  rintro a _ rfl
  exact hf a

theorem mapErr {R : α → α' → Prop} {η η' : Type} {p : Act X (Fault ε) α}
    {p' : Act X (Fault ε') α'} (hp : Alike R p p') (f : ε → η) (f' : ε' → η') :
    Alike R (mapErr (Fault.map f) p) (Program.mapErr (Fault.map f') p') :=
  Prog.Rel.bind hp fun _ _ h => .ret (h.mapError f f')

theorem ite {R : α → α' → Prop} {c : Prop} [Decidable c] {p q : Act X (Fault ε) α}
    {p' q' : Act X (Fault ε') α'} (hp : Alike R p p') (hq : Alike R q q') :
    Alike R (if c then p else q) (if c then p' else q') := by
  split
  · exact hp
  · exact hq

/-- Closed runs of programs that do the same end in the same state, with the same outcome. -/
theorem exec {R : α → α' → Prop} {p : Act X (Fault ε) α} {p' : Act X (Fault ε') α'}
    (hp : Alike R p p') (env : Env X τ) (s : Io τ) :
    SameOutcome R (exec env p s).1 (Program.exec env p' s).1 ∧
      (Program.exec env p s).2 = (Program.exec env p' s).2 :=
  Prog.Rel.run hp env s

theorem exec_ok {p : Act X (Fault ε) α} {p' : Act X (Fault ε') α} (hp : Alike Eq p p')
    {env : Env X τ} {s s' : Io τ} {a : α} (h : Program.exec env p s = (.ok a, s')) :
    Program.exec env p' s = (.ok a, s') := by
  obtain ⟨hres, hio⟩ := hp.exec env s
  rcases hx : Program.exec env p' s with ⟨r', t⟩
  rw [h, hx] at hres hio
  obtain rfl : s' = t := hio
  cases hres with
  | ok h => rw [h]

theorem exec_error {R : α → α' → Prop} {p : Act X (Fault ε) α} {p' : Act X (Fault ε') α'}
    (hp : Alike R p p') {env : Env X τ} {s s' : Io τ} {e : Fault ε}
    (h : Program.exec env p s = (.error e, s')) :
    ∃ e', Program.exec env p' s = (.error e', s') := by
  obtain ⟨hres, hio⟩ := hp.exec env s
  rcases hx : Program.exec env p' s with ⟨r', t⟩
  rw [h, hx] at hres hio
  obtain rfl : s' = t := hio
  cases hres with
  | err e e' => exact ⟨_, rfl⟩
  | panic => exact ⟨_, rfl⟩

end Alike

/-! ### Loops -/

/-- Both runs have not ended, or they have ended in the same state with the same outcome. -/
def SameRun (r : Option (Except (Fault ε) γ × Io τ)) (r' : Option (Except (Fault ε') γ × Io τ)) :
    Prop :=
  Option.Rel (fun x y => SameOutcome Eq x.1 y.1 ∧ x.2 = y.2) r r'

/-- Loops with bodies that do the same run alike. -/
theorem loop_alike {body : β → Act X (Fault ε) (β ⊕ γ)} {body' : β → Act X (Fault ε') (β ⊕ γ)}
    (h : ∀ b, Alike Eq (body b) (body' b)) (env : Env X τ) (fuel : ℕ) (b : β) (s : Io τ) :
    SameRun (loop env (rounds body) fuel b s) (loop env (rounds body') fuel b s) := by
  induction fuel generalizing b s with
  | zero => exact .none
  | succ fuel ih =>
      obtain ⟨hres, hio⟩ := (h b).exec env s
      rcases hx : exec env (body b) s with ⟨r, t⟩
      rcases hx' : exec env (body' b) s with ⟨r', t'⟩
      rw [hx, hx'] at hres hio
      obtain rfl : t = t' := hio
      cases hres with
      | err e e' =>
          rw [loop_rounds_error hx, loop_rounds_error hx']
          exact .some ⟨.err e e', rfl⟩
      | panic =>
          rw [loop_rounds_error hx, loop_rounds_error hx']
          exact .some ⟨.panic, rfl⟩
      | @ok a a' hval =>
          obtain rfl : a = a' := hval
          rcases a with b' | c
          · rw [loop_rounds_inl hx, loop_rounds_inl hx']
            exact ih b' t
          · rw [loop_rounds_inr hx, loop_rounds_inr hx']
            exact .some ⟨.ok rfl, rfl⟩

/-- **A loop ends** if every round that goes on reads something. -/
theorem loop_total {env : Env X τ} {body : β → Prog X (β ⊕ γ)}
    (h : ∀ b s b' s', (body b).run env s = (.inl b', s') → s'.input.length < s.input.length)
    (fuel : ℕ) (b : β) (s : Io τ) (hfuel : s.input.length < fuel) :
    ∃ r, loop env body fuel b s = some r := by
  induction fuel generalizing b s with
  | zero => omega
  | succ fuel ih =>
      rcases hb : (body b).run env s with ⟨b' | c, s'⟩
      · have hlen := h b s b' s' hb
        rw [loop_inl hb]
        exact ih b' s' (by omega)
      · exact ⟨(c, s'), loop_inr hb⟩

/-- Nothing is put back into the stream. -/
theorem run_input_le (env : Env X τ) (p : Prog X α) (s : Io τ) :
    (p.run env s).2.input.length ≤ s.input.length := by
  induction p generalizing s with
  | ret a => exact Nat.le_refl _
  | readExact n k ih =>
      rw [Prog.run]
      split
      · exact Nat.le_trans (ih _ _) (by rw [List.length_drop]; exact Nat.sub_le _ _)
      · exact Nat.le_trans (ih _ _) (Nat.zero_le _)
  | read n k ih =>
      rw [Prog.run]
      split
      · exact ih _ _
      · exact Nat.le_trans (ih _ _) (by rw [List.length_drop]; exact Nat.sub_le _ _)
  | writeAll bs k ih => exact ih _ _
  | call o k ih => exact ih _ _

/-! ### What has been written before -/

/-- The same state, with something written before. -/
def Io.behind (o : List UInt8) (s : Io τ) : Io τ := { s with output := o ++ s.output }

@[simp] theorem Io.behind_input (o : List UInt8) (s : Io τ) : (s.behind o).input = s.input := rfl

@[simp] theorem Io.behind_env (o : List UInt8) (s : Io τ) : (s.behind o).env = s.env := rfl

@[simp] theorem Io.behind_output (o : List UInt8) (s : Io τ) :
    (s.behind o).output = o ++ s.output := rfl

/-- **What has been written before makes no difference.** -/
theorem run_behind (env : Env X τ) (p : Prog X α) (o : List UInt8) (s : Io τ) :
    p.run env (s.behind o) = ((p.run env s).1, (p.run env s).2.behind o) := by
  induction p generalizing s with
  | ret a => rfl
  | readExact n k ih =>
      rw [Prog.run, Prog.run, Io.behind_input]
      split
      · exact ih _ { s with input := s.input.drop n }
      · exact ih _ { s with input := [] }
  | read n k ih =>
      rw [Prog.run, Prog.run, Io.behind_input]
      split
      · exact ih _ s
      · exact ih _ { s with
          input := s.input.drop (pieceSize s.chunks n)
          chunks := s.chunks.tail }
  | writeAll bs k ih =>
      have h : (s.behind o).output ++ bs = o ++ (s.output ++ bs) := List.append_assoc _ _ _
      rw [Prog.run, Prog.run, h]
      exact ih _ { s with output := s.output ++ bs }
  | call c k ih => exact ih _ { s with env := (env c s.env).2 }

theorem exec_behind (env : Env X τ) (p : Act X ε α) (o : List UInt8) (s : Io τ) :
    exec env p (s.behind o) = ((exec env p s).1, (exec env p s).2.behind o) :=
  run_behind env p.run o s

/-! ### What a run leaves, and what it has written -/

/-- What has been written stays written. -/
theorem run_output_extends (env : Env X τ) (p : Prog X α) (s : Io τ) :
    s.output <+: (p.run env s).2.output := by
  have h := run_behind env p s.output { s with output := [] }
  have hs : Io.behind s.output { s with output := [] } = s := by
    rw [Io.behind, List.append_nil]
  rw [hs] at h
  rw [h]
  exact List.prefix_append _ _

/-- What the first part of a sequence writes is written first. -/
theorem exec_bind_output_extends (env : Env X τ) (p : Act X ε α) (f : α → Act X ε β) (s : Io τ) :
    (exec env p s).2.output <+: (exec env (p >>= f) s).2.output := by
  rcases h : exec env p s with ⟨e | a, s'⟩
  · exact ⟨[], by rw [exec_bind_error h, List.append_nil]⟩
  · rw [exec_bind_ok h]
    exact run_output_extends env (f a).run s'

/-- A sequence writes something if its first part does. -/
theorem exec_bind_writes {env : Env X τ} {p : Act X ε α} {s : Io τ}
    (h : s.output.length < (exec env p s).2.output.length) (f : α → Act X ε β) :
    s.output.length < (exec env (p >>= f) s).2.output.length :=
  Nat.lt_of_lt_of_le h (exec_bind_output_extends env p f s).length_le

/-! ### Renamed errors -/

/-- Errors that are renamed twice. -/
theorem mapErr_mapErr {ε' ε'' : Type} (g : ε' → ε'') (f : ε → ε') (p : Act X ε α) :
    mapErr g (mapErr f p) = mapErr (fun e => g (f e)) p := by
  refine ExceptT.ext ?_
  rw [mapErr, mapErr, mapErr, ExceptT.run_mk, ExceptT.run_mk, ExceptT.run_mk, Prog.bind_assoc]
  refine congrArg (p.run >>= ·) (funext fun r => ?_)
  cases r with
  | ok a => rfl
  | error e => rfl

/-- The errors of a sequence are renamed in its parts. -/
theorem mapErr_bind {ε' : Type} (g : ε → ε') (p : Act X ε α) (f : α → Act X ε β) :
    mapErr g (p >>= f) = mapErr g p >>= fun a => mapErr g (f a) := by
  refine ExceptT.ext ?_
  rw [ExceptT.run_bind, mapErr, mapErr, ExceptT.run_mk, ExceptT.run_mk, ExceptT.run_bind,
    Prog.bind_assoc, Prog.bind_assoc]
  refine congrArg (p.run >>= ·) (funext fun r => ?_)
  cases r with
  | ok a => rfl
  | error e => rfl

theorem exec_mapErr_ok {env : Env X τ} {p : Act X ε α} {s s' : Io τ} {a : α}
    (h : exec env p s = (.ok a, s')) (f : ε → ε') : exec env (mapErr f p) s = (.ok a, s') := by
  rw [exec_mapErr, h]
  rfl

theorem exec_mapErr_error {env : Env X τ} {p : Act X ε α} {s s' : Io τ} {e : ε}
    (h : exec env p s = (.error e, s')) (f : ε → ε') :
    exec env (mapErr f p) s = (.error (f e), s') := by
  rw [exec_mapErr, h]
  rfl

/-! ### Programs with one loop -/

/-- A program with one loop.  The beginning may end the loop before its first round. -/
structure Looped (X : Sig) (ε β γ δ : Type) where
  start : Act X ε (β ⊕ γ)
  round : β → Act X ε (β ⊕ γ)
  finish : γ → Act X ε δ

namespace Looped

/-- What is done when the loop has ended. -/
def closing (p : Looped X ε β γ δ) (env : Env X τ) :
    Except ε γ × Io τ → Except ε δ × Io τ
  | (.ok c, s) => exec env (p.finish c) s
  | (.error e, s) => (.error e, s)

/-- The closed run; `none` says that the fuel of the loop ran out. -/
def exec (p : Looped X ε β γ δ) (env : Env X τ) (fuel : ℕ) (s : Io τ) :
    Option (Except ε δ × Io τ) :=
  match Program.exec env p.start s with
  | (.error e, s') => some (.error e, s')
  | (.ok (.inr c), s') => some (p.closing env (.ok c, s'))
  | (.ok (.inl b), s') => (loop env (rounds p.round) fuel b s').map (p.closing env)

theorem exec_of_error {p : Looped X ε β γ δ} {env : Env X τ} {s s' : Io τ} {e : ε}
    (h : Program.exec env p.start s = (.error e, s')) (fuel : ℕ) :
    p.exec env fuel s = some (.error e, s') := by
  rw [exec, h]

theorem exec_of_inr {p : Looped X ε β γ δ} {env : Env X τ} {s s' : Io τ} {c : γ}
    (h : Program.exec env p.start s = (.ok (.inr c), s')) (fuel : ℕ) :
    p.exec env fuel s = some (Program.exec env (p.finish c) s') := by
  rw [exec, h]
  rfl

theorem exec_of_inl {p : Looped X ε β γ δ} {env : Env X τ} {s s' : Io τ} {b : β}
    (h : Program.exec env p.start s = (.ok (.inl b), s')) (fuel : ℕ) :
    p.exec env fuel s = (loop env (rounds p.round) fuel b s').map (p.closing env) := by
  rw [exec, h]

/-- Every phase of the two programs does the same. -/
structure Alike (p : Looped X (Fault ε) β γ δ) (p' : Looped X (Fault ε') β γ δ) : Prop where
  start : Program.Alike Eq p.start p'.start
  round : ∀ b, Program.Alike Eq (p.round b) (p'.round b)
  finish : ∀ c, Program.Alike Eq (p.finish c) (p'.finish c)

/-- What is done after loops that have run alike. -/
theorem Alike.closing {p : Looped X (Fault ε) β γ δ} {p' : Looped X (Fault ε') β γ δ}
    (h : Alike p p') (env : Env X τ) {x : Except (Fault ε) γ × Io τ}
    {y : Except (Fault ε') γ × Io τ} (hres : SameOutcome Eq x.1 y.1) (hio : x.2 = y.2) :
    SameOutcome Eq (p.closing env x).1 (p'.closing env y).1 ∧
      (p.closing env x).2 = (p'.closing env y).2 := by
  obtain ⟨r, t⟩ := x
  obtain ⟨r', t'⟩ := y
  obtain rfl : t = t' := hio
  cases hres with
  | err e e' => exact ⟨.err e e', rfl⟩
  | panic => exact ⟨.panic, rfl⟩
  | @ok c c' hval =>
      obtain rfl : c = c' := hval
      exact (h.finish c).exec env t

/-- **The runs of programs that do the same are the same.** -/
theorem Alike.exec {p : Looped X (Fault ε) β γ δ} {p' : Looped X (Fault ε') β γ δ}
    (h : Alike p p') (env : Env X τ) (fuel : ℕ) (s : Io τ) :
    SameRun (p.exec env fuel s) (p'.exec env fuel s) := by
  obtain ⟨hres, hio⟩ := h.start.exec env s
  rcases hx : Program.exec env p.start s with ⟨r, t⟩
  rcases hx' : Program.exec env p'.start s with ⟨r', t'⟩
  rw [hx, hx'] at hres hio
  obtain rfl : t = t' := hio
  -- both fail before the loop, or both enter it in the same state, or neither does
  cases hres with
  | err e e' =>
      rw [exec_of_error hx, exec_of_error hx']
      exact .some ⟨.err e e', rfl⟩
  | panic =>
      rw [exec_of_error hx, exec_of_error hx']
      exact .some ⟨.panic, rfl⟩
  | @ok a a' hval =>
      obtain rfl : a = a' := hval
      rcases a with b | c
      · rw [exec_of_inl hx, exec_of_inl hx']
        -- fuel for fuel, the one loop ends where the other one does
        have hloop := loop_alike h.round env fuel b t
        rcases hl : loop env (rounds p.round) fuel b t with _ | x
        · rw [hl] at hloop
          cases hr : loop env (rounds p'.round) fuel b t with
          | none => exact .none
          | some y =>
              rw [hr] at hloop
              cases hloop
        · rw [hl] at hloop
          cases hr : loop env (rounds p'.round) fuel b t with
          | none =>
              rw [hr] at hloop
              cases hloop
          | some y =>
              rw [hr] at hloop
              obtain ⟨hres, hio⟩ : SameOutcome Eq x.1 y.1 ∧ x.2 = y.2 := by
                cases hloop with
                | some h => exact h
              exact .some (h.closing env hres hio)
      · rw [exec_of_inr hx, exec_of_inr hx']
        exact .some ((h.finish c).exec env t)

/-- A run that has ended ends the same way with more fuel. -/
theorem exec_mono {p : Looped X ε β γ δ} {env : Env X τ} {fuel fuel' : ℕ} {s : Io τ}
    {r : Except ε δ × Io τ} (hle : fuel ≤ fuel') (h : p.exec env fuel s = some r) :
    p.exec env fuel' s = some r := by
  rcases hx : Program.exec env p.start s with ⟨e | b | c, s'⟩
  · rw [exec_of_error hx] at h ⊢
    exact h
  · rw [exec_of_inl hx] at h ⊢
    obtain ⟨x, hloop, hclose⟩ := Option.map_eq_some_iff.1 h
    rw [loop_mono hle hloop, Option.map_some, hclose]
  · rw [exec_of_inr hx] at h ⊢
    exact h

/-- **A program with one loop ends** if every round that goes on reads something. -/
theorem exec_total {p : Looped X ε β γ δ} {env : Env X τ}
    (h : ∀ b s b' s', Program.exec env (p.round b) s = (.ok (.inl b'), s') →
      s'.input.length < s.input.length) (s : Io τ) :
    ∃ r, ∀ fuel, s.input.length < fuel → p.exec env fuel s = some r := by
  have hle := run_input_le env p.start.run s
  rcases hx : Program.exec env p.start s with ⟨e | b | c, s'⟩
  · exact ⟨_, fun fuel _ => exec_of_error hx fuel⟩
  · have hbody : ∀ b s b' s', (rounds p.round b).run env s = (.inl b', s') →
        s'.input.length < s.input.length := by
      intro b s b' s' hb
      rw [run_rounds] at hb
      rcases hr : Program.exec env (p.round b) s with ⟨e | b₁ | c, s₁⟩
      · rw [hr] at hb
        cases hb
      · rw [hr] at hb
        cases hb
        exact h b s b' s' hr
      · rw [hr] at hb
        cases hb
    obtain ⟨r, hr⟩ := loop_total hbody (s'.input.length + 1) b s' (Nat.lt_succ_self _)
    have hle' : s'.input.length ≤ s.input.length := by
      rw [← Program.exec, hx] at hle
      exact hle
    refine ⟨p.closing env r, fun fuel hfuel => ?_⟩
    rw [exec_of_inl hx, loop_mono (by omega) hr]
    rfl
  · exact ⟨_, fun fuel _ => exec_of_inr hx fuel⟩

/-- **Programs that do the same end together**, with the same outcome and in the same state, if
every round of the first that goes on reads something. -/
theorem Alike.exec_total {p : Looped X (Fault ε) β γ δ} {p' : Looped X (Fault ε') β γ δ}
    (halike : Alike p p') {env : Env X τ}
    (h : ∀ b s b' s', Program.exec env (p.round b) s = (.ok (.inl b'), s') →
      s'.input.length < s.input.length) (s : Io τ) :
    ∃ r r' t, SameOutcome Eq r r' ∧ ∀ fuel, s.input.length < fuel →
      p.exec env fuel s = some (r, t) ∧ p'.exec env fuel s = some (r', t) := by
  obtain ⟨⟨r, t⟩, hr⟩ := Looped.exec_total h s
  have hrun := halike.exec env (s.input.length + 1) s
  rw [hr _ (Nat.lt_succ_self _)] at hrun
  rcases hx : p'.exec env (s.input.length + 1) s with _ | ⟨r', t'⟩
  · rw [hx] at hrun
    cases hrun
  · rw [hx] at hrun
    obtain ⟨hres, hio⟩ : SameOutcome Eq r r' ∧ t = t' := by
      cases hrun with
      | some h => exact h
    subst hio
    exact ⟨r, r', t, hres, fun fuel hfuel => ⟨hr fuel hfuel, exec_mono hfuel hx⟩⟩

end Looped

end Program

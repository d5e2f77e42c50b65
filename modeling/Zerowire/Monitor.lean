/-
**Monitors, and how a program is shown to keep to one.**

A monitor watches a program: each event changes its state, and the state says what may happen next.
A program keeps to a monitor if it does nothing that is not permitted, whatever it is answered, and
if what the state is when the program returns is as it was promised.  That is defined by recursion
on the program, as a weakest precondition, with one rule for each way of putting programs together;
that it holds of all traces is proved once.

Loops are unrolled here, so that a program with a loop is a program again; it ends with a mark of
its own when the fuel has run out, and nothing is done after that.

Main definitions:

* `Program.Monitor`, `Program.Monitor.Accepts` — monitors, and the traces they accept;
* `Program.Prog.Keeps`, `Program.Holds` — programs that keep to a monitor;
* `Program.Stop`, `Program.unroll`, `Program.Looped.unrolled`, `Program.tryFinally` — loops and the
  `finally` block.

Main results:

* `Program.Prog.Keeps.sound` — **the traces of a program that keeps to a monitor are accepted**;
* `Program.holds_bind`, `Program.holds_attempt`, `Program.holds_tryFinally` — the rules;
* `Program.holds_unroll` — the rule for loops, with an invariant;
* `Program.Looped.exec_unrolled` — unrolling a loop that ends makes no difference.
-/

import Zerowire.ProgramRel
import Zerowire.Trace

set_option relaxedAutoImplicit false
set_option autoImplicit false

namespace Program

variable {X : Sig} {σ τ α β γ δ ε ε' : Type}

/-! ### Monitors -/

/-- A state that every event changes, and what is permitted in it. -/
structure Monitor (X : Sig) (σ : Type) where
  add : σ → Event X → σ
  permits : σ → Event X → Prop

namespace Monitor

variable (M : Monitor X σ)

/-- The state after a trace. -/
def after (s : σ) (es : List (Event X)) : σ := es.foldl M.add s

@[simp] theorem after_nil (s : σ) : M.after s [] = s := rfl

@[simp] theorem after_cons (s : σ) (e : Event X) (es : List (Event X)) :
    M.after s (e :: es) = M.after (M.add s e) es := rfl

/-- **The monitor accepts a trace**: each event is permitted after those before it. -/
def Accepts (s : σ) (es : List (Event X)) : Prop :=
  ∀ pre e post, es = pre ++ e :: post → M.permits (M.after s pre) e

theorem accepts_nil (s : σ) : M.Accepts s [] := by
  intro pre e post h
  exact absurd h.symm (List.append_ne_nil_of_right_ne_nil pre (List.cons_ne_nil e post))

theorem accepts_cons {s : σ} {e : Event X} {es : List (Event X)} (he : M.permits s e)
    (hes : M.Accepts (M.add s e) es) : M.Accepts s (e :: es) := by
  intro pre e' post h
  cases pre with
  | nil =>
      cases h
      exact he
  | cons x pre =>
      obtain ⟨rfl, rfl⟩ := List.cons.inj h
      exact hes pre e' post rfl

/-- What every permitted event keeps is the case after a trace that is accepted. -/
theorem Accepts.invariant {M : Monitor X σ} {I : σ → Prop}
    (hstep : ∀ s e, M.permits s e → I s → I (M.add s e)) {s : σ} {es : List (Event X)}
    (h : M.Accepts s es) (hs : I s) : I (M.after s es) := by
  induction es generalizing s with
  | nil => exact hs
  | cons e es ih =>
      refine ih (fun pre e' post heq => ?_) (hstep s e (h [] e es rfl) hs)
      exact h (e :: pre) e' post (congrArg (e :: ·) heq)

/-- The event is permitted, and the state after it is as described. -/
def Step (Q : σ → Prop) (s : σ) (e : Event X) : Prop := M.permits s e ∧ Q (M.add s e)

end Monitor

/-! ### Programs that keep to a monitor -/

/-- **The program keeps to the monitor** from a state on, and what it returns is as described. -/
def Prog.Keeps (M : Monitor X σ) (Q : α → σ → Prop) : Prog X α → σ → Prop
  | .ret a, s => Q a s
  | .readExact n k, s =>
      M.Step ((k none).Keeps M Q) s .starved ∧
        ∀ bs : List UInt8, bs.length = n → M.Step ((k (some bs)).Keeps M Q) s (.received bs)
  | .read n k, s =>
      M.Step ((k none).Keeps M Q) s .starved ∧
        ∀ bs : List UInt8, bs.length ≤ n → M.Step ((k (some bs)).Keeps M Q) s (.received bs)
  | .writeAll bs k, s => ∀ ok, M.Step ((k ok).Keeps M Q) s (.sent bs ok)
  | .call o k, s =>
      M.permits s (.called o none) ∧ ∀ a, M.Step ((k a).Keeps M Q) s (.called o (some a))

variable {M : Monitor X σ}

/-- **The traces of a program that keeps to a monitor are accepted**, and the result is as
described. -/
theorem Prog.Keeps.sound {Q : α → σ → Prop} {p : Prog X α} {s : σ} {es : List (Event X)}
    {r : Option α} (hp : p.Keeps M Q s) (ht : p.Trace es r) :
    M.Accepts s es ∧ ∀ a, r = some a → Q a (M.after s es) := by
  -- along the trace; after each event the rest of the program keeps to the rest of the monitor
  induction ht generalizing s with
  | cut p =>
      refine ⟨M.accepts_nil s, ?_⟩
      rintro a ⟨⟩
  | ret a =>
      refine ⟨M.accepts_nil s, ?_⟩
      rintro _ ⟨⟩
      exact hp
  | readExact hlen _ ih =>
      obtain ⟨hpermit, hrest⟩ := hp.2 _ hlen
      exact ⟨M.accepts_cons hpermit (ih hrest).1, (ih hrest).2⟩
  | readExactStarved _ ih =>
      obtain ⟨hpermit, hrest⟩ := hp.1
      exact ⟨M.accepts_cons hpermit (ih hrest).1, (ih hrest).2⟩
  | read hlen _ ih =>
      obtain ⟨hpermit, hrest⟩ := hp.2 _ hlen
      exact ⟨M.accepts_cons hpermit (ih hrest).1, (ih hrest).2⟩
  | readStarved _ ih =>
      obtain ⟨hpermit, hrest⟩ := hp.1
      exact ⟨M.accepts_cons hpermit (ih hrest).1, (ih hrest).2⟩
  | writeAll _ ih =>
      obtain ⟨hpermit, hrest⟩ := hp _
      exact ⟨M.accepts_cons hpermit (ih hrest).1, (ih hrest).2⟩
  | call _ ih =>
      obtain ⟨hpermit, hrest⟩ := hp.2 _
      exact ⟨M.accepts_cons hpermit (ih hrest).1, (ih hrest).2⟩
  | hung o k =>
      refine ⟨M.accepts_cons hp.1 (M.accepts_nil _), ?_⟩
      rintro a ⟨⟩

/-- A promise may be weakened. -/
theorem Prog.Keeps.mono {Q Q' : α → σ → Prop} {p : Prog X α} {s : σ} (hp : p.Keeps M Q s)
    (hQ : ∀ a s, Q a s → Q' a s) : p.Keeps M Q' s := by
  induction p generalizing s with
  | ret a => exact hQ a s hp
  | readExact n k ih =>
      exact ⟨⟨hp.1.1, ih _ hp.1.2⟩, fun bs h => ⟨(hp.2 bs h).1, ih _ (hp.2 bs h).2⟩⟩
  | read n k ih => exact ⟨⟨hp.1.1, ih _ hp.1.2⟩, fun bs h => ⟨(hp.2 bs h).1, ih _ (hp.2 bs h).2⟩⟩
  | writeAll bs k ih => exact fun ok => ⟨(hp ok).1, ih _ (hp ok).2⟩
  | call o k ih => exact ⟨hp.1, fun a => ⟨(hp.2 a).1, ih _ (hp.2 a).2⟩⟩

/-- A sequence keeps to a monitor if its first part does, and its second part does from there. -/
theorem Prog.keeps_bind {Q : β → σ → Prop} {p : Prog X α} {f : α → Prog X β} {s : σ} :
    (p >>= f).Keeps M Q s ↔ p.Keeps M (fun a => (f a).Keeps M Q) s := by
  induction p generalizing s with
  | ret a => exact Iff.rfl
  | readExact n k ih =>
      simp only [readExact_bind, Keeps, Monitor.Step, ih]
  | read n k ih =>
      simp only [read_bind, Keeps, Monitor.Step, ih]
  | writeAll bs k ih =>
      simp only [writeAll_bind, Keeps, Monitor.Step, ih]
  | call o k ih =>
      simp only [call_bind, Keeps, Monitor.Step, ih]

/-! ### Programs that may fail -/

/-- What is promised of an outcome. -/
def outcome (Q : α → σ → Prop) (E : ε → σ → Prop) : Except ε α → σ → Prop
  | .ok a => Q a
  | .error e => E e

/-- The program keeps to the monitor; `Q` is promised if it returns and `E` if it fails. -/
def Holds (M : Monitor X σ) (p : Act X ε α) (Q : α → σ → Prop) (E : ε → σ → Prop) (s : σ) : Prop :=
  p.run.Keeps M (outcome Q E) s

section Rules

variable {Q Q' : α → σ → Prop} {E E' : ε → σ → Prop} {s : σ}

theorem Holds.mono {p : Act X ε α} (h : Holds M p Q E s) (hQ : ∀ a s, Q a s → Q' a s)
    (hE : ∀ e s, E e s → E' e s) : Holds M p Q' E' s := by
  refine Prog.Keeps.mono h ?_
  rintro (e | a) s hs
  · exact hE e s hs
  · exact hQ a s hs

theorem holds_bind {p : Act X ε β} {f : β → Act X ε α} :
    Holds M (p >>= f) Q E s ↔ Holds M p (fun b => Holds M (f b) Q E) E s := by
  rw [Holds, ExceptT.run_bind, Prog.keeps_bind, Holds]
  constructor
  · intro h
    refine h.mono ?_
    rintro (e | b) s hs
    · exact hs
    · exact hs
  · intro h
    refine h.mono ?_
    rintro (e | b) s hs
    · exact hs
    · exact hs

theorem holds_ok_bind {b : β} {f : β → Act X ε α} :
    Holds M (ofResult (.ok b) >>= f) Q E s ↔ Holds M (f b) Q E s := Iff.rfl

theorem holds_error_bind {e : ε} {f : β → Act X ε α} :
    Holds M (ofResult (.error e) >>= f) Q E s ↔ E e s := Iff.rfl

/-- Whichever way the program ends, there is a result. -/
theorem holds_attempt {p : Act X ε' α} {Q : Except ε' α → σ → Prop} :
    Holds M (attempt p : Act X ε _) Q E s ↔
      Holds M p (fun a => Q (.ok a)) (fun e => Q (.error e)) s := by
  rw [Holds, attempt, ExceptT.run_lift, map_eq_pure_bind, Prog.keeps_bind, Holds]
  constructor
  · intro h
    refine h.mono ?_
    rintro (e | a) s hs
    · exact hs
    · exact hs
  · intro h
    refine h.mono ?_
    rintro (e | a) s hs
    · exact hs
    · exact hs

theorem holds_mapErr {f : ε' → ε} {p : Act X ε' α} :
    Holds M (mapErr f p) Q E s ↔ Holds M p Q (fun e => E (f e)) s := by
  rw [Holds, mapErr, ExceptT.run_mk, Prog.keeps_bind, Holds]
  constructor
  · intro h
    refine h.mono ?_
    rintro (e | a) s hs
    · exact hs
    · exact hs
  · intro h
    refine h.mono ?_
    rintro (e | a) s hs
    · exact hs
    · exact hs

end Rules

/-! ### Loops and `finally` -/

/-- Why a program has not returned: it failed, or the fuel of a loop ran out. -/
inductive Stop (ε : Type) where
  | failed (e : ε)
  | ranOut
  deriving Repr, DecidableEq

/-- A loop, for the given number of rounds. -/
def unroll (round : β → Act X (Stop ε) (β ⊕ γ)) : ℕ → β → Act X (Stop ε) γ
  | 0, _ => throw .ranOut
  | fuel + 1, b => do
      match ← round b with
      | .inl b' => unroll round fuel b'
      | .inr c => return c

/-- `try { p } finally { q }`. -/
def tryFinally (p : Act X (Stop ε) α) (q : Act X (Stop ε) Unit) : Act X (Stop ε) α := do
  match ← attempt p with
  | .error .ranOut => throw .ranOut
  | .error (.failed e) => do
      q
      throw (.failed e)
  | .ok a => do
      q
      return a

/-- `try { p } catch (e: Throwable) {}`. -/
def ignoring (p : Act X (Stop ε) Unit) : Act X (Stop ε) Unit := do
  match ← attempt p with
  | .error .ranOut => throw .ranOut
  | .error (.failed _) => return ()
  | .ok () => return ()

/-- A program with one loop as one program, for the given number of rounds. -/
def Looped.unrolled (p : Looped X ε β γ δ) (fuel : ℕ) : Act X (Stop ε) δ := do
  match ← mapErr .failed p.start with
  | .inl b => do
      let c ← unroll (fun b => mapErr .failed (p.round b)) fuel b
      mapErr .failed (p.finish c)
  | .inr c => mapErr .failed (p.finish c)

section Unrolled

variable {env : Env X τ} {round : β → Act X ε (β ⊕ γ)}

/-- A loop that ends, unrolled, with its errors renamed. -/
theorem exec_unroll_of_loop {g : ε → Stop ε'} {fuel : ℕ} {b : β} {s s' : Io τ} {r : Except ε γ}
    (h : loop env (rounds round) fuel b s = some (r, s')) :
    exec env (unroll (fun b => mapErr g (round b)) fuel b) s = (r.mapError g, s') := by
  induction fuel generalizing b s with
  | zero => cases h
  | succ fuel ih =>
      rw [unroll]
      rcases hx : exec env (round b) s with ⟨e | b' | c, t⟩
      · rw [loop_rounds_error hx] at h
        cases h
        exact exec_bind_error (exec_mapErr_error hx _)
      · rw [loop_rounds_inl hx] at h
        rw [exec_bind_ok (exec_mapErr_ok hx _)]
        exact ih h
      · rw [loop_rounds_inr hx] at h
        cases h
        exact exec_bind_ok (exec_mapErr_ok hx _)

/-- **A program with one loop that ends, unrolled.** -/
theorem Looped.exec_unrolled {p : Looped X ε β γ δ} {fuel : ℕ} {s s' : Io τ} {r : Except ε δ}
    (h : p.exec env fuel s = some (r, s')) :
    Program.exec env (p.unrolled fuel) s = (r.mapError .failed, s') := by
  rw [unrolled]
  rcases hx : Program.exec env p.start s with ⟨e | b | c, t⟩
  · rw [exec_of_error hx] at h
    cases h
    exact exec_bind_error (exec_mapErr_error hx _)
  · rw [exec_of_inl hx] at h
    rw [exec_bind_ok (exec_mapErr_ok hx _)]
    obtain ⟨⟨r', t'⟩, hloop, hclose⟩ := Option.map_eq_some_iff.1 h
    have hunroll := exec_unroll_of_loop (g := .failed) hloop
    cases r' with
    | ok c =>
        refine (exec_bind_ok hunroll).trans ?_
        rw [exec_mapErr]
        exact congrArg (fun x => (x.1.mapError Stop.failed, x.2)) hclose
    | error e =>
        cases hclose
        exact exec_bind_error hunroll
  · rw [exec_of_inr hx] at h
    rw [exec_bind_ok (exec_mapErr_ok hx _)]
    refine (exec_mapErr env _ _ t).trans ?_
    rw [Option.some.inj h]

/-- What is ignored has been done all the same. -/
theorem exec_ignoring_snd (p : Act X (Stop ε) Unit) (s : Io τ) :
    (exec env (ignoring p) s).2 = (exec env p s).2 := by
  rw [ignoring, exec_bind_ok (exec_attempt env p s)]
  rcases exec env p s with ⟨(e | _) | _, s'⟩ <;> rfl

/-- What a `finally` block that writes nothing leaves of the output. -/
theorem output_tryFinally {p : Act X (Stop ε) α} {q : Act X (Stop ε) Unit}
    (hq : ∀ s, (exec env q s).2.output = s.output) (s : Io τ) :
    (exec env (tryFinally p q) s).2.output = (exec env p s).2.output := by
  rw [tryFinally, exec_bind_ok (exec_attempt env p s)]
  rcases exec env p s with ⟨(e | _) | a, s'⟩
  · rw [← hq s']
    rcases hx : exec env q s' with ⟨e' | _, t⟩
    · rw [exec_bind_error hx]
    · rw [exec_bind_ok hx]
      rfl
  · rfl
  · rw [← hq s']
    rcases hx : exec env q s' with ⟨e' | _, t⟩
    · rw [exec_bind_error hx]
    · rw [exec_bind_ok hx]
      rfl

end Unrolled

section Handled

variable {Y : Sig} (h : (o : X.Op) → Prog Y (X.Ans o))

/-- Loops and `finally` blocks with the calls replaced. -/
theorem handled_unroll (round : β → Act X (Stop ε) (β ⊕ γ)) (fuel : ℕ) (b : β) :
    handled h (unroll round fuel b) = unroll (fun b => handled h (round b)) fuel b := by
  induction fuel generalizing b with
  | zero => rfl
  | succ fuel ih =>
      rw [unroll, unroll, handled_bind]
      refine congrArg (handled h (round b) >>= ·) (funext fun r => ?_)
      cases r with
      | inl b' => exact ih b'
      | inr c => rfl

theorem handled_tryFinally (p : Act X (Stop ε) α) (q : Act X (Stop ε) Unit) :
    handled h (tryFinally p q) = tryFinally (handled h p) (handled h q) := by
  rw [tryFinally, tryFinally, handled_bind, handled_attempt]
  refine congrArg (attempt (handled h p) >>= ·) (funext fun r => ?_)
  rcases r with (e | _) | a
  · exact handled_bind h q _
  · rfl
  · exact handled_bind h q _

theorem handled_ignoring (p : Act X (Stop ε) Unit) :
    handled h (ignoring p) = ignoring (handled h p) := by
  rw [ignoring, ignoring, handled_bind, handled_attempt]
  refine congrArg (attempt (handled h p) >>= ·) (funext fun r => ?_)
  rcases r with (e | _) | _ <;> rfl

end Handled

variable {E : Stop ε → σ → Prop} {s : σ}

/-- **The rule for loops**: every round keeps the invariant, or leaves the loop with what is
promised. -/
theorem holds_unroll {round : β → Act X (Stop ε) (β ⊕ γ)} {Q : γ → σ → Prop} (I : β → σ → Prop)
    (hround : ∀ b s, I b s → Holds M (round b) (fun r s' => Sum.elim (I · s') (Q · s') r) E s)
    (hout : ∀ b s, I b s → E .ranOut s) (fuel : ℕ) (b : β) (hs : I b s) :
    Holds M (unroll round fuel b) Q E s := by
  induction fuel generalizing b s with
  | zero => exact hout b s hs
  | succ fuel ih =>
      rw [unroll, holds_bind]
      refine (hround b s hs).mono ?_ fun _ _ h => h
      rintro (b' | c) s' hs'
      · exact ih b' hs'
      · exact hs'

/-- What the `finally` block keeps is promised however the program ends, unless the fuel ran out. -/
theorem holds_tryFinally {p : Act X (Stop ε) α} {q : Act X (Stop ε) Unit} {Q : α → σ → Prop}
    (h : Holds M p (fun a => Holds M q (fun _ => Q a) E)
      (fun e s' => match e with
        | .ranOut => E .ranOut s'
        | .failed e => Holds M q (fun _ => E (.failed e)) E s') s) :
    Holds M (tryFinally p q) Q E s := by
  rw [tryFinally, holds_bind, holds_attempt]
  refine h.mono ?_ ?_
  · intro a s' hs'
    exact holds_bind.2 hs'
  · rintro (e | _) s' hs'
    · exact holds_bind.2 hs'
    · exact hs'

theorem holds_ignoring {p : Act X (Stop ε) Unit} {Q : Unit → σ → Prop}
    (h : Holds M p Q (fun e s' => match e with
      | .ranOut => E .ranOut s'
      | .failed _ => Q () s') s) : Holds M (ignoring p) Q E s := by
  rw [ignoring, holds_bind, holds_attempt]
  refine h.mono ?_ ?_
  · rintro ⟨⟩ s' hs'
    exact hs'
  · rintro (e | _) s' hs'
    · exact hs'
    · exact hs'

/-! ### What is delivered -/

/-- The monitor that collects the bytes that are delivered. -/
def intake : Monitor X (List UInt8) := ⟨fun bs e => bs ++ e.bytes, fun _ _ => True⟩

theorem after_intake (bs : List UInt8) (es : List (Event X)) :
    intake.after bs es = bs ++ delivered es := by
  induction es generalizing bs with
  | nil => exact (List.append_nil bs).symm
  | cons e es ih => exact (ih (bs ++ e.bytes)).trans (List.append_assoc _ _ _)

/-- What a program has been delivered when it returns. -/
theorem Prog.Keeps.delivered {Q : α → List UInt8 → Prop} {p : Prog X α} {es : List (Event X)} {a : α}
    (hp : p.Keeps intake Q []) (ht : p.Trace es (some a)) : Q a (delivered es) := by
  have h := (hp.sound ht).2 a rfl
  rwa [after_intake] at h

/-- The monitor that lets nothing be delivered. -/
def unfed : Monitor X Unit := ⟨fun _ _ => (), fun _ e => e.bytes = []⟩

theorem delivered_of_accepts {es : List (Event X)} (h : unfed.Accepts () es) :
    delivered es = [] := by
  refine List.flatMap_eq_nil_iff.2 fun e he => ?_
  obtain ⟨pre, post, rfl⟩ := List.append_of_mem he
  exact h pre e post rfl

/-- A program that reads nothing is delivered nothing. -/
theorem Prog.Keeps.delivered_nil {Q : α → Unit → Prop} {p : Prog X α} {es : List (Event X)}
    {r : Option α} (hp : p.Keeps unfed Q ()) (ht : p.Trace es r) : Program.delivered es = [] :=
  delivered_of_accepts (hp.sound ht).1

/-- The program reads nothing. -/
def Unfed (p : Act X ε α) : Prop := Holds unfed p (fun _ _ => True) (fun _ _ => True) ()

theorem Unfed.pure (a : α) : Unfed (pure a : Act X ε α) := trivial

theorem Unfed.ofResult (r : Except ε α) : Unfed (ofResult r : Act X ε α) := by
  cases r <;> trivial

theorem Unfed.writeAll (bs : List UInt8) : Unfed (writeAll bs : Act X ε Bool) :=
  fun _ => ⟨rfl, trivial⟩

theorem Unfed.bind {p : Act X ε α} {f : α → Act X ε β} (hp : Unfed p) (hf : ∀ a, Unfed (f a)) :
    Unfed (p >>= f) :=
  holds_bind.2 (hp.mono (fun a _ _ => hf a) fun _ _ _ => trivial)

theorem Unfed.mapErr {f : ε' → ε} {p : Act X ε' α} (hp : Unfed p) : Unfed (mapErr f p) :=
  holds_mapErr.2 hp

theorem Unfed.ite {c : Prop} [Decidable c] {p q : Act X ε α} (hp : Unfed p) (hq : Unfed q) :
    Unfed (if c then p else q) := by
  split
  · exact hp
  · exact hq

end Program

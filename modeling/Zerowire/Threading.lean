/-
**Programs behind the calls that keep a variable.**

In `Zerowire/Trace.lean` each call of a program is replaced by a program.  Here the program behind a
call also has a variable, which it is given as the call before has left it: what an object of the
surroundings owns, or a static.  The variable is passed along and is no operation of anybody, so
nothing else can touch it.

Two monitors watch the two levels.  If what each call does below is what the call stands for above,
then that is so after any trace, and below nothing has been done that is not permitted.  What is
permitted may rest on the answers: the monitor then relies on them, and is no longer interested once
they have let it down.

Main definitions:

* `Program.Prog.threaded`, `Program.Threads` — the program with its calls replaced and the variable
  passed along, and what becomes of its traces;
* `Program.Prog.onRef` — a mutable variable as one that is passed along;
* `Program.Monitor.Relies`, `Program.Monitor.relying`, `Program.Relying` — answers that a monitor
  relies on, and programs that do;
* `Program.Simulates` — what a call does below is what it stands for above.

Main results:

* `Program.Relying.bind`, `Program.Relying.call` — the rules for programs that rely on the answers;
* `Program.Simulates.trace` — **what holds of the two levels after each call holds after every
  trace.**
-/

import Zerowire.Monitor
import Zerowire.Surroundings

set_option relaxedAutoImplicit false
set_option autoImplicit false

namespace Program

variable {X Y : Sig} {σ μ ρ α β ε ε' : Type}

/-! ### A variable that is passed along -/

/-- **The program with its calls replaced** by programs that are given a variable and give it
back. -/
def Prog.threaded (h : (o : X.Op) → σ → Prog Y (X.Ans o × σ)) : Prog X α → σ → Prog Y (α × σ)
  | .ret a, v => .ret (a, v)
  | .readExact n k, v => .readExact n fun r => (k r).threaded h v
  | .read n k, v => .read n fun r => (k r).threaded h v
  | .writeAll bs k, v => .writeAll bs fun r => (k r).threaded h v
  | .call o k, v => h o v >>= fun r => (k r.1).threaded h r.2

/-- **What becomes of a trace** when the calls are replaced and a variable is passed along: each call
becomes a trace of the program behind it, from what the variable is then. -/
inductive Threads (h : (o : X.Op) → σ → Prog Y (X.Ans o × σ)) :
    σ → List (Event X) → List (Event Y) → σ → Prop
  | nil (v : σ) : Threads h v [] [] v
  | received {v w : σ} (bs : List UInt8) {es : List (Event X)} {fs : List (Event Y)}
      (hes : Threads h v es fs w) : Threads h v (.received bs :: es) (.received bs :: fs) w
  | starved {v w : σ} {es : List (Event X)} {fs : List (Event Y)} (hes : Threads h v es fs w) :
      Threads h v (.starved :: es) (.starved :: fs) w
  | sent {v w : σ} (bs : List UInt8) (ok : Bool) {es : List (Event X)} {fs : List (Event Y)}
      (hes : Threads h v es fs w) : Threads h v (.sent bs ok :: es) (.sent bs ok :: fs) w
  | called {v u w : σ} {o : X.Op} {a : X.Ans o} {gs : List (Event Y)} {es : List (Event X)}
      {fs : List (Event Y)} (hcall : (h o v).Trace gs (some (a, u))) (hes : Threads h u es fs w) :
      Threads h v (.called o (some a) :: es) (gs ++ fs) w
  | hung {v : σ} {o : X.Op} {gs : List (Event Y)} (hcall : (h o v).Trace gs none) :
      Threads h v [.called o none] gs v

/-- A mutable variable, over surroundings that keep none. -/
def Prog.onRef (h : (o : X.Op) → Prog Y (X.Ans o)) :
    (o : (X.withRef σ).Op) → σ → Prog Y ((X.withRef σ).Ans o × σ)
  | .get, v => .ret (v, v)
  | .set v, _ => .ret ((), v)
  | .op o, v => h o >>= fun a => .ret (a, v)

/-! ### Answers that a monitor relies on -/

namespace Monitor

variable (M : Monitor X σ) (A : σ → Event X → Bool)

theorem after_append (s : σ) (es es' : List (Event X)) :
    M.after s (es ++ es') = M.after (M.after s es) es' := List.foldl_append

/-- A trace that is accepted goes on with one that is accepted from there. -/
theorem Accepts.append {M : Monitor X σ} {s : σ} {es es' : List (Event X)} (h : M.Accepts s es)
    (h' : M.Accepts (M.after s es) es') : M.Accepts s (es ++ es') := by
  induction es generalizing s with
  | nil => exact h'
  | cons e es ih =>
      refine M.accepts_cons (h [] e es rfl) (ih (fun pre e' post heq => ?_) h')
      exact h (e :: pre) e' post (congrArg (e :: ·) heq)

/-- **The answers are as the monitor relies on**: each event of a trace is such, after those before
it. -/
def Relies (s : σ) (es : List (Event X)) : Prop :=
  ∀ pre e post, es = pre ++ e :: post → A (M.after s pre) e = true

/-- The monitor as long as the answers are as it relies on; then it permits everything. -/
def relying : Monitor X (Option σ) where
  add s e := s.bind fun s => if A s e then some (M.add s e) else none
  permits s e := ∀ s', s = some s' → M.permits s' e

variable {M A}

theorem relying_add {s : σ} {e : Event X} (h : A s e = true) :
    (M.relying A).add (some s) e = some (M.add s e) := if_pos h

theorem Relies.head {s : σ} {e : Event X} {es : List (Event X)} (h : M.Relies A s (e :: es)) :
    A s e = true := h [] e es rfl

theorem Relies.tail {s : σ} {e : Event X} {es : List (Event X)} (h : M.Relies A s (e :: es)) :
    M.Relies A (M.add s e) es :=
  fun pre e' post heq => h (e :: pre) e' post (congrArg (e :: ·) heq)

/-- It can be checked along the trace. -/
def checks (M : Monitor X σ) (A : σ → Event X → Bool) : σ → List (Event X) → Bool
  | _, [] => true
  | s, e :: es => A s e && M.checks A (M.add s e) es

theorem relies_of_checks {s : σ} {es : List (Event X)} (h : M.checks A s es = true) :
    M.Relies A s es := by
  induction es generalizing s with
  | nil =>
      intro pre e post heq
      exact absurd heq.symm (List.append_ne_nil_of_right_ne_nil pre (List.cons_ne_nil e post))
  | cons e es ih =>
      rw [checks, Bool.and_eq_true] at h
      rintro (_ | ⟨_, pre⟩) e' post heq
      · cases heq
        exact h.1
      · obtain ⟨rfl, rfl⟩ := List.cons.inj heq
        exact ih h.2 pre e' post rfl

theorem Relies.of_append {s : σ} {pre post : List (Event X)} (h : M.Relies A s (pre ++ post)) :
    M.Relies A s pre := by
  rintro pre' e post' rfl
  exact h pre' e (post' ++ post) (by rw [List.append_assoc, List.cons_append])

/-- As long as they are, nothing has changed. -/
theorem Relies.after {s : σ} {es : List (Event X)} (h : M.Relies A s es) :
    (M.relying A).after (some s) es = some (M.after s es) := by
  induction es generalizing s with
  | nil => rfl
  | cons e es ih =>
      rw [after_cons, after_cons, relying_add h.head]
      exact ih h.tail

theorem Relies.accepts {s : σ} {es : List (Event X)} (h : M.Relies A s es)
    (haccepts : (M.relying A).Accepts (some s) es) : M.Accepts s es := by
  intro pre e post heq
  refine haccepts pre e post heq _ (Relies.after ?_)
  exact Relies.of_append (heq ▸ h)

end Monitor

section Relying

variable {M : Monitor X σ} {A : σ → Event X → Bool}

/-- Nothing is asked of a program once the answers have let it down. -/
theorem Prog.keeps_relying_none {Q : α → Option σ → Prop} (hQ : ∀ a, Q a none) (p : Prog X α) :
    p.Keeps (M.relying A) Q none := by
  induction p with
  | ret a => exact hQ a
  | readExact n k ih => exact ⟨⟨nofun, ih _⟩, fun bs _ => ⟨nofun, ih _⟩⟩
  | read n k ih => exact ⟨⟨nofun, ih _⟩, fun bs _ => ⟨nofun, ih _⟩⟩
  | writeAll bs k ih => exact fun ok => ⟨nofun, ih _⟩
  | call o k ih => exact ⟨nofun, fun a => ⟨nofun, ih _⟩⟩

/-- What is promised, unless the answers have let the program down. -/
def relied (Q : α → σ → Prop) (a : α) : Option σ → Prop
  | none => True
  | some s => Q a s

/-- **A program may rely on the answers.** -/
theorem Prog.keeps_relying {Q : α → σ → Prop} {p : Prog X α} {s : Option σ}
    (h : ∀ s', s = some s' → p.Keeps (M.relying A) (relied Q) (some s')) :
    p.Keeps (M.relying A) (relied Q) s := by
  cases s with
  | none => exact keeps_relying_none (fun _ => trivial) p
  | some s => exact h s rfl

/-- The program keeps to the monitor, and what it comes to is as promised, where the answers are as
the monitor relies on. -/
def Relying (M : Monitor X σ) (A : σ → Event X → Bool) (p : Act X ε α) (Q : α → σ → Prop)
    (E : ε → σ → Prop) (s : σ) : Prop :=
  p.run.Keeps (M.relying A) (relied (outcome Q E)) (some s)

variable {Q Q' : α → σ → Prop} {E E' : ε → σ → Prop} {s : σ}

/-- What a program comes to, and what follows on it. -/
theorem Relying.keeps_bind {p : Act X ε β} {f : Except ε β → Prog X α} {R : β → σ → Prop}
    {F : ε → σ → Prop} (hp : Relying M A p R F s)
    (hok : ∀ b s, R b s → (f (.ok b)).Keeps (M.relying A) (relied Q) (some s))
    (herror : ∀ e s, F e s → (f (.error e)).Keeps (M.relying A) (relied Q) (some s)) :
    (p.run >>= f).Keeps (M.relying A) (relied Q) (some s) := by
  refine Prog.keeps_bind.2 (Prog.Keeps.mono hp ?_)
  rintro (e | b) (_ | s') hs'
  · exact Prog.keeps_relying_none (fun _ => trivial) _
  · exact herror e s' hs'
  · exact Prog.keeps_relying_none (fun _ => trivial) _
  · exact hok b s' hs'

theorem Relying.bind {p : Act X ε β} {f : β → Act X ε α} {R : β → σ → Prop}
    (hp : Relying M A p R E s) (hf : ∀ b s, R b s → Relying M A (f b) Q E s) :
    Relying M A (p >>= f) Q E s := by
  rw [Relying, ExceptT.run_bind]
  exact hp.keeps_bind hf fun e s hs => hs

/-- A call, and what is relied on of its answer. -/
theorem Prog.keeps_relying_call {o : X.Op} {k : X.Ans o → Prog X α}
    (hcall : ∀ a, M.permits s (.called o a))
    (hanswer : ∀ a, A s (.called o (some a)) = true →
      (k a).Keeps (M.relying A) (relied Q) (some (M.add s (.called o (some a))))) :
    (Prog.call o k).Keeps (M.relying A) (relied Q) (some s) := by
  refine ⟨?_, fun a => ⟨?_, ?_⟩⟩
  · rintro _ ⟨⟩
    exact hcall none
  · rintro _ ⟨⟩
    exact hcall (some a)
  · by_cases ha : A s (.called o (some a)) = true
    · rw [Monitor.relying_add ha]
      exact hanswer a ha
    · have hnone : (M.relying A).add (some s) (.called o (some a)) = none := if_neg ha
      rw [hnone]
      exact keeps_relying_none (fun _ => trivial) _

theorem Relying.call {o : X.Op} {Q : X.Ans o → σ → Prop} (hcall : ∀ a, M.permits s (.called o a))
    (hanswer : ∀ a, A s (.called o (some a)) = true → Q a (M.add s (.called o (some a)))) :
    Relying M A (call o) Q E s :=
  Prog.keeps_relying_call hcall hanswer

theorem Relying.attempt {p : Act X ε' α} {Q : Except ε' α → σ → Prop}
    (h : Relying M A p (fun a => Q (.ok a)) (fun e => Q (.error e)) s) :
    Relying M A (attempt p : Act X ε _) Q E s := by
  rw [Relying, Program.attempt, ExceptT.run_lift, map_eq_pure_bind, Prog.keeps_bind]
  refine Prog.Keeps.mono h ?_
  rintro (e | a) (_ | s) hs
  · trivial
  · exact hs
  · trivial
  · exact hs

end Relying

/-! ### Two levels -/

/-- **What a call does below is what it stands for above.**  `I` relates the variable and what the
two monitors have made of the events so far; the stream is the same one for both levels. -/
structure Simulates (M : Monitor Y μ) (N : Monitor X ρ) (h : (o : X.Op) → σ → Prog Y (X.Ans o × σ))
    (I : σ → μ → ρ → Prop) : Prop where
  received : ∀ {v s d} (bs : List UInt8), I v s d →
    M.Step (fun s' => I v s' (N.add d (.received bs))) s (.received bs)
  starved : ∀ {v s d}, I v s d → M.Step (fun s' => I v s' (N.add d .starved)) s .starved
  sent : ∀ {v s d} (bs : List UInt8) (ok : Bool), I v s d →
    M.Step (fun s' => I v s' (N.add d (.sent bs ok))) s (.sent bs ok)
  called : ∀ {v s d} (o : X.Op), I v s d →
    (h o v).Keeps M (fun r s' => I r.2 s' (N.add d (.called o (some r.1)))) s

/-- **After every trace** of a program the two levels are still related, if the program has
returned; and below nothing has been done that is not permitted, if it has not.  What has been done
below is what has been done above, call by call. -/
theorem Simulates.trace {M : Monitor Y μ} {N : Monitor X ρ}
    {h : (o : X.Op) → σ → Prog Y (X.Ans o × σ)} {I : σ → μ → ρ → Prop} (hsim : Simulates M N h I)
    {p : Prog X α} {v : σ} {s : μ} {d : ρ} (hI : I v s d) {fs : List (Event Y)}
    {r : Option (α × σ)} (ht : (p.threaded h v).Trace fs r) :
    M.Accepts s fs ∧ ∃ es w, p.Trace es (r.map Prod.fst) ∧ Threads h v es fs w ∧
      ∀ a v', r = some (a, v') → v' = w ∧ I v' (M.after s fs) (N.after d es) := by
  -- on the program; a call becomes a trace of the program behind it
  induction p generalizing v s d fs with
  | ret a =>
      cases ht with
      | cut => exact ⟨M.accepts_nil s, [], v, .cut _, .nil v, nofun⟩
      | ret =>
          refine ⟨M.accepts_nil s, [], v, .ret a, .nil v, ?_⟩
          rintro _ _ ⟨⟩
          exact ⟨rfl, hI⟩
  | readExact n k ih =>
      cases ht with
      | cut => exact ⟨M.accepts_nil s, [], v, .cut _, .nil v, nofun⟩
      | readExact hlen ht =>
          obtain ⟨hpermit, hstep⟩ := hsim.received _ hI
          obtain ⟨haccepts, es, w, hes, hthreads, hend⟩ := ih _ hstep ht
          exact ⟨M.accepts_cons hpermit haccepts, _, w, .readExact hlen hes, .received _ hthreads, hend⟩
      | readExactStarved ht =>
          obtain ⟨hpermit, hstep⟩ := hsim.starved hI
          obtain ⟨haccepts, es, w, hes, hthreads, hend⟩ := ih _ hstep ht
          exact ⟨M.accepts_cons hpermit haccepts, _, w, .readExactStarved hes, .starved hthreads, hend⟩
  | read n k ih =>
      cases ht with
      | cut => exact ⟨M.accepts_nil s, [], v, .cut _, .nil v, nofun⟩
      | read hlen ht =>
          obtain ⟨hpermit, hstep⟩ := hsim.received _ hI
          obtain ⟨haccepts, es, w, hes, hthreads, hend⟩ := ih _ hstep ht
          exact ⟨M.accepts_cons hpermit haccepts, _, w, .read hlen hes, .received _ hthreads, hend⟩
      | readStarved ht =>
          obtain ⟨hpermit, hstep⟩ := hsim.starved hI
          obtain ⟨haccepts, es, w, hes, hthreads, hend⟩ := ih _ hstep ht
          exact ⟨M.accepts_cons hpermit haccepts, _, w, .readStarved hes, .starved hthreads, hend⟩
  | writeAll bs k ih =>
      cases ht with
      | cut => exact ⟨M.accepts_nil s, [], v, .cut _, .nil v, nofun⟩
      | writeAll ht =>
          obtain ⟨hpermit, hstep⟩ := hsim.sent _ _ hI
          obtain ⟨haccepts, es, w, hes, hthreads, hend⟩ := ih _ hstep ht
          exact ⟨M.accepts_cons hpermit haccepts, _, w, .writeAll hes, .sent _ _ hthreads, hend⟩
  | call o k ih =>
      rcases ht.bind_cases with ⟨hcall, rfl⟩ | ⟨⟨a, v'⟩, gs, fs', rfl, hcall, ht⟩
      · exact ⟨((hsim.called o hI).sound hcall).1, _, v, .hung o k, .hung hcall, nofun⟩
      · obtain ⟨hgs, hstep⟩ := (hsim.called o hI).sound hcall
        obtain ⟨hfs, es, w, hes, hthreads, hend⟩ := ih a (hstep _ rfl) ht
        refine ⟨hgs.append hfs, _, w, .call hes, .called hcall hthreads, ?_⟩
        rw [M.after_append]
        exact hend

end Program

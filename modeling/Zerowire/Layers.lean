/-
**One layer instead of two.**

A program whose calls are programs (`Zerowire/Threading.lean`) does the same over its own
surroundings as the program by itself does over surroundings that answer in that way.  So what is
known of the program and some peer, with the calls as single moves, holds with all that is done in
them: the moves in between are nobody else's, and they come to an end.

Surroundings may be the ones that a monitor has in mind: they keep its state, and answer as it
relies on.  Then what a program promises is the case when it has returned.

Main definitions:

* `Program.Prog.CallsAlone`, `Program.Prog.settle` — programs that do nothing but call, and what
  they come to;
* `Program.Env.threaded` — the surroundings that the programs behind the calls are to a program;
* `Program.Env.Realizes` — surroundings that keep the state of a monitor;
* `Program.Prog.Yields` — what programs come to where every answer is good.

Main results:

* `Program.Prog.settle_threaded` — a program over the two layers, and over the one;
* `Program.Net.ends_threaded` — **a party and its peer end the same way over either**;
* `Program.Net.ends_viewed` — surroundings that keep something more;
* `Program.Prog.Keeps.settle` — what is promised is the case;
* `Program.Prog.Keeps.yields` — the calls that are permitted are answered well.
-/

import Zerowire.Peers
import Zerowire.Threading

set_option relaxedAutoImplicit false
set_option autoImplicit false

namespace Program

open Relation

variable {X Y Z : Sig} {σ σ' τ τ' α β γ δ ε : Type}

/-! ### Programs that do nothing but call -/

/-- The program does nothing but call. -/
def Prog.CallsAlone : Prog X α → Prop
  | .ret _ => True
  | .call _ k => ∀ a, (k a).CallsAlone
  | .readExact _ _ | .read _ _ | .writeAll _ _ => False

theorem Prog.CallsAlone.bind {p : Prog X α} {f : α → Prog X β} (hp : p.CallsAlone)
    (hf : ∀ a, (f a).CallsAlone) : (p >>= f).CallsAlone := by
  induction p with
  | ret a => exact hf a
  | readExact n k _ => exact hp.elim
  | read n k _ => exact hp.elim
  | writeAll bs k _ => exact hp.elim
  | call o k ih => exact fun a => ih a (hp a)

/-- A program that may fail, and what follows if it does not. -/
theorem Prog.CallsAlone.bind_act {p : Act X ε α} {f : α → Act X ε β} (hp : p.run.CallsAlone)
    (hf : ∀ a, (f a).run.CallsAlone) : (p >>= f).run.CallsAlone := by
  rw [ExceptT.run_bind]
  refine hp.bind ?_
  rintro (e | a)
  · trivial
  · exact hf a

/-- A program whose failure is looked at. -/
theorem Prog.CallsAlone.attempt {ε' : Type} {p : Act X ε α} (hp : p.run.CallsAlone) :
    (Program.attempt p : Act X ε' _).run.CallsAlone := by
  rw [Program.attempt, ExceptT.run_lift, map_eq_pure_bind]
  exact hp.bind fun _ => trivial

/-- **What it comes to.** -/
def Prog.settle (env : Env X τ) : Prog X α → τ → α × τ
  | .ret a, t => (a, t)
  | .call o k, t => (k (env o t).1).settle env (env o t).2
  | .readExact _ k, t => (k none).settle env t
  | .read _ k, t => (k none).settle env t
  | .writeAll _ k, t => (k true).settle env t

theorem Prog.settle_bind (env : Env X τ) {p : Prog X α} (f : α → Prog X β)
    (hp : p.CallsAlone) (t : τ) :
    (p >>= f).settle env t = (f (p.settle env t).1).settle env (p.settle env t).2 := by
  induction p generalizing t with
  | ret a => rfl
  | readExact n k _ => exact hp.elim
  | read n k _ => exact hp.elim
  | writeAll bs k _ => exact hp.elim
  | call o k ih => exact ih _ (hp _) _

/-- It is the closed run. -/
theorem Prog.CallsAlone.run_eq {p : Prog X α} (hp : p.CallsAlone) (env : Env X τ) (s : Io τ) :
    p.run env s = ((p.settle env s.env).1, { s with env := (p.settle env s.env).2 }) := by
  induction p generalizing s with
  | ret a => rfl
  | readExact n k _ => exact hp.elim
  | read n k _ => exact hp.elim
  | writeAll bs k _ => exact hp.elim
  | call o k ih => exact ih _ (hp _) _

theorem Prog.CallsAlone.answer_eq {p : Act X ε α} (hp : p.run.CallsAlone) (env : Env X τ) (t : τ) :
    answer env p t = p.run.settle env t :=
  congrArg (fun r => (r.1, r.2.env)) (hp.run_eq env { input := [], env := t })

/-- Nobody has to wait for it. -/
theorem Prog.CallsAlone.moves {p : Prog X α} (hp : p.CallsAlone) (env : Env X τ) (ended : Bool)
    (f : α → Prog X β) (s : Io τ) :
    Moves env ended ⟨p >>= f, s⟩
      ⟨f (p.settle env s.env).1, { s with env := (p.settle env s.env).2 }⟩ [] := by
  induction p generalizing s with
  | ret a => exact .refl _
  | readExact n k _ => exact hp.elim
  | read n k _ => exact hp.elim
  | writeAll bs k _ => exact hp.elim
  | call o k ih => exact .cons_silent rfl (ih _ (hp _) _)

/-- A move that can be made while the peer has not returned can be made when it has. -/
theorem Prog.advance_of_false {env : Env X τ} {p : Prog X α} {s : Io τ} {r : Party X τ α × List UInt8}
    (h : p.advance env false s = some r) (ended : Bool) : p.advance env ended s = some r := by
  have hfed := Prog.advance_fed h ended []
  rw [Party.receive_nil, Io.fed, List.append_nil] at hfed
  exact hfed

/-! ### The surroundings that programs are -/

/-- **The programs behind the calls as surroundings**, with their variable. -/
def Env.threaded (env : Env Y τ) (h : (o : X.Op) → σ → Prog Y (X.Ans o × σ)) : Env X (σ × τ) :=
  fun o s =>
    let r := (h o s.1).settle env s.2
    (r.1.1, (r.1.2, r.2))

theorem Prog.callsAlone_onRef {h : (o : X.Op) → Prog Y (X.Ans o)} (hh : ∀ o, (h o).CallsAlone)
    (o : (X.withRef σ).Op) (v : σ) : (Prog.onRef h o v).CallsAlone := by
  cases o with
  | get => trivial
  | set v => trivial
  | op o => exact (hh o).bind fun _ => trivial

theorem Env.threaded_onRef (env : Env Y τ) (h : (o : X.Op) → Prog Y (X.Ans o))
    (hh : ∀ o, (h o).CallsAlone) :
    env.threaded (Prog.onRef (σ := σ) h) = Env.withRef (fun o t => (h o).settle env t) := by
  funext o s
  cases o with
  | get => rfl
  | set v => rfl
  | op o =>
      exact congrArg (fun r => (r.1.1, (r.1.2, r.2)))
        (Prog.settle_bind env (fun a => .ret (a, s.1)) (hh o) s.2)

/-- **A program over the two layers, and over the one.** -/
theorem Prog.settle_threaded (env : Env Y τ) {h : (o : X.Op) → σ → Prog Y (X.Ans o × σ)}
    (hh : ∀ o v, (h o v).CallsAlone) {p : Prog X α} (hp : p.CallsAlone) (v : σ) (t : τ) :
    (p.threaded h v).settle env t =
      let r := p.settle (env.threaded h) (v, t)
      ((r.1, r.2.1), r.2.2) := by
  induction p generalizing v t with
  | ret a => rfl
  | readExact n k _ => exact hp.elim
  | read n k _ => exact hp.elim
  | writeAll bs k _ => exact hp.elim
  | call o k ih =>
      rw [threaded, settle_bind _ _ (hh o v)]
      exact ih _ (hp _) _ _

/-- What the surroundings keep beside makes no difference to what a program comes to. -/
theorem Prog.settle_viewed {env : Env X τ} {env' : Env X τ'} {f : τ → τ'}
    (hf : ∀ o t, env' o (f t) = ((env o t).1, f (env o t).2)) (p : Prog X α) (t : τ) :
    p.settle env' (f t) = ((p.settle env t).1, f (p.settle env t).2) := by
  induction p generalizing t with
  | ret a => rfl
  | readExact n k ih => exact ih none t
  | read n k ih => exact ih none t
  | writeAll bs k ih => exact ih true t
  | call o k ih =>
      simp only [settle, hf]
      exact ih _ _

theorem Prog.CallsAlone.threaded {h : (o : X.Op) → σ → Prog Y (X.Ans o × σ)}
    (hh : ∀ o v, (h o v).CallsAlone) {p : Prog X α} (hp : p.CallsAlone) (v : σ) :
    (p.threaded h v).CallsAlone := by
  induction p generalizing v with
  | ret a => trivial
  | readExact n k _ => exact hp.elim
  | read n k _ => exact hp.elim
  | writeAll bs k _ => exact hp.elim
  | call o k ih => exact (hh o v).bind fun r => ih _ (hp _) _

namespace Net

variable {E : Env Y τ} {F : Env Z δ} {h : (o : X.Op) → σ → Prog Y (X.Ans o × σ)}
  {k : α → σ → Prog Y γ}

/-- What a party is over one layer, when over the two layers it is as given: with its calls
replaced, and what follows. -/
def beneath (E : Env Y τ) (h : (o : X.Op) → σ → Prog Y (X.Ans o × σ)) (k : α → σ → Prog Y γ)
    (p : Party X (σ × τ) α) : Party Y τ γ :=
  match p.prog with
  | .ret a =>
      let r := (k a p.io.env.1).settle E p.io.env.2
      ⟨.ret r.1, { p.io with env := r.2 }⟩
  | q => ⟨q.threaded h p.io.env.1 >>= fun r => k r.1 r.2, { p.io with env := p.io.env.2 }⟩

theorem beneath_receive (p : Party X (σ × τ) α) (more : List UInt8) :
    beneath E h k (p.receive more) = (beneath E h k p).receive more := by
  obtain ⟨q, s⟩ := p
  cases q <;> rfl

variable (hh : ∀ o v, (h o v).CallsAlone) (hk : ∀ a v, (k a v).CallsAlone)

include hk in
/-- A program that has returned goes on to the end. -/
theorem moves_beneath (ended : Bool) (p : Prog X α) (s : Io (σ × τ)) :
    Moves E ended ⟨p.threaded h s.env.1 >>= fun r => k r.1 r.2, { s with env := s.env.2 }⟩
      (beneath E h k ⟨p, s⟩) [] := by
  cases p with
  | ret a =>
      have hmoves := (hk a s.env.1).moves E ended Prog.ret { s with env := s.env.2 }
      rwa [Prog.bind_ret] at hmoves
  | readExact n f => exact .refl _
  | read n f => exact .refl _
  | writeAll bs f => exact .refl _
  | call o f => exact .refl _

include hh hk in
/-- **A move over the two layers** is some moves over the one. -/
theorem moves_of_advance {ended : Bool} {p q : Party X (σ × τ) α} {sent : List UInt8}
    (hmove : p.prog.advance (E.threaded h) ended p.io = some (q, sent)) :
    Moves E ended (beneath E h k p) (beneath E h k q) sent := by
  obtain ⟨p, s⟩ := p
  cases p with
  | ret a => cases hmove
  | readExact n f =>
      simp only [Prog.advance] at hmove
      split_ifs at hmove with hle hend
      · cases hmove
        exact .cons_silent (Prog.advance_readExact hle)
          (moves_beneath hk ended (f _) { s with input := s.input.drop n })
      · cases hmove
        subst hend
        exact .cons_silent (Prog.advance_readExact_end hle)
          (moves_beneath hk true (f none) { s with input := [] })
  | read n f =>
      simp only [Prog.advance] at hmove
      split_ifs at hmove with hle hend
      · cases hmove
        exact .cons_silent (Prog.advance_read hle) (moves_beneath hk ended (f _)
          { s with input := s.input.drop (pieceSize s.chunks n), chunks := s.chunks.tail })
      · cases hmove
        subst hend
        exact .cons_silent (Prog.advance_read_end hle) (moves_beneath hk true (f none) s)
  | writeAll bs f =>
      cases hmove
      have hrest := moves_beneath (E := E) (h := h) hk ended (f true) { s with output := s.output ++ sent }
      have hmoves := Moves.cons (p := beneath E h k ⟨.writeAll sent f, s⟩) rfl hrest
      rwa [List.append_nil] at hmoves
  | call o f =>
      cases hmove
      have hcall := (hh o s.env.1).moves E ended
        (fun r => (f r.1).threaded h r.2 >>= fun r => k r.1 r.2) { s with env := s.env.2 }
      rw [← Prog.bind_assoc] at hcall
      exact hcall.silent_trans (moves_beneath hk ended (f (E.threaded h o s.env).1)
        { s with env := (E.threaded h o s.env).2 })

include hh hk in
/-- A step of two parties, one of them over two layers. -/
theorem reaches_threaded_of_step {n n₁ : Net X Z (σ × τ) δ α β} (hstep : Step (E.threaded h) F n n₁) :
    ReflTransGen (Step E F) ⟨beneath E h k n.left, n.right⟩ ⟨beneath E h k n₁.left, n₁.right⟩ := by
  cases hstep with
  | left hmove => exact reaches_of_moves_left (moves_of_advance hh hk hmove)
  | right hmove =>
      rw [beneath_receive]
      refine .single (.right (n := ⟨beneath E h k n.left, n.right⟩) ?_)
      obtain ⟨⟨p, s⟩, r⟩ := n
      cases p with
      | ret a => exact hmove
      -- the program has not returned, but its end may be near
      | readExact _ _ => exact Prog.advance_of_false hmove _
      | read _ _ => exact Prog.advance_of_false hmove _
      | writeAll _ _ => exact Prog.advance_of_false hmove _
      | call _ _ => exact Prog.advance_of_false hmove _

include hh hk in
/-- **Over one layer the two parties end the same way** as over the two, whatever the order of the
moves. -/
theorem ends_threaded {p : Prog X α} {s s' : Io (σ × τ)} {a : α} {r : Party Z δ β} {b : β} {t' : Io δ}
    (hends : Ends (Step (E.threaded h) F) ⟨⟨p, s⟩, r⟩ ⟨⟨.ret a, s'⟩, ⟨.ret b, t'⟩⟩) :
    Ends (Step E F)
      ⟨⟨p.threaded h s.env.1 >>= fun r => k r.1 r.2, { s with env := s.env.2 }⟩, r⟩
      ⟨⟨.ret ((k a s'.env.1).settle E s'.env.2).1,
          { s' with env := ((k a s'.env.1).settle E s'.env.2).2 }⟩, ⟨.ret b, t'⟩⟩ := by
  have hstart := reaches_of_moves_left (F := F) (r := r)
    (moves_beneath (E := E) (h := h) hk r.prog.ended p s)
  rw [Party.receive_nil] at hstart
  refine diamond.ends (hstart.trans ?_) (final _ _ _ _)
  exact ReflTransGen.lift'
    (fun n : Net X Z (σ × τ) δ α β => (⟨beneath E h k n.left, n.right⟩ : Net Y Z τ δ γ β))
    (fun _ _ hstep => reaches_threaded_of_step hh hk hstep) _ _ (reaches_of_ends hends)

/-! ### Surroundings that keep something more -/

variable {E₁ : Env X τ} {E₂ : Env X τ'} {f : τ → τ'}

/-- The party, over surroundings that keep less. -/
def viewed (f : τ → τ') (p : Party X τ α) : Party X τ' α :=
  ⟨p.prog, { p.io with env := f p.io.env }⟩

/-- What the surroundings keep beside makes no difference to a move. -/
theorem advance_viewed (hf : ∀ o t, E₂ o (f t) = ((E₁ o t).1, f (E₁ o t).2)) {ended : Bool}
    {p q : Party X τ α} {sent : List UInt8} (h : p.prog.advance E₁ ended p.io = some (q, sent)) :
    (viewed f p).prog.advance E₂ ended (viewed f p).io = some (viewed f q, sent) := by
  obtain ⟨p, s⟩ := p
  cases p with
  | ret a => cases h
  | readExact n k =>
      simp only [viewed, Prog.advance] at h ⊢
      split_ifs at h ⊢ <;> cases h <;> rfl
  | read n k =>
      simp only [viewed, Prog.advance] at h ⊢
      split_ifs at h ⊢ <;> cases h <;> rfl
  | writeAll bs k =>
      cases h
      rfl
  | call o k =>
      cases h
      simp only [viewed, Prog.advance, hf]

/-- **The two parties end the same way** over surroundings that keep less. -/
theorem ends_viewed (hf : ∀ o t, E₂ o (f t) = ((E₁ o t).1, f (E₁ o t).2)) {p : Party X τ α}
    {s' : Io τ} {a : α} {r : Party Z δ β} {b : β} {t' : Io δ}
    (hends : Ends (Step E₁ F) ⟨p, r⟩ ⟨⟨.ret a, s'⟩, ⟨.ret b, t'⟩⟩) :
    Ends (Step E₂ F) ⟨viewed f p, r⟩ ⟨⟨.ret a, { s' with env := f s'.env }⟩, ⟨.ret b, t'⟩⟩ := by
  refine diamond.ends ?_ (final _ _ _ _)
  refine ReflTransGen.lift (fun n : Net X Z τ δ α β => (⟨viewed f n.left, n.right⟩ : Net X Z τ' δ α β))
    ?_ _ _ (reaches_of_ends hends)
  rintro n _ (hmove | hmove)
  · exact .left (n := ⟨viewed f n.left, n.right⟩) (advance_viewed hf hmove)
  · exact .right (n := ⟨viewed f n.left, n.right⟩) hmove

/-! ### What the surroundings keep -/

theorem advance_invariant {I : τ → Prop} (hI : ∀ o t, I t → I (E₁ o t).2) {ended : Bool}
    {p q : Party X τ α} {sent : List UInt8} (h : p.prog.advance E₁ ended p.io = some (q, sent))
    (hp : I p.io.env) : I q.io.env := by
  obtain ⟨p, s⟩ := p
  cases p with
  | ret a => cases h
  | readExact n k =>
      simp only [Prog.advance] at h
      split_ifs at h <;> cases h <;> exact hp
  | read n k =>
      simp only [Prog.advance] at h
      split_ifs at h <;> cases h <;> exact hp
  | writeAll bs k =>
      cases h
      exact hp
  | call o k =>
      cases h
      exact hI o _ hp

/-- What every call keeps is the case in the end. -/
theorem invariant_of_ends {I : τ → Prop} (hI : ∀ o t, I t → I (E₁ o t).2)
    {n n' : Net X Z τ δ α β} (hends : Ends (Step E₁ F) n n') (hn : I n.left.io.env) :
    I n'.left.io.env := by
  have hreach := reaches_of_ends hends
  clear hends
  induction hreach with
  | refl => exact hn
  | tail _ hstep ih =>
      cases hstep with
      | left hmove => exact advance_invariant hI hmove ih
      | right _ => exact ih

end Net

/-- What every call keeps is the case when a program has been run. -/
theorem Prog.settle_invariant {env : Env X τ} {I : τ → Prop} (hI : ∀ o t, I t → I (env o t).2)
    (p : Prog X α) (t : τ) (ht : I t) : I (p.settle env t).2 := by
  induction p generalizing t with
  | ret a => exact ht
  | readExact n k ih => exact ih none t ht
  | read n k ih => exact ih none t ht
  | writeAll bs k ih => exact ih true t ht
  | call o k ih => exact ih _ _ (hI o t ht)

/-- **Surroundings that a monitor has in mind**: they keep its state, and answer as it relies on. -/
structure Env.Realizes (env : Env X τ) (M : Monitor X σ) (A : σ → Event X → Bool) (view : τ → σ) :
    Prop where
  add : ∀ o t, view (env o t).2 = M.add (view t) (.called o (some (env o t).1))
  relied : ∀ o t, A (view t) (.called o (some (env o t).1)) = true

/-- **What is promised is the case.** -/
theorem Prog.Keeps.settle {env : Env X τ} {M : Monitor X σ} {A : σ → Event X → Bool} {view : τ → σ}
    (henv : env.Realizes M A view) {Q : α → σ → Prop} {p : Prog X α} (hp : p.CallsAlone) {t : τ}
    (h : p.Keeps (M.relying A) (relied Q) (some (view t))) :
    Q (p.settle env t).1 (view (p.settle env t).2) := by
  induction p generalizing t with
  | ret a => exact h
  | readExact n k _ => exact hp.elim
  | read n k _ => exact hp.elim
  | writeAll bs k _ => exact hp.elim
  | call o k ih =>
      obtain ⟨-, hrest⟩ := h.2 (env o t).1
      rw [Monitor.relying_add (henv.relied o t), ← henv.add] at hrest
      exact ih _ (hp _) hrest

/-! ### Where the answers are good -/

section Yields

variable {good : (o : X.Op) → X.Ans o → Prop} {R : α → Prop} {S : β → Prop}

/-- **What the program comes to is as described, where every answer is good.**  It does nothing but
call. -/
def Prog.Yields (good : (o : X.Op) → X.Ans o → Prop) (R : α → Prop) : Prog X α → Prop
  | .ret a => R a
  | .call o k => ∀ a, good o a → (k a).Yields good R
  | .readExact _ _ | .read _ _ | .writeAll _ _ => False

theorem Prog.CallsAlone.yields {p : Prog X α} (hp : p.CallsAlone) :
    p.Yields good fun _ => True := by
  induction p with
  | ret a => trivial
  | readExact n k _ => exact hp
  | read n k _ => exact hp
  | writeAll bs k _ => exact hp
  | call o k ih => exact fun a _ => ih a (hp a)

theorem Prog.Yields.bind {p : Prog X α} {f : α → Prog X β} (hp : p.Yields good R)
    (hf : ∀ a, R a → (f a).Yields good S) : (p >>= f).Yields good S := by
  induction p with
  | ret a => exact hf a hp
  | readExact n k _ => exact hp.elim
  | read n k _ => exact hp.elim
  | writeAll bs k _ => exact hp.elim
  | call o k ih => exact fun a ha => ih a (hp a ha)

/-- A program that does not fail then, and what follows. -/
theorem Prog.Yields.bind_act {R : Except ε β → Prop} {p : Act X ε α} {f : α → Act X ε β}
    (hp : p.run.Yields good fun r => ∃ a, r = .ok a) (hf : ∀ a, (f a).run.Yields good R) :
    (p >>= f).run.Yields good R := by
  rw [ExceptT.run_bind]
  refine hp.bind ?_
  rintro _ ⟨a, rfl⟩
  exact hf a

/-- One whose failure would be looked at. -/
theorem Prog.Yields.attempt_bind {ε' : Type} {R : Except ε' β → Prop} {p : Act X ε α}
    {f : Except ε α → Act X ε' β} (hp : p.run.Yields good fun r => ∃ a, r = .ok a)
    (hf : ∀ a, (f (.ok a)).run.Yields good R) : (Program.attempt p >>= f).run.Yields good R := by
  rw [ExceptT.run_bind, Program.attempt, ExceptT.run_lift, map_eq_pure_bind, bind_assoc]
  refine hp.bind ?_
  rintro _ ⟨a, rfl⟩
  exact hf a

/-- **It is enough that those calls are answered well which are permitted**, for a program that
keeps to the monitor. -/
theorem Prog.Keeps.yields {env : Env X τ} {M : Monitor X σ} {A : σ → Event X → Bool} {view : τ → σ}
    (henv : env.Realizes M A view)
    (hgood : ∀ o t, M.permits (view t) (.called o none) → good o (env o t).1) {Q : α → σ → Prop}
    {p : Prog X α} {t : τ} (h : p.Keeps (M.relying A) (relied Q) (some (view t)))
    (hp : p.Yields good R) : R (p.settle env t).1 := by
  induction p generalizing t with
  | ret a => exact hp
  | readExact n k _ => exact hp.elim
  | read n k _ => exact hp.elim
  | writeAll bs k _ => exact hp.elim
  | call o k ih =>
      have hanswer := hgood o t (h.1 _ rfl)
      obtain ⟨-, hrest⟩ := h.2 (env o t).1
      rw [Monitor.relying_add (henv.relied o t), ← henv.add] at hrest
      exact ih _ hrest (hp _ hanswer)

end Yields

end Program

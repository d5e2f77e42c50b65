/-
**Programs that talk over one byte stream.**

The code to be modelled reads from a socket, writes to it, and calls its surroundings (a device, a
log, a file).  A program of that kind is a tree: at each node it performs one operation and
continues with the answer, at a leaf it returns.  The tree says nothing about *who* answers, and
that is the point: the same program is run here against a finite stream that ends, and in
`Zerowire/Network.lean` against a peer whose bytes may not have arrived yet.

Loops are kept outside the tree, which is finite in depth: a loop is a body that returns either the
state of the next round or the result (`Program.loop`).

Main definitions:

* `Program.Sig` — the operations of the surroundings and the types of their answers;
* `Program.Prog` — programs, with their `Monad` structure;
* `Program.Act` — programs that may fail, `ExceptT` over `Program.Prog`;
* `Program.Io`, `Program.Prog.run` — a closed run: the bytes to come are known and then end;
* `Program.exec` — the closed run of a program that may fail;
* `Program.answer`, `Program.CallsOnly` — programs that only call their surroundings;
* `Program.loop`, `Program.rounds` — the closed run of a loop, with fuel, and loops that may fail.

Main results:

* `Program.Prog.run_bind`, `Program.exec_bind` — running a sequence is running its parts;
* `Program.loop_mono` — a loop that has ended ends the same way with more fuel.
-/

import Mathlib.Data.List.Basic
import Mathlib.Data.Nat.Notation
import Mathlib.Data.UInt
import Mathlib.Control.Basic

set_option relaxedAutoImplicit false
set_option autoImplicit false

namespace Program

/-- The operations of a program's surroundings, and what each one answers. -/
structure Sig where
  Op : Type
  Ans : Op → Type

/-- No surroundings. -/
def Sig.none : Sig := ⟨Empty, Empty.elim⟩

/-- A program over one byte stream and the surroundings `X`.

`readExact n` asks for exactly `n` bytes and is answered `none` when the stream ends first;
`read n` asks for at most `n` and is answered at least one, or `none` at the end of the stream;
`writeAll` is answered whether the bytes could be written. -/
inductive Prog (X : Sig) (α : Type) : Type
  | ret (a : α) : Prog X α
  | readExact (n : ℕ) (k : Option (List UInt8) → Prog X α) : Prog X α
  | read (n : ℕ) (k : Option (List UInt8) → Prog X α) : Prog X α
  | writeAll (bs : List UInt8) (k : Bool → Prog X α) : Prog X α
  | call (o : X.Op) (k : X.Ans o → Prog X α) : Prog X α

namespace Prog

variable {X : Sig} {α β γ : Type}

/-- Sequencing: continue every leaf of `p` with `f`. -/
def bind : Prog X α → (α → Prog X β) → Prog X β
  | ret a, f => f a
  | readExact n k, f => readExact n fun r => (k r).bind f
  | read n k, f => read n fun r => (k r).bind f
  | writeAll bs k, f => writeAll bs fun r => (k r).bind f
  | call o k, f => call o fun r => (k r).bind f

instance : Monad (Prog X) where
  pure := ret
  bind := bind

@[simp] theorem pure_eq_ret (a : α) : (pure a : Prog X α) = ret a := rfl

@[simp] theorem ret_bind (a : α) (f : α → Prog X β) : ret a >>= f = f a := rfl

@[simp] theorem readExact_bind (n : ℕ) (k : Option (List UInt8) → Prog X α) (f : α → Prog X β) :
    readExact n k >>= f = readExact n fun r => k r >>= f := rfl

@[simp] theorem read_bind (n : ℕ) (k : Option (List UInt8) → Prog X α) (f : α → Prog X β) :
    read n k >>= f = read n fun r => k r >>= f := rfl

@[simp] theorem writeAll_bind (bs : List UInt8) (k : Bool → Prog X α) (f : α → Prog X β) :
    writeAll bs k >>= f = writeAll bs fun r => k r >>= f := rfl

@[simp] theorem call_bind (o : X.Op) (k : X.Ans o → Prog X α) (f : α → Prog X β) :
    call o k >>= f = call o fun r => k r >>= f := rfl

theorem bind_ret (p : Prog X α) : p >>= ret = p := by
  induction p with
  | ret a => rfl
  | readExact n k ih => simp [ih]
  | read n k ih => simp [ih]
  | writeAll bs k ih => simp [ih]
  | call o k ih => simp [ih]

theorem bind_assoc (p : Prog X α) (f : α → Prog X β) (g : β → Prog X γ) :
    p >>= f >>= g = p >>= fun a => f a >>= g := by
  induction p with
  | ret a => rfl
  | readExact n k ih => simp [ih]
  | read n k ih => simp [ih]
  | writeAll bs k ih => simp [ih]
  | call o k ih => simp [ih]

instance : LawfulMonad (Prog X) :=
  LawfulMonad.mk' _ (fun p => bind_ret p) (fun _ _ => rfl) (fun p f g => bind_assoc p f g)

end Prog

/-! ### Closed runs -/

/-- What a closed run has to do with: the bytes still to be read, the sizes in which the transport
will hand them out to `read` (as much as is asked for, once the list is used up), the bytes
written so far, and the state of the surroundings. -/
structure Io (τ : Type) where
  input : List UInt8
  chunks : List ℕ := []
  output : List UInt8 := []
  env : τ

/-- Surroundings that answer every operation, keeping a state. -/
abbrev Env (X : Sig) (τ : Type) := (o : X.Op) → τ → X.Ans o × τ

/-- The answers of no surroundings. -/
def Env.none : Env Sig.none Unit := fun o => nomatch o

/-- How many bytes a `read` of at most `n` is given: at least one if any are asked for. -/
def pieceSize (chunks : List ℕ) (n : ℕ) : ℕ := min n (max 1 (chunks.headD n))

section Run

variable {X : Sig} {τ α β γ ε : Type}

/-- **The closed run** of a program: writes succeed, and a read beyond the last byte finds the end
of the stream. -/
def Prog.run (env : Env X τ) : Prog X α → Io τ → α × Io τ
  | .ret a, s => (a, s)
  | .readExact n k, s =>
      if n ≤ s.input.length then
        (k (some (s.input.take n))).run env { s with input := s.input.drop n }
      else (k none).run env { s with input := [] }
  | .read n k, s =>
      if s.input = [] ∧ n ≠ 0 then (k none).run env s
      else
        let m := pieceSize s.chunks n
        (k (some (s.input.take m))).run env
          { s with input := s.input.drop m, chunks := s.chunks.tail }
  | .writeAll bs k, s => (k true).run env { s with output := s.output ++ bs }
  | .call o k, s =>
      let r := env o s.env
      (k r.1).run env { s with env := r.2 }

@[simp] theorem Prog.run_ret (env : Env X τ) (a : α) (s : Io τ) :
    (Prog.ret a).run env s = (a, s) := rfl

@[simp] theorem Prog.run_writeAll (env : Env X τ) (bs : List UInt8) (k : Bool → Prog X α)
    (s : Io τ) : (Prog.writeAll bs k).run env s =
      (k true).run env { s with output := s.output ++ bs } := rfl

@[simp] theorem Prog.run_call (env : Env X τ) (o : X.Op) (k : X.Ans o → Prog X α) (s : Io τ) :
    (Prog.call o k).run env s = (k (env o s.env).1).run env { s with env := (env o s.env).2 } :=
  rfl

/-- Running a sequence is running its parts. -/
theorem Prog.run_bind (env : Env X τ) (p : Prog X α) (f : α → Prog X β) (s : Io τ) :
    (p >>= f).run env s = (f (p.run env s).1).run env (p.run env s).2 := by
  induction p generalizing s with
  | ret a => rfl
  | readExact n k ih =>
      simp only [readExact_bind, run]
      split
      · exact ih _ _
      · exact ih _ _
  | read n k ih =>
      simp only [read_bind, run]
      split
      · exact ih _ _
      · exact ih _ _
  | writeAll bs k ih => exact ih _ _
  | call o k ih => exact ih _ _

/-! ### Programs that may fail -/

/-- A program that returns a value or an error. -/
abbrev Act (X : Sig) (ε α : Type) := ExceptT ε (Prog X) α

/-- Ask for exactly `n` bytes. -/
def readExact (n : ℕ) : Act X ε (Option (List UInt8)) :=
  ExceptT.lift (Prog.readExact n Prog.ret)

/-- Ask for at most `n` bytes. -/
def read (n : ℕ) : Act X ε (Option (List UInt8)) := ExceptT.lift (Prog.read n Prog.ret)

/-- Write bytes; the answer says whether it went through. -/
def writeAll (bs : List UInt8) : Act X ε Bool := ExceptT.lift (Prog.writeAll bs Prog.ret)

/-- Call the surroundings. -/
def call (o : X.Op) : Act X ε (X.Ans o) := ExceptT.lift (Prog.call o Prog.ret)

/-- A result computed without any operation. -/
def ofResult (r : Except ε α) : Act X ε α := ExceptT.mk (Prog.ret r)

/-- Run a program that may fail and go on with its result, whichever it is. -/
def attempt {ε' : Type} (p : Act X ε α) : Act X ε' (Except ε α) := ExceptT.lift p.run

/-- The same program with its errors renamed. -/
def mapErr {ε' : Type} (f : ε → ε') (p : Act X ε α) : Act X ε' α :=
  ExceptT.mk (p.run >>= fun r => Prog.ret (r.mapError f))

/-- The closed run of a program that may fail. -/
def exec (env : Env X τ) (p : Act X ε α) (s : Io τ) : Except ε α × Io τ := p.run.run env s

@[simp] theorem exec_pure (env : Env X τ) (a : α) (s : Io τ) :
    exec env (pure a : Act X ε α) s = (.ok a, s) := rfl

@[simp] theorem exec_throw (env : Env X τ) (e : ε) (s : Io τ) :
    exec env (throw e : Act X ε α) s = (.error e, s) := rfl

@[simp] theorem exec_ofResult (env : Env X τ) (r : Except ε α) (s : Io τ) :
    exec env (ofResult r : Act X ε α) s = (r, s) := rfl

@[simp] theorem exec_writeAll (env : Env X τ) (bs : List UInt8) (s : Io τ) :
    exec env (writeAll bs : Act X ε Bool) s = (.ok true, { s with output := s.output ++ bs }) :=
  rfl

@[simp] theorem exec_call (env : Env X τ) (o : X.Op) (s : Io τ) :
    exec env (call o : Act X ε (X.Ans o)) s =
      (.ok (env o s.env).1, { s with env := (env o s.env).2 }) := rfl

theorem exec_readExact (env : Env X τ) (n : ℕ) (s : Io τ) :
    exec env (readExact n : Act X ε _) s =
      if n ≤ s.input.length then
        (.ok (some (s.input.take n)), { s with input := s.input.drop n })
      else (.ok none, { s with input := [] }) := by
  simp only [exec, readExact, ExceptT.run_lift, map_eq_pure_bind, Prog.readExact_bind, Prog.run]
  split <;> rfl

theorem exec_readExact_of_le (env : Env X τ) {n : ℕ} {s : Io τ} (h : n ≤ s.input.length) :
    exec env (readExact n : Act X ε _) s =
      (.ok (some (s.input.take n)), { s with input := s.input.drop n }) := by
  rw [exec_readExact, if_pos h]

theorem exec_readExact_of_lt (env : Env X τ) {n : ℕ} {s : Io τ} (h : s.input.length < n) :
    exec env (readExact n : Act X ε _) s = (.ok none, { s with input := [] }) := by
  rw [exec_readExact, if_neg (by omega)]

/-- Running a sequence is running its parts, and an error ends it. -/
theorem exec_bind (env : Env X τ) (p : Act X ε α) (f : α → Act X ε β) (s : Io τ) :
    exec env (p >>= f) s =
      match exec env p s with
      | (.ok a, s') => exec env (f a) s'
      | (.error e, s') => (.error e, s') := by
  simp only [exec, ExceptT.run_bind, Prog.run_bind]
  rcases h : p.run.run env s with ⟨r, s'⟩
  cases r with
  | ok a => rfl
  | error e => rfl

theorem exec_bind_ok {env : Env X τ} {p : Act X ε α} {f : α → Act X ε β} {s s' : Io τ} {a : α}
    (h : exec env p s = (.ok a, s')) : exec env (p >>= f) s = exec env (f a) s' := by
  rw [exec_bind, h]

theorem exec_bind_error {env : Env X τ} {p : Act X ε α} {f : α → Act X ε β} {s s' : Io τ} {e : ε}
    (h : exec env p s = (.error e, s')) : exec env (p >>= f) s = (.error e, s') := by
  rw [exec_bind, h]

/-- How a program fails that goes on after another one. -/
theorem exec_bind_error_iff {env : Env X τ} {p : Act X ε α}
    {f : α → Act X ε β} {s s' : Io τ} {r : Except ε α} (h : exec env p s = (r, s')) {err : ε} :
    (exec env (p >>= f) s).1 = .error err ↔
      r = .error err ∨ ∃ a, r = .ok a ∧ (exec env (f a) s').1 = .error err := by
  rcases r with err' | a
  · rw [exec_bind_error h]
    simp
  · rw [exec_bind_ok h]
    simp

/-- How it succeeds. -/
theorem exec_bind_ok_iff {env : Env X τ} {p : Act X ε α}
    {f : α → Act X ε β} {s s' : Io τ} {r : Except ε α} (h : exec env p s = (r, s')) :
    (∃ b, (exec env (p >>= f) s).1 = .ok b) ↔
      ∃ a, r = .ok a ∧ ∃ b, (exec env (f a) s').1 = .ok b := by
  rcases r with err' | a
  · rw [exec_bind_error h]
    simp
  · rw [exec_bind_ok h]
    simp

theorem exec_of_fst {env : Env X τ} {p : Act X ε α} {s : Io τ}
    {r : Except ε α} (h : (exec env p s).1 = r) : exec env p s = (r, (exec env p s).2) :=
  Prod.ext h rfl

@[simp] theorem exec_ofResult_ok_bind (env : Env X τ) (a : α) (f : α → Act X ε β) (s : Io τ) :
    exec env (ofResult (.ok a) >>= f) s = exec env (f a) s := rfl

@[simp] theorem exec_ofResult_error_bind (env : Env X τ) (e : ε) (f : α → Act X ε β) (s : Io τ) :
    exec env (ofResult (.error e) >>= f) s = (.error e, s) := rfl

@[simp] theorem exec_attempt {ε' : Type} (env : Env X τ) (p : Act X ε α) (s : Io τ) :
    exec env (attempt p : Act X ε' _) s = (.ok (exec env p s).1, (exec env p s).2) := by
  simp only [exec, attempt, ExceptT.run_lift, map_eq_pure_bind, Prog.run_bind]
  rfl

@[simp] theorem exec_mapErr {ε' : Type} (env : Env X τ) (f : ε → ε') (p : Act X ε α) (s : Io τ) :
    exec env (mapErr f p) s = ((exec env p s).1.mapError f, (exec env p s).2) := by
  simp only [exec, mapErr, ExceptT.run_mk, Prog.run_bind]
  rfl

@[simp] theorem exec_ite (env : Env X τ) (c : Prop) [Decidable c] (p q : Act X ε α) (s : Io τ) :
    exec env (if c then p else q) s = if c then exec env p s else exec env q s := by
  split <;> rfl

/-! ### Programs that leave the stream alone -/

/-- The program neither reads nor writes the stream: it only calls its surroundings. -/
def OffStream (p : Act X ε α) : Prop :=
  ∀ {τ : Type} (env : Env X τ) (s : Io τ), ∃ t, (exec env p s).2 = { s with env := t }

theorem OffStream.pure (a : α) : OffStream (pure a : Act X ε α) := fun _ s => ⟨s.env, rfl⟩

theorem OffStream.throw (e : ε) : OffStream (throw e : Act X ε α) := fun _ s => ⟨s.env, rfl⟩

theorem OffStream.call (o : X.Op) : OffStream (call o : Act X ε (X.Ans o)) := fun _ _ => ⟨_, rfl⟩

theorem OffStream.bind {p : Act X ε α} {f : α → Act X ε β} (hp : OffStream p)
    (hf : ∀ a, OffStream (f a)) : OffStream (p >>= f) := by
  intro τ env s
  obtain ⟨t, ht⟩ := hp env s
  rcases hx : exec env p s with ⟨a | a, s'⟩
  · rw [exec_bind_error hx]
    exact ⟨t, by rw [← ht, hx]⟩
  · rw [exec_bind_ok hx]
    rw [hx] at ht
    subst ht
    obtain ⟨t', ht'⟩ := hf a env { s with env := t }
    exact ⟨t', ht'⟩

theorem OffStream.ite {c : Prop} [Decidable c] {p q : Act X ε α} (hp : OffStream p)
    (hq : OffStream q) : OffStream (if c then p else q) := by
  split
  · exact hp
  · exact hq

/-! ### Programs that only call their surroundings -/

/-- The closed run of a program on nothing but its surroundings: the stream is empty. -/
def answer (env : Env X τ) (p : Act X ε α) (t : τ) : Except ε α × τ :=
  ((exec env p { input := [], env := t }).1, (exec env p { input := [], env := t }).2.env)

/-- What the program does rests with its surroundings alone: it neither uses nor changes the
stream. -/
structure CallsOnly (p : Act X ε α) : Prop where
  exec_eq : ∀ {τ : Type} (env : Env X τ) (s : Io τ),
    exec env p s = ((answer env p s.env).1, { s with env := (answer env p s.env).2 })

theorem CallsOnly.pure (a : α) : CallsOnly (pure a : Act X ε α) := ⟨fun _ _ => rfl⟩

theorem CallsOnly.throw (e : ε) : CallsOnly (throw e : Act X ε α) := ⟨fun _ _ => rfl⟩

theorem CallsOnly.call (o : X.Op) : CallsOnly (call o : Act X ε (X.Ans o)) := ⟨fun _ _ => rfl⟩

theorem CallsOnly.ofResult (r : Except ε α) : CallsOnly (ofResult r : Act X ε α) :=
  ⟨fun _ _ => rfl⟩

@[simp] theorem answer_pure (env : Env X τ) (a : α) (t : τ) :
    answer env (pure a : Act X ε α) t = (.ok a, t) := rfl

@[simp] theorem answer_throw (env : Env X τ) (e : ε) (t : τ) :
    answer env (throw e : Act X ε α) t = (.error e, t) := rfl

@[simp] theorem answer_call (env : Env X τ) (o : X.Op) (t : τ) :
    answer env (call o : Act X ε (X.Ans o)) t = (.ok (env o t).1, (env o t).2) := rfl

@[simp] theorem answer_ofResult (env : Env X τ) (r : Except ε α) (t : τ) :
    answer env (ofResult r : Act X ε α) t = (r, t) := rfl

theorem answer_bind (env : Env X τ) {p : Act X ε α} {f : α → Act X ε β} (hp : CallsOnly p)
    (t : τ) :
    answer env (p >>= f) t =
      match answer env p t with
      | (.ok a, t') => answer env (f a) t'
      | (.error e, t') => (.error e, t') := by
  have hx := hp.exec_eq env { input := [], env := t }
  rcases ha : answer env p t with ⟨e | a, t'⟩
  · rw [ha] at hx
    rw [answer, exec_bind_error hx]
  · rw [ha] at hx
    rw [answer, exec_bind_ok hx]
    rfl

theorem CallsOnly.bind {p : Act X ε α} {f : α → Act X ε β} (hp : CallsOnly p)
    (hf : ∀ a, CallsOnly (f a)) : CallsOnly (p >>= f) where
  exec_eq env s := by
    rw [answer_bind env hp]
    have hx := hp.exec_eq env s
    rcases ha : answer env p s.env with ⟨e | a, t'⟩
    · rw [ha] at hx
      rw [exec_bind_error hx]
    · rw [ha] at hx
      rw [exec_bind_ok hx]
      exact (hf a).exec_eq env { s with env := t' }

theorem CallsOnly.ite {c : Prop} [Decidable c] {p q : Act X ε α} (hp : CallsOnly p)
    (hq : CallsOnly q) : CallsOnly (if c then p else q) := by
  split
  · exact hp
  · exact hq

/-! ### Loops -/

/-- The closed run of a loop: the body returns the state of the next round or the result.  `none`
says that the fuel ran out. -/
def loop (env : Env X τ) (body : β → Prog X (β ⊕ γ)) : ℕ → β → Io τ → Option (γ × Io τ)
  | 0, _, _ => none
  | fuel + 1, b, s =>
      match (body b).run env s with
      | (.inl b', s') => loop env body fuel b' s'
      | (.inr c, s') => some (c, s')

theorem loop_inl {env : Env X τ} {body : β → Prog X (β ⊕ γ)} {fuel : ℕ} {b b' : β} {s s' : Io τ}
    (h : (body b).run env s = (.inl b', s')) :
    loop env body (fuel + 1) b s = loop env body fuel b' s' := by
  rw [loop, h]

theorem loop_inr {env : Env X τ} {body : β → Prog X (β ⊕ γ)} {fuel : ℕ} {b : β} {c : γ}
    {s s' : Io τ} (h : (body b).run env s = (.inr c, s')) :
    loop env body (fuel + 1) b s = some (c, s') := by
  rw [loop, h]

/-- A loop that has ended ends the same way with more fuel. -/
theorem loop_mono {env : Env X τ} {body : β → Prog X (β ⊕ γ)} :
    ∀ {fuel fuel' : ℕ} {b : β} {s : Io τ} {r : γ × Io τ}, fuel ≤ fuel' →
      loop env body fuel b s = some r → loop env body fuel' b s = some r := by
  intro fuel
  induction fuel with
  | zero => intro fuel' b s r _ h; cases h
  | succ fuel ih =>
      intro fuel' b s r hle h
      obtain ⟨m, rfl⟩ : ∃ m, fuel' = m + 1 := ⟨fuel' - 1, by omega⟩
      rw [loop] at h ⊢
      rcases hb : (body b).run env s with ⟨b' | c, s'⟩
      · rw [hb] at h
        exact ih (by omega) h
      · rwa [hb] at h

/-- A loop whose body may fail ends with the error. -/
def rounds (body : β → Act X ε (β ⊕ γ)) (b : β) : Prog X (β ⊕ Except ε γ) := do
  match ← (body b).run with
  | .ok (.inl b') => return .inl b'
  | .ok (.inr c) => return .inr (.ok c)
  | .error e => return .inr (.error e)

/-- A round that may fail is a round with one result more. -/
theorem run_rounds (env : Env X τ) (body : β → Act X ε (β ⊕ γ)) (b : β) (s : Io τ) :
    (rounds body b).run env s =
      match exec env (body b) s with
      | (.ok (.inl b'), s') => (.inl b', s')
      | (.ok (.inr c), s') => (.inr (.ok c), s')
      | (.error e, s') => (.inr (.error e), s') := by
  rw [rounds, Prog.run_bind, exec]
  rcases (body b).run.run env s with ⟨e | b' | c, s'⟩
  · rfl
  · rfl
  · rfl

theorem loop_rounds_inl {env : Env X τ} {body : β → Act X ε (β ⊕ γ)} {fuel : ℕ} {b b' : β}
    {s s' : Io τ} (h : exec env (body b) s = (.ok (.inl b'), s')) :
    loop env (rounds body) (fuel + 1) b s = loop env (rounds body) fuel b' s' := by
  apply loop_inl
  rw [run_rounds, h]

theorem loop_rounds_inr {env : Env X τ} {body : β → Act X ε (β ⊕ γ)} {fuel : ℕ} {b : β} {c : γ}
    {s s' : Io τ} (h : exec env (body b) s = (.ok (.inr c), s')) :
    loop env (rounds body) (fuel + 1) b s = some (.ok c, s') := by
  apply loop_inr
  rw [run_rounds, h]

theorem loop_rounds_error {env : Env X τ} {body : β → Act X ε (β ⊕ γ)} {fuel : ℕ} {b : β} {e : ε}
    {s s' : Io τ} (h : exec env (body b) s = (.error e, s')) :
    loop env (rounds body) (fuel + 1) b s = some (.error e, s') := by
  apply loop_inr
  rw [run_rounds, h]

end Run

end Program

/-
**A connection that is closed under a program.**

Another thread may close the socket of a program that is at work on it, at any moment.  What has been
written until then is sent, and the write that is under way may be cut off in the middle; from then on
every read and every write fails.  What the program asks of its surroundings goes on as before.

So the moment at which the socket is closed shows only in how many bytes have been sent.  A program
whose connection takes so many bytes is a program again: as long as there is room it does what it
would have done, and how it goes on when a write has failed is its own affair.

Main definitions:

* `Program.Prog.taking` — a program on a connection that takes so many bytes;
* `Program.Prog.upTo` — the same, without what becomes of the connection;
* `Program.taken`, `Program.leaves` — what a connection takes of some bytes, and the room behind
  them;
* `Program.Suffices` — what has arrived is enough for a program on such a connection.

Main results:

* `Program.Prog.taking_bind` — the room that one program leaves is the room of the next;
* `Program.Moves.taking`, `Program.Responds.upTo` — **as long as there is room, nothing changes**;
* `Program.Suffices.of_enough` — nor does it for a program that returns in time;
* `Program.Suffices.bind`, `Program.Suffices.tryFinally` — how programs are put together;
* `Program.Suffices.writeAll` — **a write goes through if there is room for it.**
-/

import Zerowire.Layers

set_option relaxedAutoImplicit false
set_option autoImplicit false

namespace Program

variable {X Y : Sig} {σ τ α β γ ε ε' : Type}

/-! ### The connection -/

/-- **A program on a connection that takes so many bytes**, and what becomes of the connection: the
bytes that it still takes, or none if it has been closed.  The write that goes beyond them is cut off
and fails, and so does every read and every write behind it. -/
def Prog.taking : Option ℕ → Prog X α → Prog X (α × Option ℕ)
  | room, .ret a => .ret (a, room)
  | some n, .readExact m k => .readExact m fun r => (k r).taking (some n)
  | none, .readExact _ k => (k none).taking none
  | some n, .read m k => .read m fun r => (k r).taking (some n)
  | none, .read _ k => (k none).taking none
  | some n, .writeAll bs k =>
      if bs.length ≤ n then .writeAll bs fun r => (k r).taking (some (n - bs.length))
      else .writeAll (bs.take n) fun _ => (k false).taking none
  | none, .writeAll _ k => (k false).taking none
  | room, .call o k => .call o fun a => (k a).taking room

/-- The program by itself. -/
def Prog.upTo (n : ℕ) (p : Prog X α) : Prog X α := p.taking (some n) >>= fun r => .ret r.1

section Equations

variable {room : Option ℕ} {n m : ℕ} {bs : List UInt8}

@[simp] theorem Prog.taking_ret (a : α) : (ret a : Prog X α).taking room = .ret (a, room) := by
  cases room <;> rfl

@[simp] theorem Prog.taking_call (o : X.Op) (k : X.Ans o → Prog X α) :
    (call o k).taking room = .call o fun a => (k a).taking room := by
  cases room <;> rfl

theorem Prog.taking_writeAll (k : Bool → Prog X α) (h : bs.length ≤ n) :
    (writeAll bs k).taking (some n) =
      .writeAll bs fun r => (k r).taking (some (n - bs.length)) := by
  rw [taking, if_pos h]

theorem Prog.taking_writeAll_cut (k : Bool → Prog X α) (h : n < bs.length) :
    (writeAll bs k).taking (some n) = .writeAll (bs.take n) fun _ => (k false).taking none := by
  rw [taking, if_neg (Nat.not_le.2 h)]

end Equations

/-- **The room that one program leaves is the room of the next.** -/
theorem Prog.taking_bind (p : Prog X α) (f : α → Prog X β) (room : Option ℕ) :
    (p >>= f).taking room = p.taking room >>= fun r => (f r.1).taking r.2 := by
  induction p generalizing room with
  | ret a =>
      rw [ret_bind, taking_ret, ret_bind]
  | readExact m k ih =>
      cases room with
      | none => exact ih none none
      | some n => exact congrArg (readExact m) (funext fun r => ih r (some n))
  | read m k ih =>
      cases room with
      | none => exact ih none none
      | some n => exact congrArg (read m) (funext fun r => ih r (some n))
  | writeAll bs k ih =>
      cases room with
      | none => exact ih false none
      | some n =>
          rw [writeAll_bind]
          rcases Nat.lt_or_ge n bs.length with hlt | hle
          · rw [taking_writeAll_cut _ hlt, taking_writeAll_cut _ hlt, writeAll_bind]
            exact congrArg (writeAll (bs.take n)) (funext fun _ => ih false none)
          · rw [taking_writeAll _ hle, taking_writeAll _ hle, writeAll_bind]
            exact congrArg (writeAll bs) (funext fun r => ih r _)
  | call o k ih =>
      rw [call_bind, taking_call, taking_call, call_bind]
      exact congrArg (call o) (funext fun a => ih a room)

/-- A program that does nothing but call does not use the connection. -/
theorem Prog.CallsAlone.taking {p : Prog X α} (hp : p.CallsAlone) (room : Option ℕ) :
    p.taking room = p >>= fun a => ret (a, room) := by
  induction p with
  | ret a => exact taking_ret a
  | readExact n k _ => exact hp.elim
  | read n k _ => exact hp.elim
  | writeAll bs k _ => exact hp.elim
  | call o k ih =>
      rw [taking_call, call_bind]
      exact congrArg (call o) (funext fun a => ih a (hp a))

/-! ### Writes -/

/-- What a connection takes of some bytes. -/
def taken : Option ℕ → List UInt8 → List UInt8
  | some n, bs => bs.take n
  | none, _ => []

/-- **The room that is left behind some bytes**, or none if the connection has been closed on them. -/
def leaves : Option ℕ → List UInt8 → Option ℕ
  | some n, bs => if bs.length ≤ n then some (n - bs.length) else none
  | none, _ => none

theorem leaves_of_le {n : ℕ} {bs : List UInt8} (h : bs.length ≤ n) :
    leaves (some n) bs = some (n - bs.length) := if_pos h

theorem leaves_of_lt {n : ℕ} {bs : List UInt8} (h : n < bs.length) : leaves (some n) bs = none :=
  if_neg (Nat.not_le.2 h)

theorem taken_of_le {n : ℕ} {bs : List UInt8} (h : bs.length ≤ n) : taken (some n) bs = bs :=
  List.take_of_length_le h

@[simp] theorem leaves_nil (room : Option ℕ) : leaves room [] = room := by
  cases room <;> rfl

@[simp] theorem taken_nil (room : Option ℕ) : taken room [] = [] := by
  cases room with
  | none => rfl
  | some n => exact List.take_nil

/-- The room behind two pieces. -/
theorem leaves_append (room : Option ℕ) (as bs : List UInt8) :
    leaves room (as ++ bs) = leaves (leaves room as) bs := by
  cases room with
  | none => rfl
  | some n =>
      rcases Nat.lt_or_ge n as.length with hlt | hle
      · rw [leaves_of_lt hlt, leaves_of_lt (by rw [List.length_append]; omega)]
        rfl
      · rw [leaves_of_le hle, leaves, leaves, List.length_append, Nat.sub_add_eq]
        exact if_congr (by omega) rfl rfl

/-- **What a connection takes of two pieces.** -/
theorem taken_append (room : Option ℕ) (as bs : List UInt8) :
    taken room (as ++ bs) = taken room as ++ taken (leaves room as) bs := by
  cases room with
  | none => rfl
  | some n =>
      rw [taken, List.take_append]
      rcases Nat.lt_or_ge n as.length with hlt | hle
      · rw [leaves_of_lt hlt, Nat.sub_eq_zero_of_le (Nat.le_of_lt hlt), List.take_zero]
        rfl
      · rw [leaves_of_le hle]
        rfl

/-! ### As long as there is room -/

variable {env : Env X τ} {ended : Bool}

/-- The next move. -/
theorem Prog.advance_taking {p : Prog X α} {s : Io τ} {q : Party X τ α} {sent : List UInt8}
    (h : p.advance env ended s = some (q, sent)) {n : ℕ} (hn : sent.length ≤ n) :
    (p.taking (some n)).advance env ended s =
      some (⟨q.prog.taking (some (n - sent.length)), q.io⟩, sent) := by
  cases p with
  | ret a => cases h
  | readExact m k =>
      rw [taking]
      rw [advance] at h ⊢
      split_ifs at h ⊢ <;> cases h <;> rfl
  | read m k =>
      rw [taking]
      rw [advance] at h ⊢
      split_ifs at h ⊢ <;> cases h <;> rfl
  | writeAll bs k =>
      cases h
      rw [taking_writeAll k hn]
      rfl
  | call o k =>
      cases h
      rw [taking_call]
      rfl

/-- **As long as there is room**, a party moves as it does otherwise. -/
theorem Moves.taking {p q : Party X τ α} {sent : List UInt8} (h : Moves env ended p q sent) {n : ℕ}
    (hn : sent.length ≤ n) :
    Moves env ended ⟨p.prog.taking (some n), p.io⟩
      ⟨q.prog.taking (some (n - sent.length)), q.io⟩ sent := by
  induction h generalizing n with
  | refl p => exact .refl _
  | @cons p q r sent sent' h _ ih =>
      rw [List.length_append] at hn ⊢
      rw [Nat.sub_add_eq]
      exact .cons (Prog.advance_taking h (by omega)) (ih (by omega))

/-- **As long as there is room**, a party answers as it does otherwise. -/
theorem Responds.upTo {p q : Party X τ α} {script : List (List UInt8 × List UInt8)}
    (h : Responds env p script q) (n : ℕ) :
    Responds env ⟨p.prog.upTo ((script.flatMap Prod.snd).length + n), p.io⟩ script
      ⟨q.prog.upTo n, q.io⟩ := by
  induction h with
  | done p =>
      rw [List.flatMap_nil, List.length_nil, Nat.zero_add]
      exact .done _
  | @answer a b c question answer rest hanswer _ ih =>
      have hlen : (((question, answer) :: rest).flatMap Prod.snd).length =
          answer.length + (rest.flatMap Prod.snd).length := List.length_append
      have hmoves := (hanswer.taking (n := answer.length + ((rest.flatMap Prod.snd).length + n))
        (Nat.le_add_right _ _)).bind fun r => Prog.ret r.1
      rw [Nat.add_sub_cancel_left] at hmoves
      rw [hlen, Nat.add_assoc]
      exact .answer hmoves ih

/-! ### Enough has arrived -/

/-- **What has arrived is enough** for the program, with so much room on its connection: how it ends,
and what becomes of the connection. -/
def Suffices (env : Env X τ) (p : Act X ε α) (room : Option ℕ) (s : Io τ) (r : Except ε α)
    (room' : Option ℕ) (s' : Io τ) : Prop :=
  ∀ rest, (p.run.taking room).run env (s.fed rest) = ((r, room'), s'.fed rest)

/-- A program that comes to its end before the connection is closed. -/
theorem Prog.run_taking {p : Prog X α} {s s' : Io τ} {a : α} (h : p.run env s = (a, s')) :
    ∃ sent, s'.output = s.output ++ sent ∧ ∀ n, sent.length ≤ n →
      (p.taking (some n)).run env s = ((a, some (n - sent.length)), s') := by
  induction p generalizing s with
  | ret b =>
      cases h
      exact ⟨[], (List.append_nil _).symm, fun n _ => rfl⟩
  | readExact m k ih =>
      rw [run] at h
      split_ifs at h with hle
      · obtain ⟨sent, hout, hrun⟩ := ih _ h
        refine ⟨sent, hout, fun n hn => ?_⟩
        rw [taking, run, if_pos hle]
        exact hrun n hn
      · obtain ⟨sent, hout, hrun⟩ := ih _ h
        refine ⟨sent, hout, fun n hn => ?_⟩
        rw [taking, run, if_neg hle]
        exact hrun n hn
  | read m k ih =>
      rw [run] at h
      split_ifs at h with hend
      · obtain ⟨sent, hout, hrun⟩ := ih _ h
        refine ⟨sent, hout, fun n hn => ?_⟩
        rw [taking, run, if_pos hend]
        exact hrun n hn
      · obtain ⟨sent, hout, hrun⟩ := ih _ h
        refine ⟨sent, hout, fun n hn => ?_⟩
        rw [taking, run, if_neg hend]
        exact hrun n hn
  | writeAll bs k ih =>
      obtain ⟨sent, hout, hrun⟩ := ih _ h
      refine ⟨bs ++ sent, by rw [hout, List.append_assoc], fun n hn => ?_⟩
      rw [List.length_append] at hn ⊢
      rw [taking_writeAll k (by omega), run_writeAll, hrun _ (by omega), Nat.sub_add_eq]
  | call o k ih =>
      obtain ⟨sent, hout, hrun⟩ := ih _ h
      refine ⟨sent, hout, fun n hn => ?_⟩
      rw [taking_call, run_call]
      exact hrun n hn

namespace Suffices

variable {p : Act X ε α} {room room₁ room' : Option ℕ} {s s₁ s' : Io τ} {a : α} {r : Except ε α}

/-- **A program that returns while there is room.** -/
theorem of_enough (h : Enough env p s a s') {sent : List UInt8} (hsent : s'.output = s.output ++ sent)
    {n : ℕ} (hn : sent.length ≤ n) :
    Suffices env p (some n) s (.ok a) (some (n - sent.length)) s' := by
  intro rest
  obtain ⟨sent', hout, hrun⟩ := Prog.run_taking (h rest)
  obtain rfl : sent = sent' := List.append_cancel_left (hsent.symm.trans hout)
  exact hrun n hn

/-- A program that returns and has sent nothing. -/
theorem of_silent (h : Enough env p s a s') (hsilent : s'.output = s.output) {n : ℕ} :
    Suffices env p (some n) s (.ok a) (some n) s' :=
  of_enough h (hsilent.trans (List.append_nil _).symm) (Nat.zero_le n)

/-- A program that does nothing but call. -/
theorem of_callsAlone (hp : p.run.CallsAlone) (h : Enough env p s a s') (room : Option ℕ) :
    Suffices env p room s (.ok a) room s' := by
  intro rest
  rw [hp.taking, Prog.run_bind, show p.run.run env (s.fed rest) = _ from h rest]
  rfl

/-- A program that has done its work. -/
theorem pure (a : α) : Suffices env (pure a : Act X ε α) room s (.ok a) room s :=
  of_callsAlone (by trivial) (.pure a s) room

/-- A program that fails. -/
theorem throw (e : ε) : Suffices env (throw e : Act X ε α) room s (.error e) room s :=
  fun rest => congrArg (fun q : Prog X _ => q.run env (s.fed rest)) (Prog.taking_ret _)

/-- **One program after the other.** -/
theorem bind {f : α → Act X ε β} {r : Except ε β} (hp : Suffices env p room s (.ok a) room₁ s₁)
    (hf : Suffices env (f a) room₁ s₁ r room' s') : Suffices env (p >>= f) room s r room' s' := by
  intro rest
  rw [ExceptT.run_bind, Prog.taking_bind, Prog.run_bind, hp rest]
  exact hf rest

/-- A program that fails is not followed by anything. -/
theorem bind_error (f : α → Act X ε β) {e : ε} (hp : Suffices env p room s (.error e) room' s') :
    Suffices env (p >>= f) room s (.error e) room' s' := by
  intro rest
  rw [ExceptT.run_bind, Prog.taking_bind, Prog.run_bind, hp rest]
  exact congrArg (fun q : Prog X _ => q.run env (s'.fed rest)) (Prog.taking_ret _)

theorem attempt (hp : Suffices env p room s r room' s') :
    Suffices env (attempt p : Act X ε' _) room s (.ok r) room' s' := by
  intro rest
  rw [Program.attempt, ExceptT.run_lift, map_eq_pure_bind, Prog.taking_bind, Prog.run_bind, hp rest]
  exact congrArg (fun q : Prog X _ => q.run env (s'.fed rest)) (Prog.taking_ret _)

theorem mapErr (hp : Suffices env p room s r room' s') (f : ε → ε') :
    Suffices env (mapErr f p) room s (r.mapError f) room' s' := by
  intro rest
  rw [Program.mapErr, ExceptT.run_mk, Prog.taking_bind, Prog.run_bind, hp rest]
  exact congrArg (fun q : Prog X _ => q.run env (s'.fed rest)) (Prog.taking_ret _)

/-- **A write** goes through if there is room for it. -/
theorem writeAll (room : Option ℕ) (bs : List UInt8) (s : Io τ) :
    Suffices env (writeAll bs : Act X ε Bool) room s (.ok (leaves room bs).isSome) (leaves room bs)
      { s with output := s.output ++ taken room bs } := by
  intro rest
  have hprog : (Program.writeAll bs : Act X ε Bool).run =
      Prog.writeAll bs fun r => Prog.ret (Except.ok r) := rfl
  rw [hprog]
  cases room with
  | none =>
      rw [Prog.taking, Prog.taking_ret, taken, List.append_nil]
      rfl
  | some n =>
      rcases Nat.lt_or_ge n bs.length with hlt | hle
      · rw [Prog.taking_writeAll_cut _ hlt, leaves_of_lt hlt, Prog.taking_ret]
        rfl
      · rw [Prog.taking_writeAll _ hle, leaves_of_le hle, taken_of_le hle, Prog.run_writeAll,
          Prog.taking_ret]
        rfl

/-- A `try` block that ends well, and what is done finally. -/
theorem tryFinally {p : Act X (Stop ε) α} {q : Act X (Stop ε) Unit}
    (hp : Suffices env p room s (.ok a) room₁ s₁) (hq : Suffices env q room₁ s₁ (.ok ()) room' s') :
    Suffices env (tryFinally p q) room s (.ok a) room' s' := by
  rw [Program.tryFinally]
  exact hp.attempt.bind (hq.bind (.pure a))

/-- A block whose errors are ignored. -/
theorem ignoring {p : Act X (Stop ε) Unit} {r : Except (Stop ε) Unit}
    (hp : Suffices env p room s r room' s') (hr : r ≠ .error .ranOut) :
    Suffices env (ignoring p) room s (.ok ()) room' s' := by
  rw [Program.ignoring]
  refine hp.attempt.bind ?_
  rcases r with (e | _) | ⟨⟩
  · exact .pure ()
  · exact absurd rfl hr
  · exact .pure ()

/-- The moves of a party for which enough has arrived. -/
theorem moves (h : Suffices env p room s r room' s') {sent : List UInt8}
    (hsent : s'.output = s.output ++ sent) (ended : Bool) :
    Moves env ended ⟨p.run.taking room, s⟩ ⟨.ret (r, room'), s'⟩ sent := by
  obtain ⟨sent', hsent', hmoves⟩ :=
    moves_of_run_fed (Prog.ret (X := X)) (List.cons_ne_nil 0 []) (h [0]) ended
  obtain rfl : sent = sent' := List.append_cancel_left (hsent.symm.trans hsent')
  rwa [Prog.bind_ret] at hmoves

end Suffices

end Program

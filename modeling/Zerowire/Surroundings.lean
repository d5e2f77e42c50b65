/-
**Surroundings with a memory.**

The surroundings of a program (`Zerowire/Program.lean`) answer its operations and may be anything:
a device, an operating system, a file.  Two layers can be put around them.  A mutable variable, for
a program that keeps something from one call to the next and must keep it also when a call ends with
an error; and a log of what was asked and answered, for statements about the calls of a run.

Main definitions:

* `Program.Sig.withRef`, `Program.Env.withRef` — one mutable variable;
* `Program.getRef`, `Program.setRef`, `Program.callOp` — the operations of the two layers;
* `Program.Call`, `Program.Env.traced` — the log.

Main results:

* `Program.exec_getRef`, `Program.exec_setRef`, `Program.exec_callOp` — their closed runs;
* `Program.exec_read_some` — a `read` takes a nonempty piece off the front.
-/

import Zerowire.Program

set_option relaxedAutoImplicit false
set_option autoImplicit false

namespace Program

variable {X : Sig} {σ τ ε : Type}

/-! ### One mutable variable -/

/-- The operations on a variable of type `σ`, and those of the surroundings beneath. -/
inductive RefOp (O σ : Type) where
  | get
  | set (v : σ)
  | op (o : O)

/-- `X` with a mutable variable. -/
def Sig.withRef (X : Sig) (σ : Type) : Sig where
  Op := RefOp X.Op σ
  Ans
    | .get => σ
    | .set _ => Unit
    | .op o => X.Ans o

/-- The variable is kept beside the state of the surroundings. -/
def Env.withRef (env : Env X τ) : Env (X.withRef σ) (σ × τ)
  | .get, s => (s.1, s)
  | .set v, s => ((), (v, s.2))
  | .op o, s => ((env o s.2).1, (s.1, (env o s.2).2))

/-- Read the variable. -/
def getRef : Act (X.withRef σ) ε σ := call (X := X.withRef σ) RefOp.get

/-- Write the variable. -/
def setRef (v : σ) : Act (X.withRef σ) ε Unit := call (X := X.withRef σ) (RefOp.set v)

/-- Call the surroundings beneath. -/
def callOp (o : X.Op) : Act (X.withRef σ) ε (X.Ans o) := call (X := X.withRef σ) (RefOp.op o)

@[simp] theorem exec_getRef (env : Env X τ) (s : Io (σ × τ)) :
    exec env.withRef (getRef : Act (X.withRef σ) ε σ) s = (.ok s.env.1, s) := rfl

@[simp] theorem exec_setRef (env : Env X τ) (v : σ) (s : Io (σ × τ)) :
    exec env.withRef (setRef v : Act (X.withRef σ) ε Unit) s =
      (.ok (), { s with env := (v, s.env.2) }) := rfl

@[simp] theorem exec_callOp (env : Env X τ) (o : X.Op) (s : Io (σ × τ)) :
    exec env.withRef (callOp o : Act (X.withRef σ) ε (X.Ans o)) s =
      (.ok (env o s.env.2).1, { s with env := (s.env.1, (env o s.env.2).2) }) := rfl

theorem CallsOnly.getRef : CallsOnly (getRef : Act (X.withRef σ) ε σ) := .call _

theorem CallsOnly.callOp (o : X.Op) : CallsOnly (callOp o : Act (X.withRef σ) ε (X.Ans o)) :=
  .call _

@[simp] theorem answer_getRef (env : Env X τ) (s : σ × τ) :
    answer env.withRef (getRef : Act (X.withRef σ) ε σ) s = (.ok s.1, s) := rfl

@[simp] theorem answer_setRef (env : Env X τ) (v : σ) (s : σ × τ) :
    answer env.withRef (setRef v : Act (X.withRef σ) ε Unit) s = (.ok (), (v, s.2)) := rfl

@[simp] theorem answer_callOp (env : Env X τ) (o : X.Op) (s : σ × τ) :
    answer env.withRef (callOp o : Act (X.withRef σ) ε (X.Ans o)) s =
      (.ok (env o s.2).1, (s.1, (env o s.2).2)) := rfl

/-! ### A log -/

/-- A call with its answer. -/
abbrev Call (X : Sig) := Σ o : X.Op, X.Ans o

/-- The same surroundings, keeping a log of the calls that are worth it. -/
def Env.traced (keep : X.Op → Bool) (env : Env X τ) : Env X (List (Call X) × τ) := fun o s =>
  ((env o s.2).1, (if keep o then s.1 ++ [⟨o, (env o s.2).1⟩] else s.1, (env o s.2).2))

/-- The log does not change the answers. -/
@[simp] theorem Env.traced_ans (keep : X.Op → Bool) (env : Env X τ) (o : X.Op)
    (s : List (Call X) × τ) : (env.traced keep o s).1 = (env o s.2).1 := rfl

theorem Env.traced_keep {keep : X.Op → Bool} (env : Env X τ) {o : X.Op} (h : keep o = true)
    (s : List (Call X) × τ) :
    (env.traced keep o s).2 = (s.1 ++ [⟨o, (env o s.2).1⟩], (env o s.2).2) := by
  rw [Env.traced, if_pos h]

/-! ### Reading in pieces -/

theorem exec_read_none (env : Env X τ) {n : ℕ} {s : Io τ} (hn : n ≠ 0) (h : s.input = []) :
    exec env (read n : Act X ε _) s = (.ok none, s) := by
  rw [exec, read, ExceptT.run_lift, map_eq_pure_bind, Prog.read_bind, Prog.run, if_pos ⟨h, hn⟩]
  rfl

/-- **A `read` takes a piece off the front**, of at least one byte and at most the size asked
for. -/
theorem exec_read_some (env : Env X τ) {n : ℕ} {s : Io τ} (hn : n ≠ 0) (h : s.input ≠ []) :
    ∃ m chunks, 0 < m ∧ m ≤ n ∧ m ≤ s.input.length ∧
      exec env (read n : Act X ε _) s =
        (.ok (some (s.input.take m)), { s with input := s.input.drop m, chunks }) := by
  have hpos : 0 < s.input.length := List.length_pos_iff.2 h
  have hsize : 0 < pieceSize s.chunks n ∧ pieceSize s.chunks n ≤ n := by
    rw [pieceSize]
    omega
  -- a piece that goes beyond the end is the rest
  refine ⟨min (pieceSize s.chunks n) s.input.length, s.chunks.tail, by omega, by omega, by omega, ?_⟩
  have htake : s.input.take (pieceSize s.chunks n) =
      s.input.take (min (pieceSize s.chunks n) s.input.length) := by
    rw [List.take_eq_take_iff]
    omega
  have hdrop : s.input.drop (pieceSize s.chunks n) =
      s.input.drop (min (pieceSize s.chunks n) s.input.length) := by
    rcases Nat.le_total (pieceSize s.chunks n) s.input.length with hle | hle
    · rw [Nat.min_eq_left hle]
    · rw [Nat.min_eq_right hle, List.drop_eq_nil_of_le hle, List.drop_length]
  rw [exec, read, ExceptT.run_lift, map_eq_pure_bind, Prog.read_bind, Prog.run,
    if_neg (fun hc => h hc.1), ← htake, ← hdrop]
  rfl

end Program

/-
**The session count across restarts of the sender's service** (`SenderService.kt`).

The number of connected receivers is kept in one counter for the whole process.  A service instance
counts a connection up when it accepts one, and the thread of the session counts it down when it
ends; destroying the instance sets the counter to zero.  The threads do not end with their instance:
they count down whenever they are done, and the count is by then that of another instance.

Main definitions:

* `Zerowire.ServiceState` — the counter, with the rest of the health of the service;
* `Zerowire.Restarts`, `Zerowire.RestartStep`, `Zerowire.Restarts.step` — instances, session threads
  and the steps that touch the counter;
* `Zerowire.Restarts.CountRight` — the counter tells the sessions of the current instance;
* `Zerowire.Restarts.InPlace` — a step of the current instance, or one that finds nothing to
  disturb.

Main results:

* `Zerowire.Restarts.countRight_step_iff` — which steps keep the count right;
* `Zerowire.Restarts.count_right_iff` — **when the count is right throughout**, in any order of
  steps.
-/

import Mathlib.Data.List.Count
import Mathlib.Data.UInt
import Zerowire.Schedule

set_option relaxedAutoImplicit false
set_option autoImplicit false

namespace Zerowire

/-! ### The state of the service -/

/-- `ServiceState`: what the process knows about the health of its service. -/
structure ServiceState where
  port : Int32 := 0
  sessions : Int32 := 0
  mdnsRegistered : Bool := false
  lastError : Option String := none
  deriving DecidableEq

namespace ServiceState

/-- `incSessions`. -/
def incSessions (st : ServiceState) : ServiceState := { st with sessions := st.sessions + 1 }

/-- `decSessions`; the count is kept from becoming negative. -/
def decSessions (st : ServiceState) : ServiceState :=
  { st with sessions := if st.sessions - 1 < 0 then 0 else st.sessions - 1 }

/-- `reset`. -/
def reset (_st : ServiceState) : ServiceState where
  port := 0
  sessions := 0
  mdnsRegistered := false
  lastError := none

/-- `ServiceState.Snapshot`. -/
structure Snapshot where
  port : Int32
  sessions : Int32
  mdnsRegistered : Bool
  lastError : Option String
  deriving DecidableEq

/-- `snapshot`. -/
def snapshot (st : ServiceState) : Snapshot where
  port := st.port
  sessions := st.sessions
  mdnsRegistered := st.mdnsRegistered
  lastError := st.lastError

/-- Counting up is exact below the largest `Int`, where it wraps around. -/
theorem toInt_incSessions {st : ServiceState} {n : ℕ} (h : st.sessions.toInt = n) :
    st.incSessions.sessions.toInt = (n + 1 : ℕ) ↔ n + 1 < 2 ^ 31 := by
  have hlt := st.incSessions.sessions.toInt_lt
  constructor
  · intro heq
    omega
  · intro hn
    rw [incSessions, Int32.toInt_add, h, Int32.toInt_one, Int.bmod_eq_of_le (by omega) (by omega)]
    rfl

/-- After counting up the count is another one. -/
theorem toInt_incSessions_ne {st : ServiceState} {n : ℕ} (h : st.sessions.toInt = n) :
    st.incSessions.sessions.toInt ≠ n := by
  rw [← h, ne_eq, Int32.toInt_inj, incSessions, Int32.add_eq_left]
  decide

/-- Counting down stops at zero. -/
theorem toInt_decSessions {st : ServiceState} {n : ℕ} (h : st.sessions.toInt = n) :
    st.decSessions.sessions.toInt = (n - 1 : ℕ) := by
  have hlt := st.sessions.toInt_lt
  have hsub : (st.sessions - 1).toInt = n - 1 := by
    rw [Int32.toInt_sub, h, Int32.toInt_one, Int.bmod_eq_of_le (by omega) (by omega)]
  rw [decSessions]
  simp only [Int32.lt_iff_toInt_lt, hsub, Int32.toInt_zero]
  split_ifs with hneg
  · rw [Int32.toInt_zero]
    omega
  · rw [hsub]
    omega

end ServiceState

/-! ### Restarts -/

/-- **A process in which service instances come and go**: the state they share, the session threads
that have not ended, each told by the number of the instance that accepted its connection, the
instance that is there now, if one is, and how many there have been. -/
structure Restarts where
  state : ServiceState := {}
  threads : List ℕ := []
  current : Option ℕ := none
  created : ℕ := 0

/-- The steps that touch the counter, and the creation of an instance.  A connection may be counted
by an instance that has been destroyed meanwhile: its accept loop may be just past `accept`. -/
inductive RestartStep where
  | create
  | destroy
  | accept (inst : ℕ)
  | sessionEnd (inst : ℕ)
  deriving DecidableEq

namespace Restarts

/-- **One step**, if it is possible. -/
def step (r : Restarts) : RestartStep → Option Restarts
  | .create =>
      if r.current = none then some { r with current := some r.created, created := r.created + 1 }
      else none
  | .destroy =>
      if r.current = none then none else some { r with state := r.state.reset, current := none }
  | .accept i =>
      if i < r.created then
        some { r with state := r.state.incSessions, threads := i :: r.threads }
      else none
  | .sessionEnd i =>
      if i ∈ r.threads then
        some { r with state := r.state.decSessions, threads := r.threads.erase i }
      else none

/-- The threads of an instance. -/
def threadsOf : Option ℕ → List ℕ → ℕ
  | some i, threads => threads.count i
  | none, _ => 0

/-- **The sessions accepted by the current instance** whose thread has not ended. -/
def connected (r : Restarts) : ℕ := threadsOf r.current r.threads

theorem threadsOf_cons (current : Option ℕ) (i : ℕ) (threads : List ℕ) :
    threadsOf current (i :: threads) =
      threadsOf current threads + if current = some i then 1 else 0 := by
  cases current with
  | none => rfl
  | some j =>
      rw [threadsOf, threadsOf, List.count_cons]
      simp only [beq_iff_eq, Option.some.injEq, @eq_comm _ j i]

theorem threadsOf_erase (current : Option ℕ) (i : ℕ) (threads : List ℕ) :
    threadsOf current (threads.erase i) =
      threadsOf current threads - if current = some i then 1 else 0 := by
  cases current with
  | none => split_ifs <;> rfl
  | some j =>
      rw [threadsOf, threadsOf, List.count_erase]
      simp only [beq_iff_eq, Option.some.injEq, @eq_comm _ j i]

/-- **The count is right**: `snapshot().sessions` tells the sessions of the current instance. -/
def CountRight (r : Restarts) : Prop := r.state.snapshot.sessions.toInt = r.connected

instance (r : Restarts) : Decidable r.CountRight := inferInstanceAs (Decidable (_ = _))

/-- **A step that the current instance is the one to take**, or that finds nothing to disturb: a
connection is counted by the current instance, which has room for it in its `Int`, and a session
that ends is one of the current instance, unless that has none. -/
def InPlace (r : Restarts) : RestartStep → Prop
  | .create | .destroy => True
  | .accept i => r.current = some i ∧ r.connected + 1 < 2 ^ 31
  | .sessionEnd i => r.current = some i ∨ r.connected = 0

/-- Instances are numbered as they come. -/
structure Numbered (r : Restarts) : Prop where
  threads_lt : ∀ i ∈ r.threads, i < r.created
  current_lt : ∀ i, r.current = some i → i < r.created

theorem Numbered.step {r r' : Restarts} {a : RestartStep} (h : r.Numbered)
    (hstep : r.step a = some r') : r'.Numbered := by
  cases a with
  | create =>
      rw [Restarts.step] at hstep
      split_ifs at hstep with hnone
      cases hstep
      refine ⟨fun i hi => Nat.lt_succ_of_lt (h.threads_lt i hi), ?_⟩
      rintro i ⟨⟩
      exact Nat.lt_succ_self _
  | destroy =>
      rw [Restarts.step] at hstep
      split_ifs at hstep with hnone
      cases hstep
      exact ⟨h.threads_lt, fun i hi => by cases hi⟩
  | accept i =>
      rw [Restarts.step] at hstep
      split_ifs at hstep with hi
      cases hstep
      refine ⟨fun j hj => ?_, h.current_lt⟩
      rcases List.mem_cons.1 hj with rfl | hj
      · exact hi
      · exact h.threads_lt j hj
  | sessionEnd i =>
      rw [Restarts.step] at hstep
      split_ifs at hstep with hi
      cases hstep
      exact ⟨fun j hj => h.threads_lt j (List.mem_of_mem_erase hj), h.current_lt⟩

/-- **Which steps keep the count right.** -/
theorem countRight_step_iff {r r' : Restarts} {a : RestartStep} (hnum : r.Numbered)
    (h : r.CountRight) (hstep : r.step a = some r') : r'.CountRight ↔ r.InPlace a := by
  have hcount : r.state.sessions.toInt = (r.connected : ℕ) := h
  cases a with
  | create =>
      rw [step] at hstep
      split_ifs at hstep with hnone
      cases hstep
      -- the new instance has accepted nothing yet
      have hnew : r.threads.count r.created = 0 :=
        List.count_eq_zero.2 fun hmem => absurd (hnum.threads_lt _ hmem) (Nat.lt_irrefl _)
      have hzero : r.connected = 0 := by rw [connected, hnone, threadsOf]
      refine ⟨fun _ => trivial, fun _ => ?_⟩
      rw [hzero] at hcount
      change r.state.sessions.toInt = (r.threads.count r.created : ℕ)
      rw [hcount, hnew]
  | destroy =>
      rw [step] at hstep
      split_ifs at hstep with hnone
      cases hstep
      exact ⟨fun _ => trivial, fun _ => rfl⟩
  | accept i =>
      rw [step] at hstep
      split_ifs at hstep with hi
      cases hstep
      rw [InPlace]
      change r.state.incSessions.sessions.toInt = (threadsOf r.current (i :: r.threads) : ℕ) ↔ _
      rw [threadsOf_cons]
      by_cases hcur : r.current = some i
      · rw [if_pos hcur, and_iff_right hcur]
        exact ServiceState.toInt_incSessions hcount
      · rw [if_neg hcur]
        exact ⟨fun heq => absurd heq (ServiceState.toInt_incSessions_ne hcount),
          fun hin => absurd hin.1 hcur⟩
  | sessionEnd i =>
      rw [step] at hstep
      split_ifs at hstep with hi
      cases hstep
      rw [InPlace]
      change r.state.decSessions.sessions.toInt = (threadsOf r.current (r.threads.erase i) : ℕ) ↔ _
      rw [threadsOf_erase, ServiceState.toInt_decSessions hcount, ← connected]
      by_cases hcur : r.current = some i
      · rw [if_pos hcur]
        exact ⟨fun _ => Or.inl hcur, fun _ => rfl⟩
      · rw [if_neg hcur, or_iff_right hcur]
        omega

/-- **When the count is right throughout.**  In any order of steps from a process without a service,
the count is right in every state passed, exactly if every step is one of the current instance or
finds nothing to disturb. -/
theorem count_right_iff (steps : List RestartStep) :
    Schedule.Throughout step {} CountRight steps ↔ Schedule.EveryStep step {} InPlace steps := by
  have hstart : Numbered {} := ⟨fun i hi => (by cases hi), fun i hi => (by cases hi)⟩
  have hright : CountRight {} := rfl
  exact Schedule.throughout_iff (fun _ _ _ hnum hstep => Numbered.step hnum hstep)
    (fun _ _ _ hnum h hstep => countRight_step_iff hnum h hstep) hstart hright steps

/-- A session that outlives its instance ends while the next instance has one. -/
def lateEnd : List RestartStep :=
  [.create, .accept 0, .destroy, .create, .accept 1, .sessionEnd 0]

/-- The count is then 0, and there is a session. -/
theorem lateEnd_not_counted : ¬ Schedule.Throughout step {} CountRight lateEnd := by
  intro h
  exact absurd (h lateEnd _ (List.prefix_refl _) (.of_foldlM rfl)) (by decide)

end Restarts

end Zerowire

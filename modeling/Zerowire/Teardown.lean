/-
**Stopping the sender's service** (`SenderService.kt`, `startAcceptLoop` and `onDestroy`).

Two loops share the list of sessions.  The accept loop takes a connection, counts it, makes a
session of it, puts the session into the list and starts its thread; `onDestroy` clears the flag of
the accept loop, closes the listener, stops each session in the list and clears the list.  The list
is a `CopyOnWriteArrayList`, so that the pass of `onDestroy` is over the sessions that are in it
when the pass begins.  The thread of a session takes it out of the list when the session has ended.

Main definitions:

* `Zerowire.Teardown`, `Zerowire.TeardownStep`, `Zerowire.Teardown.step` — the shared state, the
  parties and their atomic steps;
* `Zerowire.Teardown.HeldAtPass` — a connection that is between `accept` and the list when the pass
  begins;
* `Zerowire.Teardown.AllStopped` — every session that was started has ended or was stopped.

Main results:

* `Zerowire.Teardown.Tracked.step` — the invariant of the two loops;
* `Zerowire.Teardown.allStopped_iff` — **when stopping the service stops every session.**
-/

import Zerowire.ServiceState

set_option relaxedAutoImplicit false
set_option autoImplicit false

namespace Zerowire

/-! ### The two loops -/

/-- Where the accept loop is: about to check the flag, in `accept`, or with a connection in its
hands that has been accepted, counted, made a session, or put into the list; or past its end. -/
inductive AcceptLoop where
  | check
  | accepting
  | accepted (c : ℕ)
  | counted (c : ℕ)
  | made (c : ℕ)
  | listed (c : ℕ)
  | exited
  deriving DecidableEq

/-- Where `onDestroy` is: not called yet, past clearing the flag, past closing the listener, in its
pass with some sessions still to be stopped, past clearing the list, or finished. -/
inductive DestroyPass where
  | idle
  | flagCleared
  | closed
  | stopping (todo : List ℕ)
  | cleared
  | finished
  deriving DecidableEq

/-- The thread of a session: not started, in `session.run()`, past it, past taking the session out
of the list, and past counting it down. -/
inductive SessionThread where
  | absent
  | running
  | ended
  | removed
  | gone
  deriving DecidableEq

/-- **The shared state, and where each party is.**  Connections and their sessions are numbered as
they come. -/
structure Teardown where
  acceptLoopAlive : Bool := true
  isClosed : Bool := false
  sessions : List ℕ := []
  state : ServiceState := {}
  loop : AcceptLoop := .check
  destroy : DestroyPass := .idle
  thread : ℕ → SessionThread := fun _ => .absent
  /-- The sessions on which `stop()` has been called. -/
  stopped : List ℕ := []
  next : ℕ := 0

/-- The atomic steps: the accept loop goes on, `accept` throws, `onDestroy` goes on, and the thread
of a session goes on. -/
inductive TeardownStep where
  | loop
  | acceptFails
  | destroy
  | session (c : ℕ)
  deriving DecidableEq

namespace Teardown

/-- The accept loop goes on.  In `accept` it waits for a connection, and `accept` throws if the
listener is closed. -/
def stepLoop (t : Teardown) : Option Teardown :=
  match t.loop with
  | .check =>
      if t.acceptLoopAlive ∧ ¬ t.isClosed then some { t with loop := .accepting }
      else some { t with loop := .exited }
  | .accepting =>
      if t.isClosed then none else some { t with loop := .accepted t.next, next := t.next + 1 }
  | .accepted c => some { t with loop := .counted c, state := t.state.incSessions }
  | .counted c => some { t with loop := .made c }
  | .made c => some { t with loop := .listed c, sessions := t.sessions ++ [c] }
  | .listed c =>
      some { t with loop := .check, thread := Function.update t.thread c .running }
  | .exited => none

/-- `accept` throws, whether the listener is closed or not, and the loop is left. -/
def stepAcceptFails (t : Teardown) : Option Teardown :=
  if t.loop = .accepting then some { t with loop := .exited } else none

/-- `onDestroy` goes on. -/
def stepDestroy (t : Teardown) : Option Teardown :=
  match t.destroy with
  | .idle => some { t with destroy := .flagCleared, acceptLoopAlive := false }
  | .flagCleared => some { t with destroy := .closed, isClosed := true }
  | .closed => some { t with destroy := .stopping t.sessions }
  | .stopping (c :: todo) => some { t with destroy := .stopping todo, stopped := c :: t.stopped }
  | .stopping [] => some { t with destroy := .cleared, sessions := [] }
  | .cleared => some { t with destroy := .finished, state := t.state.reset }
  | .finished => none

/-- The thread of a session goes on: `run` returns, the session leaves the list, and is counted
down. -/
def stepSession (t : Teardown) (c : ℕ) : Option Teardown :=
  match t.thread c with
  | .running => some { t with thread := Function.update t.thread c .ended }
  | .ended =>
      some { t with
        thread := Function.update t.thread c .removed
        sessions := t.sessions.erase c }
  | .removed =>
      some { t with
        thread := Function.update t.thread c .gone
        state := t.state.decSessions }
  | .absent | .gone => none

/-- **One atomic step**, if it is possible. -/
def step (t : Teardown) : TeardownStep → Option Teardown
  | .loop => t.stepLoop
  | .acceptFails => t.stepAcceptFails
  | .destroy => t.stepDestroy
  | .session c => t.stepSession c

/-! ### What is asked -/

/-- The session was started. -/
def Started (t : Teardown) (c : ℕ) : Prop := t.thread c ≠ .absent

/-- The session has ended. -/
def Ended (t : Teardown) (c : ℕ) : Prop :=
  t.thread c = .ended ∨ t.thread c = .removed ∨ t.thread c = .gone

/-- `stop()` was called on the session. -/
def Stopped (t : Teardown) (c : ℕ) : Prop := c ∈ t.stopped

/-- **Every session that was started has ended or was stopped.** -/
def AllStopped (t : Teardown) : Prop := ∀ c, t.Started c → t.Ended c ∨ t.Stopped c

/-- `onDestroy` has finished and the accept loop has exited. -/
def Finished (t : Teardown) : Prop := t.destroy = .finished ∧ t.loop = .exited

/-- The connection that the accept loop has accepted and not put into the list. -/
def unlisted (t : Teardown) : Option ℕ :=
  match t.loop with
  | .accepted c | .counted c | .made c => some c
  | .check | .accepting | .listed _ | .exited => none

/-- **The connection `c` is between `accept` and the list when the pass of `onDestroy` begins.** -/
def HeldAtPass (steps : List TeardownStep) (c : ℕ) : Prop :=
  ∃ pre t, pre ++ [.destroy] <+: steps ∧ Schedule.Runs step {} pre t ∧ t.destroy = .closed ∧
    t.unlisted = some c

/-! ### The invariant -/

/-- The connection that the accept loop has in its hands. -/
def inHand (t : Teardown) : Option ℕ :=
  match t.loop with
  | .accepted c | .counted c | .made c | .listed c => some c
  | .check | .accepting | .exited => none

/-- The sessions that `onDestroy` has still to stop. -/
def todo (t : Teardown) : List ℕ :=
  match t.destroy with
  | .stopping todo => todo
  | .idle | .flagCleared | .closed | .cleared | .finished => []

/-- The pass of `onDestroy` has begun. -/
def PassBegun (t : Teardown) : Prop :=
  t.destroy ≠ .idle ∧ t.destroy ≠ .flagCleared ∧ t.destroy ≠ .closed

/-- **The invariant of the two loops**, where `held` is the connection held when the pass began:
until then every running session is in the list, and from then on every session that is running, or
about to run, is still to be stopped, has been stopped, or is the one held. -/
structure Tracked (t : Teardown) (held : ℕ → Prop) : Prop where
  thread_fresh : ∀ c, t.next ≤ c → t.thread c = .absent
  known : ∀ c, c ∈ t.sessions ∨ c ∈ t.todo ∨ c ∈ t.stopped → c < t.next
  inHand_known : ∀ c, t.inHand = some c → c < t.next ∧ t.thread c = .absent
  unlisted_new : ∀ c, t.unlisted = some c → c ∉ t.sessions ∧ c ∉ t.todo ∧ c ∉ t.stopped
  closed_begun : t.destroy ≠ .idle → t.destroy ≠ .flagCleared → t.isClosed = true
  not_held : ¬ t.PassBegun → ∀ c, ¬ held c
  mem_sessions : ¬ t.PassBegun → ∀ c, t.loop = .listed c ∨ t.thread c = .running → c ∈ t.sessions
  caught : t.PassBegun → ∀ c, t.inHand = some c ∨ t.thread c = .running →
    c ∈ t.todo ∨ c ∈ t.stopped ∨ held c
  missed : ∀ c, held c → c ∉ t.todo ∧ c ∉ t.stopped ∧ (t.inHand = some c ∨ t.Started c)

variable {t t' : Teardown} {held : ℕ → Prop}

/-- The accept loop keeps the invariant.  A connection is accepted only before the listener is
closed, so before the pass; it enters the list before its thread is started. -/
theorem Tracked.stepLoop (h : t.Tracked held) (hstep : t.stepLoop = some t') : t'.Tracked held := by
  rw [Teardown.stepLoop] at hstep
  obtain ⟨hfresh, hknown, hhand, hnew, hclosed, hnot, hmem, hcaught, hmissed⟩ := h
  cases hloop : t.loop with
  | check =>
      rw [hloop] at hstep
      simp only at hstep
      split_ifs at hstep
      · cases hstep
        constructor <;> grind [todo, PassBegun, inHand, unlisted, Started]
      · cases hstep
        constructor <;> grind [todo, PassBegun, inHand, unlisted, Started]
  | accepting =>
      rw [hloop] at hstep
      simp only at hstep
      split_ifs at hstep with hopen
      cases hstep
      -- the listener is still open, so the pass has not begun
      have hbefore : ¬ t.PassBegun := fun hbegun => hopen (hclosed hbegun.1 hbegun.2.1)
      have habsent : t.thread t.next = .absent := hfresh t.next (Nat.le_refl _)
      constructor <;> grind [todo, PassBegun, inHand, unlisted, Started]
  | accepted c =>
      rw [hloop] at hstep
      cases hstep
      constructor <;> grind [todo, PassBegun, inHand, unlisted, Started]
  | counted c =>
      rw [hloop] at hstep
      cases hstep
      constructor <;> grind [todo, PassBegun, inHand, unlisted, Started]
  | made c =>
      rw [hloop] at hstep
      cases hstep
      have hc : c < t.next ∧ t.thread c = .absent := hhand c (by rw [inHand, hloop])
      constructor <;> grind [todo, PassBegun, inHand, unlisted, Started]
  | listed c =>
      rw [hloop] at hstep
      cases hstep
      have hc : c < t.next ∧ t.thread c = .absent := hhand c (by rw [inHand, hloop])
      constructor <;> grind [todo, PassBegun, inHand, unlisted, Started]
  | exited =>
      rw [hloop] at hstep
      cases hstep

/-- An accept loop that ends in `accept` has nothing in its hands. -/
theorem Tracked.stepAcceptFails (h : t.Tracked held) (hstep : t.stepAcceptFails = some t') :
    t'.Tracked held := by
  rw [Teardown.stepAcceptFails] at hstep
  obtain ⟨hfresh, hknown, hhand, hnew, hclosed, hnot, hmem, hcaught, hmissed⟩ := h
  split_ifs at hstep with hloop
  cases hstep
  constructor <;> grind [todo, PassBegun, inHand, unlisted, Started]

/-- The thread of a session keeps the invariant: it leaves the list only when it has ended. -/
theorem Tracked.stepSession {c : ℕ} (h : t.Tracked held) (hstep : t.stepSession c = some t') :
    t'.Tracked held := by
  rw [Teardown.stepSession] at hstep
  obtain ⟨hfresh, hknown, hhand, hnew, hclosed, hnot, hmem, hcaught, hmissed⟩ := h
  cases hthread : t.thread c with
  | absent =>
      rw [hthread] at hstep
      cases hstep
  | running =>
      rw [hthread] at hstep
      cases hstep
      constructor <;> grind [todo, PassBegun, inHand, unlisted, Started]
  | ended =>
      rw [hthread] at hstep
      cases hstep
      have hstay {d : ℕ} (hd : d ∈ t.sessions) (hne : d ≠ c) : d ∈ t.sessions.erase c :=
        (List.mem_erase_of_ne hne).2 hd
      constructor <;> grind [todo, PassBegun, inHand, unlisted, Started]
  | removed =>
      rw [hthread] at hstep
      cases hstep
      constructor <;> grind [todo, PassBegun, inHand, unlisted, Started]
  | gone =>
      rw [hthread] at hstep
      cases hstep

/-- `onDestroy` keeps the invariant.  What is running when the pass begins is in the list, and will
be stopped; a connection that is not in the list yet is from then on the one held. -/
theorem Tracked.stepDestroy (h : t.Tracked held) (hstep : t.stepDestroy = some t') :
    t'.Tracked fun c => held c ∨ t.destroy = .closed ∧ t.unlisted = some c := by
  rw [Teardown.stepDestroy] at hstep
  obtain ⟨hfresh, hknown, hhand, hnew, hclosed, hnot, hmem, hcaught, hmissed⟩ := h
  cases hdestroy : t.destroy with
  | idle =>
      rw [hdestroy] at hstep
      cases hstep
      constructor <;> grind [todo, PassBegun, inHand, unlisted, Started]
  | flagCleared =>
      rw [hdestroy] at hstep
      cases hstep
      constructor <;> grind [todo, PassBegun, inHand, unlisted, Started]
  | closed =>
      rw [hdestroy] at hstep
      cases hstep
      have hbefore : ¬ t.PassBegun := fun hbegun => hbegun.2.2 hdestroy
      -- the pass goes through the list as it is now
      have hin (c : ℕ) (hc : t.inHand = some c ∨ t.thread c = .running) :
          c ∈ t.sessions ∨ t.unlisted = some c := by
        grind [inHand, unlisted]
      constructor <;> grind [todo, PassBegun, inHand, unlisted, Started]
  | stopping todo =>
      rw [hdestroy] at hstep
      cases todo with
      | nil =>
          cases hstep
          constructor <;> grind [todo, PassBegun, inHand, unlisted, Started]
      | cons c todo =>
          cases hstep
          constructor <;> grind [todo, PassBegun, inHand, unlisted, Started]
  | cleared =>
      rw [hdestroy] at hstep
      cases hstep
      constructor <;> grind [todo, PassBegun, inHand, unlisted, Started]
  | finished =>
      rw [hdestroy] at hstep
      cases hstep

/-- At the start nothing is in anybody's hands. -/
theorem tracked_start : Tracked {} fun _ => False where
  thread_fresh _ _ := rfl
  known c hc := by simp [todo] at hc
  inHand_known c hc := by cases hc
  unlisted_new c hc := by cases hc
  closed_begun h _ := absurd rfl h
  not_held _ _ := not_false
  mem_sessions _ c hc := by simp at hc
  caught h := absurd rfl h.1
  missed _ hc := hc.elim

/-! ### Schedules -/

/-- A connection is held at the pass of a longer schedule if it was held in the shorter one, or if
the last step begins the pass. -/
theorem heldAtPass_concat {steps : List TeardownStep} {a : TeardownStep}
    (hrun : Schedule.Runs step {} steps t) (c : ℕ) :
    HeldAtPass (steps ++ [a]) c ↔
      HeldAtPass steps c ∨ a = .destroy ∧ t.destroy = .closed ∧ t.unlisted = some c := by
  constructor
  · rintro ⟨pre, u, hpre, hu, hclosed, hun⟩
    rcases List.prefix_concat_iff.1 hpre with heq | hpre
    · obtain ⟨rfl, ha⟩ := List.append_singleton_inj.1 heq
      obtain rfl := hu.unique hrun
      exact Or.inr ⟨ha.symm, hclosed, hun⟩
    · exact Or.inl ⟨pre, u, hpre, hu, hclosed, hun⟩
  · rintro (⟨pre, u, hpre, hu, hclosed, hun⟩ | ⟨rfl, hclosed, hun⟩)
    · exact ⟨pre, u, hpre.trans (List.prefix_append _ _), hu, hclosed, hun⟩
    · exact ⟨steps, t, List.prefix_refl _, hrun, hclosed, hun⟩

/-- **The invariant holds after every schedule**, with the connection that was held at the pass. -/
theorem tracked_of_runs {steps : List TeardownStep} (hrun : Schedule.Runs step {} steps t) :
    t.Tracked (HeldAtPass steps) := by
  -- the invariant speaks of the connection held so far; only a step of `onDestroy` can add one
  induction hrun with
  | nil =>
      have hheld : HeldAtPass [] = fun _ => False := by
        funext c
        refine propext ⟨?_, False.elim⟩
        rintro ⟨pre, u, hpre, -⟩
        simp at hpre
      rw [hheld]
      exact tracked_start
  | @snoc steps a t t' hrun hstep ih =>
      have hheld : HeldAtPass (steps ++ [a]) = fun c =>
          HeldAtPass steps c ∨ a = .destroy ∧ t.destroy = .closed ∧ t.unlisted = some c :=
        funext fun c => propext (heldAtPass_concat hrun c)
      rw [hheld]
      cases a with
      | destroy =>
          simp only [true_and]
          exact ih.stepDestroy hstep
      | loop =>
          simp only [reduceCtorEq, false_and, or_false]
          exact ih.stepLoop hstep
      | acceptFails =>
          simp only [reduceCtorEq, false_and, or_false]
          exact ih.stepAcceptFails hstep
      | session c =>
          simp only [reduceCtorEq, false_and, or_false]
          exact ih.stepSession hstep

/-- **When stopping the service stops every session.**  After any schedule in which `onDestroy` has
finished and the accept loop has exited, every session that was started has ended or was stopped,
exactly if none but an ended one was between `accept` and the list when the pass began. -/
theorem allStopped_iff {steps : List TeardownStep} {t : Teardown}
    (hrun : Schedule.Runs step {} steps t) (hfin : t.Finished) :
    t.AllStopped ↔ ∀ c, HeldAtPass steps c → t.Ended c := by
  have htracked := tracked_of_runs hrun
  obtain ⟨hdestroy, hloop⟩ := hfin
  -- nothing is in hand any more, and the pass is done with its list
  have hhand : t.inHand = none := by rw [inHand, hloop]
  have htodo : t.todo = [] := by rw [todo, hdestroy]
  have hbegun : t.PassBegun := by
    rw [PassBegun, hdestroy]
    exact ⟨nofun, nofun, nofun⟩
  constructor
  · intro hall c hheld
    obtain ⟨-, hnot, hin | hstarted⟩ := htracked.missed c hheld
    · rw [hhand] at hin
      cases hin
    · exact (hall c hstarted).resolve_right hnot
  · intro hend c hstarted
    cases hthread : t.thread c with
    | absent => exact absurd hthread hstarted
    | running =>
        rcases htracked.caught hbegun c (Or.inr hthread) with hin | hstopped | hheld
        · rw [htodo] at hin
          cases hin
        · exact Or.inr hstopped
        · exact Or.inl (hend c hheld)
    | ended => exact Or.inl (Or.inl hthread)
    | removed => exact Or.inl (Or.inr (Or.inl hthread))
    | gone => exact Or.inl (Or.inr (Or.inr hthread))

/-- A session that is in the list when the pass begins. -/
def caughtSession : List TeardownStep :=
  [.loop, .loop, .loop, .loop, .loop, .loop, .destroy, .destroy, .destroy, .destroy, .destroy,
    .destroy, .loop]

/-- Nothing is in the hands of the accept loop when the pass begins. -/
theorem not_heldAtPass_caughtSession (c : ℕ) : ¬ HeldAtPass caughtSession c := by
  have hnone : (List.range 13).all (fun n => ((caughtSession.take n).foldlM step {}).all fun t =>
      t.destroy ≠ .closed || t.unlisted = none) = true := by decide
  rintro ⟨pre, t, ⟨post, hsplit⟩, hrun, hclosed, hun⟩
  have hlen : pre.length < 13 := by
    have h := congrArg List.length hsplit
    rw [List.length_append, List.length_append] at h
    simp only [caughtSession, List.length_cons, List.length_nil] at h
    omega
  have htake : caughtSession.take pre.length = pre := by
    rw [← hsplit, List.append_assoc, List.take_left]
  have hat := List.all_eq_true.1 hnone pre.length (List.mem_range.2 hlen)
  rw [htake, hrun.foldlM_eq, Option.all_some, hun, hclosed] at hat
  simp at hat

/-- It goes on when `onDestroy` is over, and it has been stopped. -/
theorem allStopped_caughtSession : ∃ t, Schedule.Runs step {} caughtSession t ∧ t.Finished ∧
    t.thread 0 = .running ∧ t.AllStopped :=
  ⟨_, .of_foldlM rfl, ⟨rfl, rfl⟩, rfl, (allStopped_iff (.of_foldlM rfl) ⟨rfl, rfl⟩).2
    fun c hc => absurd hc (not_heldAtPass_caughtSession c)⟩

/-- A connection that is accepted just before the service is stopped. -/
def missedSession : List TeardownStep :=
  [.loop, .loop, .destroy, .destroy, .destroy, .destroy, .destroy, .loop, .loop, .loop, .loop, .loop]

/-- Its session is started when `onDestroy` is over, and never stopped. -/
theorem missedSession_not_stopped : ∃ t, Schedule.Runs step {} missedSession t ∧ t.Finished ∧
    ¬ t.AllStopped := by
  refine ⟨_, .of_foldlM rfl, ⟨rfl, rfl⟩, fun h => ?_⟩
  have hstarted : SessionThread.running ≠ .absent := nofun
  rcases h 0 hstarted with hended | hstopped
  · rcases hended with hended | hended | hended
    · cases hended
    · cases hended
    · cases hended
  · cases hstopped

end Teardown

end Zerowire

/-
**From the device to the kernel.**

A report is read from a device, by the phone or by another computer; it crosses a connection; and
the receiver hands it to its kernel as events, one system call each.  Whoever plays the sender's
part, in whatever order the two parties move, and whatever kernel it is as long as the calls work
that it expects: in the end nothing is left open, and the kernel has had one device.  On this device
exactly that is pressed which the reports hold down, and the pointer has moved by what they say.

Main definitions:

* `Zerowire.Kernel`, `Zerowire.Kernel.Works` — a kernel that keeps account of the calls, and one on
  which those work that it expects;
* `Zerowire.Kernel.State`, `Zerowire.Kernel.desktop` — the states that a session can come to, and
  the desktop that the kernel is to it;
* `Zerowire.Conveys` — what the kernel has had, compared with the reports.

Main results:

* `Zerowire.PlaysSender.conveyed` — **the reports reach the kernel**, whoever plays the sender's
  part;
* `Zerowire.linuxSender_conveys`, `Zerowire.ReceiverSession.phone_conveys` — those of a device of
  another computer, and those of the phone's device.
-/

import Zerowire.HidLoopback
import Zerowire.Layers
import Zerowire.PhoneFastLane
import Zerowire.UinputKernel

set_option relaxedAutoImplicit false
set_option autoImplicit false

namespace Zerowire

open Bytes Program

variable {τ : Type}

/-! ### Nothing but calls -/

theorem callsAlone_ioctl (fd : Fd) (r : IoctlRequest) (text : String → String) :
    (ioctl fd r text).run.CallsAlone := by
  rintro (err | _) <;> trivial

/-- What holds of every `ioctl`, and of a sequence if it does of its parts, holds of the calls that
make a device. -/
theorem createOn_rec {P : Act systemSig String Unit → Prop} {fd : Fd} (hnone : P (pure ()))
    (hioctl : ∀ r text, P (ioctl fd r text)) (hseq : ∀ p q, P p → P q → P (p >>= fun _ => q))
    (profile : DeviceProfile) : P (createOn fd profile) := by
  have hset (name : String) (request : UInt64) (bit : UInt16) : P (setBit name request fd bit) :=
    hioctl _ _
  have hforM (name : String) (request : UInt64) (bits : List UInt16) :
      P (bits.forM (setBit name request fd)) := by
    induction bits with
    | nil => exact hnone
    | cons bit bits ih => exact hseq _ _ (hset _ _ _) ih
  have hbits : P (declareBits fd profile) := by
    cases profile with
    | mouse name vendorId productId =>
        exact hseq _ _ (hset _ _ _) (hseq _ _ (hset _ _ _) (hseq _ _ (hset _ _ _)
          (hseq _ _ (hforM _ _ _) (hforM _ _ _))))
    | keyboard name vendorId productId =>
        exact hseq _ _ (hset _ _ _) (hseq _ _ (hset _ _ _) (hforM _ _ _))
  exact hseq _ _ hbits (hseq _ _ (hioctl _ _) (hioctl _ _))

theorem callsAlone_createOn (fd : Fd) (profile : DeviceProfile) :
    (createOn fd profile).run.CallsAlone :=
  createOn_rec (P := fun p => p.run.CallsAlone) trivial (fun _ _ => callsAlone_ioctl _ _ _)
    (fun _ _ hp hq => .bind_act hp fun _ => hq) profile

theorem callsAlone_create (profile : DeviceProfile) :
    (UinputDevice.create profile).run.CallsAlone := by
  rintro (_ | _)
  · trivial
  rintro (err | fd)
  · trivial
  refine .bind_act (.attempt (callsAlone_createOn fd profile)) ?_
  rintro (text | _)
  · exact fun _ => trivial
  · trivial

theorem callsAlone_dropDevice (d : Option UinputDevice) : (dropDevice d).CallsAlone := by
  rcases d with _ | ⟨file, _ | _⟩
  · trivial
  · exact fun _ => trivial
  · refine Prog.CallsAlone.bind (.bind_act (.attempt ?_) fun _ => fun _ => trivial) fun _ => trivial
    exact .bind_act (callsAlone_ioctl _ _ _) fun _ => trivial

theorem callsAlone_writeEvent (d : UinputDevice) (e : InputEvent) :
    (d.writeEvent e).run.CallsAlone := by
  rintro now (err | _) <;> trivial

theorem callsAlone_onKernel (o : DeskOp) (d : Option UinputDevice) : (onKernel o d).CallsAlone := by
  rcases o with _ | ⟨prev, got⟩ | (profile | e)
  · exact fun _ => trivial
  · exact fun _ => trivial
  · refine (callsAlone_create profile).bind ?_
    rintro (text | d')
    · trivial
    · exact (callsAlone_dropDevice d).bind fun _ => trivial
  · rcases d with _ | d
    · trivial
    · exact (callsAlone_writeEvent d e).bind fun _ => trivial

theorem callsAlone_pushReport (body : List UInt8) : (pushReport body).run.CallsAlone := by
  have hwrite (es : List InputEvent) : (writeEvents es).run.CallsAlone := by
    induction es with
    | nil => trivial
    | cons e es ih =>
        rintro (text | _)
        · trivial
        · exact ih
  refine fun st => .bind_act (p := ofResult (applyReport st body)) trivial ?_
  rintro ⟨es, st'⟩
  exact .bind_act (hwrite es) fun _ _ => trivial

theorem callsAlone_uinput (o : UinputOp) : (Prog.call (X := deskSig) (.uinput o) .ret).CallsAlone :=
  fun _ => trivial

theorem callsAlone_onDesk (o : ReceiverOp) (st : ReportState) : (onDesk o st).CallsAlone := by
  cases o with
  | stopped => exact fun _ => trivial
  | create profile => exact fun _ => trivial
  | applyReport body =>
      exact (callsAlone_pushReport body).threaded (Prog.callsAlone_onRef callsAlone_uinput) st
  | seqJump prev got => exact fun _ => trivial

theorem callsAlone_leaving {α : Type} (r : Except (Stop (Fault RunError)) α × ReportState)
    (d : Option UinputDevice) : (leaving r d).CallsAlone := by
  obtain ⟨(e | _) | a, st⟩ := r
  · exact (callsAlone_dropDevice d).bind fun _ => trivial
  · trivial
  · exact (callsAlone_dropDevice d).bind fun _ => trivial

/-! ### Where every call works -/

/-- The call has worked. -/
def SystemOp.Worked : (o : SystemOp) → o.Ans → Prop
  | .exists, found => found = true
  | .openWrite, r => ∃ fd, r = .ok fd
  | .ioctl _ _ _, r | .write _ _, r => r = .ok ()
  | .stopped, _ | .seqJump _ _, _ | .close _, _ | .now, _ => True

/-- The program returns, where every call works. -/
abbrev Returns {α : Type} (p : Act systemSig String α) : Prop :=
  p.run.Yields SystemOp.Worked fun r => ∃ a, r = .ok a

theorem returns_createOn (fd : Fd) (profile : DeviceProfile) : Returns (createOn fd profile) := by
  have hioctl (r : IoctlRequest) (text : String → String) : Returns (ioctl fd r text) := by
    rintro _ rfl
    exact ⟨(), rfl⟩
  exact createOn_rec (P := Returns) ⟨(), rfl⟩ hioctl (fun _ _ hp hq => hp.bind_act fun _ => hq) profile

/-- **A device is made.** -/
theorem returns_create (profile : DeviceProfile) : Returns (UinputDevice.create profile) := by
  rintro _ rfl _ ⟨fd, rfl⟩
  exact (returns_createOn fd profile).attempt_bind fun _ => ⟨_, rfl⟩

theorem returns_writeEvent (d : UinputDevice) (e : InputEvent) : Returns (d.writeEvent e) := by
  rintro now - _ rfl
  exact ⟨(), rfl⟩

/-- **Every operation of the virtual device works.** -/
theorem yields_onKernel (o : UinputOp) (d : Option UinputDevice) :
    (onKernel (.uinput o) d).Yields SystemOp.Worked fun r => r.1 = .ok () := by
  cases o with
  | create profile =>
      refine (returns_create profile).bind ?_
      rintro _ ⟨d', rfl⟩
      exact (callsAlone_dropDevice d).yields.bind fun _ _ => rfl
  | write e =>
      cases d with
      | none => rfl
      | some d =>
          refine (returns_writeEvent d e).bind ?_
          rintro _ ⟨⟨⟩, rfl⟩
          rfl

/-! ### A kernel -/

/-- **A kernel that keeps account of the calls.**  Nothing is expected of the flag that Ctrl-C
raises and of the diagnostic log, except that they are no matter of the device. -/
structure Kernel (τ : Type) where
  env : Env systemSig τ
  view : τ → Driver
  realizes : env.Realizes uinputDriver Driver.grants view
  state_stopped : ∀ t, (env .stopped t).2 = t
  state_seqJump : ∀ prev got t, (env (.seqJump prev got) t).2 = t

namespace Kernel

/-- **Every call that the kernel expects works**, and nobody presses Ctrl-C. -/
structure Works (K : Kernel τ) : Prop where
  stopped : ∀ t, (K.env .stopped t).1 = false
  worked : ∀ o t, (K.view t).Expects (.called o none) → o.Worked (K.env o t).1

variable (K : Kernel τ)

/-- What a kernel is to a session: its state has the device that the session owns. -/
def desk : Env deskSig (Option UinputDevice × τ) := K.env.threaded onKernel

/-- And what it is to the session loop: the statics are there, too. -/
def receiver : Env receiverSig (ReportState × Option UinputDevice × τ) := K.desk.threaded onDesk

/-- The operations of the virtual device. -/
def uinput : Env uinputSig (Option UinputDevice × τ) := fun o => K.desk (.uinput o)

/-- An operation of the virtual device, and what the session owns after it. -/
theorem owns_uinput {d : Option UinputDevice} {t : τ}
    {devices : List (DeviceProfile × List InputEvent)} (h : Owns d (K.view t) devices) (o : UinputOp) :
    Owns (K.uinput o (d, t)).2.1 (K.view (K.uinput o (d, t)).2.2)
      (addCall devices ⟨o, (K.uinput o (d, t)).1⟩) := by
  have hkeeps := simulates_onKernel.called (s := some (K.view t)) (DeskOp.uinput o) h
  exact Prog.Keeps.settle K.realizes (Q := fun (r : Except String Unit × Option UinputDevice) s =>
    Owns r.2 s (addCall devices ⟨o, r.1⟩)) (callsAlone_onKernel _ d) (hkeeps.mono fun _ _ hs => hs)

/-- The states that a session can come to: the files that are open are its own. -/
abbrev State : Type := { s : Option UinputDevice × τ // ∃ devices, Owns s.1 (K.view s.2) devices }

/-- **The desktop that a kernel is.** -/
def desktop : Desktop K.State where
  uinput o s := ((K.uinput o s.1).1, ⟨(K.uinput o s.1).2, s.2.imp' _ fun _ h => K.owns_uinput h o⟩)
  stop s := (K.desk .stopped s.1).1

/-- **It works, if the calls do that are expected.** -/
theorem Works.desktop {K : Kernel τ} (h : K.Works) : K.desktop.Works where
  uinput o s := by
    obtain ⟨⟨d, t⟩, devices, howns⟩ := s
    have hkeeps := simulates_onKernel.called (s := some (K.view t)) (DeskOp.uinput o) howns
    exact Prog.Keeps.yields K.realizes h.worked (hkeeps.mono fun _ _ hs => hs) (yields_onKernel o d)
  stop s := h.stopped s.1.2

/-! #### The session beneath -/

/-- What the logs of a desktop are kept beside. -/
def beneath (log : SessionLog K.State) : ReportState × Option UinputDevice × τ :=
  (log.2.1, log.2.2.2.1)

/-- Applying a report, on the desktop with its logs. -/
theorem logged_applyReport (body : List UInt8) (log : SessionLog K.State) :
    K.receiver (.applyReport body) (K.beneath log) =
      ((K.desktop.logged (.applyReport body) log).1,
        K.beneath (K.desktop.logged (.applyReport body) log).2) := by
  obtain ⟨calls, st, ucalls, x⟩ := log
  have hpush := callsAlone_pushReport body
  have hwatched := hpush.answer_eq K.desktop.watched.uinput.withRef (st, ucalls, x)
  -- beneath there is no log of the operations
  let unwatched (s : ReportState × List (Call uinputSig) × K.State) :
      ReportState × Option UinputDevice × τ := (s.1, s.2.2.1)
  have hview (o : (uinputSig.withRef ReportState).Op)
      (s : ReportState × List (Call uinputSig) × K.State) :
      K.uinput.withRef o (unwatched s) =
        ((K.desktop.watched.uinput.withRef o s).1,
          unwatched (K.desktop.watched.uinput.withRef o s).2) := by
    cases o <;> rfl
  have hplain := Prog.settle_viewed hview (pushReport body).run (st, ucalls, x)
  have hthreaded :=
    Prog.settle_threaded K.desk (Prog.callsAlone_onRef callsAlone_uinput) hpush st x.1
  rw [Env.threaded_onRef K.desk _ callsAlone_uinput] at hthreaded
  have hreceiver : (onDesk (.applyReport body) st).settle K.desk x.1 =
      let r := (pushReport body).run.settle K.uinput.withRef (st, x.1)
      ((r.1, r.2.1), r.2.2) := hthreaded
  have hlogged : K.desktop.logged (.applyReport body) (calls, st, ucalls, x) =
      let r := (pushReport body).run.settle K.desktop.watched.uinput.withRef (st, ucalls, x)
      (r.1, (calls ++ [⟨.applyReport body, r.1⟩], r.2)) := by
    rw [← hwatched]
    rfl
  have hbeneath : K.receiver (.applyReport body) (K.beneath (calls, st, ucalls, x)) =
      let r := (onDesk (.applyReport body) st).settle K.desk x.1
      (r.1.1, (r.1.2, r.2)) := rfl
  rw [hbeneath, hreceiver, hplain, hlogged]
  rfl

/-- The flag is read, and that is all. -/
theorem desk_stopped (x : Option UinputDevice × τ) :
    K.desk .stopped x = ((K.env .stopped x.2).1, x) :=
  congrArg (fun t => ((K.env .stopped x.2).1, (x.1, t))) (K.state_stopped x.2)

/-- A jump is noted, and that is all. -/
theorem desk_seqJump (prev got : UInt16) (x : Option UinputDevice × τ) :
    K.desk (.seqJump prev got) x = ((), x) :=
  congrArg (fun t => ((), (x.1, t))) (K.state_seqJump prev got x.2)

/-- **The desktop with its logs answers as the programs behind the calls do.** -/
theorem receiver_beneath (o : ReceiverOp) (log : SessionLog K.State) :
    K.receiver o (K.beneath log) =
      ((K.desktop.logged o log).1, K.beneath (K.desktop.logged o log).2) := by
  have hbeside {α : Type} {r r' : α × Option UinputDevice × τ} (h : r = r') :
      (r.1, (log.2.1, r.2)) = (r'.1, (log.2.1, r'.2)) := by rw [h]
  cases o with
  | stopped => exact hbeside (K.desk_stopped log.2.2.2.1)
  | create profile => rfl
  | applyReport body => exact K.logged_applyReport body log
  | seqJump prev got => exact hbeside (K.desk_seqJump prev got log.2.2.2.1)

/-! #### What the kernel has had -/

/-- **What the session owns is what was made last**, among the devices of the log. -/
def Owned (log : SessionLog K.State) : Prop :=
  Owns log.2.2.2.1.1 (K.view log.2.2.2.1.2) (devicesOf log.2.2.1)

/-- Every call of the session loop keeps that. -/
theorem owned_logged (o : ReceiverOp) (log : SessionLog K.State) (h : K.Owned log) :
    K.Owned (K.desktop.logged o log).2 := by
  obtain ⟨calls, st, ucalls, x⟩ := log
  cases o with
  | stopped => exact h
  | seqJump prev got => exact h
  | create profile =>
      have hcreate := K.owns_uinput h (.create profile)
      rwa [← devicesOf_concat] at hcreate
  | applyReport body =>
      -- event by event; the variable of the decoder is no matter
      let I (s : ReportState × List (Call uinputSig) × K.State) : Prop :=
        Owns s.2.2.1.1 (K.view s.2.2.1.2) (devicesOf s.2.1)
      have hstep (o : (uinputSig.withRef ReportState).Op)
          (s : ReportState × List (Call uinputSig) × K.State) (hs : I s) :
          I (K.desktop.watched.uinput.withRef o s).2 := by
        cases o with
        | get => exact hs
        | set v => exact hs
        | op o =>
            have hop := K.owns_uinput hs o
            rwa [← devicesOf_concat] at hop
      have hpush := Prog.settle_invariant hstep (pushReport body).run (st, ucalls, x) h
      rw [← (callsAlone_pushReport body).answer_eq] at hpush
      exact hpush

end Kernel

/-! ### What the log says -/

/-- What a call of the session loop does to the statics and the devices, if it works. -/
def replay (s : ReportState × List (DeviceProfile × List InputEvent)) :
    ReceiverOp → ReportState × List (DeviceProfile × List InputEvent)
  | .create profile => (s.1, (profile, []) :: s.2)
  | .applyReport body => ((reportStep s.1 body).2, addEvents s.2 (reportStep s.1 body).1)
  | .stopped | .seqJump _ _ => s

/-- **The log of the calls says what has been written**, on a desktop that works. -/
def Replayed {σ : Type} (statics : ReportState) (log : SessionLog σ) : Prop :=
  (log.2.1, devicesOf log.2.2.1) = (log.1.map Sigma.fst).foldl replay (statics, [])

/-- Every call of the session loop keeps that. -/
theorem Desktop.Works.replayed_logged {σ : Type} {desktop : Desktop σ} (h : desktop.Works)
    {statics : ReportState} (o : ReceiverOp) (log : SessionLog σ) (hlog : Replayed statics log) :
    Replayed statics (desktop.logged o log).2 := by
  have hfold (calls : List (Call receiverSig)) (c : Call receiverSig) :
      ((calls ++ [c]).map Sigma.fst).foldl replay (statics, []) =
        replay ((calls.map Sigma.fst).foldl replay (statics, [])) c.1 := by
    rw [List.map_append, List.foldl_append]
    rfl
  obtain ⟨calls, st, ucalls, x⟩ := log
  cases o with
  | stopped => exact hlog
  | seqJump prev got =>
      refine Eq.trans ?_ (hfold calls ⟨.seqJump prev got, ()⟩).symm
      exact hlog
  | create profile =>
      have hcall : desktop.watched.env (.create profile) (st, ucalls, x) =
          (.ok (), (st, ucalls ++ [⟨.create profile, .ok ()⟩],
            (desktop.uinput (.create profile) x).2)) := by
        rw [Desktop.env, desktop.watched_uinput, h.uinput]
      rw [Desktop.logged, Env.traced]
      simp only [hcall]
      refine Eq.trans ?_ (hfold calls ⟨.create profile, .ok ()⟩).symm
      rw [← hlog, devicesOf_concat]
      rfl
  | applyReport body =>
      obtain ⟨ucalls', x', hpush, hdevices⟩ := h.answer_pushReport body st ucalls x
      have hcall : desktop.watched.env (.applyReport body) (st, ucalls, x) =
          (.ok (), ((reportStep st body).2, ucalls', x')) := hpush
      rw [Desktop.logged, Env.traced]
      simp only [hcall]
      refine Eq.trans ?_ (hfold calls ⟨.applyReport body, .ok ()⟩).symm
      rw [← hlog, replay, ← hdevices]

/-- After one binding there is one device, and it has had what the decoder makes of the reports. -/
theorem devicesOf_of_replayed {σ : Type} {statics : ReportState} {log : SessionLog σ}
    (hlog : Replayed statics log) {profile : DeviceProfile} {bodies : List (List UInt8)}
    (hmade : Made (bindingOps profile bodies) [] log.1) :
    devicesOf log.2.2.1 = [(profile, (EdgeTrigger.run reportStep statics bodies).1)] := by
  obtain ⟨calls, hcalls, hops⟩ := hmade
  have hreports (st : ReportState) (es : List InputEvent) :
      ((bodies.map .applyReport).foldl replay (st, [(profile, es)])).2 =
        [(profile, es ++ (EdgeTrigger.run reportStep st bodies).1)] := by
    clear hops
    induction bodies generalizing st es with
    | nil => exact congrArg (fun es => [(profile, es)]) (List.append_nil es).symm
    | cons body bodies ih =>
        rw [List.map_cons, List.foldl_cons, replay, addEvents, ih, EdgeTrigger.run, List.append_assoc]
  have hdevices := congrArg Prod.snd hlog
  rw [hcalls, List.nil_append, hops, bindingOps, List.foldl_cons] at hdevices
  exact hdevices.trans (hreports statics [])

/-! ### The reports reach the kernel -/

/-- **What the kernel has had**: no file is left open, and there has been one device, of the
profile.  Its events come in groups that are closed, exactly that is pressed which is held according
to the reports, and the pointer has moved by what they say. -/
def Conveys (profile : DeviceProfile) (bodies : List (List UInt8)) (s : Driver) : Prop :=
  ∃ events, s = { gone := [(profile.setups, events)] } ∧ Grouped events ∧
    (∀ code, EdgeTrigger.level (keyValue code) 0 events = UinputDevice.keyState (heldBy bodies code)) ∧
    relSum events relX = motion bodies 1 ∧ relSum events relY = motion bodies 2 ∧
    relSum events relWheel = motion bodies 3

section Conveyed

variable {Y : Sig} {δ β : Type} {F : Env Y δ} {serde : Serde} {clientName : String}
  {wanted : Option String} {devices : List DeviceSummary} {chosen : DeviceSummary} {info : BindAckMeta}
  {last : HidFrame} {bodies : List (List UInt8)} {room : ℕ} {p : Party Y δ β} {b : β}

/-- **The reports reach the kernel**, whoever plays the sender's part: those that were sent as a
whole.  In whatever order the two move, both return; the receiver runs in a fresh process, on a
kernel on which every call works. -/
theorem PlaysSender.conveyed
    (h : PlaysSender F serde (.hello 1 clientName ["hid-fastlane/1"]) devices chosen info last bodies
      room p b)
    (hfresh : p.io.output = []) (hchosen : pickHidDevice devices wanted = .ok chosen)
    {profile : DeviceProfile} (hprofile : profileOf info = some profile) {K : Kernel τ}
    (hworks : K.Works) {u : τ}
    (hu : K.view u = {}) :
    ∃ enough, ∀ fuel, enough ≤ fuel → ∃ s' t',
      Ends (Net.Step K.env F)
        ⟨⟨receiving serde clientName wanted {} fuel, { input := [], env := u }⟩, p⟩
        ⟨⟨.ret (.ok (endOf last bodies room)), s'⟩, ⟨.ret b, t'⟩⟩ ∧
      Conveys profile (wholeReports room bodies) (K.view s'.env) := by
  obtain ⟨enough, hreceived⟩ :=
    h.received hfresh hchosen hprofile hworks.desktop {} ⟨(none, u), [], hu, rfl⟩
  refine ⟨enough, fun fuel hfuel => ?_⟩
  obtain ⟨s', t', hends, hmade, -⟩ := hreceived fuel hfuel
  -- what the session owns in the end, and what it has written
  have howned : K.Owned s'.env := Net.invariant_of_ends K.owned_logged hends ⟨hu, rfl⟩
  have hreplayed : Replayed {} s'.env :=
    Net.invariant_of_ends hworks.desktop.replayed_logged hends rfl
  have hdevices := devicesOf_of_replayed hreplayed hmade
  -- the same session, over the system calls
  have hreceiver := Net.ends_viewed K.receiver_beneath hends
  have hdesk : Ends (Net.Step K.desk F)
      ⟨⟨desking serde clientName wanted {} fuel, { input := [], env := (none, u) }⟩, p⟩
      ⟨⟨.ret (.ok (endOf last bodies room), s'.env.2.1), { s' with env := s'.env.2.2.2.1 }⟩,
        ⟨.ret b, t'⟩⟩ := by
    rw [← Prog.bind_ret (desking serde clientName wanted {} fuel)]
    exact Net.ends_threaded (E := K.desk) (k := fun a st => .ret (a, st)) callsAlone_onDesk
      (fun _ _ => trivial) hreceiver
  have hkernel := Net.ends_threaded (E := K.env) (k := fun a d => leaving a d) callsAlone_onKernel
    (fun _ _ => callsAlone_leaving _ _) hdesk
  -- and the device is dropped
  obtain ⟨hresult, hover⟩ := Prog.Keeps.settle K.realizes (callsAlone_leaving _ _)
    (keeps_leaving (.ok (endOf last bodies room), s'.env.2.1) howned)
  rw [hresult] at hkernel
  refine ⟨_, t', hkernel, _, (hover ?_).trans ?_, grouped_run _, level_heldBy _, relSum_run _⟩
  · rw [hresult]
    nofun
  · rw [hdevices]
    rfl

/-- Nothing is lost if the connection takes all of it. -/
theorem PlaysSender.conveyed_all
    (h : PlaysSender F serde (.hello 1 clientName ["hid-fastlane/1"]) devices chosen info last bodies
      room p b) (hroom : (behindAck last bodies).length ≤ room)
    (hfresh : p.io.output = []) (hchosen : pickHidDevice devices wanted = .ok chosen)
    {profile : DeviceProfile} (hprofile : profileOf info = some profile) {K : Kernel τ}
    (hworks : K.Works) {u : τ} (hu : K.view u = {}) :
    ∃ enough, ∀ fuel, enough ≤ fuel → ∃ s' t',
      Ends (Net.Step K.env F)
        ⟨⟨receiving serde clientName wanted {} fuel, { input := [], env := u }⟩, p⟩
        ⟨⟨.ret (.ok .unbound), s'⟩, ⟨.ret b, t'⟩⟩ ∧ Conveys profile bodies (K.view s'.env) := by
  have hconveyed := h.conveyed hfresh hchosen hprofile hworks hu
  rwa [endOf, if_pos hroom, wholeReports_of_le hroom] at hconveyed

end Conveyed

/-! ### A kernel on which the calls work -/

/-- A kernel on which every call works, as long as no more than one file is open. -/
def worksFor (s : Driver) : (o : SystemOp) → o.Ans
  | .stopped => false
  | .seqJump _ _ => ()
  | .exists => true
  | .openWrite =>
      if (s.files 3).isNone then .ok 3
      else if (s.files 4).isNone then .ok 4
      else .error "Too many open files (os error 24)"
  | .ioctl _ _ _ => .ok ()
  | .write _ _ => .ok ()
  | .close _ => ()
  | .now => (0, 0)

/-- It keeps account itself. -/
def twoFiles : Kernel Driver where
  env o s := (worksFor s o, s.add (.called o (some (worksFor s o))))
  view := id
  realizes :=
    { add := fun _ _ => rfl
      relied := by
        rintro (_ | _ | _ | _ | _ | _ | _ | _) s
        case openWrite =>
          change s.grants (.called .openWrite (some (worksFor s .openWrite))) = true
          rw [worksFor]
          split_ifs with h3 h4
          · exact h3
          · exact h4
          · rfl
        all_goals rfl }
  state_stopped _ := rfl
  state_seqJump _ _ _ := rfl

theorem works_twoFiles : twoFiles.Works where
  stopped _ := rfl
  worked := by
    rintro (_ | _ | _ | _ | _ | _ | _ | _) s hexpects
    case openWrite =>
      obtain ⟨fd₀, hfd₀⟩ := hexpects
      change ∃ fd, worksFor s .openWrite = .ok fd
      rw [worksFor]
      split_ifs with h3 h4
      · exact ⟨_, rfl⟩
      · exact ⟨_, rfl⟩
      · rw [Option.isNone_iff_eq_none] at h3 h4
        exact absurd ((hfd₀ 3 h3).trans (hfd₀ 4 h4).symm) (by decide)
    all_goals trivial

/-! ### The two senders -/

section Senders

variable {serde : Serde} {profile : DeviceProfile} {K : Kernel τ} {u : τ}

/-- **From a device of another computer.** -/
theorem linuxSender_conveys (hprints : serde.Prints) {clientName name : String}
    (hclient : SerdeJson.Short clientName) (hname : SerdeJson.Short name)
    (devices : List ExposedHidraw)
    (chosen : ExposedHidraw)
    (hlist : (serde.control.toVec (LinuxSender.deviceList devices)).length ≤ maxPayload)
    (hchosen : chosenDevice devices = some chosen) (hstrings : chosen.Short)
    (hround : RoundTrips serde clientName name devices chosen)
    (hprofile : profileOf (LinuxSender.metaFor chosen) = some profile)
    {σ : Type} {linux : Env linuxSig σ}
    {x : σ} (reports : List HidrawReport) (hserves : Serves linux x devices chosen reports)
    (hworks : K.Works) (hu : K.view u = {}) :
    ∃ enough, ∀ fuel, enough ≤ fuel → ∃ enough', ∀ rounds, enough' ≤ rounds → ∃ s' t',
      Ends (Net.Step K.env linux)
        ⟨⟨receiving serde clientName none {} rounds, { input := [], env := u }⟩,
          ⟨((LinuxSender.serveSession serde name).unrolled fuel).run, { input := [], env := x }⟩⟩
        ⟨⟨.ret (.ok .unbound), s'⟩, ⟨.ret (.ok ()), t'⟩⟩ ∧
      Conveys profile (reports.map (·.val)) (K.view s'.env) := by
  obtain ⟨pick, hpick, hbusid, hfound⟩ := chosenDevice_eq_some hchosen
  obtain ⟨enough, hplays⟩ :=
    LinuxSender.plays hprints hclient hname hlist hbusid hfound hstrings hround
    hserves
  exact ⟨enough, fun fuel hfuel =>
    (hplays fuel hfuel).conveyed_all le_rfl rfl hpick hprofile hworks hu⟩

/-- The mouse of another computer, and two files. -/
theorem linuxSender_conveys_click :
    ∃ enough, ∀ fuel, enough ≤ fuel → ∃ enough', ∀ rounds, enough' ≤ rounds → ∃ s' t',
      Ends (Net.Step twoFiles.env mouseComputer)
        ⟨⟨receiving clickSerde "linux-cli" none {} rounds, { input := [], env := {} }⟩,
          ⟨((LinuxSender.serveSession clickSerde "desk").unrolled fuel).run,
            { input := [], env := [.report ⟨[1, 0, 0], by decide⟩, .wouldBlock,
              .report ⟨[0, 0, 0], by decide⟩] }⟩⟩
        ⟨⟨.ret (.ok .unbound), s'⟩, ⟨.ret (.ok ()), t'⟩⟩ ∧
      Conveys (.mouse "zerowire: Mouse" 0xBADD 0xC0DE) [[1, 0, 0], [0, 0, 0]] (twoFiles.view s'.env) :=
  linuxSender_conveys ⟨fun _ => rfl, fun _ => rfl, fun _ => rfl⟩ (by decide) (by decide) cameraAndMouse
    theMouse (by decide +kernel) (by decide) ⟨by decide, by decide, by decide⟩
    ⟨by decide +kernel, by decide, by decide⟩ (by decide) click
    ⟨rfl, rfl, rfl, .report rfl (.wouldBlock rfl (.report rfl (.eof rfl)))⟩ works_twoFiles rfl

end Senders

namespace ReceiverSession

open Android

/-- **From the device of the phone**, whenever the session is stopped behind its BIND_ACK: what has
been sent of the reports as a whole, all that the phone has read or all but the last one. -/
theorem phone_conveys {σ : Type} {env : Env phoneSig σ} {serde : Serde} {json : OrgJson}
    {senderId deviceName clientName : String} {wanted : Option String} {ds : List UsbDevice}
    {d : UsbDevice}
    {chosen : DeviceSummary} (hchosen : pickHidDevice (ds.map UsbDevice.summary) wanted = .ok chosen)
    (hd : deviceWith ds chosen.busid = some d) (hrange : ∀ d ∈ ds, d.InRange)
    (hunderstood : Understood serde json (.hello 1 clientName ["hid-fastlane/1"])
      (.attach chosen.busid "hid")
      [helloAck senderId deviceName, deviceListMessage ds, attachOk chosen.busid])
    {ep : HidEndpoint} {kind : HidDescriptor.Kind} (hack : Acknowledged serde json d ep kind)
    {profile : DeviceProfile} (hprofile : profileOf (infoOf d kind) = some profile) {t : σ}
    {room : ℕ} {reports : List Jvm.Array} (hserves : StreamsDevice env t ds d ep room reports)
    (hreports : ∀ r ∈ reports, 4 + r.val.length ≤ maxPayload)
    {K : Kernel τ} (hworks : K.Works) {u : τ}
    (hu : K.view u = {}) :
    (wholeReports room (reports.map (·.val)) = reports.map (·.val) ∨
      wholeReports room (reports.map (·.val)) = (reports.map (·.val)).dropLast) ∧
    ∃ enough, ∀ fuel, enough ≤ fuel → ∃ enough', ∀ rounds, enough' ≤ rounds → ∃ s' t',
      Ends (Net.Step K.env env)
        ⟨⟨receiving serde clientName wanted {} rounds, { input := [], env := u }⟩,
          ⟨(handled phone (run json senderId deviceName fuel)).run.upTo
              (ackedAt json senderId deviceName ds chosen.busid d ep kind + room),
            { input := [], env := t }⟩⟩
        ⟨⟨.ret (.ok (endOf lastFrame (reports.map (·.val)) room)), s'⟩, ⟨.ret (.ok ()), t'⟩⟩ ∧
      Conveys profile (wholeReports room (reports.map (·.val))) (K.view s'.env) := by
  obtain ⟨u', -, hreads⟩ := hserves.opened
  obtain ⟨enough, hplays⟩ := plays rfl hunderstood hrange hd hack hserves hreports
  exact ⟨hreads.wholeReports_eq, enough, fun fuel hfuel =>
    (hplays fuel hfuel).conveyed rfl hchosen hprofile hworks hu⟩

/-- The mouse on the phone's cable, and two files. -/
theorem phone_conveys_click :
    (wholeReports 20 [[1, 0, 0, 0], [0, 0, 0, 0]] = [[1, 0, 0, 0], [0, 0, 0, 0]] ∨
      wholeReports 20 [[1, 0, 0, 0], [0, 0, 0, 0]] = [[1, 0, 0, 0]]) ∧
    ∃ enough, ∀ fuel, enough ≤ fuel → ∃ enough', ∀ rounds, enough' ≤ rounds → ∃ s' t',
      Ends (Net.Step twoFiles.env clickingPhone)
        ⟨⟨receiving (clickSerde "linux-cli") "linux-cli" none {} rounds, { input := [], env := {} }⟩,
          ⟨(handled phone (run Senders.plainJson "phone" "Phone" fuel)).run.upTo
              (ackedAt Senders.plainJson "phone" "Phone" [mouse] "1-2" mouse mouseEndpoint .mouse + 20),
            { input := [], env := [[1, 0, 0, 0], [0, 0, 0, 0]] }⟩⟩
        ⟨⟨.ret (.ok .recvError), s'⟩, ⟨.ret (.ok ()), t'⟩⟩ ∧
      Conveys (.mouse "zerowire: Mouse" 0x046D 0xC077) [[1, 0, 0, 0]] (twoFiles.view s'.env) :=
  phone_conveys (rfl : pickHidDevice ([mouse].map UsbDevice.summary) none = .ok mouse.summary) rfl
    (by decide) (understood_click (.inl rfl)) (acknowledged_click _) (by decide) streamsDevice_click
    (by decide) works_twoFiles rfl

end ReceiverSession

end Zerowire

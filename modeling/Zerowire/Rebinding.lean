/-
**A new device in a running session** (`desktop-linux/src/receiver.rs`).

A BIND_ACK that comes while there is a device replaces it.  The decoder of the reports does not
notice: what it compares a report with it keeps in statics of the process, which describe the old
device.  If a button is down there, the first mouse report for the new device finds it down: it is
not pressed on the new device if the report holds it, and is released there without having been
pressed if it does not.

The shape of a report is told by its length, and what it finds are the statics of that shape.  So
the new device starts from a clean slate exactly if, for each of the two shapes, either none of its
reports has that shape or nothing was held according to the last report of that shape before the
BIND_ACK.

Main definitions:

* `Zerowire.heldBy` — what is held according to a sequence of reports;
* `Zerowire.Released` — the reports find nothing held that they could find held;
* `Zerowire.decoded` — the reports that a sequence of frames has the receiver decode;
* `Zerowire.CleanSlate` — what one expects of a new device.

Main results:

* `Zerowire.run_eq_fresh_iff` — when stale statics make no difference;
* `Zerowire.run_frames` — what the session loop does with BIND_ACKs and reports;
* `Zerowire.cleanSlate_iff` — **when a new device starts from a clean slate**.
-/

import Zerowire.SessionRun

set_option relaxedAutoImplicit false
set_option autoImplicit false

namespace Zerowire

open Bytes Program UinputDevice

/-! ### Stale statics -/

/-- What is held according to a sequence of reports: the buttons by the last mouse report, the keys
by the last keyboard report. -/
def heldBy (reports : List (List UInt8)) (code : UInt16) : Bool :=
  (mouseButtons.any fun p => p.2 = code ∧ buttonDown reports p.1 = true) || keyDown reports code

/-- **The reports find nothing held** in the statics, of what they look at. -/
def Released (st : ReportState) (reports : List (List UInt8)) : Prop :=
  ((∃ r ∈ reports, r ≠ [] ∧ r.length ≠ 8) → ∀ p ∈ mouseButtons, bit st.prev p.1 = false) ∧
  ((∃ r ∈ reports, r.length = 8) →
    ∀ code, (modifierHeld st.prevMod code || slotHeld st.prevKeys code) = false)

/-- The statics are the same for a mouse report. -/
def SameButtons (st st' : ReportState) : Prop :=
  ∀ buttons dx dy wheel, mouseEvents st.prev buttons dx dy wheel =
    mouseEvents st'.prev buttons dx dy wheel

/-- The statics are the same for a keyboard report. -/
def SameKeys (st st' : ReportState) : Prop :=
  ∀ modifier keys, keyboardEvents st.prevMod modifier st.prevKeys keys =
    keyboardEvents st'.prevMod modifier st'.prevKeys keys

theorem mouseButtons_nodup : (mouseButtons.map Prod.snd).Nodup := by decide

/-- No keyboard report holds a button. -/
theorem keyDown_button (reports : List (List UInt8)) {p : UInt8 × UInt16} (hp : p ∈ mouseButtons) :
    keyDown reports p.2 = false := by
  rw [keyDown]
  rcases lastKeyboard reports with _ | r
  · rfl
  · have hslot : slotHeld (slots r) p.2 = false := by
      rw [← Bool.not_eq_true, slotHeld_iff]
      rintro ⟨k, -, -, h⟩
      exact hidUsageToLinuxKey_ne_modifier h (List.mem_append_right _ hp) rfl
    simp only
    rw [not_modifier_held (fun q hq => mouseButtons_ne_modifier hp hq), hslot, Bool.or_false]

theorem heldBy_button (reports : List (List UInt8)) {p : UInt8 × UInt16} (hp : p ∈ mouseButtons) :
    heldBy reports p.2 = buttonDown reports p.1 := by
  rw [heldBy, keyDown_button reports hp, Bool.or_false, Bool.eq_iff_iff, List.any_eq_true]
  constructor
  · rintro ⟨q, hq, h⟩
    obtain ⟨hcode, hdown⟩ := of_decide_eq_true h
    obtain rfl : q = p := List.inj_on_of_nodup_map mouseButtons_nodup hq hp hcode
    exact hdown
  · intro hdown
    exact ⟨p, hp, decide_eq_true ⟨rfl, hdown⟩⟩

theorem heldBy_key (reports : List (List UInt8)) {code : UInt16}
    (hcode : ∀ p ∈ mouseButtons, p.2 ≠ code) : heldBy reports code = keyDown reports code := by
  have hnone : (mouseButtons.any fun p => p.2 = code ∧ buttonDown reports p.1 = true) = false := by
    rw [← Bool.not_eq_true, List.any_eq_true]
    rintro ⟨p, hp, h⟩
    exact hcode p hp (of_decide_eq_true h).1
  rw [heldBy, hnone, Bool.false_or]

/-- From fresh statics, what is pressed is what is held. -/
theorem level_heldBy (reports : List (List UInt8)) (code : UInt16) :
    EdgeTrigger.level (keyValue code) 0 (EdgeTrigger.run reportStep {} reports).1 =
      keyState (heldBy reports code) := by
  by_cases hbutton : ∃ p ∈ mouseButtons, p.2 = code
  · obtain ⟨p, hp, rfl⟩ := hbutton
    rw [level_button reports hp, heldBy_button reports hp]
  · have hcode : ∀ p ∈ mouseButtons, p.2 ≠ code := fun p hp h => hbutton ⟨p, hp, h⟩
    rw [level_key reports hcode, heldBy_key reports hcode]

/-- Statics in which no button is down are as good as fresh ones. -/
theorem SameButtons.of_released {st : ReportState} (h : ∀ p ∈ mouseButtons, bit st.prev p.1 = false) :
    SameButtons st {} := by
  intro buttons dx dy wheel
  rw [mouseEvents_eq, mouseEvents_eq]
  congr 1
  apply List.flatMap_congr
  intro p hp
  rw [h p hp, show bit ({} : ReportState).prev p.1 = false from bit_zero p.1]

/-- Statics in which no key is held are as good as fresh ones. -/
theorem SameKeys.of_released {st : ReportState}
    (h : ∀ code, (modifierHeld st.prevMod code || slotHeld st.prevKeys code) = false) :
    SameKeys st {} := by
  have hmod : ∀ p ∈ modifierBits, bit st.prevMod p.1 = false := by
    intro p hp
    have hp' := (Bool.or_eq_false_iff.1 (h p.2)).1
    rwa [(modifier_held hp).2.1] at hp'
  have hslot : ∀ k ∈ st.prevKeys, k ≠ 0 → ∀ pressed, slotEvent k pressed = [] := by
    intro k hk hne pressed
    rcases hcode : hidUsageToLinuxKey k with _ | code
    · rw [slotEvent, hcode]
    · have hheld : slotHeld st.prevKeys code = true := slotHeld_iff.2 ⟨k, hk, hne, hcode⟩
      rw [(Bool.or_eq_false_iff.1 (h code)).2] at hheld
      cases hheld
  intro modifier keys
  -- the modifiers: none is set on either side
  have hbits : (modifierBits.flatMap fun p =>
        if bit st.prevMod p.1 ≠ bit modifier p.1 then key p.2 (bit modifier p.1) else []) =
      modifierBits.flatMap fun p =>
        if bit 0 p.1 ≠ bit modifier p.1 then key p.2 (bit modifier p.1) else [] := by
    apply List.flatMap_congr
    intro p hp
    rw [hmod p hp, bit_zero]
  have hreleased : (st.prevKeys.flatMap fun k =>
      if k ≠ 0 ∧ ¬ k ∈ keys then slotEvent k false else []) = [] := by
    rw [List.flatMap_eq_nil_iff]
    intro k hk
    split_ifs with hcond
    · exact hslot k hk hcond.1 false
    · rfl
  have hfresh : ((List.replicate 6 0).flatMap fun k =>
      if k ≠ 0 ∧ ¬ k ∈ keys then slotEvent k false else []) = [] := by
    rw [List.flatMap_eq_nil_iff]
    intro k hk
    rw [if_neg fun hcond => hcond.1 (List.eq_of_mem_replicate hk)]
  -- a key that is in the old report and in no event has no key code
  have hpressed : (keys.flatMap fun k =>
        if k ≠ 0 ∧ ¬ k ∈ st.prevKeys then slotEvent k true else []) =
      keys.flatMap fun k =>
        if k ≠ 0 ∧ ¬ k ∈ List.replicate 6 (0 : UInt8) then slotEvent k true else [] := by
    apply List.flatMap_congr
    intro k _
    by_cases hne : k ≠ 0
    · rw [if_pos (show k ≠ 0 ∧ ¬ k ∈ List.replicate 6 (0 : UInt8) from
        ⟨hne, fun hk => hne (List.eq_of_mem_replicate hk)⟩)]
      by_cases hk : k ∈ st.prevKeys
      · rw [if_neg fun hcond => hcond.2 hk, hslot k hk hne]
      · rw [if_pos ⟨hne, hk⟩]
    · rw [if_neg fun hcond => hne hcond.1, if_neg fun hcond => hne hcond.1]
  rw [keyboardEvents, keyboardEvents, hbits, hreleased, hpressed]
  exact congrArg (fun es => _ ++ (es ++ _)) hfresh.symm

/-- Statics that are the same for the shapes that occur write the same. -/
theorem run_congr {reports : List (List UInt8)} {st st' : ReportState}
    (hmouse : (∃ r ∈ reports, r ≠ [] ∧ r.length ≠ 8) → SameButtons st st')
    (hkeys : (∃ r ∈ reports, r.length = 8) → SameKeys st st') :
    (EdgeTrigger.run reportStep st reports).1 = (EdgeTrigger.run reportStep st' reports).1 := by
  induction reports generalizing st st' with
  | nil => rfl
  | cons r reports ih =>
      rw [EdgeTrigger.run, EdgeTrigger.run]
      simp only
      -- an empty report is ignored, and the others go by their length
      by_cases hnil : r = []
      · subst hnil
        refine ih ?_ ?_
        · rintro ⟨r, hr, h⟩
          exact hmouse ⟨r, by simp [hr], h⟩
        · rintro ⟨r, hr, h⟩
          exact hkeys ⟨r, by simp [hr], h⟩
      · by_cases h8 : r.length = 8
        · -- the states agree on the keys from here on
          rw [reportStep, reportStep, if_neg hnil, if_neg hnil, if_pos h8, if_pos h8,
            hkeys ⟨r, by simp, h8⟩]
          congr 1
          refine ih ?_ (fun _ _ _ => rfl)
          rintro ⟨r, hr, h⟩
          exact hmouse ⟨r, by simp [hr], h⟩
        · rw [reportStep, reportStep, if_neg hnil, if_neg hnil, if_neg h8, if_neg h8,
            hmouse ⟨r, by simp, hnil, h8⟩]
          congr 1
          refine ih (fun _ _ _ _ _ => rfl) ?_
          rintro ⟨r, hr, h⟩
          exact hkeys ⟨r, by simp [hr], h⟩

/-- A report that finds the same statics written the same way finds the same buttons down. -/
theorem released_of_mouseEvents {prev buttons : UInt8} {dx dy wheel : Int32}
    (h : mouseEvents prev buttons dx dy wheel = mouseEvents 0 buttons dx dy wheel)
    {p : UInt8 × UInt16} (hp : p ∈ mouseButtons) : bit prev p.1 = false := by
  have hstale := mouseEvents_edge prev buttons dx dy wheel hp
  have hfresh := mouseEvents_edge 0 buttons dx dy wheel hp
  rw [EdgeTrigger.Edge, h] at hstale
  rw [EdgeTrigger.Edge, hstale, bit_zero] at hfresh
  cases hprev : bit prev p.1 with
  | false => rfl
  | true =>
      rw [hprev] at hfresh
      cases hnow : bit buttons p.1 with
      | false =>
          rw [hnow] at hfresh
          revert hfresh
          decide
      | true =>
          rw [hnow] at hfresh
          revert hfresh
          decide

/-- A report that finds the same statics written the same way finds the same keys held. -/
theorem released_of_keyboardEvents {prevMod modifier : UInt8} {prevKeys keys : List UInt8}
    (h : keyboardEvents prevMod modifier prevKeys keys =
      keyboardEvents 0 modifier (List.replicate 6 0) keys) (code : UInt16) :
    (modifierHeld prevMod code || slotHeld prevKeys code) = false := by
  have hstale := keyboardEvents_follows prevMod modifier prevKeys keys code
  have hfresh := keyboardEvents_follows 0 modifier (List.replicate 6 0) keys code
  have hstaleQuiet : (modifierHeld prevMod code || slotHeld prevKeys code) =
      (modifierHeld modifier code || slotHeld keys code) →
        EdgeTrigger.values (keyValue code) (keyboardEvents prevMod modifier prevKeys keys) = [] :=
    keyboardEvents_quiet
  have hfreshQuiet : (modifierHeld 0 code || slotHeld (List.replicate 6 0) code) =
      (modifierHeld modifier code || slotHeld keys code) →
        EdgeTrigger.values (keyValue code) (keyboardEvents 0 modifier (List.replicate 6 0) keys) = [] :=
    keyboardEvents_quiet
  rw [h] at hstale hstaleQuiet
  rw [held_start] at hfresh hfreshQuiet
  generalize (modifierHeld modifier code || slotHeld keys code) = now
    at hstale hfresh hstaleQuiet hfreshQuiet
  cases hprev : modifierHeld prevMod code || slotHeld prevKeys code with
  | false => rfl
  | true =>
      rw [hprev] at hstale hstaleQuiet
      -- one of the two has a change to tell, and the other has none
      cases now with
      | false => exact absurd (keyState_inj.1 (hstale.eq_was (hfreshQuiet rfl))) (by decide)
      | true => exact absurd (keyState_inj.1 (hfresh.eq_was (hstaleQuiet rfl))) (by decide)

/-- The first element with a property. -/
theorem exists_first {α : Type} {P : α → Prop} [DecidablePred P] {l : List α} (h : ∃ a ∈ l, P a) :
    ∃ before a after, l = before ++ a :: after ∧ P a ∧ ∀ b ∈ before, ¬ P b := by
  have hsome : (l.find? fun a => decide (P a)).isSome = true := by
    simpa using h
  obtain ⟨a, ha⟩ := Option.isSome_iff_exists.1 hsome
  obtain ⟨hP, before, after, rfl, hno⟩ := List.find?_eq_some_iff_append.1 ha
  exact ⟨before, a, after, rfl, by simpa using hP, by simpa using hno⟩

/-- Reports of other shapes leave the statics of a shape alone. -/
theorem run_prev {reports : List (List UInt8)} (h : ∀ r ∈ reports, ¬ (r ≠ [] ∧ r.length ≠ 8))
    (st : ReportState) : (EdgeTrigger.run reportStep st reports).2.prev = st.prev := by
  induction reports generalizing st with
  | nil => rfl
  | cons r reports ih =>
      rw [EdgeTrigger.run]
      simp only
      rw [ih (fun r' hr' => h r' (by simp [hr'])), reportStep]
      have hr := h r (by simp)
      split_ifs with hnil h8
      · rfl
      · rfl
      · exact absurd ⟨hnil, h8⟩ hr

theorem run_prevKeys {reports : List (List UInt8)} (h : ∀ r ∈ reports, ¬ r.length = 8)
    (st : ReportState) :
    (EdgeTrigger.run reportStep st reports).2.prevMod = st.prevMod ∧
      (EdgeTrigger.run reportStep st reports).2.prevKeys = st.prevKeys := by
  induction reports generalizing st with
  | nil => exact ⟨rfl, rfl⟩
  | cons r reports ih =>
      rw [EdgeTrigger.run]
      simp only
      obtain ⟨hmod, hkeys⟩ := ih (fun r' hr' => h r' (by simp [hr'])) (reportStep st r).2
      rw [hmod, hkeys, reportStep, if_neg (h r (by simp))]
      split_ifs with hnil
      · exact ⟨rfl, rfl⟩
      · exact ⟨rfl, rfl⟩

/-- **Stale statics make no difference**, at any point of a sequence of reports, exactly if the
reports find nothing held in them. -/
theorem run_eq_fresh_iff (st : ReportState) (reports : List (List UInt8)) :
    (∀ rs, rs <+: reports →
      (EdgeTrigger.run reportStep st rs).1 = (EdgeTrigger.run reportStep {} rs).1) ↔
      Released st reports := by
  constructor
  · intro h
    -- what is written for one report, after the reports before it
    have hone {before after : List (List UInt8)} {r : List UInt8}
        (heq : reports = before ++ r :: after) :
        (reportStep (EdgeTrigger.run reportStep st before).2 r).1 =
          (reportStep (EdgeTrigger.run reportStep {} before).2 r).1 := by
      have hbefore := h before ⟨r :: after, heq.symm⟩
      have hthis := h (before ++ [r]) ⟨after, by rw [heq, List.append_assoc]; rfl⟩
      rw [EdgeTrigger.run_concat, EdgeTrigger.run_concat, hbefore] at hthis
      exact List.append_cancel_left hthis
    constructor
    · intro hex p hp
      obtain ⟨before, r, after, heq, ⟨hnil, h8⟩, hno⟩ := exists_first hex
      have hr := hone heq
      rw [reportStep, reportStep, if_neg hnil, if_neg hnil, if_neg h8, if_neg h8, run_prev hno,
        run_prev hno] at hr
      exact released_of_mouseEvents hr hp
    · intro hex code
      obtain ⟨before, r, after, heq, h8, hno⟩ := exists_first hex
      have hnil : r ≠ [] := by
        rintro rfl
        cases h8
      have hr := hone heq
      obtain ⟨hmod, hkeys⟩ := run_prevKeys hno st
      obtain ⟨hmod', hkeys'⟩ := run_prevKeys hno {}
      rw [reportStep, reportStep, if_neg hnil, if_neg hnil, if_pos h8, if_pos h8, hmod, hkeys, hmod',
        hkeys'] at hr
      exact released_of_keyboardEvents hr code
  · rintro ⟨hmouse, hkeys⟩ rs hrs
    apply run_congr
    · rintro ⟨r, hr, hshape⟩
      exact SameButtons.of_released (hmouse ⟨r, hrs.subset hr, hshape⟩)
    · rintro ⟨r, hr, hshape⟩
      exact SameKeys.of_released (hkeys ⟨r, hrs.subset hr, hshape⟩)

/-! ### BIND_ACKs and reports in a session -/

section Session

variable {τ : Type} (json : Json BindAckMeta) (desktop : Desktop τ)

/-- Every operation of `/dev/uinput` works, and nobody presses Ctrl-C. -/
structure Desktop.Works (desktop : Desktop τ) : Prop where
  uinput : ∀ o t, (desktop.uinput o t).1 = .ok ()
  stop : ∀ t, desktop.stop t = false

/-- The frame is a BIND_ACK for a mouse or a keyboard. -/
def Acks (f : HidFrame) : Prop :=
  f.op = .bindAck ∧ ∃ info descriptor profile,
    parseBindAckBody json f.body = .ok (info, descriptor) ∧ profileOf info = some profile

/-- The reports that the receiver decodes: those that come when there is a device. -/
def decoded : Bool → List HidFrame → List (List UInt8)
  | _, [] => []
  | bound, f :: fs =>
      if f.op = .bindAck then decoded true fs
      else if bound then f.body :: decoded bound fs
      else decoded bound fs

/-- More events for the device created last. -/
def addEvents (devices : List (DeviceProfile × List InputEvent)) (es : List InputEvent) :
    List (DeviceProfile × List InputEvent) :=
  match devices with
  | [] => []
  | (profile, es') :: devices => (profile, es' ++ es) :: devices

/-- The events written to the device created last. -/
def currentEvents (devices : List (DeviceProfile × List InputEvent)) : List InputEvent :=
  match devices with
  | [] => []
  | (_, es) :: _ => es

theorem devicesOf_concat (calls : List (Call uinputSig)) (c : Call uinputSig) :
    devicesOf (calls ++ [c]) = addCall (devicesOf calls) c := by
  rw [devicesOf, List.foldl_append]
  rfl

theorem addEvents_nil (devices : List (DeviceProfile × List InputEvent)) :
    addEvents devices [] = devices := by
  rcases devices with _ | ⟨⟨profile, es⟩, devices⟩
  · rfl
  · rw [addEvents, List.append_nil]

theorem addEvents_append (devices : List (DeviceProfile × List InputEvent))
    (es es' : List InputEvent) :
    addEvents (addEvents devices es) es' = addEvents devices (es ++ es') := by
  rcases devices with _ | ⟨⟨profile, es₀⟩, devices⟩
  · rfl
  · rw [addEvents, addEvents, addEvents, List.append_assoc]

theorem callsOnly_writeEvents (es : List InputEvent) : CallsOnly (writeEvents es) := by
  induction es with
  | nil => exact .pure _
  | cons e es ih =>
      rw [writeEvents]
      refine .bind (.callOp _) fun r => ?_
      split
      · exact ih
      · exact .throw _

/-- Of some events a beginning is written: all of them if that is reported, and it is reported if
every operation works. -/
theorem answer_writeEvents_cases (es : List InputEvent) (st : ReportState)
    (calls : List (Call uinputSig)) (t : τ) :
    ∃ result calls' t' written,
      answer desktop.watched.uinput.withRef (writeEvents es) (st, calls, t) =
        (result, (st, calls', t')) ∧
      devicesOf calls' = addEvents (devicesOf calls) written ∧ written <+: es ∧
      (result = .ok () → written = es) ∧ (desktop.Works → result = .ok ()) := by
  -- event by event, up to the first that cannot be written
  induction es generalizing calls t with
  | nil =>
      exact ⟨.ok (), calls, t, [], rfl, (addEvents_nil _).symm, List.nil_prefix, fun _ => rfl,
        fun _ => rfl⟩
  | cons e es ih =>
      have hcall : answer desktop.watched.uinput.withRef (callOp (X := uinputSig) (.write e) :
          Act (uinputSig.withRef ReportState) (Fault String) _) (st, calls, t) =
          (.ok (desktop.uinput (.write e) t).1,
            (st, calls ++ [⟨.write e, (desktop.uinput (.write e) t).1⟩],
              (desktop.uinput (.write e) t).2)) := rfl
      rw [writeEvents, answer_bind _ (.callOp _), hcall]
      simp only
      rcases hwrite : desktop.uinput (.write e) t with ⟨text | ⟨⟩, t₁⟩
      · refine ⟨.error (.err text), _, _, [], rfl, ?_, List.nil_prefix, fun h => (by cases h),
          fun hworks => ?_⟩
        · rw [devicesOf_concat, addEvents_nil]
          rfl
        · have := hworks.uinput (.write e) t
          rw [hwrite] at this
          cases this
      · obtain ⟨result, calls', t', written, hanswer, hdevices, hprefix, hall, hworks⟩ :=
          ih (calls ++ [⟨.write e, .ok ()⟩]) t₁
        refine ⟨result, calls', t', e :: written, hanswer, ?_, (List.prefix_cons_inj e).2 hprefix,
          fun h => by rw [hall h], hworks⟩
        rw [hdevices, devicesOf_concat]
        rcases devicesOf calls with _ | ⟨⟨profile, es₀⟩, devices⟩
        · rfl
        · rw [addCall, addEvents, addEvents, List.append_assoc]
          rfl

/-- The same for a report, which leaves its mark in the statics if all of it is written. -/
theorem answer_pushReport_cases (body : List UInt8) (st : ReportState)
    (calls : List (Call uinputSig)) (t : τ) :
    ∃ result st' calls' t' written,
      answer desktop.watched.uinput.withRef (pushReport body) (st, calls, t) =
        (result, (st', calls', t')) ∧
      devicesOf calls' = addEvents (devicesOf calls) written ∧ written <+: (reportStep st body).1 ∧
      (result = .ok () → written = (reportStep st body).1 ∧ st' = (reportStep st body).2) ∧
      (desktop.Works → result = .ok ()) := by
  obtain ⟨result, calls', t', written, hanswer, hdevices, hprefix, hall, hworks⟩ :=
    answer_writeEvents_cases desktop (reportStep st body).1 st calls t
  have hpush : answer desktop.watched.uinput.withRef (pushReport body) (st, calls, t) =
      answer desktop.watched.uinput.withRef (do
        writeEvents (reportStep st body).1
        setRef (reportStep st body).2) (st, calls, t) := by
    rw [pushReport, answer_bind _ .getRef, answer_getRef]
    simp only
    rw [answer_bind _ (.ofResult _), answer_ofResult, applyReport_eq]
  rw [answer_bind _ (callsOnly_writeEvents _), hanswer] at hpush
  rcases result with e | ⟨⟩
  · exact ⟨.error e, _, _, _, written, hpush, hdevices, hprefix, fun h => (by cases h),
      fun h => (by cases hworks h)⟩
  · exact ⟨.ok (), _, _, _, written, hpush, hdevices, hprefix, fun _ => ⟨hall rfl, rfl⟩, fun _ => rfl⟩

variable {desktop}

/-- On a desktop that works a report is decoded and written. -/
theorem Desktop.Works.answer_pushReport (h : desktop.Works) (body : List UInt8) (st : ReportState)
    (calls : List (Call uinputSig)) (t : τ) :
    ∃ calls' t', answer desktop.watched.uinput.withRef (pushReport body) (st, calls, t) =
        (.ok (), ((reportStep st body).2, calls', t')) ∧
      devicesOf calls' = addEvents (devicesOf calls) (reportStep st body).1 := by
  obtain ⟨result, st', calls', t', written, hanswer, hdevices, -, hall, hworks⟩ :=
    answer_pushReport_cases desktop body st calls t
  obtain rfl := hworks h
  obtain ⟨rfl, rfl⟩ := hall rfl
  exact ⟨calls', t', hanswer, hdevices⟩

/-- A report that comes when there is a device. -/
theorem Desktop.Works.step_report (h : desktop.Works) {f : HidFrame} (hop : f.op = .reportIn)
    {s : Session} (hs : s.device.isSome = true) (log : SessionLog τ) :
    ∃ log', sessionStep json desktop.logged f.envelope (s, log) =
        .inl ({ s with lastSeq := f.seq }, log') ∧
      log'.2.1 = (reportStep log.2.1 f.body).2 ∧
      devicesOf log'.2.2.1 = addEvents (devicesOf log.2.2.1) (reportStep log.2.1 f.body).1 := by
  obtain ⟨log₁, hlog₁, hjump⟩ : ∃ log₁ : SessionLog τ,
      (if s.Jump f then (desktop.logged (.seqJump s.lastSeq f.seq) log).2 else log) = log₁ ∧
        log₁.2 = log.2 := by
    split_ifs
    · exact ⟨_, rfl, rfl⟩
    · exact ⟨_, rfl, rfl⟩
  obtain ⟨calls, st, ucalls, t⟩ := log₁
  obtain ⟨ucalls', t', hpush, hdevices⟩ := h.answer_pushReport f.body st ucalls t
  have hcall : desktop.logged (.applyReport f.body) (calls, st, ucalls, t) =
      (.ok (), (calls ++ [⟨.applyReport f.body, .ok ()⟩], (reportStep st f.body).2, ucalls', t')) := by
    have hbeneath : desktop.watched.env (.applyReport f.body) (st, ucalls, t) =
        (.ok (), ((reportStep st f.body).2, ucalls', t')) := hpush
    rw [Desktop.logged, Env.traced]
    simp only [hbeneath]
    rfl
  refine ⟨(calls ++ [⟨.applyReport f.body, .ok ()⟩], (reportStep st f.body).2, ucalls', t'), ?_, ?_,
    ?_⟩
  · rw [sessionStep_reading json desktop (h.stop _), answer_handleEnvelope_frame _ _ (carries_envelope f),
      answer_handleFrame_reportIn _ _ hop, answer_handleReport_bound _ hs, hlog₁, hcall]
    rfl
  · rw [← hjump]
  · rw [← hjump]
    exact hdevices

/-- A report that comes before there is a device. -/
theorem Desktop.Works.step_early (h : desktop.Works) {f : HidFrame} (hop : f.op = .reportIn)
    {s : Session} (hs : s.device = none) (log : SessionLog τ) :
    ∃ log', sessionStep json desktop.logged f.envelope (s, log) =
        .inl ({ s with lastSeq := f.seq }, log') ∧ log'.2 = log.2 := by
  refine ⟨if s.Jump f then (desktop.logged (.seqJump s.lastSeq f.seq) log).2 else log, ?_, ?_⟩
  · rw [sessionStep_reading json desktop (h.stop _), answer_handleEnvelope_frame _ _ (carries_envelope f),
      answer_handleFrame_reportIn _ _ hop, answer_handleReport_unbound _ hs]
    rfl
  · split_ifs
    · rfl
    · rfl

/-- A BIND_ACK for a mouse or a keyboard. -/
theorem Desktop.Works.step_ack (h : desktop.Works) {f : HidFrame} (hack : Acks json f) (s : Session)
    (log : SessionLog τ) :
    ∃ profile log', sessionStep json desktop.logged f.envelope (s, log) =
        .inl ({ s with device := some profile }, log') ∧
      log'.2.1 = log.2.1 ∧ devicesOf log'.2.2.1 = (profile, []) :: devicesOf log.2.2.1 := by
  obtain ⟨hop, info, descriptor, profile, hbody, hprofile⟩ := hack
  obtain ⟨calls, st, ucalls, t⟩ := log
  have hcall : desktop.logged (.create profile) (calls, st, ucalls, t) =
      (.ok (), (calls ++ [⟨.create profile, .ok ()⟩], st, ucalls ++ [⟨.create profile, .ok ()⟩],
        (desktop.uinput (.create profile) t).2)) := by
    have hbeneath : desktop.watched.env (.create profile) (st, ucalls, t) =
        (.ok (), (st, ucalls ++ [⟨.create profile, .ok ()⟩],
          (desktop.uinput (.create profile) t).2)) := by
      rw [Desktop.env, desktop.watched_uinput, h.uinput]
    rw [Desktop.logged, Env.traced]
    simp only [hbeneath]
    rfl
  refine ⟨profile, (calls ++ [⟨.create profile, .ok ()⟩], st,
    ucalls ++ [⟨.create profile, .ok ()⟩], (desktop.uinput (.create profile) t).2), ?_, rfl, ?_⟩
  · rw [sessionStep_reading json desktop (h.stop _), answer_handleEnvelope_frame _ _ (carries_envelope f),
      answer_handleFrame_bindAck _ _ hop hbody hprofile, hcall]
    rfl
  · rw [devicesOf_concat]
    rfl

/-- **What BIND_ACKs and reports do to the statics**: they stand for the reports decoded. -/
theorem run_frames (h : desktop.Works) {fs : List HidFrame}
    (hfs : ∀ f ∈ fs, f.op = .reportIn ∨ Acks json f) (s : Session) (log : SessionLog τ) :
    ∃ s' log', Consumer.run (sessionStep json desktop.logged) (fs.map HidFrame.envelope) (s, log) =
        .inl (s', log') ∧
      log'.2.1 = (EdgeTrigger.run reportStep log.2.1 (decoded s.device.isSome fs)).2 := by
  induction fs generalizing s log with
  | nil => exact ⟨s, log, rfl, rfl⟩
  | cons f fs ih =>
      have hrest : ∀ f' ∈ fs, f'.op = .reportIn ∨ Acks json f' :=
        fun f' hf' => hfs f' (by simp [hf'])
      -- a report is decoded if there is a device; a BIND_ACK makes one
      rcases hfs f (by simp) with hop | hack
      · have hne : ¬ f.op = .bindAck := by
          rw [hop]
          decide
        by_cases hs : s.device.isSome = true
        · obtain ⟨log₁, hstep, hst, -⟩ := h.step_report json hop hs log
          obtain ⟨s', log', hrun, hst'⟩ := ih hrest { s with lastSeq := f.seq } log₁
          refine ⟨s', log', ?_, ?_⟩
          · rw [List.map_cons, Consumer.run_cons_inl hstep, hrun]
          · rw [hst', hst, decoded, if_neg hne, if_pos hs, EdgeTrigger.run]
        · have hnone : s.device = none := by simpa using hs
          obtain ⟨log₁, hstep, hlog⟩ := h.step_early json hop hnone log
          obtain ⟨s', log', hrun, hst'⟩ := ih hrest { s with lastSeq := f.seq } log₁
          refine ⟨s', log', ?_, ?_⟩
          · rw [List.map_cons, Consumer.run_cons_inl hstep, hrun]
          · rw [hst', hlog, decoded, if_neg hne, if_neg hs]
      · obtain ⟨profile, log₁, hstep, hst, -⟩ := h.step_ack json hack s log
        obtain ⟨s', log', hrun, hst'⟩ := ih hrest { s with device := some profile } log₁
        refine ⟨s', log', ?_, ?_⟩
        · rw [List.map_cons, Consumer.run_cons_inl hstep, hrun]
        · rw [hst', hst, decoded, if_pos hack.1]
          rfl

/-- **What reports do to the device there is.** -/
theorem run_reports (h : desktop.Works) {rs : List HidFrame} (hrs : ∀ f ∈ rs, f.op = .reportIn)
    {s : Session} (hs : s.device.isSome = true) (log : SessionLog τ) :
    ∃ s' log', Consumer.run (sessionStep json desktop.logged) (rs.map HidFrame.envelope) (s, log) =
        .inl (s', log') ∧
      devicesOf log'.2.2.1 = addEvents (devicesOf log.2.2.1)
        (EdgeTrigger.run reportStep log.2.1 (rs.map HidFrame.body)).1 := by
  induction rs generalizing s log with
  | nil => exact ⟨s, log, rfl, (addEvents_nil _).symm⟩
  | cons f rs ih =>
      obtain ⟨log₁, hstep, hst, hdevices⟩ := h.step_report json (hrs f (by simp)) hs log
      obtain ⟨s', log', hrun, hdevices'⟩ :=
        ih (fun f' hf' => hrs f' (by simp [hf'])) (s := { s with lastSeq := f.seq }) hs log₁
      refine ⟨s', log', ?_, ?_⟩
      · rw [List.map_cons, Consumer.run_cons_inl hstep, hrun]
      · rw [hdevices', hdevices, hst, addEvents_append, List.map_cons, EdgeTrigger.run]

/-! ### A clean slate -/

variable (desktop)

/-- The events written to the device created last, when the frames have been processed in a new
process. -/
def eventsAfter (t : τ) (fs : List HidFrame) : Option (List InputEvent) :=
  match Consumer.run (sessionStep json desktop.logged) (fs.map HidFrame.envelope)
      ({}, ([], {}, [], t)) with
  | .inl (_, log) => some (currentEvents (devicesOf log.2.2.1))
  | .inr _ => none

/-- **A clean slate**, after some reports for the device of a BIND_ACK: on this device exactly that
is pressed which is held according to these reports, and what was written to it is what would have
been written if nothing had come before the BIND_ACK. -/
def CleanSlate (t : τ) (pre : List HidFrame) (ack : HidFrame) (reports : List HidFrame) : Prop :=
  ∃ es, eventsAfter json desktop t (pre ++ ack :: reports) = some es ∧
    (∀ code, EdgeTrigger.level (keyValue code) 0 es =
      keyState (heldBy (reports.map HidFrame.body) code)) ∧
    eventsAfter json desktop t (ack :: reports) = some es

variable {desktop}

/-- What is written to the device of the last BIND_ACK. -/
theorem eventsAfter_eq (h : desktop.Works) (t : τ) {pre reports : List HidFrame} {ack : HidFrame}
    (hpre : ∀ f ∈ pre, f.op = .reportIn ∨ Acks json f) (hack : Acks json ack)
    (hreports : ∀ f ∈ reports, f.op = .reportIn) :
    eventsAfter json desktop t (pre ++ ack :: reports) =
      some (EdgeTrigger.run reportStep (stateOf (decoded false pre)) (reports.map HidFrame.body)).1 := by
  obtain ⟨s₁, log₁, hrun₁, hst₁⟩ := run_frames json h hpre {} ([], {}, [], t)
  obtain ⟨profile, log₂, hstep, hst₂, hdevices₂⟩ := h.step_ack json hack s₁ log₁
  obtain ⟨s₃, log₃, hrun₃, hdevices₃⟩ :=
    run_reports json h hreports (s := { s₁ with device := some profile }) rfl log₂
  have hstate : log₂.2.1 = stateOf (decoded false pre) := by
    rw [hst₂, hst₁, ← run_state]
    rfl
  rw [eventsAfter, List.map_append, Consumer.run_append_inl hrun₁, List.map_cons,
    Consumer.run_cons_inl hstep, hrun₃]
  simp only
  rw [hdevices₃, hdevices₂, hstate, addEvents, List.nil_append, currentEvents]

/-- **When a new device starts from a clean slate.**  For every BIND_ACK of a run and the reports
that follow it: at each of them the slate is clean exactly if, when a mouse report is among them, no
button was down according to the last mouse report decoded before the BIND_ACK, and the same for
keyboard reports and keys. -/
theorem cleanSlate_iff (h : desktop.Works) (t : τ) {pre reports : List HidFrame} {ack : HidFrame}
    (hpre : ∀ f ∈ pre, f.op = .reportIn ∨ Acks json f) (hack : Acks json ack)
    (hreports : ∀ f ∈ reports, f.op = .reportIn) :
    (∀ rs, rs <+: reports → CleanSlate json desktop t pre ack rs) ↔
      ((∃ f ∈ reports, f.body ≠ [] ∧ f.body.length ≠ 8) →
        ∀ p ∈ mouseButtons, buttonDown (decoded false pre) p.1 = false) ∧
      ((∃ f ∈ reports, f.body.length = 8) → ∀ code, keyDown (decoded false pre) code = false) := by
  -- what is written, and what would have been written
  have hafter {rs : List HidFrame} (hrs : rs <+: reports) :=
    eventsAfter_eq json h t hpre hack fun f hf => hreports f (hrs.subset hf)
  have hfresh {rs : List HidFrame} (hrs : rs <+: reports) :
      eventsAfter json desktop t (ack :: rs) =
        some (EdgeTrigger.run reportStep {} (rs.map HidFrame.body)).1 := by
    have hnone : ∀ f ∈ ([] : List HidFrame), f.op = .reportIn ∨ Acks json f := by simp
    exact eventsAfter_eq json h t hnone hack fun f hf => hreports f (hrs.subset hf)
  have hslate {rs : List HidFrame} (hrs : rs <+: reports) :
      CleanSlate json desktop t pre ack rs ↔
        (EdgeTrigger.run reportStep (stateOf (decoded false pre)) (rs.map HidFrame.body)).1 =
          (EdgeTrigger.run reportStep {} (rs.map HidFrame.body)).1 := by
    constructor
    · rintro ⟨es, hes, -, hes'⟩
      rw [hafter hrs] at hes
      rw [hfresh hrs] at hes'
      exact (Option.some.inj hes).trans (Option.some.inj hes').symm
    · intro heq
      refine ⟨_, hafter hrs, fun code => ?_, ?_⟩
      · rw [heq, level_heldBy]
      · rw [heq]
        exact hfresh hrs
  have hreleased : Released (stateOf (decoded false pre)) (reports.map HidFrame.body) ↔
      ((∃ f ∈ reports, f.body ≠ [] ∧ f.body.length ≠ 8) →
        ∀ p ∈ mouseButtons, buttonDown (decoded false pre) p.1 = false) ∧
      ((∃ f ∈ reports, f.body.length = 8) → ∀ code, keyDown (decoded false pre) code = false) := by
    simp only [Released, List.mem_map, exists_exists_and_eq_and, bit_stateOf, held_stateOf]
  rw [← hreleased, ← run_eq_fresh_iff]
  constructor
  · intro hall rs hrs
    obtain ⟨rs', hrs', rfl⟩ := List.prefix_map_iff.1 hrs
    exact (hslate hrs').1 (hall rs' hrs')
  · intro hall rs hrs
    exact (hslate hrs).2 (hall _ (hrs.map HidFrame.body))

end Session

/-! ### A button that is down when the device is replaced -/

/-- A mouse report of the binding asked for. -/
def mouseReport (seq : UInt16) (body : List UInt8) : HidFrame := ⟨.reportIn, bindId, seq, body⟩

theorem acks_mouse : Acks mouseJson (mouseAck bindId) :=
  ⟨rfl, mouseAt "5-2", [], .mouse "zerowire: mouse" 0xBADD 0xC0DE, parse_mouseAck bindId, rfl⟩

theorem works_idleDesktop : idleDesktop.Works := ⟨fun _ _ => rfl, fun _ => rfl⟩

/-- A mouse is bound, its left button goes down, the device is replaced, and the next report says
that the button is still down: it is not pressed on the new device. -/
theorem heldButton_notPressed :
    ¬ CleanSlate mouseJson idleDesktop ()
    [mouseAck bindId, mouseReport 1 [1, 0, 0]] (mouseAck bindId)
      [mouseReport 2 [1, 0, 0]] := by
  rintro ⟨es, hes, hlevel, -⟩
  rw [eventsAfter_eq mouseJson works_idleDesktop ()
    (by simp [acks_mouse, mouseReport]) acks_mouse (by simp [mouseReport])] at hes
  obtain rfl := Option.some.inj hes
  have hleft := hlevel btnLeft
  revert hleft
  decide

/-- The button goes up before the device is replaced. -/
theorem cleanSlate_released :
    CleanSlate mouseJson idleDesktop ()
      [mouseAck bindId, mouseReport 1 [1, 0, 0], mouseReport 2 [0, 0, 0]] (mouseAck bindId)
      [mouseReport 3 [1, 0, 0]] := by
  have hlast : lastMouse (decoded false
      [mouseAck bindId, mouseReport 1 [1, 0, 0], mouseReport 2 [0, 0, 0]]) = some [0, 0, 0] := rfl
  refine (cleanSlate_iff mouseJson works_idleDesktop () (by simp [acks_mouse, mouseReport]) acks_mouse
    (by simp [mouseReport])).2 ⟨fun _ p _ => ?_, ?_⟩ _ (List.prefix_refl _)
  · rw [buttonDown, hlast]
    exact bit_zero p.1
  · simp [mouseReport]

end Zerowire

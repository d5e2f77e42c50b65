/-
**Events that the device was made for** (`desktop-linux/src/uinput.rs`,
`desktop-linux/src/receiver.rs`).

When a virtual device is created the kernel is told which events it will send, and it drops all
others without a word.  What is declared goes by the kind that the BIND_ACK names.  How a report is
decoded goes by its length: eight bytes are a keyboard's, anything else is a mouse's.  Nobody
compares the two.

Main definitions:

* `Zerowire.DeviceProfile.keyBits`, `Zerowire.DeviceProfile.relBits`, `Zerowire.Declared` — what
  `UinputDevice::create` declares;
* `Zerowire.openAndApply`, `Zerowire.writtenBy` — a device is opened and given reports, and what is
  written to it;
* `Zerowire.KeysUnchanged`, `Zerowire.MouseUnmoved` — a report that has nothing to tell;
* `Zerowire.remember`, `Zerowire.AllSuit` — no report of the other kind's shape has anything to
  tell.

Main results:

* `Zerowire.forall_declared_iff` — what one report makes the decoder write;
* `Zerowire.writtenBy_cases` — whatever `/dev/uinput` does, what is written is a beginning of what
  is decoded;
* `Zerowire.writes_declared_iff` — **when only declared events are written**.
-/

import Zerowire.Rebinding

set_option relaxedAutoImplicit false
set_option autoImplicit false

namespace Zerowire

open Bytes Program UinputDevice

/-! ### What is declared -/

/-- The key codes that `UinputDevice::create` enables (`set_keybit`). -/
def DeviceProfile.keyBits : DeviceProfile → List UInt16
  | .mouse _ _ _ => [btnLeft, btnRight, btnMiddle, btnSide, btnExtra]
  | .keyboard _ _ _ => (List.range 255).map fun k => UInt16.ofNat (k + 1)

/-- The relative axes that it enables (`set_relbit`). -/
def DeviceProfile.relBits : DeviceProfile → List UInt16
  | .mouse _ _ _ => [relX, relY, relWheel, relHwheel]
  | .keyboard _ _ _ => []

/-- The event types that it enables (`set_evbit`). -/
def DeviceProfile.evBits : DeviceProfile → List UInt16
  | .mouse _ _ _ => [evKey, evRel, evSyn]
  | .keyboard _ _ _ => [evKey, evSyn]

/-- **The event is one that was declared** when the device was created. -/
def Declared (profile : DeviceProfile) (e : InputEvent) : Prop :=
  e.type ∈ profile.evBits ∧
    ((e.type = evSyn ∧ e.code = synReport) ∨ (e.type = evKey ∧ e.code ∈ profile.keyBits) ∨
      (e.type = evRel ∧ e.code ∈ profile.relBits))

instance (profile : DeviceProfile) (e : InputEvent) : Decidable (Declared profile e) :=
  inferInstanceAs (Decidable (_ ∧ _))

/-- The type of an event goes with its code. -/
theorem declared_iff {profile : DeviceProfile} {e : InputEvent} :
    Declared profile e ↔
      (e.type = evSyn ∧ e.code = synReport) ∨ (e.type = evKey ∧ e.code ∈ profile.keyBits) ∨
        (e.type = evRel ∧ e.code ∈ profile.relBits) := by
  refine and_iff_right_of_imp ?_
  cases profile with
  | mouse _ _ _ => rintro (⟨h, -⟩ | ⟨h, -⟩ | ⟨h, -⟩) <;> simp [DeviceProfile.evBits, h]
  | keyboard _ _ _ =>
      rintro (⟨h, -⟩ | ⟨h, -⟩ | ⟨-, h⟩)
      · simp [DeviceProfile.evBits, h]
      · simp [DeviceProfile.evBits, h]
      · simp [DeviceProfile.relBits] at h

theorem declared_sync (profile : DeviceProfile) : ∀ e ∈ sync, Declared profile e := by
  intro e he
  obtain rfl := List.mem_singleton.1 he
  exact declared_iff.2 (.inl ⟨rfl, rfl⟩)

/-- The press or release of a key is declared exactly if the key is. -/
theorem declared_key {profile : DeviceProfile} {code : UInt16} {pressed : Bool} :
    (∀ e ∈ key code pressed, Declared profile e) ↔ code ∈ profile.keyBits := by
  have hkey : Declared profile ⟨evKey, code, keyState pressed⟩ ↔ code ∈ profile.keyBits := by
    rw [declared_iff]
    simp [evKey, evSyn, evRel]
  rw [key, List.forall_mem_append, List.forall_mem_singleton, hkey]
  exact and_iff_left (declared_sync profile)

/-- A motion is declared exactly if its axis is. -/
theorem declared_rel {profile : DeviceProfile} {axis : UInt16} {v : Int32} :
    (∀ e ∈ rel axis v, Declared profile e) ↔ (v ≠ 0 → axis ∈ profile.relBits) := by
  simp only [mem_rel, and_imp, forall_eq_apply_imp_iff, declared_iff]
  simp [evKey, evSyn, evRel]

/-- The motions of a mouse are declared for a mouse. -/
theorem declared_motions_mouse (name : String) (vendorId productId : UInt16) (dx dy wheel : Int32) :
    ∀ e ∈ (if dx ≠ 0 ∨ dy ≠ 0 then mouseMove dx dy else []) ++
      (if wheel ≠ 0 then mouseWheel wheel 0 else []),
      Declared (.mouse name vendorId productId) e := by
  have haxes {axis axis' : UInt16} {v v' : Int32}
      (h : axis ∈ [relX, relY, relWheel, relHwheel]) (h' : axis' ∈ [relX, relY, relWheel, relHwheel]) :
      ∀ e ∈ rel axis v ++ rel axis' v' ++ sync, Declared (.mouse name vendorId productId) e := by
    rw [List.forall_mem_append, List.forall_mem_append]
    exact ⟨⟨declared_rel.2 fun _ => h, declared_rel.2 fun _ => h'⟩, declared_sync _⟩
  rw [List.forall_mem_append]
  constructor
  · split_ifs
    · exact haxes (by decide) (by decide)
    · simp
  · split_ifs
    · exact haxes (by decide) (by decide)
    · simp

/-- For a keyboard they are not. -/
theorem declared_motions_keyboard (name : String) (vendorId productId : UInt16)
    (dx dy wheel : Int32) :
    (∀ e ∈ (if dx ≠ 0 ∨ dy ≠ 0 then mouseMove dx dy else []) ++
      (if wheel ≠ 0 then mouseWheel wheel 0 else []),
      Declared (.keyboard name vendorId productId) e) ↔ dx = 0 ∧ dy = 0 ∧ wheel = 0 := by
  have haxes {axis axis' : UInt16} {v v' : Int32} :
      (∀ e ∈ rel axis v ++ rel axis' v' ++ sync, Declared (.keyboard name vendorId productId) e) ↔
        v = 0 ∧ v' = 0 := by
    rw [List.forall_mem_append, List.forall_mem_append, and_iff_left (declared_sync _), declared_rel,
      declared_rel]
    simp [DeviceProfile.relBits]
  rw [List.forall_mem_append, mouseMove, mouseWheel]
  split_ifs with hmove hwheel hwheel
  · rw [haxes, haxes]
    simp [and_assoc]
  · rw [haxes]
    simp_all
  · rw [haxes]
    simp_all
  · simp_all

/-- The keys of a mouse are its buttons. -/
theorem mem_keyBits_mouse {name : String} {vendorId productId : UInt16} {code : UInt16} :
    code ∈ (DeviceProfile.mouse name vendorId productId).keyBits ↔ ∃ p ∈ mouseButtons, p.2 = code :=
  List.mem_map (f := Prod.snd) (l := mouseButtons)

/-- Those of a keyboard are the codes from 1 to 255. -/
theorem mem_keyBits_keyboard {name : String} {vendorId productId : UInt16} {code : UInt16} :
    code ∈ (DeviceProfile.keyboard name vendorId productId).keyBits ↔
      1 ≤ code.toNat ∧ code.toNat ≤ 255 := by
  rw [DeviceProfile.keyBits, List.mem_map]
  constructor
  · rintro ⟨k, hk, rfl⟩
    rw [List.mem_range] at hk
    rw [UInt16.toNat_ofNat', Nat.mod_eq_of_lt (by omega)]
    omega
  · rintro ⟨hlo, hhi⟩
    refine ⟨code.toNat - 1, List.mem_range.2 (by omega), ?_⟩
    rw [Nat.sub_add_cancel hlo, UInt16.ofNat_toNat]

/-! ### What one report makes the decoder write -/

/-- A keyboard report has nothing to tell: no modifier has changed, and no key with a code has gone
down or up. -/
structure KeysUnchanged (st : ReportState) (r : List UInt8) : Prop where
  modifiers : ∀ p ∈ modifierBits, bit st.prevMod p.1 = bit (byteAt r 0) p.1
  released : ∀ k ∈ st.prevKeys, k ≠ 0 → k ∉ slots r → hidUsageToLinuxKey k = none
  pressed : ∀ k ∈ slots r, k ≠ 0 → k ∉ st.prevKeys → hidUsageToLinuxKey k = none

/-- A mouse report has nothing to tell: no button has changed, and nothing has moved. -/
structure MouseUnmoved (st : ReportState) (r : List UInt8) : Prop where
  buttons : ∀ p ∈ mouseButtons, bit st.prev p.1 = bit (byteAt r 0) p.1
  motion : signedAt r 1 = 0 ∧ signedAt r 2 = 0
  wheel : signedAt r 3 = 0

/-- The events of a table of bits are declared exactly if those of the bits that have changed
are. -/
theorem declared_bits (profile : DeviceProfile) (was now : UInt8 → Bool)
    (table : List (UInt8 × UInt16)) :
    (∀ e ∈ table.flatMap fun p => if was p.1 ≠ now p.1 then key p.2 (now p.1) else [],
      Declared profile e) ↔ ∀ p ∈ table, was p.1 ≠ now p.1 → p.2 ∈ profile.keyBits := by
  rw [List.forall_mem_flatMap]
  refine forall₂_congr fun p _ => ?_
  by_cases h : was p.1 ≠ now p.1
  · rw [if_pos h, declared_key]
    simp [h]
  · rw [if_neg h]
    simp [h]

/-- The events of some key slots are declared exactly if the codes of their usages are. -/
theorem declared_slots (profile : DeviceProfile) (keys others : List UInt8) (pressed : Bool) :
    (∀ e ∈ keys.flatMap fun k => if k ≠ 0 ∧ ¬ k ∈ others then slotEvent k pressed else [],
      Declared profile e) ↔
      ∀ k ∈ keys, k ≠ 0 → k ∉ others → ∀ code, hidUsageToLinuxKey k = some code →
        code ∈ profile.keyBits := by
  rw [List.forall_mem_flatMap]
  refine forall₂_congr fun k _ => ?_
  by_cases h : k ≠ 0 ∧ ¬ k ∈ others
  · rw [if_pos h, slotEvent]
    rcases hidUsageToLinuxKey k with _ | code
    · simp
    · simp [declared_key, h]
  · rw [if_neg h]
    simp only [List.not_mem_nil, false_imp_iff, implies_true, true_iff]
    exact fun hne hno => absurd ⟨hne, hno⟩ h

/-- The codes of the usages are among those of a keyboard. -/
theorem usage_codes_bounded {k : UInt8} {code : UInt16} (h : hidUsageToLinuxKey k = some code) :
    1 ≤ code.toNat ∧ code.toNat ≤ 255 := by
  have hall : (allUsages.filterMap hidUsageToLinuxKey).all
      fun code => decide (1 ≤ code.toNat ∧ code.toNat ≤ 255) := by
    decide +kernel
  exact of_decide_eq_true
    (List.all_eq_true.1 hall code (List.mem_filterMap.2 ⟨k, mem_allUsages k, h⟩))

theorem modifier_codes_bounded {p : UInt8 × UInt16} (h : p ∈ modifierBits) :
    1 ≤ p.2.toNat ∧ p.2.toNat ≤ 255 := by
  have hall : modifierBits.all (fun p => decide (1 ≤ p.2.toNat ∧ p.2.toNat ≤ 255)) = true := by decide
  exact of_decide_eq_true (List.all_eq_true.1 hall p h)

theorem button_codes_large {p : UInt8 × UInt16} (h : p ∈ mouseButtons) : 255 < p.2.toNat := by
  have hall : mouseButtons.all (fun p => decide (255 < p.2.toNat)) = true := by decide
  exact of_decide_eq_true (List.all_eq_true.1 hall p h)

/-- The decoder of keyboard reports writes what was declared for a keyboard. -/
theorem keyboardEvents_keyboard (name : String) (vendorId productId : UInt16)
    (prevMod modifier : UInt8) (prevKeys keys : List UInt8) :
    ∀ e ∈ keyboardEvents prevMod modifier prevKeys keys,
      Declared (.keyboard name vendorId productId) e := by
  rw [keyboardEvents, List.forall_mem_append, List.forall_mem_append, declared_bits, declared_slots,
    declared_slots]
  simp only [mem_keyBits_keyboard]
  exact ⟨fun p hp _ => modifier_codes_bounded hp, fun k _ _ _ code h => usage_codes_bounded h,
    fun k _ _ _ code h => usage_codes_bounded h⟩

/-- For a mouse nothing of what it can write was declared. -/
theorem keyboardEvents_mouse (name : String) (vendorId productId : UInt16) (st : ReportState)
    (r : List UInt8) :
    (∀ e ∈ keyboardEvents st.prevMod (byteAt r 0) st.prevKeys (slots r),
      Declared (.mouse name vendorId productId) e) ↔ KeysUnchanged st r := by
  have hmodifier {p : UInt8 × UInt16} (hp : p ∈ modifierBits) :
      ¬ ∃ q ∈ mouseButtons, q.2 = p.2 := by
    rintro ⟨q, hq, h⟩
    exact mouseButtons_ne_modifier hq hp h.symm
  have husage {k : UInt8} :
      (∀ code, hidUsageToLinuxKey k = some code → ∃ q ∈ mouseButtons, q.2 = code) ↔
        hidUsageToLinuxKey k = none := by
    rw [Option.eq_none_iff_forall_ne_some]
    refine forall_congr' fun code => ⟨fun h hcode => ?_, fun h hcode => (h hcode).elim⟩
    obtain ⟨q, hq, hne⟩ := h hcode
    exact hidUsageToLinuxKey_ne_modifier hcode (List.mem_append_right _ hq) hne
  rw [keyboardEvents, List.forall_mem_append, List.forall_mem_append, declared_bits, declared_slots,
    declared_slots]
  simp only [mem_keyBits_mouse, husage]
  constructor
  · rintro ⟨hmod, hreleased, hpressed⟩
    refine ⟨fun p hp => ?_, hreleased, hpressed⟩
    by_contra hne
    exact hmodifier hp (hmod p hp hne)
  · rintro ⟨hmod, hreleased, hpressed⟩
    exact ⟨fun p hp hne => absurd (hmod p hp) hne, hreleased, hpressed⟩

/-- The decoder of mouse reports writes what was declared for a mouse. -/
theorem mouseEvents_mouse (name : String) (vendorId productId : UInt16) (prev buttons : UInt8)
    (dx dy wheel : Int32) :
    ∀ e ∈ mouseEvents prev buttons dx dy wheel, Declared (.mouse name vendorId productId) e := by
  rw [mouseEvents_eq, List.forall_mem_append, declared_bits]
  refine ⟨fun p hp _ => mem_keyBits_mouse.2 ⟨p, hp, rfl⟩, ?_⟩
  exact declared_motions_mouse name vendorId productId dx dy wheel

/-- For a keyboard nothing of what it can write was declared. -/
theorem mouseEvents_keyboard (name : String) (vendorId productId : UInt16) (st : ReportState)
    (r : List UInt8) :
    (∀ e ∈ mouseEvents st.prev (byteAt r 0) (signedAt r 1) (signedAt r 2) (signedAt r 3),
      Declared (.keyboard name vendorId productId) e) ↔ MouseUnmoved st r := by
  rw [mouseEvents_eq, List.forall_mem_append, declared_bits, declared_motions_keyboard]
  simp only [mem_keyBits_keyboard]
  constructor
  · rintro ⟨hbuttons, hx, hy, hwheel⟩
    refine ⟨fun p hp => ?_, ⟨hx, hy⟩, hwheel⟩
    by_contra hne
    have := button_codes_large hp
    have := hbuttons p hp hne
    omega
  · rintro ⟨hbuttons, ⟨hx, hy⟩, hwheel⟩
    exact ⟨fun p hp hne => absurd (hbuttons p hp) hne, hx, hy, hwheel⟩

/-- **The report suits the device**, or it has nothing to tell. -/
def Suits (profile : DeviceProfile) (st : ReportState) (r : List UInt8) : Prop :=
  match profile with
  | .mouse _ _ _ => r.length = 8 → KeysUnchanged st r
  | .keyboard _ _ _ => r ≠ [] → r.length ≠ 8 → MouseUnmoved st r

/-- **What one report makes the decoder write** was declared exactly if the report suits the
device. -/
theorem forall_declared_iff (profile : DeviceProfile) (st : ReportState) (r : List UInt8) :
    (∀ e ∈ (reportStep st r).1, Declared profile e) ↔ Suits profile st r := by
  rw [reportStep]
  cases profile with
  | mouse name vendorId productId =>
      rw [Suits]
      split_ifs with hnil h8
      · simp [hnil]
      · rw [keyboardEvents_mouse]
        simp [h8]
      · exact iff_of_true (mouseEvents_mouse _ _ _ _ _ _ _ _) fun h => absurd h h8
  | keyboard name vendorId productId =>
      rw [Suits]
      split_ifs with hnil h8
      · simp [hnil]
      · exact iff_of_true (keyboardEvents_keyboard _ _ _ _ _ _ _) fun _ h => absurd h8 h
      · rw [mouseEvents_keyboard]
        simp [hnil, h8]

/-- What a report leaves in the statics: its buttons, or its modifiers and keys. -/
def remember (st : ReportState) (r : List UInt8) : ReportState :=
  if r = [] then st
  else if r.length = 8 then { st with prevMod := byteAt r 0, prevKeys := slots r }
  else { st with prev := byteAt r 0 }

theorem reportStep_snd (st : ReportState) (r : List UInt8) :
    (reportStep st r).2 = remember st r := by
  rw [reportStep, remember]
  split_ifs
  · rfl
  · rfl
  · rfl

/-- Every report of a sequence suits the device, when it is compared with those before it. -/
def AllSuit (profile : DeviceProfile) : ReportState → List (List UInt8) → Prop
  | _, [] => True
  | st, r :: reports => Suits profile st r ∧ AllSuit profile (remember st r) reports

/-- **What a run of the decoder writes.** -/
theorem run_declared_iff (profile : DeviceProfile) (st : ReportState)
    (reports : List (List UInt8)) :
    (∀ e ∈ (EdgeTrigger.run reportStep st reports).1, Declared profile e) ↔
      AllSuit profile st reports := by
  induction reports generalizing st with
  | nil => simp [EdgeTrigger.run, AllSuit]
  | cons r reports ih =>
      rw [EdgeTrigger.run, AllSuit, ← reportStep_snd, ← ih, ← forall_declared_iff]
      exact List.forall_mem_append

/-! ### What is written to the device -/

section Written

variable {τ : Type}

/-- `apply_report` for one body after the other, until one fails. -/
def applyAll : List (List UInt8) → Act receiverSig (Fault ReceiveError) Unit
  | [] => pure ()
  | body :: bodies => do
      let r ← call (X := receiverSig) (.applyReport body)
      ofResult (r.mapError (Fault.map .report))
      applyAll bodies

/-- `open_device`, and then `apply_report` on that device. -/
def openAndApply (info : BindAckMeta) (bodies : List (List UInt8)) :
    Act receiverSig (Fault ReceiveError) Unit := do
  let _ ← openDevice info
  applyAll bodies

/-- The devices that are created then, with the events written to each. -/
def writtenBy (desktop : Desktop τ) (statics : ReportState) (t : τ) (info : BindAckMeta)
    (bodies : List (List UInt8)) : List (DeviceProfile × List InputEvent) :=
  devicesOf (answer desktop.watched.env (openAndApply info bodies) (statics, [], t)).2.2.1

variable (desktop : Desktop τ)

/-- **What a sequence of reports writes**, whatever `/dev/uinput` does, is a beginning of what the
decoder says; and all of it if every operation works. -/
theorem answer_applyAll_cases (bodies : List (List UInt8)) (st : ReportState)
    (calls : List (Call uinputSig)) (t : τ) :
    ∃ written,
      devicesOf (answer desktop.watched.env (applyAll bodies) (st, calls, t)).2.2.1 =
        addEvents (devicesOf calls) written ∧
      written <+: (EdgeTrigger.run reportStep st bodies).1 ∧
      (desktop.Works → written = (EdgeTrigger.run reportStep st bodies).1) := by
  -- report by report, until an event cannot be written
  induction bodies generalizing st calls t with
  | nil => exact ⟨[], (addEvents_nil _).symm, List.nil_prefix, fun _ => rfl⟩
  | cons body bodies ih =>
      obtain ⟨result, st', calls', t', written, hanswer, hdevices, hext, hall, hworks⟩ :=
        answer_pushReport_cases desktop body st calls t
      have hcall : desktop.watched.env (.applyReport body) (st, calls, t) =
          (result, (st', calls', t')) := hanswer
      rw [applyAll, answer_bind _ (.call _), answer_call, hcall]
      simp only
      rw [answer_bind _ (.ofResult _), answer_ofResult]
      rcases result with e | ⟨⟩
      · -- the sequence ends with the report that cannot be written
        exact ⟨written, hdevices, hext.trans (List.prefix_append _ _), fun h => by cases hworks h⟩
      · obtain ⟨rfl, rfl⟩ := hall rfl
        obtain ⟨rest, hdevices', hext', hworks'⟩ := ih (reportStep st body).2 calls' t'
        refine ⟨(reportStep st body).1 ++ rest, ?_, (List.prefix_append_right_inj _).2 hext',
          fun h => ?_⟩
        · rw [← addEvents_append, ← hdevices]
          exact hdevices'
        · rw [hworks' h]
          rfl

/-- **What is written** to the device that is created, whatever `/dev/uinput` does. -/
theorem writtenBy_cases (statics : ReportState) (t : τ)
    {info : BindAckMeta} {profile : DeviceProfile}
    (hprofile : profileOf info = some profile) (bodies : List (List UInt8)) :
    ∃ written, written <+: (EdgeTrigger.run reportStep statics bodies).1 ∧
      (writtenBy desktop statics t info bodies = [] ∨
        writtenBy desktop statics t info bodies = [(profile, written)]) ∧
      (desktop.Works → writtenBy desktop statics t info bodies =
        [(profile, (EdgeTrigger.run reportStep statics bodies).1)]) := by
  have hcall : answer desktop.watched.env (call (X := receiverSig) (.create profile) :
      Act receiverSig (Fault ReceiveError) _) (statics, [], t) =
      (.ok (desktop.uinput (.create profile) t).1,
        (statics, [⟨.create profile, (desktop.uinput (.create profile) t).1⟩],
          (desktop.uinput (.create profile) t).2)) := rfl
  rw [writtenBy, openAndApply, answer_bind _ (callsOnly_openDevice _), openDevice, hprofile]
  simp only
  rw [answer_bind _ (.call _), hcall]
  simp only
  -- without a device nothing is written
  rcases hcreate : desktop.uinput (.create profile) t with ⟨text | ⟨⟩, t₁⟩
  · refine ⟨[], List.nil_prefix, .inl rfl, fun hworks => ?_⟩
    have hok := hworks.uinput (.create profile) t
    rw [hcreate] at hok
    cases hok
  · obtain ⟨written, hdevices, hext, hworks⟩ :=
      answer_applyAll_cases desktop bodies statics [⟨.create profile, .ok ()⟩] t₁
    refine ⟨written, hext, .inr hdevices, fun h => ?_⟩
    rw [← hworks h]
    exact hdevices

end Written

/-- **When only declared events are written.**  For every device that is accepted, and every
sequence of reports: whatever `/dev/uinput` does, every event that is written was declared when the
device was created, exactly if each report suits the device when its turn comes. -/
theorem writes_declared_iff {τ : Type} (t : τ) (statics : ReportState) (info : BindAckMeta)
    (profile : DeviceProfile) (hprofile : profileOf info = some profile)
    (bodies : List (List UInt8)) :
    (∀ desktop : Desktop τ, ∀ device ∈ writtenBy desktop statics t info bodies,
      ∀ e ∈ device.2, Declared device.1 e) ↔ AllSuit profile statics bodies := by
  rw [← run_declared_iff]
  constructor
  · intro hall
    let working : Desktop τ := ⟨fun _ t => (.ok (), t), fun _ => false⟩
    have hworks : working.Works := ⟨fun _ _ => rfl, fun _ => rfl⟩
    obtain ⟨written, -, -, hwritten⟩ := writtenBy_cases working statics t hprofile bodies
    exact hall working (profile, _) (by rw [hwritten hworks]; exact List.mem_singleton_self _)
  · intro hall desktop device hdevice e he
    obtain ⟨written, hext, hcases, -⟩ := writtenBy_cases desktop statics t hprofile bodies
    rcases hcases with hnone | hone
    · rw [hnone] at hdevice
      cases hdevice
    · rw [hone] at hdevice
      obtain rfl := List.mem_singleton.1 hdevice
      exact hall e (hext.subset he)

/-- A mouse that sends mouse reports. -/
theorem writes_declared_iff_click :
    writtenBy idleDesktop {} () (mouseAt "5-2") [[1, 0, 0]] ≠ [] ∧
      ∀ desktop : Desktop Unit, ∀ device ∈ writtenBy desktop {} () (mouseAt "5-2") [[1, 0, 0]],
        ∀ e ∈ device.2, Declared device.1 e := by
  have hprofile : profileOf (mouseAt "5-2") = some (.mouse "zerowire: mouse" 0xBADD 0xC0DE) := rfl
  constructor
  · obtain ⟨-, -, -, hwritten⟩ := writtenBy_cases idleDesktop {} () hprofile [[1, 0, 0]]
    rw [hwritten works_idleDesktop]
    exact List.cons_ne_nil _ _
  · exact (writes_declared_iff () {} (mouseAt "5-2") _ hprofile [[1, 0, 0]]).2
      ⟨fun h => absurd h (by decide), trivial⟩

/-- A mouse whose report has eight bytes, the first of them 1: a key that the device does not have
is written to it. -/
theorem wideReport_not_declared :
    ¬ ∀ desktop : Desktop Unit, ∀ device ∈ writtenBy desktop {} () (mouseAt "5-2")
        [[1, 0, 0, 0, 0, 0, 0, 0]],
      ∀ e ∈ device.2, Declared device.1 e := by
  intro hall
  have hprofile : profileOf (mouseAt "5-2") = some (.mouse "zerowire: mouse" 0xBADD 0xC0DE) := rfl
  obtain ⟨-, -, -, hwritten⟩ :=
    writtenBy_cases idleDesktop {} () hprofile [[1, 0, 0, 0, 0, 0, 0, 0]]
  have hkey := hall idleDesktop _ (by rw [hwritten works_idleDesktop]; exact List.mem_singleton_self _)
    ⟨evKey, 29, 1⟩ (by decide +kernel)
  revert hkey
  decide

end Zerowire

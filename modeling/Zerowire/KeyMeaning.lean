/-
**What the keys of a keyboard mean** (`desktop-linux/src/receiver.rs`, `hid_usage_to_linux_key`).

The kernel that drives a keyboard of its own gives each usage a key code.  The receiver has a usage
table for the same purpose, made of a table of letters, single usages and a formula for the function
keys.  Here the two are compared on whole runs of the decoder: after each report the keys held on
the virtual device should be what the kernel would make of the keys held on the physical one.

Main definitions:

* `Zerowire.kernelKey` — the kernel's assignment of key codes to usages;
* `Zerowire.heldUsages` — the usages that a report holds and the receiver translates;
* `Zerowire.heldKeys` — the keys held on the virtual device;
* `Zerowire.KeepsMeaning` — after a report, the ones are the image of the others.

Main results:

* `Zerowire.hidUsageToLinuxKey_eq_kernelKey` — where the usage table is the kernel's;
* `Zerowire.keepsMeaning_iff` — one report of a run;
* `Zerowire.keyboard_meaning_iff` — **when a run keeps the meaning of the keys.**
-/

import Zerowire.Report

set_option relaxedAutoImplicit false
set_option autoImplicit false

namespace Zerowire

open Bytes UinputDevice

/-! ### The kernel's assignment -/

/-- The kernel's key codes of the usages 0x00 to 0x52; 0 for a usage that has none. -/
def hidKeyboard : List UInt16 :=
  [0, 0, 0, 0, 30, 48, 46, 32, 18, 33, 34, 35, 23, 36, 37, 38,
    50, 49, 24, 25, 16, 19, 31, 20, 22, 47, 17, 45, 21, 44, 2, 3,
    4, 5, 6, 7, 8, 9, 10, 11, 28, 1, 14, 15, 57, 12, 13, 26,
    27, 43, 43, 39, 40, 41, 51, 52, 53, 58, 59, 60, 61, 62, 63, 64,
    65, 66, 67, 68, 87, 88, 99, 70, 119, 110, 102, 104, 111, 107, 109, 106,
    105, 108, 103]

/-- The kernel's key codes of the usages 0xE0 to 0xE7, the modifiers. -/
def hidModifiers : List UInt16 := [29, 42, 56, 125, 97, 54, 100, 126]

/-- **The kernel's assignment of key codes to usages**, as far as the receiver has usages. -/
def kernelKey (usage : UInt8) : Option UInt16 :=
  if 0xE0 ≤ usage then hidModifiers[(usage - 0xE0).toNat]?
  else
    match hidKeyboard[usage.toNat]? with
    | some code => if code = 0 then none else some code
    | none => none

/-- The usages on which the usage table is not the kernel's: F11 and F12. -/
def f11 : UInt8 := 0x44

/-- The usage of F12. -/
def f12 : UInt8 := 0x45

theorem table_agrees :
    allUsages.all fun u => hidUsageToLinuxKey u = none ∨ u = f11 ∨ u = f12 ∨
      hidUsageToLinuxKey u = kernelKey u := by
  decide +kernel

/-- **Where the usage table is the kernel's**: everywhere but at F11 and F12. -/
theorem hidUsageToLinuxKey_eq_kernelKey {u : UInt8} {code : UInt16}
    (h : hidUsageToLinuxKey u = some code) (h11 : u ≠ f11) (h12 : u ≠ f12) :
    kernelKey u = some code := by
  have hu := of_decide_eq_true (List.all_eq_true.1 table_agrees u (mem_allUsages u))
  rcases hu with hu | hu | hu | hu
  · rw [h] at hu
    cases hu
  · exact absurd hu h11
  · exact absurd hu h12
  · rw [← hu, h]

/-- The codes that the usage table gives to F11 and F12, those of NumLock and ScrollLock. -/
def misplaced : List UInt16 := [69, 70]

theorem table_misplaces :
    allUsages.all fun u => misplaced.all fun code =>
      hidUsageToLinuxKey u = none ∨ kernelKey u ≠ some code := by
  decide +kernel

/-- No key that the receiver translates has such a code. -/
theorem kernelKey_ne_misplaced {u : UInt8} {code : UInt16} (hcode : code ∈ misplaced)
    (hu : (hidUsageToLinuxKey u).isSome) : kernelKey u ≠ some code := by
  have h := of_decide_eq_true (List.all_eq_true.1
    (List.all_eq_true.1 table_misplaces u (mem_allUsages u)) code hcode)
  rcases h with h | h
  · rw [h] at hu
    cases hu
  · exact h

/-- The kernel assigns to the usage of a modifier bit the code that the receiver does. -/
theorem kernelKey_modifier {i : UInt8} {code : UInt16} (h : (i, code) ∈ modifierBits) :
    i < 8 ∧ kernelKey (0xE0 + i) = some code := by
  have hall : modifierBits.all fun p => p.1 < 8 ∧ kernelKey (0xE0 + p.1) = some p.2 := by
    decide +kernel
  exact of_decide_eq_true (List.all_eq_true.1 hall (i, code) h)

/-- Every modifier bit is in the table. -/
theorem exists_modifier {i : UInt8} (hi : i < 8) : ∃ code, (i, code) ∈ modifierBits := by
  have hall : allUsages.all fun i => i < 8 → (modifierBits.any fun p => p.1 = i) := by
    decide +kernel
  have h := of_decide_eq_true (List.all_eq_true.1 hall i (mem_allUsages i)) hi
  obtain ⟨⟨j, code⟩, hp, hj⟩ := List.any_eq_true.1 h
  obtain rfl : j = i := of_decide_eq_true hj
  exact ⟨code, hp⟩

/-! ### Held usages and held keys -/

/-- A boot report of a keyboard. -/
abbrev BootReport := { r : List UInt8 // r.length = 8 }

/-- **The usages that a report holds and the receiver translates**: those of the key slots that have
a code at all, and the modifiers, whose usages start at 0xE0. -/
def heldUsages (r : BootReport) : Set UInt8 :=
  {u | (u ∈ slots r.1 ∧ (hidUsageToLinuxKey u).isSome) ∨
    ∃ i < 8, bit (byteAt r.1 0) i = true ∧ u = 0xE0 + i}

/-- **The keys held on the virtual device** after some events: those last reported down. -/
def heldKeys (es : List InputEvent) : Set UInt16 :=
  {code | EdgeTrigger.level (keyValue code) 0 es = keyState true}

/-- What the kernel would hold down for a keyboard that sends the report. -/
def kernelKeys (r : BootReport) : Set UInt16 := {code | ∃ u ∈ heldUsages r, kernelKey u = some code}

/-- **After the report `r` the virtual device holds what the kernel would**, if the reports before
it were `before`. -/
def KeepsMeaning (before : List BootReport) (r : BootReport) : Prop :=
  ∃ es st, (applyReports {} ((before ++ [r]).map Subtype.val) : Except (Fault Empty) _) =
    .ok (es, st) ∧ heldKeys es = kernelKeys r

/-- A report that holds neither F11 nor F12. -/
def AvoidsF11F12 (r : BootReport) : Prop := f11 ∉ slots r.1 ∧ f12 ∉ slots r.1

theorem lastKeyboard_boot (before : List BootReport) (r : BootReport) :
    lastKeyboard ((before ++ [r]).map Subtype.val) = some r.1 := by
  rw [List.map_append, List.map_singleton, lastKeyboard_concat, if_pos r.2]

theorem lastMouse_boot (reports : List BootReport) :
    lastMouse (reports.map Subtype.val) = none := by
  have hnone : (reports.map Subtype.val).filter (fun r => r ≠ [] ∧ r.length ≠ 8) = [] := by
    rw [List.filter_eq_nil_iff]
    intro r hr hcond
    obtain ⟨⟨_, h8⟩, -, rfl⟩ := List.mem_map.1 hr
    exact (of_decide_eq_true hcond).2 h8
  rw [lastMouse, hnone, List.getLast?_nil]

/-- The keys held after a report are those of its modifier bits and of its slots. -/
theorem mem_heldKeys_iff (before : List BootReport) (r : BootReport) (code : UInt16) :
    code ∈ heldKeys (EdgeTrigger.run reportStep {} ((before ++ [r]).map Subtype.val)).1 ↔
      modifierHeld (byteAt r.1 0) code = true ∨ slotHeld (slots r.1) code = true := by
  rw [heldKeys, Set.mem_ofPred_eq]
  by_cases hbutton : ∃ p ∈ mouseButtons, p.2 = code
  · -- a button: no report of the run is a mouse's
    obtain ⟨p, hp, rfl⟩ := hbutton
    rw [level_button _ hp, keyState_inj, buttonDown, lastMouse_boot]
    have hmod := not_modifier_held (fun q hq => mouseButtons_ne_modifier hp hq) (byteAt r.1 0)
    have hslot : slotHeld (slots r.1) p.2 ≠ true := by
      rw [ne_eq, slotHeld_iff]
      rintro ⟨u, -, -, hu⟩
      exact hidUsageToLinuxKey_ne_modifier hu (List.mem_append_right _ hp) rfl
    rw [hmod]
    simp only [Bool.false_eq_true, hslot, or_self]
  · have hnot : ∀ p ∈ mouseButtons, p.2 ≠ code := fun p hp h => hbutton ⟨p, hp, h⟩
    rw [level_key _ hnot, keyState_inj, keyDown, lastKeyboard_boot, Bool.or_eq_true]

/-- A modifier is held as the kernel would. -/
theorem modifierHeld_iff {m : UInt8} {code : UInt16} :
    modifierHeld m code = true ↔ ∃ i < 8, bit m i = true ∧ kernelKey (0xE0 + i) = some code := by
  rw [modifierHeld, List.any_eq_true]
  constructor
  · rintro ⟨⟨i, c⟩, hp, hheld⟩
    obtain ⟨rfl, hbit⟩ := of_decide_eq_true hheld
    obtain ⟨hi, hkernel⟩ := kernelKey_modifier hp
    exact ⟨i, hi, hbit, hkernel⟩
  · rintro ⟨i, hi, hbit, hkernel⟩
    obtain ⟨c, hp⟩ := exists_modifier hi
    have hc : c = code := Option.some.inj ((kernelKey_modifier hp).2.symm.trans hkernel)
    exact ⟨(i, c), hp, decide_eq_true ⟨hc, hbit⟩⟩

/-- A report without F11 and F12 is held as the kernel would. -/
theorem heldKeys_eq {before : List BootReport} {r : BootReport} (h : AvoidsF11F12 r) :
    heldKeys (EdgeTrigger.run reportStep {} ((before ++ [r]).map Subtype.val)).1 = kernelKeys r := by
  ext code
  rw [mem_heldKeys_iff, modifierHeld_iff, slotHeld_iff, kernelKeys, Set.mem_ofPred_eq]
  constructor
  · rintro (⟨i, hi, hbit, hcode⟩ | ⟨u, hu, -, hcode⟩)
    · exact ⟨0xE0 + i, Or.inr ⟨i, hi, hbit, rfl⟩, hcode⟩
    · refine ⟨u, Or.inl ⟨hu, by rw [hcode]; rfl⟩, hidUsageToLinuxKey_eq_kernelKey hcode ?_ ?_⟩
      · rintro rfl
        exact h.1 hu
      · rintro rfl
        exact h.2 hu
  · rintro ⟨u, ⟨hu, hsome⟩ | ⟨i, hi, hbit, rfl⟩, hcode⟩
    · obtain ⟨c, hc⟩ := Option.isSome_iff_exists.1 hsome
      have hkernel := hidUsageToLinuxKey_eq_kernelKey hc (fun h11 => h.1 (h11 ▸ hu))
        (fun h12 => h.2 (h12 ▸ hu))
      obtain rfl : c = code := Option.some.inj (hkernel.symm.trans hcode)
      refine Or.inr ⟨u, hu, ?_, hc⟩
      rintro rfl
      cases hc
    · exact Or.inl ⟨i, hi, hbit, hcode⟩

/-- A report with F11 or F12 holds a key down that the kernel would not. -/
theorem heldKeys_ne {before : List BootReport} {r : BootReport} {u : UInt8} {code : UInt16}
    (hu : u ∈ slots r.1) (hne : u ≠ 0) (htable : hidUsageToLinuxKey u = some code)
    (hcode : code ∈ misplaced) :
    heldKeys (EdgeTrigger.run reportStep {} ((before ++ [r]).map Subtype.val)).1 ≠ kernelKeys r := by
  intro heq
  have hheld : code ∈ kernelKeys r := by
    rw [← heq, mem_heldKeys_iff, slotHeld_iff]
    exact Or.inr ⟨u, hu, hne, htable⟩
  obtain ⟨u', ⟨-, hsome⟩ | ⟨i, hi, -, rfl⟩, hkernel⟩ := hheld
  · exact kernelKey_ne_misplaced hcode hsome hkernel
  · obtain ⟨c, hp⟩ := exists_modifier hi
    obtain rfl : c = code := Option.some.inj ((kernelKey_modifier hp).2.symm.trans hkernel)
    exact hidUsageToLinuxKey_ne_modifier htable (List.mem_append_left _ hp) rfl

/-- **One report of a run**: what the virtual device holds after it is what the kernel would hold,
exactly if the report holds neither F11 nor F12. -/
theorem keepsMeaning_iff (before : List BootReport) (r : BootReport) :
    KeepsMeaning before r ↔ AvoidsF11F12 r := by
  rw [KeepsMeaning, applyReports_eq]
  constructor
  · rintro ⟨es, st, hrun, hheld⟩
    rw [Except.ok.injEq] at hrun
    rw [show es = _ from (congrArg Prod.fst hrun).symm] at hheld
    exact ⟨fun h => heldKeys_ne h (by decide) rfl (by decide) hheld,
      fun h => heldKeys_ne h (by decide) rfl (by decide) hheld⟩
  · intro h
    exact ⟨_, _, rfl, heldKeys_eq h⟩

/-- **When a run keeps the meaning of the keys.**  After each report of a run from fresh statics the
virtual device holds what the kernel would hold for that report, exactly if no report of the run
holds F11 or F12. -/
theorem keyboard_meaning_iff (reports : List BootReport) :
    (∀ before r after, reports = before ++ r :: after → KeepsMeaning before r) ↔
      ∀ r ∈ reports, AvoidsF11F12 r := by
  constructor
  · intro h r hr
    obtain ⟨before, after, hsplit⟩ := List.append_of_mem hr
    exact (keepsMeaning_iff before r).1 (h before r after hsplit)
  · intro h before r after hsplit
    refine (keepsMeaning_iff before r).2 (h r ?_)
    rw [hsplit]
    exact List.mem_append_right _ List.mem_cons_self

/-- The report of a keyboard on which F11 is held. -/
def f11Report : BootReport := ⟨[0, 0, f11, 0, 0, 0, 0, 0], rfl⟩

/-- F11 is held as NumLock. -/
theorem f11_misplaced : ¬ KeepsMeaning [] f11Report := by
  rw [keepsMeaning_iff]
  intro h
  exact h.1 (by decide)

end Zerowire

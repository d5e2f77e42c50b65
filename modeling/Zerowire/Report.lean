/-
**Decoding HID reports** (`desktop-linux/src/receiver.rs`, `apply_report`).

A report says which buttons or keys are down; a `uinput` device is told which have just gone down or
up.  The decoder keeps what the last report of each kind said: the button bitmap of a mouse, the
modifier byte and the six key slots of a keyboard.  The slots are in no order, may repeat a key, and
may hold usages that have no key code.  That no key gets stuck therefore rests on the usage table:
two usages must not share a code, and no usage may share one with a modifier.

Main definitions:

* `Zerowire.hidUsageToLinuxKey` — the usage table;
* `Zerowire.applyMouseReport`, `Zerowire.applyKeyboardReport`, `Zerowire.applyReport` — the decoder;
* `Zerowire.applyReports` — a run of it;
* `Zerowire.buttonDown`, `Zerowire.keyDown`, `Zerowire.motion` — what a sequence of reports says.

Main results:

* `Zerowire.applyReport_eq` — the decoder never panics;
* `Zerowire.hidUsageToLinuxKey_inj`, `Zerowire.hidUsageToLinuxKey_ne_modifier` — the usage table;
* `Zerowire.mouseEvents_edge`, `Zerowire.keyboardEvents_follows` — what one report does to a key;
* `Zerowire.applyReports_tracks` — **the virtual device tracks the physical one** over whole runs.
-/

import Mathlib.Data.List.Nodup
import Mathlib.Data.Nat.Bitwise
import Zerowire.Bytes
import Zerowire.EdgeTrigger
import Zerowire.Uinput

set_option relaxedAutoImplicit false
set_option autoImplicit false

namespace Zerowire

open Bytes UinputDevice

variable {ε : Type}

/-! ### The usage table -/

/-- The KEY_* codes of the letters, from A. -/
def letterMap : List UInt16 :=
  [30, 48, 46, 32, 18, 33, 34, 35, 23, 36, 37, 38, 50, 49, 24, 25, 16, 19, 31, 20, 22, 47, 17, 45, 21,
    44]

/-- `code_for_letter`. -/
def codeForLetter (usage : UInt8) : Option UInt16 :=
  if 0x04 ≤ usage ∧ usage ≤ 0x1D then letterMap[(usage - 0x04).toNat]? else none

/-- The single usages of the table. -/
def usageTable : List (UInt8 × UInt16) :=
  [(0x1E, 2), (0x1F, 3), (0x20, 4), (0x21, 5), (0x22, 6), (0x23, 7), (0x24, 8), (0x25, 9), (0x26, 10),
    (0x27, 11), (0x28, 28), (0x29, 1), (0x2A, 14), (0x2B, 15), (0x2C, 57), (0x2D, 12), (0x2E, 13),
    (0x2F, 26), (0x30, 27), (0x31, 43), (0x33, 39), (0x34, 40), (0x35, 41), (0x36, 51), (0x37, 52),
    (0x38, 53), (0x39, 58), (0x4F, 106), (0x50, 105), (0x51, 108), (0x52, 103)]

/-- `hid_usage_to_linux_key`. -/
def hidUsageToLinuxKey (usage : UInt8) : Option UInt16 :=
  let code : UInt16 :=
    if 0x04 ≤ usage ∧ usage ≤ 0x1D then 30 + (usage - 0x04).toUInt16 else 0
  if code ≠ 0 then some ((codeForLetter usage).getD code)
  else
    match usageTable.lookup usage with
    | some code => some code
    | none =>
        -- F1..F12
        if 0x3A ≤ usage ∧ usage ≤ 0x45 then some (59 + (usage - 0x3A).toUInt16) else none

/-! ### The decoder -/

/-- The process-wide statics `PREV`, `PREV_MOD` and `PREV_KEYS`. -/
structure ReportState where
  prev : UInt8 := 0
  prevMod : UInt8 := 0
  prevKeys : List UInt8 := List.replicate 6 0
  deriving Repr, DecidableEq

/-- The bit `i` of a byte (`b & (1 << i) != 0`). -/
def bit (b i : UInt8) : Bool := b &&& (1 <<< i) ≠ 0

/-- The five buttons, with the bit of each. -/
def mouseButtons : List (UInt8 × UInt16) :=
  [(0, btnLeft), (1, btnRight), (2, btnMiddle), (3, btnSide), (4, btnExtra)]

/-- The eight modifiers, with the bit of each. -/
def modifierBits : List (UInt8 × UInt16) :=
  [(0, 29), (1, 42), (2, 56), (3, 125), (4, 97), (5, 54), (6, 100), (7, 126)]

/-- What `apply_mouse_report` writes. -/
def mouseEvents (prev buttons : UInt8) (dx dy wheel : Int32) : List InputEvent :=
  let edges := prev ^^^ buttons
  (mouseButtons.flatMap fun p => if bit edges p.1 then mouseButton p.2 (bit buttons p.1) else []) ++
    (if dx ≠ 0 ∨ dy ≠ 0 then mouseMove dx dy else []) ++
    (if wheel ≠ 0 then mouseWheel wheel 0 else [])

/-- `if body.len() >= i + 1 { body[i] as i8 as i32 } else { 0 }`. -/
def signed (body : List UInt8) (i : ℕ) : Except (Fault ε) Int32 :=
  if body.length ≥ i + 1 then do return (← index body i).toInt8.toInt32 else .ok 0

/-- `apply_mouse_report`. -/
def applyMouseReport (st : ReportState) (body : List UInt8) :
    Except (Fault ε) (List InputEvent × ReportState) := do
  let buttons ← index body 0
  let dx ← signed body 1
  let dy ← signed body 2
  let wheel ← signed body 3
  return (mouseEvents st.prev buttons dx dy wheel, { st with prev := buttons })

/-- The press or release of the key of a usage, if it has one. -/
def slotEvent (usage : UInt8) (pressed : Bool) : List InputEvent :=
  match hidUsageToLinuxKey usage with
  | some code => key code pressed
  | none => []

/-- What `apply_keyboard_report` writes: the modifiers that differ, then the keys released, then the
keys pressed. -/
def keyboardEvents (prevMod modifier : UInt8) (prevKeys keys : List UInt8) : List InputEvent :=
  (modifierBits.flatMap fun p =>
    if bit prevMod p.1 ≠ bit modifier p.1 then key p.2 (bit modifier p.1) else []) ++
    ((prevKeys.flatMap fun k => if k ≠ 0 ∧ ¬ k ∈ keys then slotEvent k false else []) ++
      keys.flatMap fun k => if k ≠ 0 ∧ ¬ k ∈ prevKeys then slotEvent k true else [])

/-- `apply_keyboard_report`. -/
def applyKeyboardReport (st : ReportState) (body : List UInt8) :
    Except (Fault ε) (List InputEvent × ReportState) := do
  let modifier ← index body 0
  let keys := [← index body 2, ← index body 3, ← index body 4, ← index body 5, ← index body 6,
    ← index body 7]
  return (keyboardEvents st.prevMod modifier st.prevKeys keys,
    { st with prevMod := modifier, prevKeys := keys })

/-- `apply_report`: the shape of a report is told by its length. -/
def applyReport (st : ReportState) (body : List UInt8) :
    Except (Fault ε) (List InputEvent × ReportState) :=
  if body.isEmpty then .ok ([], st)
  else if body.length ≤ 5 then applyMouseReport st body
  else if body.length = 8 then applyKeyboardReport st body
  else applyMouseReport st body

/-- A run of the decoder: all events, and the statics after it. -/
def applyReports (st : ReportState) :
    List (List UInt8) → Except (Fault ε) (List InputEvent × ReportState)
  | [] => .ok ([], st)
  | body :: reports => do
      let (es, st) ← applyReport st body
      let (es', st) ← applyReports st reports
      return (es ++ es', st)

/-! ### One report -/

/-- A byte of a report, zero beyond its end. -/
def byteAt (r : List UInt8) (i : ℕ) : UInt8 := r.getD i 0

/-- The key slots of a keyboard report. -/
def slots (r : List UInt8) : List UInt8 :=
  [byteAt r 2, byteAt r 3, byteAt r 4, byteAt r 5, byteAt r 6, byteAt r 7]

/-- A byte of a report as a signed number, zero beyond its end. -/
def signedAt (r : List UInt8) (i : ℕ) : Int32 := (byteAt r i).toInt8.toInt32

/-- The decoder as a total function. -/
def reportStep (st : ReportState) (r : List UInt8) : List InputEvent × ReportState :=
  if r = [] then ([], st)
  else if r.length = 8 then
    (keyboardEvents st.prevMod (byteAt r 0) st.prevKeys (slots r),
      { st with prevMod := byteAt r 0, prevKeys := slots r })
  else
    (mouseEvents st.prev (byteAt r 0) (signedAt r 1) (signedAt r 2) (signedAt r 3),
      { st with prev := byteAt r 0 })

theorem index_eq_byteAt {r : List UInt8} {i : ℕ} (h : i < r.length) :
    (index r i : Except (Fault ε) UInt8) = .ok (byteAt r i) := by
  rw [index_eq_ok h, byteAt, List.getD_eq_getElem?_getD, List.getElem?_eq_getElem h,
    Option.getD_some]

theorem signed_eq (r : List UInt8) (i : ℕ) :
    (signed r i : Except (Fault ε) Int32) = .ok (signedAt r i) := by
  rw [signed]
  split_ifs with h
  · rw [index_eq_byteAt (by omega), ok_bind, pure_eq_ok, signedAt]
  · rw [signedAt, byteAt, List.getD_eq_getElem?_getD, List.getElem?_eq_none (by omega)]
    rfl

theorem applyMouseReport_eq (st : ReportState) {r : List UInt8} (h : r ≠ []) :
    (applyMouseReport st r : Except (Fault ε) _) =
      .ok (mouseEvents st.prev (byteAt r 0) (signedAt r 1) (signedAt r 2) (signedAt r 3),
        { st with prev := byteAt r 0 }) := by
  rw [applyMouseReport, index_eq_byteAt (List.length_pos_iff.2 h), ok_bind, signed_eq r 1, ok_bind,
    signed_eq r 2, ok_bind, signed_eq r 3, ok_bind, pure_eq_ok]

theorem applyKeyboardReport_eq (st : ReportState) {r : List UInt8} (h : r.length = 8) :
    (applyKeyboardReport st r : Except (Fault ε) _) =
      .ok (keyboardEvents st.prevMod (byteAt r 0) st.prevKeys (slots r),
        { st with prevMod := byteAt r 0, prevKeys := slots r }) := by
  have hindex (i : ℕ) (hi : i < 8) : (index r i : Except (Fault ε) UInt8) = .ok (byteAt r i) :=
    index_eq_byteAt (by rw [h]; exact hi)
  simp (disch := decide) only [applyKeyboardReport, hindex, ok_bind, pure_eq_ok, slots]

/-- **The decoder never panics.** -/
theorem applyReport_eq (st : ReportState) (r : List UInt8) :
    (applyReport st r : Except (Fault ε) _) = .ok (reportStep st r) := by
  rw [applyReport, reportStep]
  by_cases hnil : r = []
  · subst hnil
    rfl
  · rw [if_neg (by simpa using hnil), if_neg hnil, applyMouseReport_eq st hnil]
    by_cases h8 : r.length = 8
    · rw [if_neg (by omega), if_pos h8, if_pos h8, applyKeyboardReport_eq st h8]
    · rw [if_neg h8, if_neg h8, ite_self]

theorem applyReports_eq (st : ReportState) (reports : List (List UInt8)) :
    (applyReports st reports : Except (Fault ε) _) =
      .ok (EdgeTrigger.run reportStep st reports) := by
  induction reports generalizing st with
  | nil => rfl
  | cons r reports ih =>
      rw [applyReports, applyReport_eq, ok_bind]
      simp only [ih, ok_bind, pure_eq_ok, EdgeTrigger.run]

/-! ### The table -/

/-- The code of a usage determines the usage: a list without repetitions has one place for each of
its elements. -/
theorem eq_of_nodup_filterMap {α β : Type} {f : α → Option β} {l : List α}
    (h : (l.filterMap f).Nodup) {a b : α} {c : β} (ha : a ∈ l) (hb : b ∈ l) (hfa : f a = some c)
    (hfb : f b = some c) : a = b := by
  induction l with
  | nil => cases ha
  | cons x l ih =>
      have hmem {y : α} (hy : y ∈ l) (hfy : f y = some c) : c ∈ l.filterMap f :=
        List.mem_filterMap.2 ⟨y, hy, hfy⟩
      rcases hx : f x with _ | d
      · rw [List.filterMap_cons_none hx] at h
        have hne {y : α} (hfy : f y = some c) : y ≠ x := by
          rintro rfl
          rw [hx] at hfy
          cases hfy
        exact ih h (List.mem_of_ne_of_mem (hne hfa) ha) (List.mem_of_ne_of_mem (hne hfb) hb)
      · rw [List.filterMap_cons_some hx, List.nodup_cons] at h
        have hxe {y : α} (hfy : f y = some c) (hyx : y = x) : c = d := by
          rw [hyx, hx] at hfy
          exact (Option.some.inj hfy).symm
        rcases List.mem_cons.1 ha with hax | ha
        · rcases List.mem_cons.1 hb with hbx | hb
          · rw [hax, hbx]
          · exact absurd (hxe hfa hax ▸ hmem hb hfb) h.1
        · rcases List.mem_cons.1 hb with hbx | hb
          · exact absurd (hxe hfb hbx ▸ hmem ha hfa) h.1
          · exact ih h.2 ha hb

/-- All usages. -/
def allUsages : List UInt8 := (List.range 256).map UInt8.ofNat

theorem mem_allUsages (u : UInt8) : u ∈ allUsages :=
  List.mem_map.2 ⟨u.toNat, List.mem_range.2 u.toNat_lt, UInt8.ofNat_toNat⟩

theorem nodup_codes : (allUsages.filterMap hidUsageToLinuxKey).Nodup := by decide +kernel

/-- **Two usages never share a code.** -/
theorem hidUsageToLinuxKey_inj {u u' : UInt8} {code : UInt16} (h : hidUsageToLinuxKey u = some code)
    (h' : hidUsageToLinuxKey u' = some code) : u = u' :=
  eq_of_nodup_filterMap nodup_codes (mem_allUsages u) (mem_allUsages u') h h'

theorem codes_disjoint :
    (allUsages.filterMap hidUsageToLinuxKey).all fun code =>
      (modifierBits ++ mouseButtons).all fun p => p.2 ≠ code := by
  decide +kernel

/-- **A usage never shares a code with a modifier**, nor with a button. -/
theorem hidUsageToLinuxKey_ne_modifier {u : UInt8} {code : UInt16} {p : UInt8 × UInt16}
    (h : hidUsageToLinuxKey u = some code) (hp : p ∈ modifierBits ++ mouseButtons) :
    p.2 ≠ code := by
  have hcode := List.all_eq_true.1 codes_disjoint code
    (List.mem_filterMap.2 ⟨u, mem_allUsages u, h⟩)
  exact of_decide_eq_true (List.all_eq_true.1 hcode p hp)

/-! ### What the events of a report say about a key -/

theorem keyValue_sync (code : UInt16) : ∀ e ∈ sync, keyValue code e = none := by
  simp [sync, keyValue, evSyn, evKey]

theorem keyValue_rel (code axis : UInt16) (v : Int32) :
    ∀ e ∈ rel axis v, keyValue code e = none := by
  intro e he
  rw [(mem_rel.1 he).2]
  simp [keyValue, evRel, evKey]

theorem values_key (code code' : UInt16) (pressed : Bool) :
    EdgeTrigger.values (keyValue code) (key code' pressed) =
      if code' = code then [keyState pressed] else [] := by
  rw [key, EdgeTrigger.values_append, EdgeTrigger.values_eq_nil (keyValue_sync code),
    List.append_nil, EdgeTrigger.values]
  split_ifs with h <;> simp [keyValue, h]

theorem keyState_inj {p q : Bool} : keyState p = keyState q ↔ p = q := by
  cases p <;> cases q <;> decide

theorem values_flatMap {α : Type} (code : UInt16) (l : List α) (f : α → List InputEvent) :
    EdgeTrigger.values (keyValue code) (l.flatMap f) =
      l.flatMap fun a => EdgeTrigger.values (keyValue code) (f a) :=
  List.filterMap_flatMap

/-- A list in which only one element contributes. -/
theorem flatMap_eq_of_unique {α β : Type} {l : List α} {g : α → List β} {a : α} (hl : l.Nodup)
    (ha : a ∈ l) (h : ∀ b ∈ l, b ≠ a → g b = []) : l.flatMap g = g a := by
  induction l with
  | nil => cases ha
  | cons x l ih =>
      rw [List.nodup_cons] at hl
      rw [List.flatMap_cons]
      by_cases hx : x = a
      · subst hx
        have hrest : l.flatMap g = [] := by
          rw [List.flatMap_eq_nil_iff]
          intro b hb
          exact h b (by simp [hb]) fun hbx => hl.1 (hbx ▸ hb)
        rw [hrest, List.append_nil]
      · rw [h x (by simp) hx, List.nil_append]
        exact ih hl.2 (List.mem_of_ne_of_mem (Ne.symm hx) ha) fun b hb => h b (by simp [hb])

/-- The events of a table of bits, in which the codes differ: one event for a code whose bit has
changed. -/
theorem bits_edge (was now : UInt8 → Bool) {table : List (UInt8 × UInt16)}
    (hnodup : (table.map Prod.snd).Nodup) {i : UInt8} {code : UInt16} (hmem : (i, code) ∈ table) :
    EdgeTrigger.Edge (keyValue code)
      (table.flatMap fun p => if was p.1 ≠ now p.1 then key p.2 (now p.1) else [])
      (keyState (was i)) (keyState (now i)) := by
  have hother : ∀ p ∈ table, p ≠ (i, code) → EdgeTrigger.values (keyValue code)
      (if was p.1 ≠ now p.1 then key p.2 (now p.1) else []) = [] := by
    intro p hp hne
    have hcode : p.2 ≠ code := fun h => hne (List.inj_on_of_nodup_map hnodup hp hmem h)
    split_ifs
    · rw [values_key, if_neg hcode]
    · rfl
  rw [EdgeTrigger.Edge, values_flatMap, flatMap_eq_of_unique (List.Nodup.of_map _ hnodup) hmem hother]
  simp only [ne_eq, keyState_inj]
  split_ifs with h
  · rfl
  · rw [values_key, if_pos rfl]

/-- The events of a table of bits say nothing about a code that is not in it. -/
theorem bits_silent (was now : UInt8 → Bool) {table : List (UInt8 × UInt16)} {code : UInt16}
    (h : ∀ p ∈ table, p.2 ≠ code) :
    EdgeTrigger.values (keyValue code)
      (table.flatMap fun p => if was p.1 ≠ now p.1 then key p.2 (now p.1) else []) = [] := by
  rw [values_flatMap, List.flatMap_eq_nil_iff]
  intro p hp
  split_ifs
  · rw [values_key, if_neg (h p hp)]
  · rfl

theorem bit_eq_testBit (c : UInt8) {i : UInt8} (hi : i < 8) :
    bit c i = c.toNat.testBit i.toNat := by
  have hi' : i.toNat < 8 := UInt8.lt_iff_toNat_lt.1 hi
  have hmask : (1 <<< i : UInt8).toNat = 2 ^ i.toNat := by
    rw [UInt8.toNat_shiftLeft, Nat.mod_eq_of_lt (show i.toNat < 8 from hi'), UInt8.toNat_one,
      Nat.shiftLeft_eq, Nat.one_mul, Nat.mod_eq_of_lt (Nat.pow_lt_pow_right (by decide) hi')]
  rw [bit, Bool.eq_iff_iff, decide_eq_true_iff, ← UInt8.toNat_inj.ne, UInt8.toNat_and, hmask,
    Nat.and_two_pow]
  cases c.toNat.testBit i.toNat <;> simp

/-- A bit of the difference of two bytes. -/
theorem bit_xor (a b : UInt8) {i : UInt8} (hi : i < 8) :
    bit (a ^^^ b) i = (bit a i != bit b i) := by
  rw [bit_eq_testBit _ hi, bit_eq_testBit _ hi, bit_eq_testBit _ hi, UInt8.toNat_xor,
    Nat.testBit_xor]

theorem mouseEvents_eq (prev buttons : UInt8) (dx dy wheel : Int32) :
    mouseEvents prev buttons dx dy wheel =
      (mouseButtons.flatMap fun p =>
        if bit prev p.1 ≠ bit buttons p.1 then key p.2 (bit buttons p.1) else []) ++
      ((if dx ≠ 0 ∨ dy ≠ 0 then mouseMove dx dy else []) ++
      (if wheel ≠ 0 then mouseWheel wheel 0 else [])) := by
  rw [mouseEvents, List.append_assoc]
  congr 1
  apply List.flatMap_congr
  intro p hp
  have hi : p.1 < 8 := of_decide_eq_true (List.all_eq_true.1
    (show mouseButtons.all (fun p => p.1 < 8) = true by decide) p hp)
  rw [bit_xor _ _ hi]
  simp only [bne_iff_ne]
  rfl

/-- The motions of a mouse report say nothing about a key. -/
theorem motions_silent (code : UInt16) (dx dy wheel : Int32) :
    EdgeTrigger.values (keyValue code) ((if dx ≠ 0 ∨ dy ≠ 0 then mouseMove dx dy else []) ++
      (if wheel ≠ 0 then mouseWheel wheel 0 else [])) = [] := by
  have hmotion (axis axis' : UInt16) (v v' : Int32) :
      EdgeTrigger.values (keyValue code) (rel axis v ++ rel axis' v' ++ sync) = [] := by
    rw [EdgeTrigger.values_append, EdgeTrigger.values_append,
      EdgeTrigger.values_eq_nil (keyValue_rel code axis v),
      EdgeTrigger.values_eq_nil (keyValue_rel code axis' v'),
      EdgeTrigger.values_eq_nil (keyValue_sync code)]
    rfl
  rw [EdgeTrigger.values_append]
  split_ifs
  · rw [mouseMove, mouseWheel, hmotion, hmotion]; rfl
  · rw [mouseMove, hmotion]; rfl
  · rw [mouseWheel, hmotion]; rfl
  · rfl

/-- **A mouse report tells each change of a button once.** -/
theorem mouseEvents_edge (prev buttons : UInt8) (dx dy wheel : Int32) {i : UInt8} {code : UInt16}
    (h : (i, code) ∈ mouseButtons) :
    EdgeTrigger.Edge (keyValue code) (mouseEvents prev buttons dx dy wheel)
      (keyState (bit prev i)) (keyState (bit buttons i)) := by
  rw [EdgeTrigger.Edge, mouseEvents_eq, EdgeTrigger.values_append, motions_silent, List.append_nil]
  exact bits_edge (bit prev) (bit buttons) (by decide) h

/-- A mouse report says nothing about a key that is not one of the buttons. -/
theorem mouseEvents_silent (prev buttons : UInt8) (dx dy wheel : Int32) {code : UInt16}
    (h : ∀ p ∈ mouseButtons, p.2 ≠ code) :
    EdgeTrigger.values (keyValue code) (mouseEvents prev buttons dx dy wheel) = [] := by
  rw [mouseEvents_eq, EdgeTrigger.values_append, motions_silent, List.append_nil]
  exact bits_silent (bit prev) (bit buttons) h

/-! ### Keyboards -/

/-- A key slot holds the key with the given code. -/
def slotHeld (keys : List UInt8) (code : UInt16) : Bool :=
  keys.any fun k => k ≠ 0 ∧ hidUsageToLinuxKey k = some code

/-- A modifier bit stands for the key with the given code. -/
def modifierHeld (modifier : UInt8) (code : UInt16) : Bool :=
  modifierBits.any fun p => p.2 = code ∧ bit modifier p.1

theorem slotHeld_iff {keys : List UInt8} {code : UInt16} :
    slotHeld keys code = true ↔ ∃ k ∈ keys, k ≠ 0 ∧ hidUsageToLinuxKey k = some code := by
  simp [slotHeld]

theorem values_slotEvent (code : UInt16) (k : UInt8) (pressed : Bool) :
    EdgeTrigger.values (keyValue code) (slotEvent k pressed) =
      if hidUsageToLinuxKey k = some code then [keyState pressed] else [] := by
  rw [slotEvent]
  rcases hidUsageToLinuxKey k with _ | code'
  · rfl
  · simp only [values_key, Option.some.injEq]

/-- The values that the slots of one report tell against those of another. -/
theorem mem_values_slots {code : UInt16} {keys others : List UInt8} {pressed : Bool} {v : Int32} :
    v ∈ EdgeTrigger.values (keyValue code)
      (keys.flatMap fun k => if k ≠ 0 ∧ ¬ k ∈ others then slotEvent k pressed else []) ↔
    (∃ k ∈ keys, k ≠ 0 ∧ k ∉ others ∧ hidUsageToLinuxKey k = some code) ∧ v = keyState pressed := by
  rw [values_flatMap, List.mem_flatMap]
  constructor
  · rintro ⟨k, hk, hv⟩
    split_ifs at hv with hcond
    · rw [values_slotEvent] at hv
      split_ifs at hv with hcode
      · exact ⟨⟨k, hk, hcond.1, hcond.2, hcode⟩, List.mem_singleton.1 hv⟩
      · cases hv
    · cases hv
  · rintro ⟨⟨k, hk, hne, hnot, hcode⟩, rfl⟩
    refine ⟨k, hk, ?_⟩
    rw [if_pos ⟨hne, hnot⟩, values_slotEvent, if_pos hcode]
    exact List.mem_singleton.2 rfl

/-- **The slots of a keyboard tell the change of every key**, in whatever order they hold it and
however often: the table gives no code to two usages, so a key is released when its usage has left
the slots and pressed when it has entered them. -/
theorem slots_follows (prevKeys keys : List UInt8) (code : UInt16) :
    EdgeTrigger.Follows (keyValue code)
      ((prevKeys.flatMap fun k => if k ≠ 0 ∧ ¬ k ∈ keys then slotEvent k false else []) ++
        keys.flatMap fun k => if k ≠ 0 ∧ ¬ k ∈ prevKeys then slotEvent k true else [])
      (keyState (slotHeld prevKeys code)) (keyState (slotHeld keys code)) where
  eq_now v hv := by
    rw [EdgeTrigger.values_append, List.mem_append, mem_values_slots, mem_values_slots] at hv
    rcases hv with ⟨⟨k, -, hne, hnot, hcode⟩, rfl⟩ | ⟨⟨k, hk, hne, -, hcode⟩, rfl⟩
    · have hup : slotHeld keys code = false := by
        rw [← Bool.not_eq_true, slotHeld_iff]
        rintro ⟨k', hk', -, hcode'⟩
        exact hnot (hidUsageToLinuxKey_inj hcode hcode' ▸ hk')
      rw [hup]
    · rw [slotHeld_iff.2 ⟨k, hk, hne, hcode⟩]
  eq_was hnil := by
    rw [EdgeTrigger.values_append, List.append_eq_nil_iff] at hnil
    have hno (v : Int32) {l : List Int32} (hl : l = []) : v ∉ l := by simp [hl]
    have hrelease := hno (keyState false) hnil.1
    have hpress := hno (keyState true) hnil.2
    rw [mem_values_slots] at hrelease hpress
    rw [keyState_inj, Bool.eq_iff_iff, slotHeld_iff, slotHeld_iff]
    constructor
    · rintro ⟨k, hk, hne, hcode⟩
      by_contra hup
      exact hrelease ⟨⟨k, hk, hne, fun hk' => hup ⟨k, hk', hne, hcode⟩, hcode⟩, rfl⟩
    · rintro ⟨k, hk, hne, hcode⟩
      by_contra hup
      exact hpress ⟨⟨k, hk, hne, fun hk' => hup ⟨k, hk', hne, hcode⟩, hcode⟩, rfl⟩

/-- The slots say nothing about a code that is not in the table. -/
theorem slots_silent {code : UInt16} (h : ∀ k, hidUsageToLinuxKey k ≠ some code)
    {prevKeys keys : List UInt8} :
    EdgeTrigger.values (keyValue code)
      ((prevKeys.flatMap fun k => if k ≠ 0 ∧ ¬ k ∈ keys then slotEvent k false else []) ++
        keys.flatMap fun k => if k ≠ 0 ∧ ¬ k ∈ prevKeys then slotEvent k true else []) = [] := by
  have hnil (ks others : List UInt8) (pressed : Bool) : EdgeTrigger.values (keyValue code)
      (ks.flatMap fun k => if k ≠ 0 ∧ ¬ k ∈ others then slotEvent k pressed else []) = [] := by
    rw [List.eq_nil_iff_forall_not_mem]
    intro v hv
    obtain ⟨⟨k, -, -, -, hk⟩, -⟩ := mem_values_slots.1 hv
    exact h k hk
  rw [EdgeTrigger.values_append, hnil, hnil, List.append_nil]

/-- The slots say nothing about a key that stays as it is. -/
theorem slots_quiet {prevKeys keys : List UInt8} {code : UInt16}
    (h : slotHeld prevKeys code = slotHeld keys code) :
    EdgeTrigger.values (keyValue code)
      ((prevKeys.flatMap fun k => if k ≠ 0 ∧ ¬ k ∈ keys then slotEvent k false else []) ++
        keys.flatMap fun k => if k ≠ 0 ∧ ¬ k ∈ prevKeys then slotEvent k true else []) = [] := by
  rw [Bool.eq_iff_iff, slotHeld_iff, slotHeld_iff] at h
  rw [List.eq_nil_iff_forall_not_mem]
  intro v hv
  rw [EdgeTrigger.values_append, List.mem_append, mem_values_slots, mem_values_slots] at hv
  rcases hv with ⟨⟨k, hk, hne, hnot, hcode⟩, -⟩ | ⟨⟨k, hk, hne, hnot, hcode⟩, -⟩
  · obtain ⟨k', hk', -, hcode'⟩ := h.1 ⟨k, hk, hne, hcode⟩
    exact hnot (hidUsageToLinuxKey_inj hcode hcode' ▸ hk')
  · obtain ⟨k', hk', -, hcode'⟩ := h.2 ⟨k, hk, hne, hcode⟩
    exact hnot (hidUsageToLinuxKey_inj hcode hcode' ▸ hk')

theorem modifierBits_nodup : (modifierBits.map Prod.snd).Nodup := by decide

/-- No button is a modifier. -/
theorem mouseButtons_ne_modifier {p q : UInt8 × UInt16} (hp : p ∈ mouseButtons)
    (hq : q ∈ modifierBits) : q.2 ≠ p.2 := by
  have h : mouseButtons.all (fun p => modifierBits.all fun q => q.2 ≠ p.2) = true := by decide
  exact of_decide_eq_true (List.all_eq_true.1 (List.all_eq_true.1 h p hp) q hq)

/-- At the start nothing is held. -/
theorem bit_zero (i : UInt8) : bit 0 i = false :=
  decide_eq_false (not_not.2 UInt8.zero_and)

/-- A modifier is held by its bit and by no slot. -/
theorem modifier_held {i : UInt8} {code : UInt16} (hp : (i, code) ∈ modifierBits) :
    (∀ k, hidUsageToLinuxKey k ≠ some code) ∧ (∀ m, modifierHeld m code = bit m i) ∧
      ∀ ks, slotHeld ks code = false := by
  have hcode (k : UInt8) : hidUsageToLinuxKey k ≠ some code := fun h =>
    hidUsageToLinuxKey_ne_modifier h (List.mem_append_left _ hp) rfl
  refine ⟨hcode, fun m => ?_, fun ks => ?_⟩
  · rw [Bool.eq_iff_iff, modifierHeld, List.any_eq_true]
    constructor
    · rintro ⟨p, hp', h⟩
      obtain ⟨hpc, hbit⟩ := of_decide_eq_true h
      obtain rfl : p = (i, code) := List.inj_on_of_nodup_map modifierBits_nodup hp' hp hpc
      exact hbit
    · intro hbit
      exact ⟨(i, code), hp, decide_eq_true ⟨rfl, hbit⟩⟩
  · rw [← Bool.not_eq_true, slotHeld_iff]
    rintro ⟨k, -, -, h⟩
    exact hcode k h

/-- A key that is no modifier is not held by the modifier byte. -/
theorem not_modifier_held {code : UInt16} (h : ∀ p ∈ modifierBits, p.2 ≠ code) (m : UInt8) :
    modifierHeld m code = false := by
  rw [← Bool.not_eq_true, modifierHeld, List.any_eq_true]
  rintro ⟨p, hp, hheld⟩
  exact h p hp (of_decide_eq_true hheld).1

/-- **A keyboard report tells the change of every key.** -/
theorem keyboardEvents_follows (prevMod modifier : UInt8) (prevKeys keys : List UInt8)
    (code : UInt16) :
    EdgeTrigger.Follows (keyValue code) (keyboardEvents prevMod modifier prevKeys keys)
      (keyState (modifierHeld prevMod code || slotHeld prevKeys code))
      (keyState (modifierHeld modifier code || slotHeld keys code)) := by
  by_cases hmod : ∃ p ∈ modifierBits, p.2 = code
  · -- a modifier: the slots cannot hold it
    obtain ⟨⟨i, c⟩, hp, hc⟩ := hmod
    obtain rfl : c = code := hc
    obtain ⟨hcode, hheld, hslot⟩ := modifier_held hp
    rw [hslot, hslot, Bool.or_false, Bool.or_false, hheld, hheld]
    apply EdgeTrigger.Follows.congr _ (bits_edge (bit prevMod) (bit modifier) modifierBits_nodup hp).follows
    rw [keyboardEvents, EdgeTrigger.values_append, slots_silent hcode, List.append_nil]
  · -- no modifier: the modifier byte says nothing
    have hnot : ∀ p ∈ modifierBits, p.2 ≠ code := fun p hp h => hmod ⟨p, hp, h⟩
    rw [not_modifier_held hnot, not_modifier_held hnot, Bool.false_or, Bool.false_or]
    apply EdgeTrigger.Follows.congr _ (slots_follows prevKeys keys code)
    rw [keyboardEvents, EdgeTrigger.values_append,
      bits_silent (bit prevMod) (bit modifier) hnot, List.nil_append]

/-- A keyboard report says nothing about a key that stays as it is. -/
theorem keyboardEvents_quiet {prevMod modifier : UInt8} {prevKeys keys : List UInt8} {code : UInt16}
    (h : (modifierHeld prevMod code || slotHeld prevKeys code) =
      (modifierHeld modifier code || slotHeld keys code)) :
    EdgeTrigger.values (keyValue code) (keyboardEvents prevMod modifier prevKeys keys) = [] := by
  by_cases hmod : ∃ p ∈ modifierBits, p.2 = code
  · obtain ⟨⟨i, c⟩, hp, hc⟩ := hmod
    obtain rfl : c = code := hc
    obtain ⟨hcode, hheld, hslot⟩ := modifier_held hp
    rw [hslot, hslot, Bool.or_false, Bool.or_false, hheld, hheld] at h
    have hedge := bits_edge (bit prevMod) (bit modifier) modifierBits_nodup hp
    rw [EdgeTrigger.Edge, if_pos (by rw [h])] at hedge
    rw [keyboardEvents, EdgeTrigger.values_append, slots_silent hcode, List.append_nil, hedge]
  · have hnot : ∀ p ∈ modifierBits, p.2 ≠ code := fun p hp h => hmod ⟨p, hp, h⟩
    rw [not_modifier_held hnot, not_modifier_held hnot, Bool.false_or, Bool.false_or] at h
    rw [keyboardEvents, EdgeTrigger.values_append,
      bits_silent (bit prevMod) (bit modifier) hnot, List.nil_append, slots_quiet h]

/-- A keyboard report says nothing about a button. -/
theorem keyboardEvents_silent (prevMod modifier : UInt8) (prevKeys keys : List UInt8)
    {p : UInt8 × UInt16} (hp : p ∈ mouseButtons) :
    EdgeTrigger.values (keyValue p.2) (keyboardEvents prevMod modifier prevKeys keys) = [] := by
  have hmod : ∀ q ∈ modifierBits, q.2 ≠ p.2 := fun q hq => mouseButtons_ne_modifier hp hq
  have hslot (k : UInt8) : hidUsageToLinuxKey k ≠ some p.2 := fun h =>
    hidUsageToLinuxKey_ne_modifier h (List.mem_append_right _ hp) rfl
  rw [keyboardEvents, EdgeTrigger.values_append, slots_silent hslot,
    bits_silent (bit prevMod) (bit modifier) hmod, List.append_nil]

/-! ### Motions and groups -/

theorem grouped_keyboardEvents (prevMod modifier : UInt8) (prevKeys keys : List UInt8) :
    Grouped (keyboardEvents prevMod modifier prevKeys keys) := by
  have hslot (k : UInt8) (pressed : Bool) : Grouped (slotEvent k pressed) := by
    rw [slotEvent]
    split
    · exact grouped_key _ _
    · exact .nil
  refine .append (.flatMap fun p _ => ?_) (.append (.flatMap fun k _ => ?_) (.flatMap fun k _ => ?_))
  · split_ifs
    · exact grouped_key _ _
    · exact .nil
  · split_ifs
    · exact hslot _ _
    · exact .nil
  · split_ifs
    · exact hslot _ _
    · exact .nil

theorem grouped_mouseEvents (prev buttons : UInt8) (dx dy wheel : Int32) :
    Grouped (mouseEvents prev buttons dx dy wheel) := by
  refine .append (.append (.flatMap fun p _ => ?_) ?_) ?_
  · split_ifs
    · exact grouped_mouseButton _ _
    · exact .nil
  · split_ifs with h
    · exact grouped_mouseMove h
    · exact .nil
  · split_ifs with h
    · exact grouped_mouseWheel (Or.inl h)
    · exact .nil

/-- Keys do not move anything. -/
theorem relSum_key (code code' : UInt16) (pressed : Bool) : relSum (key code' pressed) code = 0 :=
  relSum_eq_zero (by simp [key, sync, evKey, evSyn, evRel])

theorem relSum_flatMap {α : Type} {l : List α} {f : α → List InputEvent} {code : UInt16}
    (h : ∀ a ∈ l, relSum (f a) code = 0) : relSum (l.flatMap f) code = 0 := by
  induction l with
  | nil => rfl
  | cons a l ih =>
      rw [List.flatMap_cons, relSum_append, h a (by simp), ih fun b hb => h b (by simp [hb])]
      rfl

theorem relSum_keyboardEvents (prevMod modifier : UInt8) (prevKeys keys : List UInt8)
    (code : UInt16) : relSum (keyboardEvents prevMod modifier prevKeys keys) code = 0 := by
  have hslot (k : UInt8) (pressed : Bool) : relSum (slotEvent k pressed) code = 0 := by
    rw [slotEvent]
    split
    · exact relSum_key _ _ _
    · rfl
  rw [keyboardEvents, relSum_append, relSum_append, relSum_flatMap, relSum_flatMap, relSum_flatMap]
  · rfl
  · intro k _
    split_ifs
    · exact hslot _ _
    · rfl
  · intro k _
    split_ifs
    · exact hslot _ _
    · rfl
  · intro p _
    split_ifs
    · exact relSum_key _ _ _
    · rfl

/-- **A mouse report moves by what it says.** -/
theorem relSum_mouseEvents (prev buttons : UInt8) (dx dy wheel : Int32) (code : UInt16) :
    relSum (mouseEvents prev buttons dx dy wheel) code =
      ((if relX = code then dx.toInt else 0) + if relY = code then dy.toInt else 0) +
        if relWheel = code then wheel.toInt else 0 := by
  have hbuttons : relSum (mouseButtons.flatMap fun p =>
      if bit (prev ^^^ buttons) p.1 then mouseButton p.2 (bit buttons p.1) else []) code = 0 := by
    apply relSum_flatMap
    intro p _
    split_ifs
    · exact relSum_key _ _ _
    · rfl
  have hmove : relSum (if dx ≠ 0 ∨ dy ≠ 0 then mouseMove dx dy else []) code =
      (if relX = code then dx.toInt else 0) + if relY = code then dy.toInt else 0 := by
    by_cases h : dx ≠ 0 ∨ dy ≠ 0
    · rw [if_pos h, mouseMove, relSum_motion]
    · rw [if_neg h]
      rw [not_or, not_not, not_not] at h
      simp [h.1, h.2, relSum]
  have hwheel : relSum (if wheel ≠ 0 then mouseWheel wheel 0 else []) code =
      if relWheel = code then wheel.toInt else 0 := by
    by_cases h : wheel ≠ 0
    · rw [if_pos h, mouseWheel, relSum_motion]
      simp
    · rw [if_neg h]
      rw [not_not] at h
      simp [h, relSum]
  rw [mouseEvents, relSum_append, relSum_append, hbuttons, hmove, hwheel, Int.zero_add]

/-! ### Runs -/

/-- The last non-empty report that is not a keyboard's. -/
def lastMouse (reports : List (List UInt8)) : Option (List UInt8) :=
  (reports.filter fun r => r ≠ [] ∧ r.length ≠ 8).getLast?

/-- The last report that is a keyboard's. -/
def lastKeyboard (reports : List (List UInt8)) : Option (List UInt8) :=
  (reports.filter fun r => r.length = 8).getLast?

/-- The button of bit `i` is down: the last mouse report says so. -/
def buttonDown (reports : List (List UInt8)) (i : UInt8) : Bool :=
  match lastMouse reports with
  | some r => bit (byteAt r 0) i
  | none => false

/-- The key with the given code is down: in the last keyboard report the modifier bit mapped to the
code is set, or a key slot holds a usage mapped to it. -/
def keyDown (reports : List (List UInt8)) (code : UInt16) : Bool :=
  match lastKeyboard reports with
  | some r => modifierHeld (byteAt r 0) code || slotHeld (slots r) code
  | none => false

/-- The sum of the bytes `i`, sign-extended, of the reports that are not a keyboard's and have such
a byte. -/
def motion (reports : List (List UInt8)) (i : ℕ) : Int :=
  ((reports.filter fun r => r.length ≠ 8).map fun r =>
    match r[i]? with
    | some b => b.toInt8.toInt
    | none => 0).sum

/-- The statics after the reports. -/
def stateOf (reports : List (List UInt8)) : ReportState where
  prev := match lastMouse reports with
    | some r => byteAt r 0
    | none => 0
  prevMod := match lastKeyboard reports with
    | some r => byteAt r 0
    | none => 0
  prevKeys := match lastKeyboard reports with
    | some r => slots r
    | none => List.replicate 6 0

theorem lastMouse_concat (reports : List (List UInt8)) (r : List UInt8) :
    lastMouse (reports ++ [r]) = if r ≠ [] ∧ r.length ≠ 8 then some r else lastMouse reports := by
  rw [lastMouse, List.filter_append, List.filter_singleton]
  by_cases h : r ≠ [] ∧ r.length ≠ 8
  · rw [if_pos h, decide_eq_true h, cond_true, List.getLast?_concat]
  · rw [if_neg h, decide_eq_false h, cond_false, List.append_nil]
    rfl

theorem lastKeyboard_concat (reports : List (List UInt8)) (r : List UInt8) :
    lastKeyboard (reports ++ [r]) = if r.length = 8 then some r else lastKeyboard reports := by
  rw [lastKeyboard, List.filter_append, List.filter_singleton]
  by_cases h : r.length = 8
  · rw [if_pos h, decide_eq_true h, cond_true, List.getLast?_concat]
  · rw [if_neg h, decide_eq_false h, cond_false, List.append_nil]
    rfl

theorem motion_concat (reports : List (List UInt8)) (r : List UInt8) (i : ℕ) :
    motion (reports ++ [r]) i =
      motion reports i + if r.length ≠ 8 then (signedAt r i).toInt else 0 := by
  have hsigned : (match r[i]? with
      | some b => b.toInt8.toInt
      | none => 0) = (signedAt r i).toInt := by
    rw [signedAt, byteAt, List.getD_eq_getElem?_getD, Int8.toInt_toInt32]
    cases r[i]? with
    | some b => rfl
    | none => rfl
  rw [motion, List.filter_append, List.map_append, List.sum_append, List.filter_singleton]
  by_cases h : r.length ≠ 8
  · rw [if_pos h, decide_eq_true h, cond_true, ← hsigned, List.map_singleton, List.sum_singleton]
    rfl
  · rw [if_neg h, decide_eq_false h, cond_false]
    rfl

/-- After any run the statics are those of the last report of each kind. -/
theorem run_state (reports : List (List UInt8)) :
    (EdgeTrigger.run reportStep {} reports).2 = stateOf reports := by
  induction reports using List.reverseRecOn with
  | nil => rfl
  | append_singleton reports r ih =>
      rw [EdgeTrigger.run_concat]
      simp only [ih, reportStep, stateOf, lastMouse_concat, lastKeyboard_concat]
      by_cases hnil : r = []
      · subst hnil
        rfl
      · by_cases h8 : r.length = 8
        · simp only [hnil, h8, if_false, if_true, ne_eq, not_true_eq_false, and_false]
        · simp only [hnil, h8, if_false, if_true, ne_eq, not_false_eq_true, and_self]

/-- One report tells each change of a button once. -/
theorem reportStep_edge {p : UInt8 × UInt16} (hp : p ∈ mouseButtons) (st : ReportState)
    (r : List UInt8) :
    EdgeTrigger.Edge (keyValue p.2) (reportStep st r).1 (keyState (bit st.prev p.1))
      (keyState (bit (reportStep st r).2.prev p.1)) := by
  rw [reportStep]
  split_ifs
  · rw [EdgeTrigger.Edge, if_pos rfl]
    rfl
  · rw [EdgeTrigger.Edge, if_pos rfl, keyboardEvents_silent _ _ _ _ hp]
  · exact mouseEvents_edge _ _ _ _ _ hp

/-- One report tells the change of every other key. -/
theorem reportStep_follows {code : UInt16} (hcode : ∀ p ∈ mouseButtons, p.2 ≠ code)
    (st : ReportState) (r : List UInt8) :
    EdgeTrigger.Follows (keyValue code) (reportStep st r).1
      (keyState (modifierHeld st.prevMod code || slotHeld st.prevKeys code))
      (keyState (modifierHeld (reportStep st r).2.prevMod code ||
        slotHeld (reportStep st r).2.prevKeys code)) := by
  rw [reportStep]
  split_ifs
  · exact .nil
  · exact keyboardEvents_follows _ _ _ _ _
  · exact .congr (mouseEvents_silent _ _ _ _ _ hcode) .nil

/-- One report moves each axis by what it says. -/
theorem relSum_reportStep (st : ReportState) (r : List UInt8) (code : UInt16) :
    relSum (reportStep st r).1 code =
      if r.length ≠ 8 then
        ((if relX = code then (signedAt r 1).toInt else 0) +
          if relY = code then (signedAt r 2).toInt else 0) +
          if relWheel = code then (signedAt r 3).toInt else 0
      else 0 := by
  rw [reportStep]
  by_cases hnil : r = []
  · subst hnil
    simp [relSum, signedAt, byteAt]
  · rw [if_neg hnil]
    by_cases h8 : r.length = 8
    · rw [if_pos h8, if_neg (not_not.2 h8), relSum_keyboardEvents]
    · rw [if_neg h8, if_pos h8, relSum_mouseEvents]

theorem grouped_reportStep (st : ReportState) (r : List UInt8) : Grouped (reportStep st r).1 := by
  rw [reportStep]
  split_ifs
  · exact .nil
  · exact grouped_keyboardEvents _ _ _ _
  · exact grouped_mouseEvents _ _ _ _ _

theorem grouped_run (reports : List (List UInt8)) :
    Grouped (EdgeTrigger.run reportStep {} reports).1 := by
  induction reports using List.reverseRecOn with
  | nil => exact .nil
  | append_singleton reports r ih =>
      rw [EdgeTrigger.run_concat]
      exact ih.append (grouped_reportStep _ r)

theorem relSum_run (reports : List (List UInt8)) :
    relSum (EdgeTrigger.run reportStep {} reports).1 relX = motion reports 1 ∧
    relSum (EdgeTrigger.run reportStep {} reports).1 relY = motion reports 2 ∧
    relSum (EdgeTrigger.run reportStep {} reports).1 relWheel = motion reports 3 := by
  induction reports using List.reverseRecOn with
  | nil => exact ⟨rfl, rfl, rfl⟩
  | append_singleton reports r ih =>
      obtain ⟨hx, hy, hw⟩ := ih
      simp only [EdgeTrigger.run_concat, relSum_append, relSum_reportStep, motion_concat, hx, hy, hw]
      simp [relX, relY, relWheel]

/-- The statics say of a button what the last mouse report says. -/
theorem bit_stateOf (reports : List (List UInt8)) (i : UInt8) :
    bit (stateOf reports).prev i = buttonDown reports i := by
  rw [stateOf, buttonDown]
  rcases lastMouse reports with _ | r
  · exact bit_zero i
  · rfl

/-- At the start no key is held. -/
theorem held_start (code : UInt16) :
    (modifierHeld 0 code || slotHeld (List.replicate 6 0) code) = false := by
  have hmod : modifierHeld 0 code = false := by
    rw [← Bool.not_eq_true, modifierHeld, List.any_eq_true]
    rintro ⟨p, hp, h⟩
    rw [bit_zero] at h
    simp at h
  have hslot : slotHeld (List.replicate 6 0) code = false := by
    rw [← Bool.not_eq_true, slotHeld_iff]
    rintro ⟨k, hk, hne, -⟩
    exact hne (List.eq_of_mem_replicate hk)
  exact (congrArg₂ _ hmod hslot).trans rfl

/-- The statics say of a key what the last keyboard report says. -/
theorem held_stateOf (reports : List (List UInt8)) (code : UInt16) :
    (modifierHeld (stateOf reports).prevMod code || slotHeld (stateOf reports).prevKeys code) =
      keyDown reports code := by
  rw [stateOf, keyDown]
  rcases lastKeyboard reports with _ | r
  · exact held_start code
  · rfl

/-- A button was last reported as the last mouse report gives it. -/
theorem level_button (reports : List (List UInt8)) {p : UInt8 × UInt16} (hp : p ∈ mouseButtons) :
    EdgeTrigger.level (keyValue p.2) 0 (EdgeTrigger.run reportStep {} reports).1 =
      keyState (buttonDown reports p.1) := by
  have hrest : keyState (bit ({} : ReportState).prev p.1) = 0 := by
    rw [show ({} : ReportState).prev = 0 from rfl, bit_zero]
    rfl
  rw [EdgeTrigger.level_run (fun st r => (reportStep_edge hp st r).follows) hrest reports, run_state,
    bit_stateOf]

/-- Every other key was last reported as the last keyboard report gives it. -/
theorem level_key (reports : List (List UInt8)) {code : UInt16}
    (hcode : ∀ p ∈ mouseButtons, p.2 ≠ code) :
    EdgeTrigger.level (keyValue code) 0 (EdgeTrigger.run reportStep {} reports).1 =
      keyState (keyDown reports code) := by
  have hrest : keyState (modifierHeld ({} : ReportState).prevMod code ||
      slotHeld ({} : ReportState).prevKeys code) = 0 := by
    rw [held_start]
    rfl
  rw [EdgeTrigger.level_run (reportStep_follows hcode) hrest reports, run_state, held_stateOf]

/-- **The virtual device tracks the physical one.**  From fresh statics, after any sequence of
reports of any shape: each of the five buttons was last reported in the state that the last mouse
report gives it, and its reports alternate; every other key was last reported down exactly if the
last keyboard report holds it; the motions along each axis add up to those of the mouse reports; and
every group of events is closed. -/
theorem applyReports_tracks (reports : List (List UInt8)) :
    ∃ es st, (applyReports {} reports : Except (Fault ε) _) = .ok (es, st) ∧
      (∀ p ∈ mouseButtons,
        EdgeTrigger.level (keyValue p.2) 0 es = keyState (buttonDown reports p.1) ∧
        EdgeTrigger.Alternates (keyValue p.2) 0 es) ∧
      (∀ code, (∀ p ∈ mouseButtons, p.2 ≠ code) →
        EdgeTrigger.level (keyValue code) 0 es = keyState (keyDown reports code)) ∧
      relSum es relX = motion reports 1 ∧ relSum es relY = motion reports 2 ∧
      relSum es relWheel = motion reports 3 ∧ Grouped es := by
  obtain ⟨hx, hy, hw⟩ := relSum_run reports
  refine ⟨_, _, applyReports_eq {} reports, ?_, ?_, hx, hy, hw, grouped_run reports⟩
  · intro p hp
    refine ⟨level_button reports hp, EdgeTrigger.alternates_run (reportStep_edge hp) ?_ reports⟩
    rw [show ({} : ReportState).prev = 0 from rfl, bit_zero]
    rfl
  · intro code hcode
    exact level_key reports hcode

/-- Left button down, then the key A twice in the slots, then the button up and a motion. -/
example : EdgeTrigger.run reportStep {} [[1, 0, 0], [0, 0, 4, 4, 0, 0, 0, 0], [0, 0xFF, 0]] =
    ([⟨evKey, btnLeft, 1⟩, ⟨evSyn, 0, 0⟩, ⟨evKey, 30, 1⟩, ⟨evSyn, 0, 0⟩, ⟨evKey, 30, 1⟩,
      ⟨evSyn, 0, 0⟩, ⟨evKey, btnLeft, 0⟩, ⟨evSyn, 0, 0⟩, ⟨evRel, relX, -1⟩, ⟨evSyn, 0, 0⟩],
      ⟨0, 0, [4, 4, 0, 0, 0, 0]⟩) := by
  decide

end Zerowire

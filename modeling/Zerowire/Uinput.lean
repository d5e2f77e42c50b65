/-
**The virtual input device** (`desktop-linux/src/uinput.rs`).

A `uinput` device is written a sequence of events; the kernel hands them on in groups, each closed
by a SYN_REPORT.  The helpers of the source write one group each.  Here they return the events they
write; that a write can fail is left to the code that writes them.

Main definitions:

* `Zerowire.DeviceProfile`, `Zerowire.uinputSig` — what a device exposes, and the two operations on
  the kernel's side: creating a device and writing an event to the one created last;
* `Zerowire.InputEvent`, `Zerowire.UinputDevice.mouseMove`, `Zerowire.UinputDevice.mouseWheel`,
  `Zerowire.UinputDevice.mouseButton`, `Zerowire.UinputDevice.key` — the events of the helpers;
* `Zerowire.keyValue` — what an event says about a key;
* `Zerowire.relSum` — the sum of the motions along an axis;
* `Zerowire.Grouped` — every group is closed.

Main results:

* `Zerowire.Grouped.append` and one lemma for each helper — the helpers write groups.
-/

import Mathlib.Algebra.BigOperators.Group.List.Basic
import Mathlib.Data.List.Basic
import Mathlib.Data.Nat.Notation
import Mathlib.Data.UInt
import Zerowire.Surroundings

set_option relaxedAutoImplicit false
set_option autoImplicit false

namespace Zerowire

open Program

/-! ### Events -/

def evSyn : UInt16 := 0x00
def evKey : UInt16 := 0x01
def evRel : UInt16 := 0x02
def synReport : UInt16 := 0
def relX : UInt16 := 0x00
def relY : UInt16 := 0x01
def relWheel : UInt16 := 0x08
def relHwheel : UInt16 := 0x06
def btnLeft : UInt16 := 0x110
def btnRight : UInt16 := 0x111
def btnMiddle : UInt16 := 0x112
def btnSide : UInt16 := 0x113
def btnExtra : UInt16 := 0x114

/-- One `input_event`, without its time stamp. -/
structure InputEvent where
  type : UInt16
  code : UInt16
  value : Int32
  deriving Repr, DecidableEq

/-- What to expose: `DeviceProfile`. -/
inductive DeviceProfile where
  | mouse (name : String) (vendorId productId : UInt16)
  | keyboard (name : String) (vendorId productId : UInt16)
  deriving Repr, DecidableEq

/-- What is asked of the kernel: `UinputDevice::create`, and `write_event` on the device created
last. -/
inductive UinputOp where
  | create (profile : DeviceProfile)
  | write (e : InputEvent)
  deriving Repr, DecidableEq

/-- `/dev/uinput`: an operation works, or fails with a text. -/
abbrev uinputSig : Sig := ⟨UinputOp, fun _ => Except String Unit⟩

namespace UinputDevice

/-- `sync`. -/
def sync : List InputEvent := [⟨evSyn, synReport, 0⟩]

/-- A motion along an axis; none is written for zero. -/
def rel (code : UInt16) (v : Int32) : List InputEvent := if v ≠ 0 then [⟨evRel, code, v⟩] else []

/-- `mouse_move`. -/
def mouseMove (dx dy : Int32) : List InputEvent := rel relX dx ++ rel relY dy ++ sync

/-- `mouse_wheel`. -/
def mouseWheel (dv dh : Int32) : List InputEvent := rel relWheel dv ++ rel relHwheel dh ++ sync

/-- The value of a key event. -/
def keyState (pressed : Bool) : Int32 := if pressed then 1 else 0

/-- `mouse_button`. -/
def mouseButton (button : UInt16) (pressed : Bool) : List InputEvent :=
  [⟨evKey, button, keyState pressed⟩] ++ sync

/-- `key`. -/
def key (code : UInt16) (pressed : Bool) : List InputEvent :=
  [⟨evKey, code, keyState pressed⟩] ++ sync

end UinputDevice

open UinputDevice

/-! ### What the events say -/

/-- What an event says about the key with the given code. -/
def keyValue (code : UInt16) (e : InputEvent) : Option Int32 :=
  if e.type = evKey ∧ e.code = code then some e.value else none

/-- The sum of the motions along an axis. -/
def relSum (es : List InputEvent) (code : UInt16) : Int :=
  ((es.filter fun e => e.type = evRel ∧ e.code = code).map fun e => e.value.toInt).sum

/-- Every group is closed: the events are groups, none of them empty and none of them interrupted
by a SYN event, each followed by a SYN_REPORT. -/
def Grouped (es : List InputEvent) : Prop :=
  ∃ groups : List (List InputEvent), es = groups.flatMap (fun g => g ++ sync) ∧
    ∀ g ∈ groups, g ≠ [] ∧ ∀ e ∈ g, e.type ≠ evSyn

theorem relSum_append (es es' : List InputEvent) (code : UInt16) :
    relSum (es ++ es') code = relSum es code + relSum es' code := by
  simp [relSum]

theorem relSum_eq_zero {es : List InputEvent} {code : UInt16} (h : ∀ e ∈ es, e.type ≠ evRel) :
    relSum es code = 0 := by
  have hnil : (es.filter fun e => e.type = evRel ∧ e.code = code) = [] := by
    rw [List.filter_eq_nil_iff]
    intro e he hrel
    exact h e he (of_decide_eq_true hrel).1
  rw [relSum, hnil]
  rfl

theorem relSum_rel (axis code : UInt16) (v : Int32) :
    relSum (rel axis v) code = if axis = code then v.toInt else 0 := by
  rw [rel]
  by_cases hv : v = 0
  · subst hv
    simp [relSum]
  · by_cases hcode : axis = code
    · simp [relSum, hv, hcode]
    · simp [relSum, hv, hcode]

theorem relSum_sync (code : UInt16) : relSum sync code = 0 :=
  relSum_eq_zero (by simp [sync, evSyn, evRel])

/-- The motions of two axes. -/
theorem relSum_motion (axis axis' code : UInt16) (v v' : Int32) :
    relSum (rel axis v ++ rel axis' v' ++ sync) code =
      (if axis = code then v.toInt else 0) + if axis' = code then v'.toInt else 0 := by
  rw [relSum_append, relSum_append, relSum_rel, relSum_rel, relSum_sync, Int.add_zero]

theorem Grouped.nil : Grouped [] := ⟨[], rfl, by simp⟩

theorem Grouped.append {es es' : List InputEvent} (h : Grouped es) (h' : Grouped es') :
    Grouped (es ++ es') := by
  obtain ⟨groups, rfl, hall⟩ := h
  obtain ⟨groups', rfl, hall'⟩ := h'
  refine ⟨groups ++ groups', by simp, ?_⟩
  intro g hg
  rcases List.mem_append.1 hg with hg | hg
  · exact hall g hg
  · exact hall' g hg

theorem Grouped.flatMap {α : Type} {l : List α} {f : α → List InputEvent}
    (h : ∀ a ∈ l, Grouped (f a)) : Grouped (l.flatMap f) := by
  induction l with
  | nil => exact .nil
  | cons a l ih =>
      rw [List.flatMap_cons]
      exact (h a (by simp)).append (ih fun b hb => h b (by simp [hb]))

/-- A single group. -/
theorem Grouped.group {g : List InputEvent} (hne : g ≠ []) (hsyn : ∀ e ∈ g, e.type ≠ evSyn) :
    Grouped (g ++ sync) :=
  ⟨[g], by simp, by simpa using ⟨hne, hsyn⟩⟩

theorem mem_rel {code : UInt16} {v : Int32} {e : InputEvent} :
    e ∈ rel code v ↔ v ≠ 0 ∧ e = ⟨evRel, code, v⟩ := by
  rw [rel]
  split_ifs with h <;> simp [h]

/-- Two motions, not both of them zero. -/
theorem grouped_rel {code code' : UInt16} {v v' : Int32} (h : v ≠ 0 ∨ v' ≠ 0) :
    Grouped (rel code v ++ rel code' v' ++ sync) := by
  apply Grouped.group
  · rcases h with h | h <;> simp [rel, h]
  · intro e he
    rcases List.mem_append.1 he with he | he
    · rw [(mem_rel.1 he).2]
      simp [evRel, evSyn]
    · rw [(mem_rel.1 he).2]
      simp [evRel, evSyn]

theorem grouped_mouseMove {dx dy : Int32} (h : dx ≠ 0 ∨ dy ≠ 0) : Grouped (mouseMove dx dy) :=
  grouped_rel h

theorem grouped_mouseWheel {dv dh : Int32} (h : dv ≠ 0 ∨ dh ≠ 0) : Grouped (mouseWheel dv dh) :=
  grouped_rel h

theorem grouped_key (code : UInt16) (pressed : Bool) : Grouped (key code pressed) :=
  Grouped.group (by simp) (by simp [evKey, evSyn])

theorem grouped_mouseButton (button : UInt16) (pressed : Bool) :
    Grouped (mouseButton button pressed) :=
  Grouped.group (by simp) (by simp [evKey, evSyn])

end Zerowire

/-
**The reports that the decoder reads right** (`desktop-linux/src/receiver.rs`, `apply_report`;
`desktop-linux/src/hid_descriptor.rs`, `mouse_descriptor`).

A BIND_ACK carries the report descriptor of the device, and the receiver does not look at it when it
decodes reports: it takes every report that is not eight bytes long for a byte of buttons and a byte
each for X, Y and the wheel.  So it reads the reports of a device right if this is what the device's
descriptor declares, and the mouse descriptor that the senders for Linux make up is one of those.

Main definitions:

* `Zerowire.PlacedField`, `Zerowire.Placed` — a layout has its buttons and axes where the decoder
  looks for them;
* `Zerowire.Followed` — what the decoder makes of the reports is what the layout says of them.

Main results:

* `Zerowire.followed_of_placed` — **the decoder follows every descriptor whose fields are so
  placed**;
* `Zerowire.placed_mouseDescriptor` — the descriptor that is made up has them there.
-/

import Zerowire.LinuxSender
import Zerowire.Report
import Zerowire.ReportLayout

set_option relaxedAutoImplicit false
set_option autoImplicit false

namespace Zerowire

open Bytes ReportLayout

/-! ### Where the decoder looks -/

/-- The page of buttons. -/
def usagePageButton : ℕ := 9

/-- The axes of `apply_mouse_report`: the usage, the byte of the report and the code of the
motion. -/
def mouseAxes : List (ℕ × ℕ × UInt16) := [(0x30, 1, relX), (0x31, 2, relY), (0x38, 3, relWheel)]

/-- The field is where the decoder looks for it: a button is a bit of the first byte, and an axis is
relative, and a byte with a sign. -/
def PlacedField (f : Field) : Prop :=
  (∀ p ∈ mouseButtons, f.content = .usage usagePageButton (p.1.toNat + 1) →
    f.offset = p.1.toNat ∧ f.size = 1 ∧ 0 ≤ f.min) ∧
  ∀ a ∈ mouseAxes, f.content = .usage HidDescriptor.usagePageGenericDesktop.toNat a.1 →
    f.offset = 8 * a.2.1 ∧ f.size = 8 ∧ f.min < 0 ∧ f.relative = true

instance (f : Field) : Decidable (PlacedField f) :=
  @instDecidableAnd _ _ (List.decidableBAll _ mouseButtons) (List.decidableBAll _ mouseAxes)

/-- **The fields are where the decoder looks for them**, and the reports are not empty and not of
eight bytes.  What else there is in a report is no matter. -/
def Placed (l : Layout) : Prop := (l.bits ≠ 0 ∧ l.bits ≠ 64) ∧ ∀ f ∈ l.fields, PlacedField f

instance (l : Layout) : Decidable (Placed l) := inferInstanceAs (Decidable (_ ∧ _))

/-- **What the decoder makes of the reports is what the layout says of them**: a button was last
reported pressed if it is in the last report, the motions of an axis take it to where it is, and no
other key has been pressed. -/
def Followed (l : Layout) : Prop :=
  ∀ reports : List (List UInt8), (∀ r ∈ reports, 8 * r.length = l.bits) →
    ∃ es st, (applyReports {} reports : Except (Fault Empty) _) = .ok (es, st) ∧
      (∀ f ∈ l.fields, ∀ p ∈ mouseButtons, f.content = .usage usagePageButton (p.1.toNat + 1) →
        EdgeTrigger.level (keyValue p.2) 0 es =
          UinputDevice.keyState (reports.getLast?.any fun r => f.value r = 1)) ∧
      (∀ f ∈ l.fields, ∀ a ∈ mouseAxes,
        f.content = .usage HidDescriptor.usagePageGenericDesktop.toNat a.1 →
          relSum es a.2.2 = f.position reports) ∧
      ∀ code, (∀ p ∈ mouseButtons, p.2 ≠ code) →
        EdgeTrigger.level (keyValue code) 0 es = UinputDevice.keyState false

/-! ### Why it reads them right -/

section Sized

variable {l : Layout} {reports : List (List UInt8)}

/-- Reports of the size that is declared are all those of a mouse. -/
theorem mouse_of_placed (h : Placed l) (hsize : ∀ r ∈ reports, 8 * r.length = l.bits) :
    ∀ r ∈ reports, r ≠ [] ∧ r.length ≠ 8 := by
  obtain ⟨⟨hpos, hne⟩, -⟩ := h
  intro r hr
  have hbits := hsize r hr
  refine ⟨?_, by omega⟩
  rintro rfl
  exact hpos hbits.symm

/-- A button is down if it is in the last report. -/
theorem buttonDown_eq (hmouse : ∀ r ∈ reports, r ≠ [] ∧ r.length ≠ 8) (i : UInt8) :
    buttonDown reports i = reports.getLast?.any fun r => bit (byteAt r 0) i := by
  have hall : reports.filter (fun r => r ≠ [] ∧ r.length ≠ 8) = reports :=
    List.filter_eq_self.2 fun r hr => decide_eq_true (hmouse r hr)
  rw [buttonDown, lastMouse, hall]
  rcases reports.getLast? with _ | r <;> rfl

/-- An axis moves by its byte in every report. -/
theorem motion_eq (hmouse : ∀ r ∈ reports, r ≠ [] ∧ r.length ≠ 8) {i : ℕ}
    (hi : ∀ r ∈ reports, i < r.length) :
    motion reports i = (reports.map fun r => (byteAt r i).toInt8.toInt).sum := by
  have hall : reports.filter (fun r => r.length ≠ 8) = reports :=
    List.filter_eq_self.2 fun r hr => decide_eq_true (hmouse r hr).2
  rw [motion, hall]
  refine congrArg List.sum (List.map_congr_left fun r hr => ?_)
  rw [byteAt, List.getD_eq_getElem?_getD, List.getElem?_eq_getElem (hi r hr), Option.getD_some]

/-- And no key is down. -/
theorem keyDown_eq (hmouse : ∀ r ∈ reports, r ≠ [] ∧ r.length ≠ 8) (code : UInt16) :
    keyDown reports code = false := by
  have hnone : reports.filter (fun r => r.length = 8) = [] :=
    List.filter_eq_nil_iff.2 fun r hr => by simpa using (hmouse r hr).2
  rw [keyDown, lastKeyboard, hnone]
  rfl

end Sized

/-- A button of the decoder is one of the first five bits. -/
theorem lt_of_mem_mouseButtons {p : UInt8 × UInt16} (hp : p ∈ mouseButtons) : p.1 < 8 := by
  have hall : mouseButtons.all (fun p => decide (p.1 < 8)) = true := by decide
  exact of_decide_eq_true (List.all_eq_true.1 hall p hp)

/-- The bit of a button is its field. -/
theorem bit_eq_value {f : Field} {p : UInt8 × UInt16} (hp : p ∈ mouseButtons)
    (h : f.offset = p.1.toNat ∧ f.size = 1 ∧ 0 ≤ f.min) (r : List UInt8) :
    bit (byteAt r 0) p.1 = decide (f.value r = 1) := by
  obtain ⟨hoffset, hsize, hmin⟩ := h
  have hlt : p.1.toNat < 8 := UInt8.lt_iff_toNat_lt.1 (lt_of_mem_mouseButtons hp)
  have hplace : f.offset = 8 * 0 + p.1.toNat := by rw [hoffset, Nat.mul_zero, Nat.zero_add]
  have hraw := Field.raw_bit hplace hlt hsize r
  rw [bit_eq_testBit _ (lt_of_mem_mouseButtons hp), Field.value, if_neg (Int.not_lt.2 hmin), hraw]
  change (r.getD 0 0).toNat.testBit p.1.toNat = _
  cases (r.getD 0 0).toNat.testBit p.1.toNat <;> rfl

/-- **The decoder follows every descriptor whose fields are where it looks for them.** -/
theorem followed_of_placed {desc : List UInt8} {l : Layout} (hdeclared : declared desc = some l)
    (h : Placed l) : Followed l := by
  intro reports hsize
  have hmouse := mouse_of_placed h hsize
  refine ⟨_, _, applyReports_eq {} reports, fun f hf p hp hcontent => ?_,
    fun f hf a ha hcontent => ?_, fun code hcode => ?_⟩
  · have hfield := bit_eq_value hp ((h.2 f hf).1 p hp hcontent)
    rw [level_button reports hp, buttonDown_eq hmouse]
    simp only [hfield]
  · obtain ⟨hoffset, hbyte, hmin, hrelative⟩ := (h.2 f hf).2 a ha hcontent
    have hle := field_le hdeclared hf
    have hlt (r : List UInt8) (hr : r ∈ reports) : a.2.1 < r.length := by
      have hbits := hsize r hr
      omega
    have hsum : motion reports a.2.1 = f.position reports := by
      rw [motion_eq hmouse hlt, Field.position, if_pos hrelative]
      refine congrArg List.sum (List.map_congr_left fun r _ => ?_)
      exact (Field.value_byte hoffset hbyte hmin r).symm
    obtain ⟨hx, hy, hwheel⟩ := relSum_run reports
    rw [← hsum]
    simp only [mouseAxes, List.mem_cons, List.not_mem_nil, or_false] at ha
    rcases ha with rfl | rfl | rfl
    · exact hx
    · exact hy
    · exact hwheel
  · rw [level_key reports hcode, keyDown_eq hmouse]

/-! ### The descriptor that is made up -/

/-- What it declares: five buttons, and X, Y and the wheel. -/
def mouseLayout : Layout where
  page := 1
  min := -127
  size := 8
  count := 3
  bits := 32
  fields :=
    ((List.range 5).map fun i => ⟨.usage usagePageButton (i + 1), i, 1, 0, false⟩) ++
      [⟨.constant, 5, 3, 0, false⟩, ⟨.usage 1 0x30, 8, 8, -127, true⟩,
        ⟨.usage 1 0x31, 16, 8, -127, true⟩, ⟨.usage 1 0x38, 24, 8, -127, true⟩]

theorem declared_mouseDescriptor : declared LinuxSender.mouseDescriptor = some mouseLayout := by
  decide +kernel

theorem placed_mouseDescriptor : Placed mouseLayout := by decide

/-- The decoder follows it. -/
theorem followed_mouseDescriptor : Followed mouseLayout :=
  followed_of_placed declared_mouseDescriptor placed_mouseDescriptor

end Zerowire

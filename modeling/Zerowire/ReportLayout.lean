/-
**What a report descriptor says of the reports.**

The items of a report descriptor (`Zerowire/ShortItems.lean`) are read one after the other.  The
global items set the page, the bounds, the size and the number of the fields to come; the local ones
name their usages; and an Input item declares the fields, which lie in the report behind those
declared before.  A field is a number: the bits of the report from its offset on, the least
significant one first, in two's complement if its lower bound is negative.

Reports with an ID in front, the stack of the global items, usages with a page of their own and long
items are not dealt with: a descriptor with one of these declares nothing here.

Main definitions:

* `ReportLayout.Field`, `ReportLayout.Field.value` — a field, and what it is in a report;
* `ReportLayout.Field.position` — where an axis is after some reports;
* `ReportLayout.Layout`, `ReportLayout.Layout.step` — what has been declared, and what an item adds;
* `ReportLayout.declared` — **what a descriptor declares**.

Main results:

* `ReportLayout.field_le` — every field that is declared lies in the report;
* `ReportLayout.Field.raw_bit`, `ReportLayout.Field.value_byte` — fields of one bit, and of one
  byte.
-/

import Zerowire.ShortItems

set_option relaxedAutoImplicit false
set_option autoImplicit false

namespace ReportLayout

open ShortItems

/-! ### Fields -/

/-- What a field is for: it is constant, it is the value of a usage, or it names one of several. -/
inductive Content where
  | constant
  | usage (page usage : ℕ)
  | oneOf (page : ℕ) (usages : List ℕ)
  deriving Repr, DecidableEq

/-- **A field of a report**; offset and size are in bits. -/
structure Field where
  content : Content
  offset : ℕ
  size : ℕ
  min : ℤ
  relative : Bool
  deriving Repr, DecidableEq

namespace Field

variable (f : Field) (r : List UInt8)

/-- The bits of the field. -/
def raw : ℕ := leNat r / 2 ^ f.offset % 2 ^ f.size

/-- **The value of the field** in a report. -/
def value : ℤ := if f.min < 0 then (f.raw r : ℤ).bmod (2 ^ f.size) else f.raw r

/-- **Where an axis is** after some reports, if it has been at zero before them: a relative one has
moved by what each of them says, and an absolute one is where the last one says. -/
def position (reports : List (List UInt8)) : ℤ :=
  if f.relative then (reports.map f.value).sum else (reports.getLast?.map f.value).getD 0

end Field

/-- The bytes from one on. -/
theorem leNat_div (r : List UInt8) (k : ℕ) : leNat r / 2 ^ (8 * k) = leNat (r.drop k) := by
  induction k generalizing r with
  | zero => rw [Nat.mul_zero, Nat.pow_zero, Nat.div_one, List.drop_zero]
  | succ k ih =>
      cases r with
      | nil => rw [List.drop_nil, leNat, Nat.zero_div]
      | cons b r =>
          have hb := b.toNat_lt
          have hrest : leNat (b :: r) / 2 ^ 8 = leNat r := by
            rw [leNat]
            omega
          rw [Nat.mul_succ, Nat.add_comm, Nat.pow_add, ← Nat.div_div_eq_div_mul, hrest, ih,
            List.drop_succ_cons]

/-- The least significant byte. -/
theorem leNat_mod (r : List UInt8) : leNat r % 2 ^ 8 = (r.getD 0 0).toNat := by
  cases r with
  | nil => rfl
  | cons b r =>
      have hb := b.toNat_lt
      rw [leNat, List.getD_cons_zero]
      omega

/-- A byte, out of the number that the bytes stand for. -/
theorem leNat_byte (r : List UInt8) (k : ℕ) :
    leNat r / 2 ^ (8 * k) % 2 ^ 8 = (r.getD k 0).toNat := by
  rw [leNat_div, leNat_mod, List.getD_eq_getElem?_getD, List.getD_eq_getElem?_getD,
    List.getElem?_drop, Nat.add_zero]

/-- **A field of one bit**, in the byte it lies in. -/
theorem Field.raw_bit {f : Field} {k i : ℕ} (hoffset : f.offset = 8 * k + i) (hi : i < 8)
    (hsize : f.size = 1) (r : List UInt8) :
    f.raw r = ((r.getD k 0).toNat.testBit i).toNat := by
  rw [Field.raw, hoffset, hsize, Nat.pow_add, ← Nat.div_div_eq_div_mul, Nat.pow_one,
    ← Nat.toNat_testBit, ← leNat_byte, Nat.testBit_mod_two_pow, decide_eq_true hi, Bool.true_and]

/-- **A signed field of one byte.** -/
theorem Field.value_byte {f : Field} {k : ℕ} (hoffset : f.offset = 8 * k) (hsize : f.size = 8)
    (hmin : f.min < 0) (r : List UInt8) : f.value r = (r.getD k 0).toInt8.toInt := by
  rw [Field.value, if_pos hmin, Field.raw, hoffset, hsize, leNat_byte]
  exact (BitVec.toInt_eq_toNat_bmod (r.getD k 0).toBitVec).symm

/-! ### What the items declare -/

/-- The operand of an item in two's complement. -/
def signedValue (item : Item) : ℤ := (item.value : ℤ).bmod (2 ^ (8 * item.operands.length))

/-- **What has been declared so far**: the global items as they stand, the usages that wait for a
main item, the bits of the report, and its fields. -/
structure Layout where
  page : ℕ := 0
  min : ℤ := 0
  size : ℕ := 0
  count : ℕ := 0
  usageMin : ℕ := 0
  usages : List ℕ := []
  bits : ℕ := 0
  fields : List Field := []
  deriving Repr, DecidableEq

namespace Layout

variable (l : Layout)

/-- What the field with a given number is for.  The last usage is that of all the others, too. -/
def content (flags i : ℕ) : Content :=
  if flags.testBit 0 then .constant
  else if flags.testBit 1 then .usage l.page (l.usages.getD i (l.usages.getLastD 0))
  else .oneOf l.page l.usages

/-- The field with a given number, of those that an Input item declares. -/
def field (flags i : ℕ) : Field :=
  ⟨l.content flags i, l.bits + i * l.size, l.size, l.min, flags.testBit 2⟩

/-- The usages from the minimum on, up to one. -/
def upTo (usage : ℕ) : Layout :=
  { l with usages := l.usages ++ List.range' l.usageMin (usage + 1 - l.usageMin) }

/-- A main item is the last one for which the local items are. -/
def main : Layout := { l with usageMin := 0, usages := [] }

/-- **An Input item.** -/
def input (flags : ℕ) : Layout :=
  { l.main with
    bits := l.bits + l.count * l.size
    fields := l.fields ++ (List.range l.count).map (l.field flags) }

/-- **What an item adds.** -/
def step (item : Item) : Option Layout :=
  match item.tag with
  -- global items
  | 0x04 => some { l with page := item.value }
  | 0x14 => some { l with min := signedValue item }
  | 0x74 => some { l with size := item.value }
  | 0x94 => some { l with count := item.value }
  | 0x84 | 0xA4 | 0xB4 => none
  -- local items
  | 0x08 =>
      if item.operands.length = 4 then none
      else some { l with usages := l.usages ++ [item.value] }
  | 0x18 =>
      if item.operands.length = 4 then none
      else some { l with usageMin := item.value }
  | 0x28 =>
      if item.operands.length = 4 then none
      else some (l.upTo item.value)
  -- main items
  | 0x80 => some (l.input item.value)
  | 0x90 | 0xB0 | 0xA0 | 0xC0 => some l.main
  -- a long item
  | 0xFC => none
  | _ => some l

/-- Every field lies in the report. -/
def Within : Prop := ∀ f ∈ l.fields, f.offset + f.size ≤ l.bits

variable {l}

theorem Within.input (h : l.Within) (flags : ℕ) : (l.input flags).Within := by
  intro f hf
  rcases List.mem_append.1 hf with hf | hf
  · exact Nat.le_trans (h f hf) (Nat.le_add_right _ _)
  · obtain ⟨i, hi, rfl⟩ := List.mem_map.1 hf
    have hlt : (i + 1) * l.size ≤ l.count * l.size :=
      Nat.mul_le_mul_right _ (List.mem_range.1 hi)
    rw [Nat.succ_mul] at hlt
    change l.bits + i * l.size + l.size ≤ l.bits + l.count * l.size
    omega

/-- Only an Input item declares fields. -/
theorem step_cases {item : Item} {l' : Layout} (h : l.step item = some l') :
    (l'.fields = l.fields ∧ l'.bits = l.bits) ∨ l' = l.input item.value := by
  rw [step] at h
  split at h
  case h_11 => exact .inr (Option.some.inj h).symm
  all_goals try split_ifs at h
  all_goals try cases h
  all_goals exact .inl ⟨rfl, rfl⟩

/-- One item keeps that. -/
theorem Within.step (h : l.Within) {item : Item} {l' : Layout} (hstep : l.step item = some l') :
    l'.Within := by
  rcases step_cases hstep with ⟨hfields, hbits⟩ | rfl
  · rwa [Within, hfields, hbits]
  · exact h.input item.value

end Layout

/-- **What a descriptor declares.** -/
def declared (desc : List UInt8) : Option Layout := (items desc).foldlM Layout.step {}

/-- **Every field that is declared lies in the report.** -/
theorem field_le {desc : List UInt8} {l : Layout} (h : declared desc = some l) {f : Field}
    (hf : f ∈ l.fields) : f.offset + f.size ≤ l.bits := by
  have hrun (its : List Item) (l₀ : Layout) (h₀ : l₀.Within)
      (hl : its.foldlM Layout.step l₀ = some l) : l.Within := by
    induction its generalizing l₀ with
    | nil =>
        cases hl
        exact h₀
    | cons item its ih =>
        rw [List.foldlM_cons] at hl
        obtain ⟨l₁, hstep, hrest⟩ := Option.bind_eq_some_iff.1 hl
        exact ih l₁ (h₀.step hstep) hrest
  exact hrun (items desc) {} nofun h f hf

end ReportLayout

/-
**Classifying a device by its report descriptor** (`desktop-linux/src/hid_descriptor.rs` and
`HidEndpoint.kt`).

Both sides tell what kind a device is by the first usage on the Generic Desktop page.  They walk
over the same items; what they keep of an operand differs.  The receiver keeps its low byte, of the
usage page and of the usage, and the sender keeps the whole word, in an `Int`, as it does the
position.

Main definitions:

* `Zerowire.HidDescriptor.classify` — the receiver's walk;
* `Zerowire.HidDescriptor.classifyDescriptor` — the sender's walk;
* `Zerowire.HidDescriptor.NarrowAlike` — operands of which the low byte says as much as the whole.

Main results:

* `Zerowire.HidDescriptor.classify_eq`, `Zerowire.HidDescriptor.classifyDescriptor_eq` — what the
  walks come to, in terms of the items;
* `Zerowire.HidDescriptor.classified_alike_iff` — **when the two agree.**
-/

import Zerowire.Jvm
import Zerowire.ShortItems

set_option relaxedAutoImplicit false
set_option autoImplicit false

namespace Zerowire.HidDescriptor

open Bytes ShortItems

variable {ε : Type}

/-- `hid_descriptor::Kind` of the receiver and `HidEndpoint.Kind` of the sender. -/
inductive Kind where
  | mouse
  | keyboard
  | gamepad
  | other
  deriving Repr, DecidableEq

/-! ### The receiver -/

/-- `USAGE_PAGE_GENERIC_DESKTOP`. -/
def usagePageGenericDesktop : UInt8 := 0x01

/-- `USAGE_MOUSE`. -/
def usageMouse : UInt8 := 0x02

/-- `USAGE_KEYBOARD`. -/
def usageKeyboard : UInt8 := 0x06

/-- `USAGE_GAMEPAD`. -/
def usageGamepad : UInt8 := 0x05

/-- `USAGE_JOYSTICK`. -/
def usageJoystick : UInt8 := 0x04

/-- The kind of a usage, by its low byte. -/
def kindOfUsage (usage : UInt8) : Kind :=
  if usage = usageMouse then .mouse
  else if usage = usageKeyboard then .keyboard
  else if usage = usageGamepad ∨ usage = usageJoystick then .gamepad
  else .other

/-- The operand of the item at `i`, as a word. -/
def dataLe (desc : List UInt8) (i size : ℕ) : Except (Fault ε) UInt32 :=
  if size = 0 then .ok 0
  else if size = 1 then do return (← index desc (i + 1)).toUInt32
  else if size = 2 then do return (beU16 (← index desc (i + 2)) (← index desc (i + 1))).toUInt32
  else do
    return beU32 (← index desc (i + 4)) (← index desc (i + 3)) (← index desc (i + 2))
      (← index desc (i + 1))

/-- One round of `classify`: the page and the position of the next, or the kind. -/
def classifyRound (desc : List UInt8) :
    Option UInt8 × ℕ → Except (Fault ε) ((Option UInt8 × ℕ) ⊕ Kind)
  | (page, i) =>
      if i < desc.length then do
        let pfx ← index desc i
        let size :=
          if pfx &&& 0x03 = 0 then 0
          else if pfx &&& 0x03 = 1 then 1
          else if pfx &&& 0x03 = 2 then 2
          else 4
        let tag := pfx &&& 0xFC
        if i + 1 + size > desc.length then return .inr .other
        else
          let data ← dataLe desc i size
          if tag = 0x04 then return .inl (some data.toUInt8, i + 1 + size)
          else if tag = 0x08 ∧ page = some usagePageGenericDesktop then
            return .inr (kindOfUsage data.toUInt8)
          else return .inl (page, i + 1 + size)
      else return .inr .other

/-- `classify`. -/
def classify (fuel : ℕ) (desc : List UInt8) : Option (Except (Fault ε) Kind) :=
  whileLoop (classifyRound desc) fuel (none, 0)

/-! ### The sender -/

/-- The kind of a usage. -/
def kindOfData (data : Int32) : Kind :=
  if data = 0x02 then .mouse
  else if data = 0x06 then .keyboard
  else if data = 0x04 ∨ data = 0x05 then .gamepad
  else .other

/-- `ByteBuffer4Le`. -/
def byteBuffer4Le (b : List UInt8) (off : Int32) : Except (Jvm.Throwable ε) Int32 := do
  let b₀ ← Jvm.getAt b off
  let b₁ ← Jvm.getAt b (off + 1)
  let b₂ ← Jvm.getAt b (off + 2)
  let b₃ ← Jvm.getAt b (off + 3)
  let low : Int32 := Jvm.toInt b₀ &&& 0xFF
  return low ||| (Jvm.toInt b₁ &&& 0xFF) <<< 8 ||| (Jvm.toInt b₂ &&& 0xFF) <<< 16 |||
    (Jvm.toInt b₃ &&& 0xFF) <<< 24

/-- The operand of the item at `i`. -/
def itemData (desc : List UInt8) (i size : Int32) : Except (Jvm.Throwable ε) Int32 :=
  if size = 0 then .ok 0
  else if size = 1 then do return Jvm.toInt (← Jvm.getAt desc (i + 1)) &&& 0xFF
  else if size = 2 then do
    return (Jvm.toInt (← Jvm.getAt desc (i + 2)) &&& 0xFF) <<< 8 |||
      (Jvm.toInt (← Jvm.getAt desc (i + 1)) &&& 0xFF)
  else byteBuffer4Le desc (i + 1)

/-- One round of `classifyDescriptor`. -/
def classifyDescriptorRound (desc : List UInt8) :
    Option Int32 × Int32 → Except (Jvm.Throwable ε) ((Option Int32 × Int32) ⊕ Kind)
  | (page, i) =>
      if i < Jvm.size desc then do
        let pfx := Jvm.toInt (← Jvm.getAt desc i) &&& 0xFF
        let size : Int32 :=
          if pfx &&& 0x03 = 0 then 0
          else if pfx &&& 0x03 = 1 then 1
          else if pfx &&& 0x03 = 2 then 2
          else 4
        let tag := pfx &&& 0xFC
        if i + 1 + size > Jvm.size desc then return .inr .other
        else
          let data ← itemData desc i size
          if tag = 0x04 then return .inl (some data, i + 1 + size)
          else if tag = 0x08 ∧ page = some 0x01 then return .inr (kindOfData data)
          else return .inl (page, i + 1 + size)
      else return .inr .other

/-- `classifyDescriptor`. -/
def classifyDescriptor (fuel : ℕ) (desc : List UInt8) : Option (Except (Jvm.Throwable ε) Kind) :=
  whileLoop (classifyDescriptorRound desc) fuel (none, 0)

/-! ### What the receiver's walk comes to -/

/-- The kind of a usage, as a number. -/
def kindOf (usage : ℕ) : Kind :=
  if usage = 2 then .mouse
  else if usage = 6 then .keyboard
  else if usage = 4 ∨ usage = 5 then .gamepad
  else .other

/-- The page on which the receiver looks for a usage: any whose low byte is 1. -/
def lowByteOne (page : ℕ) : Bool := page % 2 ^ 8 = 1

/-- The page on which the sender does. -/
def isOne (page : ℕ) : Bool := page = 1

/-- The kind that the receiver makes of what is found. -/
def kindByLowByte : Option Found → Kind
  | some f => kindOf (f.usage % 2 ^ 8)
  | none => .other

theorem kindOfUsage_ofNat (n : ℕ) : kindOfUsage (UInt8.ofNat n) = kindOf (n % 2 ^ 8) := by
  have heq (u : UInt8) : UInt8.ofNat n = u ↔ n % 2 ^ 8 = u.toNat := by
    rw [← UInt8.toNat_inj, UInt8.toNat_ofNat']
  rw [kindOfUsage, kindOf]
  simp only [heq, usageMouse, usageKeyboard, usageGamepad, usageJoystick, or_comm]
  rfl

/-- The operands that a prefix can have. -/
theorem operands_cases {ops : List UInt8} {pfx : UInt8} (h : ops.length = operandSize pfx) :
    (operandSize pfx = 0 ∧ ops = []) ∨ (operandSize pfx = 1 ∧ ∃ a, ops = [a]) ∨
      (operandSize pfx = 2 ∧ ∃ a b, ops = [a, b]) ∨
      (operandSize pfx = 4 ∧ ∃ a b c d, ops = [a, b, c, d]) := by
  rcases operandSize_cases pfx with hsize | hsize | hsize | hsize
  · exact Or.inl ⟨hsize, List.length_eq_zero_iff.1 (h.trans hsize)⟩
  · exact Or.inr (Or.inl ⟨hsize, List.length_eq_one_iff.1 (h.trans hsize)⟩)
  · exact Or.inr (Or.inr (Or.inl ⟨hsize, List.length_eq_two.1 (h.trans hsize)⟩))
  · refine Or.inr (Or.inr (Or.inr ⟨hsize, ?_⟩))
    have hfour := h.trans hsize
    obtain ⟨a, rest, rfl⟩ := List.exists_cons_of_length_eq_add_one hfour
    obtain ⟨b, c, d, rfl⟩ := List.length_eq_three.1 (Nat.succ.inj hfour)
    exact ⟨a, b, c, d, rfl⟩

theorem dataLe_append (pre b : List UInt8) (size : ℕ) :
    (dataLe (pre ++ b) pre.length size : Except (Fault ε) UInt32) = dataLe b 0 size := by
  rw [dataLe, dataLe]
  simp only [index_append, Nat.zero_add]

/-- The word that the receiver makes of operands. -/
theorem dataLe_operands (pre rest : List UInt8) {ops : List UInt8} {pfx : UInt8}
    (h : ops.length = operandSize pfx) :
    ∃ w : UInt32, (dataLe (pre ++ pfx :: (ops ++ rest)) pre.length (operandSize pfx) :
      Except (Fault ε) UInt32) = .ok w ∧ w.toNat = leNat ops := by
  rw [dataLe_append]
  rcases operands_cases h with ⟨hsize, rfl⟩ | ⟨hsize, a, rfl⟩ | ⟨hsize, a, b, rfl⟩ |
    ⟨hsize, a, b, c, d, rfl⟩
  · rw [hsize]
    exact ⟨0, rfl, rfl⟩
  · rw [hsize]
    exact ⟨_, rfl, by simp [leNat]⟩
  · rw [hsize]
    refine ⟨_, rfl, ?_⟩
    rw [UInt16.toNat_toUInt32, toNat_beU16]
    simp only [leNat]
    omega
  · rw [hsize]
    refine ⟨_, rfl, ?_⟩
    rw [toNat_beU32]
    simp only [leNat]
    omega

/-- What a round of the receiver makes of a complete item. -/
theorem classifyRound_item (pre rest : List UInt8) (item : Item) (page : Option UInt8) :
    (classifyRound (pre ++ (item.bytes ++ rest)) (page, pre.length) : Except (Fault ε) _) = .ok (
      if item.tag = 0x04 then
        .inl (some (UInt8.ofNat item.value), (pre ++ item.bytes).length)
      else if item.tag = 0x08 ∧ page = some usagePageGenericDesktop then
        .inr (kindOf (item.value % 2 ^ 8))
      else .inl (page, (pre ++ item.bytes).length)) := by
  have hsize : (if item.pfx &&& 0x03 = 0 then 0 else if item.pfx &&& 0x03 = 1 then 1
      else if item.pfx &&& 0x03 = 2 then 2 else 4) = operandSize item.pfx := rfl
  have htag : item.pfx &&& 0xFC = item.tag := rfl
  have hindex : (index (pre ++ item.pfx :: (item.operands ++ rest)) pre.length :
      Except (Fault ε) UInt8) = .ok item.pfx :=
    index_append pre (item.pfx :: (item.operands ++ rest)) 0
  have hlen : (pre ++ item.bytes).length = pre.length + 1 + operandSize item.pfx := by
    rw [List.length_append, Item.bytes, List.length_cons, item.length_operands]
    omega
  have hin : pre.length + 1 + operandSize item.pfx ≤
      (pre ++ item.pfx :: (item.operands ++ rest)).length := by
    rw [List.length_append, List.length_cons, List.length_append, item.length_operands]
    omega
  -- the receiver computes the whole word, and keeps the low byte
  obtain ⟨w, hw, hvalue⟩ := dataLe_operands (ε := ε) pre rest item.length_operands
  have hbyte : w.toUInt8 = UInt8.ofNat item.value := by
    rw [Item.value, ← hvalue]
    rfl
  rw [hlen, Item.bytes, List.cons_append, classifyRound, if_pos (by omega), hindex, ok_bind]
  simp only [hsize, htag]
  rw [if_neg (by omega), hw, ok_bind, hbyte, kindOfUsage_ofNat]
  by_cases hpage : item.tag = 0x04
  · rw [if_pos hpage, if_pos hpage, pure_eq_ok]
  · rw [if_neg hpage, if_neg hpage]
    by_cases husage : item.tag = 0x08 ∧ page = some usagePageGenericDesktop
    · rw [if_pos husage, if_pos husage, pure_eq_ok]
    · rw [if_neg husage, if_neg husage, pure_eq_ok]

/-- What a round of the receiver makes of a tail. -/
theorem classifyRound_tail (pre : List UInt8) {b : List UInt8} (h : parse b = .ok none)
    (page : Option UInt8) :
    (classifyRound (pre ++ b) (page, pre.length) : Except (Fault ε) _) = .ok (.inr .other) := by
  cases b with
  | nil =>
      rw [List.append_nil, classifyRound, if_neg (Nat.lt_irrefl _)]
      rfl
  | cons pfx rest =>
      have hcut : rest.length < operandSize pfx := parse_eq_none_iff.1 h
      have hsize : (if pfx &&& 0x03 = 0 then 0 else if pfx &&& 0x03 = 1 then 1
          else if pfx &&& 0x03 = 2 then 2 else 4) = operandSize pfx := rfl
      have hindex : (index (pre ++ pfx :: rest) pre.length : Except (Fault ε) UInt8) = .ok pfx :=
        index_append pre (pfx :: rest) 0
      rw [classifyRound, if_pos (by simp), hindex, ok_bind]
      simp only [hsize]
      rw [if_pos (by simp; omega), pure_eq_ok]

theorem usagePage_ofNat (p : ℕ) :
    some (UInt8.ofNat p) = some usagePageGenericDesktop ↔ lowByteOne p = true := by
  rw [Option.some.injEq, ← UInt8.toNat_inj, UInt8.toNat_ofNat', lowByteOne, decide_eq_true_eq]
  rfl

/-- **What the receiver's walk comes to**: the low byte of the first usage on a page whose low byte
is
1. -/
theorem classify_loop (b : List UInt8) :
    ∀ (pre : List UInt8) (page : Option ℕ) (fuel : ℕ), b.length < fuel →
      whileLoop (classifyRound (ε := ε) (pre ++ b)) fuel (page.map UInt8.ofNat, pre.length) =
        some (.ok (kindByLowByte (firstUsage lowByteOne page (items b)))) := by
  -- item by item; what is behind the last one ends the walk
  induction b using ShortItems.induction with
  | cut b h =>
      intro pre page fuel hfuel
      obtain ⟨fuel, rfl⟩ := Nat.exists_eq_succ_of_ne_zero (Nat.ne_of_gt (Nat.zero_lt_of_lt hfuel))
      rw [whileLoop_inr (classifyRound_tail pre h _), (items_nil h).1]
      rfl
  | item item rest ih =>
      intro pre page fuel hfuel
      obtain ⟨fuel, rfl⟩ := Nat.exists_eq_succ_of_ne_zero (Nat.ne_of_gt (Nat.zero_lt_of_lt hfuel))
      have hrest : rest.length < fuel := by
        rw [List.length_append, Item.bytes, List.length_cons] at hfuel
        omega
      have hround := classifyRound_item (ε := ε) pre rest item (page.map UInt8.ofNat)
      have hnext (page' : Option ℕ) := ih (pre ++ item.bytes) page' fuel hrest
      simp only [List.append_assoc] at hnext
      rw [(items_cons item rest).1]
      by_cases hpage : item.tag = 0x04
      · rw [if_pos hpage] at hround
        rw [whileLoop_inl hround, firstUsage_page hpage]
        exact hnext (some item.value)
      rw [if_neg hpage] at hround
      by_cases husage : item.tag = 0x08
      · cases page with
        | none =>
            rw [if_neg (by simp)] at hround
            rw [whileLoop_inl hround, firstUsage_usage_none husage]
            exact hnext none
        | some p =>
            rw [Option.map_some] at hround
            by_cases hp : lowByteOne p = true
            · rw [if_pos ⟨husage, (usagePage_ofNat p).2 hp⟩] at hround
              rw [Option.map_some, whileLoop_inr hround, firstUsage_usage_on husage hp]
              rfl
            · rw [if_neg fun hand => hp ((usagePage_ofNat p).1 hand.2)] at hround
              rw [Option.map_some, whileLoop_inl hround, firstUsage_usage_off husage hp]
              exact hnext (some p)
      · rw [if_neg fun hand => husage hand.1] at hround
        rw [whileLoop_inl hround, firstUsage_other hpage husage]
        exact hnext page

/-- The receiver's kind of a descriptor. -/
theorem classify_eq (desc : List UInt8) {fuel : ℕ} (hfuel : desc.length < fuel) :
    (classify fuel desc : Option (Except (Fault ε) Kind)) =
      some (.ok (kindByLowByte (firstUsage lowByteOne none (items desc)))) :=
  classify_loop desc [] none fuel hfuel

/-! ### What the sender's walk comes to -/

/-- The size that the sender takes from a prefix byte. -/
theorem size_eq (pfx : UInt8) :
    (if Jvm.toInt pfx &&& 0xFF &&& 0x03 = 0 then (0 : Int32)
      else if Jvm.toInt pfx &&& 0xFF &&& 0x03 = 1 then 1
      else if Jvm.toInt pfx &&& 0xFF &&& 0x03 = 2 then 2
      else 4) = Int32.ofNat (operandSize pfx) := by
  have hmask : Jvm.toInt pfx &&& 0xFF &&& 0x03 = Int32.ofNat (pfx &&& 0x03).toNat :=
    Jvm.unsigned_and pfx 0x03
  have heq (u : UInt8) : Int32.ofNat (pfx &&& 0x03).toNat = Int32.ofNat u.toNat ↔
      pfx &&& 0x03 = u := by
    have h := (pfx &&& 0x03).toNat_lt
    have hu := u.toNat_lt
    rw [Jvm.ofNat_inj (by omega) (by omega), UInt8.toNat_inj]
  have h₀ : Int32.ofNat (pfx &&& 0x03).toNat = 0 ↔ pfx &&& 0x03 = 0 := heq 0
  have h₁ : Int32.ofNat (pfx &&& 0x03).toNat = 1 ↔ pfx &&& 0x03 = 1 := heq 1
  have h₂ : Int32.ofNat (pfx &&& 0x03).toNat = 2 ↔ pfx &&& 0x03 = 2 := heq 2
  rw [hmask, operandSize]
  by_cases hzero : pfx &&& 0x03 = 0
  · rw [if_pos (h₀.2 hzero), if_pos hzero]
    rfl
  rw [if_neg (mt h₀.1 hzero), if_neg hzero]
  by_cases hone : pfx &&& 0x03 = 1
  · rw [if_pos (h₁.2 hone), if_pos hone]
    rfl
  rw [if_neg (mt h₁.1 hone), if_neg hone]
  by_cases htwo : pfx &&& 0x03 = 2
  · rw [if_pos (h₂.2 htwo), if_pos htwo]
    rfl
  · rw [if_neg (mt h₂.1 htwo), if_neg htwo]
    rfl

/-- The tag that the sender takes from a prefix byte. -/
theorem tag_eq_iff (item : Item) (u : UInt8) :
    Jvm.toInt item.pfx &&& 0xFF &&& 0xFC = Int32.ofNat u.toNat ↔ item.tag = u := by
  have hmask : Jvm.toInt item.pfx &&& 0xFF &&& 0xFC = Int32.ofNat item.tag.toNat :=
    Jvm.unsigned_and item.pfx 0xFC
  have h := item.tag.toNat_lt
  have hu := u.toNat_lt
  rw [hmask, Jvm.ofNat_inj (by omega) (by omega), UInt8.toNat_inj]

/-- The positions behind `n`, as the sender computes them. -/
theorem position_succ (n : ℕ) :
    Int32.ofNat n + 1 = Int32.ofNat (n + 1) ∧ Int32.ofNat n + 2 = Int32.ofNat (n + 2) ∧
      Int32.ofNat (n + 1) + 1 = Int32.ofNat (n + 2) ∧
      Int32.ofNat (n + 1) + 2 = Int32.ofNat (n + 3) ∧
      Int32.ofNat (n + 1) + 3 = Int32.ofNat (n + 4) :=
  ⟨(Int32.ofNat_add n 1).symm, (Int32.ofNat_add n 2).symm, (Int32.ofNat_add (n + 1) 1).symm,
    (Int32.ofNat_add (n + 1) 2).symm, (Int32.ofNat_add (n + 1) 3).symm⟩

/-- The word that the sender makes of operands. -/
theorem itemData_operands (pre rest : List UInt8) {ops : List UInt8} {pfx : UInt8}
    (h : ops.length = operandSize pfx) (hlt : pre.length + 1 + operandSize pfx < 2 ^ 31) :
    (itemData (pre ++ pfx :: (ops ++ rest)) (Int32.ofNat pre.length)
      (Int32.ofNat (operandSize pfx)) : Except (Jvm.Throwable ε) Int32) =
      .ok (Int32.ofNat (leNat ops)) := by
  obtain ⟨h₁, h₂, h₁₁, h₁₂, h₁₃⟩ := position_succ pre.length
  have hget (k : ℕ) (hk : pre.length + k < 2 ^ 31) :
      (Jvm.getAt (pre ++ pfx :: (ops ++ rest)) (Int32.ofNat (pre.length + k)) :
        Except (Jvm.Throwable ε) UInt8) = Jvm.get (pfx :: (ops ++ rest)) k := Jvm.getAt_append hk
  rw [itemData]
  rcases operands_cases h with ⟨hsize, rfl⟩ | ⟨hsize, a, rfl⟩ | ⟨hsize, a, b, rfl⟩ |
    ⟨hsize, a, b, c, d, rfl⟩
  · rw [hsize]
    rfl
  · rw [hsize] at hlt ⊢
    rw [if_neg (by decide), if_pos (by decide), h₁, hget 1 (by omega)]
    simp only [List.cons_append, Jvm.get_cons_zero, Jvm.get_cons_succ, ok_bind, pure_eq_ok,
      Jvm.unsigned_eq, leNat, Nat.mul_zero, Nat.add_zero]
  · rw [hsize] at hlt ⊢
    rw [if_neg (by decide), if_neg (by decide), if_pos (by decide), h₁, h₂,
      hget 1 (by omega), hget 2 (by omega)]
    simp only [List.cons_append, Jvm.get_cons_zero, Jvm.get_cons_succ, ok_bind, pure_eq_ok,
      Jvm.or_eq_beU16, toNat_beU16, leNat]
    rw [show b.toNat * 2 ^ 8 + a.toNat = a.toNat + 2 ^ 8 * (b.toNat + 2 ^ 8 * 0) by omega]
  · rw [hsize] at hlt ⊢
    rw [if_neg (by decide), if_neg (by decide), if_neg (by decide), byteBuffer4Le, h₁, h₁₁, h₁₂, h₁₃,
      hget 1 (by omega), hget 2 (by omega), hget 3 (by omega), hget 4 (by omega)]
    simp only [List.cons_append, Jvm.get_cons_zero, Jvm.get_cons_succ, ok_bind, pure_eq_ok]
    -- the four bytes are read the other way round
    have hor := Jvm.or_eq_beU32 d c b a
    have hsum : d.toNat * 2 ^ 24 + c.toNat * 2 ^ 16 + b.toNat * 2 ^ 8 + a.toNat =
        leNat [a, b, c, d] := by
      simp only [leNat]
      omega
    rw [Jvm.toInt32_eq_ofNat, toNat_beU32, hsum] at hor
    have hrev (x y z w : Int32) : x ||| y ||| z ||| w = w ||| z ||| y ||| x := by
      rw [Int32.or_comm _ w, Int32.or_comm _ z, Int32.or_comm x y, ← Int32.or_assoc,
        ← Int32.or_assoc]
    rw [hrev, hor]

/-- A cut-off item has no word: an access is out of bounds. -/
theorem itemData_cut (pre : List UInt8) {rest : List UInt8} {pfx : UInt8}
    (hcut : rest.length < operandSize pfx) (hlen : (pre ++ pfx :: rest).length < 2 ^ 31) :
    (itemData (pre ++ pfx :: rest) (Int32.ofNat pre.length) (Int32.ofNat (operandSize pfx)) :
      Except (Jvm.Throwable ε) Int32) = .error .indexOutOfBounds := by
  obtain ⟨h₁, h₂, h₁₁, h₁₂, h₁₃⟩ := position_succ pre.length
  have hlen' : (pre ++ pfx :: rest).length = pre.length + 1 + rest.length := by
    rw [List.length_append, List.length_cons]
    omega
  have hout (k : ℕ) (hk : 1 + rest.length ≤ k) (hk' : k ≤ 4) :
      (Jvm.getAt (pre ++ pfx :: rest) (Int32.ofNat (pre.length + k)) :
        Except (Jvm.Throwable ε) UInt8) = .error .indexOutOfBounds :=
    Jvm.getAt_of_le (by omega) (by omega)
  rw [itemData]
  rcases operandSize_cases pfx with hsize | hsize | hsize | hsize
  · omega
  · rw [hsize, if_neg (by decide), if_pos (by decide), h₁, hout 1 (by omega) (by omega), error_bind]
  · rw [hsize, if_neg (by decide), if_neg (by decide), if_pos (by decide), h₂,
      hout 2 (by omega) (by omega), error_bind]
  · rw [hsize, if_neg (by decide), if_neg (by decide), if_neg (by decide), byteBuffer4Le, h₁, h₁₁,
      h₁₂, h₁₃, hout 4 (by omega) (by omega)]
    -- the first access that is out of bounds ends the word; the last one is
    rcases Jvm.getAt_cases (ε := ε) (pre ++ pfx :: rest) (Int32.ofNat (pre.length + 1)) with
      ⟨x, hx⟩ | hx
    swap
    · rw [hx, error_bind]
    rw [hx, ok_bind]
    rcases Jvm.getAt_cases (ε := ε) (pre ++ pfx :: rest) (Int32.ofNat (pre.length + 2)) with
      ⟨y, hy⟩ | hy
    swap
    · rw [hy, error_bind]
    rw [hy, ok_bind]
    rcases Jvm.getAt_cases (ε := ε) (pre ++ pfx :: rest) (Int32.ofNat (pre.length + 3)) with
      ⟨z, hz⟩ | hz
    swap
    · rw [hz, error_bind]
    rw [hz, ok_bind, error_bind]

/-- What a round of the sender makes of a complete item. -/
theorem classifyDescriptorRound_item (pre rest : List UInt8) (item : Item) (page : Option Int32)
    (hlt : (pre ++ (item.bytes ++ rest)).length < 2 ^ 31) :
    (classifyDescriptorRound (pre ++ (item.bytes ++ rest)) (page, Int32.ofNat pre.length) :
      Except (Jvm.Throwable ε) _) = .ok (
      if item.tag = 0x04 then
        .inl (some (Int32.ofNat item.value), Int32.ofNat (pre ++ item.bytes).length)
      else if item.tag = 0x08 ∧ page = some 0x01 then .inr (kindOfData (Int32.ofNat item.value))
      else .inl (page, Int32.ofNat (pre ++ item.bytes).length)) := by
  have hindex : (Jvm.getAt (pre ++ item.pfx :: (item.operands ++ rest)) (Int32.ofNat pre.length) :
      Except (Jvm.Throwable ε) UInt8) = .ok item.pfx := by
    have hpre : pre.length < 2 ^ 31 := by
      rw [List.length_append] at hlt
      omega
    have hget := @Jvm.getAt_append ε pre (item.pfx :: (item.operands ++ rest)) 0
    rw [Nat.add_zero] at hget
    exact hget hpre
  have hlen : (pre ++ item.bytes).length = pre.length + 1 + operandSize item.pfx := by
    rw [List.length_append, Item.bytes, List.length_cons, item.length_operands]
    omega
  have htotal : (pre ++ item.pfx :: (item.operands ++ rest)).length =
      pre.length + 1 + operandSize item.pfx + rest.length := by
    rw [List.length_append, List.length_cons, List.length_append, item.length_operands]
    omega
  rw [Item.bytes, List.cons_append, htotal] at hlt
  -- the position behind the item does not overflow, since the array goes on to there
  have hnext : Int32.ofNat pre.length + 1 + Int32.ofNat (operandSize item.pfx) =
      Int32.ofNat (pre.length + 1 + operandSize item.pfx) := by
    rw [(position_succ pre.length).1, ← Int32.ofNat_add]
  have hin : Int32.ofNat pre.length < Jvm.size (pre ++ item.pfx :: (item.operands ++ rest)) := by
    rw [Jvm.size, htotal, Jvm.ofNat_lt_iff (by omega) (by omega)]
    omega
  have hfits : ¬ Jvm.size (pre ++ item.pfx :: (item.operands ++ rest)) <
      Int32.ofNat (pre.length + 1 + operandSize item.pfx) := by
    rw [Jvm.size, htotal, Jvm.ofNat_lt_iff (by omega) (by omega)]
    omega
  have hdata := itemData_operands (ε := ε) pre rest item.length_operands (by omega)
  rw [← Item.value] at hdata
  have hfour : Jvm.toInt item.pfx &&& 0xFF &&& 0xFC = 0x04 ↔ item.tag = 0x04 := tag_eq_iff item 4
  have height : Jvm.toInt item.pfx &&& 0xFF &&& 0xFC = 0x08 ↔ item.tag = 0x08 := tag_eq_iff item 8
  rw [hlen, Item.bytes, List.cons_append, classifyDescriptorRound, if_pos hin, hindex, ok_bind]
  simp only [size_eq, hnext]
  rw [if_neg hfits, hdata, ok_bind]
  by_cases hpage : item.tag = 0x04
  · rw [if_pos (hfour.2 hpage), if_pos hpage, pure_eq_ok]
  · rw [if_neg (mt hfour.1 hpage), if_neg hpage]
    by_cases husage : item.tag = 0x08 ∧ page = some 0x01
    · rw [if_pos ⟨height.2 husage.1, husage.2⟩, if_pos husage, pure_eq_ok]
    · rw [if_neg fun h => husage ⟨height.1 h.1, h.2⟩, if_neg husage, pure_eq_ok]

/-- The sender's position behind a cut-off item does not fit an `Int`, where `total` is the size of
the whole array: the check whether the item is complete then finds that it is. -/
def Overruns (total : ℕ) : List UInt8 → Prop
  | [] => False
  | pfx :: rest => 2 ^ 31 ≤ total - rest.length + operandSize pfx

instance (total : ℕ) (b : List UInt8) : Decidable (Overruns total b) :=
  match b with
  | [] => inferInstanceAs (Decidable False)
  | _ :: _ => inferInstanceAs (Decidable (_ ≤ _))

/-- What a round of the sender makes of a tail. -/
theorem classifyDescriptorRound_tail (pre : List UInt8) {b : List UInt8} (h : parse b = .ok none)
    (page : Option Int32) (hlt : (pre ++ b).length < 2 ^ 31) :
    (classifyDescriptorRound (pre ++ b) (page, Int32.ofNat pre.length) :
      Except (Jvm.Throwable ε) _) =
      if Overruns (pre ++ b).length b then .error .indexOutOfBounds else .ok (.inr .other) := by
  cases b with
  | nil =>
      have hend : ¬ Int32.ofNat pre.length < Jvm.size pre := by
        rw [List.append_nil] at hlt
        rw [Jvm.size, Jvm.ofNat_lt_iff hlt hlt]
        exact Nat.lt_irrefl _
      rw [List.append_nil, classifyDescriptorRound, if_neg hend,
        if_neg (show ¬ Overruns pre.length [] from not_false)]
      rfl
  | cons pfx rest =>
      have hcut : rest.length < operandSize pfx := parse_eq_none_iff.1 h
      have hsize := operandSize_le pfx
      have htotal : (pre ++ pfx :: rest).length = pre.length + 1 + rest.length := by
        rw [List.length_append, List.length_cons]
        omega
      have hindex : (Jvm.getAt (pre ++ pfx :: rest) (Int32.ofNat pre.length) :
          Except (Jvm.Throwable ε) UInt8) = .ok pfx :=
        Jvm.getAt_append (i := 0) (by omega)
      have hnext : Int32.ofNat pre.length + 1 + Int32.ofNat (operandSize pfx) =
          Int32.ofNat (pre.length + 1 + operandSize pfx) := by
        rw [(position_succ pre.length).1, ← Int32.ofNat_add]
      have hin : Int32.ofNat pre.length < Jvm.size (pre ++ pfx :: rest) := by
        rw [Jvm.size, htotal, Jvm.ofNat_lt_iff (by omega) (by omega)]
        omega
      -- behind a cut-off item the position may overflow, and then the check passes
      have hcheck : Jvm.size (pre ++ pfx :: rest) < Int32.ofNat (pre.length + 1 + operandSize pfx) ↔
          ¬ Overruns (pre ++ pfx :: rest).length (pfx :: rest) := by
        rw [Overruns, htotal, Jvm.size, htotal]
        by_cases hbig : 2 ^ 31 ≤ pre.length + 1 + operandSize pfx
        · rw [Int32.lt_iff_toInt_lt, Jvm.toInt_ofNat_of_le hbig (by omega),
            Int32.toInt_ofNat_of_lt (by omega)]
          omega
        · rw [Jvm.ofNat_lt_iff (by omega) (by omega)]
          omega
      rw [classifyDescriptorRound, if_pos hin, hindex, ok_bind]
      simp only [size_eq, hnext]
      by_cases hover : Overruns (pre ++ pfx :: rest).length (pfx :: rest)
      · rw [if_neg (mt hcheck.1 (not_not.2 hover)), itemData_cut pre hcut hlt, error_bind,
          if_pos hover]
      · rw [if_pos (hcheck.2 hover), if_neg hover, pure_eq_ok]

theorem kindOfData_ofNat {n : ℕ} (hn : n < 2 ^ 32) : kindOfData (Int32.ofNat n) = kindOf n := by
  have heq (k : ℕ) (hk : k < 2 ^ 32) : Int32.ofNat n = Int32.ofNat k ↔ n = k := Jvm.ofNat_inj hn hk
  have h₂ : Int32.ofNat n = 0x02 ↔ n = 2 := heq 2 (by decide)
  have h₄ : Int32.ofNat n = 0x04 ↔ n = 4 := heq 4 (by decide)
  have h₅ : Int32.ofNat n = 0x05 ↔ n = 5 := heq 5 (by decide)
  have h₆ : Int32.ofNat n = 0x06 ↔ n = 6 := heq 6 (by decide)
  rw [kindOfData, kindOf]
  simp only [h₂, h₄, h₅, h₆]

theorem usagePage_one {p : ℕ} (hp : p < 2 ^ 32) :
    some (Int32.ofNat p) = some 0x01 ↔ isOne p = true := by
  have hone : Int32.ofNat p = 0x01 ↔ p = 1 := Jvm.ofNat_inj (m := 1) hp (by decide)
  rw [Option.some.injEq, hone, isOne, decide_eq_true_eq]

/-- What the sender makes of what is found, for an array of the size `total` with the tail `b`. -/
def verdict (total : ℕ) (b : List UInt8) : Option Found → Except (Jvm.Throwable ε) Kind
  | some f => .ok (kindOf f.usage)
  | none => if Overruns total b then .error .indexOutOfBounds else .ok .other

/-- **What the sender's walk comes to**: the first usage on page 1. -/
theorem classifyDescriptor_loop (b : List UInt8) :
    ∀ (pre : List UInt8) (page : Option ℕ) (fuel : ℕ), (pre ++ b).length < 2 ^ 31 →
      (∀ p, page = some p → p < 2 ^ 32) → b.length < fuel →
      whileLoop (classifyDescriptorRound (ε := ε) (pre ++ b)) fuel
          (page.map Int32.ofNat, Int32.ofNat pre.length) =
        some (verdict (pre ++ b).length (tail b) (firstUsage isOne page (items b))) := by
  -- item by item, as for the receiver; the page stays a word of 32 bits
  induction b using ShortItems.induction with
  | cut b h =>
      intro pre page fuel hlt hpage hfuel
      obtain ⟨fuel, rfl⟩ := Nat.exists_eq_succ_of_ne_zero (Nat.ne_of_gt (Nat.zero_lt_of_lt hfuel))
      have hround := classifyDescriptorRound_tail (ε := ε) pre h (page.map Int32.ofNat) hlt
      rw [(items_nil h).1, (items_nil h).2, firstUsage, verdict]
      by_cases hover : Overruns (pre ++ b).length b
      · rw [if_pos hover] at hround ⊢
        exact whileLoop_error hround
      · rw [if_neg hover] at hround ⊢
        exact whileLoop_inr hround
  | item item rest ih =>
      intro pre page fuel hlt hpage hfuel
      obtain ⟨fuel, rfl⟩ := Nat.exists_eq_succ_of_ne_zero (Nat.ne_of_gt (Nat.zero_lt_of_lt hfuel))
      have hrest : rest.length < fuel := by
        rw [List.length_append, Item.bytes, List.length_cons] at hfuel
        omega
      have hround := classifyDescriptorRound_item (ε := ε) pre rest item (page.map Int32.ofNat) hlt
      have hnext (page' : Option ℕ) (hpage' : ∀ p, page' = some p → p < 2 ^ 32) :=
        ih (pre ++ item.bytes) page' fuel (by rwa [List.append_assoc]) hpage' hrest
      simp only [List.append_assoc] at hnext
      rw [(items_cons item rest).1, (items_cons item rest).2]
      by_cases htag : item.tag = 0x04
      · rw [if_pos htag] at hround
        rw [whileLoop_inl hround, firstUsage_page htag]
        refine hnext (some item.value) fun p hp => ?_
        cases hp
        exact item.value_lt
      rw [if_neg htag] at hround
      by_cases husage : item.tag = 0x08
      · cases page with
        | none =>
            rw [if_neg (by simp)] at hround
            rw [whileLoop_inl hround, firstUsage_usage_none husage]
            exact hnext none hpage
        | some p =>
            have hone := usagePage_one (hpage p rfl)
            rw [Option.map_some] at hround
            by_cases hp : isOne p = true
            · rw [if_pos ⟨husage, hone.2 hp⟩, kindOfData_ofNat item.value_lt] at hround
              rw [Option.map_some, whileLoop_inr hround, firstUsage_usage_on husage hp]
              rfl
            · rw [if_neg fun hand => hp (hone.1 hand.2)] at hround
              rw [Option.map_some, whileLoop_inl hround, firstUsage_usage_off husage hp]
              exact hnext (some p) hpage
      · rw [if_neg fun hand => husage hand.1] at hround
        rw [whileLoop_inl hround, firstUsage_other htag husage]
        exact hnext page hpage

/-- The sender's kind of a descriptor. -/
theorem classifyDescriptor_eq {desc : List UInt8} (hlt : desc.length < 2 ^ 31) {fuel : ℕ}
    (hfuel : desc.length < fuel) :
    (classifyDescriptor fuel desc : Option (Except (Jvm.Throwable ε) Kind)) =
      some (verdict desc.length (tail desc) (firstUsage isOne none (items desc))) :=
  classifyDescriptor_loop desc [] none fuel hlt nofun hfuel

/-! ### The two compared -/

/-- **The two sides classify a descriptor alike**: both walks end, and with the same kind. -/
def ClassifiedAlike (desc : List UInt8) : Prop :=
  ∃ kind, ∀ fuel, desc.length < fuel →
    (classify fuel desc : Option (Except (Fault Empty) Kind)) = some (.ok kind) ∧
    (classifyDescriptor fuel desc : Option (Except (Jvm.Throwable Empty) Kind)) = some (.ok kind)

/-- What the sender makes of the items behind a usage `f` that is not on page 1 agrees with what the
receiver makes of `f`. -/
def RestAlike (desc : List UInt8) (f : Found) : Option Found → Prop
  | some g => kindOf g.usage = kindOf (f.usage % 2 ^ 8)
  | none => kindOf (f.usage % 2 ^ 8) = .other ∧ ¬ Overruns desc.length (tail desc)

/-- What the receiver finds says the same to the sender. -/
def FoundAlike (desc : List UInt8) : Option Found → Prop
  | some f =>
      if f.page = 1 then f.usage < 2 ^ 8 ∨ kindOf (f.usage % 2 ^ 8) = .other
      else RestAlike desc f (firstUsage isOne (some f.page) f.rest)
  | none => ¬ Overruns desc.length (tail desc)

/-- **Operands of which the low byte says as much as the whole.**  The first usage on a page whose
low byte is 1 is on page 1 itself, and its own value is below 256, or its low byte that of no kind;
or the page is another one, and the first usage behind it on page 1, or its absence, happens to give
the same kind.  If there is no such usage, the walk to the end must not overrun the sender's
positions. -/
def NarrowAlike (desc : List UInt8) : Prop :=
  FoundAlike desc (firstUsage lowByteOne none (items desc))

theorem lowByteOne_of_isOne (p : ℕ) (h : isOne p = true) : lowByteOne p = true := by
  rw [isOne, decide_eq_true_eq] at h
  rw [h]
  rfl

theorem kindOf_of_le {n : ℕ} (h : 2 ^ 8 ≤ n) : kindOf n = .other := by
  rw [kindOf, if_neg (by omega), if_neg (by omega), if_neg (by omega)]

/-- The kinds of a usage by its low byte and by the whole are the same for small values, and for
those of which the low byte is that of no kind. -/
theorem kindOf_mod_iff (n : ℕ) :
    kindOf n = kindOf (n % 2 ^ 8) ↔ n < 2 ^ 8 ∨ kindOf (n % 2 ^ 8) = .other := by
  by_cases hn : n < 2 ^ 8
  · rw [Nat.mod_eq_of_lt hn]
    exact ⟨fun _ => Or.inl hn, fun _ => rfl⟩
  · rw [kindOf_of_le (Nat.not_lt.1 hn), or_iff_right hn]
    exact eq_comm

/-- What is found comes to the same kind on both sides. -/
theorem verdict_eq_iff (desc : List UInt8) :
    (verdict desc.length (tail desc) (firstUsage isOne none (items desc)) :
        Except (Jvm.Throwable Empty) Kind) =
      .ok (kindByLowByte (firstUsage lowByteOne none (items desc))) ↔ NarrowAlike desc := by
  rw [NarrowAlike]
  rcases hlow : firstUsage lowByteOne none (items desc) with _ | f
  · rw [firstUsage_none_mono lowByteOne_of_isOne hlow, verdict, FoundAlike, kindByLowByte]
    split_ifs with hover
    · exact ⟨nofun, fun h => absurd hover h⟩
    · exact ⟨fun _ => hover, fun _ => rfl⟩
  · have hone : isOne f.page = true ↔ f.page = 1 := by rw [isOne, decide_eq_true_eq]
    rw [firstUsage_mono lowByteOne_of_isOne hlow, FoundAlike, kindByLowByte]
    by_cases hpage : f.page = 1
    · rw [if_pos (hone.2 hpage), if_pos hpage, verdict, Except.ok.injEq]
      exact kindOf_mod_iff f.usage
    · rw [if_neg (mt hone.1 hpage), if_neg hpage]
      rcases firstUsage isOne (some f.page) f.rest with _ | g
      · rw [verdict, RestAlike]
        split_ifs with hover
        · exact ⟨nofun, fun h => absurd hover h.2⟩
        · rw [Except.ok.injEq]
          exact ⟨fun h => ⟨h.symm, hover⟩, fun h => h.1.symm⟩
      · rw [verdict, RestAlike, Except.ok.injEq]

/-- **When the two sides classify a descriptor alike.** -/
theorem classified_alike_iff {desc : List UInt8} (hlt : desc.length < 2 ^ 31) :
    ClassifiedAlike desc ↔ NarrowAlike desc := by
  rw [← verdict_eq_iff]
  constructor
  · rintro ⟨kind, h⟩
    obtain ⟨hrust, hkotlin⟩ := h (desc.length + 1) (Nat.lt_succ_self _)
    rw [classify_eq desc (Nat.lt_succ_self _), Option.some.injEq, Except.ok.injEq] at hrust
    rw [classifyDescriptor_eq hlt (Nat.lt_succ_self _), Option.some.injEq] at hkotlin
    rw [hkotlin, hrust]
  · intro h
    refine ⟨_, fun fuel hfuel => ⟨classify_eq desc hfuel, ?_⟩⟩
    rw [classifyDescriptor_eq hlt hfuel, h]

/-- The descriptor of a boot keyboard. -/
def keyboardDescriptor : List UInt8 := [0x05, 0x01, 0x09, 0x06, 0xA1, 0x01, 0xC0]

/-- Both sides take it for a keyboard. -/
theorem classified_alike_keyboard : ClassifiedAlike keyboardDescriptor := by
  refine (classified_alike_iff (by decide)).2 ?_
  exact Or.inl (by decide)

/-- A usage of the vendor page 0x0101, with a two-byte operand. -/
def vendorDescriptor : List UInt8 := [0x06, 0x01, 0x01, 0x09, 0x02]

/-- The receiver takes it for a mouse, the sender for none. -/
theorem vendorDescriptor_not_alike : ¬ ClassifiedAlike vendorDescriptor := by
  rintro ⟨kind, h⟩
  obtain ⟨hrust, hkotlin⟩ := h 6 (by decide)
  have hmouse : (classify 6 vendorDescriptor : Option (Except (Fault Empty) Kind)) =
    some (.ok .mouse) := rfl
  have hother : (classifyDescriptor 6 vendorDescriptor :
    Option (Except (Jvm.Throwable Empty) Kind)) = some (.ok .other) := by decide
  rw [hmouse] at hrust
  rw [hother] at hkotlin
  cases hrust
  cases hkotlin

end Zerowire.HidDescriptor

/-
**Short items.**

A report descriptor is a string of short items.  An item starts with a prefix byte: its low two bits
give the number of operand bytes, 0, 1, 2 or 4, and the other six are the tag.  The operand bytes
follow, the least significant one first.  A descriptor may be cut off inside an item, so that a byte
string is a sequence of items and a tail in which no item is complete; the two are determined by the
string.

Main definitions:

* `ShortItems.Item`, `ShortItems.Item.value` — a short item, and the number its operands stand for;
* `ShortItems.parse` — one item off the front of a byte string;
* `ShortItems.items`, `ShortItems.tail` — the items of a byte string, and what is left;
* `ShortItems.Incomplete` — bytes in which no item is complete;
* `ShortItems.firstUsage` — the first usage on a page of interest;
* `ShortItems.Decides` — the same, said of the item and those before it.

Main results:

* `ShortItems.codec` — items are read back, whatever follows them;
* `ShortItems.items_tail`, `ShortItems.items_unique` — **a byte string is its items and its tail**,
  and there is no other way to take it apart;
* `ShortItems.firstUsage_mono` — a usage that is found on fewer pages is found no earlier;
* `ShortItems.exists_decides`, `ShortItems.not_decides` — the first usage is the item that decides.
-/

import Zerowire.StreamCodec

set_option relaxedAutoImplicit false
set_option autoImplicit false

namespace ShortItems

/-! ### Items -/

/-- The number of operand bytes that a prefix byte announces. -/
def operandSize (pfx : UInt8) : ℕ :=
  if pfx &&& 0x03 = 0 then 0 else if pfx &&& 0x03 = 1 then 1 else if pfx &&& 0x03 = 2 then 2 else 4

/-- The number that bytes stand for, the least significant one first. -/
def leNat : List UInt8 → ℕ
  | [] => 0
  | b :: bs => b.toNat + 2 ^ 8 * leNat bs

/-- **A short item.** -/
structure Item where
  pfx : UInt8
  operands : List UInt8
  length_operands : operands.length = operandSize pfx
  deriving DecidableEq

namespace Item

/-- The tag of an item, with the type bits. -/
def tag (item : Item) : UInt8 := item.pfx &&& 0xFC

/-- The number that the operands stand for. -/
def value (item : Item) : ℕ := leNat item.operands

/-- The bytes of an item. -/
def bytes (item : Item) : List UInt8 := item.pfx :: item.operands

end Item

theorem operandSize_le (pfx : UInt8) : operandSize pfx ≤ 4 := by
  rw [operandSize]
  split_ifs <;> omega

theorem operandSize_cases (pfx : UInt8) :
    operandSize pfx = 0 ∨ operandSize pfx = 1 ∨ operandSize pfx = 2 ∨ operandSize pfx = 4 := by
  rw [operandSize]
  split_ifs <;> simp

theorem leNat_lt (bs : List UInt8) : leNat bs < 2 ^ (8 * bs.length) := by
  induction bs with
  | nil => exact Nat.one_pos
  | cons b bs ih =>
      have hb := b.toNat_lt
      rw [leNat, List.length_cons, Nat.mul_succ, Nat.add_comm (8 * bs.length), Nat.pow_add]
      omega

/-- A value takes at most 32 bits. -/
theorem Item.value_lt (item : Item) : item.value < 2 ^ 32 := by
  have hlt := leNat_lt item.operands
  have hle : 8 * item.operands.length ≤ 32 := by
    have := operandSize_le item.pfx
    rw [item.length_operands]
    omega
  exact Nat.lt_of_lt_of_le hlt (Nat.pow_le_pow_right (by decide) hle)

/-! ### The items of a byte string -/

/-- One item off the front of a byte string, if one is complete. -/
def parse : StreamCodec.Parser Item UInt8 Empty
  | [] => .ok none
  | pfx :: rest =>
      if h : operandSize pfx ≤ rest.length then
        .ok (some (⟨pfx, rest.take (operandSize pfx), List.length_take_of_le h⟩,
          1 + operandSize pfx))
      else .ok none

/-- **The items of a byte string.** -/
def items (desc : List UInt8) : List Item := StreamCodec.frames parse desc

/-- **What is left of a byte string** behind its items. -/
def tail (desc : List UInt8) : List UInt8 := (StreamCodec.drainAll parse desc).2.1

theorem parse_cons_of_le {pfx : UInt8} {rest : List UInt8} (h : operandSize pfx ≤ rest.length) :
    parse (pfx :: rest) =
      .ok (some (⟨pfx, rest.take (operandSize pfx), List.length_take_of_le h⟩,
        1 + operandSize pfx)) := by
  rw [parse, dif_pos h]

theorem parse_cons_of_lt {pfx : UInt8} {rest : List UInt8} (h : rest.length < operandSize pfx) :
    parse (pfx :: rest) = .ok none := by
  rw [parse, dif_neg (Nat.not_le.2 h)]

/-- What a complete item looks like. -/
theorem eq_of_parse {b : List UInt8} {item : Item} {n : ℕ} (h : parse b = .ok (some (item, n))) :
    n = item.bytes.length ∧ ∃ rest, b = item.bytes ++ rest := by
  cases b with
  | nil => cases h
  | cons pfx rest =>
      by_cases hle : operandSize pfx ≤ rest.length
      swap
      · rw [parse_cons_of_lt (Nat.not_le.1 hle)] at h
        cases h
      rw [parse_cons_of_le hle] at h
      cases h
      refine ⟨?_, rest.drop (operandSize pfx), ?_⟩
      · rw [Item.bytes, List.length_cons, List.length_take_of_le hle, Nat.add_comm]
      · rw [Item.bytes, List.cons_append, List.take_append_drop]

/-- An item is read back, whatever follows it. -/
theorem parse_bytes (item : Item) (rest : List UInt8) :
    parse (item.bytes ++ rest) = .ok (some (item, item.bytes.length)) := by
  obtain ⟨pfx, operands, hlen⟩ := item
  have hle : operandSize pfx ≤ (operands ++ rest).length := by
    rw [List.length_append, hlen]
    exact Nat.le_add_right _ _
  have htake : (operands ++ rest).take (operandSize pfx) = operands := by
    rw [← hlen, List.take_left]
  rw [Item.bytes, List.cons_append, parse_cons_of_le hle]
  simp only [htake, List.length_cons, hlen, Nat.add_comm]

/-- **Items are read back, whatever follows them.** -/
theorem codec : StreamCodec.Codec parse Item.bytes fun _ => True where
  nil := rfl
  pos h := by
    rw [(eq_of_parse h).1, Item.bytes, List.length_cons]
    exact Nat.succ_pos _
  le h := by
    obtain ⟨rfl, rest, rfl⟩ := eq_of_parse h
    rw [List.length_append]
    exact Nat.le_add_right _ _
  frame {b r} x h := by
    obtain ⟨item, n⟩ := r
    obtain ⟨rfl, rest, rfl⟩ := eq_of_parse h
    rw [List.append_assoc]
    exact parse_bytes item _
  fault {b e} _ _ := e.elim
  round s _ := parse_bytes _ s

/-- The items and the tail of a byte string that starts with an item. -/
theorem items_cons (item : Item) (rest : List UInt8) :
    items (item.bytes ++ rest) = item :: items rest ∧ tail (item.bytes ++ rest) = tail rest := by
  have hparse := parse_bytes item rest
  rw [items, StreamCodec.frames, tail, StreamCodec.drainAll_eq codec.toStable, hparse]
  simp only [List.drop_left]
  exact ⟨rfl, rfl⟩

/-- The items and the tail of a byte string in which no item is complete. -/
theorem items_nil {desc : List UInt8} (h : parse desc = .ok none) :
    items desc = [] ∧ tail desc = desc := by
  rw [items, StreamCodec.frames, tail, StreamCodec.drainAll_eq codec.toStable, h]
  exact ⟨rfl, rfl⟩

/-- **Induction over the items of a byte string.** -/
theorem induction {motive : List UInt8 → Prop} (cut : ∀ desc, parse desc = .ok none → motive desc)
    (item : ∀ (item : Item) (rest : List UInt8), motive rest → motive (item.bytes ++ rest))
    (desc : List UInt8) : motive desc := by
  induction hn : desc.length using Nat.strongRecOn generalizing desc with
  | _ n ih =>
      rcases h : parse desc with e | _ | ⟨i, k⟩
      · exact e.elim
      · exact cut desc h
      · obtain ⟨-, rest, rfl⟩ := eq_of_parse h
        refine item i rest (ih rest.length ?_ rest rfl)
        rw [← hn, List.length_append, Item.bytes, List.length_cons]
        omega

/-- **A byte string is its items and its tail.** -/
theorem items_tail (desc : List UInt8) : desc = (items desc).flatMap Item.bytes ++ tail desc := by
  induction desc using ShortItems.induction with
  | cut desc h =>
      obtain ⟨hitems, htail⟩ := items_nil h
      rw [hitems, htail, List.flatMap_nil, List.nil_append]
  | item item rest ih =>
      obtain ⟨hitems, htail⟩ := items_cons item rest
      rw [hitems, htail, List.flatMap_cons, List.append_assoc, ← ih]

/-- **No item is complete**: there is nothing, or a prefix with too few operand bytes. -/
def Incomplete : List UInt8 → Prop
  | [] => True
  | pfx :: rest => rest.length < operandSize pfx

theorem parse_eq_none_iff {b : List UInt8} : parse b = .ok none ↔ Incomplete b := by
  cases b with
  | nil => exact iff_of_true rfl trivial
  | cons pfx rest =>
      by_cases h : operandSize pfx ≤ rest.length
      · rw [parse_cons_of_le h]
        exact iff_of_false nofun (Nat.not_lt.2 h)
      · have hlt := Nat.not_le.1 h
        exact iff_of_true (parse_cons_of_lt hlt) hlt

theorem incomplete_tail (desc : List UInt8) : Incomplete (tail desc) := by
  induction desc using ShortItems.induction with
  | cut desc h =>
      rw [(items_nil h).2]
      exact parse_eq_none_iff.1 h
  | item item rest ih =>
      rw [(items_cons item rest).2]
      exact ih

theorem items_append (its : List Item) (rest : List UInt8) :
    items (its.flatMap Item.bytes ++ rest) = its ++ items rest :=
  codec.frames_append (fun _ _ => trivial) rest

/-- **There is no other way** to take a byte string apart into items and a tail. -/
theorem items_unique {its : List Item} {t : List UInt8} (h : Incomplete t) :
    items (its.flatMap Item.bytes ++ t) = its ∧ tail (its.flatMap Item.bytes ++ t) = t := by
  have hitems : items (its.flatMap Item.bytes ++ t) = its := by
    rw [items_append, (items_nil (parse_eq_none_iff.2 h)).1, List.append_nil]
  refine ⟨hitems, ?_⟩
  have htail := items_tail (its.flatMap Item.bytes ++ t)
  rw [hitems] at htail
  exact (List.append_cancel_left htail).symm

/-- Bytes that are appended come behind the items that were there. -/
theorem items_extends (desc x : List UInt8) : items desc <+: items (desc ++ x) := by
  refine ⟨items (tail desc ++ x), ?_⟩
  rw [← items_append, ← List.append_assoc, ← items_tail]

/-! ### Usages -/

/-- A usage that is found: the value of the usage page in force, its own, and the items behind
it. -/
structure Found where
  page : ℕ
  usage : ℕ
  rest : List Item

/-- **The first usage on a page of interest**, where `page` is the usage page in force at the start.
A usage page has the tag 0x04, and a usage 0x08. -/
def firstUsage (onPage : ℕ → Bool) : Option ℕ → List Item → Option Found
  | _, [] => none
  | page, item :: items =>
      if item.tag = 0x04 then firstUsage onPage (some item.value) items
      else if item.tag = 0x08 then
        match page.filter onPage with
        | some p => some ⟨p, item.value, items⟩
        | none => firstUsage onPage page items
      else firstUsage onPage page items

section Usages

variable {onPage onPage' : ℕ → Bool} {page : Option ℕ} {item : Item} {items : List Item}

theorem firstUsage_page (h : item.tag = 0x04) :
    firstUsage onPage page (item :: items) = firstUsage onPage (some item.value) items := by
  rw [firstUsage, if_pos h]

theorem firstUsage_usage_on {p : ℕ} (h : item.tag = 0x08) (hp : onPage p = true) :
    firstUsage onPage (some p) (item :: items) = some ⟨p, item.value, items⟩ := by
  have hne : ¬ item.tag = 0x04 := by
    rw [h]
    decide
  rw [firstUsage, if_neg hne, if_pos h, Option.filter_some_pos hp]

theorem firstUsage_usage_off {p : ℕ} (h : item.tag = 0x08) (hp : ¬ onPage p = true) :
    firstUsage onPage (some p) (item :: items) = firstUsage onPage (some p) items := by
  have hne : ¬ item.tag = 0x04 := by
    rw [h]
    decide
  rw [firstUsage, if_neg hne, if_pos h, Option.filter_some_neg (by simpa using hp)]

theorem firstUsage_usage_none (h : item.tag = 0x08) :
    firstUsage onPage none (item :: items) = firstUsage onPage none items := by
  have hne : ¬ item.tag = 0x04 := by
    rw [h]
    decide
  rw [firstUsage, if_neg hne, if_pos h, Option.filter_none]

theorem firstUsage_other (h : item.tag ≠ 0x04) (h' : item.tag ≠ 0x08) :
    firstUsage onPage page (item :: items) = firstUsage onPage page items := by
  rw [firstUsage, if_neg h, if_neg h']

/-- Where no usage is found, there is none on fewer pages either. -/
theorem firstUsage_none_mono (hle : ∀ p, onPage p = true → onPage' p = true)
    (h : firstUsage onPage' page items = none) : firstUsage onPage page items = none := by
  induction items generalizing page with
  | nil => rfl
  | cons item items ih =>
      by_cases hpage : item.tag = 0x04
      · rw [firstUsage_page hpage] at h ⊢
        exact ih h
      by_cases husage : item.tag = 0x08
      · cases page with
        | none =>
            rw [firstUsage_usage_none husage] at h ⊢
            exact ih h
        | some p =>
            have hoff' : onPage' p ≠ true := by
              intro hp
              rw [firstUsage_usage_on husage hp] at h
              cases h
            rw [firstUsage_usage_off husage hoff'] at h
            rw [firstUsage_usage_off husage fun hp => hoff' (hle p hp)]
            exact ih h
      · rw [firstUsage_other hpage husage] at h ⊢
        exact ih h

/-- **A usage that is found on fewer pages is found no earlier**: if its page is one of the fewer,
it is the usage that is found first on more, and otherwise it is among the items behind that. -/
theorem firstUsage_mono (hle : ∀ p, onPage p = true → onPage' p = true) {f : Found}
    (h : firstUsage onPage' page items = some f) :
    firstUsage onPage page items =
      if onPage f.page = true then some f else firstUsage onPage (some f.page) f.rest := by
  induction items generalizing page with
  | nil => cases h
  | cons item items ih =>
      -- a page changes what is in force, a usage may be found, anything else is passed over
      by_cases hpage : item.tag = 0x04
      · rw [firstUsage_page hpage] at h ⊢
        exact ih h
      by_cases husage : item.tag = 0x08
      · cases page with
        | none =>
            rw [firstUsage_usage_none husage] at h ⊢
            exact ih h
        | some p =>
            by_cases hp' : onPage' p = true
            · rw [firstUsage_usage_on husage hp'] at h
              cases h
              by_cases hp : onPage p = true
              · rw [firstUsage_usage_on husage hp, if_pos hp]
              · rw [firstUsage_usage_off husage hp, if_neg hp]
            · rw [firstUsage_usage_off husage hp'] at h
              rw [firstUsage_usage_off husage fun hp => hp' (hle p hp)]
              exact ih h
      · rw [firstUsage_other hpage husage] at h ⊢
        exact ih h

end Usages

/-! ### The item that decides -/

/-- The usage page in force behind some items, where `page` is the one in force before them: the
value of the last item with the tag 0x04. -/
def pageBehind (page : Option ℕ) (its : List Item) : Option ℕ :=
  ((its.reverse.find? fun item => item.tag = 0x04).map Item.value).or page

/-- An item is a usage that stands on a page of interest. -/
def OnPage (onPage : ℕ → Bool) (page : Option ℕ) (item : Item) : Prop :=
  item.tag = 0x08 ∧ ∃ p, page = some p ∧ onPage p = true

/-- **The item that decides**: it is a usage on a page of interest, and none before it is. -/
def Decides (onPage : ℕ → Bool) (page : Option ℕ) (its : List Item) (item : Item) : Prop :=
  ∃ before behind, its = before ++ item :: behind ∧ OnPage onPage (pageBehind page before) item ∧
    ∀ before' item' behind', before = before' ++ item' :: behind' →
      ¬ OnPage onPage (pageBehind page before') item'

section Decides

variable {onPage : ℕ → Bool} {page : Option ℕ} {item item' : Item} {its its' : List Item}

@[simp] theorem pageBehind_nil : pageBehind page [] = page := rfl

theorem pageBehind_cons :
    pageBehind page (item :: its) =
      pageBehind (if item.tag = 0x04 then some item.value else page) its := by
  rw [pageBehind, pageBehind, List.reverse_cons, List.find?_append, Option.map_or, Option.or_assoc]
  by_cases h : item.tag = 0x04
  · rw [if_pos h, List.find?_singleton, if_pos (by simpa using h)]
    rfl
  · rw [if_neg h, List.find?_singleton, if_neg (by simpa using h)]
    rfl

/-- An item that decides does so whatever comes behind. -/
theorem Decides.append (h : Decides onPage page its item) (hle : its <+: its') :
    Decides onPage page its' item := by
  obtain ⟨before, behind, rfl, hon, hnone⟩ := h
  obtain ⟨more, rfl⟩ := hle
  exact ⟨before, behind ++ more, by simp, hon, hnone⟩

/-- The first item decides. -/
theorem decides_cons_of_onPage (h : OnPage onPage page item) :
    Decides onPage page (item :: its) item' ↔ item' = item := by
  constructor
  · rintro ⟨before, behind, heq, hon, hnone⟩
    cases before with
    | nil => exact (List.cons.inj heq).1.symm
    | cons first before =>
        obtain rfl : item = first := (List.cons.inj heq).1
        exact absurd h (hnone [] item before rfl)
  · rintro rfl
    exact ⟨[], its, rfl, h, by simp⟩

/-- The first item does not decide. -/
theorem decides_cons_of_not (h : ¬ OnPage onPage page item) :
    Decides onPage page (item :: its) item' ↔
      Decides onPage (if item.tag = 0x04 then some item.value else page) its item' := by
  constructor
  · rintro ⟨before, behind, heq, hon, hnone⟩
    cases before with
    | nil =>
        obtain rfl : item = item' := (List.cons.inj heq).1
        exact absurd hon h
    | cons first before =>
        obtain ⟨rfl, rfl⟩ := List.cons.inj heq
        rw [pageBehind_cons] at hon
        refine ⟨before, behind, rfl, hon, fun before' other behind' hsplit => ?_⟩
        have hother := hnone (item :: before') other behind' (by rw [hsplit]; rfl)
        rwa [pageBehind_cons] at hother
  · rintro ⟨before, behind, rfl, hon, hnone⟩
    refine ⟨item :: before, behind, rfl, by rwa [pageBehind_cons],
      fun before' other behind' hsplit => ?_⟩
    cases before' with
    | nil =>
        obtain rfl : item = other := (List.cons.inj hsplit).1
        exact h
    | cons first before' =>
        obtain ⟨rfl, hrest⟩ := List.cons.inj hsplit
        rw [pageBehind_cons]
        exact hnone before' other behind' hrest

theorem firstUsage_cons_of_onPage (its : List Item) (h : OnPage onPage page item) :
    ∃ f, firstUsage onPage page (item :: its) = some f ∧ f.usage = item.value := by
  obtain ⟨htag, p, rfl, hp⟩ := h
  exact ⟨_, firstUsage_usage_on htag hp, rfl⟩

theorem firstUsage_cons_of_not (h : ¬ OnPage onPage page item) :
    firstUsage onPage page (item :: its) =
      firstUsage onPage (if item.tag = 0x04 then some item.value else page) its := by
  by_cases hpage : item.tag = 0x04
  · rw [if_pos hpage, firstUsage_page hpage]
  rw [if_neg hpage]
  by_cases husage : item.tag = 0x08
  · cases page with
    | none => exact firstUsage_usage_none husage
    | some p => exact firstUsage_usage_off husage fun hp => h ⟨husage, p, rfl, hp⟩
  · exact firstUsage_other hpage husage

/-- **The first usage on a page of interest is the item that decides.** -/
theorem exists_decides {f : Found} (h : firstUsage onPage page its = some f) :
    ∃ item, f.usage = item.value ∧ ∀ item', Decides onPage page its item' ↔ item' = item := by
  induction its generalizing page with
  | nil => cases h
  | cons first its ih =>
      by_cases hon : OnPage onPage page first
      · obtain ⟨f', hf', husage⟩ := firstUsage_cons_of_onPage its hon
        obtain rfl : f = f' := Option.some.inj (h.symm.trans hf')
        exact ⟨first, husage, fun item' => decides_cons_of_onPage hon⟩
      · rw [firstUsage_cons_of_not hon] at h
        obtain ⟨item, husage, hiff⟩ := ih h
        exact ⟨item, husage, fun item' => (decides_cons_of_not hon).trans (hiff item')⟩

/-- Where there is no such usage, no item decides. -/
theorem not_decides (h : firstUsage onPage page its = none) : ¬ Decides onPage page its item := by
  induction its generalizing page with
  | nil =>
      rintro ⟨before, behind, heq, -⟩
      exact absurd heq.symm (by simp)
  | cons first its ih =>
      by_cases hon : OnPage onPage page first
      · obtain ⟨f, hf, -⟩ := firstUsage_cons_of_onPage its hon
        exact absurd (h.symm.trans hf) nofun
      · rw [firstUsage_cons_of_not hon] at h
        rw [decides_cons_of_not hon]
        exact ih h

end Decides

end ShortItems

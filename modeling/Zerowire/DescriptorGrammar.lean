/-
**The walk of the sender and the grammar of items** (`HidEndpoint.kt`).

A byte string is a sequence of short items and a tail, in one way only.  `classifyDescriptor` keeps
an index and the usage page in force; here its result is said of the items: the first usage that
stands on the page 1 decides, whatever comes behind it.  Only a descriptor without such a usage is
read to its end, and there the index can run over the `Int`s, if the array is within four bytes of
the largest there is.

Main definitions:

* `Zerowire.HidDescriptor.Classifies` — the kind that items stand for;
* `Zerowire.HidDescriptor.WalksRight` — the walk ends, with the kind that the items stand for.

Main results:

* `Zerowire.HidDescriptor.walksRight_iff` — when the walk does;
* `Zerowire.HidDescriptor.classifyDescriptor_append` — bytes behind a decided result do not change
  it;
* `Zerowire.HidDescriptor.descriptor_grammar_iff` — **the walk and the items.**
-/

import Zerowire.HidDescriptor

set_option relaxedAutoImplicit false
set_option autoImplicit false

namespace Zerowire.HidDescriptor

open Bytes ShortItems

/-- **The kind that items stand for**: the one of the usage that decides, and otherwise `other`. -/
def Classifies (its : List Item) (kind : Kind) : Prop :=
  (∃ item, Decides isOne none its item ∧ kind = kindOf item.value) ∨
    (∀ item, ¬ Decides isOne none its item) ∧ kind = .other

/-- **The walk over an array is right**: it ends without an access out of bounds, and with the kind
that the items stand for. -/
def WalksRight (desc : List UInt8) (its : List Item) : Prop :=
  ∃ kind, Classifies its kind ∧ ∀ fuel, desc.length < fuel →
    (classifyDescriptor fuel desc : Option (Except (Jvm.Throwable Empty) Kind)) = some (.ok kind)

/-- What the walk comes to, by the item that decides. -/
theorem classifyDescriptor_of_decides {desc : List UInt8} (hlt : desc.length < 2 ^ 31) {item : Item}
    (h : Decides isOne none (items desc) item) {fuel : ℕ} (hfuel : desc.length < fuel) :
    (classifyDescriptor fuel desc : Option (Except (Jvm.Throwable Empty) Kind)) =
      some (.ok (kindOf item.value)) := by
  rw [classifyDescriptor_eq hlt hfuel]
  rcases hfound : firstUsage isOne none (items desc) with _ | f
  · exact absurd h (not_decides hfound)
  · obtain ⟨item', husage, hiff⟩ := exists_decides hfound
    rw [verdict, husage, (hiff item).1 h]

/-- What the walk comes to where no item decides. -/
theorem classifyDescriptor_of_not {desc : List UInt8} (hlt : desc.length < 2 ^ 31)
    (h : ∀ item, ¬ Decides isOne none (items desc) item) {fuel : ℕ} (hfuel : desc.length < fuel) :
    (classifyDescriptor fuel desc : Option (Except (Jvm.Throwable Empty) Kind)) =
      some (if Overruns desc.length (tail desc) then .error .indexOutOfBounds else .ok .other) := by
  rw [classifyDescriptor_eq hlt hfuel]
  rcases hfound : firstUsage isOne none (items desc) with _ | f
  · rw [verdict]
  · obtain ⟨item, -, hiff⟩ := exists_decides hfound
    exact absurd ((hiff item).2 rfl) (h item)

/-- **When the walk is right**: an item decides, or the index stays an `Int`. -/
theorem walksRight_iff {desc : List UInt8} (hlt : desc.length < 2 ^ 31) :
    WalksRight desc (items desc) ↔
      (∃ item, Decides isOne none (items desc) item) ∨ ¬ Overruns desc.length (tail desc) := by
  by_cases hdecided : ∃ item, Decides isOne none (items desc) item
  · obtain ⟨item, hitem⟩ := hdecided
    refine iff_of_true ⟨kindOf item.value, .inl ⟨item, hitem, rfl⟩, fun fuel hfuel => ?_⟩
      (.inl ⟨item, hitem⟩)
    exact classifyDescriptor_of_decides hlt hitem hfuel
  · have hnone : ∀ item, ¬ Decides isOne none (items desc) item := not_exists.1 hdecided
    have hwalk {fuel : ℕ} (hfuel : desc.length < fuel) := classifyDescriptor_of_not hlt hnone hfuel
    rw [or_iff_right hdecided]
    constructor
    · rintro ⟨kind, -, hkind⟩ hover
      have heq := (hkind _ (Nat.lt_succ_self _)).symm.trans (hwalk (Nat.lt_succ_self _))
      rw [if_pos hover] at heq
      exact absurd heq nofun
    · intro hover
      refine ⟨.other, .inr ⟨hnone, rfl⟩, fun fuel hfuel => ?_⟩
      rw [hwalk hfuel, if_neg hover]

/-- **Bytes behind a decided result do not change it.** -/
theorem classifyDescriptor_append {desc : List UInt8} {item : Item}
    (h : Decides isOne none (items desc) item) {x : List UInt8} (hlt : (desc ++ x).length < 2 ^ 31)
    {fuel : ℕ} (hfuel : (desc ++ x).length < fuel) :
    (classifyDescriptor fuel (desc ++ x) : Option (Except (Jvm.Throwable Empty) Kind)) =
      some (.ok (kindOf item.value)) :=
  classifyDescriptor_of_decides hlt (h.append (items_extends desc x)) hfuel

/-- **The walk and the items**: a byte string is items and a tail in one way only; the walk over it
is right exactly if an item decides or the index stays an `Int`; and if an item decides, it decides
whatever is appended. -/
theorem descriptor_grammar_iff (desc : List UInt8) :
    ∃ its t, desc = its.flatMap Item.bytes ++ t ∧ Incomplete t ∧
      (∀ its' t', desc = its'.flatMap Item.bytes ++ t' → Incomplete t' → its' = its ∧ t' = t) ∧
      (desc.length < 2 ^ 31 →
        (WalksRight desc its ↔
          (∃ item, Decides isOne none its item) ∨ ¬ Overruns desc.length t)) ∧
      ∀ item, Decides isOne none its item → ∀ x fuel, (desc ++ x).length < 2 ^ 31 →
        (desc ++ x).length < fuel →
        (classifyDescriptor fuel (desc ++ x) : Option (Except (Jvm.Throwable Empty) Kind)) =
          some (.ok (kindOf item.value)) := by
  refine ⟨items desc, tail desc, items_tail desc, incomplete_tail desc, ?_, walksRight_iff,
    fun item hitem x fuel hlt hfuel => classifyDescriptor_append hitem hlt hfuel⟩
  rintro its' t' rfl hcut
  obtain ⟨hitems, htail⟩ := items_unique hcut
  exact ⟨hitems.symm, htail.symm⟩

/-- Empty items, and behind them the prefix of an item with four operand bytes. -/
def cutOff (n : ℕ) : List UInt8 := List.replicate n 0 ++ [0x03]

/-- The items of such a descriptor decide nothing. -/
theorem cutOff_items (n : ℕ) :
    items (cutOff n) = List.replicate n ⟨0, [], rfl⟩ ∧ tail (cutOff n) = [0x03] := by
  have hbytes : (List.replicate n (⟨0, [], rfl⟩ : Item)).flatMap Item.bytes =
      List.replicate n 0 := by
    induction n with
    | zero => rfl
    | succ n ih =>
        rw [List.replicate_succ, List.flatMap_cons, ih]
        rfl
  rw [cutOff, ← hbytes]
  exact items_unique (by decide : (0 : ℕ) < 4)

/-- The largest array that is not too large for the virtual machine, cut off inside an item: the
walk leaves it. -/
theorem cutOff_leaves_array :
    (cutOff (2 ^ 31 - 5)).length < 2 ^ 31 ∧
      ¬ WalksRight (cutOff (2 ^ 31 - 5)) (items (cutOff (2 ^ 31 - 5))) := by
  have hlen (n : ℕ) : (cutOff n).length = n + 1 := by simp [cutOff]
  generalize hn : 2 ^ 31 - 5 = n
  have hlt : (cutOff n).length < 2 ^ 31 := by
    rw [hlen]
    omega
  refine ⟨hlt, fun hright => ?_⟩
  obtain ⟨hitems, htail⟩ := cutOff_items n
  rcases (walksRight_iff hlt).1 hright with ⟨item, before, behind, heq, ⟨husage, -⟩, -⟩ | hstays
  · have hmem : item ∈ items (cutOff n) := by simp [heq]
    rw [hitems] at hmem
    rw [List.eq_of_mem_replicate hmem] at husage
    exact absurd husage (by decide)
  · refine hstays ?_
    rw [htail, hlen, Overruns]
    have hsize : operandSize 0x03 = 4 := by decide
    rw [hsize, List.length_nil]
    omega

end Zerowire.HidDescriptor

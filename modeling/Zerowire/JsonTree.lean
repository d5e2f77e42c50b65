/-
**JSON values, and the records that are declared over them.**

The declaration of a record says which fields an object has to have and what their values are.  The
order of the fields is not part of it, nor are fields that it does not name; a field that may be
missing is as good as one that is `null`, and one that is there twice is an error.  Within another
value, a record may also be an array of its values.

So there are many values that are the same record.  They are those that *cover* the one that is
written for it: they say all that it says.

Main definitions:

* `JsonTree` — a JSON value whose numbers are integers;
* `JsonTree.once`, `JsonTree.required`, `JsonTree.optional` — the fields of an object;
* `JsonTree.Covered` — one value says all that another one says;
* `JsonTree.Schema`, `JsonTree.Record` — how values and records are written and read; each carries
  the proof that it reads what covers that which it writes.

Main results:

* `JsonTree.covered_obj_self` — what is written of a record covers itself;
* `JsonTree.Schema.required_eq_some`, `JsonTree.Schema.optional_eq_some` — what a field is read as.
-/

import Mathlib.Data.Int.Notation
import Mathlib.Data.Nat.Notation
import Mathlib.Tactic.SplitIfs

set_option relaxedAutoImplicit false
set_option autoImplicit false

/-- A JSON value.  A number is an integer. -/
inductive JsonTree where
  | null
  | bool (b : Bool)
  | num (n : ℤ)
  | str (s : String)
  | arr (vs : List JsonTree)
  | obj (fs : List (String × JsonTree))
  deriving Repr

namespace JsonTree

/-- The fields of an object, as they come. -/
abbrev Fields := List (String × JsonTree)

variable {α β : Type}

/-! ### The fields of an object -/

/-- What the fields of one name come to. -/
def theOnly : Fields → Option (Option JsonTree)
  | [] => some none
  | [f] => some (some f.2)
  | _ :: _ :: _ => none

/-- **The value of a field**, if there is one; a field that is there twice is an error. -/
def once (name : String) (fs : Fields) : Option (Option JsonTree) :=
  theOnly (fs.filter (·.1 = name))

/-- A field that has to be there. -/
def required (read : JsonTree → Option α) (name : String) (fs : Fields) : Option α :=
  match once name fs with
  | some (some v) => read v
  | some none => none
  | none => none

/-- A value that may be `null`. -/
def nullable (read : JsonTree → Option α) : JsonTree → Option (Option α)
  | .null => some none
  | v => (read v).map some

/-- A field that may be missing. -/
def optional (read : JsonTree → Option α) (name : String) (fs : Fields) : Option (Option α) :=
  match once name fs with
  | some (some v) => nullable read v
  | some none => some none
  | none => none

theorem once_cons_of_ne {name : String} {f : String × JsonTree} (h : f.1 ≠ name) (fs : Fields) :
    once name (f :: fs) = once name fs := by
  rw [once, List.filter_cons_of_neg (by simpa using h), once]

/-- A field that is there is found, if no two have the same name. -/
theorem once_of_mem {fs : Fields} (hnodup : (fs.map Prod.fst).Nodup)
    {f : String × JsonTree} (hf : f ∈ fs) :
    once f.1 fs = some (some f.2) := by
  induction fs with
  | nil => cases hf
  | cons g fs ih =>
      rw [List.map_cons, List.nodup_cons] at hnodup
      rcases List.mem_cons.1 hf with rfl | hf
      · have hnone : fs.filter (·.1 = f.1) = [] := by
          rw [List.filter_eq_nil_iff]
          intro g hg heq
          exact hnodup.1 (List.mem_map.2 ⟨g, hg, by simpa using heq⟩)
        rw [once, List.filter_cons_of_pos (by simp), hnone, theOnly]
      · have hne : g.1 ≠ f.1 := by
          intro heq
          exact hnodup.1 (List.mem_map.2 ⟨f, hf, heq.symm⟩)
        rw [once_cons_of_ne hne, ih hnodup.2 hf]

/-! ### Covering -/

/-- **The second value says all that the first one says.**  Its objects may have further fields, in
any order, and need not have those that are `null`; and they may be arrays of their values. -/
inductive Covered : JsonTree → JsonTree → Prop
  | null : Covered .null .null
  | bool (b : Bool) : Covered (.bool b) (.bool b)
  | num (n : ℤ) : Covered (.num n) (.num n)
  | str (s : String) : Covered (.str s) (.str s)
  | nil : Covered (.arr []) (.arr [])
  | cons {v v' : JsonTree} {vs vs' : List JsonTree} (h : Covered v v')
      (hs : Covered (.arr vs) (.arr vs')) : Covered (.arr (v :: vs)) (.arr (v' :: vs'))
  | empty (fs : Fields) : Covered (.obj []) (.obj fs)
  | field {name : String} {v v' : JsonTree} {fs fs' : Fields} (honce : once name fs' = some (some v'))
      (h : Covered v v') (hs : Covered (.obj fs) (.obj fs')) :
        Covered (.obj ((name, v) :: fs)) (.obj fs')
  | missing {name : String} {fs fs' : Fields} (honce : once name fs' = some none)
      (hs : Covered (.obj fs) (.obj fs')) : Covered (.obj ((name, .null) :: fs)) (.obj fs')
  | values {fs : Fields} {vs : List JsonTree} (h : Covered (.arr (fs.map Prod.snd)) (.arr vs)) :
      Covered (.obj fs) (.arr vs)

/-- A field is covered by those of an object. -/
def CoveredField (f : String × JsonTree) (fs : Fields) : Prop :=
  (∃ v, once f.1 fs = some (some v) ∧ Covered f.2 v) ∨ (once f.1 fs = some none ∧ f.2 = .null)

theorem covered_obj_cons {f : String × JsonTree} {fs fs' : Fields} :
    Covered (.obj (f :: fs)) (.obj fs') ↔ CoveredField f fs' ∧ Covered (.obj fs) (.obj fs') := by
  constructor
  · intro h
    cases h with
    | field honce h hs => exact ⟨.inl ⟨_, honce, h⟩, hs⟩
    | missing honce hs => exact ⟨.inr ⟨honce, rfl⟩, hs⟩
  · rintro ⟨⟨v, honce, h⟩ | ⟨honce, hnull⟩, hs⟩
    · exact .field honce h hs
    · obtain ⟨name, v⟩ := f
      obtain rfl : v = .null := hnull
      exact .missing honce hs

theorem covered_obj_iff {fs fs' : Fields} :
    Covered (.obj fs) (.obj fs') ↔ ∀ f ∈ fs, CoveredField f fs' := by
  induction fs with
  | nil => exact iff_of_true (.empty fs') (by simp)
  | cons f fs ih => rw [covered_obj_cons, ih, List.forall_mem_cons]

theorem covered_arr_cons {v : JsonTree} {vs ws : List JsonTree} :
    Covered (.arr (v :: vs)) (.arr ws) ↔ ∃ w ws', ws = w :: ws' ∧ Covered v w ∧ Covered (.arr vs)
    (.arr ws') := by
  constructor
  · intro h
    cases h with
    | cons h hs => exact ⟨_, _, rfl, h, hs⟩
  · rintro ⟨w, ws', rfl, h, hs⟩
    exact .cons h hs

/-- An array is covered by arrays. -/
theorem Covered.exists_arr {vs : List JsonTree} {v : JsonTree} (h : Covered (.arr vs) v) :
    ∃ ws, v = .arr ws := by
  generalize hu : JsonTree.arr vs = u at h
  cases h with
  | nil => exact ⟨_, rfl⟩
  | cons h hs => exact ⟨_, rfl⟩
  | _ => cases hu

/-- An object is covered by objects and by arrays. -/
theorem Covered.exists_obj {fs : Fields} {v : JsonTree} (h : Covered (.obj fs) v) :
    (∃ gs, v = .obj gs) ∨ ∃ vs, v = .arr vs := by
  generalize hu : JsonTree.obj fs = u at h
  cases h with
  | empty gs => exact .inl ⟨gs, rfl⟩
  | field honce h hs => exact .inl ⟨_, rfl⟩
  | missing honce hs => exact .inl ⟨_, rfl⟩
  | values h => exact .inr ⟨_, rfl⟩
  | _ => cases hu

theorem covered_obj_arr {fs : Fields} {vs : List JsonTree} :
    Covered (.obj fs) (.arr vs) ↔ Covered (.arr (fs.map Prod.snd)) (.arr vs) := by
  refine ⟨fun h => ?_, .values⟩
  generalize hu : JsonTree.obj fs = u at h
  cases h with
  | values h =>
      cases hu
      exact h
  | _ => cases hu

/-- Only `null` is covered by `null`. -/
theorem Covered.eq_null {v : JsonTree} (h : Covered v .null) : v = .null := by
  cases h
  rfl

/-- An object covers itself if no two of its fields have the same name, and their values do. -/
theorem covered_obj_self {fs : Fields} (hnodup : (fs.map Prod.fst).Nodup)
    (h : ∀ f ∈ fs, Covered f.2 f.2) : Covered (.obj fs) (.obj fs) :=
  covered_obj_iff.2 fun f hf => .inl ⟨f.2, once_of_mem hnodup hf, h f hf⟩

/-! ### Schemas -/

/-- **How the values of a type are written and read.**  A value is read out of what covers that
which is written for it, and out of nothing else. -/
structure Schema (α : Type) where
  write : α → JsonTree
  read : JsonTree → Option α
  exact : ∀ v a, read v = some a ↔ Covered (write a) v
  /-- Nothing is written as `null`. -/
  notNull : ∀ a, write a ≠ .null
  /-- What is written covers itself. -/
  proper : ∀ a, Covered (write a) (write a)

namespace Schema

/-- Strings. -/
def string : Schema String where
  write := .str
  read
    | .str s => some s
    | _ => none
  exact v a := by
    constructor
    · intro h
      cases v <;> cases h
      exact .str a
    · intro h
      cases h
      rfl
  notNull a := nofun
  proper := .str

/-- `true` and `false`. -/
def truth : Schema Bool where
  write := .bool
  read
    | .bool b => some b
    | _ => none
  exact v a := by
    constructor
    · intro h
      cases v <;> cases h
      exact .bool a
    · intro h
      cases h
      rfl
  notNull a := nofun
  proper := .bool

/-- **Numbers of a fixed width**: those from 0 on for which there is one. -/
def unsigned (bound : ℕ) (toNat : α → ℕ) (ofNat : ℕ → α) (hlt : ∀ a, toNat a < bound)
    (hof : ∀ a, ofNat (toNat a) = a) (hto : ∀ n < bound, toNat (ofNat n) = n) : Schema α where
  write a := .num (toNat a)
  read
    | .num n => if 0 ≤ n ∧ n < bound then some (ofNat n.toNat) else none
    | _ => none
  exact v a := by
    constructor
    · intro h
      cases v <;> try cases h
      rename_i n
      simp only at h
      split_ifs at h with hn
      cases h
      have hnum : (toNat (ofNat n.toNat) : ℤ) = n := by
        rw [hto _ (by omega)]
        omega
      rw [hnum]
      exact .num n
    · intro h
      cases h
      have := hlt a
      simp only
      rw [if_pos (by omega), Int.toNat_natCast, hof]
  notNull a := nofun
  proper a := .num _

/-- All of the values, or none. -/
def readAll (read : JsonTree → Option α) : List JsonTree → Option (List α)
  | [] => some []
  | v :: vs => (read v).bind fun a => (readAll read vs).map (a :: ·)

theorem readAll_eq_some (s : Schema α) {vs : List JsonTree} {as : List α} :
    readAll s.read vs = some as ↔ Covered (.arr (as.map s.write)) (.arr vs) := by
  induction vs generalizing as with
  | nil =>
      rw [readAll]
      constructor
      · rintro ⟨⟩
        exact .nil
      · intro h
        cases as with
        | nil => rfl
        | cons a as => cases h
  | cons v vs ih =>
      rw [readAll, Option.bind_eq_some_iff]
      constructor
      · rintro ⟨a, ha, h⟩
        obtain ⟨as', has, rfl⟩ := Option.map_eq_some_iff.1 h
        exact .cons ((s.exact v a).1 ha) (ih.1 has)
      · intro h
        cases as with
        | nil => cases h
        | cons a as =>
            obtain ⟨w, ws, heq, hv, hvs⟩ := covered_arr_cons.1 h
            cases heq
            exact ⟨a, (s.exact v a).2 hv, Option.map_eq_some_iff.2 ⟨as, ih.2 hvs, rfl⟩⟩

/-- Lists. -/
def list (s : Schema α) : Schema (List α) where
  write as := .arr (as.map s.write)
  read
    | .arr vs => readAll s.read vs
    | _ => none
  exact v as := by
    cases v with
    | arr vs => exact readAll_eq_some s
    | _ =>
        refine iff_of_false (fun h => by cases h) fun h => ?_
        obtain ⟨ws, hws⟩ := h.exists_arr
        cases hws
  notNull a := nofun
  proper as := by
    induction as with
    | nil => exact .nil
    | cons a as ih => exact .cons (s.proper a) ih

/-- A value or `null`. -/
def writeOption (s : Schema α) : Option α → JsonTree
  | some a => s.write a
  | none => .null

theorem covered_writeOption_self (s : Schema α) (o : Option α) :
    Covered (s.writeOption o) (s.writeOption o) := by
  cases o with
  | none => exact .null
  | some a => exact s.proper a

theorem nullable_eq_some (s : Schema α) {v : JsonTree} {o : Option α} :
    nullable s.read v = some o ↔ Covered (s.writeOption o) v := by
  by_cases hnull : v = .null
  · subst hnull
    cases o with
    | none => exact iff_of_true rfl .null
    | some a => exact iff_of_false nofun fun h => s.notNull a h.eq_null
  · have hread : nullable s.read v = (s.read v).map some := by
      cases v <;> first | rfl | exact absurd rfl hnull
    rw [hread, Option.map_eq_some_iff]
    constructor
    · rintro ⟨a, ha, rfl⟩
      exact (s.exact v a).1 ha
    · intro h
      cases o with
      | none =>
          refine absurd ?_ hnull
          generalize hn : s.writeOption (none : Option α) = n at h
          obtain rfl : JsonTree.null = n := hn
          cases h
          rfl
      | some a => exact ⟨a, (s.exact v a).2 h, rfl⟩

theorem required_eq_some (s : Schema α) {name : String} {fs : Fields} {a : α} :
    required s.read name fs = some a ↔ CoveredField (name, s.write a) fs := by
  rw [required, CoveredField]
  rcases once name fs with _ | _ | v
  · simp
  · simp [s.notNull a]
  · simp [s.exact v a]

theorem optional_eq_some (s : Schema α) {name : String} {fs : Fields} {o : Option α} :
    optional s.read name fs = some o ↔ CoveredField (name, s.writeOption o) fs := by
  rw [optional, CoveredField]
  rcases once name fs with _ | _ | v
  · simp
  · cases o with
    | none => simp [writeOption]
    | some a => simp [writeOption, s.notNull a]
  · simp [s.nullable_eq_some]

end Schema

/-! ### Records -/

/-- **How a record is written and read**, by the names of its fields or in their order. -/
structure Record (α : Type) where
  write : α → Fields
  readFields : Fields → Option α
  readValues : List JsonTree → Option α
  exactFields : ∀ fs a, readFields fs = some a ↔ Covered (.obj (write a)) (.obj fs)
  exactValues : ∀ vs a, readValues vs = some a ↔ Covered (.arr ((write a).map Prod.snd)) (.arr vs)
  /-- The names of the fields, which are the same for every value. -/
  names : List String
  names_eq : ∀ a, (write a).map Prod.fst = names
  /-- What is written in the fields covers itself. -/
  proper : ∀ a, ∀ f ∈ write a, Covered f.2 f.2

namespace Record

/-- No fields. -/
def nil : Record Unit where
  write _ := []
  readFields _ := some ()
  readValues
    | [] => some ()
    | _ :: _ => none
  exactFields fs _ := iff_of_true rfl (.empty fs)
  exactValues vs _ := by
    cases vs with
    | nil => exact iff_of_true rfl .nil
    | cons v vs => exact iff_of_false nofun fun h => by cases h
  names := []
  names_eq _ := rfl
  proper _ := by simp

/-- One field more, which has to be there. -/
def field (name : String) (s : Schema α) (r : Record β) : Record (α × β) where
  write a := (name, s.write a.1) :: r.write a.2
  readFields fs := (required s.read name fs).bind fun a => (r.readFields fs).map (a, ·)
  readValues
    | [] => none
    | v :: vs => (s.read v).bind fun a => (r.readValues vs).map (a, ·)
  exactFields fs a := by
    rw [covered_obj_cons, ← s.required_eq_some, ← r.exactFields, Option.bind_eq_some_iff]
    constructor
    · rintro ⟨x, hx, h⟩
      obtain ⟨y, hy, rfl⟩ := Option.map_eq_some_iff.1 h
      exact ⟨hx, hy⟩
    · rintro ⟨hx, hy⟩
      exact ⟨a.1, hx, Option.map_eq_some_iff.2 ⟨a.2, hy, rfl⟩⟩
  exactValues vs a := by
    rw [List.map_cons]
    cases vs with
    | nil => exact iff_of_false nofun fun h => by cases h
    | cons v vs =>
        simp only [Option.bind_eq_some_iff, Option.map_eq_some_iff]
        constructor
        · rintro ⟨x, hx, y, hy, rfl⟩
          exact .cons ((s.exact v x).1 hx) ((r.exactValues vs y).1 hy)
        · intro h
          obtain ⟨w, ws, heq, hv, hvs⟩ := covered_arr_cons.1 h
          cases heq
          exact ⟨a.1, (s.exact v a.1).2 hv, a.2, (r.exactValues vs a.2).2 hvs, rfl⟩
  names := name :: r.names
  names_eq a := congrArg (name :: ·) (r.names_eq a.2)
  proper a := List.forall_mem_cons.2 ⟨s.proper a.1, r.proper a.2⟩

/-- One field more, which may be missing. -/
def option (name : String) (s : Schema α) (r : Record β) : Record (Option α × β) where
  write a := (name, s.writeOption a.1) :: r.write a.2
  readFields fs := (optional s.read name fs).bind fun a => (r.readFields fs).map (a, ·)
  readValues
    | [] => none
    | v :: vs => (nullable s.read v).bind fun a => (r.readValues vs).map (a, ·)
  exactFields fs a := by
    rw [covered_obj_cons, ← s.optional_eq_some, ← r.exactFields, Option.bind_eq_some_iff]
    constructor
    · rintro ⟨x, hx, h⟩
      obtain ⟨y, hy, rfl⟩ := Option.map_eq_some_iff.1 h
      exact ⟨hx, hy⟩
    · rintro ⟨hx, hy⟩
      exact ⟨a.1, hx, Option.map_eq_some_iff.2 ⟨a.2, hy, rfl⟩⟩
  exactValues vs a := by
    rw [List.map_cons]
    cases vs with
    | nil => exact iff_of_false nofun fun h => by cases h
    | cons v vs =>
        simp only [Option.bind_eq_some_iff, Option.map_eq_some_iff]
        constructor
        · rintro ⟨x, hx, y, hy, rfl⟩
          exact .cons (s.nullable_eq_some.1 hx) ((r.exactValues vs y).1 hy)
        · intro h
          obtain ⟨w, ws, heq, hv, hvs⟩ := covered_arr_cons.1 h
          cases heq
          exact ⟨a.1, s.nullable_eq_some.2 hv, a.2, (r.exactValues vs a.2).2 hvs, rfl⟩
  names := name :: r.names
  names_eq a := congrArg (name :: ·) (r.names_eq a.2)
  proper a := List.forall_mem_cons.2 ⟨s.covered_writeOption_self a.1, r.proper a.2⟩

/-- The fields, put together as another type. -/
def as (r : Record α) (make : α → β) (parts : β → α) (hmake : ∀ b, make (parts b) = b)
    (hparts : ∀ a, parts (make a) = a) : Record β where
  write b := r.write (parts b)
  readFields fs := (r.readFields fs).map make
  readValues vs := (r.readValues vs).map make
  exactFields fs b := by
    rw [← r.exactFields, Option.map_eq_some_iff]
    constructor
    · rintro ⟨a, ha, rfl⟩
      rwa [hparts]
    · intro h
      exact ⟨_, h, hmake b⟩
  exactValues vs b := by
    rw [← r.exactValues, Option.map_eq_some_iff]
    constructor
    · rintro ⟨a, ha, rfl⟩
      rwa [hparts]
    · intro h
      exact ⟨_, h, hmake b⟩
  names := r.names
  names_eq b := r.names_eq (parts b)
  proper b := r.proper (parts b)

/-- A record as a value, if no two of its fields have the same name. -/
def schema (r : Record α) (hnodup : r.names.Nodup) : Schema α where
  write a := .obj (r.write a)
  read
    | .obj fs => r.readFields fs
    | .arr vs => r.readValues vs
    | _ => none
  exact v a := by
    cases v with
    | obj fs => exact r.exactFields fs a
    | arr vs => exact (r.exactValues vs a).trans covered_obj_arr.symm
    | _ =>
        refine iff_of_false (fun h => by cases h) fun h => ?_
        rcases h.exists_obj with ⟨gs, hgs⟩ | ⟨ws, hws⟩
        · cases hgs
        · cases hws
  notNull a := nofun
  proper a := covered_obj_self (by rwa [r.names_eq]) (r.proper a)

end Record

end JsonTree

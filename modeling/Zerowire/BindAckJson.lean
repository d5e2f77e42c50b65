/-
**The body of a BIND_ACK, and the JSON in it** (`protocol/src/hid.rs`).

`encode_bind_ack_body` puts the JSON text of a description in front of the report descriptor, with
nothing but a 16-bit length between them.  The strings of a description may be of any length, and
every byte of them may take up to six in the text.  When the text is longer than the length can say,
the length is cut down, and the parser splits the body in the wrong place.

Main definitions:

* `Zerowire.SerdeJson.quoted`, `Zerowire.SerdeJson.digits` — strings and numbers as `serde_json`
  prints them;
* `Zerowire.SerdeJson.bindAckText`, `Zerowire.SerdeJson.bindAckJson` — the text of a `BindAckMeta`.

Main results:

* `Zerowire.SerdeJson.bindAckText_inj` — different descriptions have different texts;
* `Zerowire.SerdeJson.length_bindAckText_le` — six bytes for each byte of the strings, and 80;
* `Zerowire.bindAckBody_round_iff` — **the round trip**: when the body comes back.
-/

import Zerowire.Hid

set_option relaxedAutoImplicit false
set_option autoImplicit false

namespace Zerowire

open Bytes

namespace SerdeJson

/-! ### Strings -/

/-- A digit of a `\u00xx` escape. -/
def hexDigit (n : UInt8) : UInt8 := if n < 10 then 48 + n else 87 + n

/-- The bytes that are printed as a backslash and a letter, with their letters. -/
def letters : List (UInt8 × UInt8) :=
  [(34, 34), (92, 92), (8, 98), (9, 116), (10, 110), (12, 102), (13, 114)]

/-- What `serde_json` prints for a byte of a string. -/
def escape (b : UInt8) : List UInt8 :=
  match letters.lookup b with
  | some c => [92, c]
  | none =>
      if b < 32 then [92, 117, 48, 48, hexDigit (b / 16), hexDigit (b % 16)]
      else [b]

example : [34, 10, 27, 65].flatMap escape = "\\\"\\n\\u001bA".toUTF8.data.toList := by decide

/-- The byte that the letter behind a backslash stands for. -/
def ofLetter (c : UInt8) : UInt8 := ((letters.find? (·.2 = c)).map (·.1)).getD c

/-- The value of a digit. -/
def ofHexDigit (c : UInt8) : UInt8 := if c < 58 then c - 48 else c - 87

/-- The three shapes of an escape, each with the byte that it stands for. -/
theorem escape_cases (b : UInt8) :
    (b ≠ 34 ∧ b ≠ 92 ∧ escape b = [b]) ∨
    (∃ c, c ≠ 117 ∧ b = ofLetter c ∧ escape b = [92, c]) ∨
    ∃ h l, b = 16 * ofHexDigit h + ofHexDigit l ∧ escape b = [92, 117, 48, 48, h, l] := by
  rw [escape]
  rcases hletter : letters.lookup b with _ | c
  · simp only
    by_cases h32 : b < 32
    · rw [if_pos h32]
      refine .inr (.inr ⟨hexDigit (b / 16), hexDigit (b % 16), ?_, rfl⟩)
      have hall : ∀ n < 32, UInt8.ofNat n = 16 * ofHexDigit (hexDigit (UInt8.ofNat n / 16)) +
          ofHexDigit (hexDigit (UInt8.ofNat n % 16)) := by decide
      have hb := hall b.toNat h32
      rwa [UInt8.ofNat_toNat] at hb
    · rw [if_neg h32]
      have hno := List.lookup_eq_none_iff.1 hletter
      exact .inl ⟨by simpa using hno (34, 34) (by decide), by simpa using hno (92, 92) (by decide), rfl⟩
  · obtain ⟨before, after, hsplit, -⟩ := List.lookup_eq_some_iff.1 hletter
    have hall : letters.all (fun p => decide (p.2 ≠ 117 ∧ p.1 = ofLetter p.2)) = true := by decide
    have hmem : (b, c) ∈ letters := by rw [hsplit]; simp
    obtain ⟨hc, hb⟩ := of_decide_eq_true (List.all_eq_true.1 hall (b, c) hmem)
    exact .inr (.inl ⟨c, hc, hb, rfl⟩)

/-- No escape starts with a quotation mark. -/
theorem escape_head (b : UInt8) : ∃ c rest, escape b = c :: rest ∧ c ≠ 34 := by
  rcases escape_cases b with ⟨h34, -, h⟩ | ⟨c, -, -, h⟩ | ⟨c, d, -, h⟩
  · exact ⟨b, [], h, h34⟩
  · exact ⟨92, [c], h, by decide⟩
  · exact ⟨92, [117, 48, 48, c, d], h, by decide⟩

theorem length_escape (b : UInt8) : 1 ≤ (escape b).length ∧ (escape b).length ≤ 6 := by
  rcases escape_cases b with ⟨-, -, h⟩ | ⟨c, -, -, h⟩ | ⟨c, d, -, h⟩
  · simp [h]
  · simp [h]
  · simp [h]

/-- The escapes are a prefix code. -/
theorem escape_append_inj {b b' : UInt8} {rest rest' : List UInt8}
    (h : escape b ++ rest = escape b' ++ rest') : b = b' ∧ rest = rest' := by
  rcases escape_cases b with ⟨-, hb, he⟩ | ⟨c, hc, rfl, he⟩ | ⟨c, d, rfl, he⟩ <;>
    rcases escape_cases b' with ⟨-, hb', he'⟩ | ⟨c', hc', rfl, he'⟩ | ⟨c', d', rfl, he'⟩ <;>
    rw [he, he'] at h
  · simpa using h
  · exact absurd (List.cons.inj h).1 hb
  · exact absurd (List.cons.inj h).1 hb
  · exact absurd (List.cons.inj h).1.symm hb'
  · simp only [List.cons_append, List.nil_append, List.cons.injEq, true_and] at h
    obtain ⟨rfl, h⟩ := h
    exact ⟨rfl, h⟩
  · exact absurd (List.cons.inj (List.cons.inj h).2).1 hc
  · exact absurd (List.cons.inj h).1.symm hb'
  · exact absurd (List.cons.inj (List.cons.inj h).2).1.symm hc'
  · simp only [List.cons_append, List.nil_append, List.cons.injEq, true_and] at h
    obtain ⟨rfl, rfl, h⟩ := h
    exact ⟨rfl, h⟩

/-- The bytes of a string. -/
def textBytes (s : String) : List UInt8 := s.toUTF8.data.toList

theorem textBytes_inj {s t : String} (h : textBytes s = textBytes t) : s = t := by
  rw [textBytes, textBytes, String.toUTF8, String.toUTF8] at h
  exact String.toByteArray_inj.1 (ByteArray.ext (Array.toList_inj.1 h))

theorem textBytes_append (s t : String) : textBytes (s ++ t) = textBytes s ++ textBytes t := by
  rw [textBytes, String.toUTF8, String.toByteArray_append, ByteArray.data_append, Array.toList_append]
  rfl

/-- A string in quotation marks. -/
def quoted (s : String) : List UInt8 := 34 :: (textBytes s).flatMap escape ++ [34]

theorem length_quoted (s : String) :
    (textBytes s).length ≤ (quoted s).length ∧
    (quoted s).length ≤ 6 * (textBytes s).length + 2 := by
  have hescaped (bs : List UInt8) :
      bs.length ≤ (bs.flatMap escape).length ∧ (bs.flatMap escape).length ≤ 6 * bs.length := by
    induction bs with
    | nil => exact ⟨Nat.le_refl 0, Nat.le_refl 0⟩
    | cons b bs ih =>
        have := length_escape b
        rw [List.flatMap_cons, List.length_append, List.length_cons]
        omega
  have := hescaped (textBytes s)
  rw [quoted, List.length_append, List.length_cons, List.length_singleton]
  omega

/-- The quotation mark at the end is the first one that stands for itself. -/
theorem escaped_append_inj {bs bs' rest rest' : List UInt8}
    (h : bs.flatMap escape ++ 34 :: rest = bs'.flatMap escape ++ 34 :: rest') :
    bs = bs' ∧ rest = rest' := by
  induction bs generalizing bs' with
  | nil =>
      cases bs' with
      | nil => exact ⟨rfl, (List.cons.inj h).2⟩
      | cons b' bs' =>
          obtain ⟨c, more, he, hc⟩ := escape_head b'
          rw [List.flatMap_cons, he] at h
          exact absurd (List.cons.inj h).1.symm hc
  | cons b bs ih =>
      cases bs' with
      | nil =>
          obtain ⟨c, more, he, hc⟩ := escape_head b
          rw [List.flatMap_cons, he] at h
          exact absurd (List.cons.inj h).1 hc
      | cons b' bs' =>
          rw [List.flatMap_cons, List.flatMap_cons, List.append_assoc, List.append_assoc] at h
          obtain ⟨rfl, htail⟩ := escape_append_inj h
          obtain ⟨rfl, hrest⟩ := ih htail
          exact ⟨rfl, hrest⟩

theorem quoted_append (s : String) (rest : List UInt8) :
    quoted s ++ rest = 34 :: ((textBytes s).flatMap escape ++ 34 :: rest) := by
  rw [quoted, List.cons_append, List.cons_append, List.append_assoc, List.singleton_append]

theorem quoted_append_inj {s s' : String} {rest rest' : List UInt8}
    (h : quoted s ++ rest = quoted s' ++ rest') : s = s' ∧ rest = rest' := by
  rw [quoted_append, quoted_append] at h
  obtain ⟨hs, hrest⟩ := escaped_append_inj (List.cons.inj h).2
  exact ⟨textBytes_inj hs, hrest⟩

/-! ### Numbers and names -/

/-- A number in decimal. -/
def digits (n : ℕ) : List UInt8 := (Nat.toDigits 10 n).map fun c => UInt8.ofNat c.toNat

theorem mem_digits {n : ℕ} {b : UInt8} (h : b ∈ digits n) : ∃ c : Char, c.isDigit ∧
    b = UInt8.ofNat c.toNat := by
  rw [digits, List.mem_map] at h
  obtain ⟨c, hc, rfl⟩ := h
  exact ⟨c, Nat.isDigit_of_mem_toDigits (by decide) (by decide) hc, rfl⟩

/-- The character codes of the decimal digits. -/
theorem toNat_of_isDigit {c : Char} (h : c.isDigit) : 48 ≤ c.toNat ∧ c.toNat < 58 := by
  rw [Char.isDigit, Bool.and_eq_true, decide_eq_true_eq, decide_eq_true_eq] at h
  obtain ⟨hlo, hhi⟩ := h
  have hlo : 48 ≤ c.toNat := hlo
  have hhi : c.toNat ≤ 57 := hhi
  omega

/-- A comma is no digit. -/
theorem comma_notMem_digits (n : ℕ) : 44 ∉ digits n := by
  intro h
  obtain ⟨c, hc, heq⟩ := mem_digits h
  have hbounds := toNat_of_isDigit hc
  have hval := congrArg UInt8.toNat heq
  rw [UInt8.toNat_ofNat', Nat.mod_eq_of_lt (by omega)] at hval
  have hcomma : (44 : UInt8).toNat = 44 := rfl
  omega

theorem digits_inj {n m : ℕ} (h : digits n = digits m) : n = m := by
  have hchars (k : ℕ) : (digits k).map (fun b => Char.ofNat b.toNat) = Nat.toDigits 10 k := by
    rw [digits, List.map_map]
    refine (List.map_congr_left ?_).trans (List.map_id _)
    intro c hc
    have hbounds := toNat_of_isDigit (Nat.isDigit_of_mem_toDigits (by decide) (by decide) hc)
    rw [Function.comp_apply, UInt8.toNat_ofNat', Nat.mod_eq_of_lt (by omega), Char.ofNat_toNat, id]
  have htext : Nat.toDigits 10 n = Nat.toDigits 10 m := by rw [← hchars, h, hchars]
  rw [← Nat.ofDigitChars_ten_toDigits (n := n), htext, Nat.ofDigitChars_ten_toDigits]

theorem length_digits_le {n : ℕ} (h : n < 2 ^ 16) : (digits n).length ≤ 5 := by
  rw [digits, List.length_map]
  exact (Nat.length_toDigits_le_iff (by decide) (by decide)).2 (by omega)

/-- Two texts that are cut at their first `c`. -/
theorem append_cons_inj {c : UInt8} {as bs rest rest' : List UInt8} (ha : c ∉ as) (hb : c ∉ bs)
    (h : as ++ c :: rest = bs ++ c :: rest') : as = bs ∧ rest = rest' := by
  induction as generalizing bs with
  | nil =>
      cases bs with
      | nil => exact ⟨rfl, (List.cons.inj h).2⟩
      | cons b bs => exact absurd (by simp [(List.cons.inj h).1]) hb
  | cons a as ih =>
      cases bs with
      | nil => exact absurd (by simp [(List.cons.inj h).1]) ha
      | cons b bs =>
          obtain ⟨rfl, htail⟩ := List.cons.inj h
          rw [List.mem_cons, not_or] at ha hb
          obtain ⟨rfl, hrest⟩ := ih ha.2 hb.2 htail
          exact ⟨rfl, hrest⟩

/-- `#[serde(rename_all = "lowercase")]`. -/
def kindName : DeviceKind → List UInt8
  | .mouse => textBytes "mouse"
  | .keyboard => textBytes "keyboard"
  | .gamepad => textBytes "gamepad"
  | .other => textBytes "other"

theorem kindName_inj {k k' : DeviceKind} (h : kindName k = kindName k') : k = k' := by
  cases k <;> cases k' <;> first | rfl | exact absurd h (by decide)

theorem quote_notMem_kindName (k : DeviceKind) : 34 ∉ kindName k := by cases k <;> decide

theorem length_kindName_le (k : DeviceKind) : (kindName k).length ≤ 8 := by cases k <;> decide

/-! ### A description -/

/-- `serde_json::to_vec` of a `BindAckMeta`: the fields in the order of the declaration, without
blanks. -/
def bindAckText (info : BindAckMeta) : List UInt8 :=
  textBytes "\x7b\"busid\":" ++ (quoted info.busid ++
    (textBytes ",\"kind\":\"" ++ (kindName info.kind ++ 34 ::
      (textBytes ",\"vendor_id\":" ++ (digits info.vendorId.toNat ++ 44 ::
        (textBytes "\"product_id\":" ++ (digits info.productId.toNat ++ 44 ::
          (textBytes "\"name\":" ++ (quoted info.name ++ textBytes "\x7d")))))))))

/-- **Different descriptions have different texts.** -/
theorem bindAckText_inj {info info' : BindAckMeta} (h : bindAckText info = bindAckText info') :
    info = info' := by
  rw [bindAckText, bindAckText] at h
  obtain ⟨hbusid, h⟩ := quoted_append_inj (List.append_cancel_left h)
  obtain ⟨hkind, h⟩ := append_cons_inj (quote_notMem_kindName _) (quote_notMem_kindName _)
    (List.append_cancel_left h)
  obtain ⟨hvendor, h⟩ := append_cons_inj (comma_notMem_digits _) (comma_notMem_digits _)
    (List.append_cancel_left h)
  obtain ⟨hproduct, h⟩ := append_cons_inj (comma_notMem_digits _) (comma_notMem_digits _)
    (List.append_cancel_left h)
  obtain ⟨hname, -⟩ := quoted_append_inj (List.append_cancel_left h)
  cases info
  cases info'
  simp only [BindAckMeta.mk.injEq]
  exact ⟨hbusid, kindName_inj hkind, UInt16.toNat_inj.1 (digits_inj hvendor),
    UInt16.toNat_inj.1 (digits_inj hproduct), hname⟩

/-- The text takes at most six bytes for each byte of the two strings, and 80 for the rest. -/
theorem length_bindAckText_le (info : BindAckMeta) :
    (bindAckText info).length ≤
      6 * ((textBytes info.busid).length + (textBytes info.name).length) + 80 := by
  have hbusid := length_quoted info.busid
  have hname := length_quoted info.name
  have hkind := length_kindName_le info.kind
  have hvendor := length_digits_le info.vendorId.toNat_lt
  have hproduct := length_digits_le info.productId.toNat_lt
  have hkeys : (textBytes "\x7b\"busid\":").length = 9 ∧ (textBytes ",\"kind\":\"").length = 9 ∧
      (textBytes ",\"vendor_id\":").length = 13 ∧ (textBytes "\"product_id\":").length = 13 ∧
      (textBytes "\"name\":").length = 7 ∧ (textBytes "\x7d").length = 1 := by decide
  obtain ⟨h₁, h₂, h₃, h₄, h₅, h₆⟩ := hkeys
  rw [bindAckText]
  simp only [List.length_append, List.length_cons]
  omega

/-- And at least what the name takes. -/
theorem length_quoted_name_le (info : BindAckMeta) :
    (quoted info.name).length ≤ (bindAckText info).length := by
  rw [bindAckText]
  simp only [List.length_append, List.length_cons]
  omega

open Classical in
/-- `serde_json` at `BindAckMeta`; it reads what it has printed itself. -/
noncomputable def bindAckJson : Json BindAckMeta where
  toVec := bindAckText
  fromSlice bs := if h : ∃ info, bindAckText info = bs then some h.choose else none

/-- **It decodes what it encodes.** -/
theorem bindAckJson_round (info : BindAckMeta) :
    bindAckJson.fromSlice (bindAckJson.toVec info) = some info := by
  have hex : ∃ info', bindAckText info' = bindAckText info := ⟨info, rfl⟩
  have hsame : hex.choose = info := bindAckText_inj hex.choose_spec
  exact (dif_pos hex).trans (congrArg some hsame)

end SerdeJson

/-! ### The round trip -/

/-- **A text that is too long**: the length in front of it is cut down, and what the parser takes
for the report descriptor begins inside of the text. -/
theorem parseBindAckBody_encode_long {json : Json BindAckMeta} {info : BindAckMeta}
    (hlong : 2 ^ 16 ≤ (json.toVec info).length) (info' : BindAckMeta)
    (reportDescriptor : List UInt8) :
    parseBindAckBody json (encodeBindAckBody json info reportDescriptor) ≠
      .ok (info', reportDescriptor) := by
  intro hround
  rw [encodeBindAckBody] at hround
  generalize json.toVec info = metaJson at hround hlong
  have hcons (w : UInt16) : toBe16 w ++ metaJson ++ reportDescriptor =
      UInt8.ofNat (w.toNat / 2 ^ 8) :: UInt8.ofNat w.toNat :: (metaJson ++ reportDescriptor) := rfl
  have hword : (UInt16.ofNat metaJson.length).toNat < metaJson.length :=
    Nat.lt_of_lt_of_le (UInt16.toNat_lt _) hlong
  rw [hcons, parseBindAckBody_cons, beU16_toBe16,
    if_neg (by rw [List.length_append]; omega)] at hround
  split at hround
  · cases hround
  · have hrest := congrArg List.length (Prod.mk.inj (Except.ok.inj hround)).2
    rw [List.length_drop, List.length_append] at hrest
    omega

/-- **When a BIND_ACK body comes back.**  The body of a description and a report descriptor is read
as that description and that report descriptor exactly if the text of the description is shorter
than 2¹⁶ bytes. -/
theorem bindAckBody_round_iff (json : Json BindAckMeta)
    (hjson : ∀ info, json.fromSlice (json.toVec info) = some info) (info : BindAckMeta)
    (reportDescriptor : List UInt8) :
    parseBindAckBody json (encodeBindAckBody json info reportDescriptor) =
        .ok (info, reportDescriptor) ↔ (json.toVec info).length < 2 ^ 16 := by
  constructor
  · intro hround
    by_contra hlong
    exact parseBindAckBody_encode_long (Nat.not_lt.1 hlong) info reportDescriptor hround
  · intro hlen
    exact parseBindAckBody_encode hlen (hjson info) reportDescriptor

/-- A mouse, with a name that needs escapes. -/
def quotedMouse : BindAckMeta := ⟨"1-1", .mouse, 0x046D, 0xC077, "7\" tablet\t\\"⟩

/-- It comes back. -/
theorem bindAckBody_round_quotedMouse :
    parseBindAckBody SerdeJson.bindAckJson
        (encodeBindAckBody SerdeJson.bindAckJson quotedMouse [5, 1, 9, 2]) =
      .ok (quotedMouse, [5, 1, 9, 2]) := by
  have hlen := SerdeJson.length_bindAckText_le quotedMouse
  have hstrings : (SerdeJson.textBytes quotedMouse.busid).length = 3 ∧
      (SerdeJson.textBytes quotedMouse.name).length = 11 := by decide
  rw [hstrings.1, hstrings.2] at hlen
  exact (bindAckBody_round_iff SerdeJson.bindAckJson SerdeJson.bindAckJson_round quotedMouse
    [5, 1, 9, 2]).2 (Nat.lt_of_le_of_lt hlen (by decide))

theorem SerdeJson.length_le_textBytes (cs : List Char) :
    cs.length ≤ (SerdeJson.textBytes (String.ofList cs)).length := by
  rw [SerdeJson.textBytes, String.toUTF8, String.toByteArray_ofList]
  induction cs with
  | nil => exact Nat.zero_le _
  | cons c cs ih =>
      have hfirst : 1 ≤ (String.utf8EncodeChar c).length :=
        List.length_pos_iff.2 String.utf8EncodeChar_ne_nil
      rw [List.utf8Encode_cons, List.utf8Encode_singleton, ByteArray.data_append,
        Array.toList_append, List.data_toByteArray, List.toList_toArray, List.length_append,
        List.length_cons]
      omega

/-- A mouse with a name of 2¹⁶ letters. -/
def longMouse : BindAckMeta :=
  ⟨"1-1", .mouse, 0x046D, 0xC077, String.ofList (List.replicate (2 ^ 16) 'a')⟩

/-- Its description does not come back. -/
theorem longMouse_not_round :
    ¬ ∀ json : Json BindAckMeta, (∀ info, json.fromSlice (json.toVec info) = some info) →
      ∀ info reportDescriptor, parseBindAckBody json (encodeBindAckBody json info reportDescriptor) =
        .ok (info, reportDescriptor) := by
  intro h
  refine parseBindAckBody_encode_long ?_ longMouse [5, 1, 9, 2]
    (h SerdeJson.bindAckJson SerdeJson.bindAckJson_round longMouse [5, 1, 9, 2])
  have hbytes := SerdeJson.length_le_textBytes (List.replicate (2 ^ 16) 'a')
  have hname := (SerdeJson.length_quoted longMouse.name).1
  have htext := SerdeJson.length_quoted_name_le longMouse
  rw [List.length_replicate] at hbytes
  exact Nat.le_trans hbytes (Nat.le_trans hname htext)

end Zerowire

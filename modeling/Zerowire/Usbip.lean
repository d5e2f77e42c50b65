/-
**USB/IP packets** (`protocol/src/usbip.rs`).

What travels inside a USB/IP envelope is a 4-byte `import_id` and then a packet in the format of
the Linux kernel: a 48-byte header, ten big-endian words and eight more bytes, and possibly data.
Four kinds of header share the format, told apart by their first word.

Main definitions:

* `Zerowire.UsbipFrame` — the `import_id` prefix;
* `Zerowire.UrbOp`, `Zerowire.peekUrbOp` — the first word;
* `Zerowire.CmdSubmit`, `Zerowire.RetSubmit`, `Zerowire.CmdUnlink`, `Zerowire.RetUnlink` — the four
  headers, each with its `parse` and `encode`;
* `Zerowire.wordAt` — the word at an offset, as a total function.

Main results:

* `Zerowire.parseUrb_eq` — no access of a header parser is out of range, and what it returns;
* `Zerowire.RetSubmit.parse_encode`, `Zerowire.RetUnlink.parse_encode`,
  `Zerowire.CmdSubmit.parse_encode`, `Zerowire.CmdUnlink.parse_encode` — the round trips;
* `Zerowire.urb_headers` — **the four headers cannot be confused**, and are encoded as they were
  read.
-/

import Zerowire.Bytes

set_option relaxedAutoImplicit false
set_option autoImplicit false

namespace Zerowire

open Bytes

/-! ### The frame -/

/-- `UsbipError`: the frame is too short for an `import_id`. -/
inductive UsbipError where
  | short (len : ℕ)
  deriving Repr, DecidableEq

/-- One USB/IP packet, demultiplexed. -/
structure UsbipFrame where
  importId : UInt32
  raw : List UInt8
  deriving Repr, DecidableEq

/-- `UsbipFrame::parse`. -/
def UsbipFrame.parse (payload : List UInt8) : Except (Fault UsbipError) UsbipFrame :=
  if payload.length < 4 then .error (.err (.short payload.length))
  else do
    let importId := beU32 (← index payload 0) (← index payload 1) (← index payload 2)
      (← index payload 3)
    return ⟨importId, ← sliceFrom payload 4⟩

/-- `UsbipFrame::encode`. -/
def UsbipFrame.encode (f : UsbipFrame) : List UInt8 := toBe32 f.importId ++ f.raw

/-! ### The headers -/

/-- Fixed kernel USB/IP header size. -/
def urbHeaderLen : ℕ := 48

/-- `URB_DIR_OUT`: host to device. -/
def urbDirOut : UInt32 := 0

/-- `URB_DIR_IN`: device to host. -/
def urbDirIn : UInt32 := 1

/-- Per-URB op codes. -/
inductive UrbOp where
  | cmdSubmit
  | cmdUnlink
  | retSubmit
  | retUnlink
  deriving Repr, DecidableEq

/-- The op code on the wire (`op as u32`). -/
def UrbOp.toU32 : UrbOp → UInt32
  | .cmdSubmit => 1
  | .cmdUnlink => 2
  | .retSubmit => 3
  | .retUnlink => 4

/-- `UrbOp::from_u32`. -/
def UrbOp.fromU32 (v : UInt32) : Option UrbOp :=
  if v = 1 then some .cmdSubmit
  else if v = 2 then some .cmdUnlink
  else if v = 3 then some .retSubmit
  else if v = 4 then some .retUnlink
  else none

/-- Endpoint type, as used internally for dispatch. -/
inductive EndpointType where
  | control
  | isochronous
  | bulk
  | interrupt
  deriving Repr, DecidableEq

/-- `UrbError`. -/
inductive UrbError where
  | short (len : ℕ)
  | unknownCommand (command : UInt32)
  deriving Repr, DecidableEq

/-- A USB setup packet, `[u8; 8]`. -/
abbrev Setup := { l : List UInt8 // l.length = 8 }

/-- A setup packet, byte by byte. -/
def Setup.of (b₀ b₁ b₂ b₃ b₄ b₅ b₆ b₇ : UInt8) : Setup := ⟨[b₀, b₁, b₂, b₃, b₄, b₅, b₆, b₇], rfl⟩

/-- The setup packet of a command that needs none. -/
def Setup.zero : Setup := .of 0 0 0 0 0 0 0 0

/-- USBIP_CMD_SUBMIT. -/
@[ext] structure CmdSubmit where
  seqnum : UInt32
  devid : UInt32
  direction : UInt32
  ep : UInt32
  transferFlags : UInt32
  transferBufferLength : UInt32
  startFrame : UInt32
  numberOfPackets : UInt32
  interval : UInt32
  setup : Setup
  deriving DecidableEq

/-- USBIP_RET_SUBMIT. -/
@[ext] structure RetSubmit where
  seqnum : UInt32
  devid : UInt32
  direction : UInt32
  ep : UInt32
  status : Int32
  actualLength : UInt32
  startFrame : UInt32
  numberOfPackets : UInt32
  errorCount : UInt32
  deriving DecidableEq

/-- USBIP_CMD_UNLINK. -/
@[ext] structure CmdUnlink where
  seqnum : UInt32
  devid : UInt32
  direction : UInt32
  ep : UInt32
  unlinkSeqnum : UInt32
  deriving DecidableEq

/-- USBIP_RET_UNLINK. -/
@[ext] structure RetUnlink where
  seqnum : UInt32
  devid : UInt32
  direction : UInt32
  ep : UInt32
  status : Int32
  deriving DecidableEq

section Parsers

variable {ε α : Type}

/-- `read_u32`. -/
def readU32 (b : List UInt8) (off : ℕ) : Except (Fault ε) UInt32 := do
  return beU32 (← index b off) (← index b (off + 1)) (← index b (off + 2)) (← index b (off + 3))

/-- `setup.copy_from_slice`, which panics unless the lengths agree. -/
def copySetup (bytes : List UInt8) : Except (Fault ε) Setup :=
  if h : bytes.length = 8 then .ok ⟨bytes, h⟩ else .error .panic

/-- The part that the four header parsers have in common: the length and the first word are
checked, and only then are the fields read. -/
def parseUrb (op : UrbOp) (fields : List UInt8 → Except (Fault UrbError) α) (hdr : List UInt8) :
    Except (Fault UrbError) α :=
  if hdr.length < urbHeaderLen then .error (.err (.short hdr.length))
  else do
    let command ← readU32 hdr 0
    if command ≠ op.toU32 then throw (.err (.unknownCommand command))
    else fields hdr

end Parsers

/-- A header of zeros in which words are written at the offsets 0, 4, 8, ... (`write_u32`). -/
def headerOfWords (words : List UInt32) : List UInt8 :=
  words.flatMap toBe32 ++ List.replicate (urbHeaderLen - 4 * words.length) 0

/-- `CmdSubmit::parse`. -/
def CmdSubmit.parse : List UInt8 → Except (Fault UrbError) CmdSubmit :=
  parseUrb .cmdSubmit fun hdr => do
    let setup ← copySetup (← slice hdr 40 48)
    return {
      seqnum := ← readU32 hdr 4
      devid := ← readU32 hdr 8
      direction := ← readU32 hdr 12
      ep := ← readU32 hdr 16
      transferFlags := ← readU32 hdr 20
      transferBufferLength := ← readU32 hdr 24
      startFrame := ← readU32 hdr 28
      numberOfPackets := ← readU32 hdr 32
      interval := ← readU32 hdr 36
      setup }

/-- `CmdSubmit::encode`. -/
def CmdSubmit.encode (c : CmdSubmit) : List UInt8 :=
  [UrbOp.cmdSubmit.toU32, c.seqnum, c.devid, c.direction, c.ep, c.transferFlags,
    c.transferBufferLength, c.startFrame, c.numberOfPackets, c.interval].flatMap toBe32 ++ c.setup.1

/-- `CmdSubmit::is_control`. -/
def CmdSubmit.isControl (c : CmdSubmit) : Bool := c.ep = 0

/-- `RetSubmit::parse`. -/
def RetSubmit.parse : List UInt8 → Except (Fault UrbError) RetSubmit :=
  parseUrb .retSubmit fun hdr => do
    return {
      seqnum := ← readU32 hdr 4
      devid := ← readU32 hdr 8
      direction := ← readU32 hdr 12
      ep := ← readU32 hdr 16
      status := (← readU32 hdr 20).toInt32
      actualLength := ← readU32 hdr 24
      startFrame := ← readU32 hdr 28
      numberOfPackets := ← readU32 hdr 32
      errorCount := ← readU32 hdr 36 }

/-- `RetSubmit::encode`. -/
def RetSubmit.encode (r : RetSubmit) : List UInt8 :=
  headerOfWords [UrbOp.retSubmit.toU32, r.seqnum, r.devid, r.direction, r.ep, r.status.toUInt32,
    r.actualLength, r.startFrame, r.numberOfPackets, r.errorCount]

/-- `CmdUnlink::parse`. -/
def CmdUnlink.parse : List UInt8 → Except (Fault UrbError) CmdUnlink :=
  parseUrb .cmdUnlink fun hdr => do
    return {
      seqnum := ← readU32 hdr 4
      devid := ← readU32 hdr 8
      direction := ← readU32 hdr 12
      ep := ← readU32 hdr 16
      unlinkSeqnum := ← readU32 hdr 20 }

/-- `CmdUnlink::encode`. -/
def CmdUnlink.encode (u : CmdUnlink) : List UInt8 :=
  headerOfWords [UrbOp.cmdUnlink.toU32, u.seqnum, u.devid, u.direction, u.ep, u.unlinkSeqnum]

/-- `RetUnlink::parse`. -/
def RetUnlink.parse : List UInt8 → Except (Fault UrbError) RetUnlink :=
  parseUrb .retUnlink fun hdr => do
    return {
      seqnum := ← readU32 hdr 4
      devid := ← readU32 hdr 8
      direction := ← readU32 hdr 12
      ep := ← readU32 hdr 16
      status := (← readU32 hdr 20).toInt32 }

/-- `RetUnlink::encode`. -/
def RetUnlink.encode (r : RetUnlink) : List UInt8 :=
  headerOfWords [UrbOp.retUnlink.toU32, r.seqnum, r.devid, r.direction, r.ep, r.status.toUInt32]

/-- `peek_urb_op`. -/
def peekUrbOp (hdr : List UInt8) : Except (Fault UrbError) (Option UrbOp) :=
  if hdr.length < 4 then .ok none
  else do
    return UrbOp.fromU32 (← readU32 hdr 0)

/-! ### Words at offsets -/

/-- The word at an offset, zeros beyond the end. -/
def wordAt (b : List UInt8) (off : ℕ) : UInt32 :=
  beU32 (b.getD off 0) (b.getD (off + 1) 0) (b.getD (off + 2) 0) (b.getD (off + 3) 0)

section Words

variable {ε : Type}

theorem index_eq_getD {b : List UInt8} {i : ℕ} (h : i < b.length) :
    (index b i : Except (Fault ε) UInt8) = .ok (b.getD i 0) := by
  rw [index_eq_ok h, List.getD_eq_getElem?_getD, List.getElem?_eq_getElem h, Option.getD_some]

/-- Reading a word that lies inside the buffer. -/
theorem readU32_eq_ok {b : List UInt8} {off : ℕ} (h : off + 4 ≤ b.length) :
    (readU32 b off : Except (Fault ε) UInt32) = .ok (wordAt b off) := by
  rw [readU32, index_eq_getD (by omega), ok_bind, index_eq_getD (by omega), ok_bind,
    index_eq_getD (by omega), ok_bind, index_eq_getD (by omega), ok_bind, pure_eq_ok, wordAt]

/-- The words of a buffer that starts with words. -/
theorem wordAt_flatMap (words : List UInt32) (rest : List UInt8) (i : ℕ) (h : i < words.length) :
    wordAt (words.flatMap toBe32 ++ rest) (4 * i) = words[i] := by
  induction words generalizing i with
  | nil => simp at h
  | cons w words ih =>
      cases i with
      | zero => exact beU32_toBe32 w
      | succ i => exact ih i (by simpa using h)

end Words

/-- The setup packet of a header. -/
def setupAt (b : List UInt8) : Setup := ⟨(List.range 8).map fun i => b.getD (40 + i) 0, by simp⟩

theorem slice_setup {ε : Type} {b : List UInt8} (h : urbHeaderLen ≤ b.length) :
    (slice b 40 48 : Except (Fault ε) (List UInt8)) = .ok (setupAt b).1 := by
  rw [urbHeaderLen] at h
  have hlen : ((b.take 48).drop 40).length = 8 := by
    rw [List.length_drop, List.length_take, Nat.min_eq_left h]
  rw [slice_eq_ok (by omega) h]
  congr 1
  apply List.ext_getElem (hlen.trans (setupAt b).2.symm)
  intro i hi _
  rw [hlen] at hi
  have hib : 40 + i < b.length := by omega
  simp [setupAt, List.getElem_take, hib]

/-- The setup packet of a header that is put together from forty bytes and eight. -/
theorem setupAt_append {p : List UInt8} (hp : p.length = 40) (setup : Setup) (t : List UInt8) :
    setupAt (p ++ setup.1 ++ t) = setup := by
  obtain ⟨bytes, hbytes⟩ := setup
  apply Subtype.ext
  apply List.ext_getElem ((setupAt _).2.trans hbytes.symm)
  intro i _ hi
  have hleft : 40 + i < (p ++ bytes).length := by rw [List.length_append]; omega
  simp only [setupAt, List.getElem_map, List.getElem_range, List.getD_eq_getElem?_getD]
  rw [List.getElem?_append_left hleft, List.getElem?_append_right (by omega), hp,
    Nat.add_sub_cancel_left, List.getElem?_eq_getElem hi, Option.getD_some]

theorem copySetup_val {ε : Type} (setup : Setup) :
    (copySetup setup.1 : Except (Fault ε) Setup) = .ok setup := by
  rw [copySetup, dif_pos setup.2]

/-! ### The parsers

No access of a header parser is out of range; what it returns are the words of the header. -/

/-- **A header parser**: the length, then the command, then the fields. -/
theorem parseUrb_eq {α : Type} {op : UrbOp} {fields : List UInt8 → Except (Fault UrbError) α}
    {f : List UInt8 → α} (hf : ∀ hdr, urbHeaderLen ≤ hdr.length → fields hdr = .ok (f hdr))
    (hdr : List UInt8) :
    parseUrb op fields hdr =
      if hdr.length < urbHeaderLen then .error (.err (.short hdr.length))
      else if wordAt hdr 0 ≠ op.toU32 then .error (.err (.unknownCommand (wordAt hdr 0)))
      else .ok (f hdr) := by
  rw [parseUrb]
  split_ifs with hlen hop
  · rfl
  · rw [readU32_eq_ok (by rw [urbHeaderLen] at hlen; omega), ok_bind, if_pos hop, throw_eq_error]
  · rw [readU32_eq_ok (by rw [urbHeaderLen] at hlen; omega), ok_bind, if_neg hop]
    exact hf hdr (Nat.le_of_not_lt hlen)

/-- The fields of a CMD_SUBMIT header. -/
def CmdSubmit.ofHeader (b : List UInt8) : CmdSubmit where
  seqnum := wordAt b 4
  devid := wordAt b 8
  direction := wordAt b 12
  ep := wordAt b 16
  transferFlags := wordAt b 20
  transferBufferLength := wordAt b 24
  startFrame := wordAt b 28
  numberOfPackets := wordAt b 32
  interval := wordAt b 36
  setup := setupAt b

/-- The fields of a RET_SUBMIT header. -/
def RetSubmit.ofHeader (b : List UInt8) : RetSubmit where
  seqnum := wordAt b 4
  devid := wordAt b 8
  direction := wordAt b 12
  ep := wordAt b 16
  status := (wordAt b 20).toInt32
  actualLength := wordAt b 24
  startFrame := wordAt b 28
  numberOfPackets := wordAt b 32
  errorCount := wordAt b 36

/-- The fields of a CMD_UNLINK header. -/
def CmdUnlink.ofHeader (b : List UInt8) : CmdUnlink where
  seqnum := wordAt b 4
  devid := wordAt b 8
  direction := wordAt b 12
  ep := wordAt b 16
  unlinkSeqnum := wordAt b 20

/-- The fields of a RET_UNLINK header. -/
def RetUnlink.ofHeader (b : List UInt8) : RetUnlink where
  seqnum := wordAt b 4
  devid := wordAt b 8
  direction := wordAt b 12
  ep := wordAt b 16
  status := (wordAt b 20).toInt32

section ParseEq

variable {hdr : List UInt8}

/-- The words of a header are all in range. -/
theorem readU32_header {ε : Type} (h : urbHeaderLen ≤ hdr.length) {off : ℕ} (hoff : off ≤ 36) :
    (readU32 hdr off : Except (Fault ε) UInt32) = .ok (wordAt hdr off) :=
  readU32_eq_ok (by rw [urbHeaderLen] at h; omega)

theorem CmdSubmit.parse_eq (hdr : List UInt8) :
    CmdSubmit.parse hdr =
      if hdr.length < urbHeaderLen then .error (.err (.short hdr.length))
      else if wordAt hdr 0 ≠ UrbOp.cmdSubmit.toU32 then
        .error (.err (.unknownCommand (wordAt hdr 0)))
      else .ok (ofHeader hdr) := by
  apply parseUrb_eq
  intro hdr h
  simp (disch := decide) only [slice_setup h, copySetup_val, readU32_header h, ok_bind, pure_eq_ok,
    ofHeader]

theorem RetSubmit.parse_eq (hdr : List UInt8) :
    RetSubmit.parse hdr =
      if hdr.length < urbHeaderLen then .error (.err (.short hdr.length))
      else if wordAt hdr 0 ≠ UrbOp.retSubmit.toU32 then
        .error (.err (.unknownCommand (wordAt hdr 0)))
      else .ok (ofHeader hdr) := by
  apply parseUrb_eq
  intro hdr h
  simp (disch := decide) only [readU32_header h, ok_bind, pure_eq_ok, ofHeader]

theorem CmdUnlink.parse_eq (hdr : List UInt8) :
    CmdUnlink.parse hdr =
      if hdr.length < urbHeaderLen then .error (.err (.short hdr.length))
      else if wordAt hdr 0 ≠ UrbOp.cmdUnlink.toU32 then
        .error (.err (.unknownCommand (wordAt hdr 0)))
      else .ok (ofHeader hdr) := by
  apply parseUrb_eq
  intro hdr h
  simp (disch := decide) only [readU32_header h, ok_bind, pure_eq_ok, ofHeader]

theorem RetUnlink.parse_eq (hdr : List UInt8) :
    RetUnlink.parse hdr =
      if hdr.length < urbHeaderLen then .error (.err (.short hdr.length))
      else if wordAt hdr 0 ≠ UrbOp.retUnlink.toU32 then
        .error (.err (.unknownCommand (wordAt hdr 0)))
      else .ok (ofHeader hdr) := by
  apply parseUrb_eq
  intro hdr h
  simp (disch := decide) only [readU32_header h, ok_bind, pure_eq_ok, ofHeader]

theorem peekUrbOp_eq (h : urbHeaderLen ≤ hdr.length) :
    peekUrbOp hdr = .ok (UrbOp.fromU32 (wordAt hdr 0)) := by
  rw [peekUrbOp, if_neg (by rw [urbHeaderLen] at h; omega), readU32_header h (by decide), ok_bind,
    pure_eq_ok]

end ParseEq

theorem UsbipFrame.parse_eq (payload : List UInt8) :
    UsbipFrame.parse payload =
      if payload.length < 4 then .error (.err (.short payload.length))
      else .ok ⟨wordAt payload 0, payload.drop 4⟩ := by
  rw [UsbipFrame.parse]
  split_ifs with h
  · rfl
  · rw [index_eq_getD (by omega), ok_bind, index_eq_getD (by omega), ok_bind,
      index_eq_getD (by omega), ok_bind, index_eq_getD (by omega), ok_bind,
      sliceFrom_eq_ok (by omega), ok_bind, pure_eq_ok, wordAt]

/-- The op of a word is the one whose code it is. -/
theorem UrbOp.fromU32_eq_some {v : UInt32} {op : UrbOp} :
    UrbOp.fromU32 v = some op ↔ v = op.toU32 := by
  constructor
  · intro h
    unfold UrbOp.fromU32 at h
    split_ifs at h with h₁ h₂ h₃ h₄ <;> cases h <;> assumption
  · rintro rfl
    cases op <;> rfl

section Take

variable {b : List UInt8}

theorem wordAt_take {n off : ℕ} (h : off + 4 ≤ n) : wordAt (b.take n) off = wordAt b off := by
  have hget (i : ℕ) (hi : i < n) : (b.take n).getD i 0 = b.getD i 0 := by
    rw [List.getD_eq_getElem?_getD, List.getElem?_take_of_lt hi, List.getD_eq_getElem?_getD]
  rw [wordAt, hget _ (by omega), hget _ (by omega), hget _ (by omega), hget _ (by omega), wordAt]

theorem setupAt_take : setupAt (b.take urbHeaderLen) = setupAt b := by
  apply Subtype.ext
  simp only [setupAt]
  apply List.map_congr_left
  intro i hi
  have hi : 40 + i < urbHeaderLen := by rw [List.mem_range] at hi; rw [urbHeaderLen]; omega
  rw [List.getD_eq_getElem?_getD, List.getElem?_take_of_lt hi, List.getD_eq_getElem?_getD]

/-- The parsers look at the header only. -/
theorem CmdSubmit.ofHeader_take : ofHeader (b.take urbHeaderLen) = ofHeader b := by
  simp (disch := decide) only [ofHeader, wordAt_take, setupAt_take]

theorem CmdUnlink.ofHeader_take : ofHeader (b.take urbHeaderLen) = ofHeader b := by
  simp (disch := decide) only [ofHeader, wordAt_take]

theorem RetSubmit.ofHeader_take : ofHeader (b.take urbHeaderLen) = ofHeader b := by
  simp (disch := decide) only [ofHeader, wordAt_take]

theorem RetUnlink.ofHeader_take : ofHeader (b.take urbHeaderLen) = ofHeader b := by
  simp (disch := decide) only [ofHeader, wordAt_take]

end Take

/-! ### The round trips -/

theorem UsbipFrame.parse_encode (f : UsbipFrame) : UsbipFrame.parse f.encode = .ok f := by
  have hword : wordAt f.encode 0 = f.importId := beU32_toBe32 f.importId
  have hlen : ¬ f.encode.length < 4 := by
    rw [encode, List.length_append, length_toBe32]
    omega
  rw [parse_eq, if_neg hlen, hword]
  rfl

theorem length_headerOfWords {words : List UInt32} (h : words.length ≤ 12) :
    (headerOfWords words).length = urbHeaderLen := by
  have hwords (ws : List UInt32) : (ws.flatMap toBe32).length = 4 * ws.length := by
    induction ws with
    | nil => rfl
    | cons w ws ih =>
        rw [List.flatMap_cons, List.length_append, ih, length_toBe32, List.length_cons]
        omega
  rw [headerOfWords, List.length_append, hwords, List.length_replicate, urbHeaderLen]
  omega

/-- The words of a header, whatever follows it. -/
theorem wordAt_headerOfWords (words : List UInt32) (t : List UInt8) (i : ℕ)
    (h : i < words.length) : wordAt (headerOfWords words ++ t) (4 * i) = words[i] := by
  rw [headerOfWords, List.append_assoc]
  exact wordAt_flatMap words _ i h

theorem RetSubmit.length_encode (r : RetSubmit) : r.encode.length = urbHeaderLen :=
  length_headerOfWords (by simp)

theorem RetUnlink.length_encode (r : RetUnlink) : r.encode.length = urbHeaderLen :=
  length_headerOfWords (by simp)

theorem CmdUnlink.length_encode (u : CmdUnlink) : u.encode.length = urbHeaderLen :=
  length_headerOfWords (by simp)

theorem CmdSubmit.length_encode (c : CmdSubmit) : c.encode.length = urbHeaderLen := by
  rw [CmdSubmit.encode, List.length_append, c.setup.2]
  rfl

/-- A header parser reads back a packet whose first word is its command. -/
theorem parse_of_header {α : Type} {parse : List UInt8 → Except (Fault UrbError) α} {op : UrbOp}
    {ofHeader : List UInt8 → α} {hdr : List UInt8} {a : α}
    (hparse : parse hdr =
      if hdr.length < urbHeaderLen then .error (.err (.short hdr.length))
      else if wordAt hdr 0 ≠ op.toU32 then .error (.err (.unknownCommand (wordAt hdr 0)))
      else .ok (ofHeader hdr))
    (hlen : urbHeaderLen ≤ hdr.length) (hop : wordAt hdr 0 = op.toU32) (ha : ofHeader hdr = a) :
    parse hdr = .ok a := by
  rw [hparse, if_neg (Nat.not_lt.2 hlen), if_neg (not_not.2 hop), ha]

/-- A RET_SUBMIT header is read back, whatever follows it. -/
theorem RetSubmit.parse_encode (r : RetSubmit) (t : List UInt8) :
    RetSubmit.parse (r.encode ++ t) = .ok r := by
  have word (i : ℕ) (h : i < 10) := wordAt_headerOfWords [UrbOp.retSubmit.toU32, r.seqnum, r.devid,
    r.direction, r.ep, r.status.toUInt32, r.actualLength, r.startFrame, r.numberOfPackets,
    r.errorCount] t i h
  have hlen : urbHeaderLen ≤ (r.encode ++ t).length := by
    rw [List.length_append, RetSubmit.length_encode]
    omega
  apply parse_of_header (RetSubmit.parse_eq _) hlen (word 0 (by decide))
  exact RetSubmit.ext (word 1 (by decide)) (word 2 (by decide)) (word 3 (by decide))
      (word 4 (by decide)) (congrArg UInt32.toInt32 (word 5 (by decide))) (word 6 (by decide))
      (word 7 (by decide)) (word 8 (by decide)) (word 9 (by decide))

/-- A RET_UNLINK header is read back, whatever follows it. -/
theorem RetUnlink.parse_encode (r : RetUnlink) (t : List UInt8) :
    RetUnlink.parse (r.encode ++ t) = .ok r := by
  have word (i : ℕ) (h : i < 6) := wordAt_headerOfWords [UrbOp.retUnlink.toU32, r.seqnum, r.devid,
    r.direction, r.ep, r.status.toUInt32] t i h
  have hlen : urbHeaderLen ≤ (r.encode ++ t).length := by
    rw [List.length_append, RetUnlink.length_encode]
    omega
  apply parse_of_header (RetUnlink.parse_eq _) hlen (word 0 (by decide))
  exact RetUnlink.ext (word 1 (by decide)) (word 2 (by decide)) (word 3 (by decide))
      (word 4 (by decide)) (congrArg UInt32.toInt32 (word 5 (by decide)))

/-- A CMD_UNLINK header is read back, whatever follows it. -/
theorem CmdUnlink.parse_encode (u : CmdUnlink) (t : List UInt8) :
    CmdUnlink.parse (u.encode ++ t) = .ok u := by
  have word (i : ℕ) (h : i < 6) := wordAt_headerOfWords [UrbOp.cmdUnlink.toU32, u.seqnum, u.devid,
    u.direction, u.ep, u.unlinkSeqnum] t i h
  have hlen : urbHeaderLen ≤ (u.encode ++ t).length := by
    rw [List.length_append, CmdUnlink.length_encode]
    omega
  apply parse_of_header (CmdUnlink.parse_eq _) hlen (word 0 (by decide))
  exact CmdUnlink.ext (word 1 (by decide)) (word 2 (by decide)) (word 3 (by decide))
      (word 4 (by decide)) (word 5 (by decide))

/-- A CMD_SUBMIT header is read back, whatever follows it. -/
theorem CmdSubmit.parse_encode (c : CmdSubmit) (t : List UInt8) :
    CmdSubmit.parse (c.encode ++ t) = .ok c := by
  have word (i : ℕ) (h : i < 10) := wordAt_flatMap [UrbOp.cmdSubmit.toU32, c.seqnum, c.devid,
    c.direction, c.ep, c.transferFlags, c.transferBufferLength, c.startFrame, c.numberOfPackets,
    c.interval] (c.setup.1 ++ t) i h
  rw [← List.append_assoc] at word
  have hlen : urbHeaderLen ≤ (c.encode ++ t).length := by
    rw [List.length_append, CmdSubmit.length_encode]
    omega
  apply parse_of_header (CmdSubmit.parse_eq _) hlen (word 0 (by decide))
  exact CmdSubmit.ext (word 1 (by decide)) (word 2 (by decide)) (word 3 (by decide))
    (word 4 (by decide)) (word 5 (by decide)) (word 6 (by decide)) (word 7 (by decide))
    (word 8 (by decide)) (word 9 (by decide)) (setupAt_append rfl c.setup t)

/-! ### Encoding what has been parsed -/

/-- The bytes of a word. -/
theorem toBe32_wordAt {b : List UInt8} {off : ℕ} (h : off + 4 ≤ b.length) :
    toBe32 (wordAt b off) = (b.drop off).take 4 := by
  have hget (i : ℕ) : b.getD (off + i) 0 = (b.drop off).getD i 0 := by
    rw [List.getD_eq_getElem?_getD, List.getD_eq_getElem?_getD, List.getElem?_drop]
  have hlen : 4 ≤ (b.drop off).length := by
    rw [List.length_drop]
    omega
  have hfirst := hget 0
  rw [Nat.add_zero] at hfirst
  rw [wordAt, hfirst, hget 1, hget 2, hget 3, toBe32_beU32]
  rcases hrest : b.drop off with _ | ⟨b₀, _ | ⟨b₁, _ | ⟨b₂, _ | ⟨b₃, rest⟩⟩⟩⟩
  all_goals rw [hrest] at hlen
  · exact absurd hlen (by simp)
  · exact absurd hlen (by simp)
  · exact absurd hlen (by simp)
  · exact absurd hlen (by simp)
  · rfl

/-- The words of a buffer, one after the other, are its bytes. -/
theorem flatMap_wordAt {b : List UInt8} (n : ℕ) (h : 4 * n ≤ b.length) :
    ((List.range n).map fun i => wordAt b (4 * i)).flatMap toBe32 = b.take (4 * n) := by
  induction n with
  | zero => simp
  | succ n ih =>
      rw [List.range_succ, List.map_append, List.flatMap_append, ih (by omega), List.map_singleton,
        List.flatMap_singleton, toBe32_wordAt (by omega), Nat.mul_succ, List.take_add]

section Encode

variable {b : List UInt8} (h : urbHeaderLen ≤ b.length)

include h

/-- The header of a CMD_SUBMIT holds nothing but its fields. -/
theorem CmdSubmit.encode_ofHeader (hop : wordAt b 0 = UrbOp.cmdSubmit.toU32) :
    (ofHeader b).encode = b.take urbHeaderLen := by
  have hlen : 48 ≤ b.length := h
  have hsetup := slice_setup (ε := UrbError) h
  rw [slice_eq_ok (by decide) hlen, Except.ok.injEq] at hsetup
  have hwords : [wordAt b 0, wordAt b 4, wordAt b 8, wordAt b 12, wordAt b 16, wordAt b 20,
      wordAt b 24, wordAt b 28, wordAt b 32, wordAt b 36].flatMap toBe32 = b.take 40 :=
    flatMap_wordAt 10 (by rw [urbHeaderLen] at h; omega)
  rw [hop] at hwords
  rw [CmdSubmit.encode, ofHeader, hwords, ← hsetup, List.drop_take, urbHeaderLen]
  exact (List.take_add (i := 40) (j := 8)).symm

/-- The header of a RET_SUBMIT ends with eight bytes that are not looked at. -/
theorem RetSubmit.encode_ofHeader (hop : wordAt b 0 = UrbOp.retSubmit.toU32) :
    (ofHeader b).encode = b.take 40 ++ List.replicate 8 0 := by
  have hwords : [wordAt b 0, wordAt b 4, wordAt b 8, wordAt b 12, wordAt b 16, wordAt b 20,
      wordAt b 24, wordAt b 28, wordAt b 32, wordAt b 36].flatMap toBe32 = b.take 40 :=
    flatMap_wordAt 10 (by rw [urbHeaderLen] at h; omega)
  rw [hop] at hwords
  rw [RetSubmit.encode, ofHeader, headerOfWords, UInt32.toUInt32_toInt32, hwords]
  rfl

/-- The header of a CMD_UNLINK ends with 24 bytes that are not looked at. -/
theorem CmdUnlink.encode_ofHeader (hop : wordAt b 0 = UrbOp.cmdUnlink.toU32) :
    (ofHeader b).encode = b.take 24 ++ List.replicate 24 0 := by
  have hwords : [wordAt b 0, wordAt b 4, wordAt b 8, wordAt b 12, wordAt b 16, wordAt b 20].flatMap
      toBe32 = b.take 24 := flatMap_wordAt 6 (by rw [urbHeaderLen] at h; omega)
  rw [hop] at hwords
  rw [CmdUnlink.encode, ofHeader, headerOfWords, hwords]
  rfl

/-- The header of a RET_UNLINK ends with 24 bytes that are not looked at. -/
theorem RetUnlink.encode_ofHeader (hop : wordAt b 0 = UrbOp.retUnlink.toU32) :
    (ofHeader b).encode = b.take 24 ++ List.replicate 24 0 := by
  have hwords : [wordAt b 0, wordAt b 4, wordAt b 8, wordAt b 12, wordAt b 16, wordAt b 20].flatMap
      toBe32 = b.take 24 := flatMap_wordAt 6 (by rw [urbHeaderLen] at h; omega)
  rw [hop] at hwords
  rw [RetUnlink.encode, ofHeader, headerOfWords, UInt32.toUInt32_toInt32, hwords]
  rfl

/-- **When a header is accepted**: it is long enough, and the first word is the code of its op. -/
theorem parse_header_iff {α : Type} {parse : List UInt8 → Except (Fault UrbError) α} {op : UrbOp}
    {ofHeader : List UInt8 → α}
    (hparse : parse b =
      if b.length < urbHeaderLen then .error (.err (.short b.length))
      else if wordAt b 0 ≠ op.toU32 then .error (.err (.unknownCommand (wordAt b 0)))
      else .ok (ofHeader b)) {a : α} :
    parse b = .ok a ↔ wordAt b 0 = op.toU32 ∧ ofHeader b = a := by
  rw [hparse, if_neg (Nat.not_lt.2 h)]
  split_ifs with hop
  · exact iff_of_false (by intro hok; cases hok) fun hok => hop hok.1
  · rw [Except.ok.injEq]
    exact ⟨fun ha => ⟨not_not.1 hop, ha⟩, And.right⟩

end Encode

/-- **The parser of an op accepts a buffer.** -/
def UrbOp.Accepts (buf : List UInt8) : UrbOp → Prop
  | .cmdSubmit => ∃ c, CmdSubmit.parse buf = .ok c
  | .cmdUnlink => ∃ u, CmdUnlink.parse buf = .ok u
  | .retSubmit => ∃ r, RetSubmit.parse buf = .ok r
  | .retUnlink => ∃ r, RetUnlink.parse buf = .ok r

/-- A buffer is accepted by the parser of the op that it starts with, and by no other. -/
theorem UrbOp.accepts_iff {buf : List UInt8} (h : urbHeaderLen ≤ buf.length) (op : UrbOp) :
    op.Accepts buf ↔ peekUrbOp buf = .ok (some op) := by
  rw [peekUrbOp_eq h, Except.ok.injEq, UrbOp.fromU32_eq_some]
  cases op with
  | cmdSubmit =>
      simp only [Accepts, parse_header_iff h (CmdSubmit.parse_eq buf)]
      simp
  | cmdUnlink =>
      simp only [Accepts, parse_header_iff h (CmdUnlink.parse_eq buf)]
      simp
  | retSubmit =>
      simp only [Accepts, parse_header_iff h (RetSubmit.parse_eq buf)]
      simp
  | retUnlink =>
      simp only [Accepts, parse_header_iff h (RetUnlink.parse_eq buf)]
      simp

/-- **The four headers.**  Each is read back whatever follows it; a buffer is read by the parser of
the op that it starts with and by no other; and what has been read is encoded to the bytes it was
read from, up to the padding. -/
theorem urb_headers :
    ((∀ (c : CmdSubmit) (t : List UInt8), CmdSubmit.parse (c.encode ++ t) = .ok c) ∧
      (∀ (r : RetSubmit) (t : List UInt8), RetSubmit.parse (r.encode ++ t) = .ok r) ∧
      (∀ (u : CmdUnlink) (t : List UInt8), CmdUnlink.parse (u.encode ++ t) = .ok u) ∧
      ∀ (r : RetUnlink) (t : List UInt8), RetUnlink.parse (r.encode ++ t) = .ok r) ∧
    ∀ buf : List UInt8, urbHeaderLen ≤ buf.length →
      (∀ op : UrbOp, op.Accepts buf ↔ peekUrbOp buf = .ok (some op)) ∧
      (∀ c, CmdSubmit.parse buf = .ok c → c.encode = buf.take urbHeaderLen) ∧
      (∀ r, RetSubmit.parse buf = .ok r → r.encode = buf.take 40 ++ List.replicate 8 0) ∧
      (∀ u, CmdUnlink.parse buf = .ok u → u.encode = buf.take 24 ++ List.replicate 24 0) ∧
      ∀ r, RetUnlink.parse buf = .ok r → r.encode = buf.take 24 ++ List.replicate 24 0 := by
  refine ⟨⟨CmdSubmit.parse_encode, RetSubmit.parse_encode, CmdUnlink.parse_encode,
    RetUnlink.parse_encode⟩, fun buf h => ⟨UrbOp.accepts_iff h, ?_, ?_, ?_, ?_⟩⟩
  · intro c hc
    obtain ⟨hop, rfl⟩ := (parse_header_iff h (CmdSubmit.parse_eq buf)).1 hc
    exact CmdSubmit.encode_ofHeader h hop
  · intro r hr
    obtain ⟨hop, rfl⟩ := (parse_header_iff h (RetSubmit.parse_eq buf)).1 hr
    exact RetSubmit.encode_ofHeader h hop
  · intro u hu
    obtain ⟨hop, rfl⟩ := (parse_header_iff h (CmdUnlink.parse_eq buf)).1 hu
    exact CmdUnlink.encode_ofHeader h hop
  · intro r hr
    obtain ⟨hop, rfl⟩ := (parse_header_iff h (RetUnlink.parse_eq buf)).1 hr
    exact RetUnlink.encode_ofHeader h hop

/-- A RET_UNLINK in front of padding that is not zero. -/
theorem urb_headers_retUnlink :
    RetUnlink.encode ⟨9, 0, 0, 0, -104⟩ =
      (([0, 0, 0, 4, 0, 0, 0, 9] ++ List.replicate 12 0 ++ [0xFF, 0xFF, 0xFF, 0x98] ++
        List.replicate 24 7 : List UInt8).take 24) ++ List.replicate 24 0 :=
  (urb_headers.2 ([0, 0, 0, 4, 0, 0, 0, 9] ++ List.replicate 12 0 ++ [0xFF, 0xFF, 0xFF, 0x98] ++
    List.replicate 24 7) (by decide)).2.2.2.2 ⟨9, 0, 0, 0, -104⟩ (by decide)

end Zerowire

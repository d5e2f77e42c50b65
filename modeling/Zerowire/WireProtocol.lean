/-
**The envelope on the phone** (`android-sender/.../WireProtocol.kt`), and the agreement of all
readers.

The Kotlin port of the envelope checks the header field by field before it reads the payload, and
its length is a signed 32-bit integer.  The Rust readers read the payload first and leave all checks
to `Envelope::parse`, with an unsigned length.  They accept the same streams, return the same
envelope and leave the same bytes unread, so any mixture of the two writers can be read by any of
the readers.

Main definitions:

* `Zerowire.WireProtocol.writeEnvelope`, `Zerowire.WireProtocol.readEnvelope` — the Kotlin
  functions;
* `Zerowire.Reader`, `Zerowire.Writer` — the readers and the writers of both languages;
* `Zerowire.Reader.recvRepeatedly`, `Zerowire.sendAll` — calling one again and again.

Main results:

* `Zerowire.WireProtocol.exec_readEnvelope_of_parse`,
  `Zerowire.WireProtocol.exec_readEnvelope_of_not_parse` — the Kotlin reader against the parser;
* `Zerowire.readers_agree` — **all readers accept the same language**, and recover what any of the
  writers have written.
-/

import Zerowire.Jvm
import Zerowire.Wire

set_option relaxedAutoImplicit false
set_option autoImplicit false

namespace Zerowire

open Bytes Program

variable {X : Sig} {τ : Type}

namespace WireProtocol

open Jvm

/-! ### The Kotlin functions -/

/-- The messages of the `IOException`s, with what they print. -/
inductive WireError where
  | badMagic (b₀ b₁ : UInt8)
  | unsupportedVersion (v : UInt8)
  | unknownChannel (v : UInt8)
  | lengthOutOfRange (len : Int32)
  /-- `EOFException` of `DataInputStream.readFully`. -/
  | eof
  /-- The stream refused the bytes. -/
  | write
  deriving Repr, DecidableEq

/-- The `byte` of each `WireProtocol.Channel`. -/
def channelByte : Channel → UInt8
  | .control => 0x01
  | .usbip => 0x02
  | .hid => 0x03
  | .keepalive => 0x7F

/-- `Channel.fromByte`: the first entry with that byte. -/
def fromByte (b : UInt8) : Option Channel :=
  [Channel.control, .usbip, .hid, .keepalive].find? fun c => channelByte c == b

/-- The header that `writeEnvelope` fills in. -/
def envelopeHeader (channel : Channel) (payload : List UInt8) :
    Except (Throwable WireError) (List UInt8) := do
  let hdr ← newByteArray 8
  let hdr ← put hdr 0 [0x5A]
  let hdr ← put hdr 1 [0x57]
  let hdr ← put hdr 2 [1]
  let hdr ← put hdr 3 [channelByte channel]
  putInts hdr 4 [size payload]

/-- `out.write(bytes)`. -/
def write (bytes : List UInt8) : Act X (Throwable WireError) Unit := do
  if ← writeAll bytes then return () else throw (.io .write)

/-- `WireProtocol.writeEnvelope`.  It does not check the size of the payload. -/
def writeEnvelope (channel : Channel) (payload : List UInt8) :
    Act X (Throwable WireError) Unit := do
  let hdr ← ofResult (envelopeHeader channel payload)
  write hdr
  write payload

/-- `DataInputStream.readFully`: fill the whole array. -/
def readFully (buf : List UInt8) : Act X (Throwable WireError) (List UInt8) := do
  match ← readExact buf.length with
  | none => throw (.io .eof)
  | some bytes => return bytes

/-- The checks of `readEnvelope` on the header, in their order: the channel and the length. -/
def checkHeader (hdr : List UInt8) : Except (Throwable WireError) (Channel × Int32) := do
  if (← get hdr 0) ≠ 0x5A ∨ (← get hdr 1) ≠ 0x57 then
    throw (.io (.badMagic (← get hdr 0) (← get hdr 1)))
  else if (← get hdr 2) ≠ 1 then
    throw (.io (.unsupportedVersion (← get hdr 2)))
  else
    match fromByte (← get hdr 3) with
    | none => throw (.io (.unknownChannel (← get hdr 3)))
    | some channel =>
        let len ← getInt hdr 4
        if len < 0 ∨ len > (1 : Int32) <<< (20 : Int32) then throw (.io (.lengthOutOfRange len))
        else return (channel, len)

/-- `WireProtocol.readEnvelope`. -/
def readEnvelope : Act X (Throwable WireError) Envelope := do
  let hdr ← ofResult (newByteArray 8)
  let hdr ← readFully hdr
  let (channel, len) ← ofResult (checkHeader hdr)
  let payload ← ofResult (newByteArray len)
  if len > 0 then
    let payload ← readFully payload
    return ⟨channel, payload⟩
  else return ⟨channel, payload⟩

/-! ### The writer -/

theorem channelByte_eq (c : Channel) : channelByte c = c.toU8 := by cases c <;> rfl

theorem envelopeHeader_eq (channel : Channel) (payload : List UInt8) :
    envelopeHeader channel payload =
      .ok (magic ++ [protocolVersion, channel.toU8] ++ toBe32 (UInt32.ofNat payload.length)) := by
  rw [← channelByte_eq]
  rfl

@[simp] theorem exec_write (env : Env X τ) (bytes : List UInt8) (s : Io τ) :
    exec env (write bytes) s = (.ok (), { s with output := s.output ++ bytes }) := rfl

/-- The phone writes the bytes of the envelope, and does so even if it does not fit. -/
theorem exec_writeEnvelope (env : Env X τ) (channel : Channel) (payload : List UInt8)
    (s : Io τ) :
    exec env (writeEnvelope channel payload) s =
      (.ok (), { s with output := s.output ++ (⟨channel, payload⟩ : Envelope).bytes }) := by
  rw [writeEnvelope, envelopeHeader_eq, exec_ofResult_ok_bind,
    exec_bind_ok (exec_write env _ s), exec_write]
  simp only [Envelope.bytes, List.append_assoc]

/-! ### The reader -/

theorem fromByte_eq (b : UInt8) : fromByte b = (Channel.fromU8 b).toOption := by
  by_cases h₁ : b = 0x01
  · subst h₁; rfl
  by_cases h₂ : b = 0x02
  · subst h₂; rfl
  by_cases h₃ : b = 0x03
  · subst h₃; rfl
  by_cases h₄ : b = 0x7F
  · subst h₄; rfl
  simp [fromByte, channelByte, Channel.fromU8, Except.toOption, h₁, h₂, h₃, h₄, Ne.symm h₁,
    Ne.symm h₂, Ne.symm h₃, Ne.symm h₄]

/-- The signed comparison is the unsigned one: a length that is negative for the phone is larger
than the cap for the desktop. -/
theorem length_in_range (w : UInt32) :
    (w.toInt32 < 0 ∨ w.toInt32 > (1 : Int32) <<< (20 : Int32)) ↔ w.toNat > maxPayload := by
  have hcap : ((1 : Int32) <<< (20 : Int32)).toInt = maxPayload := by decide
  have hmax : maxPayload < 2 ^ 31 := by decide
  rw [toInt32_lt_zero_iff, gt_iff_lt, Int32.lt_iff_toInt_lt, hcap]
  by_cases h : w.toNat < 2 ^ 31
  · rw [toInt_toInt32 h]
    omega
  · constructor
    · intro _
      exact Nat.lt_of_lt_of_le hmax (Nat.le_of_not_lt h)
    · intro _
      exact Or.inl (Nat.le_of_not_lt h)

theorem checkHeader_eq (b₀ b₁ b₂ b₃ b₄ b₅ b₆ b₇ : UInt8) :
    checkHeader [b₀, b₁, b₂, b₃, b₄, b₅, b₆, b₇] =
      if [b₀, b₁] ≠ magic then .error (.io (.badMagic b₀ b₁))
      else if b₂ ≠ protocolVersion then .error (.io (.unsupportedVersion b₂))
      else match Channel.fromU8 b₃ with
        | .error _ => .error (.io (.unknownChannel b₃))
        | .ok channel =>
            if (beU32 b₄ b₅ b₆ b₇).toNat > maxPayload then
              .error (.io (.lengthOutOfRange (beU32 b₄ b₅ b₆ b₇).toInt32))
            else .ok (channel, (beU32 b₄ b₅ b₆ b₇).toInt32) := by
  have hmagic : (b₀ ≠ 0x5A ∨ b₁ ≠ 0x57) ↔ [b₀, b₁] ≠ magic := by
    simp only [magic, ne_eq, List.cons.injEq, and_true, not_and_or]
  simp only [checkHeader, getInt, get_cons_zero, get_cons_succ, ok_bind, pure_eq_ok,
    throw_eq_error, hmagic, fromByte_eq, length_in_range]
  rcases Channel.fromU8 b₃ with e | channel
  · rfl
  · rfl

/-- **The two sets of checks agree.**  A header that the phone accepts announces a payload within
the cap, and the parser then only waits for the payload. -/
theorem parse_of_checkHeader_ok {b₀ b₁ b₂ b₃ b₄ b₅ b₆ b₇ : UInt8} {channel : Channel}
    {len : Int32} (h : checkHeader [b₀, b₁, b₂, b₃, b₄, b₅, b₆, b₇] = .ok (channel, len))
    (rest : List UInt8) :
    (beU32 b₄ b₅ b₆ b₇).toInt32 = len ∧ ¬ (beU32 b₄ b₅ b₆ b₇).toNat > maxPayload ∧
    Envelope.parse (b₀ :: b₁ :: b₂ :: b₃ :: b₄ :: b₅ :: b₆ :: b₇ :: rest) =
      if rest.length < (beU32 b₄ b₅ b₆ b₇).toNat then .ok none
      else .ok (some (⟨channel, rest.take (beU32 b₄ b₅ b₆ b₇).toNat⟩,
        headerLen + (beU32 b₄ b₅ b₆ b₇).toNat)) := by
  rw [checkHeader_eq] at h
  rw [Envelope.parse_header]
  -- the checks are made in the same order on both sides
  by_cases hmagic : [b₀, b₁] ≠ magic
  · rw [if_pos hmagic] at h
    cases h
  by_cases hver : b₂ ≠ protocolVersion
  · rw [if_neg hmagic, if_pos hver] at h
    cases h
  rw [if_neg hmagic, if_neg hver] at h ⊢
  rcases hchan : Channel.fromU8 b₃ with e | c
  · rw [hchan] at h
    cases h
  · rw [hchan] at h
    simp only at h ⊢
    by_cases hbig : (beU32 b₄ b₅ b₆ b₇).toNat > maxPayload
    · rw [if_pos hbig] at h
      cases h
    · rw [if_neg hbig] at h
      simp only [Except.ok.injEq, Prod.mk.injEq] at h
      rw [if_neg hbig, h.1]
      exact ⟨h.2, hbig, rfl⟩

/-- A header that the phone refuses is refused by the parser, whatever follows. -/
theorem parse_of_checkHeader_error {b₀ b₁ b₂ b₃ b₄ b₅ b₆ b₇ : UInt8} {e : Throwable WireError}
    (h : checkHeader [b₀, b₁, b₂, b₃, b₄, b₅, b₆, b₇] = .error e) (rest : List UInt8) :
    (∃ err, e = .io err) ∧
    ∃ f, Envelope.parse (b₀ :: b₁ :: b₂ :: b₃ :: b₄ :: b₅ :: b₆ :: b₇ :: rest) = .error f := by
  rw [checkHeader_eq] at h
  rw [Envelope.parse_header]
  by_cases hmagic : [b₀, b₁] ≠ magic
  · rw [if_pos hmagic] at h ⊢
    exact ⟨⟨_, (Except.error.inj h).symm⟩, _, rfl⟩
  by_cases hver : b₂ ≠ protocolVersion
  · rw [if_neg hmagic, if_pos hver] at h ⊢
    exact ⟨⟨_, (Except.error.inj h).symm⟩, _, rfl⟩
  rw [if_neg hmagic, if_neg hver] at h ⊢
  rcases hchan : Channel.fromU8 b₃ with e | c
  · rw [hchan] at h
    exact ⟨⟨_, (Except.error.inj h).symm⟩, _, rfl⟩
  · rw [hchan] at h
    simp only at h ⊢
    by_cases hbig : (beU32 b₄ b₅ b₆ b₇).toNat > maxPayload
    · rw [if_pos hbig] at h ⊢
      exact ⟨⟨_, (Except.error.inj h).symm⟩, _, rfl⟩
    · rw [if_neg hbig] at h
      cases h

/-- Filling an array from a stream that holds enough bytes. -/
theorem exec_readFully_of_le (env : Env X τ) {buf : List UInt8} {s : Io τ}
    (h : buf.length ≤ s.input.length) :
    exec env (readFully buf) s =
      (.ok (s.input.take buf.length), { s with input := s.input.drop buf.length }) := by
  rw [readFully, exec_bind_ok (exec_readExact_of_le env h), exec_pure]

theorem exec_readFully_of_lt (env : Env X τ) {buf : List UInt8} {s : Io τ}
    (h : s.input.length < buf.length) :
    exec env (readFully buf) s = (.error (.io .eof), { s with input := [] }) := by
  rw [readFully, exec_bind_ok (exec_readExact_of_lt env h), exec_throw]

/-- The payload part of the reader; an empty payload is not read at all, which makes no
difference. -/
theorem exec_readPayload (env : Env X τ) (channel : Channel) {w : UInt32}
    (hw : ¬ w.toNat > maxPayload) (s : Io τ) :
    exec env (do
      let payload ← ofResult (newByteArray w.toInt32)
      if w.toInt32 > 0 then
        let payload ← readFully payload
        return (⟨channel, payload⟩ : Envelope)
      else return ⟨channel, payload⟩ : Act X (Throwable WireError) Envelope) s =
    if s.input.length < w.toNat then (.error (.io .eof), { s with input := [] })
    else (.ok ⟨channel, s.input.take w.toNat⟩, { s with input := s.input.drop w.toNat }) := by
  -- below the cap the length is not negative as an `Int`
  have hlt : w.toNat < 2 ^ 31 :=
    Nat.lt_of_le_of_lt (Nat.le_of_not_lt hw) (by decide)
  have hval := toInt_toInt32 hlt
  generalize w.toNat = len at hval
  generalize w.toInt32 = n at hval
  have hlen : (List.replicate len (0 : UInt8)).length = len := List.length_replicate
  rw [newByteArray_of_nonneg (by omega), hval, Int.toNat_natCast, exec_ofResult_ok_bind, exec_ite]
  by_cases hpos : n > 0
  · rw [if_pos hpos]
    by_cases hshort : s.input.length < len
    · rw [if_pos hshort, exec_bind_error (exec_readFully_of_lt env (by rwa [hlen]))]
    · rw [if_neg hshort, exec_bind_ok (exec_readFully_of_le env (by rw [hlen]; omega)), hlen,
        exec_pure]
  · have hzero : len = 0 := by
      rw [gt_iff_lt, Int32.lt_iff_toInt_lt, Int32.toInt_zero] at hpos
      omega
    subst hzero
    rw [if_neg hpos, if_neg (by omega), exec_pure]
    rfl

theorem exec_readEnvelope_header (env : Env X τ) {s : Io τ} {b₀ b₁ b₂ b₃ b₄ b₅ b₆ b₇ : UInt8}
    {rest : List UInt8} (hs : s.input = b₀ :: b₁ :: b₂ :: b₃ :: b₄ :: b₅ :: b₆ :: b₇ :: rest) :
    exec env readEnvelope s =
      match checkHeader [b₀, b₁, b₂, b₃, b₄, b₅, b₆, b₇] with
      | .error e => (.error e, { s with input := rest })
      | .ok (channel, _) =>
          if rest.length < (beU32 b₄ b₅ b₆ b₇).toNat then
            (.error (.io .eof), { s with input := [] })
          else
            (.ok ⟨channel, rest.take (beU32 b₄ b₅ b₆ b₇).toNat⟩,
              { s with input := rest.drop (beU32 b₄ b₅ b₆ b₇).toNat }) := by
  have hbuf : (newByteArray 8 : Except (Throwable WireError) _) = .ok (List.replicate 8 0) := rfl
  have hlen : (List.replicate 8 (0 : UInt8)).length ≤ s.input.length := by rw [hs]; simp
  have hheader : s.input.take 8 = [b₀, b₁, b₂, b₃, b₄, b₅, b₆, b₇] := by rw [hs]; rfl
  have hrest : s.input.drop 8 = rest := by rw [hs]; rfl
  rw [readEnvelope, hbuf, exec_ofResult_ok_bind, exec_bind_ok (exec_readFully_of_le env hlen),
    List.length_replicate, hheader, hrest]
  rcases hcheck : checkHeader [b₀, b₁, b₂, b₃, b₄, b₅, b₆, b₇] with e | ⟨channel, len⟩
  · rw [exec_ofResult_error_bind]
  · obtain ⟨rfl, hw, -⟩ := parse_of_checkHeader_ok hcheck rest
    rw [exec_ofResult_ok_bind]
    exact exec_readPayload env channel hw _

theorem exec_readEnvelope_short (env : Env X τ) {s : Io τ} (h : s.input.length < headerLen) :
    exec env readEnvelope s = (.error (.io .eof), { s with input := [] }) := by
  have hbuf : (newByteArray 8 : Except (Throwable WireError) _) = .ok (List.replicate 8 0) := rfl
  rw [readEnvelope, hbuf, exec_ofResult_ok_bind, exec_bind_error (exec_readFully_of_lt env ?_)]
  simpa [headerLen] using h

/-- Where the parser finds an envelope the phone returns it, and leaves what follows it. -/
theorem exec_readEnvelope_of_parse (env : Env X τ) {s : Io τ} {e : Envelope} {n : ℕ}
    (h : Envelope.parse s.input = .ok (some (e, n))) :
    exec env readEnvelope s = (.ok e, { s with input := s.input.drop n }) := by
  have hlen : ¬ s.input.length < headerLen := by
    intro hshort
    rw [Envelope.parse_short hshort] at h
    cases h
  obtain ⟨b₀, b₁, b₂, b₃, b₄, b₅, b₆, b₇, rest, hs⟩ := Envelope.exists_header hlen
  rw [exec_readEnvelope_header env hs, hs]
  rw [hs] at h
  rcases hcheck : checkHeader [b₀, b₁, b₂, b₃, b₄, b₅, b₆, b₇] with err | ⟨channel, len⟩
  · obtain ⟨-, f, hf⟩ := parse_of_checkHeader_error hcheck rest
    rw [hf] at h
    cases h
  · obtain ⟨-, -, hp⟩ := parse_of_checkHeader_ok hcheck rest
    rw [hp] at h
    simp only
    generalize (beU32 b₄ b₅ b₆ b₇).toNat = len at h ⊢
    by_cases hshort : rest.length < len
    · rw [if_pos hshort] at h
      cases h
    · rw [if_neg hshort] at h ⊢
      simp only [Except.ok.injEq, Option.some.injEq, Prod.mk.injEq] at h
      rw [← h.1, ← h.2, headerLen, Nat.add_comm 8 len]
      simp only [List.drop_succ_cons]

/-- Where the parser finds no envelope the phone throws an `IOException`. -/
theorem exec_readEnvelope_of_not_parse (env : Env X τ) {s : Io τ}
    (h : ∀ r, Envelope.parse s.input ≠ .ok (some r)) :
    ∃ err rest, exec env readEnvelope s = (.error (.io err), { s with input := rest }) := by
  by_cases hlen : s.input.length < headerLen
  · exact ⟨_, _, exec_readEnvelope_short env hlen⟩
  · obtain ⟨b₀, b₁, b₂, b₃, b₄, b₅, b₆, b₇, rest, hs⟩ := Envelope.exists_header hlen
    rw [exec_readEnvelope_header env hs]
    rcases hcheck : checkHeader [b₀, b₁, b₂, b₃, b₄, b₅, b₆, b₇] with err | ⟨channel, len⟩
    · obtain ⟨⟨err, rfl⟩, -⟩ := parse_of_checkHeader_error hcheck rest
      exact ⟨_, _, rfl⟩
    · obtain ⟨-, -, hp⟩ := parse_of_checkHeader_ok hcheck rest
      rw [hs, hp] at h
      simp only
      generalize (beU32 b₄ b₅ b₆ b₇).toNat = len at h ⊢
      by_cases hshort : rest.length < len
      · rw [if_pos hshort]
        exact ⟨_, _, rfl⟩
      · rw [if_neg hshort] at h
        exact absurd rfl (h _)

end WireProtocol

/-! ### All readers, all writers -/

/-- The functions that read one envelope off a stream. -/
inductive Reader where
  | wire
  | tls
  | phone
  deriving Repr, DecidableEq

/-- The functions that write one envelope to a stream. -/
inductive Writer where
  | wire
  | tls
  | phone
  deriving Repr, DecidableEq

/-- One call of a reader.  Which error it fails with is not compared. -/
def Reader.recv : Reader → Act X Unit Envelope
  | .wire => mapErr (fun _ => ()) Wire.recvEnvelope
  | .tls => mapErr (fun _ => ()) Tls.recvEnvelope
  | .phone => mapErr (fun _ => ()) WireProtocol.readEnvelope

/-- One call of a writer. -/
def Writer.send (e : Envelope) : Writer → Act X Unit Unit
  | .wire => mapErr (fun _ => ()) (Wire.sendEnvelope e.channel e.payload)
  | .tls => mapErr (fun _ => ()) (Tls.sendEnvelope e.channel e.payload)
  | .phone => mapErr (fun _ => ()) (WireProtocol.writeEnvelope e.channel e.payload)

/-- Envelopes written back to back, each by a writer of its own. -/
def sendAll : List (Writer × Envelope) → Act X Unit Unit
  | [] => return ()
  | (w, e) :: sent => do
      w.send e
      sendAll sent

/-- Call a reader until it fails, at most `n` times. -/
def Reader.recvRepeatedly (r : Reader) (env : Env X τ) : ℕ → Io τ → List Envelope × Io τ
  | 0, s => ([], s)
  | n + 1, s =>
      match exec env r.recv s with
      | (.ok e, s') =>
          let more := r.recvRepeatedly env n s'
          (e :: more.1, more.2)
      | (.error _, s') => ([], s')

section Agreement

variable (env : Env X τ)

/-- Where the parser finds an envelope, every reader returns it. -/
theorem Reader.exec_recv_of_parse (r : Reader) {s : Io τ} {e : Envelope} {n : ℕ}
    (h : Envelope.parse s.input = .ok (some (e, n))) :
    exec env r.recv s = (.ok e, { s with input := s.input.drop n }) := by
  cases r with
  | wire => rw [recv, exec_mapErr, Wire.recvEnvelope, exec_recvEnvelopeWith_of_parse env _ _ h]; rfl
  | tls => rw [recv, exec_mapErr, Tls.recvEnvelope, exec_recvEnvelopeWith_of_parse env _ _ h]; rfl
  | phone => rw [recv, exec_mapErr, WireProtocol.exec_readEnvelope_of_parse env h]; rfl

/-- Where the parser finds no envelope, every reader fails. -/
theorem Reader.exec_recv_of_not_parse (r : Reader) {s : Io τ}
    (h : ∀ p, Envelope.parse s.input ≠ .ok (some p)) :
    ∃ s', exec env r.recv s = (.error (), s') := by
  cases r with
  | wire =>
      obtain ⟨err, rest, hx⟩ := exec_recvEnvelopeWith_of_not_parse env
        "reading envelope header" "reading envelope payload" h
      exact ⟨_, by rw [recv, exec_mapErr, Wire.recvEnvelope, hx]; rfl⟩
  | tls =>
      obtain ⟨err, rest, hx⟩ := exec_recvEnvelopeWith_of_not_parse env
        "reading TLS header" "reading TLS payload" h
      exact ⟨_, by rw [recv, exec_mapErr, Tls.recvEnvelope, hx]; rfl⟩
  | phone =>
      obtain ⟨err, rest, hx⟩ := WireProtocol.exec_readEnvelope_of_not_parse env h
      exact ⟨_, by rw [recv, exec_mapErr, hx]; rfl⟩

/-- At the end of the stream every reader fails, and the stream stays at its end. -/
theorem Reader.exec_recv_nil (r : Reader) {s : Io τ} (h : s.input = []) :
    exec env r.recv s = (.error (), { s with input := [] }) := by
  have hshort : s.input.length < headerLen := by rw [h]; decide
  cases r with
  | wire => rw [recv, exec_mapErr, Wire.recvEnvelope, exec_recvEnvelopeWith_short env _ _ hshort]; rfl
  | tls => rw [recv, exec_mapErr, Tls.recvEnvelope, exec_recvEnvelopeWith_short env _ _ hshort]; rfl
  | phone => rw [recv, exec_mapErr, WireProtocol.exec_readEnvelope_short env hshort]; rfl

/-- Every writer writes the bytes of an envelope that fits. -/
theorem Writer.exec_send (w : Writer) {e : Envelope} (h : e.Fits) (s : Io τ) :
    exec env (w.send e) s = (.ok (), { s with output := s.output ++ e.bytes }) := by
  cases w with
  | wire => rw [send, exec_mapErr, Wire.sendEnvelope, exec_sendEnvelopeWith env _ h]; rfl
  | tls => rw [send, exec_mapErr, Tls.sendEnvelope, exec_sendEnvelopeWith env _ h]; rfl
  | phone => rw [send, exec_mapErr, WireProtocol.exec_writeEnvelope]; rfl

theorem exec_sendAll (sent : List (Writer × Envelope)) (h : ∀ p ∈ sent, p.2.Fits) (s : Io τ) :
    exec env (sendAll sent) s =
      (.ok (), { s with output := s.output ++ sent.flatMap fun p => p.2.bytes }) := by
  induction sent generalizing s with
  | nil => simp [sendAll]
  | cons p sent ih =>
      obtain ⟨w, e⟩ := p
      have hfits : e.Fits := h (w, e) (by simp)
      rw [sendAll, exec_bind_ok (w.exec_send env hfits s), ih fun p hp => h p (by simp [hp])]
      simp

/-- Reading back a concatenation of encodings, one call for each envelope and any number of calls
more. -/
theorem Reader.recvRepeatedly_bytes (r : Reader) (es : List Envelope) (h : ∀ e ∈ es, e.Fits)
    {n : ℕ} (hn : es.length ≤ n) {s : Io τ} (hs : s.input = es.flatMap Envelope.bytes) :
    r.recvRepeatedly env n s = (es, { s with input := [] }) := by
  induction es generalizing n s with
  | nil =>
      cases n with
      | zero =>
          have hnil : s.input = [] := hs
          rw [recvRepeatedly, ← hnil]
      | succ n => rw [recvRepeatedly, r.exec_recv_nil env hs]
  | cons e es ih =>
      obtain ⟨n, rfl⟩ : ∃ m, n = m + 1 := ⟨n - 1, by simp at hn; omega⟩
      have hfits : e.Fits := h e (by simp)
      have hparse : Envelope.parse s.input = .ok (some (e, e.bytes.length)) := by
        rw [hs, List.flatMap_cons]
        exact Envelope.parse_bytes hfits _
      have hdrop : s.input.drop e.bytes.length = es.flatMap Envelope.bytes := by
        rw [hs, List.flatMap_cons, List.drop_left]
      rw [recvRepeatedly, r.exec_recv_of_parse env hparse]
      simp only
      rw [ih (fun e he => h e (by simp [he])) (by simpa using hn) hdrop]

/-- **All readers accept the same language.**  Each of them succeeds exactly where `Envelope::parse`
finds an envelope, returns that envelope and leaves what follows it; and whatever mixture of the
writers has written envelopes that fit, each reader called repeatedly returns exactly these. -/
theorem readers_agree (r : Reader) :
    (∀ (s s' : Io τ) (e : Envelope), exec env r.recv s = (.ok e, s') ↔
      ∃ n, Envelope.parse s.input = .ok (some (e, n)) ∧ s' = { s with input := s.input.drop n }) ∧
    (∀ (sent : List (Writer × Envelope)) (s : Io τ),
      (∀ p ∈ sent, p.2.payload.length ≤ maxPayload) →
      ∃ bytes, exec env (sendAll sent) s = (.ok (), { s with output := s.output ++ bytes }) ∧
        ∀ (n : ℕ) (t : Io τ), sent.length ≤ n → t.input = bytes →
          r.recvRepeatedly env n t = (sent.map Prod.snd, { t with input := [] })) := by
  constructor
  · intro s s' e
    constructor
    · intro h
      -- a reader that has returned an envelope has found one
      by_cases hp : ∃ p, Envelope.parse s.input = .ok (some p)
      · obtain ⟨⟨e', n⟩, hp⟩ := hp
        rw [r.exec_recv_of_parse env hp] at h
        cases h
        exact ⟨n, hp, rfl⟩
      · obtain ⟨t, ht⟩ := r.exec_recv_of_not_parse env fun p hp' => hp ⟨p, hp'⟩
        rw [ht] at h
        cases h
    · rintro ⟨n, hp, rfl⟩
      exact r.exec_recv_of_parse env hp
  · intro sent s hfits
    refine ⟨_, exec_sendAll env sent hfits s, ?_⟩
    intro n t hn ht
    apply r.recvRepeatedly_bytes env
    · intro e he
      obtain ⟨p, hp, rfl⟩ := List.mem_map.1 he
      exact hfits p hp
    · rwa [List.length_map]
    · rw [ht, List.flatMap_map]

end Agreement

/-- The phone reads what the desktop has written, and the other way round. -/
theorem readers_agree_two :
    Reader.phone.recvRepeatedly Env.none 3
      ⟨[0x5A, 0x57, 1, 3, 0, 0, 0, 1, 7, 0x5A, 0x57, 1, 0x7F, 0, 0, 0, 0], [], [], ()⟩ =
      ([⟨.hid, [7]⟩, ⟨.keepalive, []⟩], ⟨[], [], [], ()⟩) := by
  obtain ⟨bytes, hsend, hrecv⟩ := (readers_agree Env.none .phone).2
    [(.tls, ⟨.hid, [7]⟩), (.phone, ⟨.keepalive, []⟩)] ⟨[], [], [], ()⟩ (by decide)
  apply hrecv 3 _ (by decide)
  exact congrArg (fun r => r.2.output) hsend

end Zerowire

/-
**The envelope** (`protocol/src/envelope.rs`).

Everything on the wire after the handshake is a sequence of envelopes: two magic bytes, a version,
a channel, a 32-bit length and the payload.  This module embeds the encoder and the parser and
proves that they are inverse to each other, that the parser never looks outside its buffer, and
that it never takes an answer back when more bytes arrive — which makes it a
`StreamCodec.Codec`, so that the behaviour on a stream that is cut anywhere follows from
`Zerowire/StreamCodec.lean`.

Main definitions:

* `Zerowire.Channel`, `Zerowire.Envelope`, `Zerowire.EnvelopeError` — the data of the source;
* `Zerowire.Envelope.encodeInto`, `Zerowire.Envelope.encode`, `Zerowire.Envelope.parse` — its
  functions;
* `Zerowire.Envelope.bytes` — the encoding of an envelope that fits, as a total function.

Main results:

* `Zerowire.Envelope.parse_header` — what `parse` does once it has a header;
* `Zerowire.Envelope.parse_bytes`, `Zerowire.Envelope.eq_bytes_of_parse` — decoding inverts
  encoding, and what is accepted is the encoding of what is returned;
* `Zerowire.Envelope.codec` — the parser is a streamable codec;
* `Zerowire.Envelope.encode_parse_streamable` — **the codec as a whole**.
-/

import Zerowire.Bytes
import Zerowire.StreamCodec

set_option relaxedAutoImplicit false
set_option autoImplicit false

namespace Zerowire

open Bytes

/-! ### The format -/

/-- Two-byte magic, ASCII `Z` `W`. -/
def magic : List UInt8 := [0x5A, 0x57]

/-- Current protocol version. -/
def protocolVersion : UInt8 := 1

/-- Fixed envelope header size on the wire. -/
def headerLen : ℕ := 8

/-- Cap on a single envelope payload. -/
def maxPayload : ℕ := 2 ^ 20

/-- Logical channels multiplexed over the envelope. -/
inductive Channel where
  | control
  | usbip
  | hid
  | keepalive
  deriving Repr, DecidableEq

/-- The channel byte (`self.channel as u8`). -/
def Channel.toU8 : Channel → UInt8
  | .control => 0x01
  | .usbip => 0x02
  | .hid => 0x03
  | .keepalive => 0x7F

/-- `EnvelopeError`.  The source also has `Short`, which no function returns. -/
inductive EnvelopeError where
  | badMagic (b₀ b₁ : UInt8)
  | badVersion (v : UInt8)
  | unknownChannel (v : UInt8)
  | tooLarge (len : ℕ)
  deriving Repr, DecidableEq

/-- `Channel::from_u8`. -/
def Channel.fromU8 (v : UInt8) : Except EnvelopeError Channel :=
  if v = 0x01 then .ok .control
  else if v = 0x02 then .ok .usbip
  else if v = 0x03 then .ok .hid
  else if v = 0x7F then .ok .keepalive
  else .error (.unknownChannel v)

/-- A parsed envelope. -/
structure Envelope where
  channel : Channel
  payload : List UInt8
  deriving Repr, DecidableEq

namespace Envelope

/-- `Envelope::encode_into`: append the envelope to `out`.  The result is the number of bytes
written, beside the new contents of `out`. -/
def encodeInto (env : Envelope) (out : List UInt8) : Except EnvelopeError ℕ × List UInt8 :=
  if env.payload.length > maxPayload then (.error (.tooLarge env.payload.length), out)
  else
    let start := out.length
    let out := out ++ magic
    let out := out ++ [protocolVersion]
    let out := out ++ [env.channel.toU8]
    let out := out ++ toBe32 (UInt32.ofNat env.payload.length)
    let out := out ++ env.payload
    (.ok (out.length - start), out)

/-- `Envelope::encode`: encode to a fresh buffer. -/
def encode (env : Envelope) : Except EnvelopeError (List UInt8) :=
  match env.encodeInto [] with
  | (.ok _, buf) => .ok buf
  | (.error e, _) => .error e

/-- `Envelope::parse`: try to parse one envelope out of `buf`; with the envelope comes the number
of bytes consumed. -/
def parse (buf : List UInt8) : Except (Fault EnvelopeError) (Option (Envelope × ℕ)) :=
  if buf.length < headerLen then .ok none
  else do
    if (← slice buf 0 2) ≠ magic then
      throw (.err (.badMagic (← index buf 0) (← index buf 1)))
    else if (← index buf 2) ≠ protocolVersion then
      throw (.err (.badVersion (← index buf 2)))
    else
      let channel ← Fault.lift (Channel.fromU8 (← index buf 3))
      let len := (beU32 (← index buf 4) (← index buf 5) (← index buf 6) (← index buf 7)).toNat
      if len > maxPayload then
        throw (.err (.tooLarge len))
      else
        let total := headerLen + len
        if buf.length < total then
          return none
        else
          let payload ← slice buf headerLen total
          return some (⟨channel, payload⟩, total)

/-- The encoding of an envelope whose payload fits. -/
def bytes (env : Envelope) : List UInt8 :=
  magic ++ [protocolVersion, env.channel.toU8] ++
    toBe32 (UInt32.ofNat env.payload.length) ++ env.payload

/-- The payload respects the cap. -/
def Fits (env : Envelope) : Prop := env.payload.length ≤ maxPayload

instance (env : Envelope) : Decidable env.Fits := inferInstanceAs (Decidable (_ ≤ _))

/-! ### The encoder -/

theorem encodeInto_of_fits {env : Envelope} (h : env.Fits) (out : List UInt8) :
    env.encodeInto out = (.ok env.bytes.length, out ++ env.bytes) := by
  have hle : ¬ env.payload.length > maxPayload := Nat.not_lt.2 h
  simp only [encodeInto, if_neg hle, bytes, List.append_assoc, List.length_append, Prod.mk.injEq,
    Except.ok.injEq]
  constructor
  · simp
    omega
  · simp

theorem encode_of_fits {env : Envelope} (h : env.Fits) : env.encode = .ok env.bytes := by
  simp [encode, encodeInto_of_fits h]

/-- An envelope that does not fit is refused before anything is written. -/
theorem encodeInto_of_not_fits {env : Envelope} (h : ¬ env.Fits) (out : List UInt8) :
    env.encodeInto out = (.error (.tooLarge env.payload.length), out) := by
  rw [encodeInto, if_pos (Nat.lt_of_not_le h)]

theorem encode_of_not_fits {env : Envelope} (h : ¬ env.Fits) :
    env.encode = .error (.tooLarge env.payload.length) := by
  rw [encode, encodeInto_of_not_fits h]

/-- The encoder succeeds on exactly the envelopes that fit. -/
theorem encode_eq_ok_iff {env : Envelope} {bs : List UInt8} :
    env.encode = .ok bs ↔ env.Fits ∧ bs = env.bytes := by
  by_cases h : env.Fits
  · simp [encode_of_fits h, h, eq_comm]
  · simp [encode_of_not_fits h, h]

@[simp] theorem length_bytes (env : Envelope) :
    env.bytes.length = headerLen + env.payload.length := by
  simp [bytes, magic, headerLen]
  omega

end Envelope

/-! ### Channels -/

@[simp] theorem Channel.fromU8_toU8 (c : Channel) : Channel.fromU8 c.toU8 = .ok c := by
  cases c <;> rfl

/-- A byte that names a channel is that channel's byte. -/
theorem Channel.toU8_of_fromU8 {v : UInt8} {c : Channel} (h : Channel.fromU8 v = .ok c) :
    c.toU8 = v := by
  unfold Channel.fromU8 at h
  split_ifs at h with h₁ h₂ h₃ h₄ <;> cases h <;> simp_all [Channel.toU8]

namespace Envelope

/-! ### The parser -/

theorem parse_short {buf : List UInt8} (h : buf.length < headerLen) : parse buf = .ok none := by
  rw [parse, if_pos h]

/-- **What `parse` does once it has a header.**  All accesses are in range; the checks come in the
order magic, version, channel, length, and only then does the rest of the buffer matter. -/
theorem parse_header (b₀ b₁ b₂ b₃ b₄ b₅ b₆ b₇ : UInt8) (rest : List UInt8) :
    parse (b₀ :: b₁ :: b₂ :: b₃ :: b₄ :: b₅ :: b₆ :: b₇ :: rest) =
      if [b₀, b₁] ≠ magic then .error (.err (.badMagic b₀ b₁))
      else if b₂ ≠ protocolVersion then .error (.err (.badVersion b₂))
      else match Channel.fromU8 b₃ with
        | .error e => .error (.err e)
        | .ok channel =>
            let len := (beU32 b₄ b₅ b₆ b₇).toNat
            if len > maxPayload then .error (.err (.tooLarge len))
            else if rest.length < len then .ok none
            else .ok (some (⟨channel, rest.take len⟩, headerLen + len)) := by
  have hlen : ¬ (b₀ :: b₁ :: b₂ :: b₃ :: b₄ :: b₅ :: b₆ :: b₇ :: rest).length < headerLen := by
    simp [headerLen]
  rw [parse, if_neg hlen, slice_eq_ok (by omega) (by simp)]
  -- with a header in front, lengths are those of the rest
  have htotal (n : ℕ) :
      (b₀ :: b₁ :: b₂ :: b₃ :: b₄ :: b₅ :: b₆ :: b₇ :: rest).length < headerLen + n ↔
        rest.length < n := by
    simp only [List.length_cons, headerLen]
    omega
  have hmagic : ((b₀ :: b₁ :: b₂ :: b₃ :: b₄ :: b₅ :: b₆ :: b₇ :: rest).take 2).drop 0 =
      [b₀, b₁] := rfl
  have hpayload (n : ℕ) : ((b₀ :: b₁ :: b₂ :: b₃ :: b₄ :: b₅ :: b₆ :: b₇ :: rest).take
      (headerLen + n)).drop headerLen = rest.take n := by
    simp [headerLen, Nat.add_comm 8]
  simp only [index_cons_zero, index_cons_succ, ok_bind, pure_eq_ok, throw_eq_error, hmagic]
  cases Channel.fromU8 b₃ with
  | error e => simp only [Fault.lift_error, error_bind]
  | ok channel =>
      simp only [Fault.lift_ok, ok_bind]
      generalize (beU32 b₄ b₅ b₆ b₇).toNat = len
      by_cases hshort : rest.length < len
      · rw [if_pos hshort, if_pos ((htotal len).2 hshort)]
      · rw [if_neg hshort, if_neg (mt (htotal len).1 hshort),
          slice_eq_ok (by omega) (Nat.le_of_not_lt (mt (htotal len).1 hshort)), ok_bind,
          hpayload]

/-- A buffer that holds a header, taken apart. -/
theorem exists_header {buf : List UInt8} (h : ¬ buf.length < headerLen) :
    ∃ b₀ b₁ b₂ b₃ b₄ b₅ b₆ b₇ rest,
      buf = b₀ :: b₁ :: b₂ :: b₃ :: b₄ :: b₅ :: b₆ :: b₇ :: rest := by
  match buf, h with
  | b₀ :: b₁ :: b₂ :: b₃ :: b₄ :: b₅ :: b₆ :: b₇ :: rest, _ =>
      exact ⟨b₀, b₁, b₂, b₃, b₄, b₅, b₆, b₇, rest, rfl⟩
  | [], h | [_], h | [_, _], h | [_, _, _], h | [_, _, _, _], h | [_, _, _, _, _], h
  | [_, _, _, _, _, _], h | [_, _, _, _, _, _, _], h => simp [headerLen] at h

/-- The length field of an envelope that fits is read back. -/
theorem beU32_length {env : Envelope} (h : env.Fits) :
    (beU32 (UInt8.ofNat ((UInt32.ofNat env.payload.length).toNat / 2 ^ 24))
      (UInt8.ofNat ((UInt32.ofNat env.payload.length).toNat / 2 ^ 16))
      (UInt8.ofNat ((UInt32.ofNat env.payload.length).toNat / 2 ^ 8))
      (UInt8.ofNat (UInt32.ofNat env.payload.length).toNat)).toNat = env.payload.length := by
  have hlt : env.payload.length < 2 ^ 32 := by
    have : env.payload.length ≤ 2 ^ 20 := h
    omega
  rw [beU32_toBe32, UInt32.toNat_ofNat', Nat.mod_eq_of_lt hlt]

/-- **Decoding inverts encoding**, whatever follows. -/
theorem parse_bytes {env : Envelope} (h : env.Fits) (suffix : List UInt8) :
    parse (env.bytes ++ suffix) = .ok (some (env, env.bytes.length)) := by
  have hshape : env.bytes ++ suffix =
      0x5A :: 0x57 :: protocolVersion :: env.channel.toU8 ::
        UInt8.ofNat ((UInt32.ofNat env.payload.length).toNat / 2 ^ 24) ::
        UInt8.ofNat ((UInt32.ofNat env.payload.length).toNat / 2 ^ 16) ::
        UInt8.ofNat ((UInt32.ofNat env.payload.length).toNat / 2 ^ 8) ::
        UInt8.ofNat (UInt32.ofNat env.payload.length).toNat :: (env.payload ++ suffix) := by
    simp [bytes, magic, toBe32]
  have hle : ¬ env.payload.length > maxPayload := Nat.not_lt.2 h
  have hroom : ¬ (env.payload ++ suffix).length < env.payload.length := by
    rw [List.length_append]; omega
  rw [hshape, parse_header, if_neg (by simp [magic]), if_neg (by simp), Channel.fromU8_toU8]
  simp only [beU32_length h]
  rw [if_neg hle, if_neg hroom, List.take_left', length_bytes]
  rfl

theorem Channel.toU8_inj {c c' : Channel} (h : c.toU8 = c'.toU8) : c = c' := by
  have h' := congrArg Channel.fromU8 h
  rw [Channel.fromU8_toU8, Channel.fromU8_toU8] at h'
  exact Except.ok.inj h'

/-- **An envelope says where it ends**, also one that does not fit, as long as its length field is
its length. -/
theorem bytes_append_inj {e e' : Envelope} {x y : List UInt8} (h : e.payload.length < 2 ^ 32)
    (h' : e'.payload.length < 2 ^ 32) (heq : e.bytes ++ x = e'.bytes ++ y) : e = e' ∧ x = y := by
  have hlen (w : UInt32) (c : UInt8) :
      (magic ++ [protocolVersion, c] ++ toBe32 w).length = headerLen := rfl
  have hsplit : (magic ++ [protocolVersion, e.channel.toU8] ++
        toBe32 (UInt32.ofNat e.payload.length)) ++ (e.payload ++ x) =
      (magic ++ [protocolVersion, e'.channel.toU8] ++
        toBe32 (UInt32.ofNat e'.payload.length)) ++ (e'.payload ++ y) := by
    simpa only [bytes, List.append_assoc] using heq
  obtain ⟨hhead, htail⟩ := List.append_inj hsplit ((hlen _ _).trans (hlen _ _).symm)
  obtain ⟨hchan, hword⟩ := List.append_inj hhead rfl
  have hpayload : e.payload.length = e'.payload.length := by
    have hw := congrArg UInt32.toNat (toBe32_inj hword)
    rwa [UInt32.toNat_ofNat_of_lt' h, UInt32.toNat_ofNat_of_lt' h'] at hw
  obtain ⟨hdata, hrest⟩ := List.append_inj htail hpayload
  have hc : e.channel = e'.channel := Channel.toU8_inj (by simpa [magic] using hchan)
  obtain ⟨c, p⟩ := e
  obtain ⟨c', p'⟩ := e'
  obtain rfl : c = c' := hc
  obtain rfl : p = p' := hdata
  exact ⟨rfl, hrest⟩

/-- **A concatenation of envelopes splits in one way.** -/
theorem flatMap_bytes_inj {es es' : List Envelope} (hes : ∀ e ∈ es, e.payload.length < 2 ^ 32)
    (hes' : ∀ e ∈ es', e.payload.length < 2 ^ 32) (h : es.flatMap bytes = es'.flatMap bytes) :
    es = es' := by
  have hne (e : Envelope) (x : List UInt8) : e.bytes ++ x ≠ [] := by simp [bytes, magic]
  induction es generalizing es' with
  | nil =>
      cases es' with
      | nil => rfl
      | cons e' es' => exact absurd h.symm (hne e' _)
  | cons e es ih =>
      cases es' with
      | nil => exact absurd h (hne e _)
      | cons e' es' =>
          obtain ⟨rfl, hrest⟩ := bytes_append_inj (hes e (by simp)) (hes' e' (by simp)) h
          rw [ih (fun e he => hes e (by simp [he])) (fun e he => hes' e (by simp [he])) hrest]

theorem eq_map_bytes {es : List Envelope} (hes : ∀ e ∈ es, e.payload.length < 2 ^ 32)
    {bs : List (List UInt8)}
    (hbs : ∀ b ∈ bs, ∃ e : Envelope, e.payload.length < 2 ^ 32 ∧ b = e.bytes)
    (h : bs.flatten = es.flatMap bytes) : bs = es.map bytes := by
  have : Nonempty Envelope := ⟨⟨.usbip, []⟩⟩
  choose! f hlen hf using hbs
  have hmap : bs = (bs.map f).map bytes := by
    rw [List.map_map]
    exact (List.map_id bs).symm.trans (List.map_congr_left hf)
  have hflat : (bs.map f).flatMap bytes = es.flatMap bytes := by
    rw [List.flatMap_def, ← hmap, h]
  rw [hmap, flatMap_bytes_inj ?_ hes hflat]
  rw [List.forall_mem_map]
  exact hlen

/-- **What is accepted is an encoding**: the bytes consumed are the encoding of the envelope
returned. -/
theorem eq_bytes_of_parse {buf : List UInt8} {env : Envelope} {n : ℕ}
    (h : parse buf = .ok (some (env, n))) :
    env.Fits ∧ n = env.bytes.length ∧ ∃ rest, buf = env.bytes ++ rest := by
  by_cases hlen : buf.length < headerLen
  · rw [parse_short hlen] at h
    cases h
  obtain ⟨b₀, b₁, b₂, b₃, b₄, b₅, b₆, b₇, rest, rfl⟩ := exists_header hlen
  rw [parse_header] at h
  split_ifs at h with hmagic hver
  rw [not_not] at hmagic hver
  cases hchan : Channel.fromU8 b₃ with
  | error e => rw [hchan] at h; cases h
  | ok channel =>
      rw [hchan] at h
      simp only at h
      -- the length as a variable: the kernel would evaluate the word to see how much to take
      generalize hlen' : (beU32 b₄ b₅ b₆ b₇).toNat = len at h
      split_ifs at h with hbig hshort
      · cases h
      · cases h
        have htake : (rest.take len).length = len := by
          rw [List.length_take]; omega
        have hword : toBe32 (UInt32.ofNat len) = [b₄, b₅, b₆, b₇] := by
          rw [← hlen', UInt32.ofNat_toNat, toBe32_beU32]
        refine ⟨?_, ?_, rest.drop len, ?_⟩
        · rw [Fits, htake]
          exact Nat.le_of_not_lt hbig
        · rw [length_bytes, htake]
        · rw [bytes, htake, hword, ← hmagic, ← hver, Channel.toU8_of_fromU8 hchan]
          simp only [List.append_assoc, List.take_append_drop]
          rfl

/-- The envelope that is found, and what is behind it. -/
theorem eq_bytes_append_drop {buf : List UInt8} {env : Envelope} {n : ℕ}
    (h : parse buf = .ok (some (env, n))) : buf = env.bytes ++ buf.drop n := by
  obtain ⟨-, rfl, rest, rfl⟩ := eq_bytes_of_parse h
  rw [List.drop_left]

/-- The frames `parse` finds, without reference to how it finds them. -/
theorem parse_eq_some_iff {buf : List UInt8} {env : Envelope} {n : ℕ} :
    parse buf = .ok (some (env, n)) ↔
      env.Fits ∧ n = env.bytes.length ∧ ∃ rest, buf = env.bytes ++ rest := by
  constructor
  · exact eq_bytes_of_parse
  · rintro ⟨hfits, rfl, rest, rfl⟩
    exact parse_bytes hfits rest

/-- An error is decided by the header alone. -/
theorem parse_append_of_error {buf : List UInt8} {e : Fault EnvelopeError} (x : List UInt8)
    (h : parse buf = .error e) : parse (buf ++ x) = .error e := by
  by_cases hlen : buf.length < headerLen
  · rw [parse_short hlen] at h
    cases h
  obtain ⟨b₀, b₁, b₂, b₃, b₄, b₅, b₆, b₇, rest, rfl⟩ := exists_header hlen
  simp only [List.cons_append]
  rw [parse_header] at h ⊢
  split_ifs at h ⊢
  · exact h
  · exact h
  · cases hchan : Channel.fromU8 b₃ with
    | error e' => rwa [hchan] at h
    | ok channel =>
        rw [hchan] at h
        simp only at h ⊢
        split_ifs at h ⊢
        exact h

/-- The parser never looks outside its buffer. -/
theorem parse_ne_panic (buf : List UInt8) : parse buf ≠ .error .panic := by
  by_cases hlen : buf.length < headerLen
  · rw [parse_short hlen]
    simp
  obtain ⟨b₀, b₁, b₂, b₃, b₄, b₅, b₆, b₇, rest, rfl⟩ := exists_header hlen
  rw [parse_header]
  split_ifs
  · simp
  · simp
  · cases Channel.fromU8 b₃ with
    | error e' => simp
    | ok channel =>
        simp only
        split_ifs <;> simp

/-- **The envelope is a streamable codec.** -/
theorem codec : StreamCodec.Codec parse bytes Fits where
  nil := parse_short (by simp [headerLen])
  pos h := by
    obtain ⟨-, rfl, -⟩ := eq_bytes_of_parse h
    rw [length_bytes, headerLen]
    omega
  le h := by
    obtain ⟨-, rfl, rest, rfl⟩ := eq_bytes_of_parse h
    simp
  frame {b r} x h := by
    obtain ⟨env, n⟩ := r
    obtain ⟨hfits, rfl, rest, rfl⟩ := eq_bytes_of_parse h
    rw [List.append_assoc]
    exact parse_bytes hfits _
  fault x h := parse_append_of_error x h
  round s h := parse_bytes h s

/-! ### The codec as a whole -/

/-- A list of envelopes can be encoded when each of them fits, and only then. -/
theorem mapM_encode_eq_ok {envs : List Envelope} {encs : List (List UInt8)}
    (h : envs.mapM encode = .ok encs) : (∀ env ∈ envs, env.Fits) ∧ encs = envs.map bytes := by
  induction envs generalizing encs with
  | nil =>
      cases h
      simp
  | cons env envs ih =>
      rw [List.mapM_cons] at h
      rcases henc : env.encode with e | bs
      · rw [henc, error_bind] at h
        cases h
      · rcases hrest : envs.mapM encode with e | encs'
        · rw [henc, ok_bind, hrest, error_bind] at h
          cases h
        · rw [henc, ok_bind, hrest, ok_bind, pure_eq_ok] at h
          cases h
          obtain ⟨hfits, rfl⟩ := encode_eq_ok_iff.1 henc
          obtain ⟨hall, rfl⟩ := ih hrest
          exact ⟨by simpa [hfits] using hall, rfl⟩

/-- **The codec is exact and streamable.**  Encoding is inverted whatever follows; what is accepted
is the encoding of what is returned; no answer but "not yet" depends on bytes to come, so that a
decoder fed with any pieces of a concatenation of encodings yields exactly the envelopes; and an
envelope over the cap is refused with the output untouched. -/
theorem encode_parse_streamable :
    (∀ (env : Envelope) (suffix : List UInt8), env.payload.length ≤ maxPayload →
      ∃ bs, env.encode = .ok bs ∧ parse (bs ++ suffix) = .ok (some (env, bs.length))) ∧
    (∀ (buf : List UInt8) (env : Envelope) (n : ℕ), parse buf = .ok (some (env, n)) →
      n ≤ buf.length ∧ env.encode = .ok (buf.take n)) ∧
    (∀ (b x : List UInt8) (r : Envelope × ℕ), parse b = .ok (some r) →
      parse (b ++ x) = .ok (some r)) ∧
    (∀ (b x : List UInt8) (e : Fault EnvelopeError), parse b = .error e →
      parse (b ++ x) = .error e) ∧
    (∀ (envs : List Envelope) (encs chunks : List (List UInt8)), envs.mapM encode = .ok encs →
      chunks.flatten = encs.flatten →
      chunks.foldl (StreamCodec.feed parse) StreamCodec.Decoder.start = ⟨envs, [], none⟩) ∧
    (∀ (env : Envelope) (out : List UInt8), env.payload.length > maxPayload →
      env.encodeInto out = (.error (.tooLarge env.payload.length), out)) := by
  refine ⟨?_, ?_, ?_, ?_, ?_, ?_⟩
  · intro env suffix hfits
    exact ⟨env.bytes, encode_of_fits hfits, parse_bytes hfits suffix⟩
  · intro buf env n h
    obtain ⟨hfits, rfl, rest, rfl⟩ := eq_bytes_of_parse h
    refine ⟨by simp, ?_⟩
    rw [List.take_left' rfl]
    exact encode_of_fits hfits
  · intro b x r h
    exact codec.frame x h
  · intro b x e h
    exact codec.fault x h
  · intro envs encs chunks henc hcut
    obtain ⟨hall, rfl⟩ := mapM_encode_eq_ok henc
    apply codec.feed_chunks hall
    rw [hcut, List.flatMap_def]
  · intro env out hbig
    exact encodeInto_of_not_fits (Nat.not_le.2 hbig) out

/-- Two envelopes, cut inside the magic of the first and inside the length of the second. -/
theorem encode_parse_streamable_two :
    [[0x5A], [0x57, 1, 2, 0, 0, 0, 1, 9, 0x5A, 0x57, 1, 0x7F, 0], [0, 0, 0]].foldl
      (StreamCodec.feed parse) StreamCodec.Decoder.start =
        ⟨[⟨.usbip, [9]⟩, ⟨.keepalive, []⟩], [], none⟩ :=
  encode_parse_streamable.2.2.2.2.1 [⟨.usbip, [9]⟩, ⟨.keepalive, []⟩]
    [[0x5A, 0x57, 1, 2, 0, 0, 0, 1, 9], [0x5A, 0x57, 1, 0x7F, 0, 0, 0, 0]] _ rfl rfl

end Envelope

end Zerowire

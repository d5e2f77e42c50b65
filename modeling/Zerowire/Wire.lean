/-
**Reading and writing envelopes over a blocking socket** (`desktop-linux/src/wire.rs`,
`desktop-linux/src/tls.rs`).

The Rust side has two copies of the same pair of helpers, one for a `TcpStream` and one for any
`Read`/`Write`; they differ in the context strings of their errors only, so both are instances of
`Zerowire.recvEnvelopeWith` and `Zerowire.sendEnvelopeWith`.  The reader does not look at the header
before it has read the payload: it takes the length field out of the first eight bytes, reads that
many more, and hands the whole to `Envelope::parse`.

Main definitions:

* `Zerowire.RecvError`, `Zerowire.SendError` — the errors, with their contexts;
* `Zerowire.recvEnvelopeWith`, `Zerowire.sendEnvelopeWith` — the helpers;
* `Zerowire.Wire.recvEnvelope`, `Zerowire.Tls.recvEnvelope`, `Zerowire.Wire.sendEnvelope`,
  `Zerowire.Tls.sendEnvelope` — the two copies.

Main results:

* `Zerowire.exec_recvEnvelopeWith_of_parse`, `Zerowire.exec_recvEnvelopeWith_of_not_parse` — **the
  reader succeeds exactly where the parser finds an envelope**, and consumes exactly its bytes;
* `Zerowire.exec_sendEnvelopeWith` — the writer writes the encoding, or nothing.
-/

import Zerowire.Envelope
import Zerowire.Program

set_option relaxedAutoImplicit false
set_option autoImplicit false

namespace Zerowire

open Bytes Program

variable {X : Sig} {τ : Type}

/-- Go on with the result of a program, whichever it is:
`match f() { Ok(..) => .., Err(..) => .. }`.  A panic is not a result. -/
def catchErr {ε ε' α : Type} (p : Act X (Fault ε) α) : Act X (Fault ε') (Except ε α) := do
  match ← attempt p with
  | .ok a => return .ok a
  | .error (.err e) => return .error e
  | .error .panic => throw .panic

theorem exec_catchErr_ok {ε ε' α : Type} {env : Env X τ} {p : Act X (Fault ε) α} {s s' : Io τ}
    {a : α} (h : exec env p s = (.ok a, s')) :
    exec env (catchErr p : Act X (Fault ε') _) s = (.ok (.ok a), s') := by
  rw [catchErr, exec_bind_ok (exec_attempt env p s), h, exec_pure]

theorem exec_catchErr_err {ε ε' α : Type} {env : Env X τ} {p : Act X (Fault ε) α} {s s' : Io τ}
    {e : ε} (h : exec env p s = (.error (.err e), s')) :
    exec env (catchErr p : Act X (Fault ε') _) s = (.ok (.error e), s') := by
  rw [catchErr, exec_bind_ok (exec_attempt env p s), h, exec_pure]

/-- A parsed envelope, fully owned.  Copying the payload out of the buffer does not change it. -/
abbrev OwnedEnvelope := Envelope

/-- What can go wrong while receiving an envelope. -/
inductive RecvError where
  /-- `read_exact` failed; the string is the context attached to it. -/
  | io (context : String)
  /-- `Envelope::parse` refused the bytes. -/
  | envelope (e : EnvelopeError)
  /-- "incomplete envelope after read_exact". -/
  | incomplete
  deriving Repr, DecidableEq

/-- What can go wrong while sending an envelope. -/
inductive SendError where
  /-- "encoding envelope". -/
  | encode (e : EnvelopeError)
  /-- `write_all` failed; the string is the context attached to it. -/
  | io (context : String)
  deriving Repr, DecidableEq

/-- The number of bytes the reader sizes its buffer to (`HEADER_LEN + len`), from the header. -/
def recvBufferLen (header : List UInt8) : Except (Fault RecvError) ℕ := do
  let len := beU32 (← index header 4) (← index header 5) (← index header 6) (← index header 7)
  return headerLen + len.toNat

/-- `recv_envelope`: block until one full envelope is read. -/
def recvEnvelopeWith (headerCtx payloadCtx : String) : Act X (Fault RecvError) OwnedEnvelope := do
  match ← readExact headerLen with
  | none => throw (.err (.io headerCtx))
  | some header =>
      let size ← ofResult (recvBufferLen header)
      -- the buffer holds the header and zeros; `read_exact` fills the zeros
      match ← readExact (size - headerLen) with
      | none => throw (.err (.io payloadCtx))
      | some payload =>
          match ← ofResult ((Envelope.parse (header ++ payload)).mapError (Fault.map .envelope)) with
          | none => throw (.err .incomplete)
          | some (env, _) => return env

/-- `send_envelope`: encode, then write all of it. -/
def sendEnvelopeWith (writeCtx : String) (channel : Channel) (payload : List UInt8) :
    Act X (Fault SendError) Unit := do
  let bytes ← ofResult (Fault.lift ((Envelope.encode ⟨channel, payload⟩).mapError .encode))
  if ← writeAll bytes then return () else throw (.err (.io writeCtx))

/-- `wire::recv_envelope`. -/
def Wire.recvEnvelope : Act X (Fault RecvError) OwnedEnvelope :=
  recvEnvelopeWith "reading envelope header" "reading envelope payload"

/-- `tls::recv_envelope`. -/
def Tls.recvEnvelope : Act X (Fault RecvError) OwnedEnvelope :=
  recvEnvelopeWith "reading TLS header" "reading TLS payload"

/-- `wire::send_envelope`. -/
def Wire.sendEnvelope (channel : Channel) (payload : List UInt8) : Act X (Fault SendError) Unit :=
  sendEnvelopeWith "writing envelope" channel payload

/-- `tls::send_envelope`. -/
def Tls.sendEnvelope (channel : Channel) (payload : List UInt8) : Act X (Fault SendError) Unit :=
  sendEnvelopeWith "writing TLS envelope" channel payload

/-! ### The reader -/

variable (env : Env X τ) (hc pc : String)

theorem exec_recvEnvelopeWith_short {s : Io τ} (h : s.input.length < headerLen) :
    exec env (recvEnvelopeWith hc pc) s = (.error (.err (.io hc)), { s with input := [] }) := by
  rw [recvEnvelopeWith, exec_bind_ok (exec_readExact_of_lt env h), exec_throw]

theorem recvBufferLen_header (b₀ b₁ b₂ b₃ b₄ b₅ b₆ b₇ : UInt8) :
    recvBufferLen [b₀, b₁, b₂, b₃, b₄, b₅, b₆, b₇] =
      .ok (headerLen + (beU32 b₄ b₅ b₆ b₇).toNat) := by
  simp only [recvBufferLen, index_cons_succ, index_cons_zero, ok_bind, pure_eq_ok]

/-- The parser does not look beyond the payload the header announces. -/
theorem parse_header_take (b₀ b₁ b₂ b₃ b₄ b₅ b₆ b₇ : UInt8) {rest : List UInt8}
    (h : ¬ rest.length < (beU32 b₄ b₅ b₆ b₇).toNat) :
    Envelope.parse ([b₀, b₁, b₂, b₃, b₄, b₅, b₆, b₇] ++ rest.take (beU32 b₄ b₅ b₆ b₇).toNat) =
      Envelope.parse (b₀ :: b₁ :: b₂ :: b₃ :: b₄ :: b₅ :: b₆ :: b₇ :: rest) := by
  have hlen : (rest.take (beU32 b₄ b₅ b₆ b₇).toNat).length = (beU32 b₄ b₅ b₆ b₇).toNat := by
    rw [List.length_take]
    omega
  simp only [List.cons_append, List.nil_append, Envelope.parse_header, hlen, List.take_take,
    Nat.min_self, Nat.lt_irrefl, if_neg h, if_false]

/-- The reader on a stream that holds a header: it needs as many bytes again as the length field
says, and then answers what the parser answers on the whole stream. -/
theorem exec_recvEnvelopeWith_header {s : Io τ} {b₀ b₁ b₂ b₃ b₄ b₅ b₆ b₇ : UInt8}
    {rest : List UInt8} (hs : s.input = b₀ :: b₁ :: b₂ :: b₃ :: b₄ :: b₅ :: b₆ :: b₇ :: rest) :
    exec env (recvEnvelopeWith hc pc) s =
      if rest.length < (beU32 b₄ b₅ b₆ b₇).toNat then
        (.error (.err (.io pc)), { s with input := [] })
      else
        (match Envelope.parse s.input with
          | .ok (some (e, _)) => .ok e
          | .ok none => .error (.err .incomplete)
          | .error f => .error (f.map .envelope),
          { s with input := rest.drop (beU32 b₄ b₅ b₆ b₇).toNat }) := by
  have hheader : s.input.take headerLen = [b₀, b₁, b₂, b₃, b₄, b₅, b₆, b₇] := by rw [hs]; rfl
  have hrest : s.input.drop headerLen = rest := by rw [hs]; rfl
  have hlen : headerLen ≤ s.input.length := by rw [hs]; simp [headerLen]
  rw [recvEnvelopeWith, exec_bind_ok (exec_readExact_of_le env hlen), hheader, hrest]
  simp only [recvBufferLen_header]
  rw [exec_ofResult_ok_bind, Nat.add_sub_cancel_left]
  by_cases hshort : rest.length < (beU32 b₄ b₅ b₆ b₇).toNat
  · rw [if_pos hshort, exec_bind_ok (exec_readExact_of_lt env hshort), exec_throw]
  · rw [if_neg hshort, exec_bind_ok (exec_readExact_of_le env (Nat.le_of_not_lt hshort))]
    simp only [parse_header_take _ _ _ _ _ _ _ _ hshort, ← hs]
    rcases Envelope.parse s.input with f | _ | ⟨e, n⟩
    · rw [mapError_error, exec_ofResult_error_bind]
    · rw [mapError_ok, exec_ofResult_ok_bind, exec_throw]
    · rw [mapError_ok, exec_ofResult_ok_bind, exec_pure]

/-- **Where the parser finds an envelope the reader returns it**, and leaves what follows it. -/
theorem exec_recvEnvelopeWith_of_parse {s : Io τ} {e : Envelope} {n : ℕ}
    (h : Envelope.parse s.input = .ok (some (e, n))) :
    exec env (recvEnvelopeWith hc pc) s = (.ok e, { s with input := s.input.drop n }) := by
  have hlen : ¬ s.input.length < headerLen := by
    intro hshort
    rw [Envelope.parse_short hshort] at h
    cases h
  obtain ⟨b₀, b₁, b₂, b₃, b₄, b₅, b₆, b₇, rest, hs⟩ := Envelope.exists_header hlen
  have hp := h
  rw [hs, Envelope.parse_header] at hp
  split_ifs at hp
  rcases hchan : Channel.fromU8 b₃ with err | channel
  · rw [hchan] at hp
    cases hp
  · rw [hchan] at hp
    simp only at hp
    rw [exec_recvEnvelopeWith_header env hc pc hs, h, hs]
    generalize (beU32 b₄ b₅ b₆ b₇).toNat = len at hp ⊢
    split_ifs at hp with hbig hshort
    · cases hp
    · rw [if_neg hshort]
      simp only [Except.ok.injEq, Option.some.injEq, Prod.mk.injEq] at hp
      rw [← hp.2, headerLen, Nat.add_comm 8 len]
      simp only [List.drop_succ_cons]

/-- **Where the parser finds no envelope the reader fails**: with an error, not with a panic, and
without having written anything. -/
theorem exec_recvEnvelopeWith_of_not_parse {s : Io τ}
    (h : ∀ r, Envelope.parse s.input ≠ .ok (some r)) :
    ∃ err rest, exec env (recvEnvelopeWith hc pc) s = (.error (.err err), { s with input := rest })
      := by
  by_cases hlen : s.input.length < headerLen
  · exact ⟨_, _, exec_recvEnvelopeWith_short env hc pc hlen⟩
  · obtain ⟨b₀, b₁, b₂, b₃, b₄, b₅, b₆, b₇, rest, hs⟩ := Envelope.exists_header hlen
    rw [exec_recvEnvelopeWith_header env hc pc hs]
    split_ifs with hshort
    · exact ⟨_, _, rfl⟩
    · rcases hp : Envelope.parse s.input with (f | _) | _ | r
      · exact ⟨_, _, rfl⟩
      · exact absurd hp (Envelope.parse_ne_panic _)
      · exact ⟨_, _, rfl⟩
      · exact absurd hp (h r)

/-! ### The writer -/

/-- The writer writes the encoding of an envelope that fits. -/
theorem exec_sendEnvelopeWith {channel : Channel} {payload : List UInt8}
    (h : (⟨channel, payload⟩ : Envelope).Fits) (s : Io τ) :
    exec env (sendEnvelopeWith hc channel payload) s =
      (.ok (), { s with output := s.output ++ (⟨channel, payload⟩ : Envelope).bytes }) := by
  rw [sendEnvelopeWith, Envelope.encode_of_fits h, mapError_ok, Fault.lift_ok,
    exec_ofResult_ok_bind, exec_bind_ok (exec_writeAll env _ s)]
  rfl

/-- The writer writes nothing of an envelope that does not fit. -/
theorem exec_sendEnvelopeWith_of_not_fits {channel : Channel} {payload : List UInt8}
    (h : ¬ (⟨channel, payload⟩ : Envelope).Fits) (s : Io τ) :
    exec env (sendEnvelopeWith hc channel payload) s =
      (.error (.err (.encode (.tooLarge payload.length))), s) := by
  rw [sendEnvelopeWith, Envelope.encode_of_not_fits h, mapError_error, Fault.lift_error,
    exec_ofResult_error_bind]

end Zerowire

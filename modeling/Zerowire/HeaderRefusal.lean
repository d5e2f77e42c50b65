/-
**A bad header** (`desktop-linux/src/wire.rs`, `desktop-linux/src/tls.rs`,
`android-sender/.../WireProtocol.kt`).

An envelope starts with eight bytes that say how many more there are.  The parser refuses some of
these headers, among them those that announce more than `MAX_PAYLOAD`, so that a peer cannot make
the reader ask for gigabytes.  The phone checks the header before it makes room for the payload.
The two Rust readers make room first, then wait for the payload, and only then let the parser look
at the header.

Main definitions:

* `Zerowire.Refuses` — the reader fails behind the header, and has not made more room than it may;
* `Zerowire.Prompt` — it fails before anything but the header has arrived.

Main results:

* `Zerowire.exec_refused`, `Zerowire.prompt_iff_exec` — what a Rust reader does on a bad header;
* `Zerowire.refuses_iff` — **when a bad header is refused in time**;
* `Zerowire.WireProtocol.readEnvelope_refuses` — on the phone it always is.
-/

import Zerowire.Network
import Zerowire.WireProtocol

set_option relaxedAutoImplicit false
set_option autoImplicit false

namespace Zerowire

open Bytes Program

variable {X : Sig} {τ ε : Type}

/-! ### Refusing in time -/

/-- The reader `recv` refuses the header at the front of the stream: it fails having consumed just
the header, and the buffer for the envelope is within bounds. -/
structure Refuses (env : Env X τ) (recv : Act X (Fault RecvError) OwnedEnvelope)
    (s : Io τ) : Prop where
  fails : ∃ e, exec env recv s = (.error (.err e), { s with input := s.input.drop headerLen })
  sized : ∀ size, recvBufferLen (s.input.take headerLen) = .ok size → size ≤ headerLen + maxPayload

/-- The reader fails before anything else has arrived: it does not wait for the payload. -/
def Prompt (env : Env X τ) (recv : Act X ε Envelope) (s : Io τ) : Prop :=
  ∃ e s' sent, Moves env false ⟨recv.run, s⟩ ⟨.ret (.error e), s'⟩ sent

/-- **To be prompt** is to fail in the same way whatever comes behind, and to leave it. -/
theorem prompt_iff_exec {env : Env X τ} {recv : Act X ε Envelope} {s : Io τ} :
    Prompt env recv s ↔
      ∃ (e : ε) (s' : Io τ), ∀ rest, exec env recv (s.fed rest) = (.error e, s'.fed rest) := by
  constructor
  · rintro ⟨e, s', sent, hmoves⟩
    exact ⟨e, s', run_of_moves hmoves⟩
  · rintro ⟨e, s', hexec⟩
    obtain ⟨sent, -, hmoves⟩ := moves_of_run_fed Prog.ret (List.cons_ne_nil 0 []) (hexec [0]) false
    rw [Prog.bind_ret] at hmoves
    exact ⟨e, s', sent, hmoves⟩

/-! ### The Rust readers -/

section Header

variable (env : Env X τ) (hc pc : String) {b₀ b₁ b₂ b₃ b₄ b₅ b₆ b₇ : UInt8} {rest : List UInt8}
  {e : EnvelopeError}

/-- **What a Rust reader does on a bad header**: it waits for the payload all the same. -/
theorem exec_refused {s : Io τ} (hs : s.input = [b₀, b₁, b₂, b₃, b₄, b₅, b₆, b₇] ++ rest)
    (hbad : Envelope.parse [b₀, b₁, b₂, b₃, b₄, b₅, b₆, b₇] = .error (.err e)) :
    exec env (recvEnvelopeWith hc pc) s =
      (.error (.err (if rest.length < (beU32 b₄ b₅ b₆ b₇).toNat then .io pc else .envelope e)),
        { s with input := rest.drop (beU32 b₄ b₅ b₆ b₇).toNat }) := by
  have hparse := Envelope.parse_append_of_error rest hbad
  have hcons : s.input = b₀ :: b₁ :: b₂ :: b₃ :: b₄ :: b₅ :: b₆ :: b₇ :: rest := hs
  rw [exec_recvEnvelopeWith_header env hc pc hcons, hs, hparse]
  by_cases hshort : rest.length < (beU32 b₄ b₅ b₆ b₇).toNat
  · rw [if_pos hshort, if_pos hshort, List.drop_eq_nil_of_le (Nat.le_of_lt hshort)]
  · rw [if_neg hshort, if_neg hshort]
    rfl

theorem refuses_recvEnvelopeWith {s : Io τ}
    (hs : s.input = [b₀, b₁, b₂, b₃, b₄, b₅, b₆, b₇] ++ rest)
    (hbad : Envelope.parse [b₀, b₁, b₂, b₃, b₄, b₅, b₆, b₇] = .error (.err e)) :
    Refuses env (recvEnvelopeWith hc pc) s ↔
      (beU32 b₄ b₅ b₆ b₇).toNat = 0 ∨ (rest = [] ∧ (beU32 b₄ b₅ b₆ b₇).toNat ≤ maxPayload) := by
  have hexec := exec_refused env hc pc hs hbad
  have htake : s.input.take headerLen = [b₀, b₁, b₂, b₃, b₄, b₅, b₆, b₇] := by rw [hs]; rfl
  have hdrop : s.input.drop headerLen = rest := by rw [hs]; rfl
  have hbuf := recvBufferLen_header b₀ b₁ b₂ b₃ b₄ b₅ b₆ b₇
  generalize (beU32 b₄ b₅ b₆ b₇).toNat = len at hexec hbuf ⊢
  constructor
  -- nothing behind the header is consumed, so nothing was to be, or nothing was there
  · rintro ⟨⟨e', hfails⟩, hsized⟩
    rw [htake] at hsized
    have hsize := hsized _ hbuf
    rw [hexec, hdrop] at hfails
    have hsame : rest.drop len = rest := congrArg Io.input (Prod.mk.inj hfails).2
    have hlen := congrArg List.length hsame
    rw [List.length_drop] at hlen
    by_cases hzero : len = 0
    · exact .inl hzero
    · exact .inr ⟨List.eq_nil_of_length_eq_zero (by omega), by omega⟩
  · intro h
    refine ⟨⟨if rest.length < len then .io pc else .envelope e, ?_⟩, ?_⟩
    · rw [hexec, hdrop]
      rcases h with rfl | ⟨rfl, -⟩
      · rw [List.drop_zero]
      · rw [List.drop_nil]
    · intro size hsize
      rw [htake, hbuf] at hsize
      obtain rfl := Except.ok.inj hsize
      rcases h with rfl | ⟨-, hle⟩
      · exact Nat.add_le_add_left (Nat.zero_le _) _
      · exact Nat.add_le_add_left hle _

/-- It is prompt exactly if there is no payload to wait for. -/
theorem prompt_recvEnvelopeWith {s : Io τ} (hs : s.input = [b₀, b₁, b₂, b₃, b₄, b₅, b₆, b₇])
    (hbad : Envelope.parse [b₀, b₁, b₂, b₃, b₄, b₅, b₆, b₇] = .error (.err e)) :
    Prompt env (recvEnvelopeWith hc pc) s ↔ (beU32 b₄ b₅ b₆ b₇).toNat = 0 := by
  have hfed (rest : List UInt8) :
      (s.fed rest).input = [b₀, b₁, b₂, b₃, b₄, b₅, b₆, b₇] ++ rest := by rw [Io.fed_input, hs]
  rw [prompt_iff_exec]
  constructor
  · rintro ⟨e, s', hleft⟩
    -- one more byte than announced: what is announced is taken, and all of it has to be left
    have hmore := hleft (List.replicate ((beU32 b₄ b₅ b₆ b₇).toNat + 1) 0)
    have hexec := exec_refused env hc pc (hfed (List.replicate ((beU32 b₄ b₅ b₆ b₇).toNat + 1) 0)) hbad
    have hinput := congrArg (fun r : _ × Io τ => r.2.input.length) (hexec.symm.trans hmore)
    simp only [List.length_drop, List.length_replicate, Io.fed_input, List.length_append] at hinput
    omega
  · intro hzero
    refine ⟨.err (.envelope e), { s with input := [] }, fun rest => ?_⟩
    rw [exec_refused env hc pc (hfed rest) hbad, hzero, if_neg (Nat.not_lt_zero _), List.drop_zero]
    rfl

end Header

/-- **When a bad header is refused in time.**  Either copy of `recv_envelope` fails behind the
header, with a buffer of at most `HEADER_LEN + MAX_PAYLOAD` bytes, exactly if the header announces
nothing, or nothing comes and it does not announce too much; and it does not wait for the payload
exactly if the header announces nothing. -/
theorem refuses_iff {recv : Act X (Fault RecvError) OwnedEnvelope}
    (hcopy : recv = Wire.recvEnvelope ∨ recv = Tls.recvEnvelope) (env : Env X τ) (s : Io τ)
    (b₀ b₁ b₂ b₃ b₄ b₅ b₆ b₇ : UInt8) (rest : List UInt8)
    (hs : s.input = [b₀, b₁, b₂, b₃, b₄, b₅, b₆, b₇] ++ rest) (e : EnvelopeError)
    (hbad : Envelope.parse [b₀, b₁, b₂, b₃, b₄, b₅, b₆, b₇] = .error (.err e)) :
    (Refuses env recv s ↔
      (beU32 b₄ b₅ b₆ b₇).toNat = 0 ∨ (rest = [] ∧ (beU32 b₄ b₅ b₆ b₇).toNat ≤ maxPayload)) ∧
    (Prompt env recv { s with input := [b₀, b₁, b₂, b₃, b₄, b₅, b₆, b₇] } ↔
      (beU32 b₄ b₅ b₆ b₇).toNat = 0) := by
  rcases hcopy with rfl | rfl
  · exact ⟨refuses_recvEnvelopeWith env _ _ hs hbad, prompt_recvEnvelopeWith env _ _ rfl hbad⟩
  · exact ⟨refuses_recvEnvelopeWith env _ _ hs hbad, prompt_recvEnvelopeWith env _ _ rfl hbad⟩

/-- A header without the magic that announces nothing, and one that announces 2³² - 1 bytes. -/
def wrongMagic : List UInt8 := [0x7A, 0x77, 1, 1, 0, 0, 0, 0]
def hugePayload : List UInt8 := [0x5A, 0x57, 1, 1, 0xFF, 0xFF, 0xFF, 0xFF]

theorem refuses_iff_wrongMagic :
    Refuses Env.none (Wire.recvEnvelope : Act Sig.none (Fault RecvError) _) ⟨wrongMagic ++ [7], [], [], ()⟩ ∧
    Prompt Env.none (Tls.recvEnvelope : Act Sig.none (Fault RecvError) _) ⟨wrongMagic, [], [], ()⟩ :=
  ⟨(refuses_iff (.inl rfl) Env.none ⟨wrongMagic ++ [7], [], [], ()⟩ _ _ _ _ _ _ _ _ [7] rfl
      (.badMagic 0x7A 0x77) rfl).1.2 (.inl rfl),
    (refuses_iff (.inr rfl) Env.none ⟨wrongMagic, [], [], ()⟩ _ _ _ _ _ _ _ _ [] rfl
      (.badMagic 0x7A 0x77) rfl).2.2 rfl⟩

/-- **Gigabytes**: the buffer is 2³² + 7 bytes large when the header has been read, and the byte
behind the header is taken. -/
theorem not_refuses_hugePayload :
    Envelope.parse hugePayload = .error (.err (.tooLarge (2 ^ 32 - 1))) ∧
    ¬ Refuses Env.none (Wire.recvEnvelope : Act Sig.none (Fault RecvError) _)
      ⟨hugePayload ++ [7], [], [], ()⟩ := by
  refine ⟨rfl, fun h => ?_⟩
  have hsized := h.sized _ (recvBufferLen_header 0x5A 0x57 1 1 0xFF 0xFF 0xFF 0xFF)
  rw [headerLen, maxPayload] at hsized
  revert hsized
  decide

/-! ### The phone -/

/-- **The phone refuses a bad header at once**, whatever it announces and whatever comes behind. -/
theorem WireProtocol.readEnvelope_refuses (env : Env X τ) (s : Io τ)
    {b₀ b₁ b₂ b₃ b₄ b₅ b₆ b₇ : UInt8} (hs : s.input = [b₀, b₁, b₂, b₃, b₄, b₅, b₆, b₇])
    {e : EnvelopeError}
    (hbad : Envelope.parse [b₀, b₁, b₂, b₃, b₄, b₅, b₆, b₇] = .error (.err e)) :
    Prompt env WireProtocol.readEnvelope s ∧ ∀ rest, ∃ err,
      exec env WireProtocol.readEnvelope (s.fed rest) =
        (.error (.io err), { s with input := rest }) := by
  have hfed (rest : List UInt8) :
      (s.fed rest).input = b₀ :: b₁ :: b₂ :: b₃ :: b₄ :: b₅ :: b₆ :: b₇ :: rest := by
    rw [Io.fed_input, hs]
    rfl
  rcases hcheck : WireProtocol.checkHeader [b₀, b₁, b₂, b₃, b₄, b₅, b₆, b₇] with err | ⟨channel, len⟩
  · obtain ⟨⟨err, rfl⟩, -⟩ := WireProtocol.parse_of_checkHeader_error hcheck []
    have hexec (rest : List UInt8) : exec env WireProtocol.readEnvelope (s.fed rest) =
        (.error (.io err), { s with input := rest }) := by
      rw [WireProtocol.exec_readEnvelope_header env (hfed rest), hcheck]
      rfl
    exact ⟨prompt_iff_exec.2 ⟨.io err, { s with input := [] }, hexec⟩, fun rest => ⟨err, hexec rest⟩⟩
  · -- the phone would have taken it, and the parser as well
    obtain ⟨-, -, hparse⟩ := WireProtocol.parse_of_checkHeader_ok hcheck []
    rw [hparse] at hbad
    split_ifs at hbad

end Zerowire

/-
**Exceptions that leave the pump of the phone** (`UsbIpHost.kt`).

`pumpUrbs` catches `IOException`s and nothing else.  The length in a CMD_SUBMIT is an unsigned word
on the wire and an `Int` on the phone.  For an OUT body it is tested first; for the buffer of an IN
transfer it is not, and an array of negative size is an exception of another kind.  So is the array
for a reply when a device brings almost `2 ^ 31` bytes.

Main definitions:

* `Zerowire.UsbIpHost.EndsWith` — what comes of a run;
* `Zerowire.UsbIpHost.DealtWith` — a CMD_SUBMIT is answered, or the run ends through the `catch`
  block;
* `Zerowire.UsbIpHost.Survives` — a command can be answered when its turn comes.

Main results:

* `Zerowire.UsbIpHost.endsWith_iff` — **when a run returns**, whatever the stream;
* `Zerowire.UsbIpHost.dealtWith_iff` — when the first command of a stream is dealt with;
* `Zerowire.UsbIpHost.submits_dealt_with_iff` — **both**, for every pump and every device.
-/

import Zerowire.UrbStream

set_option relaxedAutoImplicit false
set_option autoImplicit false

namespace Zerowire.UsbIpHost

open Bytes Program Jvm UsbIpFrame

variable {τ : Type}

/-! ### Runs -/

section Run

variable (host : UsbIpHost) (env : Env usbSig τ)

/-- **What comes of a run**, however many rounds it is allowed. -/
def EndsWith (s : Io (Finset Int32 × τ))
    (r : Except (Throwable PumpException) Unit × Io (Finset Int32 × τ)) : Prop :=
  ∀ fuel, s.input.length < fuel → host.pumpUrbs env fuel s = some r

/-- A command is not looked at any more, or it can be answered when its turn comes. -/
def Survives (raw : List UInt8) (st : Finset Int32 × τ) : Prop :=
  (env .stopped st.2).1 = true ∨ host.CanAnswer env raw (st.1, (env .stopped st.2).2)

variable {host env}

/-- There is only one end of a run. -/
theorem EndsWith.unique {s : Io (Finset Int32 × τ)}
    {r r' : Except (Throwable PumpException) Unit × Io (Finset Int32 × τ)} (h : host.EndsWith env s r)
    (h' : host.EndsWith env s r') : r = r' :=
  Option.some.inj ((h _ (Nat.lt_succ_self _)).symm.trans (h' _ (Nat.lt_succ_self _)))

/-- A round that goes on. -/
theorem endsWith_of_inl {s s' : Io (Finset Int32 × τ)}
    {r : Except (Throwable PumpException) Unit × Io (Finset Int32 × τ)}
    (hx : exec env.withRef host.pumpRound s = (.ok (.inl ()), s'))
    (hlt : s'.input.length < s.input.length) (h : host.EndsWith env s' r) :
    host.EndsWith env s r := by
  intro fuel hfuel
  obtain ⟨n, rfl⟩ : ∃ n, fuel = n + 1 := ⟨fuel - 1, by omega⟩
  have hrun := h n (by omega)
  rw [pumpUrbs] at hrun ⊢
  rw [loop_rounds_inl hx]
  exact hrun

/-- A round that ends the loop. -/
theorem endsWith_of_inr {s s' : Io (Finset Int32 × τ)}
    (hx : exec env.withRef host.pumpRound s = (.ok (.inr ()), s')) :
    host.EndsWith env s (exec env.withRef (host.endPump (.ok ())) s') := by
  intro fuel hfuel
  obtain ⟨n, rfl⟩ : ∃ n, fuel = n + 1 := ⟨fuel - 1, by omega⟩
  rw [pumpUrbs, loop_rounds_inr hx, Option.map_some]

/-- A round that throws. -/
theorem endsWith_of_error {s s' : Io (Finset Int32 × τ)} {e : Throwable PumpException}
    (hx : exec env.withRef host.pumpRound s = (.error e, s')) :
    host.EndsWith env s (exec env.withRef (host.endPump (.error e)) s') := by
  intro fuel hfuel
  obtain ⟨n, rfl⟩ : ∃ n, fuel = n + 1 := ⟨fuel - 1, by omega⟩
  rw [pumpUrbs, loop_rounds_error hx, Option.map_some]

/-- **When a run returns**: every command that it comes to can be answered when its turn comes.
Otherwise it throws a `NegativeArraySizeException`, and nothing else. -/
theorem endsWith_iff (host : UsbIpHost) (env : Env usbSig τ) (s : Io (Finset Int32 × τ)) :
    ∃ r, host.EndsWith env s r ∧ s.output <+: r.2.output ∧
      (r.1 = .ok () ∨ r.1 = .error .negativeArraySize) ∧
      (r.1 = .ok () ↔
        Transducer.Always (host.round env) (host.Survives env) (commandsOf s.input) s.env) := by
  -- by induction on what is left of the stream
  induction hn : s.input.length using Nat.strong_induction_on generalizing s with
  | _ n ih =>
      subst hn
      rw [commandsOf]
      rcases host.exec_pumpRound s with
        ⟨hstop, hx⟩ | ⟨raw, n, chunks, hstop, htake, hx⟩ | ⟨hnone, result, input, chunks, hx, hresult⟩
      · -- the pump has been stopped
        refine ⟨_, endsWith_of_inr hx, ?_⟩
        rw [exec_endPump]
        refine ⟨List.prefix_rfl, .inl rfl, iff_of_true rfl ?_⟩
        rcases StreamCodec.frames takeUrb s.input with _ | ⟨raw, rest⟩
        · trivial
        · refine ⟨.inl hstop, fun hsome => ?_⟩
          rw [round, if_pos hstop] at hsome
          cases hsome
      · have hpos := takeUrb_stable.pos htake
        have hle := takeUrb_stable.le htake
        have hround : host.round env raw s.env =
            host.answer env raw (s.env.1, (env .stopped s.env.2).2) := by
          rw [round, if_neg (by rw [hstop]; exact Bool.false_ne_true)]
        have hcan := answer_isSome_iff host env raw (s.env.1, (env .stopped s.env.2).2)
        have hsurvives : host.Survives env raw s.env ↔
            (host.round env raw s.env).1.isSome = true := by
          rw [hround, hcan, Survives, hstop]
          simp
        rw [StreamCodec.frames_eq_cons takeUrb_stable htake, Transducer.Always, hsurvives]
        rcases hans : host.round env raw s.env with ⟨_ | reply, st⟩
        · -- the exception escapes
          rw [hans] at hx
          refine ⟨_, endsWith_of_error hx, ?_⟩
          rw [exec_endPump]
          exact ⟨List.prefix_rfl, .inr rfl, iff_of_false (by simp [caught]) (by simp)⟩
        · rw [hans] at hx
          have hlt : (s.input.drop n).length < s.input.length := by
            rw [List.length_drop]
            omega
          obtain ⟨r, hends, hext, hcases, hiff⟩ := ih _ hlt
            ⟨s.input.drop n, chunks, s.output ++ reply.bytes, st⟩ rfl
          refine ⟨r, endsWith_of_inl hx hlt hends,
            (List.prefix_append _ _).trans hext, hcases, hiff.trans ?_⟩
          simp [commandsOf]
      · -- nothing is taken, and the run ends
        rw [StreamCodec.frames_eq_nil takeUrb_stable hnone]
        rcases hresult with ⟨rfl, -⟩ | ⟨e, rfl⟩
        · refine ⟨_, endsWith_of_inr hx, ?_⟩
          rw [exec_endPump]
          exact ⟨List.prefix_rfl, .inl rfl, iff_of_true rfl trivial⟩
        · refine ⟨_, endsWith_of_error hx, ?_⟩
          rw [exec_endPump]
          exact ⟨List.prefix_rfl, .inl rfl, iff_of_true rfl trivial⟩

end Run

/-! ### The first command -/

section First

variable (host : UsbIpHost) (env : Env usbSig τ)

/-- **The CMD_SUBMIT at the front of the stream is dealt with**: its RET_SUBMIT is written, or an
`IOException` ends the loop and the pump returns. -/
def DealtWith (header : List UInt8) (s : Io (Finset Int32 × τ)) : Prop :=
  ∃ r, host.EndsWith env s r ∧
    ((∃ bytes, Replies host.importId.toUInt32 header bytes ∧ s.output ++ bytes <+: r.2.output) ∨
      (∃ e, (exec env.withRef host.pumpRound s).1 = .error (.io e)) ∧ r.1 = .ok ())

variable {host env}

/-- Whether a command can be answered is said by its header. -/
theorem canAnswer_take (raw : List UInt8) (st : Finset Int32 × τ) :
    host.CanAnswer env (raw.take urbHeaderLen) st ↔ host.CanAnswer env raw st := by
  rw [CanAnswer, CanAnswer, wordAt_take (by decide), UsbIpFrame.CmdSubmit.ofHeader_take (Nat.le_refl _)]

/-- Which reply a command gets is said by its header. -/
theorem replies_take {importId : UInt32} (raw bytes : List UInt8) :
    Replies importId (raw.take urbHeaderLen) bytes ↔ Replies importId raw bytes := by
  rw [Replies, Replies, wordAt_take (by decide), wordAt_take (by decide)]

/-- A reply is not empty. -/
theorem replies_ne_nil {importId : UInt32} {raw bytes : List UInt8} (h : Replies importId raw bytes) :
    bytes ≠ [] := by
  obtain ⟨packet, rfl, -⟩ := h
  rw [← List.length_pos_iff, Envelope.length_bytes]
  exact Nat.succ_pos _

/-- Where nothing is written there is no reply. -/
theorem not_written {importId : UInt32} {raw bytes output : List UInt8}
    (h : Replies importId raw bytes) : ¬ output ++ bytes <+: output := by
  intro hext
  have hlength := hext.length_le
  rw [List.length_append] at hlength
  have hnil : bytes.length = 0 := by omega
  exact replies_ne_nil h (List.length_eq_zero_iff.1 hnil)

/-- **When the first command of a stream is dealt with**: its body is cut short, or it can be
answered. -/
theorem dealtWith_iff (host : UsbIpHost) (env : Env usbSig τ) {header rest : List UInt8}
    (h : header.length = urbHeaderLen) (hcmd : wordAt header 0 = UrbOp.cmdSubmit.toU32)
    {s : Io (Finset Int32 × τ)} (hs : s.input = header ++ rest)
    (hgo : (env .stopped s.env.2).1 = false) :
    host.DealtWith env header s ↔
      rest.length < outBodySize (UsbIpFrame.CmdSubmit.ofHeader header) ∨
        host.CanAnswer env header (s.env.1, (env .stopped s.env.2).2) := by
  have hword : wordAt s.input 0 = UrbOp.cmdSubmit.toU32 := by
    rw [hs, wordAt_append rest (by rw [h]; decide), hcmd]
  have hlen : s.input.length = urbHeaderLen + rest.length := by rw [hs, List.length_append, h]
  have hsize : urbSize s.input =
      urbHeaderLen + outBodySize (UsbIpFrame.CmdSubmit.ofHeader header) := by
    rw [hs, urbSize_append rest (by rw [h]), urbSize, if_pos hcmd]
  -- the one round that the first command takes
  rcases host.exec_pumpRound s with
    ⟨hstop, -⟩ | ⟨raw, n, chunks, -, htake, hx⟩ | ⟨hnone, result, input, chunks, hx, hresult⟩
  · rw [hgo] at hstop
    cases hstop
  · -- the command is there with its body
    obtain ⟨-, hle, hn, hraw⟩ := takeUrb_eq_some.1 htake
    have hpos := takeUrb_stable.pos htake
    have hheader : raw.take urbHeaderLen = header := by
      rw [hraw, hn, List.take_take, Nat.min_eq_left (le_urbSize _), hs, List.take_left' h]
    have hbody : ¬ rest.length < outBodySize (UsbIpFrame.CmdSubmit.ofHeader header) := by omega
    have hround : host.round env raw s.env =
        host.answer env raw (s.env.1, (env .stopped s.env.2).2) := by
      rw [round, if_neg (by rw [hgo]; exact Bool.false_ne_true)]
    have hcan := answer_isSome_iff host env raw (s.env.1, (env .stopped s.env.2).2)
    rw [← canAnswer_take, hheader] at hcan
    rw [or_iff_right hbody, ← hcan]
    rw [hround] at hx
    rcases hans : host.answer env raw (s.env.1, (env .stopped s.env.2).2) with ⟨_ | reply, st⟩
    · -- the exception escapes, and nothing is written
      rw [hans] at hx
      refine iff_of_false ?_ (by simp)
      rintro ⟨r, hends, ⟨bytes, hreplies, hext⟩ | ⟨⟨e, he⟩, -⟩⟩
      · rw [hends.unique (endsWith_of_error hx), exec_endPump] at hext
        exact not_written hreplies hext
      · rw [hx] at he
        cases he
    · have hreplies := answer_replies host env (congrArg Prod.fst hans)
      rw [← replies_take, hheader] at hreplies
      rw [hans] at hx
      refine iff_of_true ?_ rfl
      obtain ⟨r, hends, hext, -⟩ := endsWith_iff host env
        ⟨s.input.drop n, chunks, s.output ++ reply.bytes, st⟩
      have hlt : (s.input.drop n).length < s.input.length := by
        rw [List.length_drop]
        omega
      exact ⟨r, endsWith_of_inl hx hlt hends, .inl ⟨_, hreplies, hext⟩⟩
  · -- the body is cut short
    have hshort : rest.length < outBodySize (UsbIpFrame.CmdSubmit.ofHeader header) := by
      by_contra hbody
      exact hnone _ (takeUrb_eq_some.2 ⟨.inl hword, by omega, rfl, rfl⟩)
    refine iff_of_true ?_ (.inl hshort)
    rcases hresult with ⟨-, htoo | hother⟩ | ⟨e, rfl⟩
    · omega
    · exact absurd (.inl hword) hother
    · refine ⟨_, endsWith_of_error hx, .inr ⟨⟨e, by rw [hx]⟩, ?_⟩⟩
      rw [exec_endPump]
      rfl

end First

/-- **No exception leaves the pump** as long as the buffers and the replies have a size.  The first
part is about the command at the front of a stream, in any state; the second about all of a run. -/
theorem submits_dealt_with_iff (host : UsbIpHost) (env : Env usbSig τ) :
    (∀ (header rest : List UInt8) (s : Io (Finset Int32 × τ)), header.length = urbHeaderLen →
      wordAt header 0 = UrbOp.cmdSubmit.toU32 → s.input = header ++ rest →
      (env .stopped s.env.2).1 = false →
      (host.DealtWith env header s ↔
        rest.length < outBodySize (UsbIpFrame.CmdSubmit.ofHeader header) ∨
          host.CanAnswer env header (s.env.1, (env .stopped s.env.2).2))) ∧
    ∀ s : Io (Finset Int32 × τ), ∃ r, host.EndsWith env s r ∧ s.output <+: r.2.output ∧
      (r.1 = .ok () ∨ r.1 = .error .negativeArraySize) ∧
      (r.1 = .ok () ↔
        Transducer.Always (host.round env) (host.Survives env) (commandsOf s.input) s.env) :=
  ⟨fun _ _ _ h hcmd hs hgo => dealtWith_iff host env h hcmd hs hgo, endsWith_iff host env⟩

/-- GET_DESCRIPTOR for the device, with a given length. -/
def getDeviceDescriptor (length : UInt32) : List UInt8 :=
  CmdSubmit.encode ⟨1, 0, urbDirIn, 0, 0, length, 0, 0, 0, .of 0x80 0x06 0 1 0 0 18 0⟩

/-- With a length of 18 bytes it is answered. -/
theorem getDeviceDescriptor_dealt_with :
    bulkInHost.DealtWith fullTransfers (getDeviceDescriptor 18)
      ⟨getDeviceDescriptor 18 ++ [7], [], [], (∅, ())⟩ := by
  refine ((submits_dealt_with_iff bulkInHost fullTransfers).1 _ [7] _ (by decide) (by decide) rfl
    rfl).2 (.inr ?_)
  intro _ tr timeout _
  refine ⟨by decide, ?_⟩
  rintro n buf' ⟨⟩
  decide

/-- With a length of `2 ^ 32 - 1`, which is −1 on the phone, an exception leaves the pump. -/
theorem getDeviceDescriptor_escapes :
    ¬ bulkInHost.DealtWith fullTransfers (getDeviceDescriptor 0xffffffff)
      ⟨getDeviceDescriptor 0xffffffff, [], [], (∅, ())⟩ := by
  have hlen : (getDeviceDescriptor 0xffffffff).length = urbHeaderLen := by decide
  rw [dealtWith_iff bulkInHost fullTransfers hlen (by decide) (List.append_nil _).symm rfl]
  rintro (hshort | hcan)
  · exact absurd hshort (by decide)
  · exact (hcan (by decide) _ _ rfl).1 (by decide)

end Zerowire.UsbIpHost

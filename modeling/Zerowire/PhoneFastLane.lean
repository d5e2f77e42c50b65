/-
**The phone at the other end of the fast lane** (`ReceiverSession.kt`;
`desktop-linux/src/receiver.rs`, `desktop-linux/src/bin/zerowire_cli.rs`).

The phone plays the sender's part.  It is not written in the same language as its receivers, and
neither is its JSON library: what one of them prints is read by the other.  All that is relied on of
the two libraries is that each reads what the other one has printed as the value that was to be
printed.

A session ends only because it is stopped, from another thread: `stop` clears the flag that the loop
over the reports looks at, and then closes the socket.  So the socket may be closed under any of the
writes; the report that has just been read is lost then, and so is the UNBIND, unless the loop has
seen the flag and the UNBIND has been written before the socket is closed.

Main definitions:

* `Zerowire.ReceiverSession.ReadsReports` — the reports that are read from a device, until the
  session is stopped;
* `Zerowire.ReceiverSession.StreamsDevice` — a phone that streams a device;
* `Zerowire.ReceiverSession.Understood` — the messages of a session, from one library to the other.

Main results:

* `Zerowire.ReceiverSession.plays` — **the phone plays the sender's part**;
* `Zerowire.ReceiverSession.phone_delivers` — the phone and the receiver;
* `Zerowire.ReceiverSession.phone_captured` — the phone and the capture programs;
* `Zerowire.ReceiverSession.phone_denies_usbip` — **a receiver of USB/IP gets nothing from the
  phone.**
-/

import Zerowire.ControlSchema
import Zerowire.Disconnect
import Zerowire.HidSenders
import Zerowire.SendersCompared
import Zerowire.SimulatedSession

set_option relaxedAutoImplicit false
set_option autoImplicit false

namespace Zerowire.ReceiverSession

open Bytes Jvm Program Android Senders

variable {τ : Type}

/-! ### The phone -/

/-- The state of the phone behind some calls. -/
def behind (env : Env phoneSig τ) (calls : List PhoneOp) (t : τ) : τ :=
  calls.foldl (fun t o => (env o t).2) t

/-- The bytes that are written for a report. -/
def reportBytes (n : ℕ) (r : Jvm.Array) : List UInt8 :=
  (Arrival.frame n bindId r.val).envelope.bytes

/-- **The reports that are read from an endpoint**, until the session is stopped, over a connection
that takes so many bytes of them.  Either the loop finds that the flag has been cleared; or the
socket is closed under a report that has been read. -/
inductive ReadsReports (env : Env phoneSig τ) (ep : HidEndpoint) : ℕ → τ → List Jvm.Array → Prop
  | stopped {room : ℕ} {t : τ} (running : (env .running t).1 = false) :
      ReadsReports env ep room t []
  | nothing {room : ℕ} {t u : τ} {reports : List Jvm.Array} (running : (env .running t).1 = true)
      (read : answer env (ep.readReport 1000) (env .running t).2 = (.ok none, u))
      (rest : ReadsReports env ep room u reports) : ReadsReports env ep room t reports
  | report {room : ℕ} {t u : τ} {r : Jvm.Array} {reports : List Jvm.Array}
      (running : (env .running t).1 = true)
      (read : answer env (ep.readReport 1000) (env .running t).2 = (.ok (some r), u))
      (fits : (reportBytes 0 r).length ≤ room)
      (rest : ReadsReports env ep (room - (reportBytes 0 r).length) u reports) :
      ReadsReports env ep room t (r :: reports)
  | lost {room : ℕ} {t u : τ} {r : Jvm.Array} (running : (env .running t).1 = true)
      (read : answer env (ep.readReport 1000) (env .running t).2 = (.ok (some r), u))
      (closed : room < (reportBytes 0 r).length) : ReadsReports env ep room t [r]

/-- **What is sent of the reports**: all of them, or all but the last one. -/
theorem ReadsReports.wholeReports_eq {env : Env phoneSig τ} {ep : HidEndpoint} {room : ℕ} {t : τ}
    {reports : List Jvm.Array} (h : ReadsReports env ep room t reports) :
    wholeReports room (reports.map (·.val)) = reports.map (·.val) ∨
      wholeReports room (reports.map (·.val)) = (reports.map (·.val)).dropLast := by
  induction h with
  | stopped running => exact .inl rfl
  | nothing running read rest ih => exact ih
  | @report room t u r reports running read fits rest ih =>
      have hcons : wholeReports room (r.val :: reports.map (·.val)) =
          r.val :: wholeReports (room - (reportBytes 0 r).length) (reports.map (·.val)) := if_pos fits
      rw [List.map_cons, hcons]
      rcases ih with hall | hlast
      · exact .inl (by rw [hall])
      · rcases reports with _ | ⟨r', reports⟩
        · exact .inl rfl
        · exact .inr (by rw [hlast]; rfl)
  | @lost room t u r running read closed => exact .inr (if_neg (Nat.not_le.2 closed))

/-- **A phone that lists its devices**: the socket works. -/
structure Offers (env : Env phoneSig τ) (t : τ) (ds : List UsbDevice) : Prop where
  setTcpNoDelay : (env (.setTcpNoDelay true) t).1 = .ok ()
  setSoTimeout : (env (.setSoTimeout 30000) (behind env [.setTcpNoDelay true] t)).1 = .ok ()
  getInputStream :
    (env .getInputStream (behind env [.setTcpNoDelay true, .setSoTimeout 30000] t)).1 = .ok ()
  getOutputStream :
    (env .getOutputStream
      (behind env [.setTcpNoDelay true, .setSoTimeout 30000, .getInputStream] t)).1 = .ok ()
  deviceList :
    (env .deviceList (behind env
      [.setTcpNoDelay true, .setSoTimeout 30000, .getInputStream, .getOutputStream] t)).1 = .ok ds

/-- What the phone does before it is asked for a device. -/
def listing : List PhoneOp :=
  [.setTcpNoDelay true, .setSoTimeout 30000, .getInputStream, .getOutputStream, .deviceList]

/-- **A phone that streams a device**: it lists its devices, and this one can be opened. -/
structure StreamsDevice (env : Env phoneSig τ) (t : τ) (ds : List UsbDevice) (d : UsbDevice)
    (ep : HidEndpoint) (room : ℕ) (reports : List Jvm.Array) : Prop extends Offers env t ds where
  opened : ∃ u, answer env (HidEndpoint.openOn d) (behind env listing t) = (.ok (some ep), u) ∧
    ReadsReports env ep room u reports

/-! ### The calls -/

section Calls

variable {α : Type} {env : Env phoneSig τ} {json : OrgJson} {s : Io τ}

theorem enough_readEnvelope {e : Envelope} (h : e.Fits) (hs : s.input = []) :
    Enough env (handled phone (perform (request .readEnvelope))) (s.fed e.bytes) e s := by
  intro rest
  obtain ⟨input, chunks, output, x⟩ := s
  obtain rfl : input = [] := hs
  have hread := WireProtocol.exec_readEnvelope_of_parse env
    (s := { input := e.bytes ++ rest, chunks, output, env := x }) (Envelope.codec.round rest h)
  rw [List.drop_left' rfl] at hread
  rw [exec_perform (q := mapErr wireThrown WireProtocol.readEnvelope) (handle_request _), ← exec_mapErr]
  exact exec_mapErr_ok (exec_mapErr_ok hread wireThrown) Stop.failed

theorem enough_sendJson (msg : JsonValue) (s : Io τ) :
    Enough env (handled phone (sendJson json msg)) s ()
      (s.sent (⟨.control, (json.print msg).val⟩ : Envelope).bytes) :=
  fun rest => exec_sendJson env msg (s.fed rest)

variable (env) in
/-- The control message that is expected is taken. -/
theorem enough_expectControl {serde : Serde} {text : List UInt8} {m : ControlMessage}
    (h : IsText serde json text m) {op : String} (hop : m.op = op) (hs : s.input = []) :
    ∃ obj, m.Shows obj ∧ Enough env (handled phone (expectControl json op))
      (s.fed (⟨.control, text⟩ : Envelope).bytes) obj s := by
  obtain ⟨obj, hparse, hshows⟩ := h.shown
  refine ⟨obj, hshows, ?_⟩
  rw [expectControl, handled_bind]
  refine (enough_readEnvelope h.fits hs).bind ?_
  intro rest
  rw [if_neg (fun hne => hne rfl)]
  simp only [hparse]
  rw [if_neg (not_not.2 (hshows.op.trans hop))]
  rfl

/-- A call, as the program behind it. -/
theorem handled_perform {p : Prog sessionSig (Outcome α)} {q : Act phoneSig Thrown α}
    (h : p.handle phone = q.run) : handled phone (perform p) = mapErr .failed q := by
  rw [handled, perform, ExceptT.run_mk, Prog.handle_bind, h]
  rfl

/-- How a write ends. -/
def writeEnd (room : Option ℕ) (bs : List UInt8) : Except (Throwable WireProtocol.WireError) Unit :=
  if (leaves room bs).isSome then .ok () else .error (.io .write)

variable (env) in
theorem suffices_write (room : Option ℕ) (bs : List UInt8) (s : Io τ) :
    Suffices env (WireProtocol.write bs) room s (writeEnd room bs) (leaves room bs)
      { s with output := s.output ++ taken room bs } := by
  rw [WireProtocol.write]
  refine (Suffices.writeAll room bs s).bind ?_
  rw [writeEnd]
  split_ifs
  · exact .pure ()
  · exact .throw _

variable (env) in
/-- **An envelope is written** as far as there is room for it. -/
theorem suffices_writeEnvelope (room : Option ℕ) (e : Envelope) (s : Io τ) :
    Suffices env (handled phone (perform (request (.writeEnvelope e.channel e.payload)))) room s
      ((writeEnd room e.bytes).mapError fun err => .failed (wireThrown err)) (leaves room e.bytes)
      { s with output := s.output ++ taken room e.bytes } := by
  have hwritten : Suffices env (WireProtocol.writeEnvelope e.channel e.payload) room s
      (writeEnd room e.bytes) (leaves room e.bytes)
      { s with output := s.output ++ taken room e.bytes } := by
    rw [WireProtocol.writeEnvelope, WireProtocol.envelopeHeader_eq]
    let hdr := magic ++ [protocolVersion, e.channel.toU8] ++ toBe32 (UInt32.ofNat e.payload.length)
    have hbytes : e.bytes = hdr ++ e.payload := by
      simp only [Envelope.bytes, hdr, List.append_assoc]
    refine (Suffices.of_callsAlone (by trivial) (.ofResult rfl s) room).bind ?_
    have hheader := suffices_write env room hdr s
    rw [hbytes, writeEnd, leaves_append, taken_append, ← List.append_assoc]
    rcases hleft : leaves room hdr with _ | n
    · -- the socket has been closed under the header
      rw [writeEnd, hleft] at hheader
      rw [taken, List.append_nil]
      exact hheader.bind_error _
    · rw [writeEnd, hleft] at hheader
      exact hheader.bind (suffices_write env (some n) e.payload _)
  rw [handled_perform (q := mapErr wireThrown (WireProtocol.writeEnvelope e.channel e.payload))
    (handle_request _), mapErr_mapErr]
  exact hwritten.mapErr _

end Calls

/-! ### The BIND_ACK -/

/-- **The body of the BIND_ACK** is the one of the desktop, with the text of the other library, as
long as there is an array of its size. -/
theorem bindAckBody_eq {ε : Type} (json : OrgJson) (busid kind : String)
    (vendorId productId : Int32)
    (name : String) {descriptor : List UInt8}
    (h : 2 + (json.print (bindAckInfo busid kind vendorId productId name)).val.length +
      descriptor.length < 2 ^ 31) :
    (bindAckBody json busid kind vendorId productId name descriptor : Except (Throwable ε) _) =
      .ok (toBe16 (UInt16.ofNat (json.print (bindAckInfo busid kind vendorId productId name)).val.length) ++
        (json.print (bindAckInfo busid kind vendorId productId name)).val ++ descriptor) := by
  rw [bindAckBody]
  change (do
    let info := (json.print (bindAckInfo busid kind vendorId productId name)).val
    let out ← newByteArray (2 + size info + size descriptor)
    let out ← put out 0 [((size info >>> 8).toUInt32 &&& 0xFF).toUInt8]
    let out ← put out 1 [((size info).toUInt32 &&& 0xFF).toUInt8]
    let out ← arraycopy info 0 out 2 info.length
    arraycopy descriptor 0 out (2 + info.length) descriptor.length : Except (Throwable ε) _) = _
  generalize (json.print (bindAckInfo busid kind vendorId productId name)).val = info at h ⊢
  have hupper : ((size info >>> 8).toUInt32 &&& 0xFF).toUInt8 =
      UInt8.ofNat (info.length / 2 ^ 8) := by
    rw [UsbIpFrame.toUInt8_and, size, toNat_shiftRight 8 rfl (by omega)]
  have hlower : ((size info).toUInt32 &&& 0xFF).toUInt8 = UInt8.ofNat info.length := by
    rw [UsbIpFrame.toUInt8_and, size, Int32.toUInt32_ofNat', UInt32.toNat_ofNat',
      Nat.mod_eq_of_lt (by omega)]
  have hword : toBe16 (UInt16.ofNat info.length) =
      [UInt8.ofNat (info.length / 2 ^ 8), UInt8.ofNat info.length] := by
    rw [toBe16, UInt16.toNat_ofNat']
    refine congrArg₂ (fun a b => [a, b]) ?_ ?_ <;> apply UInt8.toNat_inj.1 <;>
      rw [UInt8.toNat_ofNat', UInt8.toNat_ofNat'] <;> omega
  have hsum : (2 + size info : Int32) = Int32.ofNat (2 + info.length) := by
    rw [Int32.ofNat_add]
    rfl
  have hzeros : List.replicate (2 + info.length + descriptor.length) (0 : UInt8) =
      0 :: 0 :: List.replicate (info.length + descriptor.length) 0 := by
    rw [Nat.add_assoc, Nat.add_comm 2]
    rfl
  -- the two bytes of the length, the text, and the descriptor
  have hfirst (r : List UInt8) : (put (0 :: 0 :: r) 0 [UInt8.ofNat (info.length / 2 ^ 8)] :
      Except (Throwable ε) _) = .ok (UInt8.ofNat (info.length / 2 ^ 8) :: 0 :: r) := put_byte [] _ _ 0
  have hsecond (b : UInt8) (r : List UInt8) : (put (b :: 0 :: r) 1 [UInt8.ofNat info.length] :
      Except (Throwable ε) _) = .ok (b :: UInt8.ofNat info.length :: r) := put_byte [b] _ _ 0
  have hthird (b c : UInt8) : (arraycopy info 0
      (b :: c :: List.replicate (info.length + descriptor.length) 0) 2 info.length :
      Except (Throwable ε) _) = .ok ([b, c] ++ info ++ List.replicate descriptor.length 0) := by
    rw [arraycopy, if_pos (by omega), List.drop_zero, List.take_length]
    exact put_zeros [b, c] info descriptor.length
  have hfourth (b c : UInt8) := UsbIpFrame.arraycopy_all (ε := ε) ([b, c] ++ info) descriptor
    (show ([b, c] ++ info).length = 2 + info.length by rw [List.length_append]; rfl)
  simp only [hsum, hupper, hlower]
  rw [newByteArray_add_size (by omega) (by omega), if_pos h, ok_bind, hzeros, hfirst, ok_bind, hsecond,
    ok_bind, hthird, ok_bind, hfourth, hword]

/-! ### The reports -/

section Reports

variable {α β : Type} {env : Env phoneSig τ} {ep : HidEndpoint}

theorem suffices_orBreak_ok {p : SessionAct α} {k : α → SessionAct (β ⊕ Unit)} {a : α}
    {room room₁ room' : Option ℕ} {s s₁ s' : Io τ} {r : Except (Stop Thrown) (β ⊕ Unit)}
    (hp : Suffices env (handled phone p) room s (.ok a) room₁ s₁)
    (hk : Suffices env (handled phone (k a)) room₁ s₁ r room' s') :
    Suffices env (handled phone (orBreak p k)) room s r room' s' := by
  rw [orBreak, handled_bind, handled_attempt]
  exact hp.attempt.bind hk

/-- An `IOException` ends the loop. -/
theorem suffices_orBreak_io {p : SessionAct α} (k : α → SessionAct (β ⊕ Unit))
    {e : SessionException} {room room' : Option ℕ} {s s' : Io τ}
    (hp : Suffices env (handled phone p) room s (.error (.failed (.threw (.io e)))) room' s') :
    Suffices env (handled phone (orBreak p k)) room s (.ok (.inr ())) room' s' := by
  rw [orBreak, handled_bind, handled_attempt]
  exact hp.attempt.bind (.pure (Sum.inr () : β ⊕ Unit))

theorem callsOnly_readReport (ep : HidEndpoint) (timeoutMs : Int32) :
    CallsOnly (ep.readReport timeoutMs) := by
  rw [HidEndpoint.readReport]
  refine (CallsOnly.ofResult _).bind fun buf => CallsOnly.bind ⟨fun _ _ => rfl⟩ fun r => ?_
  exact .ite ((CallsOnly.ofResult _).bind fun _ => .pure _) (.pure _)

theorem callsOnly_openOn (device : UsbDevice) : CallsOnly (HidEndpoint.openOn device) := by
  rw [HidEndpoint.openOn]
  split
  · exact .pure _
  split
  · exact .pure _
  refine CallsOnly.bind ⟨fun _ _ => rfl⟩ ?_
  rintro (_ | conn)
  · exact .pure _
  refine CallsOnly.bind ⟨fun _ _ => rfl⟩ fun claimed => .ite ?_ ?_
  · refine CallsOnly.bind ?_ fun rd => .pure _
    refine (CallsOnly.ofResult _).bind fun buf => CallsOnly.bind ⟨fun _ _ => rfl⟩ fun r => ?_
    exact .ite (.pure _) (.ofResult _)
  · exact CallsOnly.bind ⟨fun _ _ => rfl⟩ fun _ => .pure _

/-- What comes of reading a report. -/
theorem enough_readReport {t u : τ} {r : Option Jvm.Array}
    (h : answer env (ep.readReport 1000) t = (.ok r, u)) {s : Io τ} (hs : s.env = t) :
    Enough env (handled phone (perform (request (.readReport ep 1000)))) s r { s with env := u } := by
  rw [handled_perform (q := ep.readReport 1000) (handle_request _)]
  exact ((callsOnly_readReport ep 1000).enough (hs ▸ h)).mapErr _

variable (env) in
/-- What comes of looking at the flag. -/
theorem enough_running (s : Io τ) :
    Enough env (handled phone (ExceptT.lift (request .running) : SessionAct Bool)) s
      (env .running s.env).1 { s with env := (env .running s.env).2 } := fun _ => rfl

/-- A round in which the session is stopped. -/
theorem suffices_reportRound_stopped {bindId seq : Int32} {room : ℕ} {s : Io τ}
    (running : (env .running s.env).1 = false) :
    Suffices env (handled phone (reportRound ep bindId seq)) (some room) s (.ok (.inr ())) (some room)
      { s with env := (env .running s.env).2 } := by
  have hlooked := enough_running env s
  rw [running] at hlooked
  rw [reportRound, handled_bind]
  exact (Suffices.of_silent hlooked rfl).bind (.pure _)

/-- A round in which the session is not stopped. -/
theorem suffices_reportRound {t u : τ} {report : Option Jvm.Array}
    (running : (env .running t).1 = true)
    (hread : answer env (ep.readReport 1000) (env .running t).2 = (.ok report, u))
    {bindId seq : Int32} {room : ℕ} {room' : Option ℕ} {s s' : Io τ} (hs : s.env = t)
    {r : Except (Stop Thrown) (Int32 ⊕ Unit)}
    (hround : Suffices env (handled phone (match report with
        | none => return .inl seq
        | some report => do
            let seq := (seq + 1) &&& 0xFFFF
            let frameOut ← onArrays .wire (WireProtocol.encodeHidFrame .reportIn bindId seq report.val)
            orBreak (perform (request (.writeEnvelope .hid frameOut))) fun _ => return .inl seq))
      (some room) { s with env := u } r room' s') :
    Suffices env (handled phone (reportRound ep bindId seq)) (some room) s r room' s' := by
  subst hs
  have hlooked := enough_running env s
  rw [running] at hlooked
  have hreport := enough_readReport hread (s := { s with env := (env .running s.env).2 }) rfl
  rw [reportRound, handled_bind]
  refine (Suffices.of_silent hlooked rfl).bind ?_
  exact suffices_orBreak_ok (.of_silent hreport rfl) hround

/-- The number of a report. -/
abbrev seqNumber (n : ℕ) : Int32 := Int32.ofNat (seqOf n).toNat

/-- **A report is sent**, and the loop goes on if there has been room for it. -/
theorem suffices_reportRound_report {t u : τ} {r : Jvm.Array} (running : (env .running t).1 = true)
    (hread : answer env (ep.readReport 1000) (env .running t).2 = (.ok (some r), u))
    (hlen : 4 + r.val.length < 2 ^ 31) (n room : ℕ) {s : Io τ} (hs : s.env = t) :
    Suffices env (handled phone (reportRound ep (Int32.ofNat bindId.toNat) (seqNumber n))) (some room) s
      (.ok (if (leaves (some room) (reportBytes (n + 1) r)).isSome then .inl (seqNumber (n + 1))
        else .inr ()))
      (leaves (some room) (reportBytes (n + 1) r))
      { s with output := s.output ++ taken (some room) (reportBytes (n + 1) r), env := u } := by
  have hframe : (WireProtocol.encodeHidFrame .reportIn (Int32.ofNat bindId.toNat) (seqNumber (n + 1)) r.val :
      Except (Throwable WireProtocol.WireError) _) = .ok (Arrival.frame (n + 1) bindId r.val).encode := by
    have hencode := WireProtocol.encodeHidFrame_eq (ε := WireProtocol.WireError)
      (Arrival.frame (n + 1) bindId r.val) r.property
    exact hencode.trans (if_pos hlen)
  have hseq : (seqNumber n + 1) &&& 0xFFFF = seqNumber (n + 1) := next_seq n
  have hwrite := suffices_writeEnvelope env (some room)
    (Arrival.frame (n + 1) bindId r.val).envelope { s with env := u }
  refine suffices_reportRound running hread hs ?_
  simp only [hseq, hframe]
  rw [handled_bind]
  refine (Suffices.of_callsAlone (by trivial) (.pure _ _) _).bind ?_
  rw [reportBytes]
  rw [writeEnd] at hwrite
  split_ifs with hroom
  · rw [if_pos hroom] at hwrite
    exact suffices_orBreak_ok hwrite (.pure _)
  · rw [if_neg hroom] at hwrite
    exact suffices_orBreak_io _ hwrite

/-- The loop over the reports. -/
def reportRounds (ep : HidEndpoint) (fuel : ℕ) (seq : Int32) : Act phoneSig (Stop Thrown) Unit :=
  handled phone (unroll (reportRound ep (Int32.ofNat bindId.toNat)) fuel seq)

section Rounds

variable {seq seq' : Int32} {fuel : ℕ} {room room₁ room' : Option ℕ} {s s₁ s' : Io τ}
  {r : Except (Stop Thrown) Unit}

theorem suffices_reportRounds_inl
    (h : Suffices env (handled phone (reportRound ep (Int32.ofNat bindId.toNat) seq)) room s
      (.ok (.inl seq')) room₁ s₁)
    (hrest : Suffices env (reportRounds ep fuel seq') room₁ s₁ r room' s') :
    Suffices env (reportRounds ep (fuel + 1) seq) room s r room' s' := by
  rw [reportRounds, unroll, handled_bind]
  exact h.bind hrest

theorem suffices_reportRounds_inr
    (h : Suffices env (handled phone (reportRound ep (Int32.ofNat bindId.toNat) seq)) room s
      (.ok (.inr ())) room' s') :
    Suffices env (reportRounds ep (fuel + 1) seq) room s (.ok ()) room' s' := by
  rw [reportRounds, unroll, handled_bind]
  exact h.bind (.pure ())

end Rounds

/-- All that is written for some reports. -/
def reportsBytes (n : ℕ) (reports : List Jvm.Array) : List UInt8 :=
  (reportEnvelopes n (reports.map (·.val))).flatMap Envelope.bytes

theorem reportsBytes_cons (n : ℕ) (r : Jvm.Array) (reports : List Jvm.Array) :
    reportsBytes n (r :: reports) = reportBytes (n + 1) r ++ reportsBytes (n + 1) reports :=
  List.flatMap_cons

/-- The number of a report makes no difference to its size. -/
theorem length_reportBytes (n : ℕ) (r : Jvm.Array) :
    (reportBytes n r).length = (reportBytes 0 r).length := length_report n r.val

/-- **The reports are sent**, numbered one by one, as far as the connection takes them. -/
theorem suffices_reportRounds {room : ℕ} {t : τ} {reports : List Jvm.Array}
    (h : ReadsReports env ep room t reports) (hlen : ∀ r ∈ reports, 4 + r.val.length < 2 ^ 31) :
    ∃ enough u, ∀ fuel, enough ≤ fuel → ∀ (n : ℕ) (s : Io τ), s.env = t →
      Suffices env (reportRounds ep fuel (seqNumber n)) (some room) s (.ok ())
        (leaves (some room) (reportsBytes n reports))
        { s with output := s.output ++ taken (some room) (reportsBytes n reports), env := u } := by
  induction h with
  | @stopped room t running =>
      refine ⟨1, (env .running t).2, fun fuel hfuel n s hs => ?_⟩
      obtain ⟨fuel, rfl⟩ : ∃ k, fuel = k + 1 := ⟨fuel - 1, by omega⟩
      subst hs
      rw [reportsBytes, List.map_nil, reportEnvelopes, List.flatMap_nil, leaves_nil, taken_nil,
        List.append_nil]
      exact suffices_reportRounds_inr (suffices_reportRound_stopped running)
  | @nothing room t u reports running read _ ih =>
      obtain ⟨enough, v, hloop⟩ := ih hlen
      refine ⟨enough + 1, v, fun fuel hfuel n s hs => ?_⟩
      obtain ⟨fuel, rfl⟩ : ∃ k, fuel = k + 1 := ⟨fuel - 1, by omega⟩
      exact suffices_reportRounds_inl (suffices_reportRound running read hs (.pure _))
        (hloop fuel (by omega) n { s with env := u } rfl)
  | @report room t u r reports running read fits _ ih =>
      rw [List.forall_mem_cons] at hlen
      obtain ⟨enough, v, hloop⟩ := ih hlen.2
      refine ⟨enough + 1, v, fun fuel hfuel n s hs => ?_⟩
      obtain ⟨fuel, rfl⟩ : ∃ k, fuel = k + 1 := ⟨fuel - 1, by omega⟩
      have hleaves : leaves (some room) (reportBytes (n + 1) r) =
          some (room - (reportBytes 0 r).length) := by
        rw [← length_reportBytes (n + 1) r] at fits ⊢
        exact leaves_of_le fits
      have hround := suffices_reportRound_report running read hlen.1 n room hs
      rw [hleaves] at hround
      rw [reportsBytes_cons, leaves_append, taken_append, hleaves, ← List.append_assoc]
      exact suffices_reportRounds_inl hround (hloop fuel (by omega) (n + 1) _ rfl)
  | @lost room t u r running read closed =>
      refine ⟨1, u, fun fuel hfuel n s hs => ?_⟩
      obtain ⟨fuel, rfl⟩ : ∃ k, fuel = k + 1 := ⟨fuel - 1, by omega⟩
      have hleaves : leaves (some room) (reportBytes (n + 1) r) = none :=
        leaves_of_lt (length_reportBytes (n + 1) r ▸ closed)
      have hround :=
        suffices_reportRound_report running read (hlen r (List.mem_singleton_self r)) n room hs
      have hone : reportsBytes n [r] = reportBytes (n + 1) r := List.flatMap_singleton _ _
      rw [hone]
      rw [hleaves] at hround ⊢
      exact suffices_reportRounds_inr hround

end Reports

/-! ### The binding -/

section Binding

variable {env : Env phoneSig τ} {json : OrgJson} {d : UsbDevice} {ep : HidEndpoint}
  {kind : HidDescriptor.Kind}

/-- What the phone says of a device of that kind. -/
def infoValue (d : UsbDevice) (kind : HidDescriptor.Kind) : JsonValue :=
  bindAckInfo (busidFor d) (kindName kind) d.vendorId d.productId (d.productName.getD d.deviceName)

/-- The BIND_ACK of the phone. -/
def ackFrame (json : OrgJson) (d : UsbDevice) (ep : HidEndpoint)
    (kind : HidDescriptor.Kind) : HidFrame :=
  ⟨.bindAck, bindId, 0, toBe16 (UInt16.ofNat (json.print (infoValue d kind)).val.length) ++
    (json.print (infoValue d kind)).val ++ ep.reportDescriptor.val⟩

/-- The UNBIND of the phone. -/
def lastFrame : HidFrame := ⟨.unbind, bindId, 0, unbindBody⟩

/-- A frame is written as far as there is room for it. -/
theorem suffices_writeFrame (room : Option ℕ) {f : HidFrame} (hlen : 4 + f.body.length < 2 ^ 31)
    (s : Io τ) :
    Suffices env (handled phone (writeFrame f.op (Int32.ofNat f.bindId.toNat) (Int32.ofNat f.seq.toNat)
      f.body)) room s ((writeEnd room f.envelope.bytes).mapError fun err => .failed (wireThrown err))
      (leaves room f.envelope.bytes) { s with output := s.output ++ taken room f.envelope.bytes } := by
  rw [writeFrame, WireProtocol.encodeHidFrame_eq f (by omega), if_pos hlen, handled_bind]
  exact (Suffices.of_callsAlone (by trivial) (.pure _ _) room).bind
    (suffices_writeEnvelope env room f.envelope s)

variable (env) in
/-- What is thrown at the UNBIND is ignored. -/
theorem suffices_unbind (room : Option ℕ) (s : Io τ) :
    Suffices env (handled phone (ignoring (writeFrame .unbind (Int32.ofNat bindId.toNat) 0 unbindBody)))
      room s (.ok ()) (leaves room lastFrame.envelope.bytes)
      { s with output := s.output ++ taken room lastFrame.envelope.bytes } := by
  rw [handled_ignoring]
  refine (suffices_writeFrame room (f := lastFrame) (by decide) s).ignoring ?_
  rw [writeEnd]
  split_ifs
  · rintro ⟨⟩
  · rintro ⟨⟩

/-- There is an array for a BIND_ACK that fits. -/
theorem length_ackFrame_lt (hack : (ackFrame json d ep kind).envelope.Fits) :
    4 + (ackFrame json d ep kind).body.length < 2 ^ 31 := by
  have hfits : (ackFrame json d ep kind).encode.length ≤ maxPayload := hack
  rw [HidFrame.encode, List.length_append] at hfits
  exact Nat.lt_of_le_of_lt hfits (by decide)

theorem bindAckBody_ackFrame (hack : (ackFrame json d ep kind).envelope.Fits) :
    (bindAckBody json (busidFor d) (kindName kind) d.vendorId d.productId
      (d.productName.getD d.deviceName) ep.reportDescriptor.val :
      Except (Throwable WireProtocol.WireError) _) = .ok (ackFrame json d ep kind).body := by
  have hsize := length_ackFrame_lt hack
  refine bindAckBody_eq json _ _ _ _ _ ?_
  rw [ackFrame, List.length_append, List.length_append, length_toBe16] at hsize
  have htext : (json.print (infoValue d kind)).val.length =
    (json.print (bindAckInfo (busidFor d) (kindName kind) d.vendorId d.productId
      (d.productName.getD d.deviceName))).val.length := rfl
  omega

/-- What follows the BIND_ACK: the reports, and the UNBIND. -/
theorem behindAck_eq (reports : List Jvm.Array) :
    behindAck lastFrame (reports.map (·.val)) = reportsBytes 0 reports ++ lastFrame.envelope.bytes := by
  rw [behindAck, List.flatMap_append, List.flatMap_singleton, reportsBytes]

/-- **The BIND_ACK, the reports and the UNBIND**, or as much of them as the connection takes. -/
theorem suffices_stream (hkind : (ep.kind : Except (Throwable WireProtocol.WireError) _) = .ok kind)
    (hack : (ackFrame json d ep kind).envelope.Fits) {room : ℕ} {t : τ} {reports : List Jvm.Array}
    (hreads : ReadsReports env ep room t reports)
    (hlen : ∀ r ∈ reports, 4 + r.val.length < 2 ^ 31) :
    ∃ enough u, ∀ fuel, enough ≤ fuel → ∀ s : Io τ, s.env = t →
      Suffices env (handled phone (stream json fuel d (Int32.ofNat bindId.toNat) ep))
        (some ((ackFrame json d ep kind).envelope.bytes.length + room)) s (.ok ())
        (leaves (some room) (behindAck lastFrame (reports.map (·.val))))
        { s with
          output := s.output ++ ((ackFrame json d ep kind).envelope.bytes ++
            (behindAck lastFrame (reports.map (·.val))).take room)
          env := u } := by
  obtain ⟨enough, u, hrounds⟩ := suffices_reportRounds hreads hlen
  refine ⟨enough, u, fun fuel hfuel s hs => ?_⟩
  have hid : (if Int32.ofNat bindId.toNat = 0 then 1 else Int32.ofNat bindId.toNat) =
      Int32.ofNat bindId.toNat := rfl
  have hwrite : Enough env (handled phone (writeFrame .bindAck (Int32.ofNat bindId.toNat) 0
      (ackFrame json d ep kind).body)) s () (s.sent (ackFrame json d ep kind).envelope.bytes) :=
    fun rest => exec_writeFrame env (length_ackFrame_lt hack) (s.fed rest)
  have hacked := Suffices.of_enough hwrite rfl (Nat.le_add_right _ room)
  rw [Nat.add_sub_cancel_left] at hacked
  have hsent := hrounds fuel hfuel 0 (s.sent (ackFrame json d ep kind).envelope.bytes) hs
  have htaken : (behindAck lastFrame (reports.map (·.val))).take room =
      taken (some room) (reportsBytes 0 reports) ++
        taken (leaves (some room) (reportsBytes 0 reports)) lastFrame.envelope.bytes := by
    rw [← taken_append, behindAck_eq, taken]
  have hlast := suffices_unbind env (leaves (some room) (reportsBytes 0 reports))
    { s.sent (ackFrame json d ep kind).envelope.bytes with
      output := (s.sent (ackFrame json d ep kind).envelope.bytes).output ++
        taken (some room) (reportsBytes 0 reports)
      env := u }
  rw [htaken, behindAck_eq, leaves_append, ← List.append_assoc, ← List.append_assoc]
  rw [stream, hkind, handled_bind]
  refine (Suffices.of_callsAlone (by trivial) (.pure _ s) _).bind ?_
  simp only [hid, bindAckBody_ackFrame hack]
  rw [handled_bind]
  refine (Suffices.of_callsAlone (by trivial) (.pure _ s) _).bind ?_
  rw [handled_bind]
  refine hacked.bind ?_
  rw [handled_bind]
  exact hsent.bind hlast

/-- **The Bind, and all that follows it.** -/
theorem exists_suffices_runHidBinding
    (hkind : (ep.kind : Except (Throwable WireProtocol.WireError) _) = .ok kind)
    (hack : (ackFrame json d ep kind).envelope.Fits) {json' : Json BindRequest} {busid : String}
    (hbind : (Zerowire.bindFrame json' busid).envelope.Fits) {t u : τ}
    (hopen : answer env (HidEndpoint.openOn d) t = (.ok (some ep), u)) {room : ℕ}
    {reports : List Jvm.Array} (hreads : ReadsReports env ep room u reports)
    (hlen : ∀ r ∈ reports, 4 + r.val.length < 2 ^ 31) :
    ∃ enough, ∀ fuel, enough ≤ fuel → ∀ s : Io τ, s.input = [] → s.env = t → ∃ room' s',
      Suffices env (handled phone (runHidBinding json fuel d))
        (some ((ackFrame json d ep kind).envelope.bytes.length + room))
        (s.fed (Zerowire.bindFrame json' busid).envelope.bytes) (.ok ()) room' s' ∧
      s'.output = s.output ++ ((ackFrame json d ep kind).envelope.bytes ++
        (behindAck lastFrame (reports.map (·.val))).take room) := by
  obtain ⟨enough, v, hstream⟩ := suffices_stream hkind hack hreads hlen
  refine ⟨enough, fun fuel hfuel s hs hst => ?_⟩
  let f := Zerowire.bindFrame json' busid
  have hlt : f.encode.length < 2 ^ 31 := Nat.lt_of_le_of_lt hbind (by decide)
  have hparse : WireProtocol.parseHidFrame f.envelope.payload =
      .ok (WireProtocol.HidFrameView.ofFrame f) := by
    refine (WireProtocol.parseHidFrame_eq hlt).trans ?_
    rw [HidFrame.parse_encode]
    rfl
  have hopened : Enough env (handled phone (perform (request (.openEndpoint d)))) s (some ep)
      { s with env := u } := by
    rw [handled_perform (q := HidEndpoint.openOn d) (handle_request _)]
    exact ((callsOnly_openOn d).enough (hst ▸ hopen)).mapErr _
  let s₁ : Io τ := { s with
    output := s.output ++ ((ackFrame json d ep kind).envelope.bytes ++
      (behindAck lastFrame (reports.map (·.val))).take room)
    env := v }
  let s₂ : Io τ := { s₁ with
    env := behind env [.releaseInterface ep.connection ep.iface, .closeConnection ep.connection] v }
  have hcalls : (handled phone
      (ExceptT.lift (request (.closeEndpoint ep)) : SessionAct Unit)).run.CallsAlone :=
    fun _ _ => trivial
  have hclosed : Enough env (handled phone
      (ExceptT.lift (request (.closeEndpoint ep)) : SessionAct Unit)) s₁ () s₂ := fun _ => rfl
  refine ⟨leaves (some room) (behindAck lastFrame (reports.map (·.val))), s₂, ?_, rfl⟩
  rw [runHidBinding, handled_bind]
  refine (Suffices.of_silent (enough_readEnvelope hbind hs) rfl).bind ?_
  have hchan : ¬ f.envelope.channel ≠ .hid := fun hne => hne rfl
  have hop : ¬ (WireProtocol.HidFrameView.ofFrame f).op ≠ .bind := fun hne => hne rfl
  rw [if_neg hchan, hparse, handled_bind]
  refine (Suffices.of_callsAlone (by trivial) (.pure _ s) _).bind ?_
  rw [if_neg hop, handled_bind]
  refine (Suffices.of_silent hopened rfl).bind ?_
  rw [handled_tryFinally]
  exact (hstream fuel hfuel { s with env := u } rfl).tryFinally (.of_callsAlone hcalls hclosed _)

end Binding

/-! ### The handshake -/

/-- **The messages of a session, from one library to the other.**  The phone is shown what the
receiver writes; and the receiver reads what the phone prints as the value that it has printed. -/
structure Understood (serde : Serde) (json : OrgJson) (hello attach : ControlMessage)
    (answers : List JsonValue) : Prop where
  hello : IsText serde json (serde.control.toVec hello) hello
  listDevices : IsText serde json (serde.control.toVec .listDevices) .listDevices
  attach : IsText serde json (serde.control.toVec attach) attach
  answers : ∀ v ∈ answers, serde.control.fromSlice (json.print v).val =
    ControlMessage.ofObject v.tree ∧
    (json.print v).val.length ≤ maxPayload

section Handshake

variable {env : Env phoneSig τ} {serde : Serde} {json : OrgJson} {hello : ControlMessage}
  {senderId deviceName busid mode : String} {ds : List UsbDevice} {reply : JsonValue}

/-- The envelope with what the phone says. -/
def envelopeOf (json : OrgJson) (v : JsonValue) : Envelope := ⟨.control, (json.print v).val⟩

theorem passes_of_isText {m : ControlMessage} (h : IsText serde json (serde.control.toVec m) m) :
    m.Passes serde.control := ⟨h.fits, h.read⟩

/-- What the phone says is received as what it means. -/
theorem says_of_ofObject {v : JsonValue} (h : serde.control.fromSlice (json.print v).val =
      ControlMessage.ofObject v.tree ∧ (json.print v).val.length ≤ maxPayload) {m : ControlMessage}
    (hm : ControlMessage.ofObject v.tree = some m) : (envelopeOf json v).Says serde.control m where
  fits := h.2
  reads := by
    rw [controlOf, envelopeOf, h.1, hm]

/-- **The handshake that they come to.** -/
theorem handshake_of_understood
    (h : Understood serde json hello (.attach busid mode)
      [helloAck senderId deviceName, deviceListMessage ds, reply])
    (hrange : ∀ d ∈ ds, d.InRange) {attached : ControlMessage}
    (hreply : ControlMessage.ofObject reply.tree = some attached) :
    Handshake serde.control hello (.attach busid mode)
    (envelopeOf json (helloAck senderId deviceName))
      (envelopeOf json (deviceListMessage ds)) (envelopeOf json reply) (ds.map UsbDevice.summary)
      attached := by
  have hanswers := h.answers
  simp only [List.forall_mem_cons] at hanswers
  obtain ⟨hack, hlist, hattached, -⟩ := hanswers
  exact
    { hello := passes_of_isText h.hello
      listDevices := passes_of_isText h.listDevices
      attach := passes_of_isText h.attach
      helloAck := ⟨_, _, _, says_of_ofObject hack (ofObject_tree (.helloAck senderId deviceName
        ["hid-fastlane/1"]))⟩
      deviceList := says_of_ofObject hlist ((ofObject_deviceListMessage ds).trans (if_pos hrange))
      attached := says_of_ofObject hattached hreply }

/-- The turns of the handshake. -/
def turns (serde : Serde) (json : OrgJson) (hello attach : ControlMessage)
    (senderId deviceName : String)
    (ds : List UsbDevice) (reply : JsonValue) : List (Envelope × Envelope) :=
  greeting serde.control hello attach (envelopeOf json (helloAck senderId deviceName))
    (envelopeOf json (deviceListMessage ds)) (envelopeOf json reply)

/-- The phone answers the handshake, up to the reply to the ATTACH. -/
theorem responds_converse (hhello : hello.op = "HELLO")
    (h : Understood serde json hello (.attach busid mode)
      [helloAck senderId deviceName, deviceListMessage ds, reply])
    {s : Io τ} (hs : s.input = []) (getInputStream : (env .getInputStream s.env).1 = .ok ())
    (getOutputStream : (env .getOutputStream (behind env [.getInputStream] s.env)).1 = .ok ())
    (deviceList : (env .deviceList (behind env [.getInputStream, .getOutputStream] s.env)).1 = .ok ds)
    {fuel : ℕ} {rest : Act phoneSig (Stop Thrown) Unit}
    (hattach : ∀ obj, obj "busid" = busid → obj "mode" = mode →
      handled phone (attachTo json fuel ds obj) = handled phone (sendJson json reply) >>= fun _ =>
      rest) :
    ∃ s', s'.input = [] ∧
      s'.env = behind env [.getInputStream, .getOutputStream, .deviceList] s.env ∧
      Responds env ⟨(handled phone (converse json senderId deviceName fuel)).run, s⟩
        (spoken (turns serde json hello (.attach busid mode) senderId deviceName ds reply))
        ⟨rest.run, s'⟩ := by
  let bytes (v : JsonValue) : List UInt8 := (envelopeOf json v).bytes
  let s₁ : Io τ := { s with env := behind env [.getInputStream] s.env }
  let s₂ : Io τ := { s with env := behind env [.getInputStream, .getOutputStream] s.env }
  let s₃ : Io τ := s₂.sent (bytes (helloAck senderId deviceName))
  let s₄ : Io τ :=
    { s₃ with env := behind env [.getInputStream, .getOutputStream, .deviceList] s.env }
  let s₅ : Io τ := s₄.sent (bytes (deviceListMessage ds))
  obtain ⟨_, -, hgreeted⟩ := enough_expectControl env (s := s₂) h.hello hhello hs
  obtain ⟨_, -, hasked⟩ := enough_expectControl env (s := s₃) h.listDevices rfl hs
  obtain ⟨obj, ⟨-, hbusid, hmode⟩, hchosen⟩ := enough_expectControl env (s := s₅) h.attach rfl hs
  have hin : Enough env (handled phone (perform (request .getInputStream))) s () s₁ :=
    fun rest => exec_ask rfl getInputStream
  have hout : Enough env (handled phone (perform (request .getOutputStream))) s₁ () s₂ :=
    fun rest => exec_ask rfl getOutputStream
  have hdevices : Enough env (handled phone (perform (request .deviceList))) s₃ ds s₄ :=
    fun rest => exec_ask rfl deviceList
  have hsilent {s : Io τ} : s.output = s.output ++ [] := (List.append_nil _).symm
  refine ⟨s₅.sent (bytes reply), hs, rfl, ?_⟩
  rw [converse]
  simp only [handled_bind]
  refine .behind (List.cons_ne_nil _ _) (hin.moves _ hsilent false) ?_
  refine .behind (List.cons_ne_nil _ _) (hout.moves _ hsilent false) ?_
  refine .step hgreeted (enough_sendJson _ _) ?_
  -- the devices are looked up before the list is sent
  refine .answer ((hasked.moves _ hsilent false).silent_trans ((hdevices.moves _ hsilent false).silent_trans
    ((enough_sendJson _ _).moves _ rfl false))) ?_
  refine .answer ((hchosen.moves _ hsilent false).silent_trans ?_) (.done _)
  rw [hattach obj hbusid hmode]
  exact (enough_sendJson _ _).moves _ rfl false

/-- What follows the blocks of a session: the socket is closed. -/
def closing : Act phoneSig (Stop Thrown) Unit :=
  handled phone (ignoring (perform (request .closeSocket)))

/-- What throws is ignored. -/
theorem enough_closing (s : Io τ) :
    Enough env closing s () { s with env := (env .closeSocket s.env).2 } := by
  intro rest
  have hclose : exec env (handled phone (perform (request .closeSocket))) (s.fed rest) =
      ((env .closeSocket s.env).1.mapError .failed, { s.fed rest with env := (env .closeSocket s.env).2 }) :=
    rfl
  rw [closing, handled_ignoring, ignoring, exec_bind_ok (exec_attempt env _ _), hclose]
  cases (env .closeSocket s.env).1 <;> rfl

/-- The rest of a session, within its blocks. -/
def within (rest : Act phoneSig (Stop Thrown) Unit) : Prog phoneSig (Except (Stop Thrown) Unit) :=
  (rest.run >>= fun r => (swallowing r).run) >>= fun r => (finishing closing r).run

/-- **The phone answers the handshake.** -/
theorem responds_run (hhello : hello.op = "HELLO")
    (h : Understood serde json hello (.attach busid mode)
      [helloAck senderId deviceName, deviceListMessage ds, reply])
    {t : τ} (hoffers : Offers env t ds) {fuel : ℕ} {rest : Act phoneSig (Stop Thrown) Unit}
    (hattach : ∀ obj, obj "busid" = busid → obj "mode" = mode →
      handled phone (attachTo json fuel ds obj) = handled phone (sendJson json reply) >>= fun _ =>
      rest) :
    ∃ s', s'.input = [] ∧ s'.env = behind env listing t ∧
      Responds env ⟨(handled phone (run json senderId deviceName fuel)).run, { input := [], env := t }⟩
        (spoken (turns serde json hello (.attach busid mode) senderId deviceName ds reply))
        ⟨within rest, s'⟩ := by
  let s₀ : Io τ := { input := [], env := behind env [.setTcpNoDelay true] t }
  let s₁ : Io τ := { input := [], env := behind env [.setTcpNoDelay true, .setSoTimeout 30000] t }
  obtain ⟨s', hs', henv, hanswers⟩ :=
    responds_converse (s := s₁) hhello h rfl hoffers.getInputStream
    hoffers.getOutputStream hoffers.deviceList hattach
  refine ⟨s', hs', henv, ?_⟩
  have hnodelay : Enough env (handled phone (perform (request (.setTcpNoDelay true))))
      { input := [], env := t } () s₀ := fun rest => exec_ask rfl hoffers.setTcpNoDelay
  have htimeout : Enough env (handled phone (perform (request (.setSoTimeout 30000)))) s₀ () s₁ :=
    fun rest => exec_ask rfl hoffers.setSoTimeout
  have hsilent {s : Io τ} : s.output = s.output ++ [] := (List.append_nil _).symm
  rw [run, handled_bind, handled_bind]
  refine .behind (List.cons_ne_nil _ _) (hnodelay.moves _ hsilent false) ?_
  refine .behind (List.cons_ne_nil _ _) (htimeout.moves _ hsilent false) ?_
  -- the session is a block within a block, and what follows them makes no difference
  rw [handled_tryFinally, handled_ignoring, run_tryFinally, run_ignoring]
  exact (hanswers.bind fun r => (swallowing r).run).bind fun r => (finishing closing r).run

/-- **What is left of a session** when all of its rest has arrived. -/
theorem moves_within {rest : Act phoneSig (Stop Thrown) Unit} {s s' : Io τ} {sent : List UInt8}
    (h : Enough env rest s () s') (hsent : s'.output = s.output ++ sent) :
    Moves env false ⟨within rest, s⟩ ⟨.ret (.ok ()), { s' with env := (env .closeSocket s'.env).2 }⟩ sent := by
  have hrest : Moves env false ⟨rest.run, s⟩ ⟨.ret (.ok ()), s'⟩ sent := h.moves_ret hsent
  have hlast : Enough env (finishing closing (.ok ())) s' () { s' with env := (env .closeSocket s'.env).2 } :=
    (enough_closing s').bind (.pure () _)
  have hmoves := ((hrest.bind fun r => (swallowing r).run).bind fun r => (finishing closing r).run).trans
    (hlast.moves_ret (List.append_nil _).symm)
  rwa [List.append_nil] at hmoves

/-- **What is left of a session** on a connection that is closed under it. -/
theorem moves_within_upTo {rest : Act phoneSig (Stop Thrown) Unit} {n : ℕ} {room' : Option ℕ}
    {s s' : Io τ} {sent : List UInt8} (h : Suffices env rest (some n) s (.ok ()) room' s')
    (hsent : s'.output = s.output ++ sent) :
    Moves env false ⟨(within rest).upTo n, s⟩
      ⟨.ret (.ok ()), { s' with env := (env .closeSocket s'.env).2 }⟩ sent := by
  have hclosing : (finishing closing (.ok ()) : Act phoneSig (Stop Thrown) Unit).run.CallsAlone := by
    rintro (e | ⟨⟩)
    · trivial
    · trivial
  have hlast : Suffices env (finishing closing (.ok ())) room' s' (.ok ()) room'
      { s' with env := (env .closeSocket s'.env).2 } :=
    .of_callsAlone hclosing ((enough_closing s').bind (.pure () _)) room'
  have hmoves := ((((h.moves hsent false).bind fun r => (swallowing r.1).run.taking r.2).bind
    fun r => (finishing closing r.1).run.taking r.2).trans
      (hlast.moves (List.append_nil _).symm false)).bind fun r => Prog.ret r.1
  rw [List.append_nil] at hmoves
  rw [Prog.upTo, within, Prog.taking_bind, Prog.taking_bind]
  exact hmoves

end Handshake

/-! ### The part -/

/-- **The Bind and the BIND_ACK of a device, from one library to the other.** -/
structure Acknowledged (serde : Serde) (json : OrgJson) (d : UsbDevice) (ep : HidEndpoint)
    (kind : HidDescriptor.Kind) : Prop where
  bind : (Zerowire.bindFrame serde.bindRequest (busidFor d)).envelope.Fits
  found : (ep.kind : Except (Throwable WireProtocol.WireError) _) = .ok kind
  fits : (ackFrame json d ep kind).envelope.Fits
  length : (json.print (infoValue d kind)).val.length < 2 ^ 16
  read : serde.bindAckMeta.fromSlice (json.print (infoValue d kind)).val =
    BindAckMeta.ofObject (infoValue d kind).tree

section Part

variable {env : Env phoneSig τ} {serde : Serde} {json : OrgJson} {hello : ControlMessage}
  {senderId deviceName busid : String} {ds : List UsbDevice} {d : UsbDevice}

/-- What the desktop is told of a device of that kind. -/
def infoOf (d : UsbDevice) (kind : HidDescriptor.Kind) : BindAckMeta :=
  ⟨busidFor d, deviceKind kind, d.summary.vendorId, d.summary.productId, d.productName.getD d.deviceName⟩

/-- The BIND_ACK of the phone is read by the desktop. -/
theorem parseBindAckBody_ackFrame {ep : HidEndpoint} {kind : HidDescriptor.Kind} (hrange : d.InRange)
    (hack : Acknowledged serde json d ep kind) :
    parseBindAckBody serde.bindAckMeta (ackFrame json d ep kind).body =
      .ok (infoOf d kind, ep.reportDescriptor.val) := by
  have hinfo := ofObject_bindAckInfo (busidFor d) kind d.vendorId d.productId
    (d.productName.getD d.deviceName) hrange.vendorId hrange.productId
  -- the desktop would have written another text, but it reads this one
  let printed : Json BindAckMeta :=
    ⟨fun _ => (json.print (infoValue d kind)).val, serde.bindAckMeta.fromSlice⟩
  have hround : parseBindAckBody printed (encodeBindAckBody printed (infoOf d kind)
      ep.reportDescriptor.val) = .ok (infoOf d kind, ep.reportDescriptor.val) :=
    parseBindAckBody_encode hack.length (hack.read.trans hinfo) _
  exact hround

/-- An ATTACH that is granted. -/
theorem handled_attachTo_hid (json : OrgJson) (hd : deviceWith ds busid = some d) (fuel : ℕ)
    (obj : String → String) (hbusid : obj "busid" = busid) (hmode : obj "mode" = "hid") :
    handled phone (attachTo json fuel ds obj) =
      handled phone (sendJson json (attachOk busid)) >>= fun _ =>
        handled phone (runHidBinding json fuel d) := by
  have hfind : ds.find? (fun d => decide (busidFor d = busid)) = some d := hd
  rw [attachTo, hbusid, hmode]
  simp only [hfind]
  rw [if_neg (not_not.2 rfl), handled_bind]

/-- **The bytes that the phone has sent** when it has sent its BIND_ACK. -/
def ackedAt (json : OrgJson) (senderId deviceName : String) (ds : List UsbDevice) (busid : String)
    (d : UsbDevice) (ep : HidEndpoint) (kind : HidDescriptor.Kind) : ℕ :=
  ([envelopeOf json (helloAck senderId deviceName), envelopeOf json (deviceListMessage ds),
    envelopeOf json (attachOk busid), (ackFrame json d ep kind).envelope].flatMap Envelope.bytes).length

/-- **The phone plays the sender's part**, with the device that the receiver has chosen and the
reports that it reads, on a connection that is closed under it. -/
theorem plays (hhello : hello.op = "HELLO") {chosen : DeviceSummary}
    (hunderstood : Understood serde json hello (.attach chosen.busid "hid")
      [helloAck senderId deviceName, deviceListMessage ds, attachOk chosen.busid])
    (hrange : ∀ d ∈ ds, d.InRange) (hd : deviceWith ds chosen.busid = some d) {ep : HidEndpoint}
    {kind : HidDescriptor.Kind} (hack : Acknowledged serde json d ep kind) {t : τ} {room : ℕ}
    {reports : List Jvm.Array} (hserves : StreamsDevice env t ds d ep room reports)
    (hreports : ∀ r ∈ reports, 4 + r.val.length ≤ maxPayload) :
    ∃ enough, ∀ fuel, enough ≤ fuel →
      PlaysSender env serde hello (ds.map UsbDevice.summary) chosen (infoOf d kind) lastFrame
        (reports.map (·.val)) room
        ⟨(handled phone (run json senderId deviceName fuel)).run.upTo
          (ackedAt json senderId deviceName ds chosen.busid d ep kind + room),
          { input := [], env := t }⟩ (.ok ()) := by
  obtain ⟨u, hopen, hreads⟩ := hserves.opened
  have hfit : ∀ r ∈ reports, 4 + r.val.length < 2 ^ 31 := fun r hr =>
    Nat.lt_of_le_of_lt (hreports r hr) (by decide)
  have hbusid : busidFor d = chosen.busid := by simpa using List.find?_some hd
  have hbind : (Zerowire.bindFrame serde.bindRequest chosen.busid).envelope.Fits :=
    hbusid ▸ hack.bind
  obtain ⟨enough, hbinding⟩ :=
    exists_suffices_runHidBinding hack.found hack.fits hbind hopen hreads hfit
  refine ⟨enough, fun fuel hfuel => ?_⟩
  obtain ⟨s, hs, henv, hresponds⟩ := responds_run hhello hunderstood hserves.toOffers
    (handled_attachTo_hid json hd fuel)
  obtain ⟨room', s', hbound, hsent⟩ := hbinding fuel hfuel s hs henv
  have hhandshake :=
    handshake_of_understood hunderstood hrange (ofObject_tree (.attachOk chosen.busid 1))
  have hfits : ∀ e ∈ streamEnvelopes (ackFrame json d ep kind) lastFrame (reports.map (·.val)), e.Fits := by
    rw [streamEnvelopes, List.forall_mem_cons, List.forall_mem_append, List.forall_mem_singleton]
    exact ⟨hack.fits, fits_reportEnvelopes (List.forall_mem_map.2 hreports) 0, by decide⟩
  -- the handshake leaves room for the BIND_ACK, and for what follows it
  have hroom : ackedAt json senderId deviceName ds chosen.busid d ep kind + room =
      ((spoken (turns serde json hello (.attach chosen.busid "hid") senderId deviceName ds
        (attachOk chosen.busid))).flatMap Prod.snd).length +
          ((ackFrame json d ep kind).envelope.bytes.length + room) := by
    rw [← Nat.add_assoc, ← List.length_append, ackedAt]
    simp only [turns, greeting, spoken, List.flatMap_cons, List.flatMap_nil, List.map_cons,
      List.map_nil, List.append_assoc, List.append_nil]
  rw [hroom]
  exact .intro hhandshake (hresponds.upTo _) hbind rfl
    (parseBindAckBody_ackFrame (hrange d (List.mem_of_find?_eq_some hd)) hack) rfl hfits
    (moves_within_upTo hbound hsent)

end Part

/-! ### With the receivers -/

section Receivers

variable {env : Env phoneSig τ} {serde : Serde} {json : OrgJson} {senderId deviceName : String}
  {ds : List UsbDevice} {d : UsbDevice} {chosen : DeviceSummary} {ep : HidEndpoint}
  {kind : HidDescriptor.Kind} {t : τ} {room : ℕ} {reports : List Jvm.Array}

/-- **The phone and the receiver**, whenever the session is stopped behind its BIND_ACK.  In whatever
order the two move, both return; what has been handed to `apply_report` are the reports that were
sent as a whole, each once and in its place, all that the phone has read from its device or all but
the last one.  They have been sent with the numbers 1, 2, 3, …, and no jump has been noted. -/
theorem phone_delivers {clientName : String} {wanted : Option String}
    (hchosen : pickHidDevice (ds.map UsbDevice.summary) wanted = .ok chosen)
    (hd : deviceWith ds chosen.busid = some d) (hrange : ∀ d ∈ ds, d.InRange)
    (hunderstood : Understood serde json (.hello 1 clientName ["hid-fastlane/1"])
      (.attach chosen.busid "hid")
      [helloAck senderId deviceName, deviceListMessage ds, attachOk chosen.busid])
    (hack : Acknowledged serde json d ep kind) {profile : DeviceProfile}
    (hprofile : profileOf (infoOf d kind) = some profile)
    (hserves : StreamsDevice env t ds d ep room reports)
    (hreports : ∀ r ∈ reports, 4 + r.val.length ≤ maxPayload) {σ : Type} {desktop : Desktop σ}
    (hworks : desktop.Works) (statics : ReportState) (u : σ) :
    (wholeReports room (reports.map (·.val)) = reports.map (·.val) ∨
      wholeReports room (reports.map (·.val)) = (reports.map (·.val)).dropLast) ∧
    ∃ enough, ∀ fuel, enough ≤ fuel → ∃ enough', ∀ rounds, enough' ≤ rounds → ∃ s' t',
      Ends (Net.Step desktop.logged env)
        ⟨⟨((runReceive serde clientName wanted).unrolled rounds).run,
            { input := [], env := ([], statics, [], u) }⟩,
          ⟨(handled phone (run json senderId deviceName fuel)).run.upTo
              (ackedAt json senderId deviceName ds chosen.busid d ep kind + room),
            { input := [], env := t }⟩⟩
        ⟨⟨.ret (.ok (endOf lastFrame (reports.map (·.val)) room)), s'⟩, ⟨.ret (.ok ()), t'⟩⟩ ∧
      appliedBodies s'.env.1 = wholeReports room (reports.map (·.val)) ∧
        reportsSent t'.output = numbered (wholeReports room (reports.map (·.val))) ∧
        jumpsOf s'.env.1 = [] := by
  obtain ⟨u', -, hreads⟩ := hserves.opened
  obtain ⟨enough, hplays⟩ := plays rfl hunderstood hrange hd hack hserves hreports
  refine ⟨hreads.wholeReports_eq, enough, fun fuel hfuel => ?_⟩
  obtain ⟨enough', hreceived⟩ := (hplays fuel hfuel).received rfl hchosen hprofile hworks statics u
  refine ⟨enough', fun rounds hrounds => ?_⟩
  obtain ⟨s', t', hends, hmade, hsent⟩ := hreceived rounds hrounds
  obtain ⟨happlied, hjumps⟩ := of_made_binding hmade
  exact ⟨s', t', hends, happlied, hsent, hjumps⟩

/-! #### A mouse -/

/-- What a transfer of some data leaves in a buffer. -/
def filled (data buffer : List UInt8) : { b : List UInt8 // b.length = buffer.length } :=
  ⟨(data ++ buffer.drop data.length).take buffer.length, by
    rw [List.length_take, List.length_append, List.length_drop]
    omega⟩

/-- A phone with the mouse on its cable, for a session that is stopped behind the last of the given
reports, or earlier if its socket is closed. -/
def clickingPhone : Env phoneSig (List (List UInt8))
  | .running, reports => (decide (reports ≠ []), reports)
  | .deviceList, reports => (.ok [mouse], reports)
  | .openDevice _, reports => (.ok (some ⟨7⟩), reports)
  | .claimInterface _ _ _, reports => (.ok true, reports)
  | .controlTransfer _ _ _ _ _ buffer _ _, reports =>
      (.ok (size LinuxSender.mouseDescriptor, filled LinuxSender.mouseDescriptor buffer), reports)
  | .bulkTransfer _ _ buffer _ _, [] => (.ok (-1, untouched buffer), [])
  | .bulkTransfer _ _ buffer _ _, report :: reports =>
      (.ok (size report, filled report buffer), reports)
  | .releaseInterface _ _, reports => (.ok true, reports)
  | .closeConnection _, reports => (.ok (), reports)
  | .setTcpNoDelay _, reports => (.ok (), reports)
  | .setSoTimeout _, reports => (.ok (), reports)
  | .getInputStream, reports => (.ok (), reports)
  | .getOutputStream, reports => (.ok (), reports)
  | .closeSocket, reports => (.ok (), reports)

/-- The mouse, opened. -/
def mouseEndpoint : HidEndpoint where
  device := mouse
  connection := ⟨7⟩
  iface := ⟨0, 3, [⟨⟨0x81, 3, 0⟩, 0x80, 4⟩]⟩
  endpointIn := ⟨⟨0x81, 3, 0⟩, 0x80, 4⟩
  reportDescriptor := ⟨LinuxSender.mouseDescriptor, by decide⟩

/-- A button is pressed, and released. -/
def clickReports : List Jvm.Array := [⟨[1, 0, 0, 0], by decide⟩, ⟨[0, 0, 0, 0], by decide⟩]

/-- The texts of a session with that phone, and what they mean. -/
def clickTexts (client : String) : List (List UInt8 × ControlMessage) :=
  [.hello 1 client ["hid-fastlane/1"], .listDevices, .attach "1-2" "hid"].map (fun m => (textOf m, m)) ++
    [((plainJson.print (helloAck "phone" "Phone")).val, .helloAck "phone" "Phone" ["hid-fastlane/1"]),
      ((plainJson.print (deviceListMessage [mouse])).val, .deviceList [mouse.summary]),
      ((plainJson.print (attachOk "1-2")).val, .attachOk "1-2" 1)]

/-- A `serde_json` that knows these texts. -/
def clickSerde (client : String) : Serde where
  control :=
    { toVec := textOf
      fromSlice := fun bs => ((clickTexts client).find? fun text => text.1 = bs).map Prod.snd }
  bindRequest := mouseSerde.bindRequest
  bindAckMeta := mouseSerde.bindAckMeta

/-- The socket is closed under the header of the second report. -/
theorem streamsDevice_click :
    StreamsDevice clickingPhone [[1, 0, 0, 0], [0, 0, 0, 0]] [mouse] mouse mouseEndpoint 20
      clickReports where
  setTcpNoDelay := rfl
  setSoTimeout := rfl
  getInputStream := rfl
  getOutputStream := rfl
  deviceList := rfl
  opened := by
    refine ⟨[[1, 0, 0, 0], [0, 0, 0, 0]], by decide +kernel, ?_⟩
    have hpress : answer clickingPhone (mouseEndpoint.readReport 1000) [[1, 0, 0, 0], [0, 0, 0, 0]] =
        (.ok (some ⟨[1, 0, 0, 0], by decide⟩), [[0, 0, 0, 0]]) := by decide +kernel
    have hrelease : answer clickingPhone (mouseEndpoint.readReport 1000) [[0, 0, 0, 0]] =
        (.ok (some ⟨[0, 0, 0, 0], by decide⟩), []) := by decide +kernel
    exact .report rfl hpress (by decide) (.lost rfl hrelease (by decide))

theorem acknowledged_click (client : String) :
    Acknowledged (clickSerde client) plainJson mouse mouseEndpoint .mouse where
  bind := by
    change (Zerowire.bindFrame mouseSerde.bindRequest (busidFor mouse)).envelope.Fits
    decide +kernel
  found := by decide +kernel
  fits := by decide +kernel
  length := by decide +kernel
  read := by
    rw [infoValue, ofObject_bindAckInfo _ _ _ _ _ (by decide) (by decide)]
    change mouseSerde.bindAckMeta.fromSlice _ = _
    decide +kernel

theorem understood_click {client : String} (h : client = "linux-cli" ∨ client = "zerowire-test/0") :
    Understood (clickSerde client) plainJson (.hello 1 client ["hid-fastlane/1"])
    (.attach "1-2" "hid")
      [helloAck "phone" "Phone", deviceListMessage [mouse], attachOk "1-2"] := by
  have hack := ofObject_tree (.helloAck "phone" "Phone" ["hid-fastlane/1"])
  have hlist := (ofObject_deviceListMessage [mouse]).trans (if_pos (by decide))
  have hok := ofObject_tree (.attachOk "1-2" 1)
  rcases h with rfl | rfl <;> exact
    { hello := ⟨by decide +kernel, by decide +kernel, _, parse_plainJson (fieldOf_object _ _).1,
        (fieldOf_object (.hello 1 _ ["hid-fastlane/1"]) _).2⟩
      listDevices := ⟨by decide +kernel, by decide +kernel, _, parse_plainJson (fieldOf_object _ _).1,
        (fieldOf_object .listDevices _).2⟩
      attach := ⟨by decide +kernel, by decide +kernel, _, parse_plainJson (fieldOf_object _ _).1,
        (fieldOf_object (.attach "1-2" "hid") _).2, by decide +kernel, by decide +kernel⟩
      answers := List.forall_mem_cons.2 ⟨⟨Eq.trans (by decide +kernel) hack.symm, by decide +kernel⟩,
        List.forall_mem_cons.2 ⟨⟨Eq.trans (by decide +kernel) hlist.symm, by decide +kernel⟩,
          List.forall_mem_singleton.2 ⟨Eq.trans (by decide +kernel) hok.symm, by decide +kernel⟩⟩⟩ }

/-- The mouse and a receiver: the button is pressed, and that it is released again is lost. -/
theorem phone_delivers_click :
    (wholeReports 20 [[1, 0, 0, 0], [0, 0, 0, 0]] = [[1, 0, 0, 0], [0, 0, 0, 0]] ∨
      wholeReports 20 [[1, 0, 0, 0], [0, 0, 0, 0]] = [[1, 0, 0, 0]]) ∧
    ∃ enough, ∀ fuel, enough ≤ fuel → ∃ enough', ∀ rounds, enough' ≤ rounds → ∃ s' t',
      Ends (Net.Step idleDesktop.logged clickingPhone)
        ⟨⟨((runReceive (clickSerde "linux-cli") "linux-cli" none).unrolled rounds).run,
            { input := [], env := ([], {}, [], ()) }⟩,
          ⟨(handled phone (run plainJson "phone" "Phone" fuel)).run.upTo
              (ackedAt plainJson "phone" "Phone" [mouse] "1-2" mouse mouseEndpoint .mouse + 20),
            { input := [], env := [[1, 0, 0, 0], [0, 0, 0, 0]] }⟩⟩
        ⟨⟨.ret (.ok .recvError), s'⟩, ⟨.ret (.ok ()), t'⟩⟩ ∧
      appliedBodies s'.env.1 = [[1, 0, 0, 0]] ∧
        reportsSent t'.output = [⟨.reportIn, 1, 1, [1, 0, 0, 0]⟩] ∧ jumpsOf s'.env.1 = [] :=
  phone_delivers (rfl : pickHidDevice ([mouse].map UsbDevice.summary) none = .ok mouse.summary) rfl
    (by decide) (understood_click (.inl rfl)) (acknowledged_click _) rfl streamsDevice_click
    (by decide) ⟨fun _ _ => rfl, fun _ => rfl⟩ {} ()

/-- **The phone and the capture programs**, over TCP and over TLS, whenever the session is stopped
behind its BIND_ACK.  In whatever order the two move, both return, and the file has the BIND_ACK, the
reports that were sent as a whole, numbered one by one, the UNBIND if it was sent, and how many
reports there were: all that the phone has read from its device, or all but the last one. -/
theorem phone_captured (hchosen : pickHidDevice (ds.map UsbDevice.summary) none = .ok chosen)
    (hd : deviceWith ds chosen.busid = some d) (hrange : ∀ d ∈ ds, d.InRange)
    (hunderstood : Understood serde json (.hello 1 "zerowire-test/0" ["hid-fastlane/1"])
      (.attach chosen.busid "hid")
      [helloAck senderId deviceName, deviceListMessage ds, attachOk chosen.busid])
    (hack : Acknowledged serde json d ep kind)
    (hserves : StreamsDevice env t ds d ep room reports)
    (hreports : ∀ r ∈ reports, 4 + r.val.length ≤ maxPayload) (debugStr : String → String) :
    (wholeReports room (reports.map (·.val)) = reports.map (·.val) ∨
      wholeReports room (reports.map (·.val)) = (reports.map (·.val)).dropLast) ∧
    ∃ enough, ∀ fuel, enough ≤ fuel → ∀ rounds, reports.length + 2 ≤ rounds →
      (∃ s' t',
        Ends (Net.Step outputFile env)
          ⟨⟨((runSimulateSourceWith serde debugStr).unrolled rounds).run, { input := [], env := none }⟩,
            ⟨(handled phone (run json senderId deviceName fuel)).run.upTo
                (ackedAt json senderId deviceName ds chosen.busid d ep kind + room),
              { input := [], env := t }⟩⟩
          ⟨⟨.ret (.ok ()), s'⟩, ⟨.ret (.ok ()), t'⟩⟩ ∧
        s'.env = some (linesWithin debugStr (infoOf d kind) lastFrame (reports.map (·.val)) room)) ∧
      (∃ s' t',
        Ends (Net.Step outputFile env)
          ⟨⟨((hidSimulateSourceLoop serde debugStr).unrolled rounds).run, { input := [], env := none }⟩,
            ⟨(handled phone (run json senderId deviceName fuel)).run.upTo
                (ackedAt json senderId deviceName ds chosen.busid d ep kind + room),
              { input := [], env := t }⟩⟩
          ⟨⟨.ret (.ok ()), s'⟩, ⟨.ret (.ok ()), t'⟩⟩ ∧
        s'.env = some (linesWithin debugStr (infoOf d kind) lastFrame (reports.map (·.val)) room)) := by
  obtain ⟨u', -, hreads⟩ := hserves.opened
  obtain ⟨enough, hplays⟩ := plays rfl hunderstood hrange hd hack hserves hreports
  refine ⟨hreads.wholeReports_eq, enough, fun fuel hfuel rounds hrounds => ?_⟩
  have hcount : (reports.map (·.val)).length + 2 ≤ rounds := by rwa [List.length_map]
  exact ⟨(hplays fuel hfuel).captured debugStr hchosen hcount,
    (hplays fuel hfuel).captured_tls debugStr hchosen hcount⟩

/-- The mouse and the capture programs. -/
theorem phone_captured_click :
    (wholeReports 20 [[1, 0, 0, 0], [0, 0, 0, 0]] = [[1, 0, 0, 0], [0, 0, 0, 0]] ∨
      wholeReports 20 [[1, 0, 0, 0], [0, 0, 0, 0]] = [[1, 0, 0, 0]]) ∧
    ∃ enough, ∀ fuel, enough ≤ fuel → ∀ rounds, 4 ≤ rounds →
      (∃ s' t',
        Ends (Net.Step outputFile clickingPhone)
          ⟨⟨((runSimulateSourceWith (clickSerde "zerowire-test/0") id).unrolled rounds).run,
              { input := [], env := none }⟩,
            ⟨(handled phone (run plainJson "phone" "Phone" fuel)).run.upTo
                (ackedAt plainJson "phone" "Phone" [mouse] "1-2" mouse mouseEndpoint .mouse + 20),
              { input := [], env := [[1, 0, 0, 0], [0, 0, 0, 0]] }⟩⟩
          ⟨⟨.ret (.ok ()), s'⟩, ⟨.ret (.ok ()), t'⟩⟩ ∧
        s'.env = some ["bind_ack kind=Mouse name=Mouse", "report seq=1 bytes=[1, 0, 0, 0]",
          "summary bind_ack=true reports=1"]) ∧
      (∃ s' t',
        Ends (Net.Step outputFile clickingPhone)
          ⟨⟨((hidSimulateSourceLoop (clickSerde "zerowire-test/0") id).unrolled rounds).run,
              { input := [], env := none }⟩,
            ⟨(handled phone (run plainJson "phone" "Phone" fuel)).run.upTo
                (ackedAt plainJson "phone" "Phone" [mouse] "1-2" mouse mouseEndpoint .mouse + 20),
              { input := [], env := [[1, 0, 0, 0], [0, 0, 0, 0]] }⟩⟩
          ⟨⟨.ret (.ok ()), s'⟩, ⟨.ret (.ok ()), t'⟩⟩ ∧
        s'.env = some ["bind_ack kind=Mouse name=Mouse", "report seq=1 bytes=[1, 0, 0, 0]",
          "summary bind_ack=true reports=1"]) :=
  phone_captured (rfl : pickHidDevice ([mouse].map UsbDevice.summary) none = .ok mouse.summary) rfl
    (by decide) (understood_click (.inr rfl)) (acknowledged_click _) streamsDevice_click (by decide) id

/-! #### USB/IP -/

/-- An ATTACH that is denied. -/
theorem handled_attachTo_denied (json : OrgJson)
    {busid mode : String} (hd : deviceWith ds busid = some d)
    (hmode : mode ≠ "hid") (fuel : ℕ) (obj : String → String) (hbusid : obj "busid" = busid)
    (hobj : obj "mode" = mode) :
    handled phone (attachTo json fuel ds obj) =
      handled phone (sendJson json (attachDenied busid s!"mode {mode} not supported")) >>= fun _ =>
        pure () := by
  have hfind : ds.find? (fun d => decide (busidFor d = busid)) = some d := hd
  rw [attachTo, hbusid, hobj]
  simp only [hfind]
  rw [if_pos hmode, bind_pure]

/-- **The phone and a receiver of USB/IP.**  The phone lists its devices, but it denies them; in
whatever order the two move, both return, the receiver with the reason of the phone.  Nothing has
been attached, and no device has been opened: the two are left as they were, but for the socket and
the list. -/
theorem phone_denies_usbip {clientName : String} {wanted : Option String}
    (hchosen : pickDevice wanted (ds.map UsbDevice.summary) = .ok chosen)
    (hd : deviceWith ds chosen.busid = some d) (hrange : ∀ d ∈ ds, d.InRange)
    (hunderstood : Understood serde json (usbipHello clientName) (.attach chosen.busid "usbip")
      [helloAck senderId deviceName, deviceListMessage ds,
        attachDenied chosen.busid "mode usbip not supported"])
    (hoffers : Offers env t ds) {σ : Type} (desktop : Env simulatedSig σ) (x : σ)
    (drive : Option UInt32)
    (fuel rounds : ℕ) :
    ∃ s' t',
      Ends (Net.Step desktop env)
        ⟨⟨(runUsbipReceive serde clientName wanted drive rounds).run, { input := [], env := x }⟩,
          ⟨(handled phone (run json senderId deviceName fuel)).run, { input := [], env := t }⟩⟩
        ⟨⟨.ret (.error (.failed (.err (.denied chosen.busid "mode usbip not supported")))), s'⟩,
          ⟨.ret (.ok ()), t'⟩⟩ ∧
      s'.env = x ∧ t'.env = behind env (listing ++ [.closeSocket]) t := by
  have hhandshake := handshake_of_understood hunderstood hrange
    (ofObject_tree (.attachDenied chosen.busid "mode usbip not supported"))
  obtain ⟨s, hs, henv, hinquires⟩ := inquires_negotiate desktop drive
    (s := { input := [], env := x }) rfl hhandshake hchosen rounds
  obtain ⟨s', -, henv', hresponds⟩ := responds_run rfl hunderstood hoffers
    (handled_attachTo_denied json hd (by decide) fuel)
  have hgreeted := Net.reaches_of_dialogue hinquires hresponds
  -- the receiver has returned, and the phone closes its socket
  let denied : Party simulatedSig σ (Except (Stop (Fault UsbipReceiveError)) Unit) :=
    ⟨.ret (.error (.failed (.err (.denied chosen.busid "mode usbip not supported")))), s⟩
  have hpure : Enough env (pure () : Act phoneSig (Stop Thrown) Unit) s' () s' := Enough.pure () s'
  have hclosed := Net.reaches_of_moves_right (E := desktop) (r := denied)
    (moves_within hpure (List.append_nil _).symm).of_false
  rw [Party.receive_nil] at hclosed
  refine ⟨s, _, Net.diamond.ends (hgreeted.trans hclosed) (Net.final _ _ _ _), henv, ?_⟩
  rw [henv', behind, behind, List.foldl_append]
  rfl

/-- The texts of a session with a receiver of USB/IP, and what they mean. -/
def deniedTexts : List (List UInt8 × ControlMessage) :=
  [usbipHello "linux-cli", .listDevices, .attach "1-2" "usbip"].map (fun m => (textOf m, m)) ++
    [((plainJson.print (helloAck "phone" "Phone")).val, .helloAck "phone" "Phone" ["hid-fastlane/1"]),
      ((plainJson.print (deviceListMessage [mouse])).val, .deviceList [mouse.summary]),
      ((plainJson.print (attachDenied "1-2" "mode usbip not supported")).val,
        .attachDenied "1-2" "mode usbip not supported")]

def deniedSerde : Serde where
  control :=
    { toVec := textOf
      fromSlice := fun bs => (deniedTexts.find? fun text => text.1 = bs).map Prod.snd }
  bindRequest := mouseSerde.bindRequest
  bindAckMeta := mouseSerde.bindAckMeta

theorem understood_denied :
    Understood deniedSerde plainJson (usbipHello "linux-cli") (.attach "1-2" "usbip")
      [helloAck "phone" "Phone", deviceListMessage [mouse],
        attachDenied "1-2" "mode usbip not supported"] := by
  have hack := ofObject_tree (.helloAck "phone" "Phone" ["hid-fastlane/1"])
  have hlist := (ofObject_deviceListMessage [mouse]).trans (if_pos (by decide))
  have hdenied := ofObject_tree (.attachDenied "1-2" "mode usbip not supported")
  exact
    { hello := ⟨by decide +kernel, by decide +kernel, _, parse_plainJson (fieldOf_object _ _).1,
        (fieldOf_object (usbipHello "linux-cli") _).2⟩
      listDevices := ⟨by decide +kernel, by decide +kernel, _, parse_plainJson (fieldOf_object _ _).1,
        (fieldOf_object .listDevices _).2⟩
      attach := ⟨by decide +kernel, by decide +kernel, _, parse_plainJson (fieldOf_object _ _).1,
        (fieldOf_object (.attach "1-2" "usbip") _).2, by decide +kernel, by decide +kernel⟩
      answers := List.forall_mem_cons.2 ⟨⟨Eq.trans (by decide +kernel) hack.symm, by decide +kernel⟩,
        List.forall_mem_cons.2 ⟨⟨Eq.trans (by decide +kernel) hlist.symm, by decide +kernel⟩,
          List.forall_mem_singleton.2 ⟨Eq.trans (by decide +kernel) hdenied.symm, by decide +kernel⟩⟩⟩ }

/-- The mouse is not attached. -/
theorem phone_denies_usbip_mouse :
    ∃ s' t',
      Ends (Net.Step quietDesk.env clickingPhone)
        ⟨⟨(runUsbipReceive deniedSerde "linux-cli" none none 5).run, { input := [], env := {} }⟩,
          ⟨(handled phone (run plainJson "phone" "Phone" 5)).run,
            { input := [], env := [[1, 0, 0, 0]] }⟩⟩
        ⟨⟨.ret (.error (.failed (.err (.denied "1-2" "mode usbip not supported")))), s'⟩,
          ⟨.ret (.ok ()), t'⟩⟩ ∧
      s'.env = {} ∧ t'.env = [[1, 0, 0, 0]] :=
  phone_denies_usbip (rfl : pickDevice none ([mouse].map UsbDevice.summary) = .ok mouse.summary) rfl
    (by decide) understood_denied ⟨rfl, rfl, rfl, rfl, rfl⟩ quietDesk.env {} none 5 5

end Receivers

end Zerowire.ReceiverSession

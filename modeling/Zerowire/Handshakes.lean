/-
**The handshakes, each side by itself.**

Every session begins in the same way: a receiver says HELLO, asks for the devices, attaches one, and
waits for the answer each time.  That is a dialogue in the sense of `Zerowire/Peers.lean`, with
envelopes as its questions and answers.  Here the receivers lead it, whoever answers; an answer may
be any envelope that is read as the message expected, whichever JSON library has printed it.

Main definitions:

* `Zerowire.Envelope.Says` — the envelope is received as that control message;
* `Zerowire.spoken`, `Zerowire.greeting` — the turns of a handshake;
* `Zerowire.captureLoop` — the capture program from its BIND on.

Main results:

* `Zerowire.inquires_runReceive`, `Zerowire.inquires_capture` — **the receivers of reports lead the
  handshake**.
-/

import Zerowire.FastLane
import Zerowire.Peers

set_option relaxedAutoImplicit false
set_option autoImplicit false

namespace Zerowire

open Bytes Program Relation

/-! ### Turns -/

/-- An envelope that is received as a control message. -/
structure Envelope.Says (json : Json ControlMessage) (e : Envelope)
    (msg : ControlMessage) : Prop where
  fits : e.Fits
  reads : controlOf json e = .ok msg

theorem ControlMessage.Passes.carried {json : Json ControlMessage} {msg : ControlMessage}
    (h : msg.Passes json) : (msg.envelope json).Says json msg where
  fits := h.fits
  reads := by rw [controlOf, ControlMessage.envelope, h.round]

/-- The bytes of the turns of a dialogue. -/
def spoken (turns : List (Envelope × Envelope)) : List (List UInt8 × List UInt8) :=
  turns.map fun turn => (turn.1.bytes, turn.2.bytes)

/-- The turns of a handshake, with the answers to its three questions. -/
def greeting (json : Json ControlMessage) (hello attach : ControlMessage) (ack list ok : Envelope) :
    List (Envelope × Envelope) :=
  [(hello.envelope json, ack), (ControlMessage.listDevices.envelope json, list),
    (attach.envelope json, ok)]

/-- **What a handshake comes to**: the questions arrive, and the answers are received as a
HELLO_ACK, the list of the devices, and the reply to the ATTACH. -/
structure Handshake (json : Json ControlMessage) (hello attach : ControlMessage)
    (ack list reply : Envelope) (devices : List DeviceSummary)
    (attached : ControlMessage) : Prop where
  hello : hello.Passes json
  listDevices : ControlMessage.listDevices.Passes json
  attach : attach.Passes json
  helloAck : ∃ senderId name supports, ack.Says json (.helloAck senderId name supports)
  deviceList : list.Says json (.deviceList devices)
  attached : reply.Says json attached

section Enough

variable {X : Sig} {τ : Type} {env : Env X τ} {json : Json ControlMessage} {msg : ControlMessage}

theorem enough_recv {e : Envelope} (h : e.Says json msg) {s : Io τ} (hs : s.input = []) :
    Enough env (Wire.recvControl json : Act X _ ControlMessage) (s.fed e.bytes) msg s :=
  ((enough_recvEnvelope h.fits hs).mapErr _).bind (Enough.ofResult h.reads s)

/-- A question, as the receivers ask it. -/
theorem enough_asked {ε : Type} (h : msg.Passes json) (g : ControlError → ε) (s : Io τ) :
    Enough env (mapErr .failed (mapErr (Fault.map g) (Wire.sendControl json msg)) :
      Act X (Stop (Fault ε)) Unit) s () (s.sent (msg.envelope json).bytes) :=
  ((enough_sendControl h s).mapErr _).mapErr _

/-- An answer, as the receivers take it. -/
theorem enough_taken {ε : Type} {e : Envelope} (h : e.Says json msg)
    (g : ControlError → ε) {s : Io τ}
    (hs : s.input = []) :
    Enough env (mapErr .failed (mapErr (Fault.map g) (Wire.recvControl json)) :
      Act X (Stop (Fault ε)) ControlMessage) (s.fed e.bytes) msg s :=
  ((enough_recv h hs).mapErr _).mapErr _

/-- A question, as it is taken off any stream. -/
theorem enough_heard {ε : Type} {e : Envelope} (h : e.Says json msg)
    (g : ControlError → ε) {s : Io τ}
    (hs : s.input = []) :
    Enough env (mapErr .failed (mapErr (Fault.map g) (Tls.recvControl json)) :
      Act X (Stop (Fault ε)) ControlMessage) (s.fed e.bytes) msg s :=
  (((enough_recv h hs).of_alike (recvControl_alike json)).mapErr _).mapErr _

/-- An answer, as it is put on any stream. -/
theorem enough_answered {ε : Type} (h : msg.Passes json) (g : ControlError → ε) (s : Io τ) :
    Enough env (mapErr .failed (mapErr (Fault.map g) (Tls.sendControl json msg)) :
      Act X (Stop (Fault ε)) Unit) s () (s.sent (msg.envelope json).bytes) :=
  (((enough_sendControl h s).of_alike (sendControl_alike json msg)).mapErr _).mapErr _

end Enough

/-! ### What fits -/

/-- The strings of a device are no longer than a file of `/sys`. -/
structure DeviceSummary.Short (d : DeviceSummary) : Prop where
  busid : SerdeJson.Short d.busid
  manufacturer : ∀ s ∈ d.manufacturer, SerdeJson.Short s
  product : ∀ s ∈ d.product, SerdeJson.Short s
  serial : ∀ s ∈ d.serial, SerdeJson.Short s

theorem SerdeJson.length_optional_le {o : Option String} (h : ∀ s ∈ o, Short s) :
    (optional o).length ≤ 2 ^ 15 := by
  rcases o with _ | s
  · exact of_decide_eq_true rfl
  · exact (h s rfl).length_quoted_le

theorem SerdeJson.length_digits_le_of_lt {n : ℕ} (h : n < 2 ^ 32) : (digits n).length ≤ 2 ^ 15 := by
  have hle : (digits n).length ≤ 10 := by
    rw [digits, List.length_map]
    exact (Nat.length_toDigits_le_iff (by decide) (by decide)).2 (by omega)
  omega

/-- The text of one device. -/
theorem SerdeJson.length_deviceText_le {d : DeviceSummary} (h : d.Short) :
    (deviceText d).length ≤ 10 * (2 ^ 15 + 20 + 2) + 2 := by
  have hkeys : (quoted "busid").length ≤ 20 ∧ (quoted "vendor_id").length ≤ 20 ∧
      (quoted "product_id").length ≤ 20 ∧ (quoted "manufacturer").length ≤ 20 ∧
      (quoted "product").length ≤ 20 ∧ (quoted "serial").length ≤ 20 ∧
      (quoted "device_class").length ≤ 20 ∧ (quoted "device_subclass").length ≤ 20 ∧
      (quoted "device_protocol").length ≤ 20 ∧ (quoted "is_hid").length ≤ 20 := by decide
  obtain ⟨h₁, h₂, h₃, h₄, h₅, h₆, h₇, h₈, h₉, h₁₀⟩ := hkeys
  have h16 (n : UInt16) := length_digits_le_of_lt (n := n.toNat) (by have := n.toNat_lt; omega)
  have h8 (n : UInt8) := length_digits_le_of_lt (n := n.toNat) (by have := n.toNat_lt; omega)
  have htruth (b : Bool) : (truth b).length ≤ 2 ^ 15 := by cases b <;> exact of_decide_eq_true rfl
  have hadd {a b : ℕ} (ha : a ≤ 20) (hb : b ≤ 2 ^ 15) : a + b ≤ 2 ^ 15 + 20 := by omega
  refine length_object_le (n := 2 ^ 15 + 20) ?_
  simp only [List.forall_mem_cons]
  exact ⟨hadd h₁ h.busid.length_quoted_le, hadd h₂ (h16 _), hadd h₃ (h16 _),
    hadd h₄ (length_optional_le h.manufacturer), hadd h₅ (length_optional_le h.product),
    hadd h₆ (length_optional_le h.serial), hadd h₇ (h8 _), hadd h₈ (h8 _), hadd h₉ (h8 _),
    hadd h₁₀ (htruth _), by simp⟩

namespace Serde.Prints

variable {serde : Serde}

/-- The list of one device fits into an envelope. -/
theorem fits_oneDevice (hprints : serde.Prints) {d : DeviceSummary} (h : d.Short) :
    ((ControlMessage.deviceList [d]).envelope serde.control).Fits := by
  have hdevice := SerdeJson.length_deviceText_le h
  have hop : (SerdeJson.quoted "op").length + (SerdeJson.quoted "DEVICE_LIST").length ≤ 40 := by decide
  have hkey : (SerdeJson.quoted "devices").length = 9 := by decide
  have hobject : (SerdeJson.object [("op", SerdeJson.quoted "DEVICE_LIST"),
      ("devices", SerdeJson.array [SerdeJson.deviceText d])]).length ≤
        2 * (10 * (2 ^ 15 + 20 + 2) + 13 + 2) + 2 := by
    refine SerdeJson.length_object_le ?_
    simp only [List.forall_mem_cons]
    refine ⟨by omega, ?_, by simp⟩
    rw [SerdeJson.array, SerdeJson.commaed, List.intercalate_singleton, List.length_append,
      List.length_cons, List.length_singleton]
    omega
  rw [Envelope.Fits, ControlMessage.envelope, hprints.control, SerdeJson.controlText, maxPayload]
  exact Nat.le_trans hobject (by decide)

theorem fits_hello (hprints : serde.Prints) {client : String} (h : SerdeJson.Short client)
    {supports : List String}
    (hsupports : (SerdeJson.array (supports.map SerdeJson.quoted)).length ≤ 2 ^ 15) :
    ((ControlMessage.hello 1 client supports).envelope serde.control).Fits := by
  refine hprints.fits ?_
  simp only [SerdeJson.controlFields, List.forall_mem_cons]
  exact ⟨of_decide_eq_true rfl, h.length_quoted_le, hsupports, by simp⟩

theorem fits_attach (hprints : serde.Prints) {busid mode : String} (h : SerdeJson.Short busid)
    (hmode : SerdeJson.Short mode) :
    ((ControlMessage.attach busid mode).envelope serde.control).Fits := by
  refine hprints.fits ?_
  simp only [SerdeJson.controlFields, List.forall_mem_cons]
  exact ⟨h.length_quoted_le, hmode.length_quoted_le, by simp⟩

theorem fits_attachOk (hprints : serde.Prints) {busid : String} (h : SerdeJson.Short busid)
    (importId : UInt32) :
    ((ControlMessage.attachOk busid importId).envelope serde.control).Fits := by
  refine hprints.fits ?_
  simp only [SerdeJson.controlFields, List.forall_mem_cons]
  exact ⟨h.length_quoted_le, SerdeJson.length_digits_le_of_lt importId.toNat_lt, by simp⟩

theorem fits_attachOkUsbip (hprints : serde.Prints)
    {info : AttachInfo} (h : SerdeJson.Short info.busid)
    (hhex : ∀ s ∈ info.descriptorHex, SerdeJson.Short s) :
    ((ControlMessage.attachOkUsbip info).envelope serde.control).Fits := by
  have h16 (n : UInt16) := SerdeJson.length_digits_le_of_lt (n := n.toNat)
    (by have := n.toNat_lt; omega)
  have h8 (n : UInt8) :=
    SerdeJson.length_digits_le_of_lt (n := n.toNat) (by have := n.toNat_lt; omega)
  refine hprints.fits ?_
  simp only [SerdeJson.controlFields, List.forall_mem_cons]
  exact ⟨h.length_quoted_le, SerdeJson.length_digits_le_of_lt info.importId.toNat_lt,
    SerdeJson.length_digits_le_of_lt info.devid.toNat_lt, h8 _, h16 _, h16 _,
    SerdeJson.length_optional_le hhex, by simp⟩

end Serde.Prints

/-! ### The receivers -/

section Receivers

variable {serde : Serde} {τ : Type} {s : Io τ} {ack list reply : Envelope}
  {devices : List DeviceSummary} {chosen : DeviceSummary} {attached busid : String}
  {importId : UInt32}

/-- **`run_receive` leads the handshake.** -/
theorem inquires_runReceive (env : Env receiverSig τ) {clientName : String} {wanted : Option String}
    (hs : s.input = [])
    (h : Handshake serde.control (.hello 1 clientName ["hid-fastlane/1"]) (.attach chosen.busid "hid")
      ack list reply devices (.attachOk attached importId))
    (hchosen : pickHidDevice devices wanted = .ok chosen) (fuel : ℕ) :
    ∃ s', s'.input = [] ∧ s'.env = s.env ∧
      Inquires env ⟨((runReceive serde clientName wanted).unrolled fuel).run, s⟩
        (spoken (greeting serde.control (.hello 1 clientName ["hid-fastlane/1"])
          (.attach chosen.busid "hid") ack list reply))
        ⟨(bindAndRead serde chosen.busid fuel).run, s'⟩ := by
  obtain ⟨_, _, _, hack⟩ := h.helloAck
  have hpicked : (Fault.lift ((pickHidDevice devices wanted).mapError .noDevice) :
      Except (Fault RunError) _) = .ok chosen := by
    rw [hchosen]
    rfl
  let bytes (msg : ControlMessage) : List UInt8 := (msg.envelope serde.control).bytes
  refine ⟨((s.sent (bytes (.hello 1 clientName ["hid-fastlane/1"]))).sent (bytes .listDevices)).sent
    (bytes (.attach chosen.busid "hid")), hs, rfl, ?_⟩
  rw [Looped.unrolled, runReceive]
  simp only [mapErr_bind, bind_assoc]
  refine .step (enough_asked h.hello _ s) (enough_taken hack _ hs) (.check rfl ?_)
  refine .step (enough_asked h.listDevices _ _) (enough_taken h.deviceList _ hs)
    (.check rfl (.check hpicked ?_))
  exact .step (enough_asked h.attach _ _) (enough_taken h.attached _ hs) (.check rfl (.done _))

/-- The capture program from its BIND on. -/
def captureLoop (serde : Serde) (debugStr : String → String) (busid : String) (fuel : ℕ) :
    Act captureSig (Stop (Fault CaptureError)) Unit := do
  mapErr .failed (mapErr (Fault.map .send)
    (Wire.sendEnvelope .hid (bindFrame serde.bindRequest busid).encode))
  mapErr .failed (fileOp .create)
  let c ← unroll (fun c => mapErr .failed (captureRound serde debugStr c)) fuel {}
  mapErr .failed ((runSimulateSourceWith serde debugStr).finish c)

/-- **`run_simulate_source_with` leads the handshake.** -/
theorem inquires_capture (env : Env captureSig τ) (debugStr : String → String) (hs : s.input = [])
    (h : Handshake serde.control (.hello 1 "zerowire-test/0" ["hid-fastlane/1"])
      (.attach chosen.busid "hid") ack list reply devices (.attachOk attached importId))
    (hchosen : pickHidDevice devices none = .ok chosen) (fuel : ℕ) :
    ∃ s', s'.input = [] ∧ s'.env = s.env ∧
      Inquires env ⟨((runSimulateSourceWith serde debugStr).unrolled fuel).run, s⟩
        (spoken (greeting serde.control (.hello 1 "zerowire-test/0" ["hid-fastlane/1"])
          (.attach chosen.busid "hid") ack list reply))
        ⟨(captureLoop serde debugStr chosen.busid fuel).run, s'⟩ := by
  obtain ⟨_, _, _, hack⟩ := h.helloAck
  have hpicked : (Fault.lift ((pickHidDevice devices none).mapError .noDevice) :
      Except (Fault CaptureError) _) = .ok chosen := by
    rw [hchosen]
    rfl
  let bytes (msg : ControlMessage) : List UInt8 := (msg.envelope serde.control).bytes
  refine ⟨((s.sent (bytes (.hello 1 "zerowire-test/0" ["hid-fastlane/1"]))).sent
    (bytes .listDevices)).sent (bytes (.attach chosen.busid "hid")), hs, rfl, ?_⟩
  rw [Looped.unrolled, runSimulateSourceWith, captureStart]
  simp only [mapErr_bind, bind_assoc]
  refine .step (enough_asked h.hello _ s) (enough_taken hack _ hs) (.check rfl ?_)
  refine .step (enough_asked h.listDevices _ _) (enough_taken h.deviceList _ hs)
    (.check rfl (.check hpicked ?_))
  exact .step (enough_asked h.attach _ _) (enough_taken h.attached _ hs) (.check rfl (.done _))

end Receivers

end Zerowire

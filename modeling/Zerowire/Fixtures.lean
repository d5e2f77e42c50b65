/-
**The two stand-ins for a phone** (`desktop-linux/src/bin/mock_sender.rs`, `run_session`, and
`desktop-linux/src/bin/simulate_android_pump.rs`, `run_session`).

Two programs play the part of the phone where there is none.  The mock sender offers a mouse and
makes up its reports, or a disk and makes up its URBs; the other one runs the pump on a disk that
does not exist.  Both offer one device, insist on being asked for it in one way, and send what they
have.  After that they close the connection, or idle for ever.

Main definitions:

* `Zerowire.Offer`, `Zerowire.offer` — what a stand-in says of itself, and its part in the
  handshake;
* `Zerowire.MockSender.runSession` — the mock sender, for either of its modes;
* `Zerowire.SimulateAndroidPump.runSession` — the stand-in with the pump.

Main results:

* `Zerowire.responds_offer` — **a stand-in answers the handshake**, if it is asked for what it
  offers;
* `Zerowire.MockSender.enough_afterAttachOk`, `Zerowire.MockSender.enough_afterAttachOkUsbip` —
  **what the mock sender sends after the handshake**.
-/

import Zerowire.Handshakes
import Zerowire.ScriptedSession
import Zerowire.UsbipReceive

set_option relaxedAutoImplicit false
set_option autoImplicit false

namespace Zerowire

open Bytes Program

/-! ### Surroundings and errors -/

/-- What a stand-in asks of its surroundings. -/
inductive FixtureOp where
  /-- `std::thread::sleep`, in milliseconds. -/
  | sleep (millis : UInt64)
  deriving Repr, DecidableEq

/-- The surroundings of a stand-in. -/
abbrev fixtureSig : Sig := ⟨FixtureOp, fun _ => Unit⟩

/-- Sleeping takes no time. -/
def restless : Env fixtureSig Unit := fun _ _ => ((), ())

/-- What makes a session with a stand-in fail. -/
inductive FixtureError where
  | control (e : ControlError)
  | recv (e : RecvError)
  /-- "expected HELLO, got ..". -/
  | expectedHello (other : ControlMessage)
  /-- "expected LIST_DEVICES, got ..". -/
  | expectedListDevices (other : ControlMessage)
  /-- "expected ATTACH, got ..". -/
  | expectedAttach (other : ControlMessage)
  /-- "receiver wants busid .., we only offer ..". -/
  | wrongBusid (wants offers : String)
  /-- "receiver wants mode .., we only offer .." and "receiver wants mode .., only usbip
  supported". -/
  | wrongMode (wants offers : String)
  /-- "expected HID envelope, got ..". -/
  | expectedHid (got : Channel)
  | frame (e : HidError)
  /-- "expected HID Bind, got ..". -/
  | expectedBind (got : HidOp)
  | encode (e : EnvelopeError)
  | write
  | pump (e : PumpError)
  deriving Repr, DecidableEq

/-! ### The handshake -/

/-- What a stand-in says of itself, the device that it offers, and how it has to be asked for it. -/
structure Offer where
  senderId : String
  name : String
  supports : List String
  device : DeviceSummary
  mode : String
  deriving Repr, DecidableEq

namespace Offer

/-- Its answers to HELLO and LIST_DEVICES. -/
def helloAck (o : Offer) : ControlMessage := .helloAck o.senderId o.name o.supports
def deviceList (o : Offer) : ControlMessage := .deviceList [o.device]

/-- The ATTACH that it expects. -/
def attach (o : Offer) : ControlMessage := .attach o.device.busid o.mode

/-- The check of the ATTACH: first the busid, and then the mode. -/
def attachOf (o : Offer) : ControlMessage → Except (Fault FixtureError) Unit
  | .attach busid mode =>
      if busid ≠ o.device.busid then .error (.err (.wrongBusid busid o.device.busid))
      else if mode ≠ o.mode then .error (.err (.wrongMode mode o.mode))
      else .ok ()
  | other => .error (.err (.expectedAttach other))

end Offer

section Session

variable {X : Sig} (serde : Serde)

/-- `ztls::recv_control(s)?`. -/
def takeControl : Act X (Fault FixtureError) ControlMessage :=
  mapErr (Fault.map .control) (Tls.recvControl serde.control)

/-- `ztls::send_control(s, ..)?`. -/
def giveControl (msg : ControlMessage) : Act X (Fault FixtureError) Unit :=
  mapErr (Fault.map .control) (Tls.sendControl serde.control msg)

/-- `s.write_all(..)?`. -/
def writeOut (bytes : List UInt8) : Act X (Fault FixtureError) Unit := do
  if ← writeAll bytes then return () else throw (.err .write)

/-- The check of the HELLO. -/
def fixtureHello : ControlMessage → Except (Fault FixtureError) Unit
  | .hello _ _ _ => .ok ()
  | other => .error (.err (.expectedHello other))

/-- The check of the LIST_DEVICES. -/
def fixtureListDevices : ControlMessage → Except (Fault FixtureError) Unit
  | .listDevices => .ok ()
  | other => .error (.err (.expectedListDevices other))

/-- Both sessions as far as the check of the ATTACH. -/
def offer (o : Offer) : Act X (Fault FixtureError) Unit := do
  ofResult (fixtureHello (← takeControl serde))
  giveControl serde o.helloAck
  ofResult (fixtureListDevices (← takeControl serde))
  giveControl serde o.deviceList
  ofResult (o.attachOf (← takeControl serde))

end Session

/-! ### Its part in the handshake -/

/-- All that is said in a handshake with a stand-in. -/
def Offer.messages (o : Offer) (hello reply : ControlMessage) : List ControlMessage :=
  [hello, o.helloAck, .listDevices, o.deviceList, o.attach, reply]

section Handshake

variable {serde : Serde} {o : Offer} {hello reply : ControlMessage}

theorem Offer.attachOf_attach (o : Offer) : o.attachOf o.attach = .ok () := by
  rw [Offer.attach, Offer.attachOf, if_neg (not_not.2 rfl), if_neg (not_not.2 rfl)]

/-- What the handshake with a stand-in comes to. -/
theorem Offer.handshake (h : ∀ msg ∈ o.messages hello reply, msg.Passes serde.control) :
    Handshake serde.control hello o.attach (o.helloAck.envelope serde.control)
      (o.deviceList.envelope serde.control) (reply.envelope serde.control) [o.device] reply := by
  simp only [Offer.messages, List.forall_mem_cons] at h
  obtain ⟨hhello, hack, hlist, hdevices, hattach, hreply, -⟩ := h
  exact
    { hello := hhello
      listDevices := hlist
      attach := hattach
      helloAck := ⟨_, _, _, hack.carried⟩
      deviceList := hdevices.carried
      attached := hreply.carried }

/-- The strings of a stand-in are short. -/
structure Offer.Short (o : Offer) : Prop where
  senderId : SerdeJson.Short o.senderId
  name : SerdeJson.Short o.name
  supports : (SerdeJson.array (o.supports.map SerdeJson.quoted)).length ≤ 2 ^ 15
  device : o.device.Short
  mode : SerdeJson.Short o.mode

/-- Then all that is said fits into envelopes. -/
theorem Offer.Short.fits (ho : o.Short) (hprints : serde.Prints)
    (hhello : (hello.envelope serde.control).Fits) (hreply : (reply.envelope serde.control).Fits) :
    ∀ msg ∈ o.messages hello reply, (msg.envelope serde.control).Fits := by
  have hack : (o.helloAck.envelope serde.control).Fits := by
    refine hprints.fits ?_
    simp only [Offer.helloAck, SerdeJson.controlFields, List.forall_mem_cons]
    exact ⟨ho.senderId.length_quoted_le, ho.name.length_quoted_le, ho.supports, by simp⟩
  have hlist : (ControlMessage.listDevices.envelope serde.control).Fits :=
    hprints.fits (by simp [SerdeJson.controlFields])
  simp only [Offer.messages, List.forall_mem_cons]
  exact ⟨hhello, hack, hlist, hprints.fits_oneDevice ho.device,
    hprints.fits_attach ho.device.busid ho.mode, hreply, by simp⟩

/-- **A stand-in answers the handshake**, if it is asked for what it offers. -/
theorem responds_offer {X : Sig} {τ γ : Type} (env : Env X τ)
    (h : ∀ msg ∈ o.messages hello reply, msg.Passes serde.control)
    (hhello : fixtureHello hello = .ok ()) {t : Io τ} (ht : t.input = [])
    (f : Unit → Act X (Stop (Fault FixtureError)) γ) :
    ∃ t', t'.input = [] ∧ t'.env = t.env ∧
      Responds env
        ⟨(mapErr .failed (offer serde o) >>= fun _ =>
          mapErr .failed (giveControl serde reply) >>= f).run, t⟩
        (spoken (greeting serde.control hello o.attach (o.helloAck.envelope serde.control)
          (o.deviceList.envelope serde.control) (reply.envelope serde.control)))
        ⟨(f ()).run, t'⟩ := by
  simp only [Offer.messages, List.forall_mem_cons] at h
  obtain ⟨hhello', hack, hlist, hdevices, hattach, hreply, -⟩ := h
  let bytes (msg : ControlMessage) : List UInt8 := (msg.envelope serde.control).bytes
  refine ⟨((t.sent (bytes o.helloAck)).sent (bytes o.deviceList)).sent (bytes reply), ht, rfl, ?_⟩
  rw [offer]
  simp only [mapErr_bind, bind_assoc]
  refine .checked (enough_heard hhello'.carried _ ht) hhello (enough_answered hack _ t) ?_
  refine .checked (enough_heard hlist.carried _ ht) rfl (enough_answered hdevices _ _) ?_
  exact .checked (enough_heard hattach.carried _ ht) o.attachOf_attach (enough_answered hreply _ _) (.done _)

end Handshake

/-- The bytes of a descriptor, as `write!(hex_str, "{b:02x}")` appends them. -/
def descriptorHex (descriptor : List UInt8) : String :=
  String.join (descriptor.map fun b => hexDigits 2 b.toNat)

theorem SerdeJson.length_join_le {n : ℕ} {texts : List String}
    (h : ∀ s ∈ texts, (textBytes s).length ≤ n) :
    (textBytes (String.join texts)).length ≤ texts.length * n := by
  induction texts with
  | nil => exact Nat.zero_le _
  | cons s texts ih =>
      obtain ⟨hs, hrest⟩ := List.forall_mem_cons.1 h
      have hle := ih hrest
      rw [String.join_cons, textBytes_append, List.length_append, List.length_cons, Nat.succ_mul]
      omega

/-- The text of a device descriptor is short. -/
theorem short_descriptorHex (vendor product : UInt16) (deviceClass : UInt8) :
    SerdeJson.Short (descriptorHex (synthDeviceDescriptor vendor product deviceClass)) := by
  have hbyte : ∀ n < 256, (SerdeJson.textBytes (hexDigits 2 n)).length ≤ 2 := by decide +kernel
  have hle : (SerdeJson.textBytes
      (descriptorHex (synthDeviceDescriptor vendor product deviceClass))).length ≤
        ((synthDeviceDescriptor vendor product deviceClass).map fun b => hexDigits 2 b.toNat).length * 2 := by
    refine SerdeJson.length_join_le fun s hs => ?_
    obtain ⟨b, -, rfl⟩ := List.mem_map.1 hs
    exact hbyte _ b.toNat_lt
  rw [List.length_map] at hle
  exact Nat.le_trans hle (by simp [synthDeviceDescriptor])

/-! ### The mock sender -/

namespace MockSender

/-- `Mode`. -/
inductive Mode where
  | hid
  | usbip
  deriving Repr, DecidableEq

/-- `Args`, as far as the session looks at it. -/
structure Args where
  reports : UInt32 := 50
  intervalMs : UInt64 := 20
  busid : String := "1-2"
  persistent : Bool := false
  mode : Mode := .hid
  deriving Repr, DecidableEq

/-- The device of each mode. -/
def device (args : Args) : DeviceSummary :=
  match args.mode with
  | .hid => {
      busid := args.busid
      vendorId := 0xBADD
      productId := 0xC0DE
      manufacturer := some "builtbyzero"
      product := some "zerowire-mock mouse"
      serial := none
      deviceClass := 0
      deviceSubclass := 0
      deviceProtocol := 0
      isHid := true }
  | .usbip => {
      busid := args.busid
      vendorId := 0x046d
      productId := 0xc52b
      manufacturer := some "builtbyzero"
      product := some "zerowire-mock mass-storage"
      serial := some "sim-0001"
      deviceClass := 0x08
      deviceSubclass := 0x06
      deviceProtocol := 0x50
      isHid := false }

/-- What the mock sender says of itself. -/
def theOffer (args : Args) : Offer where
  senderId := "mock-sender"
  name := "zerowire-mock"
  supports := ["hid-fastlane/1", "usbip/1.1.1"]
  device := device args
  mode :=
    match args.mode with
    | .hid => "hid"
    | .usbip => "usbip"

/-- What `synth_mouse_bind_ack_body` says of the mouse. -/
def mouseMeta (busid : String) : BindAckMeta where
  busid := busid
  kind := .mouse
  vendorId := 0xBADD
  productId := 0xC0DE
  name := "zerowire-mock mouse"

section Session

variable (serde : Serde) (args : Args)

/-- `synth_mouse_bind_ack_body`. -/
def synthMouseBindAckBody (busid : String) : List UInt8 :=
  encodeBindAckBody serde.bindAckMeta (mouseMeta busid) LinuxSender.mouseDescriptor

/-- `s.write_all(&hid_envelope(&f))?`. -/
def writeFrame (f : HidFrame) : Act fixtureSig (Fault FixtureError) Unit := do
  let bytes ← ofResult (LinuxSender.hidEnvelope f)
  writeOut bytes

/-- The checks of the BIND, and the identifier of the binding. -/
def bindOf (e : OwnedEnvelope) : Except (Fault FixtureError) UInt8 :=
  if e.channel ≠ .hid then .error (.err (.expectedHid e.channel))
  else do
    let bindFrame ← (HidFrame.parse e.payload).mapError (Fault.map .frame)
    if bindFrame.op ≠ .bind then throw (.err (.expectedBind bindFrame.op))
    else return if bindFrame.bindId = 0 then 1 else bindFrame.bindId

/-- The body of every report. -/
def reportBody : List UInt8 := [0, 3, 0, 0]

/-- The report of round `i`. -/
def report (bindId : UInt8) (i : ℕ) : HidFrame :=
  ⟨.reportIn, bindId, UInt16.ofNat (i + 1), reportBody⟩

/-- The UNBIND, with the body "{"reason":"mock done"}". -/
def unbind (bindId : UInt8) : HidFrame :=
  ⟨.unbind, bindId, 0, "\x7b\"reason\":\"mock done\"\x7d".toUTF8.data.toList⟩

/-- The BIND_ACK. -/
def bindAck (bindId : UInt8) : HidFrame :=
  ⟨.bindAck, bindId, 0, synthMouseBindAckBody serde args.busid⟩

/-- `loop { std::thread::sleep(..) }`. -/
def idle (fuel : ℕ) : Act fixtureSig (Stop (Fault FixtureError)) Unit :=
  unroll (fun _ => do
    call (X := fixtureSig) (.sleep 60000)
    return .inl ()) fuel ()

/-- One round of `for i in 0..args.reports` of `run_hid`. -/
def hidRound (bindId : UInt8) (i : ℕ) : Act fixtureSig (Fault FixtureError) Unit := do
  writeFrame (report bindId i)
  call (X := fixtureSig) (.sleep args.intervalMs)

/-- `run_hid` from the BIND to the last report: the identifier of the binding. -/
def streamHid : Act fixtureSig (Fault FixtureError) UInt8 := do
  let e ← mapErr (Fault.map .recv) Tls.recvEnvelope
  let bindId ← ofResult (bindOf e)
  writeFrame (bindAck serde args bindId)
  (List.range args.reports.toNat).forM (hidRound args bindId)
  return bindId

/-- `run_hid` after its ATTACH_OK; where it idles, as long as the fuel lasts. -/
def afterAttachOk (fuel : ℕ) : Act fixtureSig (Stop (Fault FixtureError)) Unit := do
  let bindId ← mapErr .failed (streamHid serde args)
  if args.persistent then idle fuel else mapErr .failed (writeFrame (unbind bindId))

/-- `run_hid`. -/
def runHid (fuel : ℕ) : Act fixtureSig (Stop (Fault FixtureError)) Unit := do
  mapErr .failed (giveControl serde (.attachOk args.busid 1))
  afterAttachOk serde args fuel

/-- What `run_usbip` says of the disk. -/
def attachInfo (device : DeviceSummary) : AttachInfo where
  busid := args.busid
  importId := 7
  devid := 0x00010002
  speed := 3
  vendorId := device.vendorId
  productId := device.productId
  descriptorHex :=
    some (descriptorHex (synthDeviceDescriptor device.vendorId device.productId device.deviceClass))

/-- The envelope with a URB that is none. -/
def fakeUrb : Envelope := ⟨.usbip, UsbipFrame.encode ⟨7, List.replicate 48 0xAB⟩⟩

/-- One round of `for _ in 0..args.reports` of `run_usbip`. -/
def usbipRound : Act fixtureSig (Fault FixtureError) Unit := do
  let bytes ← ofResult (Fault.lift (fakeUrb.encode.mapError FixtureError.encode))
  writeOut bytes
  call (X := fixtureSig) (.sleep args.intervalMs)

/-- `run_usbip` after its ATTACH_OK_USBIP. -/
def afterAttachOkUsbip (fuel : ℕ) : Act fixtureSig (Stop (Fault FixtureError)) Unit := do
  mapErr .failed ((List.range args.reports.toNat).forM fun _ => usbipRound args)
  if args.persistent then idle fuel else return ()

/-- `run_usbip`. -/
def runUsbip (device : DeviceSummary) (fuel : ℕ) :
    Act fixtureSig (Stop (Fault FixtureError)) Unit := do
  mapErr .failed (giveControl serde (.attachOkUsbip (attachInfo args device)))
  afterAttachOkUsbip args fuel

/-- **`run_session`** of the mock sender. -/
def runSession (fuel : ℕ) : Act fixtureSig (Stop (Fault FixtureError)) Unit := do
  mapErr .failed (offer serde (theOffer args))
  match args.mode with
  | .hid => runHid serde args fuel
  | .usbip => runUsbip serde args (device args) fuel

end Session

/-! ### What the mock sender sends -/

section Streams

variable {τ : Type} (env : Env fixtureSig τ) (args : Args)

theorem enough_writeOut {bytes : List UInt8} (t : Io τ) :
    Enough env (writeOut bytes) t () (t.sent bytes) := fun _ => rfl

theorem enough_writeFrame {f : HidFrame} (hfits : f.envelope.Fits) (t : Io τ) :
    Enough env (writeFrame f) t () (t.sent f.envelope.bytes) :=
  (Enough.ofResult (LinuxSender.hidEnvelope_of_fits hfits) t).bind (enough_writeOut env t)

/-- **The reports**, numbered one by one. -/
theorem enough_hidRounds (n k : ℕ) (t : Io τ) :
    ∃ x, Enough env ((List.range' k n).forM (hidRound args bindId)) t ()
      { t.sent ((reportEnvelopes k (List.replicate n reportBody)).flatMap Envelope.bytes) with
        env := x } := by
  induction n generalizing k t with
  | zero =>
      refine ⟨t.env, ?_⟩
      have hnothing : t.sent [] = t := by rw [Io.sent, List.append_nil]
      rw [List.replicate_zero, reportEnvelopes, List.flatMap_nil, hnothing]
      exact Enough.pure () t
  | succ n ih =>
      let t₁ : Io τ := t.sent (report bindId k).envelope.bytes
      let t₂ : Io τ := { t₁ with env := (env (.sleep args.intervalMs) t.env).2 }
      obtain ⟨x, hrest⟩ := ih (k + 1) t₂
      have hround : Enough env (hidRound args bindId k) t () t₂ :=
        (enough_writeFrame env (fits_report bindId _ (by decide)) t).bind (Enough.call_eq rfl)
      have hsent : ({ t₂.sent ((reportEnvelopes (k + 1) (List.replicate n reportBody)).flatMap
            Envelope.bytes) with env := x } : Io τ) =
          { t.sent ((reportEnvelopes k (List.replicate (n + 1) reportBody)).flatMap Envelope.bytes) with
            env := x } := by
        rw [List.replicate_succ, reportEnvelopes, List.flatMap_cons, Io.sent, Io.sent,
          ← List.append_assoc]
        rfl
      rw [hsent] at hrest
      exact ⟨x, hround.bind hrest⟩

/-- The BIND of the receiver is taken. -/
theorem bindOf_bindFrame (json : Json BindRequest) (busid : String) :
    bindOf (bindFrame json busid).envelope = .ok Zerowire.bindId := by
  rw [bindOf, HidFrame.envelope, if_neg (not_not.2 rfl), HidFrame.parse_encode, mapError_ok]
  rfl

theorem unbind_fits : (unbind Zerowire.bindId).envelope.Fits := by decide

theorem short_theOffer (h : SerdeJson.Short args.busid) : (theOffer args).Short := by
  have hwords : SerdeJson.Short "mock-sender" ∧ SerdeJson.Short "zerowire-mock" ∧
      SerdeJson.Short "hid" ∧ SerdeJson.Short "usbip" ∧ SerdeJson.Short "builtbyzero" ∧
      SerdeJson.Short "zerowire-mock mouse" ∧ SerdeJson.Short "zerowire-mock mass-storage" ∧
      SerdeJson.Short "sim-0001" := by decide
  have hsupports : (SerdeJson.array
      (["hid-fastlane/1", "usbip/1.1.1"].map SerdeJson.quoted)).length ≤ 2 ^ 15 := by decide
  obtain ⟨hsender, hname, hhid, husbip, hmaker, hmouse, hdisk, hserial⟩ := hwords
  have hsome {s : String} (hs : SerdeJson.Short s) : ∀ s' ∈ some s, SerdeJson.Short s' := by
    rintro _ ⟨⟩
    exact hs
  obtain ⟨reports, intervalMs, busid, persistent, mode⟩ := args
  cases mode with
  | hid => exact ⟨hsender, hname, hsupports, ⟨h, hsome hmaker, hsome hmouse, nofun⟩, hhid⟩
  | usbip => exact ⟨hsender, hname, hsupports, ⟨h, hsome hmaker, hsome hdisk, hsome hserial⟩, husbip⟩

/-- What the BIND_ACK says of the mouse is short. -/
theorem length_metaText_lt {serde : Serde} (hprints : serde.Prints) {busid : String}
    (h : SerdeJson.Short busid) : (serde.bindAckMeta.toVec (mouseMeta busid)).length < 2 ^ 16 := by
  have hname : (SerdeJson.textBytes "zerowire-mock mouse").length = 19 := by decide
  have htext := SerdeJson.length_bindAckText_le (mouseMeta busid)
  simp only [mouseMeta, hname] at htext
  rw [SerdeJson.Short] at h
  rw [hprints.bindAckMeta, mouseMeta]
  omega

/-- The BIND_ACK fits into an envelope. -/
theorem bindAck_fits {serde : Serde} (hprints : serde.Prints) (h : SerdeJson.Short args.busid) :
    (bindAck serde args Zerowire.bindId).envelope.Fits := by
  have htext := length_metaText_lt hprints h
  have hdescriptor : LinuxSender.mouseDescriptor.length ≤ 2 ^ 8 := by decide
  rw [Envelope.Fits, HidFrame.envelope, HidFrame.encode, bindAck, synthMouseBindAckBody,
    encodeBindAckBody]
  simp only [List.length_append, List.length_cons, List.length_nil, maxPayload, toBe16]
  omega

/-- All that the mock sender sends from the BIND on. -/
def boundEnvelopes (serde : Serde) : List Envelope :=
  (bindAck serde args Zerowire.bindId).envelope ::
    (reportEnvelopes 0 (List.replicate args.reports.toNat reportBody) ++
      [(unbind Zerowire.bindId).envelope])

/-- **What `run_hid` sends after its ATTACH_OK**, unless it idles. -/
theorem enough_afterAttachOk {serde : Serde} {busid : String}
    (hbind : (bindFrame serde.bindRequest busid).envelope.Fits)
    (hack : (bindAck serde args Zerowire.bindId).envelope.Fits) (hends : args.persistent = false)
    (fuel : ℕ) {t : Io τ} (ht : t.input = []) :
    ∃ x, Enough env (afterAttachOk serde args fuel)
      (t.fed (bindFrame serde.bindRequest busid).envelope.bytes) ()
      { t.sent ((boundEnvelopes args serde).flatMap Envelope.bytes) with env := x } := by
  let t₁ : Io τ := t.sent (bindAck serde args Zerowire.bindId).envelope.bytes
  obtain ⟨x, hrounds⟩ := enough_hidRounds env args args.reports.toNat 0 t₁
  rw [← List.range_eq_range'] at hrounds
  have hbound : Enough env (Tls.recvEnvelope : Act fixtureSig _ OwnedEnvelope)
      (t.fed (bindFrame serde.bindRequest busid).envelope.bytes)
      (bindFrame serde.bindRequest busid).envelope t :=
    (enough_recvEnvelope hbind ht).of_alike (recvEnvelope_alike _ _ _ _)
  have hstream : Enough env (streamHid serde args)
      (t.fed (bindFrame serde.bindRequest busid).envelope.bytes) Zerowire.bindId
      { t₁.sent ((reportEnvelopes 0 (List.replicate args.reports.toNat reportBody)).flatMap
        Envelope.bytes) with env := x } := by
    refine (hbound.mapErr _).bind ((Enough.ofResult (bindOf_bindFrame serde.bindRequest busid) t).bind ?_)
    exact (enough_writeFrame env hack t).bind (hrounds.bind (Enough.pure Zerowire.bindId _))
  have hall := (hstream.mapErr Stop.failed).bind
    (f := fun bindId => if args.persistent then idle fuel else mapErr .failed (writeFrame (unbind bindId)))
    (by rw [hends]; exact (enough_writeFrame env unbind_fits _).mapErr _)
  refine ⟨x, ?_⟩
  have hsent : (({ t₁.sent ((reportEnvelopes 0 (List.replicate args.reports.toNat reportBody)).flatMap
        Envelope.bytes) with env := x } : Io τ).sent (unbind Zerowire.bindId).envelope.bytes) =
      { t.sent ((boundEnvelopes args serde).flatMap Envelope.bytes) with env := x } := by
    rw [boundEnvelopes, List.flatMap_cons, List.flatMap_append, List.flatMap_singleton, Io.sent, Io.sent,
      Io.sent, ← List.append_assoc, ← List.append_assoc]
    rfl
  rw [hsent] at hall
  exact hall

/-- **What `run_usbip` sends after its ATTACH_OK_USBIP**: the fake URBs. -/
theorem enough_usbipRounds (n k : ℕ) (t : Io τ) :
    ∃ x, Enough env ((List.range' k n).forM fun _ => usbipRound args) t ()
      { t.sent ((List.replicate n fakeUrb).flatMap Envelope.bytes) with env := x } := by
  induction n generalizing k t with
  | zero =>
      refine ⟨t.env, ?_⟩
      have hnothing : t.sent [] = t := by rw [Io.sent, List.append_nil]
      rw [List.replicate_zero, List.flatMap_nil, hnothing]
      exact Enough.pure () t
  | succ n ih =>
      let t₁ : Io τ := t.sent fakeUrb.bytes
      let t₂ : Io τ := { t₁ with env := (env (.sleep args.intervalMs) t.env).2 }
      obtain ⟨x, hrest⟩ := ih (k + 1) t₂
      have hencode : (Fault.lift (fakeUrb.encode.mapError FixtureError.encode) :
          Except (Fault FixtureError) _) = .ok fakeUrb.bytes := by
        rw [Envelope.encode_of_fits (by decide)]
        rfl
      have hround : Enough env (usbipRound args) t () t₂ :=
        (Enough.ofResult hencode t).bind ((enough_writeOut env t).bind (Enough.call_eq rfl))
      have hsent : ({ t₂.sent ((List.replicate n fakeUrb).flatMap Envelope.bytes) with
            env := x } : Io τ) =
          { t.sent ((List.replicate (n + 1) fakeUrb).flatMap Envelope.bytes) with env := x } := by
        rw [List.replicate_succ, List.flatMap_cons, Io.sent, Io.sent, ← List.append_assoc]
        rfl
      rw [hsent] at hrest
      exact ⟨x, hround.bind hrest⟩

/-- And then it returns, unless it idles. -/
theorem enough_afterAttachOkUsbip (hends : args.persistent = false) (fuel : ℕ) (t : Io τ) :
    ∃ x, Enough env (afterAttachOkUsbip args fuel) t ()
      { t.sent ((List.replicate args.reports.toNat fakeUrb).flatMap Envelope.bytes) with env := x } := by
  obtain ⟨x, hrounds⟩ := enough_usbipRounds env args args.reports.toNat 0 t
  rw [← List.range_eq_range'] at hrounds
  refine ⟨x, (hrounds.mapErr Stop.failed).bind ?_⟩
  rw [hends]
  exact Enough.pure () _

end Streams

end MockSender

/-! ### The stand-in with the pump -/

namespace SimulateAndroidPump

/-- `Args`, as far as the session looks at it. -/
structure Args where
  busid : String := "1-2"
  importId : UInt32 := 7
  vendor : UInt16 := 0x046d
  product : UInt16 := 0xc52b
  deriving Repr, DecidableEq

/-- What it says of itself and of its disk. -/
def theOffer (args : Args) : Offer where
  senderId := "simulate-android-pump"
  name := "zerowire-android-pump"
  supports := ["usbip/1.1.1"]
  device := {
    busid := args.busid
    vendorId := args.vendor
    productId := args.product
    manufacturer := some "builtbyzero"
    product := some "zerowire-android-pump fake mass-storage"
    serial := some "sim-0001"
    deviceClass := 0x08
    deviceSubclass := 0x06
    deviceProtocol := 0x50
    isHid := false }
  mode := "usbip"

/-- What it answers the ATTACH. -/
def attachInfo (args : Args) : AttachInfo where
  busid := args.busid
  importId := args.importId
  devid := 0x00010002
  speed := 3
  vendorId := args.vendor
  productId := args.product
  descriptorHex := some (descriptorHex (synthDeviceDescriptor args.vendor args.product 0x08))

/-- An error of the pump, passed on by `?`. -/
def ofPump : Stop (Fault PumpError) → Stop (Fault FixtureError)
  | .failed e => .failed (e.map .pump)
  | .ranOut => .ranOut

/-- The end of `run_session`: the pump, whose counts are only logged. -/
def pump {X : Sig} (args : Args) (fuel : ℕ) : Act X (Stop (Fault FixtureError)) PumpStats :=
  mapErr ofPump (pumpProgram args.importId (.massStorage args.vendor args.product) fuel {})

/-- **`run_session`** of the stand-in with the pump; what is returned is what is logged. -/
def runSession {X : Sig} (serde : Serde) (args : Args) (fuel : ℕ) :
    Act X (Stop (Fault FixtureError)) PumpStats := do
  mapErr .failed (offer serde (theOffer args))
  mapErr .failed (giveControl serde (.attachOkUsbip (attachInfo args)))
  pump args fuel

theorem short_theOffer {args : Args} (h : SerdeJson.Short args.busid) : (theOffer args).Short := by
  have hwords : SerdeJson.Short "simulate-android-pump" ∧ SerdeJson.Short "zerowire-android-pump" ∧
      SerdeJson.Short "usbip" ∧ SerdeJson.Short "builtbyzero" ∧
      SerdeJson.Short "zerowire-android-pump fake mass-storage" ∧
      SerdeJson.Short "sim-0001" := by decide
  have hsupports :
      (SerdeJson.array (["usbip/1.1.1"].map SerdeJson.quoted)).length ≤ 2 ^ 15 := by decide
  obtain ⟨hsender, hname, husbip, hmaker, hdisk, hserial⟩ := hwords
  have hsome {s : String} (hs : SerdeJson.Short s) : ∀ s' ∈ some s, SerdeJson.Short s' := by
    rintro _ ⟨⟩
    exact hs
  exact ⟨hsender, hname, hsupports, ⟨h, hsome hmaker, hsome hdisk, hsome hserial⟩, husbip⟩

end SimulateAndroidPump

end Zerowire

/-
**The loopback of USB/IP** (`desktop-linux/src/usbip_receiver.rs`, `run_usbip_receive`;
`desktop-linux/src/bin/mock_sender.rs`, `desktop-linux/src/bin/simulate_android_pump.rs`).

Neither a phone nor `vhci-hcd` is needed to try out USB/IP.  The mock sender pushes frames that the
simulated receiver notes; or the simulated receiver drives the script of its URBs, and the stand-in
with the pump serves them.  Here each of the two pairs is put together, from HELLO to the end.

Main definitions:

* `Zerowire.MockSender.UsbipRoundTrips`, `Zerowire.SimulateAndroidPump.RoundTrips` — the JSON of
  what is said comes back.

Main results:

* `Zerowire.Offer.reaches_attached` — the handshake of the simulated receiver with a stand-in;
* `Zerowire.mockSender_relayed` — **every frame of the mock sender is noted**, in its place;
* `Zerowire.androidPump_driven` — **the script goes through**, from HELLO to the end.
-/

import Zerowire.Fixtures
import Zerowire.SimulatedSession

set_option relaxedAutoImplicit false
set_option autoImplicit false

namespace Zerowire

open Bytes Program Relation

/-- The only device is picked. -/
theorem pickDevice_only {d : DeviceSummary} {wanted : Option String}
    (hwanted : ∀ b ∈ wanted, b = d.busid) : pickDevice wanted [d] = .ok d := by
  rcases wanted with _ | b
  · rfl
  · obtain rfl := hwanted b rfl
    rw [pickDevice, List.find?_cons_of_pos (by simp)]

/-- **The handshake of the simulated receiver with a stand-in** that lets it attach what it offers.
Behind it nothing is left to read. -/
theorem Offer.reaches_attached {serde : Serde} (hprints : serde.Prints) {clientName : String}
    (hclient : SerdeJson.Short clientName) {o : Offer} (ho : o.Short) (hmode : o.mode = "usbip")
    {info : AttachInfo} (hreply : ((ControlMessage.attachOkUsbip info).envelope serde.control).Fits)
    (hround : ∀ msg ∈ o.messages (usbipHello clientName) (.attachOkUsbip info),
      serde.control.fromSlice (serde.control.toVec msg) = some msg)
    {wanted : Option String} (hwanted : ∀ b ∈ wanted, b = o.device.busid) (desk : Desk) {X : Sig}
    {τ γ : Type} (env : Env X τ) (drive : Option UInt32) (rounds : ℕ) (u : Trail) (x : τ)
    (f : Unit → Act X (Stop (Fault FixtureError)) γ) :
    ∃ s t, s.input = [] ∧ s.env = u ∧ t.input = [] ∧
      ReflTransGen (Net.Step desk.env env)
        ⟨⟨(runUsbipReceive serde clientName wanted drive rounds).run, { input := [], env := u }⟩,
          ⟨(mapErr .failed (offer serde o) >>= fun _ =>
            mapErr .failed (giveControl serde (.attachOkUsbip info)) >>= f).run,
            { input := [], env := x }⟩⟩
        ⟨⟨(simulateUntilEnd serde drive rounds info).run, s⟩, ⟨(f ()).run, t⟩⟩ := by
  have hhello := hprints.fits_hello hclient
    (by decide : (SerdeJson.array (["usbip/1.1.1"].map SerdeJson.quoted)).length ≤ 2 ^ 15)
  have hfits := ho.fits hprints hhello hreply
  have hpasses : ∀ msg ∈ o.messages (usbipHello clientName) (.attachOkUsbip info),
      msg.Passes serde.control := fun msg h => ⟨hfits msg h, hround msg h⟩
  have hattach : o.attach = .attach o.device.busid "usbip" := by rw [Offer.attach, hmode]
  obtain ⟨t, ht, -, hresponds⟩ :=
    responds_offer env hpasses rfl (t := { input := [], env := x }) rfl f
  have hhandshake := Offer.handshake hpasses
  rw [hattach] at hresponds hhandshake
  obtain ⟨s, hs, hsenv, hinquires⟩ := inquires_runUsbipReceive desk.env drive
    (s := { input := [], env := u }) rfl hhandshake (pickDevice_only hwanted)
    (show attachReply _ (.attachOkUsbip info) = .ok info from rfl) rounds
  exact ⟨s, t, hs, hsenv, ht, Net.reaches_of_dialogue hinquires hresponds⟩

/-! ### The mock sender -/

namespace MockSender

/-- **The JSON of what is said comes back.** -/
def UsbipRoundTrips (serde : Serde) (clientName : String) (args : Args) : Prop :=
  ∀ msg ∈ (theOffer args).messages (usbipHello clientName)
      (.attachOkUsbip (attachInfo args (device args))),
    serde.control.fromSlice (serde.control.toVec msg) = some msg

instance (serde : Serde) (clientName : String) (args : Args) :
    Decidable (UsbipRoundTrips serde clientName args) := inferInstanceAs (Decidable (∀ msg ∈ _, _))

theorem device_busid (args : Args) : (device args).busid = args.busid := by
  rw [device]
  cases args.mode <;> rfl

/-- The frame that is pushed. -/
def fakeFrame : UsbipFrame := ⟨7, List.replicate 48 0xAB⟩

theorem usbipFrameOf_fakeUrb : usbipFrameOf fakeUrb = some fakeFrame := by
  rw [usbipFrameOf, fakeUrb, if_pos rfl, UsbipFrame.parse_encode]
  rfl

/-- Fake URBs disturb nobody. -/
theorem undisturbed_fakeUrbs (serde : Serde) {desk : Desk} (hopens : ∀ k, desk.opens k = true)
    (hnever : ∀ k, desk.stop k = false) (n : ℕ) :
    Undisturbed serde desk (List.replicate n fakeUrb) where
  never := hnever
  opens := hopens
  long e he _ := by
    rw [List.eq_of_mem_replicate he]
    decide
  noError e he := by
    rw [List.eq_of_mem_replicate he]
    rfl

end MockSender

/-- **Every frame of the mock sender is noted**, in its place.  The simulated receiver and the mock
sender are at the two ends of a fresh connection.  In whatever order the two move, both return
without an error, and in the transcript there are the attachment, a line for every frame, one number
after the other, and at last that the device is detached. -/
theorem mockSender_relayed {serde : Serde} (hprints : serde.Prints) {clientName : String}
    (hclient : SerdeJson.Short clientName)
    {args : MockSender.Args} (hbusid : SerdeJson.Short args.busid)
    (hround : MockSender.UsbipRoundTrips serde clientName args) (hmode : args.mode = .usbip)
    (hends : args.persistent = false)
    {wanted : Option String} (hwanted : ∀ b ∈ wanted, b = args.busid)
    {τ : Type} (env : Env fixtureSig τ) (x : τ) (fuel : ℕ) {desk : Desk}
    (hopens : ∀ k, desk.opens k = true) (hnever : ∀ k, desk.stop k = false) (u : Trail) :
    ∃ enough, ∀ rounds, enough ≤ rounds → ∃ s' t',
      Ends (Net.Step desk.env env)
        ⟨⟨(runUsbipReceive serde clientName wanted none rounds).run, { input := [], env := u }⟩,
          ⟨(MockSender.runSession serde args fuel).run, { input := [], env := x }⟩⟩
        ⟨⟨.ret (.ok ()), s'⟩, ⟨.ret (.ok ()), t'⟩⟩ ∧
      s'.env.transcript =
        u.transcript ++ attachLines (MockSender.attachInfo args (MockSender.device args)) ++
        (attachmentOf (MockSender.attachInfo args (MockSender.device args))).frameLines 0
          (List.replicate args.reports.toNat MockSender.fakeFrame) ++
        [(attachmentOf (MockSender.attachInfo args (MockSender.device args))).detachLine] := by
  let info : AttachInfo := MockSender.attachInfo args (MockSender.device args)
  have hreply : ((ControlMessage.attachOkUsbip info).envelope serde.control).Fits := by
    refine hprints.fits_attachOkUsbip hbusid ?_
    rintro _ ⟨⟩
    exact short_descriptorHex _ _ _
  have husbip : (MockSender.theOffer args).mode = "usbip" := by
    rw [MockSender.theOffer, hmode]
  have hprogram : MockSender.runSession serde args fuel =
      (mapErr .failed (offer serde (MockSender.theOffer args)) >>= fun _ =>
        mapErr .failed (giveControl serde (.attachOkUsbip info)) >>= fun _ =>
          MockSender.afterAttachOkUsbip args fuel) := by
    rw [MockSender.runSession, hmode]
    rfl
  -- what the mock sender pushes behind the handshake
  let sent : List UInt8 :=
    (List.replicate args.reports.toNat MockSender.fakeUrb).flatMap Envelope.bytes
  refine ⟨sent.length + 1, fun rounds hrounds => ?_⟩
  obtain ⟨s, t, hs, hsenv, -, hgreeted⟩ := Offer.reaches_attached hprints hclient
    (MockSender.short_theOffer args hbusid) husbip hreply hround
    (show ∀ b ∈ wanted, b = (MockSender.theOffer args).device.busid from
      fun b hb => (hwanted b hb).trans (MockSender.device_busid args).symm) desk env none rounds u x
    fun _ => MockSender.afterAttachOkUsbip args fuel
  obtain ⟨x', hstream⟩ := MockSender.enough_afterAttachOkUsbip env args hends fuel t
  have hreturned := Net.reaches_right_ret (E := desk.env) hstream rfl
    ⟨(simulateUntilEnd serde none rounds info).run, s⟩
  -- and what is noted of it
  have hinput : (s.fed sent).input = sent := by
    rw [Io.fed_input, hs, List.nil_append]
  have hframes : StreamCodec.frames Envelope.parse (s.fed sent).input =
      List.replicate args.reports.toNat MockSender.fakeUrb := by
    rw [hinput]
    refine Envelope.codec.frames_wire fun e he => ?_
    rw [List.eq_of_mem_replicate he]
    decide
  have henough : (s.fed sent).input.length < rounds := by
    rw [hinput]
    omega
  obtain ⟨r, s', fs, last, hrun, -, hdropped, hlines, hrelayed⟩ :=
    exec_runSimulated serde desk info (hopens _) henough
  rw [hframes] at hrelayed
  obtain ⟨rfl, rfl⟩ := hrelayed.all (MockSender.undisturbed_fakeUrbs serde hopens hnever _)
  obtain ⟨said, hlast⟩ := Net.reaches_left_end (F := env) hrun (Except.ok ()) _
  rw [hprogram]
  refine ⟨s', _, Net.diamond.ends (hgreeted.trans (hreturned.trans hlast)) (Net.final _ _ _ _), ?_⟩
  rw [hdropped, Desk.detached, if_pos (hopens _), hlines, Io.fed_env, hsenv, List.filterMap_replicate,
    MockSender.usbipFrameOf_fakeUrb]

/-- The JSON of what is said with the mock sender when it pushes URBs. -/
def mockUsbipSerde (args : MockSender.Args) : Serde where
  control := .printing SerdeJson.controlText ((MockSender.theOffer args).messages
    (usbipHello "linux-cli") (.attachOkUsbip (MockSender.attachInfo args (MockSender.device args))))
  bindRequest := .printing SerdeJson.bindRequestText []
  bindAckMeta := .printing SerdeJson.bindAckText []

theorem mockSender_relayed_two :
    ∃ enough, ∀ rounds, enough ≤ rounds → ∃ s' t',
      Ends (Net.Step quietDesk.env restless)
        ⟨⟨(runUsbipReceive (mockUsbipSerde { reports := 2, mode := .usbip }) "linux-cli" none none
            rounds).run, { input := [], env := {} }⟩,
          ⟨(MockSender.runSession (mockUsbipSerde { reports := 2, mode := .usbip })
            { reports := 2, mode := .usbip } 0).run, { input := [], env := () }⟩⟩
        ⟨⟨.ret (.ok ()), s'⟩, ⟨.ret (.ok ()), t'⟩⟩ ∧
      s'.env.transcript = [
        "sim-attach port=7 busid=1-2 import_id=7 devid=0x10002 speed=3 vid=046d pid=c52b",
        "sim-descriptor 1-2 bytes=18", "sim-urb port=7 import_id=7 seq=1 bytes=48",
        "sim-urb port=7 import_id=7 seq=2 bytes=48", "sim-detach port=7 busid=1-2"] :=
  mockSender_relayed ⟨fun _ => rfl, fun _ => rfl, fun _ => rfl⟩ (by decide) (by decide)
    (by decide +kernel) rfl rfl (by simp) restless () 0 (fun _ => rfl) (fun _ => rfl) {}

/-! ### The stand-in with the pump -/

namespace SimulateAndroidPump

/-- **The JSON of what is said comes back.** -/
def RoundTrips (serde : Serde) (clientName : String) (args : Args) : Prop :=
  ∀ msg ∈ (theOffer args).messages (usbipHello clientName) (.attachOkUsbip (attachInfo args)),
    serde.control.fromSlice (serde.control.toVec msg) = some msg

instance (serde : Serde) (clientName : String) (args : Args) :
    Decidable (RoundTrips serde clientName args) := inferInstanceAs (Decidable (∀ msg ∈ _, _))

end SimulateAndroidPump

/-- The script in its block, which the driver leaves with the line of `Drop`. -/
theorem run_scriptBlock (info : AttachInfo) (n : UInt32) (sim : SimulatedAttach) :
    ∃ k, (tryFinally (driveScript info n) sim.drop).run =
        (runScript info.importId (scriptDefault n info.devid)).run >>= k ∧
      ∀ stats, k (.ok stats) = (finishing sim.drop (.ok ())).run := by
  refine ⟨fun r => ExceptT.bindCont (fun _ => pure ())
    ((r.mapError (Fault.map UsbipReceiveError.driver)).mapError Stop.failed) >>=
      fun r => (finishing sim.drop r).run, ?_, fun _ => rfl⟩
  rw [run_tryFinally, driveScript, ExceptT.run_bind]
  simp only [mapErr, ExceptT.run_mk, bind_assoc]
  rfl

section Driven

variable {X : Sig} {τ : Type} (desk : Desk) (env : Env X τ) (importId : UInt32) (device : FakeDevice)
  (script : List ScriptedUrb) (k : Except (Fault DriverError) DriverStats →
    Prog simulatedSig (Except (Stop (Fault UsbipReceiveError)) Unit))

/-- The driver attaches the device, and comes to its script. -/
theorem reaches_script (hopens : ∀ k, desk.opens k = true) {info : AttachInfo} {n : UInt32}
    (hblock : (tryFinally (driveScript info n) (attachmentOf info).drop).run =
      (runScript info.importId (scriptDefault n info.devid)).run >>= k) {s : Io Trail}
    (hs : s.input = []) {γ : Type} (sender : Party X τ γ) :
    ∃ s', s'.input = [] ∧ ReflTransGen (Net.Step desk.env env)
      ⟨⟨(runSimulatedDrive info n).run, s⟩, sender⟩
      ⟨⟨(runScript info.importId (scriptDefault n info.devid)).run >>= k, s'⟩, sender⟩ := by
  let s' : Io Trail := { s with env := { s.env with
    opened := s.env.opened + 1
    transcript := s.env.transcript ++ attachLines info } }
  have hcreate : Enough desk.env (SimulatedAttach.create info) s (attachmentOf info) s' :=
    fun rest => exec_create desk (hopens _) info
  refine ⟨s', hs, ?_⟩
  rw [← hblock]
  exact Net.reaches_left_silent (hcreate.mapErr Stop.failed) rfl _

/-- The script goes through, up to the summary of the driver. -/
theorem reaches_scripted (hopens : ∀ k, desk.opens k = true)
    (hsatisfies : ∀ urb ∈ script, device.Satisfies urb) {s : Io Trail} (hs : s.input = []) {t : Io τ}
    (ht : t.input = []) (spare : ℕ) :
    ∃ s' t', t'.input = [] ∧ ReflTransGen (Net.Step desk.env env)
      ⟨⟨(runScript importId script).run >>= k, s⟩,
        ⟨(mapErr SimulateAndroidPump.ofPump
          (pumpProgram importId device (script.length + (spare + 1 + 1)) {})).run, t⟩⟩
      ⟨⟨(summarize (driverTotals script)).run >>= k, s'⟩,
        ⟨(mapErr SimulateAndroidPump.ofPump
          (pumpProgram importId device (spare + 1) (pumpTotals script))).run, t'⟩⟩ := by
  obtain ⟨s', t', -, ht', hscript⟩ :=
    reaches_summary desk env importId hsatisfies hs (hopens _) ht (spare + 1)
  exact ⟨s', t', ht', Net.reaches_bind_right (Net.reaches_bind_left hscript rfl k) rfl
    fun r => .ret (r.mapError SimulateAndroidPump.ofPump)⟩

/-- The driver returns, the device is detached, and the pump finds the end of the stream. -/
theorem reaches_detached {sim : SimulatedAttach}
    (hleave : ∀ stats, k (.ok stats) = (finishing sim.drop (.ok ())).run) (s : Io Trail) {t : Io τ}
    (ht : t.input = []) (spare : ℕ) :
    ∃ s' t', ReflTransGen (Net.Step desk.env env)
      ⟨⟨(summarize (driverTotals script)).run >>= k, s⟩,
        ⟨(mapErr SimulateAndroidPump.ofPump
          (pumpProgram importId device (spare + 1) (pumpTotals script))).run, t⟩⟩
      ⟨⟨.ret (.ok ()), s'⟩, ⟨.ret (.ok (pumpTotals script)), t'⟩⟩ := by
  obtain ⟨s₁, hout, hsummary⟩ := enough_summarize desk (driverTotals script) s
  have hsummarized : Moves desk.env false _ _ [] :=
    (hsummary.moves_ret (hout.trans (List.append_nil _).symm)).bind k
  rw [Prog.ret_bind, hleave] at hsummarized
  let s₂ : Io Trail := { s₁ with env := desk.detached sim s₁.env }
  have hdrop : Enough desk.env
      (finishing sim.drop (.ok ()) : Act simulatedSig (Stop (Fault UsbipReceiveError)) Unit) s₁ () s₂ :=
    Enough.bind (fun rest => exec_drop desk sim (s₁.fed rest)) (Enough.pure () s₂)
  have hdropped : Moves desk.env false _ _ [] := hdrop.moves_ret (List.append_nil _).symm
  have hreturned := Net.reaches_of_moves_left (E := desk.env) (F := env)
    (r := ⟨(mapErr SimulateAndroidPump.ofPump (pumpProgram importId device (spare + 1)
      (pumpTotals script))).run, t⟩) (hsummarized.silent_trans hdropped)
  rw [Party.receive_nil] at hreturned
  obtain ⟨t', hend⟩ := exec_pumpProgram_end env importId device spare (pumpTotals script) ht
  obtain ⟨said, hlast⟩ := Net.reaches_right_end (E := desk.env)
    (exec_mapErr_ok hend SimulateAndroidPump.ofPump)
    (Except.ok () : Except (Stop (Fault UsbipReceiveError)) Unit) s₂
  exact ⟨_, t', hreturned.trans hlast⟩

end Driven

/-- **The driver and the pump, from HELLO to the end.**  The simulated receiver drives its script,
with any number of bulk reads for which the counters have room, at the one end of a fresh
connection, and the stand-in serves it at the other one.  In whatever order the two move, both
return without an error; the transcript has the attachment, a line for each URB that says it has
passed, the unlink, the totals and the line of the detachment; and the pump has served every URB and
none that it does not support. -/
theorem androidPump_driven {serde : Serde} (hprints : serde.Prints) {clientName : String}
    (hclient : SerdeJson.Short clientName) {args : SimulateAndroidPump.Args}
    (hbusid : SerdeJson.Short args.busid)
    (hround : SimulateAndroidPump.RoundTrips serde clientName args) {wanted : Option String}
    (hwanted : ∀ b ∈ wanted, b = args.busid) {X : Sig} {τ : Type} (env : Env X τ) (x : τ)
    {n : UInt32}
    (hn : 96 + 64 * n.toNat < 2 ^ 32) {fuel : ℕ} (hfuel : n.toNat + 9 ≤ fuel) {desk : Desk}
    (hopens : ∀ k, desk.opens k = true) (rounds : ℕ) (u : Trail) :
    ∃ ps lines s' t',
      Ends (Net.Step desk.env env)
        ⟨⟨(runUsbipReceive serde clientName wanted (some n) rounds).run, { input := [], env := u }⟩,
          ⟨(SimulateAndroidPump.runSession serde args fuel).run, { input := [], env := x }⟩⟩
        ⟨⟨.ret (.ok ()), s'⟩, ⟨.ret (.ok ps), t'⟩⟩ ∧
      s'.env.transcript =
        u.transcript ++ attachLines (SimulateAndroidPump.attachInfo args) ++ lines ++
        [(attachmentOf (SimulateAndroidPump.attachInfo args)).detachLine] ∧
      NotedScript (scriptDefault n 0x00010002) (driverTotals (scriptDefault n 0x00010002)) lines ∧
      ps.submitsSeen.toNat = 7 + n.toNat ∧ ps.submitsOk.toNat = 7 + n.toNat ∧ ps.unlinksSeen = 1 ∧
        ps.unsupported = 0 ∧ ps.bulkInBytes.toNat = 96 + 64 * n.toNat := by
  let info : AttachInfo := SimulateAndroidPump.attachInfo args
  let script : List ScriptedUrb := scriptDefault n info.devid
  have hreply : ((ControlMessage.attachOkUsbip info).envelope serde.control).Fits := by
    refine hprints.fits_attachOkUsbip hbusid ?_
    rintro _ ⟨⟩
    exact short_descriptorHex _ _ _
  obtain ⟨s, t, hs, hsenv, ht, hgreeted⟩ := Offer.reaches_attached hprints hclient
    (SimulateAndroidPump.short_theOffer hbusid) rfl hreply hround hwanted desk env (some n) rounds u x
    fun _ => SimulateAndroidPump.pump args fuel
  -- the attachment, the script and the end
  have hlength : script.length = 7 + n.toNat := by
    rw [show script = scriptDefault n info.devid from rfl, scriptDefault, List.length_append,
      List.length_map, List.length_range]
    rfl
  obtain ⟨spare, rfl⟩ : ∃ spare, fuel = script.length + (spare + 1 + 1) :=
    ⟨fuel - script.length - 2, by omega⟩
  obtain ⟨k, hblock, hleave⟩ := run_scriptBlock info n (attachmentOf info)
  obtain ⟨s₁, hs₁, hattached⟩ := reaches_script desk env k hopens hblock hs
    ⟨(SimulateAndroidPump.pump args (script.length + (spare + 1 + 1))).run, t⟩
  obtain ⟨s₂, t₂, ht₂, hdriven⟩ := reaches_scripted desk env info.importId _ _ k hopens
    (satisfies_massStorage args.vendor args.product n info.devid) hs₁ ht spare
  obtain ⟨s', t', hclosing⟩ := reaches_detached desk env info.importId
    (.massStorage args.vendor args.product) script k hleave s₂ ht₂ spare
  have hrun := hattached.trans (hdriven.trans hclosing)
  -- what is noted of it
  obtain ⟨received, -, hclosed⟩ := Net.closed_left hrun
  obtain ⟨r, io', lines, last, hexec, -, hdropped, hlines, hnoted⟩ :=
    exec_runSimulatedDrive desk info (hopens (s.fed received).env.opened) n
  obtain ⟨rfl, rfl⟩ := Prod.mk.inj (hexec.symm.trans hclosed)
  have hcounted : Counted n.toNat (script.foldl DriverStats.passed {})
      (script.foldl PumpStats.served {}) := counted_script hn
  obtain ⟨-, hseen, hok, hunlinks, hunsupported, -, hbulk, -⟩ := hcounted.totals
  refine ⟨pumpTotals script, lines, _, t', Net.diamond.ends (hgreeted.trans hrun) (Net.final _ _ _ _),
    ?_, hnoted rfl, hseen, hok, hunlinks, hunsupported, hbulk⟩
  rw [hdropped, Desk.detached, if_pos (hopens _), hlines, Io.fed_env, hsenv]

/-- The JSON of what is said with the stand-in. -/
def pumpSerde (args : SimulateAndroidPump.Args) : Serde where
  control := .printing SerdeJson.controlText ((SimulateAndroidPump.theOffer args).messages
    (usbipHello "linux-cli") (.attachOkUsbip (SimulateAndroidPump.attachInfo args)))
  bindRequest := .printing SerdeJson.bindRequestText []
  bindAckMeta := .printing SerdeJson.bindAckText []

theorem androidPump_driven_default :
    ∃ ps lines s' t',
      Ends (Net.Step quietDesk.env restless)
        ⟨⟨(runUsbipReceive (pumpSerde {}) "linux-cli" none (some 3) 0).run, { input := [], env := {} }⟩,
          ⟨(SimulateAndroidPump.runSession (pumpSerde {}) {} 12).run, { input := [], env := () }⟩⟩
        ⟨⟨.ret (.ok ()), s'⟩, ⟨.ret (.ok ps), t'⟩⟩ ∧
      s'.env.transcript = [
        "sim-attach port=7 busid=1-2 import_id=7 devid=0x10002 speed=3 vid=046d pid=c52b",
        "sim-descriptor 1-2 bytes=18"] ++ lines ++ ["sim-detach port=7 busid=1-2"] ∧
      NotedScript (scriptDefault 3 0x00010002) (driverTotals (scriptDefault 3 0x00010002)) lines ∧
      ps.submitsSeen.toNat = 10 ∧ ps.submitsOk.toNat = 10 ∧
      ps.unlinksSeen = 1 ∧ ps.unsupported = 0 ∧
        ps.bulkInBytes.toNat = 288 :=
  androidPump_driven ⟨fun _ => rfl, fun _ => rfl, fun _ => rfl⟩ (by decide) (by decide)
    (by decide +kernel) (by simp) restless () (by decide) (by decide) (fun _ => rfl) 0 {}

end Zerowire

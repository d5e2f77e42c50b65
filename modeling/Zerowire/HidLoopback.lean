/-
**The loopback of the HID fast lane** (`desktop-linux/src/bin/mock_sender.rs`,
`desktop-linux/src/bin/linux_sender.rs`; `desktop-linux/src/receiver.rs`,
`desktop-linux/src/bin/zerowire_cli.rs`).

Without a phone, the receivers are tried out with the mock sender, and without `/dev/uinput` the
senders with a capture program.  Any of them can be put together: both the mock sender and the
sender for Linux play the sender's part, and what that comes to at a receiver is known.

Main definitions:

* `Zerowire.MockSender.RoundTrips` — the JSON of what the mock sender and its receiver say comes
  back.

Main results:

* `Zerowire.MockSender.plays`, `Zerowire.LinuxSender.plays` — **both play the sender's part**;
* `Zerowire.mockSender_delivers` — the mock sender and the receiver;
* `Zerowire.mockSender_captured` — the mock sender and the capture programs;
* `Zerowire.linuxSender_captured` — the sender for Linux and the capture programs.
-/

import Zerowire.Fixtures
import Zerowire.HidSenders

set_option relaxedAutoImplicit false
set_option autoImplicit false

namespace Zerowire

open Bytes Program Relation

/-! ### The mock sender -/

namespace MockSender

/-- **The JSON of what is said comes back.** -/
structure RoundTrips (serde : Serde) (hello : ControlMessage) (args : Args) : Prop where
  control : ∀ msg ∈ (theOffer args).messages hello (.attachOk args.busid 1),
    serde.control.fromSlice (serde.control.toVec msg) = some msg
  bindAckMeta : serde.bindAckMeta.fromSlice (serde.bindAckMeta.toVec (mouseMeta args.busid)) =
    some (mouseMeta args.busid)

/-- **The mock sender plays the sender's part**, whoever says HELLO. -/
theorem plays {τ : Type} (env : Env fixtureSig τ) {serde : Serde} (hprints : serde.Prints)
    {version : UInt8} {client : String} {supports : List String} {args : Args}
    (hhello : ((ControlMessage.hello version client supports).envelope serde.control).Fits)
    (hbusid : SerdeJson.Short args.busid)
    (hround : RoundTrips serde (.hello version client supports) args)
    (hmode : args.mode = .hid) (hends : args.persistent = false) (fuel : ℕ) (x : τ) :
    PlaysSender env serde (.hello version client supports) [device args] (device args)
      (mouseMeta args.busid) (unbind Zerowire.bindId) (List.replicate args.reports.toNat reportBody)
      (behindAck (unbind Zerowire.bindId) (List.replicate args.reports.toNat reportBody)).length
      ⟨(runSession serde args fuel).run, { input := [], env := x }⟩ (.ok ()) := by
  have hfits := (short_theOffer args hbusid).fits hprints hhello (hprints.fits_attachOk hbusid 1)
  have hpasses : ∀ msg ∈ (theOffer args).messages (.hello version client supports)
      (.attachOk args.busid 1), msg.Passes serde.control :=
        fun msg h => ⟨hfits msg h, hround.control msg h⟩
  obtain ⟨t, ht, -, hresponds⟩ :=
    responds_offer env hpasses rfl (t := { input := [], env := x }) rfl
    fun _ => afterAttachOk serde args fuel
  have hdevice : (device args).busid = args.busid := by
    rw [device, hmode]
  have hoffer : (theOffer args).device = device args := rfl
  have hattach : (theOffer args).attach = .attach (device args).busid "hid" := by
    rw [Offer.attach, hoffer, theOffer, hmode]
  have hbind : (bindFrame serde.bindRequest (device args).busid).envelope.Fits := by
    rw [hdevice]
    exact bind_fits hprints hbusid
  have hack := bindAck_fits args hprints hbusid
  obtain ⟨x', hstream⟩ := enough_afterAttachOk env args hbind hack hends fuel ht
  have hprogram : runSession serde args fuel =
      (mapErr .failed (offer serde (theOffer args)) >>= fun _ =>
        mapErr .failed (giveControl serde (.attachOk args.busid 1)) >>= fun _ =>
          afterAttachOk serde args fuel) := by
    rw [runSession, hmode]
    rfl
  have hhandshake := Offer.handshake hpasses
  rw [hattach] at hresponds hhandshake
  rw [hprogram]
  have hbody := parseBindAckBody_encode (length_metaText_lt hprints hbusid) hround.bindAckMeta
    LinuxSender.mouseDescriptor
  have hop : (bindAck serde args Zerowire.bindId).op = .bindAck := rfl
  have hlast : (unbind Zerowire.bindId).op = .unbind := rfl
  refine .of_streams hhandshake hresponds hbind hop hbody hlast ?_ (hstream.moves_ret rfl)
  rw [streamEnvelopes, List.forall_mem_cons, List.forall_mem_append, List.forall_mem_singleton]
  refine ⟨hack, fits_reportEnvelopes (fun body hbody => ?_) 0, unbind_fits⟩
  rw [List.eq_of_mem_replicate hbody]
  decide

/-- It is picked. -/
theorem pickHidDevice_device {args : Args} (hmode : args.mode = .hid) {wanted : Option String}
    (hwanted : ∀ b ∈ wanted, b = args.busid) :
    pickHidDevice [device args] wanted = .ok (device args) := by
  rcases wanted with _ | b
  · rw [pickHidDevice, device, hmode]
    rfl
  · obtain rfl := hwanted b rfl
    rw [pickHidDevice, device, hmode, List.find?_cons_of_pos (by simp)]

end MockSender

/-! ### The sender for Linux -/

namespace LinuxSender

/-- **The sender for Linux answers the handshake**, if it is asked for a device that it has
found. -/
theorem responds {σ : Type} {linux : Env linuxSig σ} {serde : Serde} {clientName name : String}
    {devices : List ExposedHidraw} {chosen : ExposedHidraw} {busid : String}
    (hpasses : ∀ msg ∈ handshakeMessages clientName name devices chosen, msg.Passes serde.control)
    (hbusid : busid = chosen.summary.busid)
    (hfound : chosenOf devices busid = .ok chosen) {t : Io σ}
    (ht : t.input = []) (henumerate : (linux .enumerate t.env).1 = .ok devices) (fuel : ℕ) :
    ∃ t', t'.input = [] ∧ t'.env = (linux .enumerate t.env).2 ∧
      Responds linux ⟨((serveSession serde name).unrolled fuel).run, t⟩
        (spoken (greeting serde.control (.hello 1 clientName ["hid-fastlane/1"]) (.attach busid "hid")
          ((helloAck name).envelope serde.control) ((deviceList devices).envelope serde.control)
          ((attachOk chosen).envelope serde.control)))
        ⟨(mapErr .failed (acknowledge serde chosen) >>= afterAck chosen fuel).run, t'⟩ := by
  subst hbusid
  simp only [handshakeMessages, List.forall_mem_cons] at hpasses
  obtain ⟨hhello, hack, hlist, hdevices, hattach, hok, -⟩ := hpasses
  let bytes (msg : ControlMessage) : List UInt8 := (msg.envelope serde.control).bytes
  let t₁ : Io σ := t.sent (bytes (helloAck name))
  let t₂ : Io σ := { t₁ with env := (linux .enumerate t.env).2 }
  have hlook : Enough linux (mapErr Stop.failed (call (X := linuxSig) .enumerate :
      Act linuxSig (Fault LinuxError) _)) t₁ (.ok devices) t₂ :=
    (Enough.call_eq (Prod.ext henumerate rfl)).mapErr Stop.failed
  refine ⟨(t₂.sent (bytes (deviceList devices))).sent (bytes (attachOk chosen)), ht, rfl, ?_⟩
  rw [unrolled_eq, handshake]
  simp only [mapErr_bind, bind_assoc]
  refine .checked (enough_taken hhello.carried _ ht) rfl (enough_asked hack _ t) ?_
  -- the sender looks what there is
  refine .behind (List.cons_ne_nil _ _) (hlook.moves _ (List.append_nil _).symm false) (.check rfl ?_)
  refine .checked (enough_taken hlist.carried _ ht) rfl (enough_asked hdevices _ _) ?_
  -- both checks of the ATTACH, and the answer
  have hnamed {t : Io σ} : Enough linux (mapErr Stop.failed (ofResult
      (attachOf (.attach chosen.summary.busid "hid"))) : Act linuxSig (Stop (Fault LinuxError)) _) t
      chosen.summary.busid t := (Enough.ofResult rfl t).mapErr _
  have hchosen {t : Io σ} : Enough linux (mapErr Stop.failed (ofResult
      (chosenOf devices chosen.summary.busid)) : Act linuxSig (Stop (Fault LinuxError)) _) t chosen t :=
    (Enough.ofResult hfound t).mapErr _
  have hsilent {t : Io σ} : t.output = t.output ++ [] := (List.append_nil _).symm
  have ht₂ : (t₂.sent (bytes (deviceList devices))).input = [] := ht
  refine .answer (((enough_taken hattach.carried _ ht₂).moves _ hsilent false).silent_trans ?_) (.done _)
  refine (hnamed.moves _ hsilent false).silent_trans ((hchosen.moves _ hsilent false).silent_trans ?_)
  exact (enough_asked hok _ _).moves _ rfl false

/-- **The sender for Linux plays the sender's part**, with the device that the two agree on and the
reports that it reads. -/
theorem plays {σ : Type} {linux : Env linuxSig σ} {serde : Serde} (hprints : serde.Prints)
    {clientName name : String} (hclient : SerdeJson.Short clientName) (hname : SerdeJson.Short name)
    {devices : List ExposedHidraw} {chosen : ExposedHidraw} {pick : DeviceSummary}
    (hlist : (serde.control.toVec (deviceList devices)).length ≤ maxPayload)
    (hbusid : pick.busid = chosen.summary.busid) (hfound : chosenOf devices pick.busid = .ok chosen)
    (hstrings : chosen.Short) (hround : RoundTrips serde clientName name devices chosen) {x : σ}
    {reports : List HidrawReport} (hserves : Serves linux x devices chosen reports) :
    ∃ enough, ∀ fuel, enough ≤ fuel →
      PlaysSender linux serde (.hello 1 clientName ["hid-fastlane/1"])
      (devices.map (·.summary)) pick
        (metaFor chosen) unbindFrame (reports.map (·.val))
        (behindAck unbindFrame (reports.map (·.val))).length
        ⟨((serveSession serde name).unrolled fuel).run, { input := [], env := x }⟩ (.ok ()) := by
  have hfits := handshake_fits hprints hclient hname hlist hstrings.busid
  have hpasses : ∀ msg ∈ handshakeMessages clientName name devices chosen,
      msg.Passes serde.control := fun msg h => ⟨hfits msg h, hround.control msg h⟩
  obtain ⟨enough, hfinished⟩ := exists_finished hserves
  refine ⟨enough, fun fuel hfuel => ?_⟩
  obtain ⟨t, ht, htenv, hresponds⟩ := responds hpasses hbusid hfound
    (t := { input := [], env := x }) rfl hserves.enumerate fuel
  have hbind : (bindFrame serde.bindRequest pick.busid).envelope.Fits := by
    rw [hbusid]
    exact Zerowire.bind_fits hprints hstrings.busid
  have hack := Zerowire.ack_fits hprints hstrings
  simp only [handshakeMessages, List.forall_mem_cons] at hpasses
  obtain ⟨hhello, hhelloAck, hlist, hdevices, hattach, hok, -⟩ := hpasses
  have hhandshake : Handshake serde.control (.hello 1 clientName ["hid-fastlane/1"])
      (.attach pick.busid "hid") ((helloAck name).envelope serde.control)
      ((deviceList devices).envelope serde.control) ((attachOk chosen).envelope serde.control)
      (devices.map (·.summary)) (.attachOk chosen.summary.busid 1) :=
    { hello := hhello
      listDevices := hlist
      attach := hbusid ▸ hattach
      helloAck := ⟨_, _, _, hhelloAck.carried⟩
      deviceList := hdevices.carried
      attached := hok.carried }
  -- the BIND, and all that follows it
  obtain ⟨x', hfinish⟩ := hfinished fuel hfuel
    (t.sent (ackFor serde chosen Zerowire.bindId).envelope.bytes) htenv
  have hacknowledged : Enough linux (LinuxSender.acknowledge serde chosen) _ Zerowire.bindId _ :=
    enough_acknowledge (hbusid ▸ hbind) hround.bindRequest hack ht
  have hstream := (hacknowledged.mapErr Stop.failed).bind hfinish
  have hbody := parseBindAckBody_encode (length_metaText_lt hprints hstrings) hround.bindAckMeta
    (descriptorFor (metaFor chosen).kind)
  have hop : (ackFor serde chosen Zerowire.bindId).op = .bindAck := rfl
  have hunbind : unbindFrame.op = .unbind := rfl
  rw [← hbusid] at hstream
  refine .of_streams hhandshake hresponds hbind hop hbody hunbind ?_ (hstream.moves_ret ?_)
  · rw [streamEnvelopes, List.forall_mem_cons, List.forall_mem_append, List.forall_mem_singleton]
    exact ⟨hack, reportEnvelopes_fit 0 reports, unbind_fits⟩
  · rw [streamEnvelopes, List.flatMap_cons]
    exact List.append_assoc _ _ _

end LinuxSender

/-! ### The loopback -/

/-- **The mock sender and the receiver.**  In whatever order the two move, both return; what has
been handed to `apply_report` are the reports that were asked for.  They have been sent with the
numbers 1, 2, 3, …, of 16 bits each, and no jump has been noted, also when these start again from
zero. -/
theorem mockSender_delivers {serde : Serde} (hprints : serde.Prints) {clientName : String}
    (hclient : SerdeJson.Short clientName)
    {args : MockSender.Args} (hbusid : SerdeJson.Short args.busid)
    (hround : MockSender.RoundTrips serde (.hello 1 clientName ["hid-fastlane/1"]) args)
    (hmode : args.mode = .hid) (hends : args.persistent = false) {wanted : Option String}
    (hwanted : ∀ b ∈ wanted, b = args.busid) {τ : Type} (env : Env fixtureSig τ) (x : τ) (fuel : ℕ)
    {σ : Type} {desktop : Desktop σ} (hworks : desktop.Works) (statics : ReportState) (u : σ) :
    ∃ enough, ∀ rounds, enough ≤ rounds → ∃ s' t',
      Ends (Net.Step desktop.logged env)
        ⟨⟨((runReceive serde clientName wanted).unrolled rounds).run,
            { input := [], env := ([], statics, [], u) }⟩,
          ⟨(MockSender.runSession serde args fuel).run, { input := [], env := x }⟩⟩
        ⟨⟨.ret (.ok .unbound), s'⟩, ⟨.ret (.ok ()), t'⟩⟩ ∧
      appliedBodies s'.env.1 = List.replicate args.reports.toNat MockSender.reportBody ∧
        reportsSent t'.output =
          numbered (List.replicate args.reports.toNat MockSender.reportBody) ∧
        jumpsOf s'.env.1 = [] := by
  have hhello := hprints.fits_hello hclient (by decide : (SerdeJson.array
    (["hid-fastlane/1"].map SerdeJson.quoted)).length ≤ 2 ^ 15)
  have hplays := MockSender.plays env hprints hhello hbusid hround hmode hends fuel x
  obtain ⟨enough, hreceived⟩ :=
    hplays.received_all le_rfl rfl (MockSender.pickHidDevice_device hmode hwanted) rfl hworks statics u
  refine ⟨enough, fun rounds hrounds => ?_⟩
  obtain ⟨s', t', hends, hmade, hsent⟩ := hreceived rounds hrounds
  obtain ⟨happlied, hjumps⟩ := of_made_binding hmade
  exact ⟨s', t', hends, happlied, hsent, hjumps⟩

/-- The JSON of what is said with the mock sender. -/
def mockSerde (hello : ControlMessage) (args : MockSender.Args) : Serde where
  control := .printing SerdeJson.controlText
    ((MockSender.theOffer args).messages hello (.attachOk args.busid 1))
  bindRequest := .printing SerdeJson.bindRequestText []
  bindAckMeta := .printing SerdeJson.bindAckText [MockSender.mouseMeta args.busid]

theorem mockSender_delivers_three :
    ∃ enough, ∀ rounds, enough ≤ rounds → ∃ s' t',
      Ends (Net.Step idleDesktop.logged restless)
        ⟨⟨((runReceive (mockSerde (.hello 1 "linux-cli" ["hid-fastlane/1"]) { reports := 3 }) "linux-cli"
            none).unrolled rounds).run, { input := [], env := ([], {}, [], ()) }⟩,
          ⟨(MockSender.runSession (mockSerde (.hello 1 "linux-cli" ["hid-fastlane/1"]) { reports := 3 })
            { reports := 3 } 0).run, { input := [], env := () }⟩⟩
        ⟨⟨.ret (.ok .unbound), s'⟩, ⟨.ret (.ok ()), t'⟩⟩ ∧
      appliedBodies s'.env.1 = [[0, 3, 0, 0], [0, 3, 0, 0], [0, 3, 0, 0]] ∧
        reportsSent t'.output = [⟨.reportIn, 1, 1, [0, 3, 0, 0]⟩, ⟨.reportIn, 1, 2, [0, 3, 0, 0]⟩,
          ⟨.reportIn, 1, 3, [0, 3, 0, 0]⟩] ∧
        jumpsOf s'.env.1 = [] :=
  mockSender_delivers ⟨fun _ => rfl, fun _ => rfl, fun _ => rfl⟩ (by decide) (by decide)
    ⟨by decide +kernel, by decide⟩ rfl rfl (by simp) restless () 0 ⟨fun _ _ => rfl, fun _ => rfl⟩ {} ()

/-- **The mock sender and the capture programs**, over TCP and over TLS.  In whatever order the two
move, both return, and the file says what the mock sender has sent: its BIND_ACK, the reports,
numbered one by one, the UNBIND and how many reports there were. -/
theorem mockSender_captured {serde : Serde} (hprints : serde.Prints) {args : MockSender.Args}
    (hbusid : SerdeJson.Short args.busid)
    (hround : MockSender.RoundTrips serde (.hello 1 "zerowire-test/0" ["hid-fastlane/1"]) args)
    (hmode : args.mode = .hid) (hends : args.persistent = false)
    (debugStr : String → String) {τ : Type}
    (env : Env fixtureSig τ) (x : τ) (fuel : ℕ)
    {rounds : ℕ} (hrounds : args.reports.toNat + 2 ≤ rounds) :
    (∃ s' t',
      Ends (Net.Step outputFile env)
        ⟨⟨((runSimulateSourceWith serde debugStr).unrolled rounds).run, { input := [], env := none }⟩,
          ⟨(MockSender.runSession serde args fuel).run, { input := [], env := x }⟩⟩
        ⟨⟨.ret (.ok ()), s'⟩, ⟨.ret (.ok ()), t'⟩⟩ ∧
      s'.env = some (capturedLines debugStr (MockSender.mouseMeta args.busid)
        (List.replicate args.reports.toNat MockSender.reportBody))) ∧
    (∃ s' t',
      Ends (Net.Step outputFile env)
        ⟨⟨((hidSimulateSourceLoop serde debugStr).unrolled rounds).run, { input := [], env := none }⟩,
          ⟨(MockSender.runSession serde args fuel).run, { input := [], env := x }⟩⟩
        ⟨⟨.ret (.ok ()), s'⟩, ⟨.ret (.ok ()), t'⟩⟩ ∧
      s'.env = some (capturedLines debugStr (MockSender.mouseMeta args.busid)
        (List.replicate args.reports.toNat MockSender.reportBody))) := by
  have hhello := hprints.fits_hello (by decide : SerdeJson.Short "zerowire-test/0")
    (by decide : (SerdeJson.array (["hid-fastlane/1"].map SerdeJson.quoted)).length ≤ 2 ^ 15)
  have hplays := MockSender.plays env hprints hhello hbusid hround hmode hends fuel x
  have hpick := MockSender.pickHidDevice_device hmode (by simp : ∀ b ∈ (none : Option String), b = args.busid)
  have hcount : (List.replicate args.reports.toNat MockSender.reportBody).length + 2 ≤ rounds := by
    rwa [List.length_replicate]
  exact hplays.captured_all debugStr le_rfl hpick hcount

theorem mockSender_captured_two :
    (∃ s' t',
      Ends (Net.Step outputFile restless)
        ⟨⟨((runSimulateSourceWith (mockSerde (.hello 1 "zerowire-test/0" ["hid-fastlane/1"]) { reports := 2 })
            id).unrolled 4).run, { input := [], env := none }⟩,
          ⟨(MockSender.runSession (mockSerde (.hello 1 "zerowire-test/0" ["hid-fastlane/1"]) { reports := 2 })
            { reports := 2 } 0).run, { input := [], env := () }⟩⟩
        ⟨⟨.ret (.ok ()), s'⟩, ⟨.ret (.ok ()), t'⟩⟩ ∧
      s'.env = some ["bind_ack kind=Mouse name=zerowire-mock mouse", "report seq=1 bytes=[0, 3, 0, 0]",
        "report seq=2 bytes=[0, 3, 0, 0]", "unbind", "summary bind_ack=true reports=2"]) ∧
    (∃ s' t',
      Ends (Net.Step outputFile restless)
        ⟨⟨((hidSimulateSourceLoop (mockSerde (.hello 1 "zerowire-test/0" ["hid-fastlane/1"]) { reports := 2 })
            id).unrolled 4).run, { input := [], env := none }⟩,
          ⟨(MockSender.runSession (mockSerde (.hello 1 "zerowire-test/0" ["hid-fastlane/1"]) { reports := 2 })
            { reports := 2 } 0).run, { input := [], env := () }⟩⟩
        ⟨⟨.ret (.ok ()), s'⟩, ⟨.ret (.ok ()), t'⟩⟩ ∧
      s'.env = some ["bind_ack kind=Mouse name=zerowire-mock mouse", "report seq=1 bytes=[0, 3, 0, 0]",
        "report seq=2 bytes=[0, 3, 0, 0]", "unbind", "summary bind_ack=true reports=2"]) :=
  mockSender_captured ⟨fun _ => rfl, fun _ => rfl, fun _ => rfl⟩ (by decide)
    ⟨by decide +kernel, by decide⟩ rfl rfl id restless () 0 (by decide)

/-- **The sender for Linux and the capture programs**: what it has read from the device is in the
file. -/
theorem linuxSender_captured {serde : Serde} (hprints : serde.Prints) {name : String}
    (hname : SerdeJson.Short name) (devices : List ExposedHidraw) (chosen : ExposedHidraw)
    (hlist : (serde.control.toVec (LinuxSender.deviceList devices)).length ≤ maxPayload)
    (hchosen : chosenDevice devices = some chosen) (hstrings : chosen.Short)
    (hround : RoundTrips serde "zerowire-test/0" name devices chosen) (debugStr : String → String)
    {σ : Type} {linux : Env linuxSig σ} {x : σ} (reports : List HidrawReport)
    (hserves : Serves linux x devices chosen reports) :
    ∃ enough, ∀ fuel, enough ≤ fuel → ∀ rounds, reports.length + 2 ≤ rounds →
      (∃ s' t',
        Ends (Net.Step outputFile linux)
          ⟨⟨((runSimulateSourceWith serde debugStr).unrolled rounds).run, { input := [], env := none }⟩,
            ⟨((LinuxSender.serveSession serde name).unrolled fuel).run, { input := [], env := x }⟩⟩
          ⟨⟨.ret (.ok ()), s'⟩, ⟨.ret (.ok ()), t'⟩⟩ ∧
        s'.env = some (capturedLines debugStr (LinuxSender.metaFor chosen) (reports.map (·.val)))) ∧
      (∃ s' t',
        Ends (Net.Step outputFile linux)
          ⟨⟨((hidSimulateSourceLoop serde debugStr).unrolled rounds).run, { input := [], env := none }⟩,
            ⟨((LinuxSender.serveSession serde name).unrolled fuel).run, { input := [], env := x }⟩⟩
          ⟨⟨.ret (.ok ()), s'⟩, ⟨.ret (.ok ()), t'⟩⟩ ∧
        s'.env = some (capturedLines debugStr (LinuxSender.metaFor chosen) (reports.map (·.val)))) := by
  obtain ⟨pick, hpick, hbusid, hfound⟩ := chosenDevice_eq_some hchosen
  obtain ⟨enough, hplays⟩ :=
    LinuxSender.plays hprints (by decide : SerdeJson.Short "zerowire-test/0")
    hname hlist hbusid hfound hstrings hround hserves
  refine ⟨enough, fun fuel hfuel rounds hrounds => ?_⟩
  have hcount : (reports.map (·.val)).length + 2 ≤ rounds := by rwa [List.length_map]
  exact (hplays fuel hfuel).captured_all debugStr le_rfl hpick hcount

/-- The JSON of what is said of the mouse to a capture program. -/
def clickCaptureSerde : Serde where
  control := .printing SerdeJson.controlText
    (handshakeMessages "zerowire-test/0" "desk" cameraAndMouse theMouse)
  bindRequest := .printing SerdeJson.bindRequestText [⟨"1-2", "input"⟩]
  bindAckMeta := .printing SerdeJson.bindAckText [LinuxSender.metaFor theMouse]

theorem linuxSender_captured_click :
    ∃ enough, ∀ fuel, enough ≤ fuel → ∀ rounds, 4 ≤ rounds →
      (∃ s' t',
        Ends (Net.Step outputFile mouseComputer)
          ⟨⟨((runSimulateSourceWith clickCaptureSerde id).unrolled rounds).run,
              { input := [], env := none }⟩,
            ⟨((LinuxSender.serveSession clickCaptureSerde "desk").unrolled fuel).run,
              { input := [], env := [.report ⟨[1, 0, 0], by decide⟩, .wouldBlock,
                .report ⟨[0, 0, 0], by decide⟩] }⟩⟩
          ⟨⟨.ret (.ok ()), s'⟩, ⟨.ret (.ok ()), t'⟩⟩ ∧
        s'.env = some (capturedLines id (LinuxSender.metaFor theMouse) [[1, 0, 0], [0, 0, 0]])) ∧
      (∃ s' t',
        Ends (Net.Step outputFile mouseComputer)
          ⟨⟨((hidSimulateSourceLoop clickCaptureSerde id).unrolled rounds).run,
              { input := [], env := none }⟩,
            ⟨((LinuxSender.serveSession clickCaptureSerde "desk").unrolled fuel).run,
              { input := [], env := [.report ⟨[1, 0, 0], by decide⟩, .wouldBlock,
                .report ⟨[0, 0, 0], by decide⟩] }⟩⟩
          ⟨⟨.ret (.ok ()), s'⟩, ⟨.ret (.ok ()), t'⟩⟩ ∧
        s'.env = some (capturedLines id (LinuxSender.metaFor theMouse) [[1, 0, 0], [0, 0, 0]])) :=
  linuxSender_captured ⟨fun _ => rfl, fun _ => rfl, fun _ => rfl⟩ (by decide) cameraAndMouse theMouse
    (by decide +kernel) (by decide) ⟨by decide, by decide, by decide⟩
    ⟨by decide +kernel, by decide, by decide⟩ id click
    ⟨rfl, rfl, rfl, .report rfl (.wouldBlock rfl (.report rfl (.eof rfl)))⟩

end Zerowire

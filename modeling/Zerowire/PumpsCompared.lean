/-
**The fixture and the phone.**

The fixture (`desktop-linux/src/urb_pump.rs`) stands in for the phone
(`android-sender/.../UsbIpHost.kt`) in the tests.  What a test of the fixture says about the phone
rests on two agreements: that the two dispatch a command alike, and that they write the same bytes
for the same outcome.  Neither holds in general.  The fixture finds the first endpoint with an
address and the phone keeps the last one; and the fixture repeats direction and endpoint of the
command in its reply, where the phone leaves zeros.

Main definitions:

* `Zerowire.Describes` — an endpoint of the fixture and one of the USB API are the same;
* `Zerowire.SameAction` — the two dispatches come to the same thing.

Main results:

* `Zerowire.replies_identical_iff` — **when the two write the same bytes**;
* `Zerowire.UsbIpHost.tables_of_init` — the tables hold the last endpoint with an address;
* `Zerowire.dispatch_alike_iff` — **when the two dispatch alike.**
-/

import Zerowire.FrameCodecs
import Zerowire.UrbPumpRun
import Zerowire.UrbStream

set_option relaxedAutoImplicit false
set_option autoImplicit false

namespace Zerowire

open Bytes Program Jvm UsbIpFrame

/-! ### The replies -/

/-- The header of a RET_SUBMIT and its data can be told from the packet. -/
theorem RetSubmit.packet_inj {r r' : RetSubmit} {data data' : List UInt8}
    (h : r.encode ++ data = r'.encode ++ data') : r = r' := by
  have hparse := congrArg RetSubmit.parse h
  rw [RetSubmit.parse_encode, RetSubmit.parse_encode] at hparse
  exact Except.ok.inj hparse

/-- The header of a RET_UNLINK can be told from the packet. -/
theorem RetUnlink.packet_inj {r r' : RetUnlink} (h : r.encode = r'.encode) : r = r' := by
  have hparse := congrArg (fun packet => RetUnlink.parse (packet ++ [])) h
  simp only [RetUnlink.parse_encode] at hparse
  exact Except.ok.inj hparse

section Replies

variable {X : Sig} {τ τ' : Type} (fixture : Env X τ) (phone : Env usbSig τ') (host : UsbIpHost)
  (s : Io τ) (s' : Io (Finset Int32 × τ'))

/-- The bytes of an envelope that respects the cap; nothing if it does not. -/
def Envelope.capped (e : Envelope) : List UInt8 := if e.Fits then e.bytes else []

theorem output_sendEnvelope (channel : Channel) (payload : List UInt8) :
    (exec fixture (Tls.sendEnvelope channel payload) s).2.output =
      s.output ++ (⟨channel, payload⟩ : Envelope).capped := by
  rw [Tls.sendEnvelope, Envelope.capped]
  by_cases hfits : (⟨channel, payload⟩ : Envelope).Fits
  · rw [exec_sendEnvelopeWith fixture _ hfits, if_pos hfits]
  · rw [exec_sendEnvelopeWith_of_not_fits fixture _ hfits, if_neg hfits, List.append_nil]

/-- The bytes of a reply; nothing if there is none. -/
def bytesOfSent (reply : Option Envelope) : List UInt8 := (reply.map Envelope.bytes).getD []

theorem output_sent {σ : Type} (reply : Option Envelope) (s : Io σ) :
    (UsbIpHost.sent reply s).2.output = s.output ++ bytesOfSent reply := by
  cases reply with
  | none => exact (List.append_nil _).symm
  | some e => rfl

/-- An envelope is never empty. -/
theorem Envelope.bytes_ne_nil (e : Envelope) : e.bytes ≠ [] := by simp [Envelope.bytes, magic]

/-- The bytes of the two RET_SUBMITs with an outcome. -/
theorem submit_bytes_iff (cmd : CmdSubmit) (status : Int32) (actualLength : UInt32)
    {data : List UInt8} (hdata : data.length < 2 ^ 31)
    (hout : cmd.direction = urbDirOut → data = []) :
    (⟨.usbip, UsbipFrame.encode ⟨host.importId.toUInt32,
        (retSubmitOf cmd ⟨status, actualLength, data⟩).encode ++ data⟩⟩ : Envelope).capped =
      bytesOfSent (host.replyOf cmd.seqnum.toInt32 ⟨status, actualLength.toInt32, data⟩) ↔
    cmd.direction = urbDirOut ∧ cmd.ep = 0 ∨ 2 ^ 31 ≤ 52 + data.length := by
  have hfits (ret : RetSubmit) : (⟨.usbip, UsbipFrame.encode ⟨host.importId.toUInt32,
      ret.encode ++ data⟩⟩ : Envelope).Fits ↔ 52 + data.length ≤ 2 ^ 20 := by
    rw [Envelope.Fits, UsbipFrame.encode, List.length_append, List.length_append, length_toBe32,
      RetSubmit.length_encode, urbHeaderLen, maxPayload]
    omega
  rw [Envelope.capped]
  -- the phone computes the size as an `Int`; where that wraps around it sends nothing
  by_cases hwraps : 52 + data.length < 2 ^ 31
  · rw [UsbIpHost.replyOf_of_le host _ hwraps, bytesOfSent, Option.map_some, Option.getD_some,
      UsbIpHost.envelopeOf, UsbIpHost.retSubmitPacket, UInt32.toUInt32_toInt32,
      UInt32.toUInt32_toInt32]
    have hsize (ret : RetSubmit) : 4 + (ret.encode ++ data).length < 2 ^ 32 := by
      rw [List.length_append, RetSubmit.length_encode, urbHeaderLen]
      omega
    by_cases hsame : cmd.direction = urbDirOut ∧ cmd.ep = 0
    · refine iff_of_true ?_ (Or.inl hsame)
      rw [if_pos ((hfits _).2 (by rw [hout hsame.1, List.length_nil]; decide)), retSubmitOf, hsame.1,
        hsame.2]
      rfl
    · refine iff_of_false ?_ (not_or.2 ⟨hsame, by omega⟩)
      intro heq
      split_ifs at heq with hcap
      · -- the packets would have the same direction and endpoint
        have hret := RetSubmit.packet_inj (packet_inj (hsize _) (hsize _) heq)
        exact hsame ⟨congrArg RetSubmit.direction hret, congrArg RetSubmit.ep hret⟩
      · exact Envelope.bytes_ne_nil _ heq.symm
  · rw [UsbIpHost.replyOf_of_not_le host _ hwraps, if_neg (by rw [hfits]; omega)]
    exact iff_of_true rfl (Or.inr (by omega))

/-- The bytes of the two RET_UNLINKs. -/
theorem unlink_bytes_iff (u : CmdUnlink) :
    (⟨.usbip, UsbipFrame.encode ⟨host.importId.toUInt32, (retUnlinkOf u 0).encode⟩⟩ :
        Envelope).capped =
      (host.envelopeOf (UsbIpHost.retUnlinkPacket u.seqnum.toInt32)).bytes ↔
    u.direction = urbDirOut ∧ u.ep = 0 := by
  have hfits (ret : RetUnlink) : (⟨.usbip, UsbipFrame.encode ⟨host.importId.toUInt32,
      ret.encode⟩⟩ : Envelope).Fits := by
    rw [Envelope.Fits, UsbipFrame.encode, List.length_append, length_toBe32,
      RetUnlink.length_encode]
    decide
  have hsize (ret : RetUnlink) : 4 + ret.encode.length < 2 ^ 32 := by
    rw [RetUnlink.length_encode]
    decide
  rw [Envelope.capped, if_pos (hfits _), UsbIpHost.envelopeOf, UsbIpHost.retUnlinkPacket,
    UInt32.toUInt32_toInt32]
  constructor
  · intro heq
    have hret := RetUnlink.packet_inj (packet_inj (hsize _) (hsize _) heq)
    exact ⟨congrArg RetUnlink.direction hret, congrArg RetUnlink.ep hret⟩
  · rintro ⟨hdir, hep⟩
    rw [retUnlinkOf, hdir, hep]
    rfl

/-- **When the two write the same bytes**, for the same outcome of a CMD_SUBMIT and for the same
CMD_UNLINK. -/
theorem replies_identical_iff (cmd : CmdSubmit) (status : Int32) (actualLength : UInt32)
    (data : Jvm.Array) (hout : cmd.direction = urbDirOut → data.1 = []) (u : CmdUnlink) :
    (∃ desktop android,
      (exec fixture (sendRetSubmit host.importId.toUInt32 cmd ⟨status, actualLength, data.1⟩)
        s).2.output = s.output ++ desktop ∧
      (exec phone.withRef (host.sendRetSubmit cmd.signed.seqnum status actualLength.toInt32 data.1)
        s').2.output = s'.output ++ android ∧
      (desktop = android ↔
        cmd.direction = urbDirOut ∧ cmd.ep = 0 ∨ 2 ^ 31 ≤ 52 + data.1.length)) ∧
    ∃ desktop android,
      (exec fixture (sendRetUnlink host.importId.toUInt32 u 0) s).2.output = s.output ++ desktop ∧
      (exec phone.withRef (host.handleUnlink u.encode) s').2.output = s'.output ++ android ∧
      (desktop = android ↔ u.direction = urbDirOut ∧ u.ep = 0) := by
  constructor
  · refine ⟨_, _, output_sendEnvelope fixture s _ _, ?_, submit_bytes_iff host cmd status
      actualLength data.2 hout⟩
    rw [UsbIpHost.exec_sendRetSubmit host phone s' _ _ _ data.2, output_sent]
    rfl
  · have hparse := CmdUnlink.parse_encode u []
    rw [List.append_nil] at hparse
    obtain ⟨hop, hu⟩ := (parse_header_iff (Nat.le_of_eq u.length_encode.symm)
      (CmdUnlink.parse_eq u.encode)).1 hparse
    refine ⟨_, _, output_sendEnvelope fixture s _ _, ?_, unlink_bytes_iff host u⟩
    rw [UsbIpHost.exec_handleUnlink host phone s' u.length_encode hop]
    have hseq : (UsbIpFrame.CmdUnlink.ofHeader u.encode).seqnum = u.seqnum.toInt32 :=
      congrArg (fun v : CmdUnlink => v.seqnum.toInt32) hu
    simp only [hseq]

end Replies

/-- A phone without a device. -/
def idleHost : UsbIpHost := ⟨7, fun _ => none, fun _ => none, []⟩

/-- A command to read two bytes from endpoint 1. -/
def readTwo : CmdSubmit := ⟨1, 0, urbDirIn, 1, 0, 2, 0, 0, 0, .zero⟩

/-- The two replies to an unlink of endpoint 0. -/
theorem replies_identical_unlink :
    ∃ desktop android,
      (exec Env.none (sendRetUnlink idleHost.importId.toUInt32 ⟨2, 0, 0, 0, 1⟩ 0)
        ⟨[], [], [], ()⟩).2.output = [] ++ desktop ∧
      (exec (Env.withRef UsbIpHost.fullTransfers)
        (idleHost.handleUnlink (CmdUnlink.encode ⟨2, 0, 0, 0, 1⟩))
        ⟨[], [], [], (∅, ())⟩).2.output = [] ++ android ∧
      desktop = android := by
  obtain ⟨desktop, android, hdesktop, handroid, hiff⟩ := (replies_identical_iff Env.none
    UsbIpHost.fullTransfers idleHost ⟨[], [], [], ()⟩ ⟨[], [], [], (∅, ())⟩ readTwo 0 0
    ⟨[], by decide⟩ (fun _ => rfl) ⟨2, 0, 0, 0, 1⟩).2
  exact ⟨desktop, android, hdesktop, handroid, hiff.2 ⟨rfl, rfl⟩⟩

/-- The two replies to a bulk transfer of two bytes. -/
theorem readTwo_replies_differ :
    (exec Env.none (sendRetSubmit idleHost.importId.toUInt32 readTwo ⟨0, 2, [7, 9]⟩)
      ⟨[], [], [], ()⟩).2.output ≠
    (exec (Env.withRef UsbIpHost.fullTransfers)
      (idleHost.sendRetSubmit readTwo.signed.seqnum 0 2 [7, 9]) ⟨[], [], [], (∅, ())⟩).2.output := by
  rw [sendRetSubmit, output_sendEnvelope, UsbIpHost.exec_sendRetSubmit _ _ _ _ _ _ (by decide),
    output_sent, List.nil_append, List.nil_append]
  exact mt (submit_bytes_iff idleHost readTwo 0 2 (by decide) (by decide)).1 (by decide)

/-! ### The dispatch -/

/-- The code of a transfer type in `UsbConstants`. -/
def EndpointType.code : EndpointType → Int32
  | .control => 0
  | .isochronous => 1
  | .bulk => 2
  | .interrupt => 3

/-- **The same endpoint**: address and transfer type. -/
def Describes (e : FakeEndpoint) (ep : UsbEndpoint) : Prop :=
  ep.address = Int32.ofNat e.address.toNat ∧ ep.type = e.xferType.code

/-- **The same action**: a control transfer, a transfer on the same endpoint, or the same status. -/
def SameAction : DispatchAction → UsbIpHost.Plan → Prop
  | .control, .transfer _ (.controlTransfer _ _ _ _) _ => True
  | .bulk e, .transfer _ (.bulkTransfer ep) _ => Describes e ep
  | .status status, .status status' => status = status'
  | _, _ => False

/-- The address of an endpoint, as the phone computes it. -/
theorem epAddress_signed (cmd : CmdSubmit) :
    UsbIpHost.epAddress cmd.signed.direction cmd.signed.ep = Int32.ofNat (addressOf cmd).toNat := by
  have hdir : cmd.signed.direction = dirIn ↔ cmd.direction = urbDirIn := toInt32_eq_iff
  have hmask : (0x0F : UInt32).toNat = 2 ^ 4 - 1 := rfl
  have hmask' : (0x0F : UInt8).toNat = 2 ^ 4 - 1 := rfl
  have hlow : (cmd.signed.ep &&& 0x0F).toUInt32.toNat = (cmd.ep.toUInt8 &&& 0x0F).toNat := by
    rw [Int32.toUInt32_and, CmdSubmit.signed, UInt32.toUInt32_toInt32, UInt32.toNat_and,
      UInt8.toNat_and, UInt32.toNat_toUInt8, show Int32.toUInt32 0x0F = 0x0F from rfl, hmask, hmask',
      Nat.and_two_pow_sub_one_eq_mod, Nat.and_two_pow_sub_one_eq_mod]
    omega
  rw [UsbIpHost.epAddress, addressOf]
  simp only [hdir]
  generalize hhigh : (if cmd.direction = urbDirIn then (0x80 : UInt8) else 0) = high
  have hhigh' : (if cmd.direction = urbDirIn then (0x80 : Int32) else 0).toUInt32.toNat =
      high.toNat := by
    rw [← hhigh]
    split_ifs
    · rfl
    · rfl
  generalize (if cmd.direction = urbDirIn then (0x80 : Int32) else 0) = high' at hhigh'
  have hlt := (high ||| cmd.ep.toUInt8 &&& 0x0F).toNat_lt
  apply Int32.toBitVec_inj.1
  apply BitVec.eq_of_toNat_eq
  rw [Int32.toNat_toBitVec, Int32.toNat_toBitVec, Int32.toUInt32_or, UInt32.toNat_or, hhigh', hlow,
    Int32.toUInt32_ofNat', UInt32.toNat_ofNat', Nat.mod_eq_of_lt (by omega), UInt8.toNat_or]

namespace UsbIpHost

/-- The last endpoint with an address. -/
def lastEndpoint (eps : List UsbEndpoint) (addr : Int32) : Option UsbEndpoint :=
  eps.reverse.find? fun ep => ep.address = addr

/-- **The tables of the constructor**: the last endpoint with an address, and its type. -/
def Tables (host : UsbIpHost) (eps : List UsbEndpoint) : Prop :=
  ∀ addr, host.endpointsByAddr addr = lastEndpoint eps addr ∧
    host.endpointTypeByAddr addr = (lastEndpoint eps addr).map UsbEndpoint.type

theorem lastEndpoint_append (eps eps' : List UsbEndpoint) (addr : Int32) :
    lastEndpoint (eps ++ eps') addr = (lastEndpoint eps' addr).or (lastEndpoint eps addr) := by
  rw [lastEndpoint, List.reverse_append, List.find?_append]
  rfl

/-- Entering an endpoint. -/
theorem Tables.addEndpoint {host : UsbIpHost} {eps : List UsbEndpoint} (h : host.Tables eps)
    (ep : UsbEndpoint) : (UsbIpHost.addEndpoint host ep).Tables (eps ++ [ep]) := by
  intro addr
  obtain ⟨hep, htype⟩ := h addr
  rw [lastEndpoint_append, UsbIpHost.addEndpoint]
  simp only
  by_cases haddr : addr = ep.address
  · have hlast : lastEndpoint [ep] addr = some ep := by simp [lastEndpoint, haddr]
    rw [if_pos haddr, if_pos haddr, hlast]
    exact ⟨rfl, rfl⟩
  · have hlast : lastEndpoint [ep] addr = none := by simp [lastEndpoint, Ne.symm haddr]
    rw [if_neg haddr, if_neg haddr, hlast, Option.none_or]
    exact ⟨hep, htype⟩

theorem Tables.foldl {host : UsbIpHost} {eps : List UsbEndpoint} (h : host.Tables eps)
    (eps' : List UsbEndpoint) :
    (eps'.foldl UsbIpHost.addEndpoint host).Tables (eps ++ eps') := by
  induction eps' generalizing host eps with
  | nil => rwa [List.append_nil]
  | cons ep eps' ih =>
      have hrest := ih (h.addEndpoint ep)
      rwa [List.append_assoc] at hrest

variable {τ : Type} (env : Env usbSig τ)

/-- Claiming an interface leaves the tables alone. -/
theorem exec_claim_tables {ε : Type} (forceClaim : Bool) {host : UsbIpHost} {eps : List UsbEndpoint}
    (h : host.Tables eps) (iface : UsbInterface) (s : Io τ) :
    ∃ host' s', exec env (initInterface.claim forceClaim host iface : Act usbSig ε UsbIpHost) s =
      (.ok host', s') ∧ host'.Tables eps := by
  rw [initInterface.claim]
  cases forceClaim with
  | false => exact ⟨host, s, rfl, h⟩
  | true =>
      have hcall : exec env (claimInterface iface true : Act usbSig ε Bool) s =
          (.ok (env (.claimInterface iface true) s.env).1,
            { s with env := (env (.claimInterface iface true) s.env).2 }) := rfl
      rw [if_pos rfl, exec_bind_ok hcall, exec_ite, exec_pure, exec_pure]
      rcases (env (.claimInterface iface true) s.env).1 with _ | _
      · exact ⟨host, _, if_neg Bool.false_ne_true, h⟩
      · exact ⟨_, _, if_pos rfl, h⟩

/-- **The tables hold the last endpoint with an address.** -/
theorem exec_init_tables {ε : Type} (forceClaim : Bool) (device : List UsbInterface)
    {host : UsbIpHost} {eps : List UsbEndpoint} (h : host.Tables eps) (s : Io τ) :
    ∃ host' s', exec env (initFrom forceClaim host device : Act usbSig ε UsbIpHost) s =
      (.ok host', s') ∧ host'.Tables (eps ++ device.flatMap UsbInterface.endpoints) := by
  induction device generalizing host eps s with
  | nil =>
      refine ⟨host, s, rfl, ?_⟩
      rwa [List.flatMap_nil, List.append_nil]
  | cons iface rest ih =>
      obtain ⟨host₁, s₁, hx, h₁⟩ := exec_claim_tables (ε := ε) env forceClaim h iface s
      obtain ⟨host₂, s₂, hx', h₂⟩ := ih (h₁.foldl iface.endpoints) s₁
      refine ⟨host₂, s₂, ?_, ?_⟩
      · rw [initFrom, initInterface, exec_bind_ok (exec_bind_ok hx)]
        exact hx'
      · rwa [List.flatMap_cons, ← List.append_assoc]

/-- The tables behind the constructor. -/
theorem tables_of_init {ifaces : List UsbInterface} {importId : Int32} {forceClaim : Bool}
    {host : UsbIpHost} {s₀ s₁ : Io τ}
    (h : exec env (init ifaces importId forceClaim : Act usbSig Empty UsbIpHost) s₀ =
      (.ok host, s₁)) : host.Tables (ifaces.flatMap UsbInterface.endpoints) := by
  have hempty : (⟨importId, fun _ => none, fun _ => none, []⟩ : UsbIpHost).Tables [] :=
    fun _ => ⟨rfl, rfl⟩
  obtain ⟨host', s', hx, htables⟩ := exec_init_tables (ε := Empty) env forceClaim ifaces hempty s₀
  obtain rfl : host = host' := Except.ok.inj (Prod.mk.inj (h.symm.trans hx)).1
  rwa [List.nil_append] at htables

end UsbIpHost

/-! ### The two dispatches -/

theorem ofNat_toNat_inj {a b : UInt8} :
    Int32.ofNat a.toNat = Int32.ofNat b.toNat ↔ a = b := by
  have ha := a.toNat_lt
  have hb := b.toNat_lt
  constructor
  · intro h
    have htoInt := congrArg Int32.toInt h
    rw [Int32.toInt_ofNat_of_lt (by omega), Int32.toInt_ofNat_of_lt (by omega)] at htoInt
    apply UInt8.toNat_inj.1
    omega
  · rintro rfl
    rfl

/-- Looking for an address in two lists of the same endpoints. -/
theorem find_describes {eps : List FakeEndpoint} {eps' : List UsbEndpoint}
    (h : List.Forall₂ Describes eps eps') (addr : UInt8) :
    (eps.find? (fun e => e.address == addr) = none ∧
      eps'.find? (fun ep => ep.address = Int32.ofNat addr.toNat) = none) ∨
    ∃ e ep, eps.find? (fun e => e.address == addr) = some e ∧
      eps'.find? (fun ep => ep.address = Int32.ofNat addr.toNat) = some ep ∧ Describes e ep := by
  induction h with
  | nil => exact Or.inl ⟨rfl, rfl⟩
  | @cons e ep eps eps' hsame _ ih =>
      have haddr : ep.address = Int32.ofNat addr.toNat ↔ e.address = addr := by
        rw [hsame.1, ofNat_toNat_inj]
      by_cases hfound : e.address = addr
      · refine Or.inr ⟨e, ep, ?_, ?_, hsame⟩
        · rw [List.find?_cons_of_pos (by simpa using hfound)]
        · rw [List.find?_cons_of_pos (by simpa using haddr.2 hfound)]
      · rw [List.find?_cons_of_neg (by simpa using hfound),
          List.find?_cons_of_neg (by simpa using mt haddr.1 hfound)]
        exact ih

theorem EndpointType.code_inj {t t' : EndpointType} (h : t.code = t'.code) : t = t' := by
  cases t <;> cases t' <;> first | rfl | exact absurd h (by decide)

/-- An endpoint of the USB API is the same as at most one of the fixture. -/
theorem Describes.unique {e e' : FakeEndpoint} {ep : UsbEndpoint} (h : Describes e ep)
    (h' : Describes e' ep) : e = e' := by
  obtain ⟨address, xferType⟩ := e
  obtain ⟨address', xferType'⟩ := e'
  obtain rfl : address = address' := ofNat_toNat_inj.1 (h.1.symm.trans h'.1)
  obtain rfl : xferType = xferType' := EndpointType.code_inj (h.2.symm.trans h'.2)
  rfl

/-- When the two do the same with the endpoints that they have found: they are one bulk or interrupt
endpoint, or the first is isochronous and the last is isochronous or a control endpoint. -/
theorem sameAction_found_iff {first last : FakeEndpoint} {ep : UsbEndpoint} (h : Describes last ep)
    (isIn : Bool) (timeout : Int32) :
    SameAction
        (match first.xferType with
        | .bulk | .interrupt => .bulk first
        | .isochronous => .status eOpNotSupp
        | .control => .control)
        (if last.xferType.code = xferBulk ∨ last.xferType.code = xferInt then
          .transfer isIn (.bulkTransfer ep) timeout
        else .status (-95)) ↔
      (first.xferType = .bulk ∨ first.xferType = .interrupt) ∧ last = first ∨
        first.xferType = .isochronous ∧
          (last.xferType = .isochronous ∨ last.xferType = .control) := by
  have hcode : (last.xferType.code = xferBulk ∨ last.xferType.code = xferInt) ↔
      last.xferType = .bulk ∨ last.xferType = .interrupt := by
    cases last.xferType <;> decide
  have hunique : Describes first ep ↔ last = first :=
    ⟨fun h' => Describes.unique h h', fun h' => h' ▸ h⟩
  simp only [hcode]
  by_cases hlastType : last.xferType = .bulk ∨ last.xferType = .interrupt
  · -- the phone transfers
    have hnot : ¬ (last.xferType = .isochronous ∨ last.xferType = .control) := by
      rcases hlastType with h | h
      · simp [h]
      · simp [h]
    rw [if_pos hlastType]
    cases hfirstType : first.xferType with
    | control => exact iff_of_false id (by simp)
    | isochronous => exact iff_of_false id (by simpa using hnot)
    | bulk => exact hunique.trans (by simp)
    | interrupt => exact hunique.trans (by simp)
  · -- the phone does not
    have hother : last.xferType = .isochronous ∨ last.xferType = .control := by
      cases hcases : last.xferType with
      | control => exact Or.inr rfl
      | isochronous => exact Or.inl rfl
      | bulk => exact absurd (Or.inl hcases) hlastType
      | interrupt => exact absurd (Or.inr hcases) hlastType
    have hne (h : first.xferType = .bulk ∨ first.xferType = .interrupt) : ¬ last = first :=
      fun heq => hlastType (heq ▸ h)
    rw [if_neg hlastType]
    cases hfirstType : first.xferType with
    | control => exact iff_of_false id (by simp)
    | isochronous => exact iff_of_true rfl (Or.inr ⟨rfl, hother⟩)
    | bulk => exact iff_of_false id (by simpa using hne (Or.inl hfirstType))
    | interrupt => exact iff_of_false id (by simpa using hne (Or.inr hfirstType))

/-- When the two come to the same action: the command goes to endpoint 0, or to an address that no
endpoint has, or the first and the last endpoint with its address are one bulk or interrupt
endpoint, or the first is isochronous and the last is isochronous or a control endpoint. -/
theorem sameAction_iff {τ : Type} (env : Env usbSig τ) {ifaces : List UsbInterface}
    {importId : Int32} {forceClaim : Bool} {host : UsbIpHost} {s₀ s₁ : Io τ}
    (hinit : exec env (UsbIpHost.init ifaces importId forceClaim : Act usbSig Empty UsbIpHost) s₀ =
      (.ok host, s₁)) {device : FakeDevice}
    (hsame : List.Forall₂ Describes device.endpoints (ifaces.flatMap UsbInterface.endpoints))
    (cmd : CmdSubmit) {cancelled : Finset Int32} (hnot : cmd.signed.seqnum ∉ cancelled) :
    SameAction (actionOf device cmd) (host.plan cancelled cmd.signed) ↔
      cmd.ep = 0 ∨ (∀ e ∈ device.endpoints, e.address ≠ addressOf cmd) ∨
      ∃ first last, device.endpoints.find? (fun e => e.address == addressOf cmd) = some first ∧
        device.endpoints.reverse.find? (fun e => e.address == addressOf cmd) = some last ∧
        ((first.xferType = .bulk ∨ first.xferType = .interrupt) ∧ last = first ∨
          first.xferType = .isochronous ∧
            (last.xferType = .isochronous ∨ last.xferType = .control)) := by
  obtain ⟨hep, htype⟩ := UsbIpHost.tables_of_init env hinit (Int32.ofNat (addressOf cmd).toNat)
  rw [UsbIpHost.lastEndpoint] at hep htype
  -- the fixture looks for the first endpoint with the address, the phone has kept the last one
  have hlast := find_describes (List.forall₂_reverse_iff.2 hsame) (addressOf cmd)
  generalize (ifaces.flatMap UsbInterface.endpoints).reverse.find? _ = found at hep htype hlast
  have hcontrol : cmd.signed.isControl = cmd.isControl := decide_eq_decide.2 toInt32_eq_iff
  rw [UsbIpHost.plan, if_neg hnot, actionOf, epAddress_signed, hep, htype, hcontrol]
  by_cases hzero : cmd.ep = 0
  · have htrue : cmd.isControl = true := decide_eq_true hzero
    rw [if_pos htrue, if_pos htrue]
    exact iff_of_true trivial (Or.inl hzero)
  have hfalse : ¬ cmd.isControl = true := by simpa [CmdSubmit.isControl] using hzero
  rw [if_neg hfalse, if_neg hfalse]
  rcases hlast with ⟨hnone, rfl⟩ | ⟨last, ep, hlast, rfl, hdescribes⟩
  · -- no endpoint has the address
    have habsent : ∀ e ∈ device.endpoints, e.address ≠ addressOf cmd := by
      intro e he
      simpa using List.find?_eq_none.1 hnone e (List.mem_reverse.2 he)
    have hendpoint : device.endpoint (addressOf cmd) = none := by
      rw [FakeDevice.endpoint, List.find?_eq_none]
      simpa using habsent
    rw [hendpoint]
    exact iff_of_true rfl (Or.inr (Or.inl habsent))
  have hmem : last ∈ device.endpoints ∧ last.address = addressOf cmd :=
    ⟨List.mem_reverse.1 (List.mem_of_find?_eq_some hlast), by simpa using List.find?_some hlast⟩
  obtain ⟨first, hfirst⟩ : ∃ first, device.endpoints.find? (fun e => e.address == addressOf cmd) =
      some first := by
    rw [← Option.isSome_iff_exists, List.find?_isSome]
    exact ⟨last, hmem.1, by simpa using hmem.2⟩
  have hendpoint : device.endpoint (addressOf cmd) = some first := hfirst
  have hthird {p : FakeEndpoint → FakeEndpoint → Prop} :
      (cmd.ep = 0 ∨ (∀ e ∈ device.endpoints, e.address ≠ addressOf cmd) ∨
        ∃ first' last',
          device.endpoints.find? (fun e => e.address == addressOf cmd) = some first' ∧
          device.endpoints.reverse.find? (fun e => e.address == addressOf cmd) = some last' ∧
          p first' last') ↔ p first last := by
    rw [hfirst, hlast]
    constructor
    · rintro (hep' | habsent | ⟨_, _, ⟨⟩, ⟨⟩, hp⟩)
      · exact absurd hep' hzero
      · exact absurd hmem.2 (habsent last hmem.1)
      · exact hp
    · intro hp
      exact Or.inr (Or.inr ⟨first, last, rfl, rfl, hp⟩)
  rw [hthird, hendpoint, Option.map_some, Option.getD_some, hdescribes.2]
  exact sameAction_found_iff hdescribes _ _

/-- **When the two dispatch alike**, after the constructor has been given the endpoints of the
fixture.  What each of them does with a command is what its action says. -/
theorem dispatch_alike_iff {τ : Type} (env : Env usbSig τ) {ifaces : List UsbInterface}
    {importId : Int32} {forceClaim : Bool} {host : UsbIpHost} {s₀ s₁ : Io τ}
    (hinit : exec env (UsbIpHost.init ifaces importId forceClaim : Act usbSig Empty UsbIpHost) s₀ =
      (.ok host, s₁)) {device : FakeDevice}
    (hsame : List.Forall₂ Describes device.endpoints (ifaces.flatMap UsbInterface.endpoints))
    (cmd : CmdSubmit) {s : Io (Finset Int32 × τ)} (hnot : cmd.signed.seqnum ∉ s.env.1)
    (outBody : List UInt8) :
    (dispatchSubmit device cmd outBody =
      match actionOf device cmd with
      | .control => executeControl device cmd outBody
      | .bulk ep => .ok (executeBulk cmd ep outBody)
      | .status status => .ok (.empty status)) ∧
    (exec env.withRef (UsbIpHost.handleSubmit.dispatch host cmd.signed outBody) s =
      let r := UsbIpHost.carryOut env cmd.signed outBody s.env.2 (host.plan s.env.1 cmd.signed)
      UsbIpHost.sent (r.1.bind (host.replyOf cmd.signed.seqnum))
        { s with env := (s.env.1, r.2) }) ∧
    (SameAction (actionOf device cmd) (host.plan s.env.1 cmd.signed) ↔
      cmd.ep = 0 ∨ (∀ e ∈ device.endpoints, e.address ≠ addressOf cmd) ∨
      ∃ first last, device.endpoints.find? (fun e => e.address == addressOf cmd) = some first ∧
        device.endpoints.reverse.find? (fun e => e.address == addressOf cmd) = some last ∧
        ((first.xferType = .bulk ∨ first.xferType = .interrupt) ∧ last = first ∨
          first.xferType = .isochronous ∧
            (last.xferType = .isochronous ∨ last.xferType = .control))) :=
  ⟨dispatchSubmit_eq device cmd outBody, host.exec_dispatch env s cmd.signed outBody hnot,
    sameAction_iff env hinit hsame cmd hnot⟩

/-- One bulk endpoint. -/
theorem dispatch_alike_bulkIn :
    SameAction (actionOf ⟨[], [], [⟨0x81, .bulk⟩]⟩ readTwo)
      (UsbIpHost.bulkInHost.plan ∅ readTwo.signed) := by
  have hinit : exec UsbIpHost.fullTransfers (UsbIpHost.init [⟨0, [UsbIpHost.bulkIn]⟩] 7 true :
      Act usbSig Empty UsbIpHost) ⟨[], [], [], ()⟩ = (.ok UsbIpHost.bulkInHost, ⟨[], [], [], ()⟩) :=
    rfl
  have hsame : List.Forall₂ Describes (FakeDevice.mk [] [] [⟨0x81, .bulk⟩]).endpoints
      ([⟨0, [UsbIpHost.bulkIn]⟩].flatMap UsbInterface.endpoints) :=
    .cons ⟨rfl, rfl⟩ .nil
  exact (dispatch_alike_iff UsbIpHost.fullTransfers hinit hsame readTwo
    (s := ⟨[], [], [], (∅, ())⟩) (Finset.notMem_empty _) []).2.2.2
      (Or.inr (Or.inr ⟨_, _, rfl, rfl, Or.inl ⟨Or.inl rfl, rfl⟩⟩))

/-- An endpoint that is a bulk endpoint in one setting of its interface and isochronous in
another. -/
def twoSettings : List UsbInterface :=
  [⟨0, [⟨0x81, xferBulk, 0⟩]⟩, ⟨0, [⟨0x81, xferIsoc, 1⟩]⟩]

/-- The fixture transfers, and the phone answers `-EOPNOTSUPP`. -/
theorem dispatch_twoSettings :
    ∃ host s₁, exec UsbIpHost.fullTransfers (UsbIpHost.init twoSettings 7 true :
        Act usbSig Empty UsbIpHost) ⟨[], [], [], ()⟩ = (.ok host, s₁) ∧
      List.Forall₂ Describes [⟨0x81, .bulk⟩, ⟨0x81, .isochronous⟩]
        (twoSettings.flatMap UsbInterface.endpoints) ∧
      ¬ SameAction (actionOf ⟨[], [], [⟨0x81, .bulk⟩, ⟨0x81, .isochronous⟩]⟩ readTwo)
        (host.plan ∅ readTwo.signed) :=
  ⟨_, _, rfl, .cons ⟨rfl, rfl⟩ (.cons ⟨rfl, rfl⟩ .nil), id⟩

end Zerowire

/-
**The URB pump of the phone** (`android-sender/.../UsbIpHost.kt`).

The pump reads USB/IP commands off a byte stream that has no framing of its own: a header of 48
bytes says how many bytes follow it.  Each command is executed on the Android USB API and answered
with one envelope.  A submit that has been unlinked before it is read is answered without being
executed; the pump remembers the sequence numbers to skip in a set, `cancelled`.

The USB API is the surroundings of the program, and may answer anything; the set is a mutable
variable beside it.

Main definitions:

* `Zerowire.UsbOp`, `Zerowire.usbSig` — the calls to the USB API;
* `Zerowire.UsbIpHost`, `Zerowire.UsbIpHost.init`, `Zerowire.UsbIpHost.pumpUrbs` — the pump;
* `Zerowire.takeUrb` — what a round takes off the stream;
* `Zerowire.UsbIpHost.plan`, `Zerowire.UsbIpHost.answer` — what is done for a command.

Main results:

* `Zerowire.takeUrb_stable` — what is taken off the stream does not depend on what follows;
* `Zerowire.UsbIpHost.exec_pumpRound` — **a round handles the command it takes**;
* `Zerowire.UsbIpHost.pumpUrbs_outputs` — what a run writes, whenever it is stopped;
* `Zerowire.UsbIpHost.pumpUrbs_eq` — **a run handles the commands it takes, in turn**, until one of
  them cannot be answered.
-/

import Mathlib.Data.Finset.Erase
import Mathlib.Data.Finset.Insert
import Zerowire.StreamCodec
import Zerowire.Surroundings
import Zerowire.Transducer
import Zerowire.UsbIpFrame
import Zerowire.WireProtocol

set_option relaxedAutoImplicit false
set_option autoImplicit false

namespace Zerowire

open Bytes Program Jvm UsbIpFrame

/-! ### The USB API -/

/-- A `UsbEndpoint`: its address and type, and which of the endpoints it is. -/
structure UsbEndpoint where
  address : Int32
  type : Int32
  handle : ℕ
  deriving Repr, DecidableEq

/-- A `UsbInterface`. -/
structure UsbInterface where
  id : Int32
  endpoints : List UsbEndpoint
  deriving Repr, DecidableEq

/-- The two transfer functions of `UsbDeviceConnection`, with what they are given besides the
buffer. -/
inductive UsbTransfer where
  | controlTransfer (requestType request value index : Int32)
  | bulkTransfer (endpoint : UsbEndpoint)
  deriving Repr, DecidableEq

/-- What the pump asks of its surroundings. -/
inductive UsbOp where
  | claimInterface (iface : UsbInterface) (force : Bool)
  | releaseInterface (iface : UsbInterface)
  | transfer (transfer : UsbTransfer) (buffer : List UInt8) (length timeout : Int32)
  /-- `stopped.get()`. -/
  | stopped
  deriving Repr, DecidableEq

/-- What the surroundings answer; `none` is a thrown exception.  A transfer leaves the buffer with
other contents, of the same size. -/
abbrev UsbOp.Ans : UsbOp → Type
  | .claimInterface _ _ => Bool
  | .releaseInterface _ => Option Bool
  | .transfer _ buffer _ _ => Option (Int32 × { b : List UInt8 // b.length = buffer.length })
  | .stopped => Bool

/-- The USB API, as surroundings of a program. -/
abbrev usbSig : Sig := ⟨UsbOp, UsbOp.Ans⟩

/-- The surroundings of the pump: the USB API and the set `cancelled`. -/
abbrev pumpSig : Sig := usbSig.withRef (Finset Int32)

/-- `UsbConstants`. -/
def xferIsoc : Int32 := 1
def xferBulk : Int32 := 2
def xferInt : Int32 := 3

/-! ### The pump -/

/-- The fields of the pump that do not change. -/
structure UsbIpHost where
  importId : Int32
  endpointsByAddr : Int32 → Option UsbEndpoint
  endpointTypeByAddr : Int32 → Option Int32
  claimedInterfaces : List UsbInterface

/-- The messages of the `IOException`s. -/
inductive PumpException where
  | frame (e : FrameError)
  /-- "EOF inside CMD_SUBMIT OUT body". -/
  | eofInBody (seqnum : Int32)
  | wire (e : WireProtocol.WireError)
  deriving Repr, DecidableEq

namespace UsbIpHost

/-- Enter an endpoint into the two tables; a later one with the same address replaces it. -/
def addEndpoint (host : UsbIpHost) (ep : UsbEndpoint) : UsbIpHost where
  importId := host.importId
  endpointsByAddr addr := if addr = ep.address then some ep else host.endpointsByAddr addr
  endpointTypeByAddr addr :=
    if addr = ep.address then some ep.type else host.endpointTypeByAddr addr
  claimedInterfaces := host.claimedInterfaces

section Source

variable {ε : Type}

/-- `conn.claimInterface`. -/
def claimInterface (iface : UsbInterface) (force : Bool) : Act usbSig ε Bool :=
  call (X := usbSig) (UsbOp.claimInterface iface force)

/-- `stopped.get()`. -/
def isStopped : Act pumpSig ε Bool := callOp (X := usbSig) UsbOp.stopped

/-- One round of the loop of the `init` block. -/
def initInterface (forceClaim : Bool) (host : UsbIpHost) (iface : UsbInterface) :
    Act usbSig ε UsbIpHost := do
  let host ← claim
  return iface.endpoints.foldl addEndpoint host
where
  /-- `if (forceClaim) ..`. -/
  claim : Act usbSig ε UsbIpHost :=
    if forceClaim then do
      if ← claimInterface iface true then
        return { host with claimedInterfaces := host.claimedInterfaces ++ [iface] }
      else return host
    else return host

/-- The loop of the `init` block. -/
def initFrom (forceClaim : Bool) : UsbIpHost → List UsbInterface → Act usbSig ε UsbIpHost
  | host, [] => return host
  | host, iface :: rest => do
      let host ← initInterface forceClaim host iface
      initFrom forceClaim host rest

/-- The constructor of `UsbIpHost`, for a device with the given interfaces. -/
def init (device : List UsbInterface) (importId : Int32) (forceClaim : Bool) :
    Act usbSig ε UsbIpHost :=
  initFrom forceClaim ⟨importId, fun _ => none, fun _ => none, []⟩ device

/-- The loop of `readFully`; `filled` is the part of the array before `off`.  A read takes at least
one byte, so there are at most as many rounds as bytes. -/
def readFullyFrom {X : Sig} (size : ℕ) : ℕ → List UInt8 → Act X ε (Option (List UInt8))
  | 0, filled => return some filled
  | rounds + 1, filled =>
      if filled.length < size then do
        match ← read (size - filled.length) with
        | none => return none
        | some bytes => readFullyFrom size rounds (filled ++ bytes)
      else return some filled

/-- `readFully`: the filled array, or nothing (`false`) at the end of the stream. -/
def readFully {X : Sig} (buf : List UInt8) : Act X ε (Option (List UInt8)) :=
  readFullyFrom buf.length buf.length []

/-- `epAddress`. -/
def epAddress (direction ep : Int32) : Int32 :=
  (if direction = dirIn then 0x80 else 0x00) ||| (ep &&& 0x0F)

/-- `writeFrame`. -/
def writeFrame (host : UsbIpHost) (payload : List UInt8) :
    Act pumpSig (Throwable PumpException) Unit := do
  let wrapped ← ofResult (wrapImport host.importId payload)
  mapErr (Throwable.map .wire) (WireProtocol.writeEnvelope .usbip wrapped)

/-- `sendRetSubmit`. -/
def sendRetSubmit (host : UsbIpHost) (seqnum status actualLength : Int32)
    (data : List UInt8 := []) : Act pumpSig (Throwable PumpException) Unit := do
  let ret ← ofResult (encodeRetSubmit seqnum status actualLength data)
  host.writeFrame ret

/-- A transfer inside `try`: an exception counts as −1, and the buffer is not used then. -/
def transfer (t : UsbTransfer) (buf : List UInt8) (length timeoutMs : Int32) :
    Act pumpSig ε (Int32 × List UInt8) := do
  match ← callOp (X := usbSig) (UsbOp.transfer t buf length timeoutMs) with
  | some r => return (r.1, r.2.1)
  | none => return (-1, buf)

/-- `executeControl`. -/
def executeControl (host : UsbIpHost) (cmd : UsbIpFrame.CmdSubmit) (outBody : List UInt8) :
    Act pumpSig (Throwable PumpException) Unit := do
  let setup := cmd.setup.1
  let bmRequestType := toInt (← ofResult (Jvm.get setup 0)) &&& 0xFF
  let bRequest := toInt (← ofResult (Jvm.get setup 1)) &&& 0xFF
  let wValue := (toInt (← ofResult (Jvm.get setup 3)) &&& 0xFF) <<< 8 |||
    (toInt (← ofResult (Jvm.get setup 2)) &&& 0xFF)
  let wIndex := (toInt (← ofResult (Jvm.get setup 5)) &&& 0xFF) <<< 8 |||
    (toInt (← ofResult (Jvm.get setup 4)) &&& 0xFF)
  let isIn : Bool := bmRequestType &&& 0x80 ≠ 0
  let len := cmd.transferBufferLength
  let buf ← ofResult (if isIn then newByteArray len else .ok outBody)
  let r ← transfer (.controlTransfer bmRequestType bRequest wValue wIndex) buf (size buf) 2000
  report isIn r.1 r.2
where
  /-- What `executeControl` does after the transfer. -/
  report (isIn : Bool) (n : Int32) (buf : List UInt8) :
    Act pumpSig (Throwable PumpException) Unit :=
    if n < 0 then host.sendRetSubmit cmd.seqnum (-110) 0
    else do
      let payload ← ofResult (if isIn then copyOf buf n else .ok [])
      host.sendRetSubmit cmd.seqnum 0 n payload

/-- `executeBulkOrInterrupt`. -/
def executeBulkOrInterrupt (host : UsbIpHost) (cmd : UsbIpFrame.CmdSubmit) (ep : UsbEndpoint)
    (outBody : List UInt8) : Act pumpSig (Throwable PumpException) Unit := do
  let isIn : Bool := cmd.direction = dirIn
  let len := cmd.transferBufferLength
  if isIn then
    let buf ← ofResult (newByteArray len)
    let r ← transfer (.bulkTransfer ep) buf len 5000
    let payload ← ofResult (if r.1 > 0 then copyOf r.2 r.1 else .ok [])
    report r.1 payload
  else
    let r ← transfer (.bulkTransfer ep) outBody (size outBody) 5000
    report r.1 []
where
  /-- What `executeBulkOrInterrupt` does after the transfer. -/
  report (n : Int32) (payload : List UInt8) : Act pumpSig (Throwable PumpException) Unit :=
    if n < 0 then host.sendRetSubmit cmd.seqnum (-110) 0
    else host.sendRetSubmit cmd.seqnum 0 n payload

/-- The OUT body at the start of `handleSubmit`. -/
def readOutBody (cmd : UsbIpFrame.CmdSubmit) : Act pumpSig (Throwable PumpException) (List UInt8) :=
  if cmd.direction = dirOut ∧ cmd.transferBufferLength > 0 then do
    let buf ← ofResult (newByteArray cmd.transferBufferLength)
    match ← readFully buf with
    | none => throw (.io (.eofInBody cmd.seqnum))
    | some buf => return buf
  else return []

/-- `cancelled.remove(seqnum) != null`. -/
def removeCancelled (seqnum : Int32) : Act pumpSig ε Bool := do
  let cancelled ← getRef
  setRef (cancelled.erase seqnum)
  return seqnum ∈ cancelled

/-- `handleSubmit`. -/
def handleSubmit (host : UsbIpHost) (headerBuf : List UInt8) :
    Act pumpSig (Throwable PumpException) Unit := do
  let cmd ← ofResult ((parseCmdSubmit headerBuf).mapError (Throwable.map .frame))
  let outBody ← readOutBody cmd
  -- Receiver asked to cancel this URB before we got to it.
  if ← removeCancelled cmd.seqnum then host.sendRetSubmit cmd.seqnum (-104) 0
  else dispatch cmd outBody
where
  /-- The part of `handleSubmit` that dispatches by endpoint type. -/
  dispatch (cmd : UsbIpFrame.CmdSubmit) (outBody : List UInt8) :
      Act pumpSig (Throwable PumpException) Unit :=
    if cmd.isControl then host.executeControl cmd outBody
    else
      let epAddr := epAddress cmd.direction cmd.ep
      match host.endpointsByAddr epAddr with
      | none => host.sendRetSubmit cmd.seqnum (-19) 0
      | some ep =>
          let t := (host.endpointTypeByAddr epAddr).getD (-1)
          if t = xferBulk ∨ t = xferInt then host.executeBulkOrInterrupt cmd ep outBody
          else if t = xferIsoc then host.sendRetSubmit cmd.seqnum (-95) 0
          else host.sendRetSubmit cmd.seqnum (-95) 0

/-- `handleUnlink`. -/
def handleUnlink (host : UsbIpHost) (headerBuf : List UInt8) :
    Act pumpSig (Throwable PumpException) Unit := do
  let u ← ofResult ((parseCmdUnlink headerBuf).mapError (Throwable.map .frame))
  let cancelled ← getRef
  setRef (insert u.unlinkSeqnum cancelled)
  let ret ← ofResult (encodeRetUnlink u.seqnum 0)
  host.writeFrame ret

/-- `cleanup`: what `releaseInterface` returns or throws is ignored. -/
def cleanup : List UsbInterface → Act pumpSig ε Unit
  | [] => return ()
  | iface :: rest => do
      let _ ← callOp (X := usbSig) (UsbOp.releaseInterface iface)
      cleanup rest

/-- One round of the loop of `pumpUrbs`; the right summand is `break`. -/
def pumpRound (host : UsbIpHost) : Act pumpSig (Throwable PumpException) (Unit ⊕ Unit) := do
  if ← isStopped then return .inr ()
  else
    let header ← ofResult (newByteArray 48)
    match ← readFully header with
    | none => return .inr ()
    | some header => handle header
where
  /-- What a round does with a header. -/
  handle (header : List UInt8) : Act pumpSig (Throwable PumpException) (Unit ⊕ Unit) := do
    let command ← ofResult ((peekCommand header).mapError (Throwable.map .frame))
    if command = cmdSubmit then do
      host.handleSubmit header
      return .inl ()
    else if command = cmdUnlink then do
      host.handleUnlink header
      return .inl ()
    else return .inr ()

/-- The `catch` and `finally` blocks of `pumpUrbs`. -/
def endPump (host : UsbIpHost) (result : Except (Throwable PumpException) Unit) :
    Act pumpSig (Throwable PumpException) Unit := do
  cleanup host.claimedInterfaces
  match result with
  | .error (.io _) => return ()
  | result => ofResult result

/-- `pumpUrbs`, for the given number of rounds. -/
def pumpUrbs {τ : Type} (host : UsbIpHost) (env : Env usbSig τ) (fuel : ℕ)
    (s : Io (Finset Int32 × τ)) :
    Option (Except (Throwable PumpException) Unit × Io (Finset Int32 × τ)) :=
  (loop env.withRef (rounds fun _ => host.pumpRound) fuel () s).map fun r =>
    exec env.withRef (host.endPump r.1) r.2

end Source

end UsbIpHost

/-! ### What a round takes off the stream -/

/-- The size of the OUT body that is read behind a CMD_SUBMIT header. -/
def outBodySize (cmd : UsbIpFrame.CmdSubmit) : ℕ :=
  if cmd.direction = dirOut ∧ cmd.transferBufferLength > 0 then
    cmd.transferBufferLength.toNatClampNeg
  else 0

/-- The size of the packet a header starts. -/
def urbSize (b : List UInt8) : ℕ :=
  if wordAt b 0 = UrbOp.cmdSubmit.toU32 then
    urbHeaderLen + outBodySize (UsbIpFrame.CmdSubmit.ofHeader b)
  else urbHeaderLen

/-- **What a round takes off the stream**: a header, and the OUT body if it has one.  At another
command the pump stops. -/
def takeUrb : StreamCodec.Parser (List UInt8) UInt8 UInt32 := fun b =>
  if b.length < urbHeaderLen then .ok none
  else if wordAt b 0 = UrbOp.cmdSubmit.toU32 ∨ wordAt b 0 = UrbOp.cmdUnlink.toU32 then
    if b.length < urbSize b then .ok none else .ok (some (b.take (urbSize b), urbSize b))
  else .error (wordAt b 0)

/-- The words of a header do not change when bytes are appended. -/
theorem wordAt_append {b : List UInt8} (x : List UInt8) {off : ℕ} (h : off + 4 ≤ b.length) :
    wordAt (b ++ x) off = wordAt b off := by
  have htake := wordAt_take (b := b ++ x) h
  rw [List.take_left' rfl] at htake
  exact htake.symm

theorem urbSize_append {b : List UInt8} (x : List UInt8) (h : urbHeaderLen ≤ b.length) :
    urbSize (b ++ x) = urbSize b := by
  have hcmd : UsbIpFrame.CmdSubmit.ofHeader (b ++ x) = UsbIpFrame.CmdSubmit.ofHeader b := by
    rw [← UsbIpFrame.CmdSubmit.ofHeader_take h, List.take_left' rfl]
  rw [urbSize, hcmd, wordAt_append x (Nat.le_trans (by decide) h), urbSize]

theorem le_urbSize (b : List UInt8) : urbHeaderLen ≤ urbSize b := by
  rw [urbSize]
  split <;> omega

/-- The first word is that of a command. -/
def IsCommand (b : List UInt8) : Prop :=
  wordAt b 0 = UrbOp.cmdSubmit.toU32 ∨ wordAt b 0 = UrbOp.cmdUnlink.toU32

theorem takeUrb_eq_some {b raw : List UInt8} {n : ℕ} :
    takeUrb b = .ok (some (raw, n)) ↔
      IsCommand b ∧ urbSize b ≤ b.length ∧ n = urbSize b ∧ raw = b.take n := by
  have hle := le_urbSize b
  rw [takeUrb, IsCommand]
  constructor
  · intro h
    by_cases hlen : b.length < urbHeaderLen
    · rw [if_pos hlen] at h
      cases h
    by_cases hcmd : wordAt b 0 = UrbOp.cmdSubmit.toU32 ∨ wordAt b 0 = UrbOp.cmdUnlink.toU32
    · rw [if_neg hlen, if_pos hcmd] at h
      by_cases hsize : b.length < urbSize b
      · rw [if_pos hsize] at h
        cases h
      · rw [if_neg hsize] at h
        cases h
        exact ⟨hcmd, Nat.le_of_not_lt hsize, rfl, rfl⟩
    · rw [if_neg hlen, if_neg hcmd] at h
      cases h
  · rintro ⟨hcmd, hsize, rfl, rfl⟩
    rw [if_neg (by omega), if_pos hcmd, if_neg (by omega)]

theorem takeUrb_eq_error {b : List UInt8} {e : UInt32} :
    takeUrb b = .error e ↔ urbHeaderLen ≤ b.length ∧ ¬ IsCommand b ∧ e = wordAt b 0 := by
  rw [takeUrb, IsCommand]
  constructor
  · intro h
    by_cases hlen : b.length < urbHeaderLen
    · rw [if_pos hlen] at h
      cases h
    by_cases hcmd : wordAt b 0 = UrbOp.cmdSubmit.toU32 ∨ wordAt b 0 = UrbOp.cmdUnlink.toU32
    · rw [if_neg hlen, if_pos hcmd] at h
      split at h <;> cases h
    · rw [if_neg hlen, if_neg hcmd] at h
      cases h
      exact ⟨Nat.le_of_not_lt hlen, hcmd, rfl⟩
  · rintro ⟨hlen, hcmd, rfl⟩
    rw [if_neg (by omega), if_neg hcmd]

/-- **What is taken off the stream does not depend on what follows.** -/
theorem takeUrb_stable : StreamCodec.Stable takeUrb where
  nil := rfl
  pos := by
    intro b a n h
    obtain ⟨-, -, rfl, -⟩ := takeUrb_eq_some.1 h
    exact Nat.lt_of_lt_of_le (Nat.succ_pos _) (le_urbSize b)
  le := by
    intro b a n h
    obtain ⟨-, hsize, rfl, -⟩ := takeUrb_eq_some.1 h
    exact hsize
  frame := by
    rintro b ⟨raw, n⟩ x h
    obtain ⟨hcmd, hsize, rfl, rfl⟩ := takeUrb_eq_some.1 h
    have hle := Nat.le_trans (le_urbSize b) hsize
    have happend := urbSize_append x hle
    refine takeUrb_eq_some.2 ⟨?_, ?_, happend.symm, ?_⟩
    · rwa [IsCommand, wordAt_append x (Nat.le_trans (by decide) hle)]
    · rw [happend, List.length_append]
      omega
    · rw [List.take_append_of_le_length hsize]
  fault := by
    intro b e x h
    obtain ⟨hle, hcmd, rfl⟩ := takeUrb_eq_error.1 h
    have hword : wordAt (b ++ x) 0 = wordAt b 0 :=
      wordAt_append x (Nat.le_trans (by decide) hle)
    refine takeUrb_eq_error.2 ⟨?_, ?_, hword.symm⟩
    · rw [List.length_append]
      omega
    · rwa [IsCommand, hword]

namespace UsbIpHost

/-! ### What is done for a command -/

/-- What a CMD_SUBMIT comes down to: a status, or a transfer. -/
inductive Plan where
  | status (status : Int32)
  | transfer (isIn : Bool) (transfer : UsbTransfer) (timeout : Int32)
  deriving Repr, DecidableEq

/-- A byte of the setup packet, as an unsigned value. -/
def setupByte (cmd : UsbIpFrame.CmdSubmit) (i : ℕ) : Int32 := toInt (cmd.setup.1.getD i 0) &&& 0xFF

/-- The control transfer of a setup packet. -/
def controlOf (cmd : UsbIpFrame.CmdSubmit) : UsbTransfer :=
  .controlTransfer (setupByte cmd 0) (setupByte cmd 1)
    (setupByte cmd 3 <<< 8 ||| setupByte cmd 2) (setupByte cmd 5 <<< 8 ||| setupByte cmd 4)

/-- **What a CMD_SUBMIT comes down to**, when the given sequence numbers are cancelled. -/
def plan (host : UsbIpHost) (cancelled : Finset Int32) (cmd : UsbIpFrame.CmdSubmit) : Plan :=
  if cmd.seqnum ∈ cancelled then .status (-104)
  else if cmd.isControl then .transfer (setupByte cmd 0 &&& 0x80 ≠ 0) (controlOf cmd) 2000
  else
    match host.endpointsByAddr (epAddress cmd.direction cmd.ep) with
    | none => .status (-19)
    | some ep =>
        let t := (host.endpointTypeByAddr (epAddress cmd.direction cmd.ep)).getD (-1)
        if t = xferBulk ∨ t = xferInt then .transfer (cmd.direction = dirIn) (.bulkTransfer ep) 5000
        else .status (-95)

/-- What a RET_SUBMIT reports. -/
structure Outcome where
  status : Int32
  actualLength : Int32
  data : List UInt8
  deriving Repr, DecidableEq

/-- What is reported of a transfer. -/
def Outcome.ofTransfer (isIn : Bool) {k : ℕ} :
    Option (Int32 × { b : List UInt8 // b.length = k }) → Outcome
  | none => ⟨-110, 0, []⟩
  | some (n, buf) =>
      if n < 0 then ⟨-110, 0, []⟩
      else ⟨0, n, if isIn then buf.1.take n.toNatClampNeg ++
        List.replicate (n.toNatClampNeg - k) 0 else []⟩

variable {τ : Type}

/-- The buffer of a transfer; `none` when its size is negative. -/
def bufferOf (isIn : Bool) (cmd : UsbIpFrame.CmdSubmit)
    (outBody : List UInt8) : Option (List UInt8) :=
  if isIn then
    if cmd.transferBufferLength < 0 then none
    else some (List.replicate cmd.transferBufferLength.toNatClampNeg 0)
  else some outBody

/-- Carrying out a plan. -/
def carryOut (env : Env usbSig τ) (cmd : UsbIpFrame.CmdSubmit) (outBody : List UInt8) (t : τ) :
    Plan → Option Outcome × τ
  | .status status => (some ⟨status, 0, []⟩, t)
  | .transfer isIn transfer timeout =>
      match bufferOf isIn cmd outBody with
      | none => (none, t)
      | some buf =>
          let r := env (.transfer transfer buf (size buf) timeout) t
          (some (.ofTransfer isIn r.1), r.2)

/-- The envelope that a packet is sent in. -/
def envelopeOf (host : UsbIpHost) (raw : List UInt8) : Envelope :=
  ⟨.usbip, UsbipFrame.encode ⟨host.importId.toUInt32, raw⟩⟩

/-- The RET_SUBMIT packet with an outcome. -/
def retSubmitPacket (seqnum : Int32) (o : Outcome) : List UInt8 :=
  RetSubmit.encode ⟨seqnum.toUInt32, 0, 0, 0, o.status, o.actualLength.toUInt32, 0, 0, 0⟩ ++ o.data

/-- The RET_UNLINK packet. -/
def retUnlinkPacket (seqnum : Int32) : List UInt8 := RetUnlink.encode ⟨seqnum.toUInt32, 0, 0, 0, 0⟩

/-- The reply with an outcome, if the arrays for it can be created. -/
@[irreducible] def replyOf (host : UsbIpHost) (seqnum : Int32) (o : Outcome) : Option Envelope :=
  if 52 + o.data.length < 2 ^ 31 then some (host.envelopeOf (retSubmitPacket seqnum o)) else none

/-- **What is done for a command**: the reply, unless an array of negative size is asked for, and
the new state. -/
def answer (host : UsbIpHost) (env : Env usbSig τ) (raw : List UInt8) (st : Finset Int32 × τ) :
    Option Envelope × Finset Int32 × τ :=
  if wordAt raw 0 = UrbOp.cmdSubmit.toU32 then
    let cmd := UsbIpFrame.CmdSubmit.ofHeader raw
    let r := carryOut env cmd (raw.drop urbHeaderLen) st.2 (host.plan st.1 cmd)
    (r.1.bind (host.replyOf cmd.seqnum), st.1.erase cmd.seqnum, r.2)
  else
    let u := UsbIpFrame.CmdUnlink.ofHeader raw
    (some (host.envelopeOf (retUnlinkPacket u.seqnum)), insert u.unlinkSeqnum st.1, st.2)

/-- What a round does with the command it takes: nothing, if the pump has been stopped. -/
def round (host : UsbIpHost) (env : Env usbSig τ) (raw : List UInt8) (st : Finset Int32 × τ) :
    Option Envelope × Finset Int32 × τ :=
  if (env .stopped st.2).1 then (none, st.1, (env .stopped st.2).2)
  else host.answer env raw (st.1, (env .stopped st.2).2)

/-- Without a stop a round answers its command. -/
theorem round_eq {host : UsbIpHost} {env : Env usbSig τ}
    (hstop : ∀ t, env .stopped t = (false, t)) : host.round env = host.answer env := by
  funext raw st
  simp only [round, hstop, Bool.false_eq_true, if_false, Prod.mk.eta]

/-! ### The handlers -/

section Handlers

variable {ε : Type}

/-- Filling the rest of an array, whatever the pieces in which the bytes arrive. -/
theorem exec_readFullyFrom {X : Sig} (env : Env X τ) (size rounds : ℕ) (filled : List UInt8)
    (s : Io τ) (hle : filled.length ≤ size) (hrounds : size - filled.length ≤ rounds) :
    ∃ chunks, exec env (readFullyFrom size rounds filled : Act X ε _) s =
      if size - filled.length ≤ s.input.length then
        (.ok (some (filled ++ s.input.take (size - filled.length))),
          { s with input := s.input.drop (size - filled.length), chunks })
      else (.ok none, { s with input := [], chunks }) := by
  -- a read brings at least one byte, so there are rounds enough for what is missing
  induction rounds generalizing filled s with
  | zero =>
      have hzero : size - filled.length = 0 := by omega
      refine ⟨s.chunks, ?_⟩
      rw [readFullyFrom, hzero, if_pos (Nat.zero_le _), List.take_zero, List.append_nil, exec_pure]
      rfl
  | succ rounds ih =>
      rw [readFullyFrom, exec_ite]
      by_cases hfull : filled.length < size
      · rw [if_pos hfull]
        by_cases hnil : s.input = []
        · refine ⟨s.chunks, ?_⟩
          rw [exec_bind_ok (exec_read_none env (by omega) hnil), exec_pure,
            if_neg (by rw [hnil, List.length_nil]; omega), ← hnil]
        · obtain ⟨m, chunks, hpos, hm, hlen, hread⟩ :=
            exec_read_some (ε := ε) env (n := size - filled.length) (by omega) hnil
          have htake : (filled ++ s.input.take m).length = filled.length + m := by
            rw [List.length_append, List.length_take, Nat.min_eq_left hlen]
          obtain ⟨chunks', hrec⟩ := ih (filled ++ s.input.take m)
            { s with input := s.input.drop m, chunks } (by omega) (by omega)
          refine ⟨chunks', ?_⟩
          rw [exec_bind_ok hread, hrec]
          have hmissing : size - filled.length =
              m + (size - (filled ++ s.input.take m).length) := by
            omega
          rw [hmissing, List.take_add, List.length_drop, List.drop_drop, List.append_assoc]
          generalize size - (filled ++ s.input.take m).length = rest
          congr 1
          rw [eq_iff_iff]
          omega
      · have hzero : size - filled.length = 0 := by omega
        refine ⟨s.chunks, ?_⟩
        rw [if_neg hfull, hzero, if_pos (Nat.zero_le _), List.take_zero, List.append_nil, exec_pure]
        rfl

/-- **`readFully` fills the whole array or reaches the end of the stream.** -/
theorem exec_readFully {X : Sig} (env : Env X τ) (buf : List UInt8) (s : Io τ) :
    ∃ chunks, exec env (readFully buf : Act X ε _) s =
      if buf.length ≤ s.input.length then
        (.ok (some (s.input.take buf.length)),
          { s with input := s.input.drop buf.length, chunks })
      else (.ok none, { s with input := [], chunks }) :=
  exec_readFullyFrom env buf.length buf.length [] s (Nat.zero_le _) (Nat.le_refl _)

/-- What sending a reply comes to. -/
def sent {σ : Type} (reply : Option Envelope) (s : Io σ) :
    Except (Throwable PumpException) Unit × Io σ :=
  match reply with
  | some e => (.ok (), { s with output := s.output ++ e.bytes })
  | none => (.error .negativeArraySize, s)

variable (host : UsbIpHost) (env : Env usbSig τ) (s : Io (Finset Int32 × τ))

theorem exec_writeFrame {payload : List UInt8} (h : payload.length < 2 ^ 31) :
    exec env.withRef (host.writeFrame payload) s =
      sent (if 4 + payload.length < 2 ^ 31 then some (host.envelopeOf payload) else none) s := by
  rw [writeFrame, wrapImport_eq host.importId h]
  by_cases hfits : 4 + payload.length < 2 ^ 31
  · rw [if_pos hfits, if_pos hfits, exec_ofResult_ok_bind, exec_mapErr,
      WireProtocol.exec_writeEnvelope, mapError_ok]
    rfl
  · rw [if_neg hfits, if_neg hfits, exec_ofResult_error_bind]
    rfl

theorem exec_sendRetSubmit (seqnum status actualLength : Int32) {data : List UInt8}
    (h : data.length < 2 ^ 31) :
    exec env.withRef (host.sendRetSubmit seqnum status actualLength data) s =
      sent (host.replyOf seqnum ⟨status, actualLength, data⟩) s := by
  rw [sendRetSubmit, encodeRetSubmit_eq seqnum status actualLength h, replyOf]
  simp only
  by_cases hret : 48 + data.length < 2 ^ 31
  · have hlen (r : RetSubmit) : (r.encode ++ data).length = 48 + data.length := by
      rw [List.length_append, RetSubmit.length_encode, urbHeaderLen]
    have hsum : 4 + (48 + data.length) = 52 + data.length := by omega
    rw [if_pos hret, exec_ofResult_ok_bind, exec_writeFrame _ _ _ (by rwa [hlen]), hlen, hsum]
    rfl
  · rw [if_neg hret, exec_ofResult_error_bind, if_neg (by omega)]
    rfl

/-- A RET_SUBMIT without data. -/
theorem exec_sendRetSubmit_nil (seqnum status actualLength : Int32) :
    exec env.withRef (host.sendRetSubmit seqnum status actualLength) s =
      sent (host.replyOf seqnum ⟨status, actualLength, []⟩) s :=
  exec_sendRetSubmit host env s seqnum status actualLength (by simp)

/-- A reply carries fewer than `2 ^ 31` bytes of data. -/
theorem length_copied (n : Int32) (buf : List UInt8) (k : ℕ) (hk : buf.length = k) :
    (buf.take n.toNatClampNeg ++ List.replicate (n.toNatClampNeg - k) (0 : UInt8)).length =
      n.toNatClampNeg := by
  rw [List.length_append, List.length_take, List.length_replicate, hk]
  omega

theorem length_ofTransfer (isIn : Bool) {k : ℕ}
    (r : Option (Int32 × { b : List UInt8 // b.length = k })) :
    (Outcome.ofTransfer isIn r).data.length < 2 ^ 31 := by
  rcases r with _ | ⟨n, buf⟩
  · simp [Outcome.ofTransfer]
  · rw [Outcome.ofTransfer]
    by_cases hn : n < 0
    · rw [if_pos hn]
      simp
    · rw [if_neg hn]
      cases isIn with
      | false => simp
      | true =>
          simp only [if_true]
          rw [length_copied n buf.1 k buf.2]
          exact n.toNatClampNeg_lt

/-- `copyOf` with a size that is not negative. -/
theorem copyOf_nonneg {k : ℕ} {n : Int32} {buf : List UInt8} (hbuf : buf.length = k)
    (hn : ¬ n < 0) :
    (copyOf buf n : Except (Throwable ε) _) =
      .ok (buf.take n.toNatClampNeg ++ List.replicate (n.toNatClampNeg - k) 0) := by
  rw [copyOf, if_neg hn, hbuf]

/-- A transfer of zero bytes has no data. -/
theorem copied_zero {k : ℕ} {n : Int32} (buf : List UInt8) (hn : ¬ n < 0) (hpos : ¬ n > 0) :
    buf.take n.toNatClampNeg ++ List.replicate (n.toNatClampNeg - k) (0 : UInt8) = [] := by
  have hzero : n.toNatClampNeg = 0 := by
    rw [Int32.lt_iff_toInt_lt, Int32.toInt_zero] at hn
    rw [gt_iff_lt, Int32.lt_iff_toInt_lt, Int32.toInt_zero] at hpos
    rw [Int32.toNatClampNeg]
    omega
  rw [hzero, List.take_zero, Nat.zero_sub, List.replicate_zero, List.append_nil]

/-- The buffer of a transfer, as the two handlers create it. -/
theorem ofResult_bufferOf (isIn : Bool) (cmd : UsbIpFrame.CmdSubmit) (outBody : List UInt8) :
    (if isIn then newByteArray cmd.transferBufferLength else .ok outBody : Except (Throwable ε) _) =
      match bufferOf isIn cmd outBody with
      | none => .error .negativeArraySize
      | some buf => .ok buf := by
  rw [bufferOf]
  cases isIn with
  | false => rfl
  | true =>
      simp only [if_true]
      rw [newByteArray]
      by_cases hneg : cmd.transferBufferLength < 0
      · rw [if_pos hneg, if_pos hneg]
      · rw [if_neg hneg, if_neg hneg]

/-- What is left of a transfer for the reply. -/
def afterTransfer {k : ℕ} (buf : List UInt8) :
    Option (Int32 × { b : List UInt8 // b.length = k }) → Int32 × List UInt8
  | some r => (r.1, r.2.1)
  | none => (-1, buf)

theorem exec_transfer (t : UsbTransfer) (buf : List UInt8) (length timeoutMs : Int32) :
    exec env.withRef (transfer t buf length timeoutMs : Act pumpSig ε _) s =
      let r := env (.transfer t buf length timeoutMs) s.env.2
      (.ok (afterTransfer buf r.1), { s with env := (s.env.1, r.2) }) := by
  rw [transfer, exec_bind_ok (exec_callOp env _ s)]
  generalize env (.transfer t buf length timeoutMs) s.env.2 = r
  rcases r with ⟨_ | r, t'⟩
  · rfl
  · rfl

theorem exec_reportControl (cmd : UsbIpFrame.CmdSubmit) (isIn : Bool) {buf : List UInt8}
    (r : Option (Int32 × { b : List UInt8 // b.length = buf.length })) :
    exec env.withRef
        (executeControl.report host cmd isIn (afterTransfer buf r).1 (afterTransfer buf r).2) s =
      sent (host.replyOf cmd.seqnum (.ofTransfer isIn r)) s := by
  have hlen := length_ofTransfer isIn r
  rw [executeControl.report, exec_ite]
  rcases r with _ | ⟨n, buf'⟩
  · rw [afterTransfer, if_pos (show (-1 : Int32) < 0 by decide), exec_sendRetSubmit_nil]
    rfl
  · rw [Outcome.ofTransfer] at hlen ⊢
    rw [afterTransfer]
    simp only
    by_cases hn : n < 0
    · rw [if_pos hn, if_pos hn, exec_sendRetSubmit_nil]
    · rw [if_neg hn] at hlen
      rw [if_neg hn, if_neg hn, copyOf_nonneg buf'.2 hn]
      cases isIn with
      | false =>
          simp only [Bool.false_eq_true, if_false]
          rw [exec_ofResult_ok_bind, exec_sendRetSubmit_nil]
      | true =>
          simp only [if_true] at hlen ⊢
          rw [exec_ofResult_ok_bind, exec_sendRetSubmit _ _ _ _ _ _ hlen]

theorem exec_reportBulk (cmd : UsbIpFrame.CmdSubmit) {buf : List UInt8}
    (r : Option (Int32 × { b : List UInt8 // b.length = buf.length })) :
    exec env.withRef (do
        let payload ← ofResult (if (afterTransfer buf r).1 > 0 then
          copyOf (afterTransfer buf r).2 (afterTransfer buf r).1 else .ok [])
        executeBulkOrInterrupt.report host cmd (afterTransfer buf r).1 payload) s =
      sent (host.replyOf cmd.seqnum (.ofTransfer true r)) s := by
  have hlen := length_ofTransfer true r
  -- the transfer failed; it returned a negative number; it returned some bytes
  rcases r with _ | ⟨n, buf'⟩
  · rw [afterTransfer, if_neg (show ¬ (-1 : Int32) > 0 by decide), exec_ofResult_ok_bind,
      executeBulkOrInterrupt.report, exec_ite, if_pos (show (-1 : Int32) < 0 by decide),
      exec_sendRetSubmit_nil]
    rfl
  · rw [Outcome.ofTransfer] at hlen ⊢
    rw [afterTransfer]
    simp only
    by_cases hn : n < 0
    · have hpos : ¬ n > 0 := fun h => Int32.lt_irrefl (Int32.lt_trans hn h)
      rw [if_neg hpos, exec_ofResult_ok_bind, executeBulkOrInterrupt.report, exec_ite, if_pos hn,
        if_pos hn, exec_sendRetSubmit_nil]
    · rw [if_neg hn] at hlen
      simp only [if_true] at hlen
      rw [if_neg hn]
      simp only [if_true]
      by_cases hpos : n > 0
      · rw [if_pos hpos, copyOf_nonneg buf'.2 hn, exec_ofResult_ok_bind,
          executeBulkOrInterrupt.report, exec_ite, if_neg hn, exec_sendRetSubmit _ _ _ _ _ _ hlen]
      · -- nothing came, which is what the empty payload says
        rw [if_neg hpos, copied_zero _ hn hpos, exec_ofResult_ok_bind,
          executeBulkOrInterrupt.report, exec_ite, if_neg hn, exec_sendRetSubmit_nil]

/-- A control transfer, from the creation of its buffer on. -/
theorem exec_control (cmd : UsbIpFrame.CmdSubmit) (outBody : List UInt8) (isIn : Bool)
    (t : UsbTransfer) (timeoutMs : Int32) :
    exec env.withRef (do
      let buf ← ofResult (if isIn then newByteArray cmd.transferBufferLength else .ok outBody)
      let r ← transfer t buf (size buf) timeoutMs
      executeControl.report host cmd isIn r.1 r.2) s =
      let r := carryOut env cmd outBody s.env.2 (.transfer isIn t timeoutMs)
      sent (r.1.bind (host.replyOf cmd.seqnum)) { s with env := (s.env.1, r.2) } := by
  rw [ofResult_bufferOf, carryOut]
  rcases bufferOf isIn cmd outBody with _ | buf
  · rw [exec_ofResult_error_bind]
    rfl
  · rw [exec_ofResult_ok_bind, exec_bind_ok (exec_transfer env s t buf (size buf) timeoutMs)]
    exact exec_reportControl host env _ cmd isIn _

theorem exec_executeControl (cmd : UsbIpFrame.CmdSubmit) (outBody : List UInt8) :
    exec env.withRef (host.executeControl cmd outBody) s =
      let r := carryOut env cmd outBody s.env.2
        (.transfer (setupByte cmd 0 &&& 0x80 ≠ 0) (controlOf cmd) 2000)
      sent (r.1.bind (host.replyOf cmd.seqnum)) { s with env := (s.env.1, r.2) } := by
  have hget (i : ℕ) (hi : i < 8) : (ofResult (Jvm.get cmd.setup.1 i) :
      Act pumpSig (Throwable PumpException) _) = ofResult (.ok (cmd.setup.1.getD i 0)) := by
    rw [get_eq_getD (by rw [cmd.setup.2]; exact hi)]
  rw [executeControl]
  simp only
  rw [hget 0 (by decide), exec_ofResult_ok_bind, hget 1 (by decide), exec_ofResult_ok_bind,
    hget 3 (by decide), exec_ofResult_ok_bind, hget 2 (by decide), exec_ofResult_ok_bind,
    hget 5 (by decide), exec_ofResult_ok_bind, hget 4 (by decide), exec_ofResult_ok_bind]
  exact exec_control host env s cmd outBody _ _ _

theorem exec_reportOut (cmd : UsbIpFrame.CmdSubmit) {buf : List UInt8}
    (r : Option (Int32 × { b : List UInt8 // b.length = buf.length })) :
    exec env.withRef (executeBulkOrInterrupt.report host cmd (afterTransfer buf r).1 []) s =
      sent (host.replyOf cmd.seqnum (.ofTransfer false r)) s := by
  rw [executeBulkOrInterrupt.report, exec_ite]
  rcases r with _ | ⟨n, buf'⟩
  · rw [afterTransfer, if_pos (show (-1 : Int32) < 0 by decide), exec_sendRetSubmit_nil]
    rfl
  · rw [Outcome.ofTransfer, afterTransfer]
    simp only [Bool.false_eq_true, if_false]
    by_cases hn : n < 0
    · rw [if_pos hn, if_pos hn, exec_sendRetSubmit_nil]
    · rw [if_neg hn, if_neg hn, exec_sendRetSubmit_nil]

/-- The size of a fresh array is the size it was created with. -/
theorem size_zeros {n : Int32} (hn : ¬ n < 0) : size (List.replicate n.toNatClampNeg 0) = n := by
  rw [Int32.lt_iff_toInt_lt, Int32.toInt_zero] at hn
  have hlen : (List.replicate n.toNatClampNeg (0 : UInt8)).length < 2 ^ 31 := by
    rw [List.length_replicate]
    exact n.toNatClampNeg_lt
  rw [← Int32.toInt_inj, toInt_size hlen, List.length_replicate, Int32.toNatClampNeg]
  omega

theorem exec_executeBulkOrInterrupt (cmd : UsbIpFrame.CmdSubmit) (ep : UsbEndpoint)
    (outBody : List UInt8) :
    exec env.withRef (host.executeBulkOrInterrupt cmd ep outBody) s =
      let r := carryOut env cmd outBody s.env.2
        (.transfer (cmd.direction = dirIn) (.bulkTransfer ep) 5000)
      sent (r.1.bind (host.replyOf cmd.seqnum)) { s with env := (s.env.1, r.2) } := by
  rw [executeBulkOrInterrupt, carryOut]
  generalize decide (cmd.direction = dirIn) = isIn
  cases isIn with
  | false =>
      simp only [bufferOf, Bool.false_eq_true, if_false]
      rw [exec_bind_ok (exec_transfer env s _ outBody (size outBody) 5000)]
      exact exec_reportOut host env _ cmd _
  | true =>
      simp only [bufferOf, if_true]
      rw [newByteArray]
      by_cases hneg : cmd.transferBufferLength < 0
      · rw [if_pos hneg, if_pos hneg, exec_ofResult_error_bind]
        rfl
      · have hsize := size_zeros hneg
        rw [if_neg hneg, if_neg hneg, exec_ofResult_ok_bind]
        generalize List.replicate cmd.transferBufferLength.toNatClampNeg (0 : UInt8) = buf at hsize
        rw [← hsize, exec_bind_ok (exec_transfer env s _ buf (size buf) 5000)]
        exact exec_reportBulk host env _ cmd _

/-- The part of `handleSubmit` behind the OUT body carries out the plan. -/
theorem exec_dispatch (cmd : UsbIpFrame.CmdSubmit) (outBody : List UInt8)
    (h : cmd.seqnum ∉ s.env.1) :
    exec env.withRef (handleSubmit.dispatch host cmd outBody) s =
      let r := carryOut env cmd outBody s.env.2 (host.plan s.env.1 cmd)
      sent (r.1.bind (host.replyOf cmd.seqnum)) { s with env := (s.env.1, r.2) } := by
  rw [handleSubmit.dispatch, plan, if_neg h, exec_ite]
  by_cases hcontrol : cmd.isControl = true
  · rw [if_pos hcontrol, if_pos hcontrol, exec_executeControl]
  · rw [if_neg hcontrol, if_neg hcontrol]
    simp only
    rcases host.endpointsByAddr (epAddress cmd.direction cmd.ep) with _ | ep
    · exact exec_sendRetSubmit_nil host env s _ _ _
    · simp only
      rw [exec_ite]
      by_cases hbulk :
        (host.endpointTypeByAddr (epAddress cmd.direction cmd.ep)).getD (-1) = xferBulk ∨
          (host.endpointTypeByAddr (epAddress cmd.direction cmd.ep)).getD (-1) = xferInt
      · rw [if_pos hbulk, if_pos hbulk, exec_executeBulkOrInterrupt]
      · rw [if_neg hbulk, if_neg hbulk, exec_ite, ite_self]
        exact exec_sendRetSubmit_nil host env s _ _ _

theorem exec_removeCancelled (seqnum : Int32) :
    exec env.withRef (removeCancelled seqnum : Act pumpSig ε Bool) s =
      (.ok (decide (seqnum ∈ s.env.1)), { s with env := (s.env.1.erase seqnum, s.env.2) }) := rfl

/-- **A submit is skipped or carried out**, and its sequence number is then no longer cancelled. -/
theorem exec_submit (cmd : UsbIpFrame.CmdSubmit) (outBody : List UInt8) :
    exec env.withRef (do
      if ← removeCancelled cmd.seqnum then host.sendRetSubmit cmd.seqnum (-104) 0
      else handleSubmit.dispatch host cmd outBody) s =
      let r := carryOut env cmd outBody s.env.2 (host.plan s.env.1 cmd)
      sent (r.1.bind (host.replyOf cmd.seqnum))
        { s with env := (s.env.1.erase cmd.seqnum, r.2) } := by
  rw [exec_bind_ok (exec_removeCancelled env s cmd.seqnum), exec_ite]
  by_cases hmem : cmd.seqnum ∈ s.env.1
  · rw [if_pos (decide_eq_true hmem), plan, if_pos hmem]
    exact exec_sendRetSubmit_nil host env _ _ _ _
  · have herase : s.env.1.erase cmd.seqnum = s.env.1 := Finset.erase_eq_of_notMem hmem
    rw [if_neg (by simpa using hmem), herase]
    exact exec_dispatch host env s cmd outBody hmem

theorem exec_readOutBody (cmd : UsbIpFrame.CmdSubmit) :
    ∃ chunks, exec env.withRef (readOutBody cmd) s =
      if outBodySize cmd ≤ s.input.length then
        (.ok (s.input.take (outBodySize cmd)),
          { s with input := s.input.drop (outBodySize cmd), chunks })
      else (.error (.io (.eofInBody cmd.seqnum)), { s with input := [], chunks }) := by
  rw [readOutBody, outBodySize]
  by_cases hout : cmd.direction = dirOut ∧ cmd.transferBufferLength > 0
  · have hneg : ¬ cmd.transferBufferLength < 0 := fun h => Int32.lt_irrefl (Int32.lt_trans h hout.2)
    obtain ⟨chunks, hread⟩ := exec_readFully (ε := Throwable PumpException) env.withRef
      (List.replicate cmd.transferBufferLength.toNatClampNeg 0) s
    refine ⟨chunks, ?_⟩
    rw [List.length_replicate] at hread
    rw [if_pos hout, if_pos hout, newByteArray, if_neg hneg, exec_ofResult_ok_bind]
    by_cases hle : cmd.transferBufferLength.toNatClampNeg ≤ s.input.length
    · rw [if_pos hle] at hread ⊢
      rw [exec_bind_ok hread, exec_pure]
    · rw [if_neg hle] at hread ⊢
      rw [exec_bind_ok hread, exec_throw]
  · refine ⟨s.chunks, ?_⟩
    rw [if_neg hout, if_neg hout, if_pos (Nat.zero_le _), exec_pure, List.take_zero]
    rfl

theorem exec_handleUnlink {header : List UInt8} (h : header.length = urbHeaderLen)
    (hcmd : wordAt header 0 = UrbOp.cmdUnlink.toU32) :
    exec env.withRef (host.handleUnlink header) s =
      let u := UsbIpFrame.CmdUnlink.ofHeader header
      (.ok (), { s with
        output := s.output ++ (host.envelopeOf (retUnlinkPacket u.seqnum)).bytes
        env := (insert u.unlinkSeqnum s.env.1, s.env.2) }) := by
  rw [handleUnlink, parseCmdUnlink_eq h hcmd, mapError_ok, exec_ofResult_ok_bind,
    exec_bind_ok (exec_getRef env s), exec_bind_ok (exec_setRef env _ s), encodeRetUnlink_eq,
    exec_ofResult_ok_bind, exec_writeFrame _ _ _ (by rw [RetUnlink.length_encode]; decide),
    RetUnlink.length_encode, if_pos (by decide)]
  rfl

theorem exec_handleSubmit {header : List UInt8} (h : header.length = urbHeaderLen)
    (hcmd : wordAt header 0 = UrbOp.cmdSubmit.toU32) :
    ∃ chunks, exec env.withRef (host.handleSubmit header) s =
      let cmd := UsbIpFrame.CmdSubmit.ofHeader header
      if outBodySize cmd ≤ s.input.length then
        let r := carryOut env cmd (s.input.take (outBodySize cmd)) s.env.2 (host.plan s.env.1 cmd)
        sent (r.1.bind (host.replyOf cmd.seqnum))
          { s with
            input := s.input.drop (outBodySize cmd)
            chunks
            env := (s.env.1.erase cmd.seqnum, r.2) }
      else (.error (.io (.eofInBody cmd.seqnum)), { s with input := [], chunks }) := by
  obtain ⟨chunks, hbody⟩ := exec_readOutBody env s (UsbIpFrame.CmdSubmit.ofHeader header)
  refine ⟨chunks, ?_⟩
  rw [handleSubmit, parseCmdSubmit_eq h hcmd, mapError_ok, exec_ofResult_ok_bind]
  simp only
  by_cases hle : outBodySize (UsbIpFrame.CmdSubmit.ofHeader header) ≤ s.input.length
  · rw [if_pos hle] at hbody ⊢
    rw [exec_bind_ok hbody]
    exact exec_submit host env _ _ _
  · rw [if_neg hle] at hbody ⊢
    rw [exec_bind_error hbody]

end Handlers

/-! ### A round -/

section Round

variable (host : UsbIpHost) {env : Env usbSig τ}

/-- What a packet is answered with depends on the bytes of the packet only. -/
theorem answer_take (b : List UInt8) (st : Finset Int32 × τ) :
    host.answer env (b.take (urbSize b)) st =
      if wordAt b 0 = UrbOp.cmdSubmit.toU32 then
        let cmd := UsbIpFrame.CmdSubmit.ofHeader b
        let r := carryOut env cmd ((b.drop urbHeaderLen).take (outBodySize cmd)) st.2
          (host.plan st.1 cmd)
        (r.1.bind (host.replyOf cmd.seqnum), st.1.erase cmd.seqnum, r.2)
      else
        let u := UsbIpFrame.CmdUnlink.ofHeader b
        (some (host.envelopeOf (retUnlinkPacket u.seqnum)), insert u.unlinkSeqnum st.1, st.2) := by
  have hle := le_urbSize b
  rw [answer, wordAt_take (Nat.le_trans (by decide) hle), UsbIpFrame.CmdSubmit.ofHeader_take hle,
    UsbIpFrame.CmdUnlink.ofHeader_take hle]
  by_cases hcmd : wordAt b 0 = UrbOp.cmdSubmit.toU32
  · rw [if_pos hcmd, if_pos hcmd, List.drop_take, urbSize, if_pos hcmd, Nat.add_sub_cancel_left]
  · rw [if_neg hcmd, if_neg hcmd]

/-- What a round does with a header: it takes one of the two branches, or ends the run. -/
theorem exec_handle {header : List UInt8} (h : header.length = urbHeaderLen)
    (s : Io (Finset Int32 × τ)) :
    exec env.withRef (pumpRound.handle host header) s =
      if wordAt header 0 = UrbOp.cmdSubmit.toU32 then
        exec env.withRef (do host.handleSubmit header; return .inl ()) s
      else if wordAt header 0 = UrbOp.cmdUnlink.toU32 then
        exec env.withRef (do host.handleUnlink header; return .inl ()) s
      else (.ok (.inr ()), s) := by
  have hsubmit : cmdSubmit = UrbOp.cmdSubmit.toU32.toInt32 := by decide
  have hunlink : cmdUnlink = UrbOp.cmdUnlink.toU32.toInt32 := by decide
  rw [pumpRound.handle, peekCommand_eq h, mapError_ok, exec_ofResult_ok_bind, exec_ite, exec_ite,
    exec_pure, hsubmit, hunlink]
  simp only [toInt32_eq_iff]

/-- What a round comes to when it handles a command. -/
def handled (result : Option Envelope) (s : Io (Finset Int32 × τ)) :
    Except (Throwable PumpException) (Unit ⊕ Unit) × Io (Finset Int32 × τ) :=
  match result with
  | some e => (.ok (.inl ()), { s with output := s.output ++ e.bytes })
  | none => (.error .negativeArraySize, s)

theorem exec_bind_sent {p : Act pumpSig (Throwable PumpException) Unit} {result : Option Envelope}
    {s s' : Io (Finset Int32 × τ)} (h : exec env.withRef p s = sent result s') :
    exec env.withRef (do p; return .inl ()) s = handled result s' := by
  rcases result with _ | reply
  · exact exec_bind_error h
  · rw [exec_bind_ok h, exec_pure]
    rfl

/-- **A round handles the command it takes.**  If the pump has been stopped, or if there is no
command, it ends the run without a reply. -/
theorem exec_pumpRound (s : Io (Finset Int32 × τ)) :
    ((env .stopped s.env.2).1 = true ∧ exec env.withRef host.pumpRound s =
      (.ok (.inr ()), { s with env := (s.env.1, (env .stopped s.env.2).2) })) ∨
    (∃ raw n chunks, (env .stopped s.env.2).1 = false ∧ takeUrb s.input = .ok (some (raw, n)) ∧
      exec env.withRef host.pumpRound s =
        handled (host.round env raw s.env).1
          { s with input := s.input.drop n, chunks, env := (host.round env raw s.env).2 }) ∨
    (∀ r, takeUrb s.input ≠ .ok (some r)) ∧
      ∃ result input chunks, exec env.withRef host.pumpRound s =
          (result, { s with input, chunks, env := (s.env.1, (env .stopped s.env.2).2) }) ∧
        (result = .ok (.inr ()) ∧ (s.input.length < urbHeaderLen ∨ ¬ IsCommand s.input) ∨
          ∃ e, result = .error (.io e)) := by
  have hflag : exec env.withRef (isStopped : Act pumpSig (Throwable PumpException) Bool) s =
      (.ok (env .stopped s.env.2).1, { s with env := (s.env.1, (env .stopped s.env.2).2) }) := by
    rw [isStopped, exec_callOp]
  rw [pumpRound, exec_bind_ok hflag, exec_ite]
  by_cases hstop : (env .stopped s.env.2).1 = true
  · rw [if_pos hstop, exec_pure]
    exact Or.inl ⟨hstop, rfl⟩
  have hround (raw : List UInt8) : host.round env raw s.env =
      host.answer env raw (s.env.1, (env .stopped s.env.2).2) := by
    rw [round, if_neg hstop]
  refine Or.inr ?_
  simp only [hround]
  rw [if_neg hstop, Bool.not_eq_true] at *
  generalize (env .stopped s.env.2).2 = t
  have hnew : (newByteArray 48 : Except (Throwable PumpException) _) =
      .ok (List.replicate urbHeaderLen 0) := newByteArray_of_nonneg (by decide)
  obtain ⟨chunks, hread⟩ := exec_readFully (ε := Throwable PumpException) env.withRef
    (List.replicate urbHeaderLen 0) { s with env := (s.env.1, t) }
  rw [List.length_replicate] at hread
  simp only at hread
  rw [hnew, exec_ofResult_ok_bind]
  -- the header first; its length is always the same
  by_cases hshort : s.input.length < urbHeaderLen
  · -- the stream ends inside a header
    rw [if_neg (by omega)] at hread
    refine Or.inr ⟨?_, .ok (.inr ()), [], chunks, ?_, Or.inl ⟨rfl, Or.inl hshort⟩⟩
    · intro r h
      rw [takeUrb, if_pos hshort] at h
      cases h
    · rw [exec_bind_ok hread, exec_pure]
  have hle : urbHeaderLen ≤ s.input.length := Nat.le_of_not_lt hshort
  have hheader : (s.input.take urbHeaderLen).length = urbHeaderLen := by
    rw [List.length_take, Nat.min_eq_left hle]
  have hword : wordAt (s.input.take urbHeaderLen) 0 = wordAt s.input 0 := wordAt_take (by decide)
  rw [if_pos hle] at hread
  rw [exec_bind_ok hread, exec_handle host hheader, hword]
  by_cases hsubmit : wordAt s.input 0 = UrbOp.cmdSubmit.toU32
  · -- CMD_SUBMIT
    obtain ⟨chunks', hx⟩ := exec_handleSubmit host env
      ⟨s.input.drop urbHeaderLen, chunks, s.output, (s.env.1, t)⟩ hheader (hword.trans hsubmit)
    have hsize : urbSize s.input =
        urbHeaderLen + outBodySize (UsbIpFrame.CmdSubmit.ofHeader s.input) := by
      rw [urbSize, if_pos hsubmit]
    rw [UsbIpFrame.CmdSubmit.ofHeader_take (Nat.le_refl _)] at hx
    simp only [List.length_drop] at hx
    rw [if_pos hsubmit]
    -- the body is read next, and its length comes from the header
    by_cases hbody : outBodySize (UsbIpFrame.CmdSubmit.ofHeader s.input) ≤
        s.input.length - urbHeaderLen
    · refine Or.inl ⟨_, _, chunks', hstop, takeUrb_eq_some.2 ⟨Or.inl hsubmit, by omega, rfl, rfl⟩, ?_⟩
      rw [if_pos hbody] at hx
      rw [exec_bind_sent hx, answer_take, if_pos hsubmit, hsize, List.drop_drop]
    · rw [if_neg hbody] at hx
      rw [exec_bind_error hx]
      refine Or.inr ⟨?_, _, _, chunks', rfl, Or.inr ⟨_, rfl⟩⟩
      intro r h
      have hfits := (takeUrb_eq_some.1 h).2.1
      omega
  rw [if_neg hsubmit]
  by_cases hunlink : wordAt s.input 0 = UrbOp.cmdUnlink.toU32
  · -- CMD_UNLINK
    have hsize : urbSize s.input = urbHeaderLen := by rw [urbSize, if_neg hsubmit]
    have hx := exec_handleUnlink host env
      ⟨s.input.drop urbHeaderLen, chunks, s.output, (s.env.1, t)⟩ hheader (hword.trans hunlink)
    rw [UsbIpFrame.CmdUnlink.ofHeader_take (Nat.le_refl _)] at hx
    refine Or.inl ⟨_, _, chunks, hstop, takeUrb_eq_some.2 ⟨Or.inr hunlink, by omega, rfl, rfl⟩, ?_⟩
    rw [if_pos hunlink, exec_bind_ok hx, exec_pure, answer_take, if_neg hsubmit, hsize]
    rfl
  · -- without knowing the command the pump cannot know how many bytes follow
    rw [if_neg hunlink]
    have hcmd : ¬ IsCommand s.input := fun h => h.elim hsubmit hunlink
    refine Or.inr ⟨?_, _, _, chunks, rfl, Or.inl ⟨rfl, Or.inr hcmd⟩⟩
    intro r h
    exact hcmd (takeUrb_eq_some.1 h).1

end Round

/-! ### A run -/

section Run

variable (host : UsbIpHost) (env : Env usbSig τ)

/-- The state of the surroundings after the interfaces have been released. -/
def released (env : Env usbSig τ) (ifaces : List UsbInterface) (t : τ) : τ :=
  ifaces.foldl (fun t iface => (env (.releaseInterface iface) t).2) t

theorem exec_cleanup {ε : Type} (ifaces : List UsbInterface) (s : Io (Finset Int32 × τ)) :
    exec env.withRef (cleanup ifaces : Act pumpSig ε Unit) s =
      (.ok (), { s with env := (s.env.1, released env ifaces s.env.2) }) := by
  induction ifaces generalizing s with
  | nil => rfl
  | cons iface rest ih =>
      rw [cleanup, exec_bind_ok (exec_callOp env _ s), ih]
      rfl

/-- After a stop no command is answered. -/
theorem run_round_of_stopped {st : Finset Int32 × τ} (hstop : (env .stopped st.2).1 = true)
    (commands : List (List UInt8)) :
    let r := Transducer.run (host.round env) commands st
    r.outputs = [] ∧ (r.completed = true → r.state = st) ∧
      (r.completed = false → r.state = (st.1, (env .stopped st.2).2)) := by
  cases commands with
  | nil =>
      refine ⟨rfl, fun _ => rfl, ?_⟩
      intro h
      cases h
  | cons raw rest =>
      have hround : host.round env raw st = (none, st.1, (env .stopped st.2).2) := by
        rw [round, if_pos hstop]
      rw [Transducer.run_cons_none hround]
      refine ⟨rfl, ?_, fun _ => rfl⟩
      intro h
      cases h

/-- The rounds of a run handle the commands that are taken off the stream, in turn. -/
theorem loop_pumpRound (fuel : ℕ) (s : Io (Finset Int32 × τ)) (hfuel : s.input.length < fuel) :
    ∃ result input chunks st,
      let r := Transducer.run (host.round env) (StreamCodec.frames takeUrb s.input) s.env
      loop env.withRef (rounds fun _ => host.pumpRound) fuel () s =
        some (result, ⟨input, chunks, s.output ++ r.outputs.flatMap Envelope.bytes, st⟩) ∧
      (r.completed = true → (result = .ok () ∨ ∃ e, result = .error (.io e)) ∧
        st = (r.state.1, (env .stopped r.state.2).2)) ∧
      (r.completed = false → st = r.state ∧
        (result = .error .negativeArraySize ∨
          result = .ok () ∧ ∃ t, (env .stopped t).1 = true)) := by
  -- round by round; the tables of the host do not change, only the unlinked numbers do
  induction fuel generalizing s with
  | zero => omega
  | succ fuel ih =>
      rcases host.exec_pumpRound s with
        ⟨hstop, hx⟩ | ⟨raw, n, chunks, hstop, htake, hx⟩ | ⟨hnone, result, input, chunks, hx, hresult⟩
      · -- the pump has been stopped, with or without a command to come
        obtain ⟨houtputs, htrue, hfalse⟩ :=
          host.run_round_of_stopped env hstop (StreamCodec.frames takeUrb s.input)
        refine ⟨.ok (), s.input, s.chunks, (s.env.1, (env .stopped s.env.2).2),
          (loop_rounds_inr hx).trans ?_, ?_, ?_⟩
        · rw [houtputs, List.flatMap_nil, List.append_nil]
        · intro h
          rw [htrue h]
          exact ⟨Or.inl rfl, rfl⟩
        · intro h
          exact ⟨(hfalse h).symm, Or.inr ⟨rfl, _, hstop⟩⟩
      · have hpos := takeUrb_stable.pos htake
        have hle := takeUrb_stable.le htake
        rw [StreamCodec.frames_eq_cons takeUrb_stable htake]
        rcases hans : host.round env raw s.env with ⟨_ | reply, st⟩
        · -- the exception escapes
          rw [hans] at hx
          rw [Transducer.run_cons_none hans]
          refine ⟨.error .negativeArraySize, s.input.drop n, chunks, st,
            (loop_rounds_error hx).trans ?_, ?_, fun _ => ⟨rfl, Or.inl rfl⟩⟩
          · rw [List.flatMap_nil, List.append_nil]
          · intro h
            cases h
        · rw [hans] at hx
          have hlen : (s.input.drop n).length < fuel := by
            rw [List.length_drop]
            omega
          obtain ⟨result, input, chunks', st', hloop, htrue, hfalse⟩ := ih
            ⟨s.input.drop n, chunks, s.output ++ reply.bytes, st⟩ hlen
          rw [Transducer.run_cons_some hans]
          refine ⟨result, input, chunks', st', (loop_rounds_inl hx).trans (hloop.trans ?_), htrue,
            hfalse⟩
          rw [List.flatMap_cons, List.append_assoc]
      · -- nothing is taken, and the run ends
        rw [StreamCodec.frames_eq_nil takeUrb_stable hnone, Transducer.run_nil]
        have hfalse {p : Prop} (h : true = false) : p := by cases h
        rcases hresult with ⟨rfl, -⟩ | ⟨e, rfl⟩
        · refine ⟨.ok (), input, chunks, _, (loop_rounds_inr hx).trans ?_,
            fun _ => ⟨Or.inl rfl, rfl⟩, hfalse⟩
          rw [List.flatMap_nil, List.append_nil]
        · refine ⟨.error (.io e), input, chunks, _, (loop_rounds_error hx).trans ?_,
            fun _ => ⟨Or.inr ⟨e, rfl⟩, rfl⟩, hfalse⟩
          rw [List.flatMap_nil, List.append_nil]

/-- What is left of the result of the loop after the `catch` block. -/
def caught : Except (Throwable PumpException) Unit → Except (Throwable PumpException) Unit
  | .error (.io _) => .ok ()
  | result => result

/-- The `catch` and `finally` blocks. -/
theorem exec_endPump (result : Except (Throwable PumpException) Unit)
    (s : Io (Finset Int32 × τ)) :
    exec env.withRef (host.endPump result) s =
      (caught result, { s with env := (s.env.1, released env host.claimedInterfaces s.env.2) }) := by
  have hclean := exec_cleanup (ε := Throwable PumpException) env host.claimedInterfaces s
  cases result with
  | ok u =>
      rw [endPump, exec_bind_ok hclean, exec_ofResult]
      · rfl
      · intro e h
        cases h
  | error e =>
      cases e with
      | io e =>
          rw [endPump, exec_bind_ok hclean, exec_pure]
          rfl
      | _ =>
          rw [endPump, exec_bind_ok hclean, exec_ofResult]
          · rfl
          · intro e h
            cases h

/-- What a run writes: the replies to the commands it takes, up to a stop or an exception. -/
theorem pumpUrbs_outputs (s : Io (Finset Int32 × τ)) :
    ∃ result s', (∀ fuel, s.input.length < fuel → host.pumpUrbs env fuel s = some (result, s')) ∧
      s'.output = s.output ++ (Transducer.run (host.round env)
        (StreamCodec.frames takeUrb s.input) s.env).outputs.flatMap Envelope.bytes := by
  obtain ⟨result, input, chunks, st, hloop, -⟩ :=
    host.loop_pumpRound env (s.input.length + 1) s (Nat.lt_succ_self _)
  refine ⟨caught result, ⟨input, chunks, _, (st.1, released env host.claimedInterfaces st.2)⟩,
    fun fuel hfuel => ?_, rfl⟩
  rw [pumpUrbs, loop_mono hfuel hloop, Option.map_some, exec_endPump]

/-- A run whose stop flag is a flag: reading it changes nothing. -/
theorem pumpUrbs_of_pure (hpure : ∀ t, (env .stopped t).2 = t) (s : Io (Finset Int32 × τ)) :
    ∃ result input chunks, ∀ fuel, s.input.length < fuel →
      let r := Transducer.run (host.round env) (StreamCodec.frames takeUrb s.input) s.env
      host.pumpUrbs env fuel s = some (result,
        ⟨input, chunks, s.output ++ r.outputs.flatMap Envelope.bytes,
          (r.state.1, released env host.claimedInterfaces r.state.2)⟩) := by
  obtain ⟨result, input, chunks, st, hloop, htrue, hfalse⟩ :=
    host.loop_pumpRound env (s.input.length + 1) s (Nat.lt_succ_self _)
  refine ⟨caught result, input, chunks, fun fuel hfuel => ?_⟩
  rw [pumpUrbs, loop_mono hfuel hloop, Option.map_some, exec_endPump]
  rcases hcompleted : (Transducer.run (host.round env) (StreamCodec.frames takeUrb s.input)
    s.env).completed with _ | _
  · rw [(hfalse hcompleted).1]
  · rw [(htrue hcompleted).2, hpure]

/-- The result of a run, by whether every command was answered. -/
def resultOf : Bool → Except (Throwable PumpException) Unit
  | true => .ok ()
  | false => .error .negativeArraySize

/-- **A run handles the commands it takes, in turn**, until one of them cannot be answered; then the
interfaces are released. -/
theorem pumpUrbs_eq (hstop : ∀ t, env .stopped t = (false, t)) (s : Io (Finset Int32 × τ)) :
    ∃ input chunks, ∀ fuel, s.input.length < fuel →
      let r := Transducer.run (host.answer env) (StreamCodec.frames takeUrb s.input) s.env
      host.pumpUrbs env fuel s = some (resultOf r.completed,
        ⟨input, chunks, s.output ++ r.outputs.flatMap Envelope.bytes,
          (r.state.1, released env host.claimedInterfaces r.state.2)⟩) := by
  obtain ⟨result, input, chunks, st, hloop, htrue, hfalse⟩ :=
    host.loop_pumpRound env (s.input.length + 1) s (Nat.lt_succ_self _)
  refine ⟨input, chunks, fun fuel hfuel => ?_⟩
  rw [pumpUrbs, loop_mono hfuel hloop, Option.map_some, exec_endPump]
  rw [round_eq hstop] at htrue hfalse ⊢
  generalize Transducer.run (host.answer env) (StreamCodec.frames takeUrb s.input) s.env = r at *
  rcases hcompleted : r.completed with _ | _
  · obtain ⟨rfl, rfl | ⟨-, t, ht⟩⟩ := hfalse hcompleted
    · simp only [hcompleted, caught, resultOf]
    · rw [hstop] at ht
      cases ht
  · obtain ⟨hresult, rfl⟩ := htrue hcompleted
    rcases hresult with rfl | ⟨e, rfl⟩
    · simp only [hcompleted, hstop, caught, resultOf]
    · simp only [hcompleted, hstop, caught, resultOf]

end Run

end UsbIpHost

end Zerowire

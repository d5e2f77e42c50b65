/-
**The URB driver of the simulated receiver** (`desktop-linux/src/urb_driver.rs`), and the transcript
it writes to.

Where there is no `vhci-hcd` the receiver can play its part: it sends a script of URBs, one at a
time, checks the reply to each, and ends with an unlink.  Everything is noted in a transcript, a
file which is opened for appending and to which lines are written on a best-effort basis.

Main definitions:

* `Zerowire.simulatedSig`, `Zerowire.Desk` — the transcript and the stop flag, and one way they
  behave;
* `Zerowire.ScriptedUrb`, `Zerowire.scriptDefault` — the script;
* `Zerowire.DriverStats`, `Zerowire.driveUrb`, `Zerowire.runScript` — the driver.

Main results:

* `Zerowire.runScript_writes` — the driver sends something as soon as it has its transcript.
-/

import Zerowire.ProgramRel
import Zerowire.Usbip
import Zerowire.Wire

set_option relaxedAutoImplicit false
set_option autoImplicit false

namespace Zerowire

open Bytes Program

/-! ### The transcript -/

/-- What a simulated session asks of its surroundings. -/
inductive SimulatedOp where
  /-- `stop.load()`. -/
  | stopped
  /-- `create_dir_all(parent).ok()`. -/
  | createDirAll
  /-- The transcript is opened for appending, and with `create` if need be made. -/
  | openAppend (create : Bool)
  /-- `writeln!(.., ..).ok()`. -/
  | writeln (line : String)
  deriving Repr, DecidableEq

/-- The answers. -/
@[reducible] def SimulatedOp.Ans : SimulatedOp → Type
  | .stopped => Bool
  | .createDirAll => Unit
  | .openAppend _ => Except String Unit
  | .writeln _ => Unit

/-- The surroundings of a simulated session. -/
abbrev simulatedSig : Sig := ⟨SimulatedOp, SimulatedOp.Ans⟩

/-- How the surroundings behave: what the flag says each time it is looked at, and whether the
transcript can be opened each time. -/
structure Desk where
  stop : ℕ → Bool
  opens : ℕ → Bool

/-- What has become of the surroundings. -/
structure Trail where
  polls : ℕ := 0
  opened : ℕ := 0
  transcript : List String := []
  deriving Repr, DecidableEq

/-- The surroundings. -/
def Desk.env (desk : Desk) : Env simulatedSig Trail
  | .stopped, t => (desk.stop t.polls, { t with polls := t.polls + 1 })
  | .createDirAll, t => ((), t)
  | .openAppend _, t =>
      (if desk.opens t.opened then .ok () else .error "", { t with opened := t.opened + 1 })
  | .writeln line, t => ((), { t with transcript := t.transcript ++ [line] })

/-- A line for the transcript. -/
def note {ε : Type} (line : String) : Act simulatedSig ε Unit :=
  call (X := simulatedSig) (.writeln line)

/-! ### The script -/

/-- `ScriptedUrb`. -/
structure ScriptedUrb where
  label : String
  seqnum : UInt32
  ep : UInt32
  direction : UInt32
  setup : Setup
  transferBufferLength : UInt32
  outBody : List UInt8 := []
  expectedStatus : Int32 := 0
  expectedActualLength : UInt32
  deriving DecidableEq

/-- No setup packet. -/
def noSetup : Setup := ⟨[0, 0, 0, 0, 0, 0, 0, 0], rfl⟩

/-- The seven URBs that are always in the script. -/
def scriptBase : List ScriptedUrb :=
  [{ label := "GET_DESCRIPTOR(Device,18)", seqnum := 1, ep := 0, direction := urbDirIn,
     setup := ⟨[0x80, 0x06, 0x00, 0x01, 0x00, 0x00, 18, 0x00], rfl⟩,
     transferBufferLength := 18, expectedActualLength := 18 },
   { label := "GET_DESCRIPTOR(Config,9)", seqnum := 2, ep := 0, direction := urbDirIn,
     setup := ⟨[0x80, 0x06, 0x00, 0x02, 0x00, 0x00, 9, 0x00], rfl⟩,
     transferBufferLength := 9, expectedActualLength := 9 },
   { label := "GET_DESCRIPTOR(Config,32)", seqnum := 3, ep := 0, direction := urbDirIn,
     setup := ⟨[0x80, 0x06, 0x00, 0x02, 0x00, 0x00, 32, 0x00], rfl⟩,
     transferBufferLength := 32, expectedActualLength := 32 },
   { label := "SET_CONFIGURATION(1)", seqnum := 4, ep := 0, direction := urbDirOut,
     setup := ⟨[0x00, 0x09, 0x01, 0x00, 0x00, 0x00, 0x00, 0x00], rfl⟩,
     transferBufferLength := 0, expectedActualLength := 0 },
   { label := "bulk-IN-64", seqnum := 5, ep := 1, direction := urbDirIn, setup := noSetup,
     transferBufferLength := 64, expectedActualLength := 64 },
   { label := "bulk-OUT-64", seqnum := 6, ep := 2, direction := urbDirOut, setup := noSetup,
     transferBufferLength := 64, outBody := (List.range 64).map UInt8.ofNat,
     expectedActualLength := 64 },
   { label := "bulk-IN-32", seqnum := 7, ep := 1, direction := urbDirIn, setup := noSetup,
     transferBufferLength := 32, expectedActualLength := 32 }]

/-- One of the bulk reads that may follow. -/
def extraBulkIn (i : ℕ) : ScriptedUrb :=
  let seqnum := 100 + UInt32.ofNat i
  { label := "extra-bulk-IN-" ++ toString seqnum.toNat, seqnum, ep := 1, direction := urbDirIn,
    setup := noSetup, transferBufferLength := 64, expectedActualLength := 64 }

/-- `script_default`; the `devid` is not used. -/
def scriptDefault (nExtraBulkIn _devid : UInt32) : List ScriptedUrb :=
  scriptBase ++ (List.range nExtraBulkIn.toNat).map extraBulkIn

/-! ### The driver -/

/-- `DriverStats`; the counters wrap around. -/
structure DriverStats where
  urbsIssued : UInt32 := 0
  urbsOk : UInt32 := 0
  unlinksIssued : UInt32 := 0
  unlinksOk : UInt32 := 0
  bytesReturned : UInt64 := 0
  deriving Repr, DecidableEq

/-- What makes the driver fail. -/
inductive DriverError where
  /-- "opening .."; the text is that of the system. -/
  | openTranscript (text : String)
  | send (e : SendError)
  | recv (e : RecvError)
  /-- "expected Usbip envelope, got ..". -/
  | unexpectedChannel (channel : Channel)
  | frame (e : UsbipError)
  /-- "RET frame import_id .. != session ..". -/
  | importId (got session : UInt32)
  /-- "unknown URB op in reply for ..". -/
  | unknownOp
  /-- "expected RET_SUBMIT for .., got ..". -/
  | unexpectedOp (op : UrbOp)
  | header (e : UrbError)
  /-- "URB .. failed: status=.. (want ..), actual_length=.. (want ..)". -/
  | failed (label : String) (status : Int32) (actualLength : UInt32)
  /-- "URB .. body bytes (..) != actual_length (..)". -/
  | bodyBytes (label : String) (bodyLen actualLength : UInt32)
  /-- "RET_UNLINK status .. != 0". -/
  | unlinkStatus (status : Int32)
  deriving Repr, DecidableEq

/-- The number under which the driver addresses the device. -/
def driverDevid : UInt32 := 0x00010002

/-- The CMD_SUBMIT of a scripted URB. -/
def ScriptedUrb.cmd (urb : ScriptedUrb) : CmdSubmit where
  seqnum := urb.seqnum
  devid := driverDevid
  direction := urb.direction
  ep := urb.ep
  transferFlags := 0
  transferBufferLength := urb.transferBufferLength
  startFrame := 0
  numberOfPackets := 0
  interval := 0
  setup := urb.setup

/-- The CMD_UNLINK at the end. -/
def finalUnlink : CmdUnlink := ⟨9001, driverDevid, urbDirOut, 0, 5⟩

/-- Open the transcript. -/
def openTranscript : Act simulatedSig (Fault DriverError) Unit := do
  match ← call (X := simulatedSig) (.openAppend true) with
  | .ok () => return ()
  | .error text => throw (.err (.openTranscript text))

/-- Send one packet in its frame, and receive the envelope that comes back. -/
def exchange (importId : UInt32) (payload : List UInt8) :
    Act simulatedSig (Fault DriverError) Envelope := do
  mapErr (Fault.map .send) (Tls.sendEnvelope .usbip (UsbipFrame.encode ⟨importId, payload⟩))
  let e ← mapErr (Fault.map .recv) Tls.recvEnvelope
  if e.channel ≠ .usbip then throw (.err (.unexpectedChannel e.channel)) else return e

/-- The frame of an envelope. -/
def frameOf (e : Envelope) : Except (Fault DriverError) UsbipFrame :=
  (UsbipFrame.parse e.payload).mapError (Fault.map .frame)

/-- The op of a reply, which has to be the one expected. -/
def expectOp (op : UrbOp) (raw : List UInt8) : Except (Fault DriverError) Unit := do
  match ← (peekUrbOp raw).mapError (Fault.map .header) with
  | none => throw (.err .unknownOp)
  | some got => if got ≠ op then throw (.err (.unexpectedOp got)) else return ()

/-- The reply to a CMD_SUBMIT, and how many bytes follow its header. -/
def submitReply (importId : UInt32) (e : Envelope) :
    Except (Fault DriverError) (RetSubmit × UInt32) := do
  let f ← frameOf e
  if f.importId ≠ importId then throw (.err (.importId f.importId importId))
  else
    expectOp .retSubmit f.raw
    let ret ← (RetSubmit.parse (← slice f.raw 0 urbHeaderLen)).mapError (Fault.map .header)
    return (ret, UInt32.ofNat (f.raw.length - urbHeaderLen))

/-- The reply to the CMD_UNLINK; its `import_id` is not looked at. -/
def unlinkReply (e : Envelope) : Except (Fault DriverError) RetUnlink := do
  let f ← frameOf e
  expectOp .retUnlink f.raw
  (RetUnlink.parse (← slice f.raw 0 urbHeaderLen)).mapError (Fault.map .header)

/-- The checks on the reply to a scripted URB. -/
def checkReply (urb : ScriptedUrb) (stats : DriverStats) (ret : RetSubmit) (bodyLen : UInt32) :
    Except (Fault DriverError) DriverStats :=
  if ret.status = urb.expectedStatus ∧ ret.actualLength = urb.expectedActualLength then
    let stats := { stats with urbsOk := stats.urbsOk + 1 }
    if urb.direction = urbDirIn then
      if bodyLen ≠ ret.actualLength then
        .error (.err (.bodyBytes urb.label bodyLen ret.actualLength))
      else .ok { stats with bytesReturned := stats.bytesReturned + ret.actualLength.toUInt64 }
    else .ok stats
  else .error (.err (.failed urb.label ret.status ret.actualLength))

/-- The line for a scripted URB. -/
def urbLine (urb : ScriptedUrb) (ret : RetSubmit) (bodyLen : UInt32) : String :=
  "sim-urb " ++ urb.label ++ " seq=" ++ toString ret.seqnum.toNat ++ " ep=" ++
    toString urb.ep.toNat ++ " dir=" ++ toString urb.direction.toNat ++ " status=" ++
    toString ret.status.toInt ++ " actual_length=" ++ toString ret.actualLength.toNat ++
    " body_bytes=" ++ toString bodyLen.toNat

/-- One round of the loop of `run_script`. -/
def driveUrb (importId : UInt32) (stats : DriverStats) (urb : ScriptedUrb) :
    Act simulatedSig (Fault DriverError) DriverStats := do
  let e ← exchange importId (urb.cmd.encode ++ urb.outBody)
  let stats := { stats with urbsIssued := stats.urbsIssued + 1 }
  let (ret, bodyLen) ← ofResult (submitReply importId e)
  note (urbLine urb ret bodyLen)
  ofResult (checkReply urb stats ret bodyLen)

/-- The unlink with which `run_script` ends. -/
def driveUnlink (importId : UInt32) (stats : DriverStats) :
    Act simulatedSig (Fault DriverError) DriverStats := do
  let e ← exchange importId finalUnlink.encode
  let stats := { stats with unlinksIssued := stats.unlinksIssued + 1 }
  let ret ← ofResult (unlinkReply e)
  note ("sim-unlink seq=" ++ toString ret.seqnum.toNat ++ " status=" ++ toString ret.status.toInt ++
    " target_seq=" ++ toString finalUnlink.unlinkSeqnum.toNat)
  ofResult (if ret.status = 0 then .ok { stats with unlinksOk := stats.unlinksOk + 1 }
    else .error (.err (.unlinkStatus ret.status)))

/-- `run_script`. -/
def runScript (importId : UInt32) (script : List ScriptedUrb) :
    Act simulatedSig (Fault DriverError) DriverStats := do
  openTranscript
  let stats ← script.foldlM (driveUrb importId) {}
  let stats ← driveUnlink importId stats
  note ("sim-summary urbs_issued=" ++ toString stats.urbsIssued.toNat ++ " urbs_ok=" ++
    toString stats.urbsOk.toNat ++ " unlinks_issued=" ++ toString stats.unlinksIssued.toNat ++
    " unlinks_ok=" ++ toString stats.unlinksOk.toNat ++ " bytes_returned=" ++
    toString stats.bytesReturned.toNat)
  return stats

/-! ### What the driver does first -/

section Driver

variable (desk : Desk)

theorem exec_openTranscript (io : Io Trail) :
    exec desk.env openTranscript io =
      (if desk.opens io.env.opened then .ok () else .error (.err (.openTranscript "")),
        { io with env := { io.env with opened := io.env.opened + 1 } }) := by
  have hcall : exec desk.env (call (X := simulatedSig) (.openAppend true) :
      Act simulatedSig (Fault DriverError) _) io =
      (.ok (if desk.opens io.env.opened then .ok () else .error ""),
        { io with env := { io.env with opened := io.env.opened + 1 } }) := rfl
  rw [openTranscript, exec_bind_ok hcall]
  cases desk.opens io.env.opened with
  | true => rfl
  | false => rfl

/-- Without its transcript the driver sends nothing. -/
theorem exec_runScript_closed {io : Io Trail} (hopen : desk.opens io.env.opened = false)
    (importId : UInt32) (script : List ScriptedUrb) :
    exec desk.env (runScript importId script) io =
      (.error (.err (.openTranscript "")),
        { io with env := { io.env with opened := io.env.opened + 1 } }) := by
  have hfails := exec_openTranscript desk io
  rw [hopen] at hfails
  rw [runScript, exec_bind_error hfails]

/-- An exchange begins with an envelope that is sent. -/
theorem exchange_writes {importId : UInt32} {payload : List UInt8}
    (hfit : (⟨.usbip, UsbipFrame.encode ⟨importId, payload⟩⟩ : Envelope).Fits) (io : Io Trail) :
    io.output.length < (exec desk.env (exchange importId payload) io).2.output.length := by
  refine exec_bind_writes ?_ _
  have hsend := exec_mapErr_ok (exec_sendEnvelopeWith desk.env "writing TLS envelope" hfit io)
    (Fault.map DriverError.send)
  rw [Tls.sendEnvelope, hsend, List.length_append, Envelope.length_bytes, headerLen]
  omega

/-- A scripted URB without data is sent. -/
theorem driveUrb_writes {urb : ScriptedUrb} (hbody : urb.outBody = []) (importId : UInt32)
    (stats : DriverStats) (io : Io Trail) :
    io.output.length < (exec desk.env (driveUrb importId stats urb) io).2.output.length := by
  refine exec_bind_writes (exchange_writes desk ?_ io) _
  rw [Envelope.Fits, UsbipFrame.encode, hbody, List.append_nil, List.length_append, length_toBe32,
    CmdSubmit.length_encode]
  decide

/-- **With its transcript the driver sends something.** -/
theorem runScript_writes {io : Io Trail} (hopen : desk.opens io.env.opened = true)
    (importId n devid : UInt32) :
    io.output.length <
      (exec desk.env (runScript importId (scriptDefault n devid)) io).2.output.length := by
  obtain ⟨t, hopens, hout⟩ : ∃ t, exec desk.env openTranscript io = (.ok (), t) ∧
      t.output = io.output := by
    have hopens := exec_openTranscript desk io
    rw [hopen] at hopens
    exact ⟨_, hopens, rfl⟩
  obtain ⟨urb, rest, hscript, hbody⟩ : ∃ urb rest, scriptDefault n devid = urb :: rest ∧
      urb.outBody = [] := ⟨_, _, rfl, rfl⟩
  rw [runScript, exec_bind_ok hopens, hscript, ← hout]
  refine exec_bind_writes ?_ _
  rw [List.foldlM_cons]
  exact exec_bind_writes (driveUrb_writes desk hbody importId {} t) _

end Driver

end Zerowire

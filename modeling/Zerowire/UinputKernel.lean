/-
**The virtual input device and the kernel** (`desktop-linux/src/uinput.rs`).

To its callers a device is there after `create`, takes events, and is gone when it is dropped.  To
the kernel it is a file: `/dev/uinput` is opened, the events that will come are declared by one
`ioctl` each, the device is named by a `uinput_setup` and made by UI_DEV_CREATE, each event is a
`write` of an `input_event`, and UI_DEV_DESTROY and `close` end it.  Every one of these calls can
fail.

A device belongs to the session, and a BIND_ACK that comes when there is one already makes another:
the new one is created before the old one is dropped.  A session that returns, or fails, drops what
it has.

Main definitions:

* `Zerowire.systemSig` — the system calls;
* `Zerowire.UinputSetup`, `Zerowire.InputEvent.record` — what is handed to the kernel, byte for
  byte;
* `Zerowire.UinputDevice.create`, `Zerowire.UinputDevice.writeEvent`,
  `Zerowire.UinputDevice.destroy`, `Zerowire.UinputDevice.drop` — the calls of the device;
* `Zerowire.onDesk`, `Zerowire.onKernel`, `Zerowire.receiving` — a session of the receiver, with its
  statics and the device it owns;
* `Zerowire.Driver`, `Zerowire.uinputDriver` — what the kernel makes of the calls, and which it
  expects.

Main results:

* `Zerowire.InputEvent.ofRecord_record` — the kernel reads the event that was written;
* `Zerowire.simulates_onKernel` — **what each operation comes to in the kernel**, whichever call
  fails;
* `Zerowire.receiving_disciplined` — **no session makes a call that the kernel does not expect**,
  and none leaves a file open;
* `Zerowire.receiving_devices` — **the kernel has had the devices of the session**, and each had its
  events.
-/

import Zerowire.DeclaredEvents
import Zerowire.FastLane
import Zerowire.Threading

set_option relaxedAutoImplicit false
set_option autoImplicit false

namespace Zerowire

open Bytes Program

/-! ### The numbers -/

/-- `ioctl_io`. -/
def ioctlIo (typ nr : UInt8) : UInt64 :=
  ((0 : UInt64) <<< 30) ||| ((0 : UInt64) <<< 16) ||| (typ.toUInt64 <<< 8) ||| nr.toUInt64

/-- `ioctl_iow`. -/
def ioctlIow (typ nr : UInt8) (size : ℕ) : UInt64 :=
  ((1 : UInt64) <<< 30) ||| (UInt64.ofNat size <<< 16) ||| (typ.toUInt64 <<< 8) ||| nr.toUInt64

/-- `size_of::<UinputSetup>()`. -/
def sizeOfUinputSetup : ℕ := 92

def uiSetEvbit : UInt64 := ioctlIow 0x55 100 4
def uiSetKeybit : UInt64 := ioctlIow 0x55 101 4
def uiSetRelbit : UInt64 := ioctlIow 0x55 102 4
def uiDevSetup : UInt64 := ioctlIow 0x55 3 sizeOfUinputSetup
def uiDevCreate : UInt64 := ioctlIo 0x55 1
def uiDevDestroy : UInt64 := ioctlIo 0x55 2

/-- The numbers of the kernel's headers, as the test has them. -/
example : [uiDevCreate, uiDevDestroy, uiSetEvbit, uiSetKeybit, uiSetRelbit] =
    [0x5501, 0x5502, 0x40045564, 0x40045565, 0x40045566] := by decide

/-! ### The records -/

/-- The machine's own order of bytes: the last one first on the wire comes first. -/
def toLe16 (w : UInt16) : List UInt8 := (toBe16 w).reverse

def toLe32 (w : UInt32) : List UInt8 := (toBe32 w).reverse

def toLe64 (w : UInt64) : List UInt8 := toLe32 w.toUInt32 ++ toLe32 (w >>> 32).toUInt32

/-- `InputId`. -/
structure InputId where
  bustype : UInt16
  vendor : UInt16
  product : UInt16
  version : UInt16
  deriving Repr, DecidableEq

/-- `UinputSetup`. -/
structure UinputSetup where
  id : InputId
  name : List UInt8
  ffEffectsMax : UInt32
  length_name : name.length = 80

/-- The bytes of the struct. -/
def UinputSetup.bytes (setup : UinputSetup) : List UInt8 :=
  toLe16 setup.id.bustype ++ toLe16 setup.id.vendor ++ toLe16 setup.id.product ++
    toLe16 setup.id.version ++ setup.name ++ toLe32 setup.ffEffectsMax

theorem UinputSetup.length_bytes (setup : UinputSetup) :
    setup.bytes.length = sizeOfUinputSetup := by
  simp only [bytes, List.length_append, toLe16, toLe32, List.length_reverse, setup.length_name,
    toBe16, toBe32, List.length_cons, List.length_nil]
  rfl

/-- The time since the epoch, in seconds and microseconds. -/
abbrev Instant := UInt64 × UInt32

/-- The bytes of an `InputEvent`. -/
def InputEvent.record (e : InputEvent) (now : Instant) : List UInt8 :=
  toLe64 now.1 ++ toLe64 now.2.toUInt64 ++ toLe16 e.type ++ toLe16 e.code ++ toLe32 e.value.toUInt32

/-- The event that the kernel reads: a whole struct, without its time. -/
def InputEvent.ofRecord (bs : List UInt8) : Option InputEvent :=
  match bs.drop 16 with
  | [t₀, t₁, c₀, c₁, v₀, v₁, v₂, v₃] =>
      if bs.length = 24 then some ⟨beU16 t₁ t₀, beU16 c₁ c₀, (beU32 v₃ v₂ v₁ v₀).toInt32⟩ else none
  | _ => none

/-- **The kernel reads the event that was written.** -/
theorem InputEvent.ofRecord_record (e : InputEvent) (now : Instant) :
    InputEvent.ofRecord (e.record now) = some e := by
  have hdrop : (e.record now).drop 16 =
      toLe16 e.type ++ toLe16 e.code ++ toLe32 e.value.toUInt32 := by
    have htime : (toLe64 now.1 ++ toLe64 now.2.toUInt64).length = 16 := rfl
    rw [record, List.append_assoc, List.append_assoc, List.drop_left' htime, List.append_assoc]
  have hlen : (e.record now).length = 24 := rfl
  simp only [ofRecord, hdrop, toLe16, toLe32, toBe16, toBe32, List.reverse_cons, List.reverse_nil,
    List.nil_append, List.cons_append, hlen, if_true, beU16_toBe16, beU32_toBe32]
  rfl

/-! ### What is declared and how the device is named -/

/-- What an `ioctl` is handed: nothing, an `int`, or a pointer to a struct. -/
inductive IoctlArg where
  | none
  | int (v : Int32)
  | struct (bytes : List UInt8)
  deriving Repr, DecidableEq

/-- One `ioctl`: its number and what it is handed. -/
abbrev IoctlRequest := UInt64 × IoctlArg

namespace DeviceProfile

/-- The name, the vendor and the product. -/
def identity : DeviceProfile → String × UInt16 × UInt16
  | .mouse name vendorId productId => (name, vendorId, productId)
  | .keyboard name vendorId productId => (name, vendorId, productId)

/-- What fits of a name: the struct has room for 80 bytes, the last of which stays zero. -/
def setupName (name : String) : List UInt8 :=
  let bytes := name.toUTF8.data.toList
  let n := min bytes.length (80 - 1)
  bytes.take n ++ List.replicate (80 - n) 0

theorem length_setupName (name : String) : (setupName name).length = 80 := by
  simp only [setupName, List.length_append, List.length_take, List.length_replicate]
  omega

/-- The identification block: on the USB, with no force feedback. -/
def setup (profile : DeviceProfile) : UinputSetup where
  id := ⟨0x03, profile.identity.2.1, profile.identity.2.2, 0x0100⟩
  name := setupName profile.identity.1
  ffEffectsMax := 0
  length_name := length_setupName _

/-- `bit as i32`. -/
def bitArg (bit : UInt16) : IoctlArg := .int (Int32.ofNat bit.toNat)

/-- **What makes a device of a profile**: its declarations, and its name. -/
def setups (profile : DeviceProfile) : List IoctlRequest :=
  profile.evBits.map (fun bit => (uiSetEvbit, bitArg bit)) ++
    profile.keyBits.map (fun bit => (uiSetKeybit, bitArg bit)) ++
    profile.relBits.map (fun bit => (uiSetRelbit, bitArg bit)) ++
    [(uiDevSetup, .struct profile.setup.bytes)]

end DeviceProfile

/-! ### The calls -/

/-- A file descriptor. -/
abbrev Fd := Int32

/-- What a session asks of its host: the system calls of the virtual device, and what the session
loop asks beside them. -/
inductive SystemOp where
  /-- `stop.load()`. -/
  | stopped
  /-- `diag.event("seq_jump", ..)`. -/
  | seqJump (prev got : UInt16)
  /-- `Path::exists` of `/dev/uinput`. -/
  | exists
  /-- `OpenOptions::open` of `/dev/uinput`, for writing. -/
  | openWrite
  | ioctl (fd : Fd) (request : UInt64) (arg : IoctlArg)
  /-- `File::write_all`. -/
  | write (fd : Fd) (bytes : List UInt8)
  | close (fd : Fd)
  /-- `SystemTime::now()`, since the epoch. -/
  | now
  deriving Repr, DecidableEq

/-- The answers; an error is its text. -/
@[reducible] def SystemOp.Ans : SystemOp → Type
  | .stopped | .exists => Bool
  | .seqJump _ _ | .close _ => Unit
  | .openWrite => Except String Fd
  | .ioctl _ _ _ | .write _ _ => Except String Unit
  | .now => Instant

/-- The host. -/
abbrev systemSig : Sig := ⟨SystemOp, SystemOp.Ans⟩

/-- `libc::ioctl`, with the text of what is made of an error. -/
def ioctl (fd : Fd) (r : IoctlRequest) (text : String → String) : Act systemSig String Unit := do
  match ← call (X := systemSig) (.ioctl fd r.1 r.2) with
  | .ok () => return ()
  | .error err => throw (text err)

/-- The three wrappers are one: the name and the number differ. -/
def setBit (name : String) (request : UInt64) (fd : Fd)
    (bit : UInt16) : Act systemSig String Unit :=
  ioctl fd (request, DeviceProfile.bitArg bit) fun err =>
    name ++ "(" ++ toString bit ++ ") failed: " ++ err

/-- `set_evbit`. -/
def setEvbit : Fd → UInt16 → Act systemSig String Unit := setBit "UI_SET_EVBIT" uiSetEvbit

/-- `set_keybit`. -/
def setKeybit : Fd → UInt16 → Act systemSig String Unit := setBit "UI_SET_KEYBIT" uiSetKeybit

/-- `set_relbit`. -/
def setRelbit : Fd → UInt16 → Act systemSig String Unit := setBit "UI_SET_RELBIT" uiSetRelbit

/-- "Tell the kernel which event types and codes we'll emit." -/
def declareBits (fd : Fd) : DeviceProfile → Act systemSig String Unit
  | .mouse _ _ _ => do
      setEvbit fd evKey
      setEvbit fd evRel
      setEvbit fd evSyn
      [btnLeft, btnRight, btnMiddle, btnSide, btnExtra].forM (setKeybit fd)
      [relX, relY, relWheel, relHwheel].forM (setRelbit fd)
  | .keyboard _ _ _ => do
      setEvbit fd evKey
      setEvbit fd evSyn
      ((List.range 255).map fun k => UInt16.ofNat (k + 1)).forM (setKeybit fd)

/-- What `create` does with the open file. -/
def createOn (fd : Fd) (profile : DeviceProfile) : Act systemSig String Unit := do
  declareBits fd profile
  ioctl fd (uiDevSetup, .struct profile.setup.bytes) fun err => "UI_DEV_SETUP failed: " ++ err
  ioctl fd (uiDevCreate, .none) fun err => "UI_DEV_CREATE failed: " ++ err

/-- A virtual device: its file, and whether it has not been destroyed. -/
structure UinputDevice where
  file : Fd
  live : Bool
  deriving Repr, DecidableEq

namespace UinputDevice

/-- `UinputDevice::create`.  The file is closed when it goes out of scope. -/
def create (profile : DeviceProfile) : Act systemSig String UinputDevice := do
  if ← call (X := systemSig) .exists then
    match ← call (X := systemSig) .openWrite with
    | .error err =>
        throw ("opening /dev/uinput (need root or `uinput` group + udev rule; " ++
          "see desktop-linux/udev/README.md): " ++ err)
    | .ok fd => do
        match ← attempt (createOn fd profile) with
        | .ok () => return ⟨fd, true⟩
        | .error text => do
            call (X := systemSig) (.close fd)
            throw text
  else throw "/dev/uinput is missing — load the kernel module: sudo modprobe uinput"

/-- `write_event`. -/
def writeEvent (d : UinputDevice) (e : InputEvent) : Act systemSig String Unit := do
  let now ← call (X := systemSig) .now
  match ← call (X := systemSig) (.write d.file (e.record now)) with
  | .ok () => return ()
  | .error err => throw ("writing input_event: " ++ err)

/-- `destroy`: "idempotent". -/
def destroy (d : UinputDevice) : Act systemSig String UinputDevice :=
  if !d.live then return d
  else do
    ioctl d.file (uiDevDestroy, .none) fun err => "UI_DEV_DESTROY failed: " ++ err
    return { d with live := false }

/-- `drop`: an error of `destroy` is ignored, and then the file is closed. -/
def drop (d : UinputDevice) : Act systemSig String Unit := do
  let _ ← (attempt d.destroy : Act systemSig String _)
  call (X := systemSig) (.close d.file)

end UinputDevice

/-! ### The session and what it owns -/

/-- What the session asks of its desktop, the statics of the decoder apart. -/
inductive DeskOp where
  | stopped
  | seqJump (prev got : UInt16)
  | uinput (o : UinputOp)
  deriving Repr, DecidableEq

/-- The answers. -/
@[reducible] def DeskOp.Ans : DeskOp → Type
  | .stopped => Bool
  | .seqJump _ _ => Unit
  | .uinput _ => Except String Unit

/-- The desktop. -/
abbrev deskSig : Sig := ⟨DeskOp, DeskOp.Ans⟩

/-- What the calls of the session loop come to; the variable is the statics. -/
def onDesk : (o : ReceiverOp) → ReportState → Prog deskSig (o.Ans × ReportState)
  | .stopped, st => .call .stopped fun b => .ret (b, st)
  | .create profile, st => .call (.uinput (.create profile)) fun r => .ret (r, st)
  | .applyReport body, st =>
      (pushReport body).run.threaded
        (Prog.onRef fun o : UinputOp => .call (X := deskSig) (.uinput o) .ret) st
  | .seqJump prev got, st => .call (.seqJump prev got) fun u => .ret (u, st)

/-- Drop the device, if there is one. -/
def dropDevice : Option UinputDevice → Prog systemSig Unit
  | none => .ret ()
  | some d => d.drop.run >>= fun _ => .ret ()

/-- **What the operations of the virtual device come to.**  The variable is the device that the
session owns.  A new device takes the place of the old one, which is dropped then. -/
def onKernel : (o : DeskOp) → Option UinputDevice → Prog systemSig (o.Ans × Option UinputDevice)
  | .stopped, d => .call .stopped fun b => .ret (b, d)
  | .seqJump prev got, d => .call (.seqJump prev got) fun u => .ret (u, d)
  | .uinput (.create profile), d =>
      (UinputDevice.create profile).run >>= fun
        | .error text => .ret (.error text, d)
        | .ok d' => dropDevice d >>= fun _ => .ret (.ok (), some d')
  | .uinput (.write e), some d => (d.writeEvent e).run >>= fun r => .ret (r, some d)
  -- a session applies reports to the device it has
  | .uinput (.write _), none => .ret (.ok (), none)

/-- A session returns, fails or panics: its device goes out of scope. -/
def leaving {α : Type} (r : Except (Stop (Fault RunError)) α × ReportState)
    (d : Option UinputDevice) :
    Prog systemSig (Except (Stop (Fault RunError)) α) :=
  match r.1 with
  | .error .ranOut => .ret (.error .ranOut)
  | r => dropDevice d >>= fun _ => .ret r

/-- **A session of the receiver**, from HELLO to its end, over the system calls. -/
def receiving (serde : Serde) (clientName : String) (busid : Option String) (statics : ReportState)
    (fuel : ℕ) : Prog systemSig (Except (Stop (Fault RunError)) SessionEnd) :=
  (((runReceive serde clientName busid).unrolled fuel).run.threaded onDesk statics).threaded
      onKernel none >>= fun r => leaving r.1 r.2

/-! ### The kernel's side -/

/-- **What a file of `/dev/uinput` has come to**, with the calls that have been made on it: it is
being set up, it is a device and has had events, or it has been told to be one no more. -/
inductive Stage where
  | opened (done : List IoctlRequest)
  | created (done : List IoctlRequest) (events : List InputEvent)
  | retired (done : List IoctlRequest) (events : List InputEvent)
  deriving Repr, DecidableEq

/-- The open files, and the devices whose files have been closed: how each was made, and its
events. -/
structure Driver where
  files : Fd → Option Stage := fun _ => none
  gone : List (List IoctlRequest × List InputEvent) := []

namespace Driver

/-- A file has come to a stage. -/
def put (s : Driver) (fd : Fd) (stage : Stage) : Driver :=
  { s with files := Function.update s.files fd (some stage) }

/-- The device that a file was. -/
def deviceOf : Option Stage → List (List IoctlRequest × List InputEvent)
  | some (.created done events) | some (.retired done events) => [(done, events)]
  | some (.opened _) | none => []

/-- **What the kernel makes of a call.**  An `ioctl` that fails does nothing, except that a device
that was to be destroyed is not written to any more. -/
def add (s : Driver) : Event systemSig → Driver
  | .called .openWrite (some (.ok fd)) => s.put fd (.opened [])
  | .called (.ioctl fd request arg) answer =>
      match s.files fd, answer with
      | some (.opened done), some (.ok ()) =>
          if request = uiDevCreate then s.put fd (.created done [])
          else s.put fd (.opened (done ++ [(request, arg)]))
      | some (.created done events), _ => s.put fd (.retired done events)
      | _, _ => s
  | .called (.write fd bytes) (some (.ok ())) =>
      match s.files fd with
      | some (.created done events) =>
          s.put fd (.created done (events ++ (InputEvent.ofRecord bytes).toList))
      | _ => s
  | .called (.close fd) _ =>
      { files := Function.update s.files fd none, gone := s.gone ++ deviceOf (s.files fd) }
  | _ => s

/-- **Which calls the kernel expects**: at most one more file while there is one; on a new file the
calls that make a device of some profile, in their order; events on a device, while it is the only
one, as whole structs; on a device that it be destroyed, once; and no device that has not been told
so is closed. -/
def Expects (s : Driver) : Event systemSig → Prop
  | .called .openWrite _ => ∃ fd₀, ∀ fd, s.files fd ≠ none → fd = fd₀
  | .called (.ioctl fd request arg) _ =>
      match s.files fd with
      | some (.opened done) =>
          ∃ profile : DeviceProfile,
            done ++ [(request, arg)] <+: profile.setups ++ [(uiDevCreate, .none)]
      | some (.created _ _) => (request, arg) = (uiDevDestroy, .none)
      | some (.retired _ _) | none => False
  | .called (.write fd bytes) _ =>
      (∃ done events, s.files fd = some (.created done events)) ∧
        (∀ fd', s.files fd' ≠ none → fd' = fd) ∧
        ∃ (e : InputEvent) (now : Instant), bytes = e.record now
  | .called (.close fd) _ =>
      match s.files fd with
      | some (.opened _) | some (.retired _ _) => True
      | some (.created _ _) | none => False
  | _ => True

/-- A descriptor that is handed out is not that of an open file. -/
def grants (s : Driver) : Event systemSig → Bool
  | .called .openWrite (some (.ok fd)) => (s.files fd).isNone
  | _ => true

end Driver

/-- The kernel as a monitor. -/
def uinputDriver : Monitor systemSig Driver := ⟨Driver.add, Driver.Expects⟩

/-- **The devices of a session**: those that its operations have made, the last one first, with the
events written to each. -/
def deviceLog : Monitor deskSig (List (DeviceProfile × List InputEvent)) where
  add devices
    | .called (.uinput o) (some r) => addCall devices ⟨o, r⟩
    | _ => devices
  permits _ _ := True

/-! ### Making a device -/

namespace Driver

variable (base : Driver) (fd : Fd)

@[simp] theorem put_files_self (stage : Stage) : (base.put fd stage).files fd = some stage :=
  Function.update_self _ _ _

@[simp] theorem put_put (stage stage' : Stage) :
    (base.put fd stage).put fd stage' = base.put fd stage' := by
  rw [put, put, Function.update_idem]
  rfl

theorem put_files_of_ne {fd fd' : Fd} (h : fd' ≠ fd) (stage : Stage) :
    (base.put fd stage).files fd' = base.files fd' := Function.update_of_ne h _ _

theorem put_comm {fd fd' : Fd} (h : fd ≠ fd') (stage stage' : Stage) :
    (base.put fd stage).put fd' stage' = (base.put fd' stage').put fd stage := by
  rw [put, put, put, put, Function.update_comm h]

variable {base fd}

/-- **A file that is closed**, and was a new one. -/
theorem add_close (h : base.files fd = none) (stage : Stage) (a : Option Unit) :
    (base.put fd stage).add (.called (.close fd) a) =
      { base with gone := base.gone ++ deviceOf (some stage) } := by
  have hfiles : Function.update (base.put fd stage).files fd none = base.files := by
    rw [put, Function.update_idem, ← h, Function.update_eq_self]
  simp only [add, hfiles, put_files_self]
  rfl

end Driver

/-- The declarations and the name are no UI_DEV_CREATE. -/
theorem ne_create_of_mem_setups {profile : DeviceProfile} {r : IoctlRequest}
    (h : r ∈ profile.setups) : r.1 ≠ uiDevCreate := by
  simp only [DeviceProfile.setups, List.mem_append, List.mem_map, List.mem_singleton] at h
  have hev : uiSetEvbit ≠ uiDevCreate := by decide
  have hkey : uiSetKeybit ≠ uiDevCreate := by decide
  have hrel : uiSetRelbit ≠ uiDevCreate := by decide
  have hsetup : uiDevSetup ≠ uiDevCreate := by decide
  rcases h with ((⟨_, _, rfl⟩ | ⟨_, _, rfl⟩) | ⟨_, _, rfl⟩) | rfl
  · exact hev
  · exact hkey
  · exact hrel
  · exact hsetup

/-- An `ioctl`, and what it does if it works and if it fails. -/
theorem relying_ioctl {fd : Fd} {r : IoctlRequest} {text : String → String} {s : Driver}
    {Q : Unit → Driver → Prop} {E : String → Driver → Prop}
    (hexpects : ∀ a, s.Expects (.called (.ioctl fd r.1 r.2) a))
    (hok : Q () (s.add (.called (.ioctl fd r.1 r.2) (some (.ok ())))))
    (herror : ∀ err, E (text err) (s.add (.called (.ioctl fd r.1 r.2) (some (.error err))))) :
    Relying uinputDriver Driver.grants (ioctl fd r text) Q E s := by
  have hcall : Relying uinputDriver Driver.grants (call (X := systemSig) (.ioctl fd r.1 r.2))
      (fun a s' => s' = s.add (.called (.ioctl fd r.1 r.2) (some a))) E s :=
    .call hexpects fun _ _ => rfl
  refine hcall.bind ?_
  rintro (err | _) _ rfl
  · exact herror err
  · exact hok

/-- **The program makes these calls** on a file, if they are what makes a device of some profile;
when one of them fails the file is left as it is. -/
def SetsUp (fd : Fd) (p : Act systemSig String Unit) (rs : List IoctlRequest) : Prop :=
  ∀ (base : Driver) (done : List IoctlRequest) (profile : DeviceProfile),
    done ++ rs <+: profile.setups →
    Relying uinputDriver Driver.grants p (fun _ s => s = base.put fd (.opened (done ++ rs)))
      (fun _ s => ∃ done', s = base.put fd (.opened done')) (base.put fd (.opened done))

namespace SetsUp

variable {fd : Fd} {p q : Act systemSig String Unit} {rs rs' : List IoctlRequest}

theorem ioctl (r : IoctlRequest) (text : String → String) : SetsUp fd (ioctl fd r text) [r] := by
  intro base done profile hprefix
  have hmem : r ∈ profile.setups := hprefix.subset (by simp)
  have hmade : done ++ [r] <+: profile.setups ++ [(uiDevCreate, .none)] :=
    hprefix.trans (List.prefix_append _ _)
  have hexpects (a : Option (Except String Unit)) :
      (base.put fd (.opened done)).Expects (.called (.ioctl fd r.1 r.2) a) := by
    simp only [Driver.Expects, Driver.put_files_self]
    exact ⟨profile, hmade⟩
  refine relying_ioctl hexpects ?_ fun err => ⟨done, ?_⟩
  · simp only [Driver.add, Driver.put_files_self, if_neg (ne_create_of_mem_setups hmem), Driver.put_put]
  · simp only [Driver.add, Driver.put_files_self]

theorem bind (hp : SetsUp fd p rs) (hq : SetsUp fd q rs') : SetsUp fd (p >>= fun _ => q)
    (rs ++ rs') := by
  intro base done profile hprefix
  rw [← List.append_assoc] at hprefix ⊢
  refine (hp base done profile ((List.prefix_append _ _).trans hprefix)).bind ?_
  rintro _ _ rfl
  exact hq base _ profile hprefix

/-- A call for each element of a list. -/
theorem forM {f : UInt16 → Act systemSig String Unit} {g : UInt16 → IoctlRequest}
    (h : ∀ bit, SetsUp fd (f bit) [g bit]) (bits : List UInt16) : SetsUp fd (bits.forM f)
    (bits.map g) := by
  induction bits with
  | nil =>
      intro base done profile _
      rw [List.map_nil, List.append_nil]
      exact rfl
  | cons bit bits ih =>
      exact (h bit).bind ih

theorem setBit (name : String) (request : UInt64) (bit : UInt16) :
    SetsUp fd (setBit name request fd bit) [(request, DeviceProfile.bitArg bit)] := .ioctl _ _

end SetsUp

/-- What is declared is what the profile has. -/
theorem setsUp_declareBits (fd : Fd) (profile : DeviceProfile) :
    SetsUp fd (declareBits fd profile)
      (profile.evBits.map (fun bit => (uiSetEvbit, DeviceProfile.bitArg bit)) ++
        profile.keyBits.map (fun bit => (uiSetKeybit, DeviceProfile.bitArg bit)) ++
        profile.relBits.map (fun bit => (uiSetRelbit, DeviceProfile.bitArg bit))) := by
  have hev (bit : UInt16) : SetsUp fd (setEvbit fd bit) [(uiSetEvbit, DeviceProfile.bitArg bit)] :=
    .setBit _ _ _
  have hkey (bit : UInt16) :
      SetsUp fd (setKeybit fd bit) [(uiSetKeybit, DeviceProfile.bitArg bit)] :=
    .setBit _ _ _
  have hrel (bit : UInt16) :
      SetsUp fd (setRelbit fd bit) [(uiSetRelbit, DeviceProfile.bitArg bit)] :=
    .setBit _ _ _
  cases profile with
  | mouse name vendorId productId =>
      exact (hev _).bind ((hev _).bind ((hev _).bind ((SetsUp.forM hkey _).bind (.forM hrel _))))
  | keyboard name vendorId productId =>
      rw [DeviceProfile.relBits, List.map_nil, List.append_nil]
      exact (hev _).bind ((hev _).bind (.forM hkey _))

/-- What `create` does with the open file: it becomes a device of the profile, or stays a file. -/
theorem relying_createOn (base : Driver) (fd : Fd) (profile : DeviceProfile) :
    Relying uinputDriver Driver.grants (createOn fd profile)
      (fun _ s => s = base.put fd (.created profile.setups []))
      (fun _ s => ∃ done, s = base.put fd (.opened done)) (base.put fd (.opened [])) := by
  have hsetup : SetsUp fd (ioctl fd (uiDevSetup, .struct profile.setup.bytes) fun err =>
      "UI_DEV_SETUP failed: " ++ err) [(uiDevSetup, .struct profile.setup.bytes)] := .ioctl _ _
  have hmade := (setsUp_declareBits fd profile).bind hsetup base [] profile (List.prefix_refl _)
  rw [createOn, ← bind_assoc]
  refine hmade.bind ?_
  rintro _ _ rfl
  refine relying_ioctl (fun a => ?_) ?_ fun err => ⟨profile.setups, ?_⟩
  · simp only [Driver.Expects, Driver.put_files_self]
    exact ⟨profile, List.prefix_refl _⟩
  · simp only [Driver.add, Driver.put_files_self, if_true, Driver.put_put]
    rfl
  · simp only [Driver.add, Driver.put_files_self]
    rfl

/-- At most one file is open. -/
def Driver.Spare (s : Driver) : Prop := ∃ fd₀, ∀ fd, s.files fd ≠ none → fd = fd₀

/-- **`create`**: there is one more device, of that profile, or nothing has changed. -/
theorem relying_create {s : Driver} (h : s.Spare) (profile : DeviceProfile) :
    Relying uinputDriver Driver.grants (UinputDevice.create profile)
      (fun d s' => d.live = true ∧ s.files d.file = none ∧
        s' = s.put d.file (.created profile.setups [])) (fun _ s' => s' = s) s := by
  have hexists : Relying uinputDriver Driver.grants (call (X := systemSig) .exists)
      (fun _ s' => s' = s) (fun (_ : String) s' => s' = s) s :=
        .call (fun _ => trivial) fun _ _ => rfl
  have hopen : Relying uinputDriver Driver.grants (call (X := systemSig) .openWrite)
      (fun a s' => match a with
        | .error _ => s' = s
        | .ok fd => s.files fd = none ∧ s' = s.put fd (.opened []))
      (fun (_ : String) s' => s' = s) s := by
    refine .call (fun _ => h) ?_
    rintro (err | fd) hfree
    · rfl
    · exact ⟨Option.isNone_iff_eq_none.1 hfree, rfl⟩
  refine hexists.bind ?_
  rintro (_ | _) s' hs'
  · exact hs'
  subst s'
  refine hopen.bind ?_
  rintro (err | fd) s' hs'
  · exact hs'
  obtain ⟨hfree, rfl⟩ := hs'
  refine (Relying.attempt (Q := fun r s' => match r with
    | .ok () => s' = s.put fd (.created profile.setups [])
    | .error _ => ∃ done, s' = s.put fd (.opened done)) (relying_createOn s fd profile)).bind ?_
  rintro (text | _) s' hs'
  · -- the file is closed
    obtain ⟨done, rfl⟩ := hs'
    have hclose : Relying uinputDriver Driver.grants (call (X := systemSig) (.close fd))
        (fun _ s' => s' = s) (fun (_ : String) s' => s' = s) (s.put fd (.opened done)) := by
      refine .call (fun a => ?_) fun a _ => ?_
      · simp only [uinputDriver, Driver.Expects, Driver.put_files_self]
      · refine (Driver.add_close hfree (.opened done) (some a)).trans ?_
        rw [Driver.deviceOf, List.append_nil]
    refine hclose.bind ?_
    rintro _ _ rfl
    exact rfl
  · exact ⟨rfl, hfree, hs'⟩

/-! ### Ending a device -/

/-- **`drop`**: the device is told to be one no more, whether or not it listens, and its file is
closed. -/
theorem relying_drop {base : Driver} {d : UinputDevice} (hlive : d.live = true)
    (hfree : base.files d.file = none) (done : List IoctlRequest) (events : List InputEvent) :
    Relying uinputDriver Driver.grants d.drop
      (fun _ s => s = { base with gone := base.gone ++ [(done, events)] })
      (fun _ _ => False) (base.put d.file (.created done events)) := by
  have hretired (a : Option (Except String Unit)) :
      (base.put d.file (.created done events)).add (.called (.ioctl d.file uiDevDestroy .none) a) =
        base.put d.file (.retired done events) := by
    rcases a with _ | err | _ <;> simp only [Driver.add, Driver.put_files_self, Driver.put_put]
  have hdestroy : Relying uinputDriver Driver.grants d.destroy
      (fun _ s => s = base.put d.file (.retired done events))
      (fun _ s => s = base.put d.file (.retired done events)) (base.put d.file (.created done events)) := by
    rw [UinputDevice.destroy, hlive]
    refine (relying_ioctl (fun a => ?_) (hretired _) fun _ => hretired _).bind fun _ _ hs => hs
    simp only [Driver.Expects, Driver.put_files_self]
  refine (Relying.attempt (Q := fun _ s => s = base.put d.file (.retired done events)) hdestroy).bind ?_
  rintro _ _ rfl
  refine .call (fun a => ?_) fun a _ => Driver.add_close hfree (.retired done events) (some a)
  simp only [uinputDriver, Driver.Expects, Driver.put_files_self]

/-! ### Writing to a device -/

/-- **`write_event`**: the device has one event more, if it works. -/
theorem relying_writeEvent {s : Driver} {d : UinputDevice} {done : List IoctlRequest}
    {events : List InputEvent} (hfile : s.files d.file = some (.created done events))
    (honly : ∀ fd, s.files fd ≠ none → fd = d.file) (e : InputEvent) :
    Relying uinputDriver Driver.grants (d.writeEvent e)
      (fun _ s' => s' = s.put d.file (.created done (events ++ [e]))) (fun _ s' => s' = s) s := by
  have hnow : Relying uinputDriver Driver.grants (call (X := systemSig) .now)
      (fun _ s' => s' = s) (fun (_ : String) s' => s' = s) s :=
        .call (fun _ => trivial) fun _ _ => rfl
  refine hnow.bind fun now s' hs' => ?_
  subst s'
  have hwrite : Relying uinputDriver Driver.grants (call (X := systemSig) (.write d.file (e.record now)))
      (fun a s' => match a with
        | .error _ => s' = s
        | .ok () => s' = s.put d.file (.created done (events ++ [e])))
      (fun (_ : String) s' => s' = s) s := by
    refine .call (fun _ => ⟨⟨done, events, hfile⟩, honly, e, now, rfl⟩) ?_
    rintro (err | _) _
    · rfl
    · simp only [uinputDriver, Driver.add, hfile, e.ofRecord_record, Option.toList_some]
  refine hwrite.bind ?_
  rintro (err | _) s' hs'
  · exact hs'
  · exact hs'

/-! ### What the operations come to -/

/-- How the devices were made, in the order in which they were, and their events. -/
def imagesOf (devices : List (DeviceProfile × List InputEvent)) :
    List (List IoctlRequest × List InputEvent) := devices.reverse.map fun r => (r.1.setups, r.2)

/-- **A session that is over**: every file is closed, and the kernel has had the devices. -/
def Over (s : Driver) (devices : List (DeviceProfile × List InputEvent)) : Prop :=
  s = { gone := imagesOf devices }

/-- **The session owns the device that was made last**: its file is the only one that is open, and
the others are gone. -/
def Owns (d : Option UinputDevice) (s : Driver)
    (devices : List (DeviceProfile × List InputEvent)) : Prop :=
  match d with
  | none => Over s [] ∧ devices = []
  | some d => d.live = true ∧ ∃ base profile events earlier, Over base earlier ∧
      s = base.put d.file (.created profile.setups events) ∧ devices = (profile, events) :: earlier

theorem imagesOf_cons (profile : DeviceProfile) (events : List InputEvent)
    (earlier : List (DeviceProfile × List InputEvent)) :
    imagesOf ((profile, events) :: earlier) = imagesOf earlier ++ [(profile.setups, events)] := by
  rw [imagesOf, List.reverse_cons, List.map_append]
  rfl

theorem Owns.spare {d : Option UinputDevice} {s : Driver}
    {devices : List (DeviceProfile × List InputEvent)} (h : Owns d s devices) : s.Spare := by
  cases d with
  | none =>
      obtain ⟨rfl, -⟩ := h
      exact ⟨0, fun _ hfd => absurd rfl hfd⟩
  | some d =>
      obtain ⟨-, _, _, _, _, rfl, rfl, -⟩ := h
      refine ⟨d.file, fun fd hfd => ?_⟩
      by_contra hne
      exact hfd (Driver.put_files_of_ne _ hne _)

section Dropping

variable {α : Type} {d : Option UinputDevice} {s : Driver}
  {devices : List (DeviceProfile × List InputEvent)} {k : Prog systemSig α} {Q : α → Driver → Prop}

/-- Dropping what the session owns ends it. -/
theorem keeps_dropDevice (h : Owns d s devices)
    (hk : ∀ s', Over s' devices → k.Keeps (uinputDriver.relying Driver.grants) (relied Q) (some s')) :
    (dropDevice d >>= fun _ => k).Keeps (uinputDriver.relying Driver.grants) (relied Q)
    (some s) := by
  cases d with
  | none =>
      obtain ⟨hover, rfl⟩ := h
      exact hk _ hover
  | some d =>
      obtain ⟨hlive, _, profile, events, earlier, rfl, rfl, rfl⟩ := h
      rw [dropDevice, Prog.bind_assoc]
      refine (relying_drop hlive rfl _ _).keeps_bind (fun _ s' hs' => ?_) fun _ _ hfalse =>
        hfalse.elim
      refine hk s' (hs'.trans ?_)
      rw [imagesOf_cons]

/-- Dropping what the session owns when there is a new device already. -/
theorem keeps_dropDevice_of_new (h : Owns d s devices) {fd : Fd} (hfree : s.files fd = none)
    (stage : Stage)
    (hk : ∀ s', Over s' devices →
      k.Keeps (uinputDriver.relying Driver.grants) (relied Q) (some (s'.put fd stage))) :
    (dropDevice d >>= fun _ => k).Keeps (uinputDriver.relying Driver.grants) (relied Q)
      (some (s.put fd stage)) := by
  cases d with
  | none =>
      obtain ⟨hover, rfl⟩ := h
      exact hk _ hover
  | some d =>
      obtain ⟨hlive, _, profile, events, earlier, rfl, rfl, rfl⟩ := h
      have hne : d.file ≠ fd := by
        rintro rfl
        rw [Driver.put_files_self] at hfree
        cases hfree
      rw [Driver.put_comm _ hne, dropDevice, Prog.bind_assoc]
      refine (relying_drop hlive (Driver.put_files_of_ne _ hne _) _ _).keeps_bind (fun _ s' hs' => ?_)
        fun _ _ hfalse => hfalse.elim
      subst s'
      have hnew := hk { gone := imagesOf ((profile, events) :: earlier) } rfl
      rw [imagesOf_cons] at hnew
      exact hnew

end Dropping

/-- What is left of the relation after a step that both levels pass over. -/
theorem step_of_skipped {d : Option UinputDevice} {s : Option Driver} {e : Event systemSig}
    {devices : List (DeviceProfile × List InputEvent)} (hexpects : ∀ s : Driver, s.Expects e)
    (hgrants : ∀ s : Driver, s.grants e = true) (hadd : ∀ s : Driver, s.add e = s)
    (h : relied (fun d s => Owns d s devices) d s) :
    (uinputDriver.relying Driver.grants).Step (relied (fun d s => Owns d s devices) d) s e := by
  refine ⟨fun s' _ => hexpects s', ?_⟩
  cases s with
  | none => trivial
  | some s =>
      have hsame : uinputDriver.add s e = s := hadd s
      rw [Monitor.relying_add (hgrants s), hsame]
      exact h

/-- **What each operation comes to in the kernel.** -/
theorem simulates_onKernel :
    Simulates (uinputDriver.relying Driver.grants) deviceLog onKernel
      (fun d s devices => relied (fun d s => Owns d s devices) d s) where
  received _ h := step_of_skipped (fun _ => trivial) (fun _ => rfl) (fun _ => rfl) h
  starved h := step_of_skipped (fun _ => trivial) (fun _ => rfl) (fun _ => rfl) h
  sent _ _ h := step_of_skipped (fun _ => trivial) (fun _ => rfl) (fun _ => rfl) h
  called {d s devices} o h := by
    refine Prog.keeps_relying ?_
    rintro s rfl
    cases o with
    | stopped => exact Prog.keeps_relying_call (fun _ => trivial) fun _ _ => h
    | seqJump prev got => exact Prog.keeps_relying_call (fun _ => trivial) fun _ _ => h
    | uinput o =>
        cases o with
        | create profile =>
            refine (relying_create (Owns.spare h) profile).keeps_bind ?_ ?_
            · rintro d' _ ⟨hlive, hfree, rfl⟩
              refine keeps_dropDevice_of_new h hfree _ fun base hbase => ?_
              exact ⟨hlive, base, profile, [], devices, hbase, rfl, rfl⟩
            · rintro text s' hs'
              subst s'
              exact h
        | write e =>
            cases d with
            | none =>
                obtain ⟨hover, rfl⟩ := h
                exact ⟨hover, rfl⟩
            | some d =>
                obtain ⟨hlive, base, profile, events, earlier, hbase, rfl, rfl⟩ := h
                have honly (fd : Fd) (hfd : (base.put d.file (.created profile.setups events)).files fd ≠
                    none) : fd = d.file := by
                  by_contra hne
                  rw [Driver.put_files_of_ne _ hne, hbase] at hfd
                  exact hfd rfl
                refine (relying_writeEvent (Driver.put_files_self _ _ _) honly e).keeps_bind ?_ ?_
                · rintro _ _ rfl
                  rw [Driver.put_put]
                  exact ⟨hlive, base, profile, events ++ [e], earlier, hbase, rfl, rfl⟩
                · rintro text s' hs'
                  subst s'
                  exact ⟨hlive, base, profile, events, earlier, hbase, rfl, rfl⟩

/-! ### Whole sessions -/

/-- However a session ends, unless it has been cut short, its device is dropped. -/
theorem keeps_leaving {α : Type} (r : Except (Stop (Fault RunError)) α × ReportState)
    {d : Option UinputDevice} {s : Driver} {devices : List (DeviceProfile × List InputEvent)}
    (h : Owns d s devices) :
    (leaving r d).Keeps (uinputDriver.relying Driver.grants)
      (relied fun x s => x = r.1 ∧ (x ≠ .error .ranOut → Over s devices)) (some s) := by
  obtain ⟨(e | _) | a, st⟩ := r
  · exact keeps_dropDevice h fun s' hs' => ⟨rfl, fun _ => hs'⟩
  · exact ⟨rfl, fun hran => absurd rfl hran⟩
  · exact keeps_dropDevice h fun s' hs' => ⟨rfl, fun _ => hs'⟩

section Receiving

variable (serde : Serde) (clientName : String) (busid : Option String)
    (statics : ReportState) (fuel : ℕ)

/-- A session over the operations of its desktop. -/
def desking : Prog deskSig (Except (Stop (Fault RunError)) SessionEnd × ReportState) :=
  ((runReceive serde clientName busid).unrolled fuel).run.threaded onDesk statics

variable {serde clientName busid statics fuel} {fs : List (Event systemSig)}
  {r : Option (Except (Stop (Fault RunError)) SessionEnd)}

/-- **The system calls of a session**: those of its operations, one after the other, and those with
which it is left. -/
def Carried (es : List (Event deskSig)) (fs : List (Event systemSig))
    (x : Except (Stop (Fault RunError)) SessionEnd) (st : ReportState) : Prop :=
  ∃ d fs₁ fs₂, fs = fs₁ ++ fs₂ ∧ Threads onKernel none es fs₁ d ∧
    (leaving (x, st) d).Trace fs₂ (some x)

/-- What a session comes to in the kernel. -/
theorem receiving_trace (ht : (receiving serde clientName busid statics fuel).Trace fs r)
    (hrelies : uinputDriver.Relies Driver.grants {} fs) :
    uinputDriver.Accepts {} fs ∧ ∀ x, r = some x → x ≠ .error .ranOut →
      ∃ es st, (desking serde clientName busid statics fuel).Trace es (some (x, st)) ∧
        Carried es fs x st ∧ Over (uinputDriver.after {} fs) (deviceLog.after [] es) := by
  have hstart : relied (fun d s => Owns d s ([] : List (DeviceProfile × List InputEvent))) none
      (some ({} : Driver)) := ⟨rfl, rfl⟩
  rcases Prog.Trace.bind_cases ht with
    ⟨hsession, rfl⟩ | ⟨⟨⟨x, st⟩, d⟩, fs₁, fs₂, rfl, hsession, hleaving⟩
  · obtain ⟨haccepts, -⟩ := simulates_onKernel.trace hstart hsession
    exact ⟨hrelies.accepts haccepts, nofun⟩
  · obtain ⟨haccepts, es, d', hes, hthreads, hend⟩ := simulates_onKernel.trace hstart hsession
    obtain ⟨rfl, howns⟩ := hend _ _ rfl
    rw [hrelies.of_append.after] at howns
    obtain ⟨hlast, hover⟩ := (keeps_leaving (x, st) howns).sound hleaving
    rw [← hrelies.of_append.after] at hlast hover
    refine ⟨hrelies.accepts (haccepts.append hlast), ?_⟩
    rintro y rfl hran
    have hresult := hover y rfl
    rw [← Monitor.after_append, hrelies.after] at hresult
    obtain ⟨hx, hdone⟩ := hresult
    subst hx
    exact ⟨es, st, hes, ⟨d, fs₁, fs₂, rfl, hthreads, hleaving⟩, hdone hran⟩

/-- **No session makes a call that the kernel does not expect**, whatever its stream and the answers
of the kernel are; and one that is over, however it has ended, has closed every file. -/
theorem receiving_disciplined (ht : (receiving serde clientName busid statics fuel).Trace fs r)
    (hrelies : uinputDriver.Relies Driver.grants {} fs) :
    uinputDriver.Accepts {} fs ∧
      ∀ x, r = some x → x ≠ .error .ranOut → (uinputDriver.after {} fs).files = fun _ => none := by
  obtain ⟨haccepts, hover⟩ := receiving_trace ht hrelies
  refine ⟨haccepts, fun x hx hran => ?_⟩
  obtain ⟨es, st, -, -, hend⟩ := hover x hx hran
  rw [hend]

/-- **The kernel has had the devices of the session**, one after the other, each made as its profile
says, and each has had the events that were written to it.  The session is the one whose system
calls these are, operation by operation. -/
theorem receiving_devices {x : Except (Stop (Fault RunError)) SessionEnd} (hran : x ≠ .error .ranOut)
    (ht : (receiving serde clientName busid statics fuel).Trace fs (some x))
    (hrelies : uinputDriver.Relies Driver.grants {} fs) :
    ∃ es st, (desking serde clientName busid statics fuel).Trace es (some (x, st)) ∧
      Carried es fs x st ∧
      (uinputDriver.after {} fs).gone = imagesOf (deviceLog.after [] es) := by
  obtain ⟨-, hover⟩ := receiving_trace ht hrelies
  obtain ⟨es, st, hes, hcarried, hend⟩ := hover x rfl hran
  exact ⟨es, st, hes, hcarried, congrArg Driver.gone hend⟩

end Receiving

/-! #### A click -/

/-- A kernel that has every call work, and numbers the files from 3. -/
def clickKernel : Env systemSig Fd
  | .stopped, n => (false, n)
  | .seqJump _ _, n => ((), n)
  | .exists, n => (true, n)
  | .openWrite, n => (.ok n, n + 1)
  | .ioctl _ _ _, n => (.ok (), n)
  | .write _ _, n => (.ok (), n)
  | .close _, n => ((), n)
  | .now, n => ((0, 0), n)

/-- What the sender for Linux sends in a session with its mouse. -/
def clickStream : List UInt8 :=
  (([LinuxSender.helloAck "desk", LinuxSender.deviceList cameraAndMouse,
      LinuxSender.attachOk theMouse].map fun msg => msg.envelope clickSerde.control) ++
    boundEnvelopes clickSerde theMouse click).flatMap Envelope.bytes

/-- A session with it. -/
def clickReceiving : Prog systemSig (Except (Stop (Fault RunError)) SessionEnd) :=
  receiving clickSerde "linux-cli" none {} 10

/-- What is done in it. -/
def clickCalls : List (Event systemSig) :=
  clickReceiving.transcript clickKernel { input := clickStream, env := 3 }

theorem trace_clickCalls : clickReceiving.Trace clickCalls (some (.ok .unbound)) := by
  have hrun : (clickReceiving.run clickKernel { input := clickStream, env := 3 }).1 = .ok .unbound := by
    decide +kernel
  exact hrun ▸ Prog.trace_transcript clickKernel clickReceiving _

theorem relies_clickCalls : uinputDriver.Relies Driver.grants {} clickCalls :=
  Monitor.relies_of_checks (by decide +kernel)

/-- The kernel has had one device, and a click. -/
example : (uinputDriver.after {} clickCalls).gone.map Prod.snd =
    [[⟨evKey, btnLeft, 1⟩, ⟨evSyn, synReport, 0⟩, ⟨evKey, btnLeft, 0⟩, ⟨evSyn, synReport, 0⟩]] := by
  decide +kernel

theorem receiving_disciplined_click :
    uinputDriver.Accepts {} clickCalls ∧
      ∀ x : Except (Stop (Fault RunError)) SessionEnd, some (.ok .unbound) = some x →
        x ≠ .error .ranOut → (uinputDriver.after {} clickCalls).files = fun _ => none :=
  receiving_disciplined trace_clickCalls relies_clickCalls

theorem receiving_devices_click :
    ∃ es st, (desking clickSerde "linux-cli" none {} 10).Trace es (some (.ok .unbound, st)) ∧
      Carried es clickCalls (.ok .unbound) st ∧
      (uinputDriver.after {} clickCalls).gone = imagesOf (deviceLog.after [] es) :=
  receiving_devices nofun trace_clickCalls relies_clickCalls

end Zerowire

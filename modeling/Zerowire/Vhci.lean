/-
**Handing the socket to the kernel** (`desktop-linux/src/usbip.rs`,
`desktop-linux/src/usbip_receiver.rs`).

After ATTACH_OK_USBIP the receiver gives its end of the session socket to the kernel's `vhci-hcd`
driver, by writing a line to a file under `/sys`.  From then on the kernel writes USB/IP packets to
that socket and reads USB/IP packets from it, bare: it knows nothing of envelopes or of the
`import_id` prefix.  At the other end is the pump of `Zerowire/UrbPump.lean`, which reads envelopes.
Nothing translates between the two.

Main definitions:

* `Zerowire.HostOp` — what the receiver asks of the operating system;
* `Zerowire.findFreePort`, `Zerowire.attachSocket`, `Zerowire.runReal` — the receiver;
* `Zerowire.LowestFree`, `Zerowire.LowestFirst` — the port to be found, and the status files in
  which the first port taken is that one;
* `Zerowire.Packet`, `Zerowire.Reply` — what the kernel writes, and what it expects to read;
* `Zerowire.Converses` — the pump answers every packet, in bare packets.

Main results:

* `Zerowire.findFreePort_lowest_iff` — **when the port found is the lowest free one**;
* `Zerowire.runReal_offStream` — handing over writes nothing to the socket;
* `Zerowire.runPump_packets` — on what the kernel writes the pump ends without a reply;
* `Zerowire.not_converses_after_runReal` — **the conversation never takes place**.
-/

import Zerowire.UrbPump

set_option relaxedAutoImplicit false
set_option autoImplicit false

namespace Zerowire

open Bytes Program

/-! ### Finding a port -/

/-- What the receiver asks of the operating system. -/
inductive HostOp where
  /-- `Path::exists`. -/
  | pathExists (path : String)
  /-- `fs::read_to_string`. -/
  | readToString (path : String)
  /-- `OpenOptions::new().write(true).open`. -/
  | openWrite (path : String)
  /-- `write_all` on the file opened last. -/
  | writeFile (path : String) (line : String)
  /-- `thread::sleep`, in milliseconds. -/
  | sleep (ms : ℕ)

/-- What the operating system answers. -/
def HostOp.Ans : HostOp → Type
  | .pathExists _ => Bool
  | .readToString _ => Option String
  | .openWrite _ => Bool
  | .writeFile _ _ => Bool
  | .sleep _ => Unit

/-- The operating system, as surroundings of a program. -/
def hostSig : Sig := ⟨HostOp, HostOp.Ans⟩

section Calls

variable {ε : Type}

def pathExists (path : String) : Act hostSig ε Bool := call (X := hostSig) (HostOp.pathExists path)

def readToString (path : String) : Act hostSig ε (Option String) :=
  call (X := hostSig) (HostOp.readToString path)

def openWrite (path : String) : Act hostSig ε Bool := call (X := hostSig) (HostOp.openWrite path)

def writeFile (path line : String) : Act hostSig ε Bool :=
  call (X := hostSig) (HostOp.writeFile path line)

def sleep (ms : ℕ) : Act hostSig ε Unit := call (X := hostSig) (HostOp.sleep ms)

end Calls

/-- How `run_real` fails. -/
inductive AttachError where
  /-- "vhci-hcd not loaded". -/
  | notLoaded
  /-- "reading .../status". -/
  | readStatus
  /-- "no free vhci-hcd ports". -/
  | noFreePort
  /-- "opening .../attach". -/
  | openAttach
  /-- "writing to .../attach". -/
  | writeAttach (line : String)
  deriving Repr, DecidableEq

def vhciRoot : String := "/sys/devices/platform/vhci_hcd.0"
def attachPath : String := "/sys/devices/platform/vhci_hcd.0/attach"
def statusPath : String := "/sys/devices/platform/vhci_hcd.0/status"

/-- `char::is_whitespace`. -/
def isWhitespace (c : Char) : Bool :=
  let n := c.toNat
  (0x09 ≤ n ∧ n ≤ 0x0D) ∨ n = 0x20 ∨ n = 0x85 ∨ n = 0xA0 ∨ n = 0x1680 ∨
    (0x2000 ≤ n ∧ n ≤ 0x200A) ∨ n = 0x2028 ∨ n = 0x2029 ∨ n = 0x202F ∨ n = 0x205F ∨ n = 0x3000

/-- `str::lines`: the pieces between newlines, without a carriage return before the newline and
without an empty last piece. -/
def lines (txt : List Char) : List (List Char) :=
  let pieces := txt.splitOnP (· == '\n')
  let ended := pieces.dropLast.map fun l => if l.getLast? = some '\r' then l.dropLast else l
  ended ++ pieces.getLast?.toList.filter fun l => !l.isEmpty

/-- `str::split_whitespace`. -/
def splitWhitespace (line : List Char) : List (List Char) :=
  (line.splitOnP isWhitespace).filter fun w => !w.isEmpty

/-- `str::parse` into an unsigned integer below `bound`: decimal digits, with an optional plus
sign. -/
def parseUnsigned (bound : ℕ) (word : List Char) : Option ℕ :=
  let digits := match word with
    | '+' :: rest => rest
    | _ => word
  if digits = [] ∨ ¬ digits.all Char.isDigit then none
  else
    let n := digits.foldl (fun n c => 10 * n + (c.toNat - '0'.toNat)) 0
    if n < bound then some n else none

/-- The port and the state of one row of the status file. -/
def statusRow (line : List Char) : Option (ℕ × ℕ) :=
  match splitWhitespace line with
  | _hub :: port :: sta :: _ => do
      return (← parseUnsigned (2 ^ 8) port, ← parseUnsigned (2 ^ 32) sta)
  | _ => none

/-- The loop of `find_free_port` over the rows after the first. -/
def freePort (txt : List Char) : Option ℕ :=
  (lines txt).tail.findSome? fun line =>
    match statusRow line with
    | some (port, sta) => if sta = 4 ∨ sta = 5 then some port else none
    | none => none

example : freePort "hub port sta\nhs  0001 006 002\r\nhs  +002 005 000\n".toList = some 2 := by
  decide

/-- `find_free_port`. -/
def findFreePort : Act hostSig AttachError ℕ := do
  match ← readToString statusPath with
  | none => throw .readStatus
  | some txt =>
      match freePort txt.toList with
      | none => throw .noFreePort
      | some port => return port

/-! ### The lowest free port -/

/-- The rows whose port and state can be read, in the order of the file. -/
def statusRows (txt : List Char) : List (ℕ × ℕ) := (lines txt).tail.filterMap statusRow

/-- The states that `find_free_port` takes a port in: `VDEV_ST_NULL` and `VDEV_ST_NOTASSIGNED`. -/
def Takes (sta : ℕ) : Prop := sta = 4 ∨ sta = 5

instance (sta : ℕ) : Decidable (Takes sta) := inferInstanceAs (Decidable (_ ∨ _))

/-- What the documentation of `find_free_port` promises of its result: the lowest-numbered of the
ports in state 4, if there is one. -/
structure LowestFree (rows : List (ℕ × ℕ)) (result : Except AttachError ℕ) : Prop where
  /-- A port that is found is free. -/
  free : ∀ port, result = .ok port → (port, 4) ∈ rows
  /-- And no free one is below it. -/
  lowest : ∀ port, result = .ok port → ∀ other, (other, 4) ∈ rows → port ≤ other
  /-- None is reported exactly if none is free. -/
  none : result = .error .noFreePort ↔ ∀ port, (port, 4) ∉ rows

/-- The first row in state 4 or 5, if there is one, is that of the lowest port in state 4: in
state 5 its port comes again further down, in state 4, and no row further down gives a lower port
state 4. -/
def LowestFirst (rows : List (ℕ × ℕ)) : Prop :=
  ∀ before port sta after, rows = before ++ (port, sta) :: after → (∀ row ∈ before, ¬ Takes row.2) →
    Takes sta → (sta = 5 → (port, 4) ∈ after) ∧ ∀ other, (other, 4) ∈ after → port ≤ other

/-- The search stops at the first row in state 4 or 5, and runs through if there is none. -/
theorem freePort_cases (txt : List Char) :
    (freePort txt = none ∧ ∀ row ∈ statusRows txt, ¬ Takes row.2) ∨
    ∃ before port sta after, freePort txt = some port ∧
      statusRows txt = before ++ (port, sta) :: after ∧ (∀ row ∈ before, ¬ Takes row.2) ∧
      Takes sta := by
  rw [freePort, statusRows]
  induction (lines txt).tail with
  | nil => exact .inl ⟨rfl, by simp⟩
  | cons line rest ih =>
      rw [List.findSome?_cons, List.filterMap_cons]
      cases hrow : statusRow line with
      | none => exact ih
      | some row =>
          obtain ⟨port, sta⟩ := row
          simp only
          by_cases htake : sta = 4 ∨ sta = 5
          · rw [if_pos htake]
            exact .inr ⟨[], port, sta, _, rfl, rfl, by simp, htake⟩
          · rw [if_neg htake]
            rcases ih with ⟨hnone, hrest⟩ | ⟨before, port', sta', after, hsome, hsplit, hbefore, htake'⟩
            · exact .inl ⟨hnone, List.forall_mem_cons.2 ⟨htake, hrest⟩⟩
            · refine .inr ⟨(port, sta) :: before, port', sta', after, hsome, ?_,
                List.forall_mem_cons.2 ⟨htake, hbefore⟩, htake'⟩
              rw [List.cons_append, hsplit]

/-- The first row that is taken is one row. -/
theorem first_unique {before before' after after' : List (ℕ × ℕ)} {row row' : ℕ × ℕ}
    (h : before ++ row :: after = before' ++ row' :: after') (hbefore : ∀ r ∈ before, ¬ Takes r.2)
    (hbefore' : ∀ r ∈ before', ¬ Takes r.2) (htake : Takes row.2) (htake' : Takes row'.2) :
    before = before' ∧ row = row' ∧ after = after' := by
  induction before generalizing before' with
  | nil =>
      cases before' with
      | nil => simpa using h
      | cons r before' =>
          obtain ⟨rfl, -⟩ := List.cons.inj h
          exact absurd htake (hbefore' row List.mem_cons_self)
  | cons r before ih =>
      cases before' with
      | nil =>
          obtain ⟨rfl, -⟩ := List.cons.inj h
          exact absurd htake' (hbefore _ List.mem_cons_self)
      | cons r' before' =>
          obtain ⟨rfl, hrest⟩ := List.cons.inj h
          rw [List.forall_mem_cons] at hbefore hbefore'
          obtain ⟨rfl, hrow, hafter⟩ := ih hrest hbefore.2 hbefore'.2
          exact ⟨rfl, hrow, hafter⟩

theorem exec_readToString {τ ε : Type} (host : Env hostSig τ) (path : String) (s : Io τ) :
    exec host (readToString path : Act hostSig ε _) s =
      (.ok (host (.readToString path) s.env).1,
        { s with env := (host (.readToString path) s.env).2 }) := rfl

/-- In a file that is ordered by port and has no row in state 5, the first port taken is the right
one. -/
theorem lowestFirst_of_ordered {rows : List (ℕ × ℕ)}
    (hsorted : rows.Pairwise fun row row' => row.1 ≤ row'.1) (hstate : ∀ row ∈ rows, row.2 ≠ 5) :
    LowestFirst rows := by
  rintro before port sta after rfl - -
  obtain ⟨-, hrest, -⟩ := List.pairwise_append.1 hsorted
  refine ⟨fun hsta => absurd hsta (hstate (port, sta) (by simp)), ?_⟩
  intro other hother
  exact (List.pairwise_cons.1 hrest).1 _ hother

/-- `find_free_port` is the search, once the status file could be read. -/
theorem exec_findFreePort {τ : Type} {host : Env hostSig τ} {s : Io τ} {txt : String}
    (hread : (host (.readToString statusPath) s.env).1 = some txt) :
    (exec host findFreePort s).1 =
      match freePort txt.toList with
      | none => .error .noFreePort
      | some port => .ok port := by
  rw [findFreePort, exec_bind_ok (exec_readToString host statusPath s), hread]
  simp only
  cases freePort txt.toList with
  | none => rfl
  | some port => rfl

/-- **When the port found is the right one.**  What `find_free_port` makes of a status file is what
its documentation promises, exactly if the first row in state 4 or 5 is that of the lowest port in
state 4. -/
theorem findFreePort_lowest_iff {τ : Type} (host : Env hostSig τ) (s : Io τ) (txt : String)
    (hread : (host (.readToString statusPath) s.env).1 = some txt) :
    LowestFree (statusRows txt.toList) (exec host findFreePort s).1 ↔
      LowestFirst (statusRows txt.toList) := by
  rw [exec_findFreePort hread]
  rcases freePort_cases txt.toList with
    ⟨hnone, hrows⟩ | ⟨before, port, sta, after, hsome, hsplit, hbefore, htake⟩
  · -- no row is taken, and none is in state 4
    rw [hnone]
    refine iff_of_true ⟨by simp, by simp, iff_of_true rfl ?_⟩ ?_
    · intro port hport
      exact hrows _ hport (.inl rfl)
    · intro before port sta after hsplit _ htake
      exact absurd htake (hrows (port, sta) (by rw [hsplit]; simp))
  · rw [hsome, hsplit]
    constructor
    -- there is only one first row in state 4 or 5
    · intro h before' port' sta' after' hsplit' hbefore' htake'
      obtain ⟨rfl, hrow, rfl⟩ := first_unique hsplit' hbefore hbefore' htake htake'
      obtain ⟨rfl, rfl⟩ := Prod.mk.inj hrow
      refine ⟨?_, ?_⟩
      · rintro rfl
        have hfree := h.free port rfl
        rw [List.mem_append, List.mem_cons] at hfree
        rcases hfree with hfree | hfree | hfree
        · exact absurd (.inl rfl) (hbefore _ hfree)
        · simp at hfree
        · exact hfree
      · intro other hother
        exact h.lowest port rfl other (by simp [hother])
    · intro h
      obtain ⟨hlater, hlowest⟩ := h before port sta after rfl hbefore htake
      have hfree : (port, 4) ∈ before ++ (port, sta) :: after := by
        rcases htake with rfl | rfl
        · simp
        · simp [hlater rfl]
      refine ⟨?_, ?_, iff_of_false (by simp) fun hno => hno port hfree⟩
      · rintro _ ⟨⟩
        exact hfree
      · rintro _ ⟨⟩ other hother
        rw [List.mem_append, List.mem_cons] at hother
        rcases hother with hother | hother | hother
        · exact absurd (.inl rfl) (hbefore _ hother)
        · exact Nat.le_of_eq (Prod.mk.inj hother).1.symm
        · exact hlowest other hother

/-- The second and the third port are free. -/
def statusWithFree : String :=
  "hub port sta spd dev sockfd local_busid\nhs 0000 006 003 00010002 000003 1-1\n" ++
    "hs 0001 004 000 00000000 000000 0-0\nhs 0002 004 000 00000000 000000 0-0\n"

/-- A file system with this status file. -/
def hostWithStatus (txt : String) : Env hostSig Unit
  | .pathExists _, u => (true, u)
  | .readToString _, u => (some txt, u)
  | .openWrite _, u => (true, u)
  | .writeFile _ _, u => (true, u)
  | .sleep _, u => ((), u)

/-- The lower one of the two is found. -/
theorem findFreePort_lowest_withFree :
    LowestFree (statusRows statusWithFree.toList)
      (exec (hostWithStatus statusWithFree) findFreePort ⟨[], [], [], ()⟩).1 := by
  have hrows : statusRows statusWithFree.toList = [(0, 6)] ++ (1, 4) :: [(2, 4)] := by
    decide +kernel
  refine (findFreePort_lowest_iff (hostWithStatus statusWithFree) ⟨[], [], [], ()⟩
    statusWithFree rfl).2 fun before port sta after hsplit hbefore htake => ?_
  obtain ⟨-, hrow, rfl⟩ := first_unique (hrows.symm.trans hsplit) (by simp [Takes]) hbefore
    (.inl rfl) htake
  cases hrow
  simp

/-- The second row's device is attached and has no address yet (state 5); the third port is the
first free one. -/
def statusWithUnassigned : String :=
  "hub port sta spd dev sockfd local_busid\nhs 0000 006 003 00010002 000003 1-1\n" ++
    "hs 0001 005 003 00010003 000004 1-2\nhs 0002 004 000 00000000 000000 0-0\n"

/-- The port that is found is in state 5, and not free. -/
theorem not_lowestFree_unassigned :
    ¬ LowestFree (statusRows statusWithUnassigned.toList)
      (exec (hostWithStatus statusWithUnassigned) findFreePort ⟨[], [], [], ()⟩).1 := by
  intro h
  have hrows : statusRows statusWithUnassigned.toList = [(0, 6), (1, 5), (2, 4)] := by
    decide +kernel
  have hfound : (exec (hostWithStatus statusWithUnassigned) findFreePort ⟨[], [], [], ()⟩).1 =
      .ok 1 := by
    have hread : (hostWithStatus statusWithUnassigned (.readToString statusPath) ()).1 =
        some statusWithUnassigned := rfl
    rw [exec_findFreePort hread]
    decide +kernel
  have hfree := h.free 1 hfound
  rw [hrows] at hfree
  simp at hfree

/-! ### Handing over -/

/-- The part of `UsbipAttachInfo` that the receiver's kernel is told. -/
structure UsbipAttachInfo where
  busid : String
  importId : UInt32
  devid : UInt32
  speed : UInt8
  deriving Repr, DecidableEq

/-- The line written to the attach file. -/
def attachLine (port fd : ℕ) (info : UsbipAttachInfo) : String :=
  toString port ++ " " ++ toString fd ++ " " ++ toString info.devid.toNat ++ " " ++
    toString info.speed.toNat

/-- `attach_socket`, for the socket with the file descriptor `fd`. -/
def attachSocket (fd : ℕ) (info : UsbipAttachInfo) : Act hostSig AttachError ℕ := do
  let port ← findFreePort
  let line := attachLine port fd info
  if !(← openWrite attachPath) then throw .openAttach
  else if !(← writeFile attachPath line) then throw (.writeAttach line)
  else return port

/-- `vhci_available`. -/
def vhciAvailable : Act hostSig AttachError Bool := do
  if !(← pathExists vhciRoot) then return false
  else pathExists statusPath

/-- `run_real`: the socket is not read or written; when this returns it belongs to the kernel. -/
def runReal (fd : ℕ) (info : UsbipAttachInfo) : Act hostSig AttachError Unit := do
  if !(← vhciAvailable) then throw .notLoaded
  else
    let _port ← attachSocket fd info
    sleep 50

theorem findFreePort_offStream : OffStream findFreePort := by
  apply OffStream.bind (OffStream.call _)
  rintro (_ | txt)
  · exact OffStream.throw _
  · simp only
    cases freePort txt.toList with
    | none => exact OffStream.throw _
    | some port => exact OffStream.pure _

theorem attachSocket_offStream (fd : ℕ) (info : UsbipAttachInfo) :
    OffStream (attachSocket fd info) := by
  apply OffStream.bind findFreePort_offStream
  intro port
  apply OffStream.bind (OffStream.call _)
  intro opened
  apply OffStream.ite (OffStream.throw _)
  apply OffStream.bind (OffStream.call _)
  intro written
  exact OffStream.ite (OffStream.throw _) (OffStream.pure _)

theorem vhciAvailable_offStream : OffStream vhciAvailable := by
  apply OffStream.bind (OffStream.call _)
  intro root
  exact OffStream.ite (OffStream.pure _) (OffStream.call _)

/-- **Handing over does not touch the stream**: whatever `run_real` does, it reads and writes
nothing on the socket. -/
theorem runReal_offStream (fd : ℕ) (info : UsbipAttachInfo) : OffStream (runReal fd info) := by
  apply OffStream.bind vhciAvailable_offStream
  intro available
  apply OffStream.ite (OffStream.throw _)
  apply OffStream.bind (attachSocket_offStream fd info)
  intro port
  exact OffStream.call _

/-! ### What the kernel says -/

/-- A packet that the kernel writes: a command header, and for OUT as many bytes as the header
announces. -/
inductive Packet where
  | submit (c : CmdSubmit) (body : List UInt8)
      (h : body.length = if c.direction = urbDirOut then c.transferBufferLength.toNat else 0)
  | unlink (u : CmdUnlink)

/-- The bytes of a packet. -/
def Packet.bytes : Packet → List UInt8
  | .submit c body _ => c.encode ++ body
  | .unlink u => u.encode

/-- A packet that the kernel expects to read: a return header, and the data of an IN transfer. -/
inductive Reply where
  | submit (r : RetSubmit) (data : List UInt8)
  | unlink (r : RetUnlink)

/-- The bytes of a reply. -/
def Reply.bytes : Reply → List UInt8
  | .submit r data => r.encode ++ data
  | .unlink r => r.encode

/-- The reply answers the packet: of the same kind, with the same sequence number. -/
def Packet.AnsweredBy : Packet → Reply → Prop
  | .submit c _ _, .submit r _ => r.seqnum = c.seqnum
  | .unlink u, .unlink r => r.seqnum = u.seqnum
  | _, _ => False

/-- **The kernel and the pump converse**: the pump, reading `before` and then the packets of the
kernel, writes exactly one bare reply for each packet, in their order. -/
def Converses {X : Sig} {τ : Type} (env : Env X τ) (t : τ) (importId : UInt32) (device : FakeDevice)
    (before : List UInt8) (packets : List Packet) : Prop :=
  ∃ fuel result s' replies,
    runPump env importId device fuel ⟨before ++ packets.flatMap Packet.bytes, [], [], t⟩ =
      some (result, s') ∧
    List.Forall₂ Packet.AnsweredBy packets replies ∧ s'.output = replies.flatMap Reply.bytes

/-- Every packet starts with two zero bytes, where an envelope has its magic. -/
theorem Packet.bytes_eq (p : Packet) : ∃ rest, p.bytes = 0 :: 0 :: rest := by
  cases p with
  | submit c body h => exact ⟨_, rfl⟩
  | unlink u => exact ⟨_, rfl⟩

/-- A stream that starts with two zero bytes starts with no envelope. -/
theorem parse_zeros (rest : List UInt8) (r : Envelope × ℕ) :
    Envelope.parse (0 :: 0 :: rest) ≠ .ok (some r) := by
  intro h
  obtain ⟨-, -, rest', hrest⟩ := Envelope.eq_bytes_of_parse h
  rw [Envelope.bytes, magic] at hrest
  simp at hrest

/-- **The pump says nothing to the kernel**: it finds no envelope in what the kernel writes, takes
that for the end of the stream, and returns. -/
theorem runPump_packets {X : Sig} {τ : Type} (env : Env X τ) (t : τ) (importId : UInt32)
    (device : FakeDevice) {packets : List Packet} (h : packets ≠ []) (fuel : ℕ) :
    ∃ rest, runPump env importId device (fuel + 1) ⟨packets.flatMap Packet.bytes, [], [], t⟩ =
      some (.ok {}, ⟨rest, [], [], t⟩) := by
  obtain ⟨p, packets, rfl⟩ := List.exists_cons_of_ne_nil h
  obtain ⟨rest, hp⟩ := p.bytes_eq
  have hno : ∀ r, Envelope.parse ((p :: packets).flatMap Packet.bytes) ≠ .ok (some r) := by
    rw [List.flatMap_cons, hp]
    exact parse_zeros _
  obtain ⟨rest, hx⟩ := exec_pumpRound_none env importId device {}
    (s := ⟨(p :: packets).flatMap Packet.bytes, [], [], t⟩) hno
  exact ⟨rest, loop_rounds_inr hx⟩

/-- The kernel gets no reply, and it has asked for at least one. -/
theorem not_converses {X : Sig} {τ : Type} (env : Env X τ) (t : τ) (importId : UInt32)
    (device : FakeDevice) {packets : List Packet} (h : packets ≠ []) :
    ¬ Converses env t importId device [] packets := by
  rintro ⟨fuel, result, s', replies, hrun, hall, hout⟩
  obtain ⟨rest, hpump⟩ := runPump_packets env t importId device h fuel
  have hsame := loop_mono (Nat.le_succ fuel) hrun
  rw [List.nil_append] at hsame
  rw [show loop _ _ _ _ _ = _ from hpump] at hsame
  cases hsame
  obtain ⟨p, packets, rfl⟩ := List.exists_cons_of_ne_nil h
  cases hall with
  | @cons _ reply _ replies hp hrest =>
      have hlen : 0 < reply.bytes.length := by
        cases reply with
        | submit r data =>
            rw [Reply.bytes, List.length_append, RetSubmit.length_encode, urbHeaderLen]
            omega
        | unlink r => simp [Reply.bytes, RetUnlink.length_encode, urbHeaderLen]
      have := congrArg List.length hout
      rw [List.flatMap_cons, List.length_append, List.length_nil] at this
      omega

/-- A file system with one free port, and a kernel that takes the socket. -/
def hostWithFreePort : Env hostSig Unit
  | .pathExists _, u => (true, u)
  | .readToString _, u =>
      (some "hub port sta spd dev sockfd local_busid\nhs 0000 004 000 0 0 0-0\n", u)
  | .openWrite _, u => (true, u)
  | .writeFile _ _, u => (true, u)
  | .sleep _, u => ((), u)

/-- **The conversation never takes place.**  Whenever `run_real` has handed the socket over, and
whatever the kernel then writes to it, the pump at the other end does not answer it. -/
theorem not_converses_after_runReal {τ : Type} (host : Env hostSig τ) (fd : ℕ)
    (info : UsbipAttachInfo) (s s' : Io τ) (hs : s.output = [])
    (hreal : exec host (runReal fd info) s = (.ok (), s')) {Y : Sig} {τ' : Type} (env : Env Y τ')
    (t : τ') (importId : UInt32) (device : FakeDevice) (packets : List Packet) (h : packets ≠ []) :
    ¬ Converses env t importId device s'.output packets := by
  obtain ⟨t', ht'⟩ := runReal_offStream fd info host s
  rw [hreal] at ht'
  obtain rfl : s' = _ := ht'
  rw [hs]
  exact not_converses env t importId device h

/-- `GET_DESCRIPTOR(Device)`, the first thing a kernel asks of a device. -/
def getDescriptor : Packet :=
  .submit ⟨1, 0, urbDirIn, 0, 0, 18, 0, 0, 0, .of 0x80 6 0 1 0 0 18 0⟩ [] (by decide)

def exampleInfo : UsbipAttachInfo := ⟨"1-1", 1, 65537, 3⟩

def exampleDevice : FakeDevice := ⟨List.replicate 18 1, [], []⟩

theorem runReal_hostWithFreePort :
    exec hostWithFreePort (runReal 3 exampleInfo) ⟨[], [], [], ()⟩ = (.ok (), ⟨[], [], [], ()⟩) :=
  rfl

theorem not_converses_after_runReal_getDescriptor :
    ¬ Converses Env.none () exampleInfo.importId exampleDevice [] [getDescriptor] :=
  not_converses_after_runReal hostWithFreePort 3 exampleInfo ⟨[], [], [], ()⟩ ⟨[], [], [], ()⟩ rfl
    runReal_hostWithFreePort Env.none () exampleInfo.importId exampleDevice [getDescriptor] (by simp)

/-- The socket is handed over, the kernel asks for the device descriptor, and the pump leaves. -/
theorem getDescriptor_unanswered :
    exec hostWithFreePort (runReal 3 exampleInfo) ⟨[], [], [], ()⟩ = (.ok (), ⟨[], [], [], ()⟩) ∧
    ¬ Converses Env.none () exampleInfo.importId exampleDevice [] [getDescriptor] :=
  ⟨runReal_hostWithFreePort, not_converses Env.none () _ _ (by simp)⟩

end Zerowire

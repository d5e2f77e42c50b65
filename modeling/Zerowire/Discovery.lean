/-
**Discovery on the local network** (`protocol/src/discovery.rs`, `desktop-linux/src/discovery.rs`).

A sender advertises itself by a list of text records: its protocol version, id, name, port and
capability tags, the tags joined with commas.  The receiver browses for some time and decodes the
records of every service that the multicast DNS daemon has resolved.  The two halves are in
different crates, and a list is taken apart differently from how it is put together: joining no tags
gives the empty text, and splitting the empty text gives one empty tag.

The daemon is not part of the source.  What it reports of a service is `Zerowire.ServiceInfo`; it
carries the records as they were published, in any order.

Main definitions:

* `Zerowire.buildTxt` — the records that a sender publishes;
* `Zerowire.resolved` — how the receiver decodes one service;
* `Zerowire.discover` — the whole browse.

Main results:

* `Zerowire.collect_eq_some_iff` — records with different keys: what is found under a key;
* `Zerowire.splitCommas_joinCommas` — **tags joined and split again**, for lists of every length;
* `Zerowire.resolved_buildTxt_iff` — **when the receiver reads what the sender published**: exactly
  if there is a tag at all;
* `Zerowire.discover_eq` — which services the browse returns.
-/

import Zerowire.Vhci

set_option relaxedAutoImplicit false
set_option autoImplicit false

namespace Zerowire

/-! ### The records -/

/-- `DEFAULT_PORT`. -/
def defaultPort : UInt16 := 47823

/-! The keys of the records (`discovery::txt`). -/

def txtVersion : String := "v"
def txtSenderId : String := "id"
def txtName : String := "n"
def txtCapabilities : String := "caps"
def txtPort : String := "port"

/-- `ResolvedSender`. -/
structure ResolvedSender where
  senderId : String
  name : String
  host : String
  port : UInt16
  capabilities : List String
  version : UInt8
  deriving Repr, DecidableEq

/-- `capabilities.join(",")`. -/
def joinCommas (tags : List String) : String := ",".intercalate tags

/-- `c.split(',')`. -/
def splitCommas (c : String) : List String := (c.toList.splitOn ',').map String.ofList

/-- `build_txt`. -/
def buildTxt (senderId name : String) (port : UInt16) (capabilities : List String) :
    List (String × String) :=
  [(txtVersion, "1"), (txtSenderId, senderId), (txtName, name),
    (txtPort, toString port.toNat), (txtCapabilities, joinCommas capabilities)]

/-! ### Decoding -/

/-- What the daemon reports of a resolved service (`mdns_sd::ServiceInfo`). -/
structure ServiceInfo where
  /-- `get_properties`: the records, each with its key and its text. -/
  properties : List (String × String)
  /-- `get_addresses`, as they are printed. -/
  addresses : List String
  hostname : String
  port : UInt16
  fullname : String
  deriving Repr, DecidableEq

/-- Records collected into a map: the last one under a key is the one that stays. -/
def collect (records : List (String × String)) (key : String) : Option String :=
  records.reverse.lookup key

/-- `str::parse` into an `u16`. -/
def parseU16 (s : String) : Option UInt16 := (parseUnsigned (2 ^ 16) s.toList).map UInt16.ofNat

/-- `str::parse` into an `u8`. -/
def parseU8 (s : String) : Option UInt8 := (parseUnsigned (2 ^ 8) s.toList).map UInt8.ofNat

/-- What `discover` makes of a resolved service. -/
def resolved (info : ServiceInfo) : ResolvedSender :=
  let txt := collect info.properties
  { senderId := (txt "id").getD ""
    name := (txt "n").getD info.fullname
    host := info.addresses.head?.getD info.hostname
    port := ((txt "port").bind parseU16).getD info.port
    capabilities := ((txt "caps").map splitCommas).getD []
    version := ((txt "v").bind parseU8).getD 1 }

/-- `ServiceEvent`: the loop only looks at one kind of event. -/
inductive ServiceEvent where
  | serviceResolved (info : ServiceInfo)
  | other
  deriving Repr, DecidableEq

/-- What the loop adds to its result for an event. -/
def ServiceEvent.found : ServiceEvent → List ResolvedSender
  | .serviceResolved info => [resolved info]
  | .other => []

/-- How a browse fails before it begins. -/
inductive DiscoverError where
  /-- "starting mDNS daemon". -/
  | startDaemon
  /-- "starting mDNS browse". -/
  | startBrowse
  deriving Repr, DecidableEq

/-- The loop of `discover` over the events that `recv_timeout` returns; with each comes whether the
deadline has passed when the event has been dealt with. -/
def browse : List (ServiceEvent × Bool) → List ResolvedSender
  | [] => []
  | (evt, late) :: events =>
      if late then evt.found else evt.found ++ browse events

/-- `discover`: `daemon` and `browsing` tell whether the daemon and the browse can be started. -/
def discover (daemon browsing : Bool) (events : List (ServiceEvent × Bool)) :
    Except DiscoverError (List ResolvedSender) :=
  if !daemon then .error .startDaemon
  else if !browsing then .error .startBrowse
  else .ok (browse events)

/-! ### Maps -/

/-- Under a key there is the record with that key, if no two records have the same. -/
theorem collect_eq_some_iff {records : List (String × String)}
    (hnodup : (records.map Prod.fst).Nodup) {key value : String} :
    collect records key = some value ↔ (key, value) ∈ records := by
  rw [← List.mem_reverse, collect]
  have hrev : (records.reverse.map Prod.fst).Nodup := by
    rw [List.map_reverse, List.nodup_reverse]
    exact hnodup
  generalize records.reverse = rs at hrev ⊢
  induction rs with
  | nil => simp
  | cons r rs ih =>
      obtain ⟨k, v⟩ := r
      rw [List.map_cons, List.nodup_cons] at hrev
      obtain ⟨hfresh, hrest⟩ := hrev
      rw [List.lookup_cons, List.mem_cons, Prod.mk.injEq]
      by_cases hk : key = k
      · subst hk
        have hnot : (key, value) ∉ rs := fun h => hfresh (List.mem_map.2 ⟨_, h, rfl⟩)
        simp [hnot, eq_comm]
      · simp [hk, beq_eq_false_iff_ne.2 hk, ih hrest]

/-- The order of the records does not matter. -/
theorem collect_perm {records records' : List (String × String)} (h : records.Perm records')
    (hnodup : (records'.map Prod.fst).Nodup) (key : String) :
    collect records key = collect records' key := by
  apply Option.ext
  intro value
  rw [collect_eq_some_iff hnodup, collect_eq_some_iff ((h.map Prod.fst).nodup_iff.2 hnodup),
    h.mem_iff]

theorem buildTxt_nodup (senderId name : String) (port : UInt16) (capabilities : List String) :
    ((buildTxt senderId name port capabilities).map Prod.fst).Nodup := by
  show [txtVersion, txtSenderId, txtName, txtPort, txtCapabilities].Nodup
  decide

/-! ### Numbers -/

/-- A word without a plus sign in front is all digits, or no number. -/
theorem parseUnsigned_eq_of_no_plus {bound : ℕ} {word : List Char}
    (h : ∀ rest, word ≠ '+' :: rest) :
    parseUnsigned bound word =
      if word = [] ∨ ¬ word.all Char.isDigit then none
      else
        let n := word.foldl (fun n c => 10 * n + (c.toNat - '0'.toNat)) 0
        if n < bound then some n else none := by
  unfold parseUnsigned
  split
  · next rest => exact absurd rfl (h rest)
  · rfl

/-- A number in decimal is read back. -/
theorem parseUnsigned_toString {bound n : ℕ} (h : n < bound) :
    parseUnsigned bound (toString n).toList = some n := by
  have hdigits : (toString n).toList = Nat.toDigits 10 n := by
    rw [Nat.toString_eq_ofList_toDigits, String.toList_ofList]
  have hall : ∀ c ∈ Nat.toDigits 10 n, c.isDigit := fun c hc =>
    Nat.isDigit_of_mem_toDigits (by decide) (by decide) hc
  have hvalue : (Nat.toDigits 10 n).foldl (fun n c => 10 * n + (c.toNat - '0'.toNat)) 0 = n := by
    rw [← Nat.ofDigitChars_eq_foldl, Nat.ofDigitChars_ten_toDigits]
  have hgood : ¬ (Nat.toDigits 10 n = [] ∨ ¬ (Nat.toDigits 10 n).all Char.isDigit) := by
    rintro (hnil | hbad)
    · exact Nat.toDigits_ne_nil hnil
    · exact hbad (List.all_eq_true.2 hall)
  rw [hdigits, parseUnsigned_eq_of_no_plus, if_neg hgood, hvalue, if_pos h]
  -- No digit is a plus sign, so nothing is dropped in front.
  intro rest hplus
  have hsign : '+'.isDigit = true := hall '+' (by rw [hplus]; exact List.mem_cons_self)
  exact absurd hsign (by decide)

theorem parseU16_toString (port : UInt16) : parseU16 (toString port.toNat) = some port := by
  rw [parseU16, parseUnsigned_toString port.toNat_lt, Option.map_some, UInt16.ofNat_toNat]

/-! ### Lists of tags -/

/-- Tags without commas that are joined and split again: the same tags, but no tags become one
empty tag. -/
theorem splitCommas_joinCommas {tags : List String} (h : ∀ tag ∈ tags, ',' ∉ tag.toList) :
    splitCommas (joinCommas tags) = if tags = [] then [""] else tags := by
  have hjoined : (joinCommas tags).toList = [','].intercalate (tags.map String.toList) :=
    String.toList_intercalate
  rw [splitCommas, hjoined]
  by_cases hnil : tags = []
  · subst hnil
    rfl
  · have hcommas : ∀ cs ∈ tags.map String.toList, ',' ∉ cs := by
      intro cs hcs
      obtain ⟨tag, htag, rfl⟩ := List.mem_map.1 hcs
      exact h tag htag
    rw [List.splitOn_intercalate ',' hcommas (by simpa using hnil), if_neg hnil, List.map_map]
    exact (List.map_congr_left fun tag _ => String.ofList_toList).trans (List.map_id tags)

/-! ### What the sender published, and what the receiver reads -/

/-- A decoded service is the one that the sender advertised. -/
structure ReadsBack (senderId name : String) (port : UInt16) (capabilities : List String)
    (found : ResolvedSender) : Prop where
  senderId : found.senderId = senderId
  name : found.name = name
  port : found.port = port
  version : found.version = 1
  capabilities : found.capabilities = capabilities

/-- What the receiver makes of the records of `build_txt`, if no tag contains a comma: all that was
published, but an empty list of tags comes back as one empty tag. -/
theorem resolved_buildTxt {senderId name : String} {port : UInt16} {capabilities : List String}
    {info : ServiceInfo} (hcommas : ∀ tag ∈ capabilities, ',' ∉ tag.toList)
    (hrecords : info.properties.Perm (buildTxt senderId name port capabilities)) :
    resolved info =
      { senderId := senderId, name := name, host := info.addresses.head?.getD info.hostname
        port := port, capabilities := if capabilities = [] then [""] else capabilities
        version := 1 } := by
  have htxt {key value : String} (h : (key, value) ∈ buildTxt senderId name port capabilities) :
      collect info.properties key = some value := by
    have hnodup := buildTxt_nodup senderId name port capabilities
    rw [collect_perm hrecords hnodup]
    exact (collect_eq_some_iff hnodup).2 h
  have hid : collect info.properties "id" = some senderId := htxt (by simp [buildTxt, txtSenderId])
  have hname : collect info.properties "n" = some name := htxt (by simp [buildTxt, txtName])
  have hport : collect info.properties "port" = some (toString port.toNat) :=
    htxt (by simp [buildTxt, txtPort])
  have hcaps : collect info.properties "caps" = some (joinCommas capabilities) :=
    htxt (by simp [buildTxt, txtCapabilities])
  have hversion : collect info.properties "v" = some "1" := htxt (by simp [buildTxt, txtVersion])
  have hone : parseU8 "1" = some 1 := by decide
  simp only [resolved, hid, hname, hport, hcaps, hversion, Option.getD_some, Option.bind_some,
    Option.map_some, parseU16_toString, hone, splitCommas_joinCommas hcommas]

/-- **The receiver reads what the sender published exactly if there is a tag at all**: the id, the
name, the port, the version and the tags, for every list of tags without commas. -/
theorem resolved_buildTxt_iff {senderId name : String} {port : UInt16} {capabilities : List String}
    {info : ServiceInfo} (hcommas : ∀ tag ∈ capabilities, ',' ∉ tag.toList)
    (hrecords : info.properties.Perm (buildTxt senderId name port capabilities)) :
    ReadsBack senderId name port capabilities (resolved info) ↔ capabilities ≠ [] := by
  rw [resolved_buildTxt hcommas hrecords]
  constructor
  · rintro ⟨-, -, -, -, hcaps⟩ rfl
    have hempty : [""] = ([] : List String) := hcaps
    exact absurd hempty (by decide)
  · intro hne
    exact ⟨rfl, rfl, rfl, rfl, if_neg hne⟩

/-- A phone that advertises both of its capabilities. -/
def pixelInfo : ServiceInfo where
  properties := buildTxt "abc" "Pixel 8" defaultPort ["usbip", "hid"]
  addresses := ["192.168.1.42"]
  hostname := "pixel.local."
  port := defaultPort
  fullname := "zerowire-abc._zerowire._tcp.local."

/-- It is read as it was published. -/
theorem resolved_buildTxt_pixel :
    ReadsBack "abc" "Pixel 8" defaultPort ["usbip", "hid"] (resolved pixelInfo) :=
  (resolved_buildTxt_iff (by decide) (List.Perm.refl _)).2 (by decide)

/-- The same phone with nothing to offer. -/
def idleInfo : ServiceInfo :=
  { pixelInfo with properties := buildTxt "abc" "Pixel 8" defaultPort [] }

/-- A sender without capabilities is taken for one with one capability, the empty text. -/
theorem idle_not_readsBack :
    ¬ ∀ (senderId name : String) (port : UInt16) (capabilities : List String) (info : ServiceInfo),
      (∀ tag ∈ capabilities, ',' ∉ tag.toList) →
        info.properties = buildTxt senderId name port capabilities →
          ReadsBack senderId name port capabilities (resolved info) := by
  intro h
  have hidle := h "abc" "Pixel 8" defaultPort [] idleInfo (by decide) rfl
  have hcaps : (resolved idleInfo).capabilities = [""] := by decide
  exact absurd (hcaps.symm.trans hidle.capabilities) (by decide)

/-! ### The browse -/

/-- The events that the loop gets to see: those up to the first that the deadline passes with. -/
def inTime (events : List (ServiceEvent × Bool)) : List (ServiceEvent × Bool) :=
  events.takeWhile (fun e => !e.2) ++ (events.find? (·.2)).toList

theorem browse_eq (events : List (ServiceEvent × Bool)) :
    browse events = (inTime events).flatMap fun e => e.1.found := by
  induction events with
  | nil => rfl
  | cons e events ih =>
      obtain ⟨evt, late⟩ := e
      cases late <;> simp [browse, inTime, ih]

/-- **The browse returns the resolved services**, decoded one by one, in the order in which they are
reported. -/
theorem discover_eq (events : List (ServiceEvent × Bool)) :
    discover true true events = .ok ((inTime events).flatMap fun e => e.1.found) := by
  rw [← browse_eq]
  rfl

end Zerowire

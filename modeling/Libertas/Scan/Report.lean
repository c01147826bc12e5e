import Libertas.Dev
import Libertas.Region
import Libertas.Scan.Descriptor
import Libertas.Scan.Stored
import Libertas.Stream
import Mathlib.Data.List.Induction

/-!
# The report of the scan results

`lbs_get_scan` translates the entries of the scan table into a cell each: a sequence
of wireless events, of which most depend on the entry. The helpers of the wireless
extensions leave out an event that does not fit into the caller's buffer, without a
sign; only in front of an entry the function looks whether `SCAN_ITEM_SIZE` bytes
are left.

The lengths of the events depend on the word size, and on whether a 32-bit program
makes the call on a 64-bit kernel.
-/

namespace Libertas

open ByteOrder

/-- `iwe_stream_lcp_len` and `iwe_stream_point_len`. -/
structure EventLayout where
  lcpLen : Nat
  pointLen : Nat
  lcpLen_le : lcpLen ≤ 8
  pointLen_le : pointLen ≤ 16
  lcpLen_le_pointLen : lcpLen ≤ pointLen
  lcpLen_pos : 0 < lcpLen

/-- The layout of a 32-bit kernel. -/
def layout32 : EventLayout := ⟨4, 8, by decide, by decide, by decide, by decide⟩

/-- The events of a cell. -/
inductive IwEvent
  | ap (bssid : List UInt8)
  | essid (ssid : List UInt8)
  | mode (mode : UInt8)
  | freq (m : Int) (e : Int)
  | qual (qual level noise : UInt8)
  | encode (flags : UInt16)
  /-- The bit rates, which share one header. -/
  | rate (values : List Int)
  | genie (bytes : List UInt8)
  | custom (bytes : List UInt8)
deriving DecidableEq, Repr

/-- The length of an event in the stream. -/
def IwEvent.len (layout : EventLayout) : IwEvent → Nat
  | .ap _ => layout.lcpLen + 16
  | .essid data | .genie data | .custom data => layout.pointLen + data.length
  | .mode _ | .qual _ _ _ => layout.lcpLen + 4
  | .freq _ _ => layout.lcpLen + 8
  | .encode _ => layout.pointLen
  | .rate values => layout.lcpLen + 8 * values.length

/-- A stream of events: where it starts in the buffer, the end of the buffer, and the events. -/
structure EventStream where
  layout : EventLayout
  start : Nat
  ends : Nat
  events : List IwEvent

namespace EventStream

variable (stream : EventStream)

/-- The position behind the last event. -/
def pos : Nat :=
  stream.start + Stream.total (IwEvent.len stream.layout) stream.events

/-- `iwe_stream_add_event` and `iwe_stream_add_point`. -/
def add (iwe : IwEvent) : EventStream :=
  if stream.pos + iwe.len stream.layout < stream.ends then
    { stream with events := stream.events ++ [iwe] }
  else stream

/-- `iwe_stream_add_value`: the values behind a header that is written with the first of them. -/
def addValue (values : List Int) (value : Int) : List Int :=
  if stream.pos + stream.layout.lcpLen + 8 * values.length + 8 < stream.ends then values ++ [value]
  else values

/-- The bit rates; the event is only there if a value was added. -/
def addRates (values : List Int) : EventStream :=
  let added := values.foldl stream.addValue []
  if added ≠ [] then { stream with events := stream.events ++ [.rate added] } else stream

end EventStream

/-- What `lbs_translate_scan` reads besides the entry. -/
structure ReportPriv where
  tables : ChannelTables
  mode : UInt8
  adhoccreate : Bool
  curSsid : List UInt8
  curSsidLen : UInt8
  signal : Signal

/-- `MRVDRV_NF_DEFAULT_SCAN_VALUE`, as a byte. -/
def mrvdrvNfDefaultScanValue : UInt8 := 160

/-- The quality of a level, in percent; `PERFECT_RSSI` and `RSSI_DIFF` are 50. -/
def scanQuality (level : UInt8) : UInt8 :=
  let rssi : Int := (level - mrvdrvNfDefaultScanValue).toNat
  let quality := (100 * 50 * 50 - (50 - rssi) * (15 * 50 + 62 * (50 - rssi))).tdiv (50 * 50)
  min (UInt8.ofNat (quality % 256).toNat) 100

namespace ReportPriv

variable {w : Nat} (priv : ReportPriv) (bss : BssDescriptor w)

/-- The entry is the network that this station has created. -/
def ownNetwork : Bool :=
  priv.adhoccreate && priv.curSsidLen = bss.ssidLen &&
    slice priv.curSsid 0 priv.curSsidLen.toNat = slice bss.ssid 0 priv.curSsidLen.toNat

/-- The quality event. `AVG_SCALE` is 100. -/
def qualEvent : IwEvent :=
  let level := UInt8.ofNat (0x100 - bss.rssi.toUInt8.toNat)
  let noise :=
    if priv.signal.nfBeacon.noavg = 0 then mrvdrvNfDefaultScanValue
    else 0 - priv.signal.nfBeacon.noavg.toUInt8
  let ownLevel := (priv.signal.snrRxpd.avg / 100 - priv.signal.nfRxpd.avg / 100).toUInt8
  .qual (scanQuality level)
    (if priv.mode = iwModeAdhoc ∧ priv.ownNetwork bss then ownLevel else level) noise

/-- `IW_ENCODE_ENABLED | IW_ENCODE_NOKEY` or `IW_ENCODE_DISABLED`. -/
def encodeFlags : UInt16 :=
  if bss.capability &&& 0x0010 ≠ 0 then 0x0800 else 0x8000

/-- The bit rates of an entry. -/
def rateValues : List Int :=
  (bss.rates.takeWhile (· ≠ 0)).map (fun rate => (rate.toNat : Int) * 500000) ++
    (if bss.mode = iwModeAdhoc ∧ priv.ownNetwork bss then [22 * 500000] else [])

/-- The text of the custom event. -/
def meshType : List UInt8 :=
  "mesh-type: olpc".toList.map fun c => UInt8.ofNat c.toNat

/-- The events in front of the bit rates. -/
def headEvents (cfp : ChanFreqPower) : List IwEvent :=
  [.ap bss.bssid, .essid (slice bss.ssid 0 (min bss.ssidLen.toNat iwEssidMaxSize)),
    .mode bss.mode, .freq ((cfp.freq.toNat * 100000 : Int).bmod (2 ^ 32)) 1, priv.qualEvent bss,
    .encode (encodeFlags bss)]

/-- The events behind the bit rates. -/
def tailEvents : List IwEvent :=
  (if bss.wpaIeLen ≠ 0 then [.genie (slice bss.wpaIe 0 bss.wpaIeLen)] else []) ++
    (if bss.rsnIeLen ≠ 0 then [.genie (slice bss.rsnIe 0 bss.rsnIeLen)] else []) ++
    (if bss.mesh then [.custom meshType] else [])

/-- `lbs_translate_scan`: the events that are written between a position and the end of the
buffer; `none` for an invalid channel. -/
def lbsTranslateScan (layout : EventLayout) (start stop : Nat) : Option (List IwEvent) :=
  (priv.tables.lbsFindCfpByBandAndChannel 0 bss.channel.toUInt16).map fun cfp =>
    let stream := (priv.headEvents bss cfp).foldl EventStream.add ⟨layout, start, stop, []⟩
    let stream := stream.addRates (priv.rateValues bss)
    ((tailEvents bss).foldl EventStream.add stream).events

/-- The complete cell of an entry; `none` for an invalid channel. -/
def cell : Option (List IwEvent) :=
  (priv.tables.lbsFindCfpByBandAndChannel 0 bss.channel.toUInt16).map fun cfp =>
    priv.headEvents bss cfp ++
      (if priv.rateValues bss ≠ [] then [.rate (priv.rateValues bss)] else []) ++ tailEvents bss

end ReportPriv

/-- What `lbs_get_scan` depends on besides the table, with the state of the driver. -/
structure ScanIoctl (w : Nat) where
  priv : ReportPriv
  layout : EventLayout
  scanning : Bool
  onMesh : Bool
  length : Nat
  now : NetworkId → Jiffies w

namespace ScanIoctl

variable {w : Nat} (ioctl : ScanIoctl w)

/-- The same for the loop that knows the translation as a function of positions. -/
def getScan : GetScan w :=
  { scanning := ioctl.scanning, onMesh := ioctl.onMesh, length := ioctl.length, now := ioctl.now
    translate := fun bss ev =>
      (ioctl.priv.lbsTranslateScan bss ioctl.layout ev ioctl.length).map fun events =>
        ev + Stream.total (IwEvent.len ioctl.layout) events }

theorem getScan_translate (bss : BssDescriptor w) (ev : Nat) :
    ioctl.getScan.translate bss ev =
      (ioctl.priv.lbsTranslateScan bss ioctl.layout ev ioctl.length).map fun events =>
        ev + Stream.total (IwEvent.len ioctl.layout) events := rfl

end ScanIoctl

/-- The outcome of `lbs_get_scan` and the events in the buffer. -/
structure ScanDump where
  report : ScanReport
  events : List IwEvent
deriving DecidableEq, Repr

namespace ScanTable

variable {w : Nat} (hz : Jiffies w) (ioctl : ScanIoctl w)

/-- The loop of `lbs_get_scan`, with the events. -/
def dumpLoop : List NetworkId → List IwEvent → ScanTable w → ScanDump
  | [], events, _ => ⟨.length (Stream.total (IwEvent.len ioctl.layout) events), events⟩
  | n :: rest, events, table =>
      let ev := Stream.total (IwEvent.len ioctl.layout) events
      if ioctl.length < ev + 128 then ⟨.e2big, events⟩
      else if ioctl.onMesh && !(table.networks n).mesh then dumpLoop rest events table
      else
        let staleTime := (table.networks n).lastScanned + defaultMaxScanAge hz
        if timeAfter (ioctl.now n) staleTime then dumpLoop rest events (table.expire n)
        else
          match ioctl.priv.lbsTranslateScan (table.networks n) ioctl.layout ev ioctl.length with
          | none => dumpLoop rest events table
          | some more => dumpLoop rest (events ++ more) table

/-- `lbs_get_scan`: the outcome and the contents of the buffer. -/
def dump (table : ScanTable w) : ScanDump :=
  if ioctl.scanning then ⟨.eagain, []⟩
  else dumpLoop hz ioctl table.networkList [] table

/-- What the report has to contain of an entry: nothing unless it is to be reported. -/
def wantedCell (table : ScanTable w) (n : NetworkId) : List IwEvent :=
  if ioctl.onMesh && !(table.networks n).mesh then []
  else if timeAfter (ioctl.now n) ((table.networks n).lastScanned + defaultMaxScanAge hz) then []
  else (ioctl.priv.cell (table.networks n)).getD []

/-- The complete cells, in the order of the list. -/
def cells (table : ScanTable w) : List (List IwEvent) :=
  table.networkList.map (table.wantedCell hz ioctl)

/-- The buffer holds the complete cells when 0 is returned, and a buffer that they do not fit into
is reported. -/
structure Reported (table : ScanTable w) : Prop where
  complete : ∀ ev, (table.dump hz ioctl).report = .length ev →
    (table.dump hz ioctl).events = (table.cells hz ioctl).flatten
  tooSmall : ioctl.scanning = false → (table.cells hz ioctl).flatten ≠ [] →
    ioctl.length ≤ Stream.total (IwEvent.len ioctl.layout) (table.cells hz ioctl).flatten →
    (table.dump hz ioctl).report = .e2big

end ScanTable

section Translation

variable {layout : EventLayout} {start ends : Nat} {items : List IwEvent} {stream : EventStream}

/-- A stream after events were added to it, of which each has fewer bytes than one item of the
scan results. -/
structure EventStream.Wrote (layout : EventLayout) (start ends : Nat) (items : List IwEvent)
    (stream : EventStream) : Prop where
  sameLayout : stream.layout = layout
  sameStart : stream.start = start
  sameEnds : stream.ends = ends
  fills : Stream.Fills (IwEvent.len layout) 127 ends start items stream.events

namespace EventStream

theorem Wrote.nil : Wrote layout start ends [] ⟨layout, start, ends, []⟩ :=
  ⟨rfl, rfl, rfl, .nil⟩

/-- One more event, which is left out if it does not fit. -/
theorem Wrote.append (wrote : stream.Wrote layout start ends items) {more out : List IwEvent}
    (fills : Stream.Fills (IwEvent.len layout) 127 ends stream.pos more out) :
    Wrote layout start ends (items ++ more) { stream with events := stream.events ++ out } := by
  obtain ⟨rfl, rfl, rfl, filled⟩ := wrote
  exact ⟨rfl, rfl, rfl, filled.append fills⟩

theorem Wrote.add (wrote : stream.Wrote layout start ends items) {iwe : IwEvent}
    (bound : iwe.len layout ≤ 127) : (stream.add iwe).Wrote layout start ends (items ++ [iwe]) := by
  have positive : 0 < iwe.len layout := by
    have lcp := layout.lcpLen_pos
    have point := layout.lcpLen_le_pointLen
    cases iwe <;> simp only [IwEvent.len] <;> omega
  have single : Stream.Fills (IwEvent.len layout) 127 ends stream.pos [iwe]
      (if stream.pos + iwe.len layout < ends then [iwe] else []) := .single bound positive
  have added := wrote.append single
  obtain ⟨rfl, -, rfl, -⟩ := wrote
  rw [EventStream.add]
  split
  · rename_i fits
    rwa [if_pos fits] at added
  · rename_i long
    rw [if_neg long, List.append_nil] at added
    exact added

theorem Wrote.addAll {more : List IwEvent} (bound : ∀ iwe ∈ more, iwe.len layout ≤ 127) :
    ∀ {items : List IwEvent} {stream : EventStream}, stream.Wrote layout start ends items →
      (more.foldl EventStream.add stream).Wrote layout start ends (items ++ more) := by
  induction more with
  | nil => simp
  | cons iwe more ih =>
      intro items stream wrote
      have rest := ih (fun later member => bound later (List.mem_cons_of_mem _ member))
        (wrote.add (bound iwe List.mem_cons_self))
      rwa [List.append_assoc] at rest

/-- Either every bit rate was written, or fewer and no other one fits. -/
theorem foldl_addValue (stream : EventStream) (values : List Int) :
    (values.foldl stream.addValue [] = values ∧
      (values ≠ [] → stream.pos + (IwEvent.rate values).len stream.layout < stream.ends)) ∨
    ((values.foldl stream.addValue []).length < values.length ∧
      stream.ends ≤
        stream.pos + (IwEvent.rate (values.foldl stream.addValue [])).len stream.layout + 8) := by
  induction values using List.reverseRecOn with
  | nil => exact .inl ⟨rfl, fun some => absurd rfl some⟩
  | append_singleton values value ih =>
      rw [List.foldl_concat]
      simp only [IwEvent.len] at ih ⊢
      rcases ih with ⟨same, -⟩ | ⟨fewer, full⟩
      · rw [same]
        rw [EventStream.addValue]
        split
        · rename_i fits
          refine .inl ⟨rfl, fun _ => ?_⟩
          rw [List.length_append, List.length_singleton]
          omega
        · rename_i long
          refine .inr ⟨by simp, ?_⟩
          omega
      · -- A value was left out before, so this one does not fit either.
        have long : ¬ stream.pos + stream.layout.lcpLen +
            8 * (values.foldl stream.addValue []).length + 8 < stream.ends := by omega
        have left : stream.addValue (values.foldl stream.addValue []) value =
            values.foldl stream.addValue [] := if_neg long
        rw [left, List.length_append]
        exact .inr ⟨Nat.lt_add_right _ fewer, full⟩

theorem Wrote.addRates (wrote : stream.Wrote layout start ends items) (values : List Int) :
    (stream.addRates values).Wrote layout start ends
      (items ++ if values ≠ [] then [.rate values] else []) := by
  have small := layout.lcpLen_le
  have added := foldl_addValue stream values
  rw [wrote.sameLayout, wrote.sameEnds] at added
  rw [EventStream.addRates]
  generalize values.foldl stream.addValue [] = written at added
  rcases added with ⟨rfl, room⟩ | ⟨fewer, full⟩
  · by_cases none : written = []
    · simpa [none] using wrote
    · simp only [if_pos none]
      refine wrote.append (.whole rfl fun _ => ?_)
      rw [Stream.total_singleton]
      exact room none
  · have some : values ≠ [] := by
      rintro rfl
      exact absurd fewer (Nat.not_lt_zero _)
    simp only [if_pos some]
    simp only [IwEvent.len] at full
    by_cases none : written = []
    · subst none
      rw [List.length_nil] at fewer full
      have fills : Stream.Fills (IwEvent.len layout) 127 ends stream.pos [.rate values] [] := by
        refine .short ?_ ?_ ?_ <;>
          simp only [Stream.total_singleton, Stream.total_nil, IwEvent.len] <;> omega
      simpa using wrote.append fills
    · simp only [if_pos none]
      refine wrote.append (.short ?_ ?_ ?_) <;>
        simp only [Stream.total_singleton, IwEvent.len] <;> omega

end EventStream

end Translation

/-- The elements that were kept of a beacon fit into their arrays. -/
structure BssDescriptor.IesFit {w : Nat} (bss : BssDescriptor w) : Prop where
  wpa : bss.wpaIeLen ≤ maxWpaIeLen
  rsn : bss.rsnIeLen ≤ maxWpaIeLen

namespace ReportPriv

variable {w : Nat} {priv : ReportPriv} {bss : BssDescriptor w} {layout : EventLayout}

theorem len_headEvents (priv : ReportPriv) (bss : BssDescriptor w) (cfp : ChanFreqPower) :
    ∀ iwe ∈ priv.headEvents bss cfp, iwe.len layout ≤ 127 := by
  have lcp := layout.lcpLen_le
  have point := layout.pointLen_le
  have ssid : min bss.ssidLen.toNat iwEssidMaxSize ≤ 32 := Nat.min_le_right _ _
  intro iwe member
  simp only [headEvents, qualEvent, List.mem_cons, List.not_mem_nil, or_false] at member
  rcases member with rfl | rfl | rfl | rfl | rfl | rfl <;>
    simp only [IwEvent.len, slice_length] <;> omega

theorem len_tailEvents (fit : bss.IesFit) : ∀ iwe ∈ tailEvents bss, iwe.len layout ≤ 127 := by
  have point := layout.pointLen_le
  have wpa := fit.wpa
  have rsn := fit.rsn
  have custom : meshType.length = 15 := by decide
  intro iwe member
  simp only [tailEvents, List.mem_append] at member
  rcases member with (wpaIe | rsnIe) | mesh
  · split at wpaIe
    · cases List.mem_singleton.mp wpaIe
      simp only [IwEvent.len, slice_length, maxWpaIeLen] at wpa ⊢
      omega
    · cases wpaIe
  · split at rsnIe
    · cases List.mem_singleton.mp rsnIe
      simp only [IwEvent.len, slice_length, maxWpaIeLen] at rsn ⊢
      omega
    · cases rsnIe
  · split at mesh
    · cases List.mem_singleton.mp mesh
      simp only [IwEvent.len, custom]
      omega
    · cases mesh

/-- An entry is translated if it has a cell, and then the cell is written as far as it fits. -/
theorem lbsTranslateScan_fills (priv : ReportPriv) (layout : EventLayout) (fit : bss.IesFit)
    (start stop : Nat) :
    ∃ out, priv.lbsTranslateScan bss layout start stop = (priv.cell bss).map (fun _ => out) ∧
      Stream.Fills (IwEvent.len layout) 127 stop start ((priv.cell bss).getD []) out := by
  rw [lbsTranslateScan, cell]
  cases priv.tables.lbsFindCfpByBandAndChannel 0 bss.channel.toUInt16 with
  | none => exact ⟨[], rfl, .nil⟩
  | some cfp =>
      refine ⟨_, rfl, ?_⟩
      have empty : EventStream.Wrote layout start stop [] ⟨layout, start, stop, []⟩ := .nil
      have head := empty.addAll (len_headEvents priv bss cfp)
      exact ((head.addRates (priv.rateValues bss)).addAll (len_tailEvents fit)).fills

end ReportPriv

namespace ScanIoctl

variable {w : Nat} {ioctl : ScanIoctl w}

/-- Some entry is visited although the complete cells in front of it leave less room than
`SCAN_ITEM_SIZE`. -/
def Crowded (ioctl : ScanIoctl w) (before : Nat) (cells : List (List IwEvent)) : Prop :=
  ∃ k < cells.length, ioctl.length <
    before + Stream.total (IwEvent.len ioctl.layout) (cells.take k).flatten + 128

theorem not_crowded_nil (before : Nat) : ¬ ioctl.Crowded before [] := by
  rintro ⟨k, visited, -⟩
  exact Nat.not_lt_zero k visited

theorem crowded_cons {before : Nat} {cell : List IwEvent} {cells : List (List IwEvent)} :
    ioctl.Crowded before (cell :: cells) ↔ ioctl.length < before + 128 ∨
      ioctl.Crowded (before + Stream.total (IwEvent.len ioctl.layout) cell) cells := by
  constructor
  · rintro ⟨_ | k, visited, full⟩
    · exact .inl full
    · refine .inr ⟨k, Nat.lt_of_succ_lt_succ visited, ?_⟩
      rwa [List.take_succ_cons, List.flatten_cons, Stream.total_append, ← Nat.add_assoc] at full
  · rintro (full | ⟨k, visited, full⟩)
    · exact ⟨0, Nat.succ_pos _, full⟩
    · refine ⟨k + 1, Nat.succ_lt_succ visited, ?_⟩
      rwa [List.take_succ_cons, List.flatten_cons, Stream.total_append, ← Nat.add_assoc]

end ScanIoctl

namespace ScanTable

variable {w : Nat} {hz : Jiffies w} {ioctl : ScanIoctl w} {table : ScanTable w}

/-- An entry that is removed changes nothing for the entries behind it. -/
theorem networks_expire {n m : NetworkId} {rest : List NetworkId} (nodup : (n :: rest).Nodup)
    (member : m ∈ rest) : (table.expire n).networks m = table.networks m := by
  apply write_of_ne
  rintro rfl
  exact (List.nodup_cons.mp nodup).1 member

theorem wantedCell_expire {n : NetworkId} {rest : List NetworkId} (nodup : (n :: rest).Nodup) :
    rest.map ((table.expire n).wantedCell hz ioctl) = rest.map (table.wantedCell hz ioctl) := by
  apply List.map_congr_left
  intro m member
  unfold wantedCell
  rw [networks_expire nodup member]

/-- Where the loop can get to from the entries that are left: too little room in front of one of
them, or their cells are written as far as they fit. -/
def Dumped (ioctl : ScanIoctl w) (items : List IwEvent) (cells : List (List IwEvent))
    (dump : ScanDump) : Prop :=
  dump.report = .e2big ∧ ioctl.Crowded (Stream.total (IwEvent.len ioctl.layout) items) cells ∨
    dump.report = .length (Stream.total (IwEvent.len ioctl.layout) dump.events) ∧
      ¬ ioctl.Crowded (Stream.total (IwEvent.len ioctl.layout) items) cells ∧
      Stream.Fills (IwEvent.len ioctl.layout) 127 ioctl.length 0 (items ++ cells.flatten)
        dump.events

/-- An entry in front of which there was room. -/
theorem Dumped.cons {items cell : List IwEvent} {cells : List (List IwEvent)} {dump : ScanDump}
    (room : ¬ ioctl.length < Stream.total (IwEvent.len ioctl.layout) items + 128)
    (rest : Dumped ioctl (items ++ cell) cells dump) : Dumped ioctl items (cell :: cells) dump := by
  rw [Dumped] at rest ⊢
  rw [Stream.total_append, List.append_assoc] at rest
  rw [ScanIoctl.crowded_cons, or_iff_right room, List.flatten_cons]
  exact rest

theorem dumpLoop_spec (ids : List NetworkId) : ids.Nodup →
    ∀ (events items : List IwEvent) (table : ScanTable w),
      (∀ n ∈ ids, (table.networks n).IesFit) →
      Stream.Fills (IwEvent.len ioctl.layout) 127 ioctl.length 0 items events →
      Dumped ioctl items (ids.map (table.wantedCell hz ioctl))
        (dumpLoop hz ioctl ids events table) := by
  induction ids with
  | nil =>
      intro _ events items table _ fills
      refine .inr ⟨rfl, ScanIoctl.not_crowded_nil _, ?_⟩
      rw [List.map_nil, List.flatten_nil, List.append_nil]
      exact fills
  | cons n rest ih =>
      intro nodup events items table fit fills
      have later : ∀ m ∈ rest, (table.networks m).IesFit := fun m member =>
        fit m (List.mem_cons_of_mem _ member)
      have restNodup := (List.nodup_cons.mp nodup).2
      rw [List.map_cons]
      rw [dumpLoop]
      by_cases full : ioctl.length < Stream.total (IwEvent.len ioctl.layout) events + 128
      · dsimp only
        rw [if_pos full]
        have less := fills.total_le
        exact .inl ⟨rfl, ScanIoctl.crowded_cons.mpr (.inl (by omega))⟩
      have same := fills.eq_of_room (by omega)
      subst same
      dsimp only
      rw [if_neg full]
      apply Dumped.cons full
      have wanted : table.wantedCell hz ioctl n =
          if ioctl.onMesh && !(table.networks n).mesh then []
          else if timeAfter (ioctl.now n)
            ((table.networks n).lastScanned + defaultMaxScanAge hz) then []
          else (ioctl.priv.cell (table.networks n)).getD [] := rfl
      rw [wanted]
      split
      · rw [List.append_nil]
        exact ih restNodup events events table later fills
      split
      · rw [List.append_nil, ← wantedCell_expire nodup]
        refine ih restNodup events events (table.expire n) ?_ fills
        intro m member
        rw [networks_expire nodup member]
        exact later m member
      obtain ⟨out, translated, written⟩ := ioctl.priv.lbsTranslateScan_fills ioctl.layout
        (fit n List.mem_cons_self) (Stream.total (IwEvent.len ioctl.layout) events) ioctl.length
      rw [translated]
      cases cell : ioctl.priv.cell (table.networks n) with
      | none =>
          rw [Option.getD_none, List.append_nil]
          exact ih restNodup events events table later fills
      | some items =>
          rw [cell, Option.getD_some] at written
          refine ih restNodup _ _ table later (fills.append ?_)
          rwa [Nat.zero_add]

/-- The loop with the events reports what the loop with the positions reports. -/
theorem reportLoop_dumpLoop (ids : List NetworkId) (events : List IwEvent)
    (table : ScanTable w) :
    (reportLoop hz ioctl.getScan ids (Stream.total (IwEvent.len ioctl.layout) events) table).2 =
      (dumpLoop hz ioctl ids events table).report := by
  induction ids generalizing events table with
  | nil => rfl
  | cons n rest ih =>
      rw [reportLoop, dumpLoop]
      dsimp only
      by_cases full : ioctl.getScan.length < Stream.total (IwEvent.len ioctl.layout) events + 128
      · rw [if_pos full, if_pos (show ioctl.length < _ from full)]
      rw [if_neg full, if_neg (show ¬ ioctl.length < _ from full)]
      by_cases other : (ioctl.getScan.onMesh && !(table.networks n).mesh) = true
      · rw [if_pos other, if_pos (show (ioctl.onMesh && _) = true from other)]
        exact ih events table
      rw [if_neg other, if_neg (show ¬ (ioctl.onMesh && _) = true from other)]
      by_cases stale : timeAfter (ioctl.getScan.now n)
          ((table.networks n).lastScanned + defaultMaxScanAge hz) = true
      · rw [if_pos stale, if_pos (show timeAfter (ioctl.now n) _ = true from stale)]
        exact ih events (table.expire n)
      rw [if_neg stale, if_neg (show ¬ timeAfter (ioctl.now n) _ = true from stale),
        ScanIoctl.getScan_translate]
      cases ioctl.priv.lbsTranslateScan (table.networks n) ioctl.layout
          (Stream.total (IwEvent.len ioctl.layout) events) ioctl.length with
      | none => exact ih events table
      | some more =>
          have next := ih (events ++ more) table
          rw [Stream.total_append] at next
          exact next

theorem lbsGetScan_report (table : ScanTable w) :
    (table.lbsGetScan hz ioctl.getScan).2 = (table.dump hz ioctl).report := by
  rw [lbsGetScan, dump]
  by_cases busy : ioctl.getScan.scanning = true
  · rw [if_pos busy, if_pos (show ioctl.scanning = true from busy)]
  · rw [if_neg busy, if_neg (show ¬ ioctl.scanning = true from busy)]
    exact reportLoop_dumpLoop table.networkList [] table

/-- The elements that were kept for the listed networks fit. -/
def ListedFit (table : ScanTable w) : Prop :=
  ∀ n ∈ table.networkList, (table.networks n).IesFit

theorem ListedFit.pruned {table' : ScanTable w} (fit : table.ListedFit)
    (pruned : Pruned table table') : table'.ListedFit := by
  intro n member
  obtain ⟨before, same⟩ := pruned.kept n member
  rw [same]
  exact fit n before

theorem ListedFit.stored {table' : ScanTable w} {n : NetworkId} {new : BssDescriptor w}
    (fit : table.ListedFit) (fits : new.IesFit) (stored : StoredAt n new table table') :
    table'.ListedFit := by
  intro m member
  by_cases here : m = n
  · rw [here, stored.here]
    exact fits
  · obtain ⟨listed, same⟩ := stored.others m here
    rw [same]
    exact fit m (listed.mp member)

theorem ListedFit.fold {records : List (BssDescriptor w)} (fits : ∀ r ∈ records, r.IesFit) :
    ∀ {table : ScanTable w}, table.Partitioned → table.Distinct → table.ListedFit →
      (records.foldl store table).ListedFit := by
  induction records with
  | nil => exact fun _ _ fit => fit
  | cons new rest ih =>
      intro table partition distinct fit
      obtain ⟨n, stored⟩ := store_spec new partition distinct
      exact ih (fun r member => fits r (List.mem_cons_of_mem _ member)) stored.partition
        (stored.distinct distinct) (fit.stored (fits new List.mem_cons_self) stored)

end ScanTable

section Parsed

variable {w : Nat} {bss : BssDescriptor w}

theorem iesFit_of_interpret {mem : List UInt8} {size : Nat}
    (parsed : interpretRecord mem size = some bss) : bss.IesFit := by
  rw [interpretRecord] at parsed
  have tracks := BeaconParse.tracks_processRecord (w := w) mem size
  split at parsed
  · rename_i s found
    cases parsed
    rw [found] at tracks
    refine ⟨?_, ?_⟩
    · rw [tracks.wpa]
      exact keptLen_le _
    · rw [tracks.rsn]
      exact keptLen_le _
  · cases parsed

theorem iesFit_of_process {now : Jiffies w} {beaconinfo : List UInt8} {bytesleft : Nat}
    (parsed : (lbsProcessBss interpretRecord now beaconinfo bytesleft).1 = some bss) :
    bss.IesFit := by
  unfold lbsProcessBss at parsed
  dsimp only at parsed
  split at parsed
  · cases parsed
  · obtain ⟨found, interpreted, rfl⟩ := Option.map_eq_some_iff.mp parsed
    have fit := iesFit_of_interpret interpreted
    exact ⟨fit.wpa, fit.rsn⟩

theorem iesFit_of_parsed {parsing : Nat → Jiffies w} {sets idx bytesleft : Nat}
    {bssinfo : List UInt8}
    (member : bss ∈ parsedRecords interpretRecord parsing sets idx bssinfo bytesleft) :
    bss.IesFit := by
  induction sets generalizing idx bssinfo bytesleft with
  | zero => cases member
  | succ sets ih =>
      rw [parsedRecords] at member
      split at member
      · cases member
      · dsimp only at member
        rcases List.mem_append.mp member with first | rest
        · exact iesFit_of_process (Option.mem_toList.mp first)
        · exact ih rest

end Parsed

/-- The records of the responses are read by `lbs_process_bss`. -/
def ReadsBeacons {w : Nat} (_ : ScanTable w) : ScanAction w → Prop
  | .response interpret _ _ => interpret = interpretRecord
  | .get _ => True

namespace ScanTable

variable {w : Nat} {hz : Jiffies w} {ioctl : ScanIoctl w} {table : ScanTable w}

theorem listedFit_of_reachable (reached : (scanTable hz).ReachableUnder ReadsBeacons table) :
    table.ListedFit := by
  refine reached.invariant ListedFit ?_ ?_
  · rintro _ rfl n member
    cases member
  · intro table action table' before fit reads stepped
    have ordered := ordered_of_reachable before.reachable
    cases action with
    | get ioctl =>
        cases stepped
        exact fit.pruned (pruned_lbsGetScan hz ioctl ordered.1)
    | response interpret clock scanresp =>
        cases stepped
        cases reads
        have pruned := pruned_prune hz clock.pruning ordered.1
        unfold lbsRet80211Scan
        dsimp only
        split
        · exact fit.pruned pruned
        · rw [storeLoop_eq_foldl]
          exact ListedFit.fold (fun _ => iesFit_of_parsed) pruned.partition
            (pruned.distinct ordered.2) (fit.pruned pruned)

/-- What is in the buffer, and what is returned. -/
theorem dump_spec (reached : (scanTable hz).ReachableUnder ReadsBeacons table)
    (idle : ioctl.scanning = false) :
    Dumped ioctl [] (table.cells hz ioctl) (table.dump hz ioctl) := by
  rw [dump]
  rw [idle, if_neg (by decide)]
  exact dumpLoop_spec table.networkList
    (ordered_of_reachable reached.reachable).1.used_nodup [] [] table
    (listedFit_of_reachable reached) .nil

/-- A report without an error is complete, and a buffer that is too small is reported, if and only
if a scan is taking place, or some entry is visited although the complete cells in front of it
leave less than 128 bytes, or there is nothing to report, or the end of the complete cells is
below the end of the buffer. -/
theorem scan_report_iff (reached : (scanTable hz).ReachableUnder ReadsBeacons table)
    (ioctl : ScanIoctl w) :
    table.Reported hz ioctl ↔ ioctl.scanning = true ∨
      ioctl.Crowded 0 (table.cells hz ioctl) ∨ (table.cells hz ioctl).flatten = [] ∨
      Stream.total (IwEvent.len ioctl.layout) (table.cells hz ioctl).flatten < ioctl.length := by
  cases idle : ioctl.scanning with
  | true =>
      refine iff_of_true ⟨fun ev done => ?_, fun not => ?_⟩ (.inl rfl)
      · rw [dump] at done
        rw [idle, if_pos rfl] at done
        cases done
      · rw [idle] at not
        cases not
  | false =>
      rw [or_iff_right (by decide)]
      rcases dump_spec reached idle with ⟨report, crowded⟩ | ⟨report, roomy, fills⟩
      · refine iff_of_true ⟨fun ev done => ?_, fun _ _ _ => report⟩ (.inl crowded)
        rw [report] at done
        cases done
      · rw [List.nil_append] at fills
        have whole := fills.eq_iff
        rw [Nat.zero_add] at whole
        rw [Stream.total_nil] at roomy
        rw [or_iff_right roomy, ← whole]
        constructor
        · intro reported
          exact reported.complete _ report
        · intro same
          refine ⟨fun _ _ => same, fun _ some long => ?_⟩
          rcases whole.mp same with none | fits
          · exact absurd none some
          · omega

end ScanTable

/-- A record of 66 bytes: an SSID of 32 bytes on channel 6, with eight bit rates. -/
def longSsidRecord : List UInt8 :=
  [66, 0] ++ List.replicate 19 0 ++ [0, 32] ++ List.replicate 32 97 ++
    [1, 8, 0x82, 0x84, 0x8b, 0x96, 12, 18, 24, 36] ++ [3, 1, 6]

def longSsidRsp : ScanRsp :=
  { bssdescriptsize := 68, nrSets := 1, bssdescAndTlvbuffer := longSsidRecord }

/-- The table after one response with this record. -/
def longSsidTable : ScanTable 32 :=
  (ScanTable.init.lbsRet80211Scan 100 interpretRecord atOnce longSsidRsp).1

theorem longSsidTable_reached :
    (scanTable (100 : Jiffies 32)).ReachableUnder ReadsBeacons longSsidTable := by
  have reads : ReadsBeacons .init (.response interpretRecord atOnce longSsidRsp) := rfl
  exact .step (.initial rfl) reads rfl

/-- A reading of the scan results into a buffer of a length. -/
def readInto (length : Nat) : ScanIoctl 32 :=
  { priv :=
      { tables := { enable11d := false, universalChannel := []
                    regionChannel := [⟨true, 0, [⟨6, 2437⟩]⟩] }
        mode := 2, adhoccreate := false, curSsid := [], curSsidLen := 0, signal := .zero }
    layout := layout32, scanning := false, onMesh := false, length := length
    now := fun _ => 1000 }

/-- The cell has 164 bytes, and 165 are enough for it. -/
theorem scan_report_iff_roomy : longSsidTable.Reported 100 (readInto 165) :=
  (ScanTable.scan_report_iff longSsidTable_reached (readInto 165)).mpr
    (.inr (.inr (.inr (by decide +kernel))))

/-- 128 bytes are left in front of the cell, and then not all bit rates fit. -/
theorem scan_report_truncated : ¬ longSsidTable.Reported 100 (readInto 128) :=
  fun reported => absurd (reported.complete _ rfl) (by decide +kernel)

end Libertas

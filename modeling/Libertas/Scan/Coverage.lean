import Libertas.Scan.Worker
import Libertas.Transition.History

/-!
# Which channels a scan covers

`scan_channel` counts the channels that a periodic scan has behind it. The
invariant is that these channels, and those a running `lbs_scan_networks` has
passed, were scanned with the SSID asked for last. It holds as long as nobody
writes `scan_channel` between the reading and the writing of it by a scan, and a
full scan does not start from the middle of the list.
-/

namespace Libertas

open History

namespace ScanEvent

/-- The SSID of an entry that asks for a scan. -/
def asks : ScanEvent → Option (List UInt8)
  | .asked ssid => some ssid
  | .fullStart ssid => some ssid
  | _ => none

/-- The entry asks for a scan. -/
def opens (entry : ScanEvent) : Bool :=
  entry.asks.isSome

end ScanEvent

/-- Between a request and the completion after it, with no other request and no start of a full
scan in between, every channel of the list is scanned with the SSID of the request. -/
def RequestsCovered (log : List ScanEvent) : Prop :=
  Throughout (fun entry earlier => ∀ channels ssid between before,
    entry = .completed channels → earlier = between ++ .asked ssid :: before →
    (∀ other ∈ between, other.opens = false ∧ ∀ channels, other ≠ .completed channels) →
    ∀ ch ∈ channels, ∃ chans, ScanEvent.scanned ssid chans ∈ between ∧ ch ∈ chans) log

/-- Between the start and the return of a full scan, with no request in between, every channel
of the list is scanned with the SSID of the full scan. -/
def FullScansCovered (log : List ScanEvent) : Prop :=
  Throughout (fun entry earlier => ∀ channels ssid between before,
    entry = .fullReturn channels → earlier = between ++ .fullStart ssid :: before →
    (∀ other ∈ between, other.opens = false) →
    ∀ ch ∈ channels, ∃ chans, ScanEvent.scanned ssid chans ∈ between ∧ ch ∈ chans) log

namespace ScanPc

/-- A scan has read `scan_channel` and not yet written it, or not yet reported its end. -/
def reading : ScanPc → Bool
  | .looping _ => true
  | .commanded _ _ => true
  | .scanned _ _ => true
  | _ => false

/-- A periodic scan has a channel list. -/
def listing : ScanPc → Bool
  | .listed fullScan _ => !fullScan
  | .looping run => !run.fullScan
  | .commanded run _ => !run.fullScan
  | .scanned run _ => !run.fullScan
  | _ => false

end ScanPc

/-- The worker may take its next step: `scan_channel` is read when no request is under way, and
by a full scan when it is not positive, and nothing fails that a scan needs. -/
def MayProceed (s : ScanSys) (ok : Bool) : ScanPc → Prop
  | .entered fullScan => fullScan = true → ok = true
  | .listed fullScan _ => s.setScan = .idle ∧ (fullScan = true → s.scanChannel ≤ 0)
  | .commanded _ _ => ok = true
  | _ => True

/-- The step disturbs no scan. A request comes when no scan is between its reading and writing
of `scan_channel`, and the channel list stays while a periodic scan is in the middle of it. -/
def Undisturbed (s : ScanSys) : ScannerAction → Prop
  | .regulate regions =>
      regions.channels = s.regions.channels ∨ s.scanChannel ≤ 0 ∧ s.worker.listing = false
  | .set running _ => running = true → s.worker.reading = false
  | .setScan => s.worker.reading = false
  | .worker ok => MayProceed s ok s.worker
  | _ => True

instance (s : ScanSys) (ok : Bool) (pc : ScanPc) : Decidable (MayProceed s ok pc) := by
  unfold MayProceed
  split <;> infer_instance

instance (s : ScanSys) (action : ScannerAction) : Decidable (Undisturbed s action) := by
  unfold Undisturbed
  split <;> infer_instance

section ChannelList

variable {enable11d firstScan : Bool} {tables : List RegionChannel}

/-- `parsed_region_chan` decides how a channel is scanned, not whether. -/
theorem scanRegionLoop_channels (parsed parsed' : List UInt8) :
    (scanRegionLoop enable11d firstScan tables parsed).1.map (·.channumber) =
      (scanRegionLoop enable11d firstScan tables parsed').1.map (·.channumber) := by
  induction tables generalizing parsed parsed' with
  | nil => rfl
  | cons scanregion rest ih =>
      unfold scanRegionLoop
      split
      · simp only [List.map_append, List.map_map]
        exact congrArg (scanregion.cfp.map _ ++ ·) (ih _ _)
      · exact ih parsed parsed'

/-- Making the channel list again gives the same channels. -/
theorem ScanRegions.channels_create (regions : ScanRegions) :
    regions.lbsScanCreateChannelList.2.channels = regions.channels :=
  scanRegionLoop_channels _ _

end ChannelList

section Log

variable {earlier : List ScanEvent} {entry : ScanEvent}

/-- Only the end of a scan has to cover a request. -/
theorem RequestsCovered.cons_of_ne (covered : RequestsCovered earlier)
    (other : ∀ channels, entry ≠ .completed channels) : RequestsCovered (entry :: earlier) :=
  covered.cons fun channels _ _ _ same => absurd same (other channels)

/-- Only its return has to cover a full scan. -/
theorem FullScansCovered.cons_of_ne (covered : FullScansCovered earlier)
    (other : ∀ channels, entry ≠ .fullReturn channels) : FullScansCovered (entry :: earlier) :=
  covered.cons fun channels _ _ _ same => absurd same (other channels)

end Log

namespace ScanSys

variable {s t : ScanSys} {run : ScanRun} {list : List UInt8} {k : Nat}

/-- A command has scanned the channel with the SSID that was asked for last. -/
def Sought (s : ScanSys) (ch : UInt8) : Prop :=
  ∃ chans, ScanEvent.scanned s.scanSsid chans ∈ since ScanEvent.opens s.log ∧ ch ∈ chans

/-- The first `k` channels of a list were scanned. -/
def Done (s : ScanSys) (list : List UInt8) (k : Nat) : Prop :=
  ∀ ch ∈ list.take k, s.Sought ch

/-- Unless a request is under way, the channels before `scan_channel` were scanned. -/
def CursorDone (s : ScanSys) : Prop :=
  s.setScan = .idle → s.Done s.regions.channels s.scanChannel.toNat

/-- The channels that a running scan has passed were scanned. -/
structure RunDone (s : ScanSys) (run : ScanRun) : Prop where
  still : s.setScan = .idle
  done : s.Done (run.chanList.map (·.channumber)) run.currChans
  counted : (run.currChans : Int) + run.chanCount = run.chanList.length
  listed : run.fullScan = false → run.chanList.map (·.channumber) = s.regions.channels

/-- A periodic scan that will write `scan_channel` stands `ahead` channels behind it. -/
def Aligned (s : ScanSys) (run : ScanRun) (ahead : Nat) : Prop :=
  run.fullScan = false → s.surpriseremoved = false → run.currChans = s.scanChannel.toNat + ahead

/-- What was scanned, by the place of the worker. -/
def CoveredAt (s : ScanSys) : ScanPc → Prop
  | .idle => s.CursorDone
  | .asked => True
  | .entered fullScan => fullScan = false → s.CursorDone
  | .listed fullScan chanList => fullScan = false →
      s.CursorDone ∧ chanList.map (·.channumber) = s.regions.channels
  | .looping run => s.RunDone run ∧ (run.chanCount ≠ 0 → s.Aligned run 0)
  | .commanded run ssid =>
      s.RunDone run ∧ 0 < run.chanCount ∧ ssid = s.scanSsid ∧ s.Aligned run 0
  | .scanned run toScan => s.RunDone run ∧ 0 ≤ toScan ∧ s.Aligned run toScan.toNat
  | .marked => s.CursorDone
  | .ending fullScan channels => fullScan = true →
      ∀ ssid, opener ScanEvent.opens s.log = some (.fullStart ssid) → ∀ ch ∈ channels, s.Sought ch

/-- The SSID asked for last is in use, what was passed was scanned, and all that is over was
covered. -/
structure Covering (s : ScanSys) : Prop where
  ssid : ∀ entry ssid, opener ScanEvent.opens s.log = some entry → entry.asks = some ssid →
    s.scanSsid = ssid
  place : s.CoveredAt s.worker
  requests : RequestsCovered s.log
  fullScans : FullScansCovered s.log

section Frame

theorem Sought.of_eq {ch : UInt8} (sought : s.Sought ch) (ssid : t.scanSsid = s.scanSsid)
    (log : t.log = s.log) : t.Sought ch := by
  rw [Sought]
  rw [ssid, log]
  exact sought

theorem Done.of_eq (done : s.Done list k) (ssid : t.scanSsid = s.scanSsid)
    (log : t.log = s.log) : t.Done list k :=
  fun ch member => (done ch member).of_eq ssid log

/-- Nothing is to be shown of no channels. -/
theorem done_zero (s : ScanSys) (list : List UInt8) : s.Done list 0 := by
  intro ch member
  rw [List.take_zero] at member
  cases member

theorem cursorDone_of_nonpos (bound : s.scanChannel ≤ 0) : s.CursorDone := by
  intro _
  rw [Int.toNat_of_nonpos bound]
  exact done_zero s _

/-- A step that touches `scan_work` or `surpriseremoved` alone leaves the place covered. -/
theorem CoveredAt.of_eq {pc : ScanPc} (covered : s.CoveredAt pc) (ssid : t.scanSsid = s.scanSsid)
    (log : t.log = s.log) (setScan : t.setScan = .idle → s.setScan = .idle)
    (still : s.setScan = .idle → pc.reading = true → t.setScan = .idle)
    (cursor : t.scanChannel = s.scanChannel)
    (channels : t.regions.channels = s.regions.channels)
    (removed : t.surpriseremoved = false → s.surpriseremoved = false) : t.CoveredAt pc := by
  have cursorDone : s.CursorDone → t.CursorDone := by
    intro done idle
    rw [cursor, channels]
    exact (done (setScan idle)).of_eq ssid log
  have runDone : ∀ run, pc.reading = true → s.RunDone run → t.RunDone run := by
    intro run reading done
    refine ⟨still done.still reading, done.done.of_eq ssid log, done.counted, ?_⟩
    intro periodic
    rw [channels]
    exact done.listed periodic
  have aligned : ∀ run ahead, s.Aligned run ahead → t.Aligned run ahead := by
    intro run ahead aligned periodic present
    rw [cursor]
    exact aligned periodic (removed present)
  cases pc with
  | idle => exact cursorDone covered
  | asked => trivial
  | entered fullScan => exact fun periodic => cursorDone (covered periodic)
  | listed fullScan chanList =>
      intro periodic
      obtain ⟨done, same⟩ := covered periodic
      exact ⟨cursorDone done, same.trans channels.symm⟩
  | looping run =>
      obtain ⟨done, ahead⟩ := covered
      exact ⟨runDone run rfl done, fun more => aligned run 0 (ahead more)⟩
  | commanded run ssid' =>
      obtain ⟨done, more, same, ahead⟩ := covered
      exact ⟨runDone run rfl done, more, same.trans ssid.symm, aligned run 0 ahead⟩
  | scanned run toScan =>
      obtain ⟨done, more, ahead⟩ := covered
      exact ⟨runDone run rfl done, more, aligned run _ ahead⟩
  | marked => exact cursorDone covered
  | ending fullScan channels' =>
      intro full ssid' opened ch member
      rw [log] at opened
      exact (covered full ssid' opened ch member).of_eq ssid log

end Frame

section Log

variable {entry : ScanEvent}

/-- What a step that writes no entry has to show. -/
theorem Covering.still (covering : s.Covering) (ssid : t.scanSsid = s.scanSsid)
    (log : t.log = s.log) (place : t.CoveredAt t.worker) : t.Covering where
  ssid := by
    rw [ssid, log]
    exact covering.ssid
  place := place
  requests := log ▸ covering.requests
  fullScans := log ▸ covering.fullScans

/-- What a step that asks for a scan has to show. -/
theorem Covering.ask (covering : s.Covering) (asks : entry.asks = some t.scanSsid)
    (log : t.log = entry :: s.log) (place : t.CoveredAt t.worker) : t.Covering where
  ssid := by
    intro opening ssid opened same
    rw [log, opener_cons_of_opens (by simp [ScanEvent.opens, asks])] at opened
    obtain rfl := Option.some.inj opened
    exact Option.some.inj (asks.symm.trans same)
  place := place
  requests := by
    rw [log]
    exact covering.requests.cons_of_ne (by rintro channels rfl; cases asks)
  fullScans := by
    rw [log]
    exact covering.fullScans.cons_of_ne (by rintro channels rfl; cases asks)

/-- An entry that asks for nothing leaves the SSID asked for last. -/
theorem Covering.ssid_cons (covering : s.Covering) (closed : entry.opens = false) :
    ∀ opening ssid, opener ScanEvent.opens (entry :: s.log) = some opening →
      opening.asks = some ssid → s.scanSsid = ssid := by
  intro opening ssid opened same
  rw [opener_cons_of_not closed] at opened
  exact covering.ssid opening ssid opened same

end Log

section Requests

variable {pc : ScanPc}

/-- A request may come, unless a scan is between reading and writing `scan_channel`. -/
theorem CoveredAt.asked (covered : s.CoveredAt pc) (req : ScanRequest)
    (between : pc.reading = false) : (s.lbsSetScan req).CoveredAt pc := by
  cases pc with
  | idle => exact nofun
  | asked => trivial
  | entered fullScan => exact fun _ => nofun
  | listed fullScan chanList => exact fun periodic => ⟨nofun, (covered periodic).2⟩
  | looping run => cases between
  | commanded run ssid => cases between
  | scanned run toScan => cases between
  | marked => exact nofun
  | ending fullScan channels => exact fun _ _ => nofun

/-- A scan that has not read `scan_channel` yet will start at the first channel. -/
theorem CoveredAt.restarted (covered : s.CoveredAt pc) (between : pc.reading = false) :
    ScanSys.CoveredAt { s with scanChannel := -1, setScan := .idle } pc := by
  have first : ScanSys.CursorDone { s with scanChannel := -1, setScan := .idle } :=
    cursorDone_of_nonpos (show (-1 : Int) ≤ 0 by decide)
  cases pc with
  | idle => exact first
  | asked => trivial
  | entered fullScan => exact fun _ => first
  | listed fullScan chanList => exact fun periodic => ⟨first, (covered periodic).2⟩
  | looping run => cases between
  | commanded run ssid => cases between
  | scanned run toScan => cases between
  | marked => exact first
  | ending fullScan channels => exact covered

/-- Another channel list comes while no periodic scan is in the middle of the old one. -/
theorem CoveredAt.regulated (covered : s.CoveredAt pc) (regions : ScanRegions)
    (start : s.scanChannel ≤ 0) (apart : pc.listing = false) :
    ScanSys.CoveredAt { s with regions := regions } pc := by
  have first : ScanSys.CursorDone { s with regions := regions } := cursorDone_of_nonpos start
  have full : ∀ run : ScanRun, (!run.fullScan) = false → s.RunDone run →
      ScanSys.RunDone { s with regions := regions } run := by
    intro run full done
    refine ⟨done.still, done.done, done.counted, fun periodic => ?_⟩
    rw [periodic] at full
    cases full
  cases pc with
  | idle => exact first
  | asked => trivial
  | entered fullScan => exact fun _ => first
  | listed fullScan chanList =>
      intro periodic
      subst periodic
      cases apart
  | looping run => exact ⟨full run apart covered.1, covered.2⟩
  | commanded run ssid => exact ⟨full run apart covered.1, covered.2⟩
  | scanned run toScan => exact ⟨full run apart covered.1, covered.2⟩
  | marked => exact first
  | ending fullScan channels => exact covered

theorem Covering.lbsSetScan (covering : s.Covering) (req : ScanRequest)
    (between : s.worker.reading = false) : (s.lbsSetScan req).Covering :=
  covering.ask rfl rfl (covering.place.asked req between)

theorem Covering.setScanStep (covering : s.Covering) (between : s.worker.reading = false)
    (stepped : s.setScanStep = some t) : t.Covering := by
  rw [ScanSys.setScanStep] at stepped
  split at stepped
  · cases stepped
  · cases stepped
    rename_i asked
    refine covering.still rfl rfl (covering.place.of_eq rfl rfl nofun ?_ rfl rfl id)
    intro idle
    rw [asked] at idle
    cases idle
  · cases stepped
    exact covering.still rfl rfl (covering.place.restarted between)

theorem Covering.regulate (covering : s.Covering) (regions : ScanRegions)
    (apart : regions.channels = s.regions.channels ∨
      s.scanChannel ≤ 0 ∧ s.worker.listing = false) :
    ScanSys.Covering { s with regions := regions } := by
  refine covering.still rfl rfl ?_
  rcases apart with same | ⟨start, apart⟩
  · exact covering.place.of_eq rfl rfl id (fun idle _ => idle) rfl same id
  · exact covering.place.regulated regions start apart

end Requests

section Worker

variable {fullScan : Bool} {chanList : List ChanScanParamSet} {ssid : List UInt8} {ok : Bool}

theorem Covering.create (covering : s.Covering) (pc : s.worker = .entered fullScan) :
    ScanSys.Covering { s with
      regions := s.regions.lbsScanCreateChannelList.2
      worker := .listed fullScan s.regions.lbsScanCreateChannelList.1 } := by
  have place := covering.place
  rw [pc] at place
  refine covering.still rfl rfl fun periodic => ⟨fun idle => ?_, ?_⟩
  · show ScanSys.Done _ s.regions.lbsScanCreateChannelList.2.channels s.scanChannel.toNat
    rw [s.regions.channels_create]
    exact (place periodic idle).of_eq rfl rfl
  · exact s.regions.channels_create.symm

/-- A periodic scan goes on behind the channels that were scanned, a full one starts afresh. -/
theorem Covering.start (covering : s.Covering) (pc : s.worker = .listed fullScan chanList)
    (still : s.setScan = .idle) (fresh : fullScan = true → s.scanChannel ≤ 0)
    {run : ScanRun} (run_eq : run =
      { fullScan := fullScan, chanList := chanList, currChans := s.scanChannel.toNat
        chanCount := chanList.length - s.scanChannel.toNat }) :
    ScanSys.Covering { s with worker := .looping run } := by
  have place := covering.place
  rw [pc] at place
  subst run_eq
  refine covering.still rfl rfl ⟨⟨still, ?_, ?_, fun periodic => (place periodic).2⟩, ?_⟩
  · show s.Done (chanList.map (·.channumber)) s.scanChannel.toNat
    cases kind : fullScan with
    | true =>
        rw [Int.toNat_of_nonpos (fresh kind)]
        exact done_zero s _
    | false =>
        obtain ⟨done, same⟩ := place kind
        rw [same]
        exact done still
  · show ((s.scanChannel.toNat : Int) + (chanList.length - s.scanChannel.toNat)) = chanList.length
    omega
  · exact fun _ _ _ => rfl

/-- A scan that has passed all channels has scanned them all. -/
theorem RunDone.all (done : s.RunDone run) (none_left : run.chanCount = 0) :
    ∀ ch ∈ run.chanList.map (·.channumber), s.Sought ch := by
  have counted := done.counted
  have whole : run.currChans = (run.chanList.map (·.channumber)).length := by
    rw [List.length_map]
    omega
  intro ch member
  apply done.done ch
  rw [whole, List.take_length]
  exact member

theorem Covering.complete (covering : s.Covering) (pc : s.worker = .looping run)
    (none_left : run.chanCount = 0) :
    ScanSys.Covering { s with
      worker := .ending run.fullScan (run.chanList.map (·.channumber))
      log := .completed (run.chanList.map (·.channumber)) :: s.log } := by
  have place := covering.place
  rw [pc] at place
  have all := place.1.all none_left
  refine ⟨covering.ssid_cons rfl, ?_, ?_, ?_⟩
  · intro _ ssid _ ch member
    obtain ⟨chans, written, among⟩ := all ch member
    exact ⟨chans, List.mem_cons_of_mem _ written, among⟩
  · apply covering.requests.cons
    rintro channels ssid between before ⟨⟩ split quiet ch member
    obtain ⟨same, opened⟩ := since_of_split split rfl fun other among => (quiet other among).1
    obtain ⟨chans, written, among⟩ := all ch member
    rw [same, covering.ssid _ ssid opened rfl] at written
    exact ⟨chans, written, among⟩
  · exact covering.fullScans.cons_of_ne nofun

theorem Covering.command (covering : s.Covering) (pc : s.worker = .looping run)
    (more : 0 < run.chanCount) :
    ScanSys.Covering { s with worker := .commanded run s.scanSsid } := by
  have place := covering.place
  rw [pc] at place
  obtain ⟨⟨still, done, counted, listed⟩, aligned⟩ := place
  exact covering.still rfl rfl
    ⟨⟨still, done, counted, listed⟩, more, rfl, aligned (Int.ne_of_gt more)⟩

/-- A command scans the next channels of the list. -/
theorem take_advance (run : ScanRun) (ch : UInt8) :
    ch ∈ (run.chanList.map (·.channumber)).take run.advance.currChans ↔
      ch ∈ (run.chanList.map (·.channumber)).take run.currChans ∨ ch ∈ run.chunk := by
  show ch ∈ List.take (run.currChans + run.toScan.toNat) _ ↔ _
  rw [List.take_add, List.mem_append]
  rfl

theorem Covering.scan (covering : s.Covering) (pc : s.worker = .commanded run ssid) :
    ScanSys.Covering { s with
      worker := .scanned run.advance run.toScan
      log := .scanned ssid run.chunk :: s.log } := by
  have place := covering.place
  rw [pc] at place
  obtain ⟨done, more, rfl, aligned⟩ := place
  have some_scanned : 0 < run.toScan := by
    rw [ScanRun.toScan, mrvdrvChannelsPerScanCmd]
    omega
  refine ⟨covering.ssid_cons rfl,
    ⟨⟨done.still, ?_, ?_, done.listed⟩, Int.le_of_lt some_scanned, ?_⟩,
    covering.requests.cons_of_ne nofun, covering.fullScans.cons_of_ne nofun⟩
  · intro ch member
    rcases (take_advance run ch).mp member with passed | now
    · obtain ⟨chans, written, among⟩ := done.done ch passed
      exact ⟨chans, List.mem_cons_of_mem _ written, among⟩
    · exact ⟨run.chunk, List.mem_cons_self, now⟩
  · have counted := done.counted
    show ((run.currChans + run.toScan.toNat : Nat) : Int) + (run.chanCount - run.toScan) =
      run.chanList.length
    omega
  · intro periodic present
    show run.currChans + run.toScan.toNat = s.scanChannel.toNat + run.toScan.toNat
    rw [aligned periodic present, Nat.add_zero]

/-- The next chunk of a periodic scan starts where this one ended. -/
theorem Covering.mark {toScan : Int} (covering : s.Covering)
    (pc : s.worker = .scanned run toScan) (periodic : run.fullScan = false)
    (present : s.surpriseremoved = false) :
    ScanSys.Covering { s with
      scanChannel := if s.scanChannel < 0 then toScan else s.scanChannel + toScan
      worker := .marked } := by
  have place := covering.place
  rw [pc] at place
  obtain ⟨done, more, aligned⟩ := place
  refine covering.still rfl rfl fun _ => ?_
  have next : (if s.scanChannel < 0 then toScan else s.scanChannel + toScan).toNat =
      run.currChans := by
    rw [aligned periodic present]
    split <;> omega
  show ScanSys.Done _ s.regions.channels _
  rw [next, ← done.listed periodic]
  exact done.done.of_eq rfl rfl

theorem Covering.loop {toScan : Int} (covering : s.Covering)
    (pc : s.worker = .scanned run toScan)
    (last : ¬(run.chanCount ≠ 0 ∧ run.fullScan = false ∧ s.surpriseremoved = false)) :
    ScanSys.Covering { s with worker := .looping run } := by
  have place := covering.place
  rw [pc] at place
  obtain ⟨⟨still, done, counted, listed⟩, -, -⟩ := place
  refine covering.still rfl rfl ⟨⟨still, done, counted, listed⟩, ?_⟩
  intro more periodic present
  exact absurd ⟨more, periodic, present⟩ last

theorem Covering.finish {channels : List UInt8} (covering : s.Covering)
    (pc : s.worker = .ending fullScan channels) :
    (ScanSys.returns { s with scanChannel := 0 } fullScan channels).Covering := by
  have place := covering.place
  rw [pc] at place
  cases fullScan with
  | false => exact covering.still rfl rfl (cursorDone_of_nonpos (Int.le_refl 0))
  | true =>
      refine ⟨covering.ssid_cons rfl, cursorDone_of_nonpos (Int.le_refl 0),
        covering.requests.cons_of_ne nofun, covering.fullScans.cons ?_⟩
      rintro channels' ssid between before ⟨⟩ split quiet ch member
      obtain ⟨same, opened⟩ := since_of_split split rfl quiet
      obtain ⟨chans, written, among⟩ := place rfl ssid opened ch member
      rw [same, covering.ssid _ ssid opened rfl] at written
      exact ⟨chans, written, among⟩

/-- One step of `lbs_scan_networks` that is not disturbed. -/
theorem Covering.lbsScanNetworks (covering : s.Covering) (calm : Undisturbed s (.worker ok))
    (stepped : s.lbsScanNetworks ok = some t) : t.Covering := by
  unfold ScanSys.lbsScanNetworks at stepped
  unfold Undisturbed MayProceed at calm
  cases pc : s.worker with
  | idle => simp [pc] at stepped
  | asked =>
      simp only [pc, Option.some.injEq] at stepped
      subst stepped
      exact covering.still rfl rfl nofun
  | entered fullScan =>
      simp only [pc] at stepped calm
      cases ok with
      | true =>
          cases stepped
          exact covering.create pc
      | false =>
          cases fullScan with
          | true => exact absurd (calm rfl) (by decide)
          | false =>
              cases stepped
              have place := covering.place
              rw [pc] at place
              exact covering.still rfl rfl (place rfl)
  | listed fullScan chanList =>
      simp only [pc, Option.some.injEq] at stepped calm
      subst stepped
      exact covering.start pc calm.1 calm.2 rfl
  | looping run =>
      simp only [pc] at stepped
      split at stepped
      · rename_i none_left
        cases stepped
        exact covering.complete pc none_left
      · split at stepped
        · cases stepped
        · cases stepped
          exact covering.command pc (by omega)
  | commanded run ssid =>
      simp only [pc] at stepped calm
      subst calm
      cases stepped
      exact covering.scan pc
  | scanned run toScan =>
      simp only [pc] at stepped
      split at stepped
      · rename_i next
        cases stepped
        exact covering.mark pc next.2.1 next.2.2
      · rename_i last
        cases stepped
        exact covering.loop pc last
  | marked =>
      simp only [pc, Option.some.injEq] at stepped
      subst stepped
      have place := covering.place
      rw [pc] at place
      exact covering.still rfl rfl place
  | ending fullScan channels =>
      simp only [pc, Option.some.injEq] at stepped
      subst stepped
      exact covering.finish pc

end Worker

/-- A full scan may start at any time: what was scanned for others does not count for it. -/
theorem Covering.full (covering : s.Covering) (scan : FullScan) :
    (s.fullScan scan).Covering := by
  have start : ∀ ssid, (s.startFull ssid).Covering := fun ssid => covering.ask rfl rfl trivial
  cases scan with
  | best => exact start []
  | specific ssid =>
      cases ssid with
      | nil => exact covering
      | cons byte rest => exact start (byte :: rest)

/-- Every step that disturbs no scan keeps the account of the scanned channels. -/
theorem Covering.step {action : ScannerAction} (covering : s.Covering)
    (calm : Undisturbed s action) (stepped : s.step action = some t) : t.Covering := by
  cases action with
  | regulate regions =>
      cases stepped
      exact covering.regulate regions calm
  | remove =>
      cases stepped
      exact covering.still rfl rfl
        (covering.place.of_eq rfl rfl id (fun idle _ => idle) rfl rfl nofun)
  | timer =>
      simp only [ScanSys.step] at stepped
      split at stepped <;> cases stepped
      exact covering.still rfl rfl
        (covering.place.of_eq rfl rfl id (fun idle _ => idle) rfl rfl id)
  | set running req =>
      simp only [ScanSys.step] at stepped
      split at stepped
      · cases running with
        | true =>
            cases stepped
            exact covering.lbsSetScan req (calm rfl)
        | false =>
            cases stepped
            exact covering
      · cases stepped
  | setScan => exact covering.setScanStep calm stepped
  | work =>
      simp only [ScanSys.step] at stepped
      split at stepped
      · rename_i pc _
        cases stepped
        have place := covering.place
        rw [pc] at place
        exact covering.still rfl rfl fun _ => place
      · cases stepped
  | full scan =>
      simp only [ScanSys.step] at stepped
      split at stepped <;> cases stepped
      exact covering.full scan
  | worker ok => exact covering.lbsScanNetworks calm stepped

theorem Covering.init (regions : ScanRegions) : (ScanSys.init regions).Covering where
  ssid := nofun
  place := cursorDone_of_nonpos (Int.le_refl 0)
  requests := .nil
  fullScans := .nil

end ScanSys

/-- One region with six channels. -/
def sixChannels : ScanRegions :=
  { enable11d := false, connected := false
    regionChannel := [{ valid := true, band := 0, cfp := [⟨1, 2412⟩, ⟨2, 2417⟩, ⟨3, 2422⟩,
      ⟨4, 2427⟩, ⟨5, 2432⟩, ⟨6, 2437⟩] }]
    universalChannel := [], parsedRegionChan := [] }

/-- A request for one network. -/
def scanRequest (ssid : List UInt8) : List ScannerAction :=
  [.set true { complete := true, flags := iwScanThisEssid, essid := ssid }, .setScan, .setScan]

/-- The timer expires, and `lbs_scan_networks` takes some steps. -/
def workerSteps (steps : Nat) : List ScannerAction :=
  [.timer, .work] ++ List.replicate steps (.worker true)

/-- Every allocation and every command succeeds. -/
def Succeeds (_ : ScanSys) (action : ScannerAction) : Prop :=
  action ≠ .worker false

instance (s : ScanSys) (action : ScannerAction) : Decidable (Succeeds s action) :=
  inferInstanceAs (Decidable (_ ≠ _))

end Libertas

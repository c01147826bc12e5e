import Libertas.Chunks
import Libertas.Scan.Chunks
import Libertas.Transition.Trace

/-!
# Periodic scans and full scans

`lbs_scan_worker` scans one chunk of channels and starts itself again for the next
one, with `scan_channel` as its cursor. A full scan goes round its loop for all of
them. When nobody interferes, both put out the same: the commands for the chunks of
the list, and then one event.

`ahead` is what a scan still has to put out. Each step takes its outputs from the
front of it.
-/

namespace Libertas

open Chunks

/-- What a scan puts out. -/
inductive ScanOutput
  /-- The command of `lbs_do_scan`, for an SSID and some channels. -/
  | command (ssid : List UInt8) (chanList : List ChanScanParamSet)
  /-- The event `SIOCGIWSCAN`. -/
  | event
deriving DecidableEq, Repr

/-- The part of the list that the next command gets. -/
def ScanRun.handed (run : ScanRun) : List ChanScanParamSet :=
  (run.chanList.drop run.currChans).take run.toScan.toNat

namespace ScanSys

/-- The outputs of a step: at the head of its loop, a scan sends a command or the event. -/
def puts (s : ScanSys) : ScannerAction → List ScanOutput
  | .worker _ =>
      match s.worker with
      | .looping run =>
          if run.chanCount = 0 then [.event] else [.command s.scanSsid run.handed]
      | _ => []
  | _ => []

/-- The channels to scan. -/
def chanList (s : ScanSys) : List ChanScanParamSet :=
  s.regions.lbsScanCreateChannelList.1

/-- The timer, the worker and successful commands alone make up an undisturbed scan. A full scan
does not start `scan_work`. -/
def Calm (full : Bool) (action : ScannerAction) : Prop :=
  action = .timer ∨ action = .worker true ∨ full = false ∧ action = .work

/-- A scan is due, at the first channel of the list. -/
structure Due (s : ScanSys) : Prop where
  idle : s.worker = .idle
  pending : s.scanWork ≠ .idle
  first : s.scanChannel ≤ 0
  present : s.surpriseremoved = false

/-- Runs of `lbs_scan_worker` until no further one is pending. -/
structure PartialScans (s : ScanSys) (actions : List ScannerAction) (t : ScanSys) : Prop where
  executed : scanner.run s actions = some t
  calm : ∀ action ∈ actions, Calm false action
  idle : t.worker = .idle
  finished : t.scanWork = .idle

/-- One full scan for the same SSID. -/
structure FullScanRun (s : ScanSys) (actions : List ScannerAction) (t : ScanSys) : Prop where
  executed : scanner.run (s.startFull s.scanSsid) actions = some t
  calm : ∀ action ∈ actions, Calm true action
  idle : t.worker = .idle

/-- The channels from a place of a list on, and the event. -/
def outputsFrom (ssid : List UInt8) (list : List ChanScanParamSet) (k : Nat) : List ScanOutput :=
  (chunksOf 4 (list.drop k)).map (.command ssid) ++ [.event]

/-- What the scan still has to put out. -/
def ahead (full : Bool) (s : ScanSys) : List ScanOutput :=
  match s.worker with
  | .idle =>
      if full = true ∨ s.scanWork = .idle then []
      else outputsFrom s.scanSsid s.chanList s.scanChannel.toNat
  | .asked => outputsFrom s.scanSsid s.chanList s.scanChannel.toNat
  | .entered _ => outputsFrom s.scanSsid s.chanList s.scanChannel.toNat
  | .listed _ chanList => outputsFrom s.scanSsid chanList s.scanChannel.toNat
  | .looping run => outputsFrom s.scanSsid run.chanList run.currChans
  | .commanded run _ => outputsFrom s.scanSsid run.chanList run.advance.currChans
  | .scanned run _ => outputsFrom s.scanSsid run.chanList run.currChans
  | .marked => outputsFrom s.scanSsid s.chanList s.scanChannel.toNat
  | .ending _ _ => []

/-- The channels behind `scan_channel`. -/
def left (s : ScanSys) : Nat :=
  s.chanList.length - s.scanChannel.toNat

/-- The steps to go, by the place of the worker. -/
def placeRank (full : Bool) (s : ScanSys) : Nat :=
  match s.worker with
  | .idle => if full = true ∨ s.scanWork = .idle then 0 else 12 * s.left + 7
  | .asked => 12 * s.left + 8
  | .entered _ => 12 * s.left + 6
  | .listed _ _ => 12 * s.left + 5
  | .looping run => 12 * run.chanCount.toNat + 4
  | .commanded run _ => 12 * run.chanCount.toNat + 3
  | .scanned run _ => 12 * run.chanCount.toNat + 10
  | .marked => 12 * s.left + 9
  | .ending _ _ => 2

/-- A bound on the number of steps to go. -/
def scanRank (full : Bool) (s : ScanSys) : Nat :=
  s.placeRank full + if s.scanWork = .timer then 1 else 0

/-- A full scan starts at the first channel, and a periodic one is not pending while it runs. -/
structure Cursor (full : Bool) (s : ScanSys) : Prop where
  fresh : full = true → s.scanChannel ≤ 0
  quiet : full = false → s.scanWork = .idle
  fits : s.scanChannel.toNat ≤ s.chanList.length

/-- The scan goes through the list of the channels to scan. -/
structure OnList (full : Bool) (s : ScanSys) (run : ScanRun) : Prop extends Cursor full s where
  kind : run.fullScan = full
  list : run.chanList = s.chanList
  inside : run.Inside

/-- An undisturbed scan, by the place of the worker. A periodic scan that will write
`scan_channel` stands `toScan` channels behind it. -/
def CalmAt (full : Bool) (s : ScanSys) : ScanPc → Prop
  | .idle => full = false →
      (s.scanWork = .idle → s.scanChannel = 0) ∧ s.scanChannel.toNat ≤ s.chanList.length
  | .asked => full = true ∧ s.Cursor full
  | .entered fullScan => fullScan = full ∧ s.Cursor full
  | .listed fullScan chanList => fullScan = full ∧ chanList = s.chanList ∧ s.Cursor full
  | .looping run => s.OnList full run ∧
      (full = false → run.chanCount ≠ 0 → run.currChans = s.scanChannel.toNat)
  | .commanded run _ => s.OnList full run ∧ run.chanCount ≠ 0 ∧
      (full = false → run.currChans = s.scanChannel.toNat)
  | .scanned run toScan => s.OnList full run ∧ 0 ≤ toScan ∧
      (full = false → run.currChans = s.scanChannel.toNat + toScan.toNat)
  | .marked => full = false ∧ s.Cursor full
  | .ending fullScan _ => fullScan = full ∧ (full = false → s.scanWork = .idle)

/-- Nobody interferes with the scan. -/
structure CalmScan (full : Bool) (s : ScanSys) : Prop where
  present : s.surpriseremoved = false
  place : s.CalmAt full s.worker

/-- What a step of an undisturbed scan does. -/
structure Proceeds (full : Bool) (s : ScanSys) (outputs : List ScanOutput) (t : ScanSys) :
    Prop where
  calm : t.CalmScan full
  outputs : s.ahead full = outputs ++ t.ahead full
  lower : t.scanRank full < s.scanRank full

section Lists

variable {run : ScanRun} {enable11d : Bool}

/-- The first scan clears `parsed_region_chan` before it uses it. -/
theorem scanRegionLoop_first (tables : List RegionChannel) (parsed parsed' : List UInt8) :
    (scanRegionLoop enable11d true tables parsed).1 =
      (scanRegionLoop enable11d true tables parsed').1 := by
  induction tables with
  | nil => rfl
  | cons scanregion rest ih =>
      simp only [scanRegionLoop]
      split
      · rfl
      · exact ih

/-- Any other scan leaves `parsed_region_chan` alone. -/
theorem scanRegionLoop_later (tables : List RegionChannel) (parsed : List UInt8) :
    (scanRegionLoop enable11d false tables parsed).2 = parsed := by
  induction tables with
  | nil => rfl
  | cons scanregion rest ih =>
      simp only [scanRegionLoop]
      split
      · exact ih
      · exact ih

/-- Making the list once more gives the same list. -/
theorem create_again (regions : ScanRegions) :
    regions.lbsScanCreateChannelList.2.lbsScanCreateChannelList.1 =
      regions.lbsScanCreateChannelList.1 := by
  have again : ∀ firstScan tables parsed,
      (scanRegionLoop regions.enable11d firstScan tables
        (scanRegionLoop regions.enable11d firstScan tables parsed).2).1 =
          (scanRegionLoop regions.enable11d firstScan tables parsed).1 := by
    intro firstScan tables parsed
    cases firstScan with
    | true => exact scanRegionLoop_first tables _ _
    | false => rw [scanRegionLoop_later]
  exact again _ _ _

variable (ssid : List UInt8)

/-- Behind the last channel there is only the event. -/
theorem outputsFrom_end (inside : run.Inside) (none_left : run.chanCount = 0) :
    outputsFrom ssid run.chanList run.currChans = [.event] := by
  have counted := inside.counted
  have behind : run.chanList.drop run.currChans = [] := by
    apply List.drop_eq_nil_of_le
    omega
  rw [outputsFrom, behind, chunksOf_nil]
  rfl

/-- The next chunk goes into one command. -/
theorem outputsFrom_chunk (inside : run.Inside) (more : run.chanCount ≠ 0) :
    outputsFrom ssid run.chanList run.currChans =
      [.command ssid run.handed] ++ outputsFrom ssid run.chanList run.advance.currChans := by
  obtain ⟨nonneg, counted⟩ := inside
  have left : (run.chanList.drop run.currChans).length = run.chanCount.toNat := by
    rw [List.length_drop]
    omega
  have some_left : run.chanList.drop run.currChans ≠ [] := by
    intro none_left
    rw [none_left, List.length_nil] at left
    omega
  have chunk : run.toScan.toNat = min 4 (run.chanList.drop run.currChans).length := by
    rw [left]
    rw [ScanRun.toScan, mrvdrvChannelsPerScanCmd]
    omega
  have handed : run.handed = (run.chanList.drop run.currChans).take 4 := by
    rw [ScanRun.handed, chunk, ← List.take_take, List.take_length]
  have later : run.chanList.drop run.advance.currChans =
      (run.chanList.drop run.currChans).drop 4 := by
    show run.chanList.drop (run.currChans + run.toScan.toNat) = _
    rw [← List.drop_drop, chunk]
    rcases Nat.le_total (run.chanList.drop run.currChans).length 4 with short | long
    · rw [Nat.min_eq_right short, List.drop_length, List.drop_eq_nil_of_le short]
    · rw [Nat.min_eq_left long]
  rw [outputsFrom, chunksOf_of_ne_nil (by decide) some_left, handed, outputsFrom, later]
  rfl

end Lists

section Steps

variable {s t : ScanSys} {full : Bool} {run : ScanRun}

/-- A full scan cancels a pending periodic one. -/
theorem CalmScan.cancel (calm : s.CalmScan full) (pc : s.worker = .asked) :
    s.Proceeds full [] { s with
      scanWork := s.scanWork.cancelDelayedWork, worker := .entered true } := by
  obtain ⟨present, place⟩ := calm
  rw [pc] at place
  obtain ⟨rfl, fresh, -, fits⟩ := place
  refine ⟨⟨present, rfl, fresh, nofun, fits⟩, ?_, ?_⟩
  · simp only [ahead, pc]
    rfl
  · have stopped : s.scanWork.cancelDelayedWork ≠ .timer := by
      cases s.scanWork <;> nofun
    simp only [scanRank, placeRank, pc, if_neg stopped]
    show 12 * s.left + 6 + 0 < 12 * s.left + 8 + _
    omega

/-- The list is made; it is the same list as before. -/
theorem CalmScan.create {fullScan : Bool} (calm : s.CalmScan full)
    (pc : s.worker = .entered fullScan) :
    s.Proceeds full [] { s with
      regions := s.regions.lbsScanCreateChannelList.2
      worker := .listed fullScan s.regions.lbsScanCreateChannelList.1 } := by
  obtain ⟨present, place⟩ := calm
  rw [pc] at place
  obtain ⟨kind, fresh, quiet, fits⟩ := place
  have same := create_again s.regions
  refine ⟨⟨present, kind, same.symm, fresh, quiet, ?_⟩, ?_, ?_⟩
  · show s.scanChannel.toNat ≤ (ScanRegions.lbsScanCreateChannelList _).1.length
    rw [same]
    exact fits
  · simp only [ahead, pc]
    rfl
  · have left : s.left = (s.regions.lbsScanCreateChannelList.1).length - s.scanChannel.toNat := rfl
    simp only [scanRank, placeRank, pc, ScanSys.left, chanList, same]
    omega

/-- A scan starts behind the channels that `scan_channel` counts. -/
theorem CalmScan.start {fullScan : Bool} {list : List ChanScanParamSet} (calm : s.CalmScan full)
    (pc : s.worker = .listed fullScan list) {run : ScanRun} (run_eq : run =
      { fullScan := fullScan, chanList := list, currChans := s.scanChannel.toNat
        chanCount := list.length - s.scanChannel.toNat }) :
    s.Proceeds full [] { s with worker := .looping run } := by
  obtain ⟨present, place⟩ := calm
  rw [pc] at place
  obtain ⟨kind, rfl, fresh, quiet, fits⟩ := place
  have inside : run.Inside := by
    rw [run_eq]
    exact inside_start (by omega)
  subst run_eq
  refine ⟨⟨present, ⟨⟨fresh, quiet, fits⟩, kind, rfl, inside⟩, fun _ _ => rfl⟩, ?_, ?_⟩
  · simp only [ahead, pc]
    rfl
  · simp only [scanRank, placeRank, pc, ScanSys.left]
    omega

/-- Behind the last channel the event is sent. -/
theorem CalmScan.complete (calm : s.CalmScan full) (pc : s.worker = .looping run)
    (none_left : run.chanCount = 0) (log : List ScanEvent) (channels : List UInt8) :
    s.Proceeds full [.event] { s with
      worker := .ending run.fullScan channels, log := log } := by
  obtain ⟨present, place⟩ := calm
  rw [pc] at place
  obtain ⟨⟨⟨fresh, quiet, fits⟩, kind, list, inside⟩, -⟩ := place
  refine ⟨⟨present, kind, quiet⟩, ?_, ?_⟩
  · simp only [ahead, pc]
    exact outputsFrom_end s.scanSsid inside none_left
  · simp only [scanRank, placeRank, pc]
    omega

/-- The next chunk goes into a command. -/
theorem CalmScan.command (calm : s.CalmScan full) (pc : s.worker = .looping run)
    (more : run.chanCount ≠ 0) (ssid : List UInt8) :
    s.Proceeds full [.command s.scanSsid run.handed]
      { s with worker := .commanded run ssid } := by
  obtain ⟨present, place⟩ := calm
  rw [pc] at place
  obtain ⟨⟨⟨fresh, quiet, fits⟩, kind, list, inside⟩, aligned⟩ := place
  refine ⟨⟨present, ⟨⟨fresh, quiet, fits⟩, kind, list, inside⟩, more,
    fun periodic => aligned periodic more⟩, ?_, ?_⟩
  · simp only [ahead, pc]
    exact outputsFrom_chunk s.scanSsid inside more
  · simp only [scanRank, placeRank, pc]
    omega

/-- The command succeeds. -/
theorem CalmScan.advance {ssid : List UInt8} (calm : s.CalmScan full)
    (pc : s.worker = .commanded run ssid) (log : List ScanEvent) :
    s.Proceeds full [] { s with worker := .scanned run.advance run.toScan, log := log } := by
  obtain ⟨present, place⟩ := calm
  rw [pc] at place
  obtain ⟨⟨⟨fresh, quiet, fits⟩, kind, list, inside⟩, more, aligned⟩ := place
  have some_channel := (inside.handed more).some_channel
  have nearer := inside.advance_lt more
  refine ⟨⟨present, ⟨⟨fresh, quiet, fits⟩, kind, list, inside.advance⟩, by omega, ?_⟩, ?_, ?_⟩
  · intro periodic
    show run.currChans + run.toScan.toNat = s.scanChannel.toNat + run.toScan.toNat
    rw [aligned periodic]
  · simp only [ahead, pc]
    rfl
  · simp only [scanRank, placeRank, pc]
    omega

/-- A periodic scan counts the channels of the chunk. -/
theorem CalmScan.mark {toScan : Int} (calm : s.CalmScan full)
    (pc : s.worker = .scanned run toScan) (periodic : run.fullScan = false) :
    s.Proceeds full [] { s with
      scanChannel := if s.scanChannel < 0 then toScan else s.scanChannel + toScan
      worker := .marked } := by
  obtain ⟨present, place⟩ := calm
  rw [pc] at place
  obtain ⟨⟨⟨fresh, quiet, fits⟩, kind, list, inside⟩, nonneg, aligned⟩ := place
  obtain rfl : full = false := kind.symm.trans periodic
  have counted := inside.counted
  have left_nonneg := inside.nonneg
  have next : (if s.scanChannel < 0 then toScan else s.scanChannel + toScan).toNat =
      run.currChans := by
    rw [aligned rfl]
    split <;> omega
  have length : run.chanList.length = s.chanList.length := by rw [list]
  refine ⟨⟨present, rfl, nofun, quiet, ?_⟩, ?_, ?_⟩
  · show (if s.scanChannel < 0 then toScan else s.scanChannel + toScan).toNat ≤ s.chanList.length
    rw [next]
    omega
  · simp only [ahead, pc, next, list]
    rfl
  · simp only [scanRank, placeRank, pc, ScanSys.left, next]
    show 12 * (s.chanList.length - run.currChans) + 9 + _ < _
    omega

/-- A full scan, or one behind the last channel, goes round the loop. -/
theorem CalmScan.again {toScan : Int} (calm : s.CalmScan full)
    (pc : s.worker = .scanned run toScan)
    (last : ¬(run.chanCount ≠ 0 ∧ run.fullScan = false ∧ s.surpriseremoved = false)) :
    s.Proceeds full [] { s with worker := .looping run } := by
  obtain ⟨present, place⟩ := calm
  rw [pc] at place
  obtain ⟨⟨⟨fresh, quiet, fits⟩, kind, list, inside⟩, -, -⟩ := place
  refine ⟨⟨present, ⟨⟨fresh, quiet, fits⟩, kind, list, inside⟩, ?_⟩, ?_, ?_⟩
  · intro periodic more
    exact absurd ⟨more, kind.trans periodic, present⟩ last
  · simp only [ahead, pc]
    rfl
  · simp only [scanRank, placeRank, pc]
    omega

/-- The next chunk of a periodic scan is scheduled. -/
theorem CalmScan.schedule (calm : s.CalmScan full) (pc : s.worker = .marked) :
    s.Proceeds full [] { s with
      scanWork := s.scanWork.cancelDelayedWork.queueDelayedWork
      worker := .idle } := by
  obtain ⟨present, place⟩ := calm
  rw [pc] at place
  obtain ⟨rfl, fresh, quiet, fits⟩ := place
  have work : s.scanWork.cancelDelayedWork.queueDelayedWork = .timer := by
    rw [quiet rfl]
    rfl
  rw [work]
  refine ⟨⟨present, fun _ => ⟨nofun, fits⟩⟩, ?_, ?_⟩
  · simp only [ahead, pc]
    rfl
  · simp only [scanRank, placeRank, pc, quiet rfl]
    exact Nat.lt_succ_self _

/-- A scan returns. -/
theorem CalmScan.finish {fullScan : Bool} {channels : List UInt8} (calm : s.CalmScan full)
    (pc : s.worker = .ending fullScan channels) :
    s.Proceeds full [] (ScanSys.returns { s with scanChannel := 0 } fullScan channels) := by
  obtain ⟨present, place⟩ := calm
  rw [pc] at place
  obtain ⟨rfl, quiet⟩ := place
  have last : fullScan = true ∨ s.scanWork = .idle := by
    cases fullScan with
    | true => exact .inl rfl
    | false => exact .inr (quiet rfl)
  refine ⟨⟨present, fun _ => ⟨fun _ => rfl, Nat.zero_le _⟩⟩, ?_, ?_⟩
  · simp only [ahead, pc, returns, if_pos last]
    rfl
  · simp only [scanRank, placeRank, pc, returns, if_pos last]
    omega

/-- One step of `lbs_scan_networks`. -/
theorem CalmScan.lbsScanNetworks (calm : s.CalmScan full)
    (stepped : s.lbsScanNetworks true = some t) :
    s.Proceeds full (s.puts (.worker true)) t := by
  rw [ScanSys.lbsScanNetworks] at stepped
  cases pc : s.worker with
  | idle => simp [pc] at stepped
  | asked =>
      simp only [pc, Option.some.injEq] at stepped
      subst stepped
      simp only [puts, pc]
      exact calm.cancel pc
  | entered fullScan =>
      simp only [pc, if_pos] at stepped
      cases stepped
      simp only [puts, pc]
      exact calm.create pc
  | listed fullScan list =>
      simp only [pc, Option.some.injEq] at stepped
      subst stepped
      simp only [puts, pc]
      exact calm.start pc rfl
  | looping run =>
      simp only [pc] at stepped
      simp only [puts, pc]
      split at stepped
      · rename_i none_left
        cases stepped
        rw [if_pos none_left]
        exact calm.complete pc none_left _ _
      · rename_i more
        rw [if_neg more]
        split at stepped <;> cases stepped
        exact calm.command pc more _
  | commanded run ssid =>
      simp only [pc, if_pos] at stepped
      cases stepped
      simp only [puts, pc]
      exact calm.advance pc _
  | scanned run toScan =>
      simp only [pc] at stepped
      simp only [puts, pc]
      split at stepped
      · rename_i next
        cases stepped
        exact calm.mark pc next.2.1
      · rename_i last
        cases stepped
        exact calm.again pc last
  | marked =>
      simp only [pc, Option.some.injEq] at stepped
      subst stepped
      simp only [puts, pc]
      exact calm.schedule pc
  | ending fullScan channels =>
      simp only [pc, Option.some.injEq] at stepped
      subst stepped
      simp only [puts, pc]
      exact calm.finish pc

/-- A full scan takes no notice of `scan_work`. -/
theorem CalmAt.of_full {pc : ScanPc} (place : s.CalmAt true pc) (work : DelayedWork) :
    ScanSys.CalmAt true { s with scanWork := work } pc := by
  have cursor : s.Cursor true → ScanSys.Cursor true { s with scanWork := work } :=
    fun cursor => ⟨cursor.fresh, nofun, cursor.fits⟩
  have onList : ∀ run, s.OnList true run → ScanSys.OnList true { s with scanWork := work } run :=
    fun run on => ⟨cursor on.toCursor, on.kind, on.list, on.inside⟩
  cases pc with
  | idle => exact nofun
  | asked => exact ⟨rfl, cursor place.2⟩
  | entered fullScan => exact ⟨place.1, cursor place.2⟩
  | listed fullScan list => exact ⟨place.1, place.2.1, cursor place.2.2⟩
  | looping run => exact ⟨onList run place.1, nofun⟩
  | commanded run ssid => exact ⟨onList run place.1, place.2.1, nofun⟩
  | scanned run toScan => exact ⟨onList run place.1, place.2.1, nofun⟩
  | marked => cases place.1
  | ending fullScan channels => exact ⟨place.1, nofun⟩

/-- While a periodic scan runs, no further one is pending. -/
theorem CalmScan.idle_of_pending (calm : s.CalmScan false) (pending : s.scanWork ≠ .idle) :
    s.worker = .idle := by
  have place := calm.place
  cases pc : s.worker with
  | idle => rfl
  | asked => rw [pc] at place; cases place.1
  | entered fullScan => rw [pc] at place; exact absurd (place.2.quiet rfl) pending
  | listed fullScan list => rw [pc] at place; exact absurd (place.2.2.quiet rfl) pending
  | looping run => rw [pc] at place; exact absurd (place.1.quiet rfl) pending
  | commanded run ssid => rw [pc] at place; exact absurd (place.1.quiet rfl) pending
  | scanned run toScan => rw [pc] at place; exact absurd (place.1.quiet rfl) pending
  | marked => rw [pc] at place; exact absurd (place.2.quiet rfl) pending
  | ending fullScan channels => rw [pc] at place; exact absurd (place.2 rfl) pending

theorem CalmScan.timer (calm : s.CalmScan full) (work : s.scanWork = .timer) :
    s.Proceeds full [] { s with scanWork := .queued } := by
  cases full with
  | true =>
      refine ⟨⟨calm.present, calm.place.of_full _⟩, ?_, ?_⟩
      · cases pc : s.worker <;> simp only [ahead, pc] <;> rfl
      · cases pc : s.worker <;> simp [scanRank, placeRank, pc, work, left, chanList]
  | false =>
      have idle := calm.idle_of_pending (by rw [work]; nofun)
      have place := calm.place
      rw [idle] at place
      refine ⟨⟨calm.present, ?_⟩, ?_, ?_⟩
      · show ScanSys.CalmAt false _ s.worker
        rw [idle]
        exact fun _ => ⟨nofun, (place rfl).2⟩
      · simp only [ahead, idle, work]
        rfl
      · simp only [scanRank, placeRank, idle, work]
        exact Nat.lt_succ_self _

/-- A periodic scan starts its next run. -/
theorem CalmScan.work (calm : s.CalmScan false) (idle : s.worker = .idle)
    (queued : s.scanWork = .queued) :
    s.Proceeds false [] { s with scanWork := .idle, worker := .entered false } := by
  have place := calm.place
  rw [idle] at place
  refine ⟨⟨calm.present, rfl, nofun, fun _ => rfl, (place rfl).2⟩, ?_, ?_⟩
  · simp only [ahead, idle, queued]
    rfl
  · simp only [scanRank, placeRank, idle, queued]
    exact Nat.lt_succ_self _

/-- An undisturbed scan accounts for what it puts out. -/
theorem accounts (full : Bool) :
    scanner.Accounts puts (Calm full) (CalmScan full) (ahead full) (scanRank full) := by
  have proceeds : ∀ s action t, CalmScan full s → Calm full action →
      scanner.step s action = some t → s.Proceeds full (s.puts action) t := by
    rintro s action t calm (rfl | rfl | ⟨rfl, rfl⟩) stepped
    · simp only [scanner, step] at stepped
      split at stepped <;> cases stepped
      rename_i work
      exact calm.timer work
    · exact calm.lbsScanNetworks stepped
    · simp only [scanner, step] at stepped
      split at stepped <;> cases stepped
      rename_i idle queued
      exact calm.work idle queued
  exact ⟨fun _ _ _ good calm stepped => (proceeds _ _ _ good calm stepped).calm,
    fun _ _ _ good calm stepped => (proceeds _ _ _ good calm stepped).outputs,
    fun _ _ _ good calm stepped => (proceeds _ _ _ good calm stepped).lower⟩

/-- An undisturbed scan that is not finished can go on. -/
theorem CalmScan.progress (calm : s.CalmScan full) :
    (s.worker = .idle ∧ (full = false → s.scanWork = .idle)) ∨
      ∃ action t, Calm full action ∧ scanner.step s action = some t := by
  have place := calm.place
  have worker : (∃ t, s.lbsScanNetworks true = some t) →
      ∃ action t, Calm full action ∧ scanner.step s action = some t :=
    fun ⟨t, stepped⟩ => ⟨.worker true, t, .inr (.inl rfl), stepped⟩
  cases pc : s.worker with
  | idle =>
      cases full with
      | true => exact .inl ⟨rfl, nofun⟩
      | false =>
          cases work : s.scanWork with
          | idle => exact .inl ⟨rfl, fun _ => rfl⟩
          | timer =>
              refine .inr ⟨.timer, { s with scanWork := .queued }, .inl rfl, ?_⟩
              simp only [scanner, step, work]
          | queued =>
              refine .inr ⟨.work, { s with scanWork := .idle, worker := .entered false },
                .inr (.inr ⟨rfl, rfl⟩), ?_⟩
              simp only [scanner, step, pc, work]
  | looping run =>
      rw [pc] at place
      have nonneg : ¬run.chanCount < 0 := Int.not_lt.mpr place.1.inside.nonneg
      refine .inr (worker ?_)
      simp only [ScanSys.lbsScanNetworks, pc, if_neg nonneg]
      split <;> exact ⟨_, rfl⟩
  | scanned run toScan =>
      refine .inr (worker ?_)
      simp only [ScanSys.lbsScanNetworks, pc]
      split <;> exact ⟨_, rfl⟩
  | asked => exact .inr (worker (by simp [ScanSys.lbsScanNetworks, pc]))
  | entered fullScan => exact .inr (worker (by simp [ScanSys.lbsScanNetworks, pc]))
  | listed fullScan list => exact .inr (worker (by simp [ScanSys.lbsScanNetworks, pc]))
  | commanded run ssid => exact .inr (worker (by simp [ScanSys.lbsScanNetworks, pc]))
  | marked => exact .inr (worker (by simp [ScanSys.lbsScanNetworks, pc]))
  | ending fullScan channels => exact .inr (worker (by simp [ScanSys.lbsScanNetworks, pc]))

theorem Due.calm (due : s.Due) : s.CalmScan false := by
  refine ⟨due.present, ?_⟩
  rw [due.idle]
  refine fun _ => ⟨fun idle => absurd idle due.pending, ?_⟩
  rw [Int.toNat_of_nonpos due.first]
  exact Nat.zero_le _

theorem Due.calm_full (due : s.Due) : (s.startFull s.scanSsid).CalmScan true := by
  refine ⟨due.present, rfl, fun _ => due.first, nofun, ?_⟩
  show s.scanChannel.toNat ≤ _
  rw [Int.toNat_of_nonpos due.first]
  exact Nat.zero_le _

end Steps

/-- Scanning chunk by chunk, and in one full scan. -/
structure ScansAgree (s : ScanSys) (chunks : List (List ChanScanParamSet)) : Prop where
  /-- The chunks in order are the channel list. -/
  listed : chunks.flatten = s.chanList
  sizes : ∀ chunk ∈ chunks, 1 ≤ chunk.length ∧ chunk.length ≤ 4
  /-- The periodic scans come to an end, however far they are. -/
  ends : ∃ bound, ∀ actions t, scanner.run s actions = some t →
    (∀ action ∈ actions, Calm false action) →
      actions.length ≤ bound ∧ ∃ more u, t.PartialScans more u
  periodic : ∀ actions t, s.PartialScans actions t →
    scanner.trace puts s actions = chunks.map (.command s.scanSsid) ++ [.event] ∧
      t.scanChannel = 0
  full_ends : ∃ actions t, s.FullScanRun actions t
  full : ∀ actions t, s.FullScanRun actions t →
    scanner.trace puts (s.startFull s.scanSsid) actions =
      chunks.map (.command s.scanSsid) ++ [.event]

end ScanSys

/-- Undisturbed, the runs of `lbs_scan_worker` send the same commands as one full scan. -/
theorem partial_scans_eq_full {s : ScanSys} (due : s.Due) : ∃ chunks, s.ScansAgree chunks := by
  have first : (ScanSys.chanList s).drop s.scanChannel.toNat = s.chanList := by
    rw [Int.toNat_of_nonpos due.first, List.drop_zero]
  have to_come : s.ahead false =
      (chunksOf 4 s.chanList).map (.command s.scanSsid) ++ [.event] := by
    have pending : ¬(false = true ∨ s.scanWork = .idle) := by simp [due.pending]
    simp only [ScanSys.ahead, due.idle, if_neg pending, ScanSys.outputsFrom, first]
  have to_come_full : (s.startFull s.scanSsid).ahead true =
      (chunksOf 4 s.chanList).map (.command s.scanSsid) ++ [.event] := by
    show ScanSys.outputsFrom s.scanSsid s.chanList s.scanChannel.toNat = _
    rw [ScanSys.outputsFrom, first]
  have nothing : ∀ full t, t.worker = .idle → (full = false → t.scanWork = .idle) →
      ScanSys.ahead full t = [] := by
    intro full t idle quiet
    have finished : full = true ∨ t.scanWork = .idle := by
      cases full with
      | true => exact .inl rfl
      | false => exact .inr (quiet rfl)
    simp only [ScanSys.ahead, idle, if_pos finished]
  refine ⟨chunksOf 4 s.chanList, flatten_chunksOf 4 _,
    fun chunk member => length_of_mem_chunksOf (by decide) member,
    ⟨s.scanRank false, ?_⟩, ?_, ?_, ?_⟩
  · intro actions t executed calm
    obtain ⟨good, -, length⟩ := (ScanSys.accounts false).run due.calm executed calm
    obtain ⟨more, u, continued, calm', idle, quiet⟩ := (ScanSys.accounts false).exists_run
      (fun u => u.worker = .idle ∧ (false = false → u.scanWork = .idle))
      (fun _ good => good.progress) good
    exact ⟨by omega, more, u, continued, calm', idle, quiet rfl⟩
  · rintro actions t ⟨executed, calm, idle, finished⟩
    obtain ⟨⟨-, place⟩, outputs, -⟩ := (ScanSys.accounts false).run due.calm executed calm
    rw [idle] at place
    rw [to_come, nothing false t idle fun _ => finished, List.append_nil] at outputs
    exact ⟨outputs.symm, (place rfl).1 finished⟩
  · obtain ⟨actions, t, executed, calm, idle, -⟩ := (ScanSys.accounts true).exists_run
      (fun u => u.worker = .idle ∧ (true = false → u.scanWork = .idle))
      (fun _ good => good.progress) due.calm_full
    exact ⟨actions, t, executed, calm, idle⟩
  · rintro actions t ⟨executed, calm, idle⟩
    obtain ⟨-, outputs, -⟩ := (ScanSys.accounts true).run due.calm_full executed calm
    rw [to_come_full, nothing true t idle nofun, List.append_nil] at outputs
    exact outputs.symm

/-- A request is due on six channels, which makes two chunks. -/
def sixDue : ScanSys :=
  { ScanSys.init sixChannels with scanChannel := -1, scanSsid := [65], scanWork := .timer }

theorem partial_scans_eq_full_six : sixDue.Due ∧ sixDue.chanList.length = 6 ∧
    ∃ chunks, sixDue.ScansAgree chunks := by
  have due : sixDue.Due := ⟨rfl, nofun, by decide, rfl⟩
  exact ⟨due, by decide, partial_scans_eq_full due⟩

end Libertas

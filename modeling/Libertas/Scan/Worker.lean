import Libertas.Region
import Libertas.Workqueue
import Libertas.Transition.Basic

/-!
# The scan worker

One work queue with a single thread runs `scan_work` and the association worker,
so `lbs_scan_networks` is never active twice: it scans one chunk of channels for
`lbs_scan_worker`, and all of them when the association worker asks for a full
scan. `lbs_set_scan` runs beside it. The three share `scan_channel`, the SSID
and `scan_work`.

A step is one access to the shared fields, or the code between two of them. The
SSID is written and read as a whole. `log` is not in the source: it lists what
happened, newest entry first, for the statements about runs.
-/

namespace Libertas

/-- `MRVDRV_CHANNELS_PER_SCAN_CMD`. -/
def mrvdrvChannelsPerScanCmd : Int := 4

/-- `MRVDRV_ACTIVE_SCAN_CHAN_TIME` and `MRVDRV_PASSIVE_SCAN_CHAN_TIME`. -/
def mrvdrvScanChanTime : UInt16 := 100

/-- `IW_SCAN_THIS_ESSID`. -/
def iwScanThisEssid : UInt16 := 0x0002

/-- What the channel list is made from. -/
structure ScanRegions extends ChannelTables where
  /-- `connect_status` or `mesh_connect_status` is `LBS_CONNECTED`. -/
  connected : Bool
  /-- The channels of `parsed_region_chan`. -/
  parsedRegionChan : List UInt8
deriving DecidableEq, Repr

/-- `struct chanscanparamset`. The radio type and the minimal time are zero. -/
structure ChanScanParamSet where
  channumber : UInt8
  maxscantime : UInt16
  passivescan : Bool
deriving DecidableEq, Repr

/-- The channels of the regions, and what is left of `parsed_region_chan`. The first scan
clears it for every valid region. -/
def scanRegionLoop (enable11d firstScan : Bool) :
    List RegionChannel → List UInt8 → List ChanScanParamSet × List UInt8
  | [], parsed => ([], parsed)
  | scanregion :: rest, parsed =>
      if scanregion.valid then
        let parsed := if firstScan then [] else parsed
        let chans := scanregion.cfp.map fun cfp =>
          { channumber := cfp.channel.toUInt8, maxscantime := mrvdrvScanChanTime
            passivescan := enable11d && !parsed.contains cfp.channel.toUInt8 }
        let later := scanRegionLoop enable11d firstScan rest parsed
        (chans ++ later.1, later.2)
      else scanRegionLoop enable11d firstScan rest parsed

namespace ScanRegions

/-- All supported channels are scanned before the first connection. -/
def firstScan (regions : ScanRegions) : Bool :=
  regions.enable11d && !regions.connected

/-- `lbs_scan_create_channel_list`. -/
def lbsScanCreateChannelList (regions : ScanRegions) : List ChanScanParamSet × ScanRegions :=
  let table := if regions.firstScan then regions.universalChannel else regions.regionChannel
  let scanned :=
    scanRegionLoop regions.enable11d regions.firstScan table regions.parsedRegionChan
  (scanned.1, { regions with parsedRegionChan := scanned.2 })

/-- The numbers on the channel list. -/
def channels (regions : ScanRegions) : List UInt8 :=
  regions.lbsScanCreateChannelList.1.map (·.channumber)

end ScanRegions

/-- The data of a scan ioctl. -/
structure ScanRequest where
  /-- The length is that of `struct iw_scan_req`. -/
  complete : Bool
  flags : UInt16
  /-- The first `essid_len` bytes of `essid`. -/
  essid : List UInt8
deriving DecidableEq, Repr

/-- The SSID a request asks for; an empty one stands for all networks. -/
def ScanRequest.ssid (req : ScanRequest) : List UInt8 :=
  if req.complete && req.flags &&& iwScanThisEssid ≠ 0 then req.essid else []

/-- The callers of a full scan in the association worker. -/
inductive FullScan
  /-- `lbs_send_specific_ssid_scan` -/
  | specific (ssid : List UInt8)
  /-- `lbs_find_best_network_ssid` -/
  | best
deriving DecidableEq, Repr

/-- The locals of the loop in `lbs_scan_networks`; `currChans` is an offset in `chanList`. -/
structure ScanRun where
  fullScan : Bool
  chanList : List ChanScanParamSet
  currChans : Nat
  chanCount : Int
deriving DecidableEq, Repr

namespace ScanRun

/-- `to_scan`. -/
def toScan (run : ScanRun) : Int :=
  min mrvdrvChannelsPerScanCmd run.chanCount

/-- The numbers of the channels that the next command scans. -/
def chunk (run : ScanRun) : List UInt8 :=
  ((run.chanList.map (·.channumber)).drop run.currChans).take run.toScan.toNat

/-- Behind the channels of one command. -/
def advance (run : ScanRun) : ScanRun :=
  { run with
    currChans := run.currChans + run.toScan.toNat
    chanCount := run.chanCount - run.toScan }

end ScanRun

/-- Where the thread of the work queue stands in `lbs_scan_networks`. -/
inductive ScanPc
  | idle
  /-- The association worker has written the SSID of a full scan. -/
  | asked
  /-- In front of the allocation of the channel list. -/
  | entered (fullScan : Bool)
  /-- The channel list is made, `scan_channel` not yet read. -/
  | listed (fullScan : Bool) (chanList : List ChanScanParamSet)
  /-- At the head of the loop. -/
  | looping (run : ScanRun)
  /-- A command is on its way; its SSID was read. -/
  | commanded (run : ScanRun) (ssid : List UInt8)
  /-- The command has succeeded; `run` is behind its `toScan` channels. -/
  | scanned (run : ScanRun) (toScan : Int)
  /-- `scan_channel` is updated, the next chunk not yet scheduled. -/
  | marked
  /-- At `out2`. -/
  | ending (fullScan : Bool) (channels : List UInt8)
deriving DecidableEq, Repr

/-- Where the process in `lbs_set_scan` stands. -/
inductive SetScanPc
  | idle
  /-- The SSID is written. -/
  | asked
  /-- `scan_work` is pending. -/
  | queued
deriving DecidableEq, Repr

/-- What happened in a run. -/
inductive ScanEvent
  /-- A request wrote its SSID. -/
  | asked (ssid : List UInt8)
  /-- A full scan wrote its SSID. -/
  | fullStart (ssid : List UInt8)
  /-- A command scanned some channels. -/
  | scanned (ssid channels : List UInt8)
  /-- The event `SIOCGIWSCAN` was sent; with the numbers on the channel list. -/
  | completed (channels : List UInt8)
  /-- A full scan returned. -/
  | fullReturn (channels : List UInt8)
deriving DecidableEq, Repr

/-- The part of `struct lbs_private` that scanning uses, and the two threads. -/
structure ScanSys where
  scanChannel : Int
  /-- The first `scan_ssid_len` bytes of `scan_ssid`. -/
  scanSsid : List UInt8
  scanWork : DelayedWork
  surpriseremoved : Bool
  regions : ScanRegions
  worker : ScanPc
  setScan : SetScanPc
  log : List ScanEvent
deriving DecidableEq, Repr

inductive ScannerAction
  /-- The region, the 11d data or the connection changes. -/
  | regulate (regions : ScanRegions)
  | remove
  /-- The timer of `scan_work` expires. -/
  | timer
  /-- `lbs_set_scan` is called, on an interface that runs or does not. -/
  | set (running : Bool) (req : ScanRequest)
  /-- The next step of `lbs_set_scan`. -/
  | setScan
  /-- `scan_work` starts. -/
  | work
  /-- The association worker starts a full scan. -/
  | full (scan : FullScan)
  /-- The next step of `lbs_scan_networks`; `ok` is the outcome of an allocation or a command. -/
  | worker (ok : Bool)
deriving DecidableEq, Repr

namespace ScanSys

/-- Nothing is scanned yet. -/
def init (regions : ScanRegions) : ScanSys :=
  { scanChannel := 0, scanSsid := [], scanWork := .idle, surpriseremoved := false
    regions := regions, worker := .idle, setScan := .idle, log := [] }

/-- `lbs_set_scan` up to the SSID. -/
def lbsSetScan (s : ScanSys) (req : ScanRequest) : ScanSys :=
  { s with scanSsid := req.ssid, setScan := .asked, log := .asked req.ssid :: s.log }

/-- `lbs_set_scan` behind the SSID. -/
def setScanStep (s : ScanSys) : Option ScanSys :=
  match s.setScan with
  | .idle => none
  | .asked => some { s with scanWork := s.scanWork.queueDelayedWork, setScan := .queued }
  | .queued => some { s with scanChannel := -1, setScan := .idle }

/-- The SSID of a full scan is written, and `lbs_scan_networks` is called. -/
def startFull (s : ScanSys) (ssid : List UInt8) : ScanSys :=
  { s with scanSsid := ssid, worker := .asked, log := .fullStart ssid :: s.log }

/-- The caller of a full scan. For an empty SSID there is none. -/
def fullScan (s : ScanSys) : FullScan → ScanSys
  | .specific [] => s
  | .specific ssid => s.startFull ssid
  | .best => s.startFull []

/-- `lbs_scan_networks` returns to the worker. -/
def returns (s : ScanSys) (fullScan : Bool) (channels : List UInt8) : ScanSys :=
  { s with
    worker := .idle
    log := if fullScan then .fullReturn channels :: s.log else s.log }

/-- One step of `lbs_scan_networks`. A negative number of channels is a memory error, and no
step follows it. -/
def lbsScanNetworks (s : ScanSys) (ok : Bool) : Option ScanSys :=
  match s.worker with
  | .idle => none
  | .asked => some { s with scanWork := s.scanWork.cancelDelayedWork, worker := .entered true }
  | .entered fullScan =>
      if ok then
        let (chanList, regions) := s.regions.lbsScanCreateChannelList
        some { s with regions := regions, worker := .listed fullScan chanList }
      else some (s.returns fullScan s.regions.channels)
  | .listed fullScan chanList =>
      let run : ScanRun :=
        { fullScan := fullScan, chanList := chanList, currChans := s.scanChannel.toNat
          chanCount := chanList.length - s.scanChannel.toNat }
      some { s with worker := .looping run }
  | .looping run =>
      if run.chanCount = 0 then
        let channels := run.chanList.map (·.channumber)
        some { s with
          worker := .ending run.fullScan channels
          log := .completed channels :: s.log }
      else if run.chanCount < 0 then none
      else some { s with worker := .commanded run s.scanSsid }
  | .commanded run ssid =>
      if ok then
        some { s with
          worker := .scanned run.advance run.toScan
          log := .scanned ssid run.chunk :: s.log }
      else some { s with worker := .ending run.fullScan (run.chanList.map (·.channumber)) }
  | .scanned run toScan =>
      if run.chanCount ≠ 0 ∧ run.fullScan = false ∧ s.surpriseremoved = false then
        some { s with
          scanChannel := if s.scanChannel < 0 then toScan else s.scanChannel + toScan
          worker := .marked }
      else some { s with worker := .looping run }
  | .marked =>
      some { s with
        scanWork := s.scanWork.cancelDelayedWork.queueDelayedWork
        worker := .idle }
  | .ending fullScan channels => some ({ s with scanChannel := 0 }.returns fullScan channels)

/-- One step of the system. Requests are serialised, and so is the work queue. -/
def step (s : ScanSys) : ScannerAction → Option ScanSys
  | .regulate regions => some { s with regions := regions }
  | .remove => some { s with surpriseremoved := true }
  | .timer =>
      match s.scanWork with
      | .timer => some { s with scanWork := .queued }
      | _ => none
  | .set running req =>
      match s.setScan with
      | .idle => if running then some (s.lbsSetScan req) else some s
      | _ => none
  | .setScan => s.setScanStep
  | .work =>
      match s.worker, s.scanWork with
      | .idle, .queued => some { s with scanWork := .idle, worker := .entered false }
      | _, _ => none
  | .full scan =>
      match s.worker with
      | .idle => some (s.fullScan scan)
      | _ => none
  | .worker ok => s.lbsScanNetworks ok

end ScanSys

/-- Scanning, from any channel tables. -/
def scanner : Machine ScanSys ScannerAction where
  initial s := ∃ regions, s = .init regions
  step := ScanSys.step

end Libertas

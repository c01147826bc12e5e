import Libertas.ByteOrder
import Libertas.Host
import Libertas.Transition.Basic
import Libertas.Transition.Partition

/-!
# The scan table

`scan.c` keeps `MAX_NETWORK_COUNT` descriptors in an array; each is linked into
`network_list` or `network_free_list`. The response to a scan command prunes old
entries and stores the records it carries, and reading the scan results prunes
as well.

The width of `unsigned long`, `HZ`, and the values of `jiffies` that a function
reads are parameters. `interpret` stands for the part of `lbs_process_bss` that
fills a descriptor from the bytes of one record; what the table does depends on
its results alone.
-/

namespace Libertas

abbrev maxNetworkCount : Nat := 128

/-- An index into the array of descriptors. -/
abbrev NetworkId := Fin maxNetworkCount

/-- A value of `jiffies`. -/
abbrev Jiffies (w : Nat) := BitVec w

/-- `time_before(a, b)`: the wrapped difference is negative. -/
def timeBefore {w : Nat} (a b : Jiffies w) : Bool :=
  (a - b).slt 0

/-- `time_after(a, b)`. -/
def timeAfter {w : Nat} (a b : Jiffies w) : Bool :=
  timeBefore b a

/-- `DEFAULT_MAX_SCAN_AGE`. -/
def defaultMaxScanAge {w : Nat} (hz : Jiffies w) : Jiffies w :=
  15 * hz

/-- `struct bss_descriptor`, up to the links of the list. -/
structure BssDescriptor (w : Nat) where
  bssid : List UInt8
  ssid : List UInt8
  ssidLen : UInt8
  capability : UInt16
  rssi : UInt32
  channel : UInt32
  beaconperiod : UInt16
  atimwindow : UInt32
  mode : UInt8
  rates : List UInt8
  lastScanned : Jiffies w
  phyparamset : List UInt8
  ssparamset : List UInt8
  countryinfo : List UInt8
  wpaIe : List UInt8
  wpaIeLen : Nat
  rsnIe : List UInt8
  rsnIeLen : Nat
  mesh : Bool
deriving DecidableEq

/-- A cleared descriptor. -/
def BssDescriptor.zero {w : Nat} : BssDescriptor w :=
  { bssid := List.replicate ethAlen 0, ssid := List.replicate (iwEssidMaxSize + 1) 0, ssidLen := 0
    capability := 0, rssi := 0, channel := 0, beaconperiod := 0, atimwindow := 0, mode := 0
    rates := List.replicate 15 0, lastScanned := 0, phyparamset := List.replicate 7 0
    ssparamset := List.replicate 8 0, countryinfo := List.replicate 254 0
    wpaIe := List.replicate maxWpaIeLen 0, wpaIeLen := 0
    rsnIe := List.replicate maxWpaIeLen 0, rsnIeLen := 0, mesh := false }

/-- `is_same_network`. -/
def isSameNetwork {w : Nat} (src dst : BssDescriptor w) : Bool :=
  src.ssidLen = dst.ssidLen && src.channel = dst.channel && src.bssid = dst.bssid &&
    src.ssid.take src.ssidLen.toNat = dst.ssid.take src.ssidLen.toNat

section SameNetwork

variable {w : Nat} {a b c : BssDescriptor w}

theorem isSameNetwork_iff : isSameNetwork a b = true ↔ a.ssidLen = b.ssidLen ∧
    a.channel = b.channel ∧ a.bssid = b.bssid ∧
    a.ssid.take a.ssidLen.toNat = b.ssid.take b.ssidLen.toNat := by
  simp only [isSameNetwork, Bool.and_eq_true, decide_eq_true_eq]
  constructor
  · rintro ⟨⟨⟨len, channel⟩, bssid⟩, ssid⟩
    exact ⟨len, channel, bssid, len ▸ ssid⟩
  · rintro ⟨len, channel, bssid, ssid⟩
    exact ⟨⟨⟨len, channel⟩, bssid⟩, len ▸ ssid⟩

theorem isSameNetwork_symm (same : isSameNetwork a b = true) : isSameNetwork b a = true := by
  obtain ⟨len, channel, bssid, ssid⟩ := isSameNetwork_iff.mp same
  exact isSameNetwork_iff.mpr ⟨len.symm, channel.symm, bssid.symm, ssid.symm⟩

theorem isSameNetwork_trans (left : isSameNetwork a b = true) (right : isSameNetwork b c = true) :
    isSameNetwork a c = true := by
  obtain ⟨len, channel, bssid, ssid⟩ := isSameNetwork_iff.mp left
  obtain ⟨len', channel', bssid', ssid'⟩ := isSameNetwork_iff.mp right
  exact isSameNetwork_iff.mpr
    ⟨len.trans len', channel.trans channel', bssid.trans bssid', ssid.trans ssid'⟩

end SameNetwork

/-- The descriptors and the two lists that link them. -/
structure ScanTable (w : Nat) where
  networks : NetworkId → BssDescriptor w
  networkList : List NetworkId
  networkFreeList : List NetworkId

namespace ScanTable

variable {w : Nat} (table : ScanTable w) (n : NetworkId) (new : BssDescriptor w)

/-- The table that `lbs_init_adapter` sets up. -/
def init : ScanTable w :=
  { networks := fun _ => .zero, networkList := []
    networkFreeList := List.finRange maxNetworkCount }

/-- The data of a descriptor is replaced. -/
def write : ScanTable w :=
  { table with networks := fun m => if m = n then new else table.networks m }

/-- An entry is moved to the end of `network_free_list` and cleared. -/
def expire : ScanTable w :=
  { table with
    networkList := table.networkList.erase n
    networkFreeList := table.networkFreeList ++ [n] }.write n .zero

/-- The pruning of `lbs_ret_80211_scan`. `now` is the value of `jiffies` when the loop visits an
entry. -/
def prune (hz : Jiffies w) (now : NetworkId → Jiffies w) : ScanTable w :=
  table.networkList.foldl
    (fun table n =>
      let staleTime := (table.networks n).lastScanned + defaultMaxScanAge hz
      if timeBefore (now n) staleTime then table else table.expire n)
    table

/-- The oldest entry so far, after one more was looked at. Of several the first one counts. -/
def older : Option NetworkId → NetworkId
  | none => n
  | some oldest =>
      if (table.networks n).lastScanned < (table.networks oldest).lastScanned then n else oldest

/-- The loop that looks for a record in the scan table: the first entry that is the same network,
and the oldest entry before it. -/
def search : List NetworkId → Option NetworkId → Option NetworkId × Option NetworkId
  | [], oldest => (none, oldest)
  | n :: rest, oldest =>
      if isSameNetwork (table.networks n) new then (some n, oldest)
      else search rest (some (table.older n oldest))

/-- One record is put into the table: over the entry that is the same network, into a free slot,
or over the oldest entry. -/
def store : ScanTable w :=
  match table.search new table.networkList none with
  | (some n, _) => table.write n new
  | (none, oldest) =>
      match table.networkFreeList, oldest with
      | n :: rest, _ =>
          { table with
            networkFreeList := rest, networkList := table.networkList ++ [n] }.write n new
      | [], some n =>
          { table with networkList := table.networkList.erase n ++ [n] }.write n new
      | [], none => table

end ScanTable

/-- How `lbs_process_bss` gets from the bytes of a record to a descriptor; `none` for an error.
It is given the memory from the record on, and the size of the record. -/
abbrev Interpret (w : Nat) := List UInt8 → Nat → Option (BssDescriptor w)

/-- The bytes of the size field in front of a record; it is only there when enough bytes are
left. -/
def sizeFieldLen (bytesleft : Nat) : Nat :=
  if 2 ≤ bytesleft then 2 else 0

/-- `beaconsize` of `lbs_process_bss`. -/
def beaconSize (beaconinfo : List UInt8) (bytesleft : Nat) : Nat :=
  if 2 ≤ bytesleft then (ByteOrder.le16At beaconinfo 0).toNat else 0

/-- `lbs_process_bss` up to the interpretation of the record: the result, the memory behind the
record and the number of bytes left. `now` is the value of `jiffies` at its end. -/
def lbsProcessBss {w : Nat} (interpret : Interpret w) (now : Jiffies w) (beaconinfo : List UInt8)
    (bytesleft : Nat) : Option (BssDescriptor w) × List UInt8 × Nat :=
  let beaconsize := beaconSize beaconinfo bytesleft
  let pos := beaconinfo.drop (sizeFieldLen bytesleft)
  let left := bytesleft - sizeFieldLen bytesleft
  if beaconsize = 0 ∨ beaconsize > left then (none, pos.drop left, 0)
  else
    ((interpret pos beaconsize).map fun bss => { bss with lastScanned := now },
      pos.drop beaconsize, left - beaconsize)

/-- `struct cmd_ds_802_11_scan_rsp`. -/
structure ScanRsp where
  bssdescriptsize : UInt16
  nrSets : UInt8
  bssdescAndTlvbuffer : List UInt8

/-- The readings of `jiffies` while a response is handled: when the pruning visits an entry, and
at the end of each record. -/
structure ScanClock (w : Nat) where
  pruning : NetworkId → Jiffies w
  parsing : Nat → Jiffies w

/-- The records that are parsed successfully, in the order of the response. -/
def parsedRecords {w : Nat} (interpret : Interpret w) (parsing : Nat → Jiffies w) :
    Nat → Nat → List UInt8 → Nat → List (BssDescriptor w)
  | 0, _, _, _ => []
  | sets + 1, idx, bssinfo, bytesleft =>
      if bytesleft = 0 then []
      else
        let (new, bssinfo, bytesleft) := lbsProcessBss interpret (parsing idx) bssinfo bytesleft
        new.toList ++ parsedRecords interpret parsing sets (idx + 1) bssinfo bytesleft

namespace ScanTable

variable {w : Nat}

/-- The loop of `lbs_ret_80211_scan` over the records. -/
def storeLoop (interpret : Interpret w) (parsing : Nat → Jiffies w) :
    Nat → Nat → List UInt8 → Nat → ScanTable w → ScanTable w
  | 0, _, _, _, table => table
  | sets + 1, idx, bssinfo, bytesleft, table =>
      if bytesleft = 0 then table
      else
        let (new, bssinfo, bytesleft) := lbsProcessBss interpret (parsing idx) bssinfo bytesleft
        let table :=
          match new with
          | none => table
          | some new => table.store new
        storeLoop interpret parsing sets (idx + 1) bssinfo bytesleft table

/-- `lbs_ret_80211_scan`: the table and the return value. -/
def lbsRet80211Scan (table : ScanTable w) (hz : Jiffies w) (interpret : Interpret w)
    (clock : ScanClock w) (scanresp : ScanRsp) : ScanTable w × Int :=
  let pruned := table.prune hz clock.pruning
  if scanresp.nrSets.toNat > maxNetworkCount then (pruned, -1)
  else
    (pruned.storeLoop interpret clock.parsing scanresp.nrSets.toNat 0
      scanresp.bssdescAndTlvbuffer scanresp.bssdescriptsize.toNat, 0)

end ScanTable

/-- What `lbs_get_scan` depends on besides the table. -/
structure GetScan (w : Nat) where
  /-- `scan_channel` is not zero. -/
  scanning : Bool
  /-- The ioctl was made on the mesh device. -/
  onMesh : Bool
  /-- The size of the caller's buffer. -/
  length : Nat
  /-- `lbs_translate_scan`: from the position in the buffer to the one behind the entry. -/
  translate : BssDescriptor w → Nat → Option Nat
  /-- The value of `jiffies` when the loop visits an entry. -/
  now : NetworkId → Jiffies w

/-- The outcome of `lbs_get_scan`: the length of the report, or an error. -/
inductive ScanReport
  | eagain
  | e2big
  | length (ev : Nat)
deriving DecidableEq, Repr

namespace ScanTable

variable {w : Nat}

/-- The loop of `lbs_get_scan`. -/
def reportLoop (hz : Jiffies w) (ioctl : GetScan w) :
    List NetworkId → Nat → ScanTable w → ScanTable w × ScanReport
  | [], ev, table => (table, .length ev)
  | n :: rest, ev, table =>
      if ioctl.length < ev + 128 then (table, .e2big)
      else if ioctl.onMesh && !(table.networks n).mesh then reportLoop hz ioctl rest ev table
      else
        let staleTime := (table.networks n).lastScanned + defaultMaxScanAge hz
        if timeAfter (ioctl.now n) staleTime then reportLoop hz ioctl rest ev (table.expire n)
        else
          match ioctl.translate (table.networks n) ev with
          | none => reportLoop hz ioctl rest ev table
          | some next => reportLoop hz ioctl rest next table

/-- `lbs_get_scan`. -/
def lbsGetScan (table : ScanTable w) (hz : Jiffies w) (ioctl : GetScan w) :
    ScanTable w × ScanReport :=
  if ioctl.scanning then (table, .eagain)
  else reportLoop hz ioctl table.networkList 0 table

end ScanTable

/-- The operations on the scan table. -/
inductive ScanAction (w : Nat)
  /-- A scan response is handled. -/
  | response (interpret : Interpret w) (clock : ScanClock w) (scanresp : ScanRsp)
  /-- The scan results are read. -/
  | get (ioctl : GetScan w)

/-- The scan table from `lbs_init_adapter` on. -/
def scanTable {w : Nat} (hz : Jiffies w) : Machine (ScanTable w) (ScanAction w) where
  initial table := table = .init
  step table action :=
    match action with
    | .response interpret clock scanresp =>
        some (table.lbsRet80211Scan hz interpret clock scanresp).1
    | .get ioctl => some (table.lbsGetScan hz ioctl).1

end Libertas

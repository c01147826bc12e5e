import Libertas.Scan.Bounds
import Libertas.CmdResp.Delivered

/-!
# What is read of a scan response

The records are taken from `bssdescriptsize` bytes behind the fixed part of the
response. Neither `lbs_ret_80211_scan` nor `lbs_process_bss` compares that number,
or the number of records, with the size in the header of the response.

Positions count from the beginning of the response, and the descriptions begin at
11. The memory behind the response is the rest of the slot it was delivered to.
-/

namespace Libertas

open ByteOrder

/-- A stretch, seen from an earlier position. -/
def Extent.shift (distance : Nat) (extent : Extent) : Extent :=
  { extent with offset := distance + extent.offset }

/-- What `lbs_process_bss` reads of the memory at a position of the response. -/
def lbsProcessBssReads (w base : Nat) (beaconinfo : List UInt8) (bytesleft : Nat) : List Extent :=
  let beaconsize := beaconSize beaconinfo bytesleft
  let pos := beaconinfo.drop (sizeFieldLen bytesleft)
  let left := bytesleft - sizeFieldLen bytesleft
  { offset := base, count := sizeFieldLen bytesleft } ::
    if beaconsize = 0 ∨ beaconsize > left then []
    else
      (processRecord (w := w) pos beaconsize).1.reads.map
        (Extent.shift (base + sizeFieldLen bytesleft))

/-- What the loop of `lbs_ret_80211_scan` reads as description data. The position moves with the
number of bytes left. -/
def readsLoop {w : Nat} (parsing : Nat → Jiffies w) :
    Nat → Nat → Nat → List UInt8 → Nat → List Extent
  | 0, _, _, _, _ => []
  | sets + 1, idx, base, bssinfo, bytesleft =>
      if bytesleft = 0 then []
      else
        let (_, nextinfo, nextleft) :=
          lbsProcessBss interpretRecord (parsing idx) bssinfo bytesleft
        lbsProcessBssReads w base bssinfo bytesleft ++
          readsLoop parsing sets (idx + 1) (base + (bytesleft - nextleft)) nextinfo nextleft

/-- What `lbs_ret_80211_scan` reads as description data, of the bytes of the slot from the
response on. -/
def scanReads {w : Nat} (parsing : Nat → Jiffies w) (resp : List UInt8) : List Extent :=
  let scanresp := scanRspAt resp
  if scanresp.nrSets.toNat > maxNetworkCount then []
  else
    readsLoop parsing scanresp.nrSets.toNat 0 11 scanresp.bssdescAndTlvbuffer
      scanresp.bssdescriptsize.toNat

/-- A record that the loop comes to: the position of its size field, what is behind the size
field, the announced size, and how many bytes are left for it. -/
structure ScanRecord where
  pos : Nat
  mem : List UInt8
  size : Nat
  left : Nat

/-- A record is looked at. -/
def ScanRecord.valid (record : ScanRecord) : Bool :=
  0 < record.size && record.size ≤ record.left

/-- The records that the loop comes to. -/
def recordsFrom : Nat → Nat → List UInt8 → Nat → List ScanRecord
  | 0, _, _, _ => []
  | sets + 1, pos, bssinfo, bytesleft =>
      if bytesleft < 2 then []
      else
        let record : ScanRecord :=
          { pos := pos, mem := bssinfo.drop 2, size := (le16At bssinfo 0).toNat
            left := bytesleft - 2 }
        record ::
          if record.valid then
            recordsFrom sets (pos + 2 + record.size) (record.mem.drop record.size)
              (record.left - record.size)
          else []

/-- The records of a response. -/
def scanRecords (resp : List UInt8) : List ScanRecord :=
  if (byteAt resp 10).toNat > maxNetworkCount then []
  else recordsFrom (byteAt resp 10).toNat 11 (resp.drop 11) (le16At resp 8).toNat

/-- A bound covers what is used of a record: its size field, and of a record that is looked at
the BSSID, the fixed part, and the elements up to the last byte that is used of them. -/
def ScanRecord.Covered (bound : Nat) (record : ScanRecord) : Prop :=
  record.pos + 2 ≤ bound ∧
    (record.valid = true →
      record.pos + 2 + ethAlen ≤ bound ∧
        (ethAlen + 12 ≤ record.size → record.pos + 2 + 19 ≤ bound) ∧
        ∀ position ∈ usedEnds record.mem record.size none (recordHeaders record.mem record.size),
          record.pos + 2 + position ≤ bound)

instance (bound : Nat) (record : ScanRecord) : Decidable (record.Covered bound) := by
  unfold ScanRecord.Covered
  infer_instance

section Reads

variable {w bound : Nat}

theorem allWithin_append {extents extents' : List Extent} :
    AllWithin bound (extents ++ extents') ↔ AllWithin bound extents ∧ AllWithin bound extents' :=
  List.forall_mem_append

theorem allWithin_shift {distance : Nat} {extents : List Extent} (reaches : distance ≤ bound) :
    AllWithin bound (extents.map (Extent.shift distance)) ↔
      AllWithin (bound - distance) extents := by
  rw [AllWithin]
  rw [List.forall_mem_map]
  refine forall₂_congr fun extent _ => ?_
  unfold Extent.Within Extent.shift
  dsimp only
  omega

/-- What is read of one record is covered if and only if the record is. -/
theorem allWithin_processBss {base bytesleft : Nat} {beaconinfo : List UInt8}
    (field : 2 ≤ bytesleft) :
    AllWithin bound (lbsProcessBssReads w base beaconinfo bytesleft) ↔
      ScanRecord.Covered bound
        { pos := base, mem := beaconinfo.drop 2, size := (le16At beaconinfo 0).toNat
          left := bytesleft - 2 } := by
  rw [lbsProcessBssReads, ScanRecord.Covered, ScanRecord.valid, beaconSize, sizeFieldLen]
  dsimp only
  rw [if_pos field, if_pos field, allWithin_cons]
  generalize (le16At beaconinfo 0).toNat = size
  have fieldRead : (2 = 0 ∨ base + 2 ≤ bound) ↔ base + 2 ≤ bound := by omega
  rw [fieldRead]
  refine and_congr_right fun reaches => ?_
  split
  · rename_i bad
    have : ¬ (0 < size ∧ size ≤ bytesleft - 2) := by omega
    simp [allWithin_nil, this]
  · rename_i good
    have valid : (decide (0 < size) && decide (size ≤ bytesleft - 2)) = true := by
      simp
      omega
    have nonempty : size ≠ 0 := fun empty => good (Or.inl empty)
    rw [allWithin_shift reaches, BeaconParse.readsWithin_processRecord, valid]
    have bssid : (size = 0 ∨ ethAlen ≤ bound - (base + 2)) ↔ base + 2 + ethAlen ≤ bound := by
      rw [ethAlen]
      omega
    have fixedPart : (ethAlen + 12 ≤ size → 19 ≤ bound - (base + 2)) ↔
        (ethAlen + 12 ≤ size → base + 2 + 19 ≤ bound) :=
      imp_congr_right fun _ => by omega
    have ends : (∀ position ∈ usedEnds (beaconinfo.drop 2) size none
          (recordHeaders (beaconinfo.drop 2) size), position ≤ bound - (base + 2)) ↔
        ∀ position ∈ usedEnds (beaconinfo.drop 2) size none
          (recordHeaders (beaconinfo.drop 2) size), base + 2 + position ≤ bound :=
      forall₂_congr fun position _ => by omega
    rw [bssid, fixedPart, ends]
    simp only [true_implies]

/-- Nothing is read when no bytes are left. -/
theorem readsLoop_done (parsing : Nat → Jiffies w) (sets idx base : Nat) (bssinfo : List UInt8) :
    readsLoop parsing sets idx base bssinfo 0 = [] := by
  cases sets <;> rfl

/-- What the loop reads is covered if and only if the records it comes to are. -/
theorem allWithin_readsLoop (parsing : Nat → Jiffies w) (sets : Nat) :
    ∀ (idx base : Nat) (bssinfo : List UInt8) (bytesleft : Nat),
      AllWithin bound (readsLoop parsing sets idx base bssinfo bytesleft) ↔
        ∀ record ∈ recordsFrom sets base bssinfo bytesleft, record.Covered bound := by
  induction sets with
  | zero =>
      intro idx base bssinfo bytesleft
      simp [readsLoop, recordsFrom, allWithin_nil]
  | succ sets ih =>
      intro idx base bssinfo bytesleft
      rw [readsLoop, recordsFrom]
      by_cases field : 2 ≤ bytesleft
      · have some : bytesleft ≠ 0 := by omega
        rw [if_neg some, if_neg (Nat.not_lt.mpr field)]
        dsimp only
        rw [List.forall_mem_cons, allWithin_append, allWithin_processBss field]
        refine and_congr_right fun _ => ?_
        unfold lbsProcessBss beaconSize sizeFieldLen ScanRecord.valid
        dsimp only
        rw [if_pos field, if_pos field]
        generalize (le16At bssinfo 0).toNat = size
        split
        · rename_i bad
          have : ¬ (0 < size ∧ size ≤ bytesleft - 2) := by omega
          simp [readsLoop_done, allWithin_nil, this]
        · rename_i good
          have valid : (decide (0 < size) && decide (size ≤ bytesleft - 2)) = true := by
            simp
            omega
          have moved : base + (bytesleft - (bytesleft - 2 - size)) = base + 2 + size := by omega
          rw [valid, if_pos rfl]
          dsimp only
          rw [moved]
          exact ih _ _ _ _
      · rw [if_pos (Nat.lt_of_not_le field)]
        split
        · simp [allWithin_nil]
        · -- One byte is left: there is no size field, and the byte is skipped.
          have skipped : lbsProcessBss (w := w) interpretRecord (parsing idx) bssinfo bytesleft =
              (none, (bssinfo.drop 0).drop bytesleft, 0) := by
            simp [lbsProcessBss, beaconSize, sizeFieldLen, field]
          rw [skipped]
          dsimp only
          rw [readsLoop_done]
          simp [lbsProcessBssReads, beaconSize, sizeFieldLen, field, AllWithin, Extent.Within]

end Reads

/-- Everything that is read as description data is inside the announced size of the response, if
and only if that size covers what is used of each record. -/
theorem scanReads_inside_iff {w : Nat} (parsing : Nat → Jiffies w) (resp : List UInt8) :
    (∀ extent ∈ scanReads parsing resp, extent.Within (respSize resp).toNat) ↔
      ∀ record ∈ scanRecords resp, record.Covered (respSize resp).toNat := by
  rw [scanReads, scanRecords, scanRspAt]
  dsimp only
  split
  · simp
  · exact allWithin_readsLoop parsing _ _ _ _ _

/-- Records lie within the bytes that the loop was given. -/
theorem left_of_mem (sets : Nat) :
    ∀ (pos : Nat) (bssinfo : List UInt8) (bytesleft : Nat),
      ∀ record ∈ recordsFrom sets pos bssinfo bytesleft,
        record.pos + 2 + record.left ≤ pos + bytesleft := by
  induction sets with
  | zero => exact fun _ _ _ _ member => nomatch member
  | succ sets ih =>
      intro pos bssinfo bytesleft record member
      rw [recordsFrom] at member
      split at member
      · cases member
      · rename_i field
        dsimp only at member
        rcases List.mem_cons.mp member with rfl | later
        · show pos + 2 + (bytesleft - 2) ≤ pos + bytesleft
          omega
        · split at later
          · rename_i valid
            have inside := ih _ _ _ _ later
            rw [ScanRecord.valid] at valid
            rw [Bool.and_eq_true, decide_eq_true_eq, decide_eq_true_eq] at valid
            dsimp only at inside valid
            omega
          · cases later

/-- A response is read inside its announced size when that size covers the announced size of the
descriptions, and every record is sound. -/
theorem covered_of_sound {resp : List UInt8}
    (sized : 11 + (le16At resp 8).toNat ≤ (respSize resp).toNat)
    (sound : ∀ record ∈ scanRecords resp, record.valid = true →
      RecordSound record.mem record.size) :
    ∀ record ∈ scanRecords resp, record.Covered (respSize resp).toNat := by
  intro record member
  have inside : record.pos + 2 + record.left ≤ 11 + (le16At resp 8).toNat := by
    rw [scanRecords] at member
    split at member
    · cases member
    · exact left_of_mem _ _ _ _ _ member
  refine ⟨by omega, fun valid => ?_⟩
  have whole := sound record member valid
  rw [ScanRecord.valid] at valid
  rw [Bool.and_eq_true, decide_eq_true_eq, decide_eq_true_eq] at valid
  have bssid := whole.1
  have odd := whole.2.1
  refine ⟨by omega, fun long => ?_, fun position used => ?_⟩
  · rw [ethAlen] at long
    omega
  · have := usedEnds_of_sound whole used
    omega

/-- A response of 11 bytes that announces one record of 21 bytes, with the size field. -/
theorem scanReads_leave_response :
    ¬ ∀ extent ∈ scanReads (w := 32) (fun _ => 0)
        ([6, 0x80, 11, 0, 1, 0, 0, 0, 21, 0, 1] ++ 19 :: List.replicate 20 0),
      extent.Within
        (respSize ([6, 0x80, 11, 0, 1, 0, 0, 0, 21, 0, 1] ++ 19 :: List.replicate 20 0)).toNat := by
  decide +kernel

end Libertas

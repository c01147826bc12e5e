import Libertas.Scan.Table

/-!
# The records of a scan response

`lbs_process_bss` moves the pointer and the counter of its caller behind a record
before it looks at the record, so an error in a record does not hide the next one.

Here the counter is the signed integer of the source, and the pointer is an offset
from the first record on.
-/

namespace Libertas

open ByteOrder

/-- The pointer and the counter that `lbs_process_bss` is given. -/
structure BssCursor where
  pbeaconinfo : Int
  bytesleft : Int
deriving DecidableEq, Repr

/-- Where a record is parsed, and its size. -/
structure BssExtent where
  pos : Int
  size : Nat
deriving DecidableEq, Repr

namespace BssCursor

variable (mem : List UInt8) (cursor : BssCursor)

/-- There is a size field. The comparison is unsigned, so a negative counter is large. -/
def hasSize : Prop :=
  cursor.bytesleft < 0 ∨ 2 ≤ cursor.bytesleft

instance : Decidable cursor.hasSize := by
  unfold hasSize
  infer_instance

/-- `beaconsize`. -/
def beaconsize : UInt16 :=
  if cursor.hasSize then le16At mem cursor.pbeaconinfo.toNat else 0

/-- Behind the size field. -/
def behindSize : BssCursor :=
  if cursor.hasSize then
    { pbeaconinfo := cursor.pbeaconinfo + 2, bytesleft := cursor.bytesleft - 2 }
  else cursor

/-- What `lbs_process_bss` does with the pointer and the counter, and the record that it parses.
What the parsing finds has no influence on either. -/
def process : BssCursor × Option BssExtent :=
  let beaconsize := cursor.beaconsize mem
  let behind := cursor.behindSize
  if beaconsize = 0 ∨ beaconsize.toNat > behind.bytesleft then
    ({ pbeaconinfo := behind.pbeaconinfo + behind.bytesleft, bytesleft := 0 }, none)
  else
    ({ pbeaconinfo := behind.pbeaconinfo + beaconsize.toNat
       bytesleft := behind.bytesleft - beaconsize.toNat },
      some { pos := behind.pbeaconinfo, size := beaconsize.toNat })

/-- What the iterations of the loop in `lbs_ret_80211_scan` parse. -/
def iterations : Nat → BssCursor → List (Option BssExtent)
  | 0, _ => []
  | sets + 1, cursor =>
      if cursor.bytesleft = 0 then []
      else
        let (next, record) := cursor.process mem
        record :: iterations sets next

end BssCursor

/-- A record in a response; its length fits into the size field. -/
structure BssRecord where
  bytes : List UInt8
  nonempty : bytes ≠ []
  short : bytes.length < 2 ^ 16

namespace BssRecord

/-- A record behind its size field. -/
def framed (record : BssRecord) : List UInt8 :=
  le16Bytes (UInt16.ofNat record.bytes.length) ++ record.bytes

/-- The description data of a response. -/
def encode (records : List BssRecord) : List UInt8 :=
  records.flatMap framed

/-- Where the records are in it. -/
def extents : Int → List BssRecord → List BssExtent
  | _, [] => []
  | pos, record :: rest =>
      { pos := pos + 2, size := record.bytes.length } ::
        extents (pos + 2 + record.bytes.length) rest

end BssRecord

section Process

variable (mem : List UInt8) (cursor : BssCursor)

/-- The pointer moves by as much as the counter goes down. -/
theorem process_in_step :
    (cursor.process mem).1.pbeaconinfo - cursor.pbeaconinfo =
      cursor.bytesleft - (cursor.process mem).1.bytesleft := by
  unfold BssCursor.process BssCursor.behindSize
  by_cases sized : cursor.hasSize
  · rw [if_pos sized]
    dsimp only
    split <;> simp only <;> omega
  · rw [if_neg sized]
    dsimp only
    split <;> simp only <;> omega

/-- The counter does not become negative. -/
theorem process_nonneg : 0 ≤ (cursor.process mem).1.bytesleft := by
  unfold BssCursor.process
  dsimp only
  split
  · exact Int.le_refl 0
  · simp only
    omega

/-- A size that is zero or too large consumes what is left. -/
theorem process_consumes (bad : cursor.beaconsize mem = 0 ∨
      (cursor.beaconsize mem).toNat > cursor.behindSize.bytesleft) :
    (cursor.process mem).1.bytesleft = 0 ∧ (cursor.process mem).2 = none := by
  rw [BssCursor.process]
  rw [if_pos bad]
  exact ⟨rfl, rfl⟩

/-- Every iteration consumes something. -/
theorem process_lowers (left : 0 < cursor.bytesleft) :
    (cursor.process mem).1.bytesleft < cursor.bytesleft := by
  have behind : cursor.behindSize.bytesleft ≤ cursor.bytesleft := by
    rw [BssCursor.behindSize]
    split
    · simp only
      omega
    · exact Int.le_refl _
  unfold BssCursor.process
  dsimp only
  split
  · exact left
  · rename_i good
    have some_size : (cursor.beaconsize mem).toNat ≠ 0 := by
      intro zero
      exact good (.inl (UInt16.toNat_inj.mp zero))
    simp only
    omega

end Process

section Records

variable {mem rest : List UInt8}

theorem BssRecord.toNat_length (record : BssRecord) :
    (UInt16.ofNat record.bytes.length).toNat = record.bytes.length :=
  UInt16.toNat_ofNat_of_lt' record.short

theorem BssRecord.length_framed (record : BssRecord) :
    record.framed.length = 2 + record.bytes.length := by
  rw [framed, List.length_append]
  rfl

/-- In front of a record, exactly this record is parsed, and the cursor moves behind it. -/
theorem process_framed (record : BssRecord) (pos : Nat) (left : Nat)
    (there : mem.drop pos = record.framed ++ rest) (fits : record.framed.length ≤ left) :
    ({ pbeaconinfo := pos, bytesleft := left } : BssCursor).process mem =
      ({ pbeaconinfo := pos + 2 + record.bytes.length
         bytesleft := left - record.framed.length },
        some { pos := pos + 2, size := record.bytes.length }) := by
  have framed := record.length_framed
  have filled : record.bytes.length ≠ 0 :=
    fun none => record.nonempty (List.eq_nil_of_length_eq_zero none)
  have sized : ({ pbeaconinfo := pos, bytesleft := left } : BssCursor).hasSize :=
    .inr (by simp only; omega)
  have size : ({ pbeaconinfo := pos, bytesleft := left } : BssCursor).beaconsize mem =
      UInt16.ofNat record.bytes.length := by
    rw [BssCursor.beaconsize]
    rw [if_pos sized]
    have shifted : le16At mem pos = le16At (mem.drop pos) 0 := by
      simp [le16At, byteAt_drop]
    show le16At mem pos = _
    rw [shifted, there, BssRecord.framed, List.append_assoc, le16At_le16Bytes]
  rw [BssCursor.process, BssCursor.behindSize]
  rw [size, if_pos sized]
  simp only [record.toNat_length]
  rw [if_neg]
  · congr 2
    omega
  · rintro (zero | long)
    · exact filled (by rw [← record.toNat_length, zero]; rfl)
    · omega

/-- The iterations parse the records, one after the other. -/
theorem iterations_encode (records : List BssRecord) (sets pos : Nat)
    (there : mem.drop pos = BssRecord.encode records ++ rest) :
    BssCursor.iterations mem sets
        { pbeaconinfo := pos, bytesleft := (BssRecord.encode records).length } =
      ((BssRecord.extents pos records).take sets).map some := by
  induction records generalizing sets pos with
  | nil => cases sets <;> rfl
  | cons record records ih =>
      cases sets with
      | zero => rfl
      | succ sets =>
          have split : BssRecord.encode (record :: records) =
              record.framed ++ BssRecord.encode records := rfl
          have framed := record.length_framed
          rw [split, List.append_assoc] at there
          have parsed := process_framed record pos (BssRecord.encode (record :: records)).length
            there (by rw [split, List.length_append]; omega)
          have behind : mem.drop (pos + 2 + record.bytes.length) =
              BssRecord.encode records ++ rest := by
            rw [Nat.add_assoc, ← framed, ← List.drop_drop, there, List.drop_left]
          have later := ih sets (pos + 2 + record.bytes.length) behind
          have total : (BssRecord.encode (record :: records)).length =
              record.framed.length + (BssRecord.encode records).length := by
            rw [split, List.length_append]
          have remaining : ((BssRecord.encode (record :: records)).length : Int) -
              record.framed.length = (BssRecord.encode records).length := by
            omega
          rw [BssCursor.iterations, if_neg (by simp only; omega), parsed]
          simp only [BssRecord.extents, List.take_succ_cons, List.map_cons]
          rw [remaining]
          exact congrArg _ (by exact_mod_cast later)

end Records

section Table

variable {w : Nat} (interpret : Interpret w) (mem : List UInt8)

/-- What the scan table takes from a record. -/
def recordAt (now : Jiffies w) (record : Option BssExtent) : Option (BssDescriptor w) :=
  record.bind fun extent =>
    (interpret (mem.drop extent.pos.toNat) extent.size).map fun bss =>
      { bss with lastScanned := now }

/-- The scan table is given the same records. -/
theorem lbsProcessBss_cursor (now : Jiffies w) (pos left : Nat) :
    lbsProcessBss interpret now (mem.drop pos) left =
      let next := ({ pbeaconinfo := pos, bytesleft := left } : BssCursor).process mem
      (recordAt interpret mem now next.2, mem.drop next.1.pbeaconinfo.toNat,
        next.1.bytesleft.toNat) := by
  have shifted : le16At (mem.drop pos) 0 = le16At mem pos := by
    simp [le16At, byteAt_drop]
  unfold lbsProcessBss BssCursor.process BssCursor.behindSize beaconSize sizeFieldLen
    BssCursor.beaconsize
  by_cases two : 2 ≤ left
  · have sized : ({ pbeaconinfo := pos, bytesleft := left } : BssCursor).hasSize :=
      .inr (by simp only; omega)
    simp only [if_pos two, if_pos sized, shifted, Int.toNat_natCast]
    by_cases bad : (le16At mem pos).toNat = 0 ∨ (le16At mem pos).toNat > left - 2
    · have bad' : le16At mem pos = 0 ∨ ((le16At mem pos).toNat : Int) > (left : Int) - 2 := by
        refine bad.imp (fun zero => UInt16.toNat_inj.mp zero) fun long => ?_
        omega
      rw [if_pos bad, if_pos bad']
      refine Prod.ext rfl (Prod.ext ?_ rfl)
      rw [List.drop_drop]
      simp only
      rw [List.drop_drop]
      congr 1
      omega
    · have good' : ¬ (le16At mem pos = 0 ∨ ((le16At mem pos).toNat : Int) > (left : Int) - 2) := by
        refine mt (fun bad' => ?_) bad
        refine bad'.imp (fun zero => by rw [zero]; rfl) fun long => ?_
        omega
      rw [if_neg bad, if_neg good', List.drop_drop, List.drop_drop]
      refine Prod.ext ?_ (Prod.ext ?_ ?_)
      · simp only [recordAt, Option.bind_some]
        congr 2
      · simp only
        congr 1
      · simp only
        omega
  · have unsized : ¬ ({ pbeaconinfo := pos, bytesleft := left } : BssCursor).hasSize := by
      rw [BssCursor.hasSize]
      simp only
      omega
    simp only [if_neg two, if_neg unsized, true_or, if_true, List.drop_drop]
    refine Prod.ext rfl (Prod.ext ?_ rfl)
    simp only
    congr 1

/-- The records that the scan table is given are those of the iterations. -/
theorem parsedRecords_eq (parsing : Nat → Jiffies w) (sets idx pos left : Nat) :
    parsedRecords interpret parsing sets idx (mem.drop pos) left =
      ((BssCursor.iterations mem sets { pbeaconinfo := pos, bytesleft := left }).zipIdx
        idx).flatMap fun record => (recordAt interpret mem (parsing record.2) record.1).toList := by
  induction sets generalizing idx pos left with
  | zero => rfl
  | succ sets ih =>
      rw [parsedRecords, BssCursor.iterations]
      by_cases done : left = 0
      · rw [if_pos done, if_pos (by simp only; omega)]
        rfl
      · rw [if_neg done, if_neg (by simp only; omega)]
        let cursor : BssCursor := { pbeaconinfo := pos, bytesleft := left }
        have inStep := process_in_step mem cursor
        have lower := process_lowers mem cursor (by show (0 : Int) < left; omega)
        have nonneg := process_nonneg mem cursor
        have next : ({ pbeaconinfo := (cursor.process mem).1.pbeaconinfo.toNat
                       bytesleft := (cursor.process mem).1.bytesleft.toNat } : BssCursor) =
            (cursor.process mem).1 := by
          have here : cursor.pbeaconinfo = pos := rfl
          have count : cursor.bytesleft = left := rfl
          rw [here, count] at inStep
          rw [count] at lower
          rw [Int.toNat_of_nonneg nonneg, Int.toNat_of_nonneg (by omega)]
        have later := ih (idx + 1) (cursor.process mem).1.pbeaconinfo.toNat
          (cursor.process mem).1.bytesleft.toNat
        rw [next] at later
        rw [lbsProcessBss_cursor]
        simp only
        rw [later]
        rfl

end Table

/-- After every call of `lbs_process_bss` the pointer has moved by as much as the counter went
down, the counter is not negative, and a size that is zero or too large has consumed what was left.
So the iterations of the loop parse exactly the records, in their order. -/
theorem scan_records_framed :
    (∀ (mem : List UInt8) (pos : Int) (left : Nat),
      let cursor : BssCursor := { pbeaconinfo := pos, bytesleft := left }
      let next := (cursor.process mem).1
      next.pbeaconinfo - pos = left - next.bytesleft ∧ 0 ≤ next.bytesleft ∧
        (cursor.beaconsize mem = 0 ∨ (cursor.beaconsize mem).toNat > cursor.behindSize.bytesleft →
          next.bytesleft = 0)) ∧
      ∀ (records : List BssRecord) (rest : List UInt8) (sets : Nat),
        BssCursor.iterations (BssRecord.encode records ++ rest) sets
            { pbeaconinfo := 0, bytesleft := (BssRecord.encode records).length } =
          ((BssRecord.extents 0 records).take sets).map some := by
  constructor
  · intro mem pos left cursor next
    exact ⟨process_in_step mem cursor, process_nonneg mem cursor,
      fun bad => (process_consumes mem cursor bad).1⟩
  · intro records rest sets
    exact iterations_encode records sets 0 rfl

end Libertas

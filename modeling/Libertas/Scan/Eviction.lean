import Libertas.Scan.Stored

/-!
# The entry that makes room

When the scan table is full, a new network replaces the entry with the smallest time
stamp. The time stamps are values of `jiffies`, which wraps around, and the pruning
compares them with `time_before`. The search compares them as numbers.
-/

namespace Libertas

section Clock

variable {w : Nat} {now a b : Jiffies w}

/-- The time since a value of `jiffies`. -/
def elapsed (now stamp : Jiffies w) : Nat :=
  (now - stamp).toNat

/-- A value of `jiffies` is younger than half the range of the counter. -/
def Recent (now stamp : Jiffies w) : Prop :=
  2 * elapsed now stamp < 2 ^ w

instance (now stamp : Jiffies w) : Decidable (Recent now stamp) := by
  unfold Recent
  infer_instance

/-- `time_before` orders recent values by their age. -/
theorem timeBefore_iff_elapsed (recentA : Recent now a) (recentB : Recent now b) :
    timeBefore a b = true ↔ elapsed now b < elapsed now a := by
  rw [Recent] at recentA recentB
  unfold elapsed at *
  have same : a - b = (now - b) - (now - a) := by grind
  show (a - b).slt 0#w = true ↔ _
  rw [same, BitVec.slt_zero_iff_msb_cond, BitVec.msb_eq_true_iff_two_mul_ge]
  by_cases older : now - b < now - a
  · have difference := BitVec.toNat_sub_of_lt older
    rw [BitVec.lt_def] at older
    omega
  · have difference := BitVec.toNat_sub_of_le (BitVec.not_lt.mp older)
    rw [BitVec.lt_def] at older
    omega

/-- On the same side of the wrap, the numbers are ordered like the times. -/
theorem elapsed_le_of_le (side : b ≤ now ∨ now < a) (less : a ≤ b) :
    elapsed now b ≤ elapsed now a := by
  have numbers := BitVec.le_def.mp less
  unfold elapsed
  rcases side with after | before
  · rw [BitVec.toNat_sub_of_le after, BitVec.toNat_sub_of_le (BitVec.le_trans less after)]
    omega
  · have before' : now < b := by
      rw [BitVec.lt_def] at *
      omega
    rw [BitVec.toNat_sub_of_lt before, BitVec.toNat_sub_of_lt before']
    omega

/-- A value from before the wrap is older than one from behind it. -/
theorem elapsed_lt_of_wrapped (after : a ≤ now) (before : now < b) :
    elapsed now a < elapsed now b := by
  have bound := b.isLt
  have numbers := BitVec.lt_def.mp before
  unfold elapsed
  rw [BitVec.toNat_sub_of_le after, BitVec.toNat_sub_of_lt before]
  omega

end Clock

namespace ScanTable

variable {w : Nat} {table : ScanTable w} {new : BssDescriptor w} {now : Jiffies w}

/-- The entry that makes room for a new network. -/
def Evicts (table : ScanTable w) (new : BssDescriptor w) (n : NetworkId) : Prop :=
  n ∈ table.networkList ∧
    table.store new = { table with networkList := table.networkList.erase n ++ [n] }.write n new

/-- The time stamps are on one side of the wrap. -/
def Unwrapped (table : ScanTable w) (now : Jiffies w) : Prop :=
  (∀ n ∈ table.networkList, table.age n ≤ now) ∨ ∀ n ∈ table.networkList, now < table.age n

/-- In a full table, an entry with the smallest time stamp makes room. -/
theorem exists_evicts (full : table.networkFreeList = []) (nonempty : table.networkList ≠ [])
    (fresh : ∀ n ∈ table.networkList, isSameNetwork (table.networks n) new = false) :
    ∃ n, table.Evicts new n ∧ ∀ m ∈ table.networkList, table.age n ≤ table.age m := by
  cases searched : table.search new table.networkList none with
  | mk found oldest =>
      cases found with
      | some n =>
          obtain ⟨listed, same⟩ := search_found (congrArg Prod.fst searched)
          rw [fresh n listed] at same
          cases same
      | none =>
          obtain ⟨n, chosen, listed, smallest⟩ := search_missed_oldest searched nonempty
          refine ⟨n, ⟨listed, ?_⟩, smallest⟩
          rw [chosen] at searched
          simp only [store, searched, full]

/-- The entry at the end of the list is the one that made room. -/
theorem Evicts.unique {n m : NetworkId} (left : table.Evicts new n) (right : table.Evicts new m) :
    n = m := by
  have lists := congrArg networkList (left.2.symm.trans right.2)
  exact (List.append_inj' lists rfl).2 |> List.singleton_inj.mp

end ScanTable

/-- The entry that makes room for a new network is one of the earliest in the order of
`time_before` if and only if the time stamps of the table are on one side of the wrap. -/
theorem eviction_earliest_iff {w : Nat} (table : ScanTable w) (new : BssDescriptor w)
    (now : Jiffies w) (full : table.networkFreeList = []) (nonempty : table.networkList ≠ [])
    (fresh : ∀ n ∈ table.networkList, isSameNetwork (table.networks n) new = false)
    (recent : ∀ n ∈ table.networkList, Recent now (table.age n)) :
    (∃ n, table.Evicts new n ∧
        ∀ m ∈ table.networkList, timeBefore (table.age m) (table.age n) = false) ↔
      table.Unwrapped now := by
  obtain ⟨n, evicts, smallest⟩ := ScanTable.exists_evicts full nonempty fresh
  have listed := evicts.1
  constructor
  · rintro ⟨n', evicts', earliest⟩
    obtain rfl := evicts.unique evicts'
    by_cases after : table.age n ≤ now
    · refine .inl fun m member => ?_
      by_contra wrapped
      have older := elapsed_lt_of_wrapped after (BitVec.not_le.mp wrapped)
      have before := (timeBefore_iff_elapsed (recent m member) (recent n listed)).mpr older
      rw [earliest m member] at before
      cases before
    · refine .inr fun m member => ?_
      have least := BitVec.le_def.mp (smallest m member)
      rw [BitVec.le_def] at after
      rw [BitVec.lt_def]
      omega
  · intro unwrapped
    refine ⟨n, evicts, fun m member => ?_⟩
    have side : table.age m ≤ now ∨ now < table.age n :=
      unwrapped.imp (fun after => after m member) fun before => before n listed
    have older := elapsed_le_of_le side (smallest m member)
    rw [Bool.eq_false_iff, ne_eq, timeBefore_iff_elapsed (recent m member) (recent n listed)]
    exact Nat.not_lt.mpr older

/-- A full table of different networks with these time stamps. -/
def fullTable (stamp : NetworkId → Jiffies 32) : ScanTable 32 where
  networks n :=
    { (BssDescriptor.zero : BssDescriptor 32) with
      bssid := [n.val.toUInt8, 0, 0, 0, 0, 0], lastScanned := stamp n }
  networkList := List.finRange maxNetworkCount
  networkFreeList := []

/-- A network that is in none of these tables. -/
def newNetwork : BssDescriptor 32 :=
  { BssDescriptor.zero with bssid := [0, 0, 0, 0, 0, 1] }

theorem fullTable_fresh (stamp : NetworkId → Jiffies 32) : ∀ n ∈ (fullTable stamp).networkList,
    isSameNetwork ((fullTable stamp).networks n) newNetwork = false := by
  intro n _
  rw [Bool.eq_false_iff]
  intro same
  obtain ⟨_, _, bssid, _⟩ := isSameNetwork_iff.mp same
  cases congrArg List.getLast? bssid

/-- The networks were scanned one after the other. -/
def steadyTable : ScanTable 32 :=
  fullTable fun n => BitVec.ofNat 32 (5 + n)

theorem eviction_earliest_steady : ∃ n, steadyTable.Evicts newNetwork n ∧
    ∀ m ∈ steadyTable.networkList,
      timeBefore (steadyTable.age m) (steadyTable.age n) = false := by
  have recent : ∀ n, Recent 200 (steadyTable.age n) := by decide +kernel
  have behind : ∀ n, steadyTable.age n ≤ 200 := by decide +kernel
  exact (eviction_earliest_iff steadyTable newNetwork 200 rfl (by decide) (fullTable_fresh _)
    fun n _ => recent n).mpr (.inl fun n _ => behind n)

/-- The first network was scanned before the counter wrapped around, the others behind it. The
second one makes room. -/
theorem eviction_skips_earliest : ∃ table : ScanTable 32, table.networkFreeList = [] ∧
    (∀ n ∈ table.networkList, isSameNetwork (table.networks n) newNetwork = false) ∧
    (∀ n ∈ table.networkList, Recent 10 (table.age n)) ∧ table.Evicts newNetwork 1 ∧
    0 ∈ table.networkList ∧ timeBefore (table.age 0) (table.age 1) = true := by
  let table := fullTable fun n => if n = 0 then 0xfffffff0 else 5
  have searched : table.search newNetwork table.networkList none = (none, some 1) := by
    decide +kernel
  have recent : ∀ n, Recent 10 (table.age n) := by decide +kernel
  refine ⟨table, rfl, fullTable_fresh _, fun n _ => recent n, ⟨List.mem_finRange _, ?_⟩,
    List.mem_finRange _, by decide⟩
  have full : table.networkFreeList = [] := rfl
  simp only [ScanTable.store, searched, full]

end Libertas

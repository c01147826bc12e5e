import Libertas.Scan.Table

/-!
# What the scan table holds

The descriptors stay divided between the two lists, no network is listed twice,
and a response leaves the last record of each of its networks in the table.
-/

namespace Libertas

namespace ScanTable

variable {w : Nat} {table table' : ScanTable w} {n m : NetworkId} {new : BssDescriptor w}

/-- Every descriptor is linked into exactly one of the lists. -/
def Partitioned (table : ScanTable w) : Prop :=
  SlotPartition table.networkList table.networkFreeList

/-- No two entries are the same network. -/
def Distinct (table : ScanTable w) : Prop :=
  ∀ m ∈ table.networkList, ∀ n ∈ table.networkList,
    isSameNetwork (table.networks m) (table.networks n) = true → m = n

theorem write_self : (table.write n new).networks n = new := by
  simp [write]

theorem write_of_ne (other : m ≠ n) : (table.write n new).networks m = table.networks m := by
  simp [write, other]

@[simp] theorem write_networkList : (table.write n new).networkList = table.networkList := rfl
@[simp] theorem write_networkFreeList :
    (table.write n new).networkFreeList = table.networkFreeList := rfl

/-- Entries were removed, and nothing else. -/
structure Pruned (table table' : ScanTable w) : Prop where
  partition : table'.Partitioned
  kept : ∀ n ∈ table'.networkList,
    n ∈ table.networkList ∧ table'.networks n = table.networks n

namespace Pruned

theorem refl (partition : table.Partitioned) : Pruned table table :=
  ⟨partition, fun _ member => ⟨member, rfl⟩⟩

theorem trans {table'' : ScanTable w} (first : Pruned table table')
    (second : Pruned table' table'') : Pruned table table'' where
  partition := second.partition
  kept n member := by
    obtain ⟨between, same'⟩ := second.kept n member
    obtain ⟨before, same⟩ := first.kept n between
    exact ⟨before, same'.trans same⟩

/-- An entry that was pruned is no longer listed, the others are. -/
theorem expire (partition : table.Partitioned) (member : n ∈ table.networkList) :
    Pruned table (table.expire n) where
  partition := partition.retire member
  kept m listed := by
    have other : m ≠ n := by
      rintro rfl
      exact partition.used_nodup.not_mem_erase listed
    exact ⟨List.mem_of_mem_erase listed, write_of_ne other⟩

theorem distinct (pruned : Pruned table table') (distinct : table.Distinct) : table'.Distinct := by
  intro m inM n inN same
  obtain ⟨beforeM, sameM⟩ := pruned.kept m inM
  obtain ⟨beforeN, sameN⟩ := pruned.kept n inN
  rw [sameM, sameN] at same
  exact distinct m beforeM n beforeN same

end Pruned

/-- Removing one of the entries leaves the others to visit. -/
theorem mem_expire {ids : List NetworkId} (nodup : (n :: ids).Nodup)
    (listed : ∀ m ∈ n :: ids, m ∈ table.networkList) :
    ∀ m ∈ ids, m ∈ (table.expire n).networkList := by
  intro m member
  have other : m ≠ n := by
    rintro rfl
    exact (List.nodup_cons.mp nodup).1 member
  exact (List.mem_erase_of_ne other).mpr (listed m (List.mem_cons_of_mem _ member))

theorem pruned_prune (hz : Jiffies w) (now : NetworkId → Jiffies w)
    (partition : table.Partitioned) :
    Pruned table (table.prune hz now) := by
  -- The loop visits the entries that were listed when it started.
  suffices loop : ∀ ids : List NetworkId, ids.Nodup → ∀ table : ScanTable w, table.Partitioned →
      (∀ n ∈ ids, n ∈ table.networkList) →
      Pruned table (ids.foldl (fun table n =>
        let staleTime := (table.networks n).lastScanned + defaultMaxScanAge hz
        if timeBefore (now n) staleTime then table else table.expire n) table) from
    loop table.networkList partition.used_nodup table partition fun _ => id
  intro ids
  induction ids with
  | nil => exact fun _ table partition _ => .refl partition
  | cons n ids ih =>
      intro nodup table partition listed
      have rest := (List.nodup_cons.mp nodup).2
      simp only [List.foldl_cons]
      split
      · exact ih rest table partition fun m member => listed m (List.mem_cons_of_mem _ member)
      · have first := Pruned.expire partition (listed n List.mem_cons_self)
        exact first.trans (ih rest _ first.partition (mem_expire nodup listed))

theorem pruned_lbsGetScan (hz : Jiffies w) (ioctl : GetScan w)
    (partition : table.Partitioned) :
    Pruned table (table.lbsGetScan hz ioctl).1 := by
  rw [lbsGetScan]
  split
  · exact .refl partition
  suffices loop : ∀ ids : List NetworkId, ids.Nodup → ∀ (ev : Nat) (table : ScanTable w),
      table.Partitioned → (∀ n ∈ ids, n ∈ table.networkList) →
      Pruned table (reportLoop hz ioctl ids ev table).1 from
    loop table.networkList partition.used_nodup 0 table partition fun _ => id
  intro ids
  induction ids with
  | nil => exact fun _ _ table partition _ => .refl partition
  | cons n ids ih =>
      intro nodup ev table partition listed
      have rest := (List.nodup_cons.mp nodup).2
      have later : ∀ m ∈ ids, m ∈ table.networkList := fun m member =>
        listed m (List.mem_cons_of_mem _ member)
      rw [reportLoop]
      split
      · exact .refl partition
      split
      · exact ih rest ev table partition later
      dsimp only
      split
      · have first := Pruned.expire partition (listed n List.mem_cons_self)
        exact first.trans (ih rest ev _ first.partition (mem_expire nodup listed))
      split
      · exact ih rest ev table partition later
      · exact ih rest _ table partition later

/-- An entry that the search finds is the same network. -/
theorem search_found {ids : List NetworkId} {oldest : Option NetworkId}
    (found : (table.search new ids oldest).1 = some n) :
    n ∈ ids ∧ isSameNetwork (table.networks n) new = true := by
  induction ids generalizing oldest with
  | nil => cases found
  | cons m ids ih =>
      rw [search] at found
      split at found
      · rename_i same
        obtain rfl := Option.some.inj found
        exact ⟨List.mem_cons_self, same⟩
      · obtain ⟨member, same⟩ := ih found
        exact ⟨List.mem_cons_of_mem _ member, same⟩

/-- When the search finds nothing, no entry is the same network. -/
theorem search_missed {ids : List NetworkId} {oldest : Option NetworkId}
    (missed : (table.search new ids oldest).1 = none) :
    ∀ n ∈ ids, isSameNetwork (table.networks n) new = false := by
  induction ids generalizing oldest with
  | nil => exact fun _ member => nomatch member
  | cons m ids ih =>
      rw [search] at missed
      split at missed
      · cases missed
      · rename_i different
        intro n member
        rcases List.mem_cons.mp member with rfl | inRest
        · simpa using different
        · exact ih missed n inRest

/-- The time stamp of an entry. -/
def age (table : ScanTable w) (n : NetworkId) : Jiffies w :=
  (table.networks n).lastScanned

theorem older_spec (table : ScanTable w) (n : NetworkId) (oldest : Option NetworkId) :
    (table.older n oldest = n ∨ oldest = some (table.older n oldest)) ∧
      table.age (table.older n oldest) ≤ table.age n ∧
      ∀ old, oldest = some old → table.age (table.older n oldest) ≤ table.age old := by
  cases oldest with
  | none => exact ⟨.inl rfl, BitVec.le_refl _, nofun⟩
  | some old =>
      unfold older
      dsimp only
      split
      · rename_i earlier
        refine ⟨.inl rfl, BitVec.le_refl _, fun old' same => ?_⟩
        obtain rfl := Option.some.inj same
        exact BitVec.le_of_lt earlier
      · rename_i notEarlier
        refine ⟨.inr rfl, BitVec.not_lt.mp notEarlier, fun old' same => ?_⟩
        obtain rfl := Option.some.inj same
        exact BitVec.le_refl _

/-- When the search finds nothing, the second result is an entry with the smallest time stamp. -/
theorem search_oldest {ids : List NetworkId} {start : NetworkId}
    (missed : (table.search new ids (some start)).1 = none) :
    ∃ old, (table.search new ids (some start)).2 = some old ∧ (old = start ∨ old ∈ ids) ∧
      table.age old ≤ table.age start ∧ ∀ n ∈ ids, table.age old ≤ table.age n := by
  induction ids generalizing start with
  | nil => exact ⟨start, rfl, .inl rfl, BitVec.le_refl _, fun _ member => nomatch member⟩
  | cons m ids ih =>
      rw [search] at missed ⊢
      split at missed
      · cases missed
      rename_i different
      rw [if_neg different]
      obtain ⟨old, result, known, below, smallest⟩ := ih missed
      obtain ⟨chosen, belowEntry, belowStart⟩ := older_spec table m (some start)
      refine ⟨old, result, ?_, BitVec.le_trans below (belowStart start rfl), fun n member => ?_⟩
      · rcases known with rfl | inRest
        · rcases chosen with entry | same
          · exact .inr (by rw [entry]; exact List.mem_cons_self)
          · exact .inl (Option.some.inj same).symm
        · exact .inr (List.mem_cons_of_mem _ inRest)
      · rcases List.mem_cons.mp member with rfl | inRest
        · exact BitVec.le_trans below belowEntry
        · exact smallest n inRest

/-- A search through all entries that finds nothing ends with the oldest of them. -/
theorem search_missed_oldest {oldest : Option NetworkId}
    (missed : table.search new table.networkList none = (none, oldest))
    (nonempty : table.networkList ≠ []) :
    ∃ n, oldest = some n ∧ n ∈ table.networkList ∧
      ∀ m ∈ table.networkList, table.age n ≤ table.age m := by
  cases list : table.networkList with
  | nil => exact absurd list nonempty
  | cons first ids =>
      rw [list] at missed
      rw [search] at missed
      split at missed
      · cases missed
      obtain ⟨old, result, known, below, smallest⟩ := search_oldest (congrArg Prod.fst missed)
      refine ⟨old, (congrArg Prod.snd missed).symm.trans result, List.mem_cons.mpr known, ?_⟩
      intro m member
      rcases List.mem_cons.mp member with rfl | inRest
      · exact below
      · exact smallest m inRest

/-- A record was stored in a slot: over the same network, in a free slot, or over an entry than
which no other is older. -/
structure StoredAt (n : NetworkId) (new : BssDescriptor w) (table table' : ScanTable w) : Prop where
  partition : table'.Partitioned
  listed : n ∈ table'.networkList
  here : table'.networks n = new
  others : ∀ m, m ≠ n →
    (m ∈ table'.networkList ↔ m ∈ table.networkList) ∧ table'.networks m = table.networks m
  differs : ∀ m ∈ table.networkList, m ≠ n → isSameNetwork (table.networks m) new = false
  victim : n ∈ table.networkList → isSameNetwork (table.networks n) new = true ∨
    (table.networkFreeList = [] ∧ ∀ m ∈ table.networkList, table.age n ≤ table.age m)

theorem store_spec (new : BssDescriptor w) (partition : table.Partitioned)
    (distinct : table.Distinct) :
    ∃ n, StoredAt n new table (table.store new) := by
  rw [store]
  split
  · rename_i n _ found
    obtain ⟨listed, same⟩ := search_found (congrArg Prod.fst found)
    refine ⟨n, partition, listed, write_self, fun m other => ⟨.rfl, write_of_ne other⟩,
      fun m member other => ?_, fun _ => .inl same⟩
    rw [Bool.eq_false_iff]
    intro alsoSame
    exact other (distinct m member n listed
      (isSameNetwork_trans alsoSame (isSameNetwork_symm same)))
  · rename_i oldest missed
    have differs := search_missed (congrArg Prod.fst missed)
    have inUse : table.networkFreeList = [] → table.networkList ≠ [] := by
      intro free
      refine List.ne_nil_of_mem (a := 0) ((partition.complete 0).resolve_right ?_)
      rw [free]
      exact nofun
    split
    · rename_i n rest free
      rw [Partitioned] at partition
      rw [free] at partition
      have fresh : n ∉ table.networkList := fun listed =>
        partition.not_free listed List.mem_cons_self
      refine ⟨n, partition.take, List.mem_append_right _ List.mem_cons_self, write_self,
        fun m other => ⟨?_, write_of_ne other⟩, fun m member _ => differs m member,
        fun listed => absurd listed fresh⟩
      simp [other]
    · rename_i m free
      obtain ⟨n, found, listed, smallest⟩ := search_missed_oldest missed (inUse free)
      obtain rfl : m = n := Option.some.inj found
      refine ⟨m, partition.rotate listed, List.mem_append_right _ List.mem_cons_self, write_self,
        fun k other => ⟨?_, write_of_ne other⟩, fun k member _ => differs k member,
        fun _ => .inr ⟨free, smallest⟩⟩
      simp [List.mem_erase_of_ne other, other]
    · rename_i free
      obtain ⟨n, found, _⟩ := search_missed_oldest missed (inUse free)
      cases found

theorem StoredAt.distinct (stored : StoredAt n new table table') (distinct : table.Distinct) :
    table'.Distinct := by
  have apart : ∀ m ∈ table'.networkList, m ≠ n →
      isSameNetwork (table'.networks m) (table'.networks n) = false := by
    intro m member other
    obtain ⟨listed, same⟩ := stored.others m other
    rw [same, stored.here]
    exact stored.differs m (listed.mp member) other
  intro m inM k inK same
  by_cases hereM : m = n <;> by_cases hereK : k = n
  · exact hereM.trans hereK.symm
  · rw [hereM] at same
    exact absurd (isSameNetwork_symm same) (by simp [apart k inK hereK])
  · rw [hereK] at same
    exact absurd same (by simp [apart m inM hereM])
  · obtain ⟨listedM, sameM⟩ := stored.others m hereM
    obtain ⟨listedK, sameK⟩ := stored.others k hereK
    rw [sameM, sameK] at same
    exact distinct m (listedM.mp inM) k (listedK.mp inK) same

end ScanTable

/-- A record that is the last one of its network. -/
def LastOf {w : Nat} (records : List (BssDescriptor w)) (r : BssDescriptor w) : Prop :=
  ∃ before after, records = before ++ r :: after ∧ ∀ r' ∈ after, isSameNetwork r r' = false

namespace LastOf

variable {w : Nat} {records : List (BssDescriptor w)} {r new : BssDescriptor w}

theorem mem (last : LastOf records r) : r ∈ records := by
  obtain ⟨before, after, rfl, _⟩ := last
  exact List.mem_append_right _ List.mem_cons_self

/-- One more record is the last of its network, and no record of that network before it is. -/
theorem append (last : LastOf (records ++ [new]) r) :
    r = new ∨ (LastOf records r ∧ isSameNetwork r new = false) := by
  obtain ⟨before, after, split, none⟩ := last
  rcases List.eq_nil_or_concat after with rfl | ⟨rest, final, rfl⟩
  · have parts := List.append_inj' split rfl
    exact .inl (List.singleton_inj.mp parts.2).symm
  · rw [List.concat_eq_append] at split none
    have parts := List.append_inj' (split.trans (List.append_assoc before (r :: rest) [final]).symm)
      rfl
    obtain rfl : new = final := List.singleton_inj.mp parts.2
    exact .inr ⟨⟨before, rest, parts.1, fun r' member => none r' (List.mem_append_left _ member)⟩,
      none new (List.mem_append_right _ List.mem_cons_self)⟩

end LastOf

namespace ScanTable

variable {w : Nat} {start table : ScanTable w} {records : List (BssDescriptor w)}

/-- The table after some records of a response. `written` are the slots they went to; the other
entries are as old as they were. -/
structure Holds (start table : ScanTable w) (done : List (BssDescriptor w))
    (written : List NetworkId) : Prop where
  partition : table.Partitioned
  distinct : table.Distinct
  few : written.length ≤ done.length
  old : ∀ n ∈ table.networkList, n ∉ written →
    n ∈ start.networkList ∧ table.networks n = start.networks n
  stored : ∀ r, LastOf done r → ∃ n ∈ table.networkList, table.networks n = r

/-- One record. It never evicts an entry that another record of the response has written, since
an older entry is left as long as there are no more records than slots. -/
theorem Holds.store {done : List (BssDescriptor w)} {written : List NetworkId}
    (new : BssDescriptor w) (holds : Holds start table done written)
    (room : done.length < maxNetworkCount)
    (later : ∀ n ∈ start.networkList, ∀ r ∈ done,
      (start.networks n).lastScanned < r.lastScanned) :
    ∃ n, Holds start (table.store new) (done ++ [new]) (n :: written) := by
  obtain ⟨n, stored⟩ := store_spec new holds.partition holds.distinct
  refine ⟨n, stored.partition, stored.distinct holds.distinct, ?_, fun m member outside => ?_,
    fun r last => ?_⟩
  · have few := holds.few
    simp only [List.length_cons, List.length_append, List.length_nil]
    omega
  · obtain ⟨other, notWritten⟩ := not_or.mp (mt List.mem_cons.mpr outside)
    obtain ⟨listed, same⟩ := stored.others m other
    rw [same]
    exact holds.old m (listed.mp member) notWritten
  · rcases last.append with rfl | ⟨before, different⟩
    · exact ⟨n, stored.listed, stored.here⟩
    obtain ⟨m, listed, rfl⟩ := holds.stored r before
    have other : m ≠ n := by
      rintro rfl
      rcases stored.victim listed with same | ⟨full, smallest⟩
      · rw [different] at same
        cases same
      · have partition := holds.partition
        rw [Partitioned] at partition
        rw [full] at partition
        have short : written.length < (List.finRange maxNetworkCount).length := by
          rw [List.length_finRange]
          exact Nat.lt_of_le_of_lt holds.few room
        obtain ⟨k, inUse, outside⟩ := partition.exists_outside _ (List.nodup_finRange _) short
        obtain ⟨inStart, same⟩ := holds.old k inUse outside
        have below := smallest k inUse
        unfold age at below
        rw [same] at below
        exact BitVec.not_lt.mpr below (later k inStart _ before.mem)
    obtain ⟨still, same⟩ := stored.others m other
    exact ⟨m, still.mpr listed, same⟩

/-- All records of a response, one after the other. -/
theorem Holds.fold {done : List (BssDescriptor w)} {written : List NetworkId}
    (holds : Holds start table done written)
    (room : (done ++ records).length ≤ maxNetworkCount)
    (later : ∀ n ∈ start.networkList, ∀ r ∈ done ++ records,
      (start.networks n).lastScanned < r.lastScanned) :
    ∃ written', Holds start (records.foldl ScanTable.store table) (done ++ records) written' := by
  induction records generalizing table done written with
  | nil => exact ⟨written, by simpa using holds⟩
  | cons new rest ih =>
      have appended : done ++ new :: rest = done ++ [new] ++ rest := by simp
      rw [appended] at room later ⊢
      have short : done.length < maxNetworkCount := by
        simp only [List.length_append, List.length_cons, List.length_nil] at room
        omega
      obtain ⟨n, next⟩ := holds.store new short fun n member r done =>
        later n member r (List.mem_append_left _ (List.mem_append_left _ done))
      exact ih next room later

/-- Without any condition on the times, the lists stay in order. -/
theorem fold_ordered (partition : table.Partitioned) (distinct : table.Distinct) :
    (records.foldl store table).Partitioned ∧ (records.foldl store table).Distinct := by
  induction records generalizing table with
  | nil => exact ⟨partition, distinct⟩
  | cons new rest ih =>
      obtain ⟨n, stored⟩ := store_spec new partition distinct
      exact ih stored.partition (stored.distinct distinct)

/-- The loop stores the parsed records in order. -/
theorem storeLoop_eq_foldl (interpret : Interpret w) (parsing : Nat → Jiffies w)
    (sets idx : Nat) (bssinfo : List UInt8) (bytesleft : Nat) (table : ScanTable w) :
    storeLoop interpret parsing sets idx bssinfo bytesleft table =
      (parsedRecords interpret parsing sets idx bssinfo bytesleft).foldl store table := by
  induction sets generalizing idx bssinfo bytesleft table with
  | zero => rfl
  | succ sets ih =>
      rw [storeLoop, parsedRecords]
      split
      · rfl
      · dsimp only
        rw [ih, List.foldl_append]
        cases (lbsProcessBss interpret (parsing idx) bssinfo bytesleft).1 <;> rfl

end ScanTable

section Records

variable {w : Nat} {interpret : Interpret w} {parsing : Nat → Jiffies w} {bssinfo : List UInt8}
  {bytesleft sets idx : Nat}

/-- There are no more records than sets. -/
theorem parsedRecords_length_le :
    (parsedRecords interpret parsing sets idx bssinfo bytesleft).length ≤ sets := by
  induction sets generalizing idx bssinfo bytesleft with
  | zero => exact Nat.le_refl 0
  | succ sets ih =>
      rw [parsedRecords]
      split
      · exact Nat.zero_le _
      · generalize lbsProcessBss interpret (parsing idx) bssinfo bytesleft = result
        obtain ⟨new, next, left⟩ := result
        have rest : (parsedRecords interpret parsing sets (idx + 1) next left).length ≤ sets := ih
        cases new with
        | none => exact Nat.le_succ_of_le rest
        | some new => exact Nat.succ_le_succ rest

theorem lastScanned_of_process {now : Jiffies w} {r : BssDescriptor w}
    (parsed : (lbsProcessBss interpret now bssinfo bytesleft).1 = some r) :
    r.lastScanned = now := by
  unfold lbsProcessBss at parsed
  dsimp only at parsed
  split at parsed
  · cases parsed
  · obtain ⟨bss, _, rfl⟩ := Option.map_eq_some_iff.mp parsed
    rfl

/-- A parsed record carries the time at which it was parsed. -/
theorem lastScanned_of_parsed {r : BssDescriptor w}
    (parsed : r ∈ parsedRecords interpret parsing sets idx bssinfo bytesleft) :
    ∃ i, r.lastScanned = parsing i := by
  induction sets generalizing idx bssinfo bytesleft with
  | zero => cases parsed
  | succ sets ih =>
      rw [parsedRecords] at parsed
      split at parsed
      · cases parsed
      · dsimp only at parsed
        rcases List.mem_append.mp parsed with first | rest
        · exact ⟨idx, lastScanned_of_process (Option.mem_toList.mp first)⟩
        · exact ih rest

end Records

namespace ScanTable

variable {w : Nat} {hz : Jiffies w} {table : ScanTable w}

theorem init_ordered : (init : ScanTable w).Partitioned ∧ (init : ScanTable w).Distinct := by
  refine ⟨⟨List.nodup_finRange _, fun n => .inr (List.mem_finRange n)⟩, ?_⟩
  intro m member
  cases member

/-- Every operation leaves the lists in order. -/
theorem ordered_step {action : ScanAction w} {table' : ScanTable w}
    (ordered : table.Partitioned ∧ table.Distinct)
    (stepped : (scanTable hz).step table action = some table') :
    table'.Partitioned ∧ table'.Distinct := by
  cases action with
  | response interpret clock scanresp =>
      cases stepped
      have pruned := pruned_prune hz clock.pruning ordered.1
      unfold lbsRet80211Scan
      dsimp only
      split
      · exact ⟨pruned.partition, pruned.distinct ordered.2⟩
      · rw [storeLoop_eq_foldl]
        exact fold_ordered pruned.partition (pruned.distinct ordered.2)
  | get ioctl =>
      cases stepped
      have pruned := pruned_lbsGetScan hz ioctl ordered.1
      exact ⟨pruned.partition, pruned.distinct ordered.2⟩

theorem ordered_of_reachable (reached : (scanTable hz).Reachable table) :
    table.Partitioned ∧ table.Distinct :=
  reached.invariant _ (fun _ start => start ▸ init_ordered)
    fun _ _ _ _ ordered _ stepped => ordered_step ordered stepped

/-- A response that is handled later than all before it leaves its networks in the table. -/
theorem response_stored (ordered : table.Partitioned ∧ table.Distinct) {interpret : Interpret w}
    {clock : ScanClock w} {scanresp : ScanRsp}
    (later : ∀ n ∈ table.networkList, ∀ i, (table.networks n).lastScanned < clock.parsing i)
    (few : scanresp.nrSets.toNat ≤ maxNetworkCount) {r : BssDescriptor w}
    (last : LastOf (parsedRecords interpret clock.parsing scanresp.nrSets.toNat 0
      scanresp.bssdescAndTlvbuffer scanresp.bssdescriptsize.toNat) r) :
    ∃ n ∈ (table.lbsRet80211Scan hz interpret clock scanresp).1.networkList,
      (table.lbsRet80211Scan hz interpret clock scanresp).1.networks n = r := by
  have pruned := pruned_prune hz clock.pruning ordered.1
  unfold lbsRet80211Scan
  dsimp only
  rw [if_neg (Nat.not_lt.mpr few)]
  dsimp only
  rw [storeLoop_eq_foldl]
  have nothing : Holds (table.prune hz clock.pruning) (table.prune hz clock.pruning) [] [] :=
    { partition := pruned.partition
      distinct := pruned.distinct ordered.2
      few := Nat.le_refl 0
      old := fun n member _ => ⟨member, rfl⟩
      stored := fun r last => nomatch last.mem }
  have newer : ∀ n ∈ (table.prune hz clock.pruning).networkList,
      ∀ r ∈ [] ++ parsedRecords interpret clock.parsing scanresp.nrSets.toNat 0
        scanresp.bssdescAndTlvbuffer scanresp.bssdescriptsize.toNat,
      ((table.prune hz clock.pruning).networks n).lastScanned < r.lastScanned := by
    intro n member r parsed
    obtain ⟨listed, same⟩ := pruned.kept n member
    obtain ⟨i, stamp⟩ := lastScanned_of_parsed parsed
    rw [same, stamp]
    exact later n listed i
  obtain ⟨written, holds⟩ := nothing.fold (Nat.le_trans parsedRecords_length_le few) newer
  exact holds.stored r last

end ScanTable

/-- In every state that responses and readings of the scan results reach, in any order and at any
times, the descriptors are divided between the two lists and no network is listed twice. A response
with at most `MAX_NETWORK_COUNT` sets that is handled later than all entries were scanned leaves
the last record of each of its networks in the table. -/
theorem scan_table_consistent {w : Nat} {hz : Jiffies w} {table : ScanTable w}
    (reached : (scanTable hz).Reachable table) :
    table.Partitioned ∧ table.Distinct ∧
    ∀ (interpret : Interpret w) (clock : ScanClock w) (scanresp : ScanRsp),
      (∀ n ∈ table.networkList, ∀ i, (table.networks n).lastScanned < clock.parsing i) →
      scanresp.nrSets.toNat ≤ maxNetworkCount →
      ∀ r, LastOf (parsedRecords interpret clock.parsing scanresp.nrSets.toNat 0
          scanresp.bssdescAndTlvbuffer scanresp.bssdescriptsize.toNat) r →
        ∃ n ∈ (table.lbsRet80211Scan hz interpret clock scanresp).1.networkList,
          (table.lbsRet80211Scan hz interpret clock scanresp).1.networks n = r := by
  have ordered := ScanTable.ordered_of_reachable reached
  exact ⟨ordered.1, ordered.2, fun interpret clock scanresp later few r last =>
    ScanTable.response_stored ordered later few last⟩

/-- A record of 19 bytes: six bytes of BSSID and thirteen more. -/
def beaconRecord (bssid : UInt8) : List UInt8 :=
  [19, 0] ++ List.replicate 6 bssid ++ List.replicate 13 0

/-- A reading of a record that takes its BSSID. -/
def bssidOnly : Interpret 32 := fun beacon _ =>
  some { (BssDescriptor.zero : BssDescriptor 32) with bssid := ByteOrder.slice beacon 0 ethAlen }

/-- A response with two records of one network and one of another. -/
def threeRecords : ScanRsp :=
  { bssdescriptsize := 63, nrSets := 3
    bssdescAndTlvbuffer := beaconRecord 1 ++ beaconRecord 2 ++ beaconRecord 1 }

/-- What is read from a record. -/
def bareNetwork (bssid : UInt8) : BssDescriptor 32 :=
  { (BssDescriptor.zero : BssDescriptor 32) with
    bssid := List.replicate 6 bssid, lastScanned := 1000 }

/-- A response that is handled at one time. -/
def atOnce : ScanClock 32 :=
  { pruning := fun _ => 1000, parsing := fun _ => 1000 }

/-- Both networks are stored in the empty table of the start. -/
theorem scan_table_consistent_three :
    (∃ n ∈ (ScanTable.init.lbsRet80211Scan 100 bssidOnly atOnce threeRecords).1.networkList,
      (ScanTable.init.lbsRet80211Scan 100 bssidOnly atOnce threeRecords).1.networks n =
        bareNetwork 1) ∧
    ∃ n ∈ (ScanTable.init.lbsRet80211Scan 100 bssidOnly atOnce threeRecords).1.networkList,
      (ScanTable.init.lbsRet80211Scan 100 bssidOnly atOnce threeRecords).1.networks n =
        bareNetwork 2 := by
  have stored := (@scan_table_consistent 32 100 _ (.initial rfl)).2.2 bssidOnly
    atOnce threeRecords (fun _ member => nomatch member) (by decide)
  have parsed : parsedRecords bssidOnly atOnce.parsing threeRecords.nrSets.toNat 0
      threeRecords.bssdescAndTlvbuffer threeRecords.bssdescriptsize.toNat =
        [bareNetwork 1, bareNetwork 2, bareNetwork 1] := by decide +kernel
  rw [parsed] at stored
  constructor
  · exact stored (bareNetwork 1) ⟨[bareNetwork 1, bareNetwork 2], [], rfl, nofun⟩
  · exact stored (bareNetwork 2) ⟨[bareNetwork 1], [bareNetwork 1], rfl, by decide⟩

end Libertas

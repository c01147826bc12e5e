import Libertas.Assoc.Associate

/-!
# The loops of `get_common_rates`

`get_common_rates` goes through the rates of the card and, for each of them, through
those of the access point, collects the matches in an array of 30 bytes, and then
overwrites its input with them. It does so too when it returns an error.

The inner loop looks at the byte behind the buffer before it compares the index with
the size; the index ends the loop whatever that byte is.
-/

section Grouping

variable {α : Type*} [DecidableEq α] {table : List α}

/-- Taking the elements of a list entry by entry of a table takes those that are in the table. -/
theorem flatMap_filter_perm (distinct : table.Nodup) (l : List α) :
    (table.flatMap fun entry => l.filter (· = entry)).Perm (l.filter (· ∈ table)) := by
  induction table with
  | nil => simp
  | cons entry rest ih =>
      obtain ⟨absent, distinct⟩ := List.nodup_cons.mp distinct
      have split := List.filter_append_perm (· = entry) (l.filter (· ∈ entry :: rest))
      have first : (l.filter (· ∈ entry :: rest)).filter (· = entry) = l.filter (· = entry) := by
        rw [List.filter_filter]
        refine List.filter_congr fun a _ => ?_
        by_cases same : a = entry
        · simp [same]
        · simp [same]
      have others : (l.filter (· ∈ entry :: rest)).filter (fun a => !decide (a = entry)) =
          l.filter (· ∈ rest) := by
        rw [List.filter_filter]
        refine List.filter_congr fun a _ => ?_
        by_cases same : a = entry
        · simp [same, absent]
        · simp [same]
      rw [first, others] at split
      rw [List.flatMap_cons]
      exact ((ih distinct).append_left _).trans split

/-- They are taken in the order of the table. -/
theorem flatMap_filter_pairwise {R : α → α → Prop} (ordered : table.Pairwise R)
    (reflexive : ∀ a, R a a) (l : List α) :
    (table.flatMap fun entry => l.filter (· = entry)).Pairwise R := by
  have own : ∀ {entry a : α}, a ∈ l.filter (· = entry) → a = entry := by
    intro entry a member
    simpa using List.of_mem_filter member
  rw [List.pairwise_flatMap]
  constructor
  · intro entry _
    refine List.pairwise_of_forall_mem_list fun a inFirst b inSecond => ?_
    rw [own inFirst, own inSecond]
    exact reflexive entry
  · refine ordered.imp fun related a inFirst b inSecond => ?_
    rw [own inFirst, own inSecond]
    exact related

end Grouping

namespace Libertas

open ByteOrder

/-- `sizeof(tmp)`. -/
def sizeofTmp : Nat := 30

/-- The inner loop for one rate of the card, over what is left of the buffer; `tmp` are the bytes
that have been stored. -/
def apLoop (cardRate : UInt8) : List UInt8 → List UInt8 → List UInt8
  | [], tmp => tmp
  | rate :: rest, tmp =>
      if rate ≠ 0 then apLoop cardRate rest (if rate = cardRate then tmp ++ [cardRate] else tmp)
      else tmp

/-- The outer loop over what is left of the rates of the card. -/
def cardLoop (rates : List UInt8) : List UInt8 → List UInt8 → List UInt8
  | [], tmp => tmp
  | cardRate :: rest, tmp =>
      if cardRate ≠ 0 then cardLoop rates rest (apLoop cardRate rates tmp) else tmp

/-- The result of `get_common_rates`, the buffer behind it, and the size. -/
structure CommonRates where
  ret : Int
  rates : List UInt8
  ratesSize : UInt16
deriving DecidableEq, Repr

/-- `get_common_rates`. -/
def runCommonRates (settings : RateSettings) (rates : List UInt8) : CommonRates :=
  let tmp := cardLoop rates lbsBgRates []
  let ret := if settings.enablehwauto = 0 ∧ settings.curRate ∉ tmp then -1 else 0
  let zeroed := List.replicate rates.length 0
  let ratesSize := min tmp.length rates.length
  { ret := ret, rates := overwrite (tmp.take ratesSize) zeroed
    ratesSize := UInt16.ofNat ratesSize }

/-- The rates of the access point that are rates of the card, in the order of the card. -/
def ratesInCommon (rates : List UInt8) : List UInt8 :=
  (lbsBgRates.takeWhile (· ≠ 0)).flatMap fun cardRate =>
    (rates.takeWhile (· ≠ 0)).filter (· = cardRate)

section Loops

variable {rates tmp card : List UInt8} {cardRate : UInt8}

theorem apLoop_eq : apLoop cardRate rates tmp =
    tmp ++ (rates.takeWhile (· ≠ 0)).filter (· = cardRate) := by
  induction rates generalizing tmp with
  | nil => simp [apLoop]
  | cons rate rest ih =>
      rw [apLoop]
      by_cases zero : rate = 0
      · simp [zero]
      · rw [if_pos zero, ih, List.takeWhile_cons_of_pos (by simpa using zero), List.filter_cons]
        by_cases same : rate = cardRate
        · simp [same]
        · simp [same]

theorem cardLoop_eq : cardLoop rates card tmp =
    tmp ++ (card.takeWhile (· ≠ 0)).flatMap fun cardRate =>
      (rates.takeWhile (· ≠ 0)).filter (· = cardRate) := by
  induction card generalizing tmp with
  | nil => simp [cardLoop]
  | cons cardRate rest ih =>
      rw [cardLoop]
      by_cases zero : cardRate = 0
      · simp [zero]
      · rw [if_pos zero, ih, apLoop_eq]
        simp [zero]

theorem runCommonRates_tmp (rates : List UInt8) :
    cardLoop rates lbsBgRates [] = ratesInCommon rates := cardLoop_eq

/-- Every rate of the access point is taken at most once. -/
theorem ratesInCommon_perm (rates : List UInt8) : (ratesInCommon rates).Perm
    ((rates.takeWhile (· ≠ 0)).filter (· ∈ lbsBgRates.takeWhile (· ≠ 0))) :=
  flatMap_filter_perm (by decide) _

theorem ratesInCommon_sorted (rates : List UInt8) :
    (ratesInCommon rates).Pairwise fun a b => lbsBgRates.idxOf a ≤ lbsBgRates.idxOf b :=
  flatMap_filter_pairwise (R := fun a b => lbsBgRates.idxOf a ≤ lbsBgRates.idxOf b) (by decide)
    (fun _ => Nat.le_refl _) _

theorem ratesInCommon_length (rates : List UInt8) :
    (ratesInCommon rates).length ≤ rates.length := by
  rw [(ratesInCommon_perm rates).length_eq]
  exact Nat.le_trans (List.length_filter_le _ _) (List.takeWhile_sublist _).length_le

/-- With at most 14 rates from the access point, `get_common_rates` leaves in the buffer the rates
in common, in the order of the card, and zeros; it stores nothing behind `tmp`, and it reports an
error exactly if a fixed rate is not among the rates in common. -/
theorem common_rates (settings : RateSettings) (rates : List UInt8) (size : rates.length ≤ 14) :
    ∃ common, common.Perm
        ((rates.takeWhile (· ≠ 0)).filter (· ∈ lbsBgRates.takeWhile (· ≠ 0))) ∧
      common.Pairwise (fun a b => lbsBgRates.idxOf a ≤ lbsBgRates.idxOf b) ∧
      (runCommonRates settings rates).rates =
        common ++ List.replicate (rates.length - common.length) 0 ∧
      (runCommonRates settings rates).ratesSize.toNat = common.length ∧
      (cardLoop rates lbsBgRates []).length ≤ sizeofTmp ∧
      ((runCommonRates settings rates).ret ≠ 0 ↔
        settings.enablehwauto = 0 ∧ settings.curRate ∉ common) := by
  have length := ratesInCommon_length rates
  have kept : min (ratesInCommon rates).length rates.length = (ratesInCommon rates).length :=
    Nat.min_eq_left length
  refine ⟨ratesInCommon rates, ratesInCommon_perm rates, ratesInCommon_sorted rates, ?_, ?_, ?_, ?_⟩
  · simp only [runCommonRates, runCommonRates_tmp, kept, List.take_length, overwrite,
      List.drop_replicate]
  · simp only [runCommonRates, runCommonRates_tmp, kept]
    exact UInt16.toNat_ofNat_of_lt' (by
      show _ < 65536
      omega)
  · rw [runCommonRates_tmp]
    rw [sizeofTmp]
    omega
  · simp only [runCommonRates, runCommonRates_tmp]
    split
    · rename_i fails
      exact iff_of_true (by decide) fails
    · rename_i works
      exact iff_of_false (by decide) works

end Loops

theorem common_rates_three : ∃ common, common.Perm [0x6c, 0x02, 0x02] ∧
    (runCommonRates { enablehwauto := 1, curRate := 0 } [0x6c, 0x02, 0x05, 0x02, 0]).rates =
      common ++ List.replicate (5 - common.length) 0 := by
  obtain ⟨common, perm, _, left, _⟩ :=
    common_rates { enablehwauto := 1, curRate := 0 } [0x6c, 0x02, 0x05, 0x02, 0] (by decide)
  exact ⟨common, perm, left⟩

end Libertas

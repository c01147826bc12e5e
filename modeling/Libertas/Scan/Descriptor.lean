import Libertas.Scan.Bounds

/-!
# The descriptor that the beacon parser fills

Each copy into the descriptor fits except for two kinds of elements, whose length
is checked against nothing, or against too large a number. The lengths in the
descriptor belong to the last element of a kind that was accepted.
-/

namespace Libertas

open ByteOrder

namespace InfoElement

/-- What the parser copies of an element fits into the destination. -/
def Fits (elem : InfoElement) : Prop :=
  (elem.type = .ssid → elem.len.toNat ≤ iwEssidMaxSize + 1) ∧
    (elem.type = .country → elem.len.toNat + 2 ≤ 254)

instance (elem : InfoElement) : Decidable elem.Fits := by
  unfold Fits
  infer_instance

def isSsid (elem : InfoElement) : Bool :=
  elem.type = .ssid

def isRsn (elem : InfoElement) : Bool :=
  elem.type = .rsn

/-- A generic element that begins with the bytes of WPA. -/
def isWpa (mem : List UInt8) (elem : InfoElement) : Bool :=
  elem.type = .generic && 4 ≤ elem.len.toNat && slice mem elem.data 4 = wpaOui

/-- The length that the descriptor should have for a WPA or RSN element. -/
def keptLen : Option InfoElement → Nat
  | none => 0
  | some elem => min (elem.len.toNat + 2) maxWpaIeLen

/-- The length that the descriptor should have for an SSID element. -/
def ssidLen : Option InfoElement → UInt8
  | none => 0
  | some elem => elem.len

end InfoElement

namespace BeaconParse

variable {w : Nat} {s : BeaconParse w} {mem : List UInt8} {size : Nat}

/-- No copy is longer than its destination. -/
def CopiesFit (s : BeaconParse w) : Prop :=
  ∀ copy ∈ s.copies, copy.count ≤ copy.capacity

instance (s : BeaconParse w) : Decidable s.CopiesFit := by
  unfold CopiesFit
  infer_instance

/-- The descriptor is what the accepted elements make of it. -/
structure Tracks (mem : List UInt8) (s : BeaconParse w) : Prop where
  rates : s.nBasicRates ≤ maxRates
  copies : s.CopiesFit ↔ ∀ elem ∈ s.accepted, elem.Fits
  ssid : (∀ elem ∈ s.accepted, elem.Fits) →
    s.bss.ssidLen = InfoElement.ssidLen (s.accepted.find? (·.isSsid))
  wpa : s.bss.wpaIeLen = InfoElement.keptLen (s.accepted.find? (·.isWpa mem))
  rsn : s.bss.rsnIeLen = InfoElement.keptLen (s.accepted.find? (·.isRsn))

/-- Reading changes nothing of this. -/
theorem Tracks.read (tracks : s.Tracks mem) (offset count : Nat) :
    (s.read offset count).Tracks mem :=
  ⟨tracks.rates, tracks.copies, tracks.ssid, tracks.wpa, tracks.rsn⟩

/-- What one element does to the descriptor. -/
structure Takes (mem : List UInt8) (elem : InfoElement) (s t : BeaconParse w) : Prop where
  rates : t.nBasicRates ≤ maxRates
  copies : t.CopiesFit ↔ elem.Fits ∧ s.CopiesFit
  ssid : elem.Fits → t.bss.ssidLen = if elem.isSsid then elem.len else s.bss.ssidLen
  wpa : t.bss.wpaIeLen =
    if elem.isWpa mem then min (elem.len.toNat + 2) maxWpaIeLen else s.bss.wpaIeLen
  rsn : t.bss.rsnIeLen =
    if elem.isRsn then min (elem.len.toNat + 2) maxWpaIeLen else s.bss.rsnIeLen

theorem copiesFit_cons {capacity count : Nat} {t : BeaconParse w}
    (copies : t.copies = { capacity := capacity, count := count } :: s.copies) :
    t.CopiesFit ↔ count ≤ capacity ∧ s.CopiesFit := by
  rw [CopiesFit]
  rw [copies]
  exact List.forall_mem_cons

/-- An element of a type that always fits. -/
theorem fits_of_type {elem : InfoElement} (notSsid : elem.type ≠ .ssid)
    (notCountry : elem.type ≠ .country) : elem.Fits :=
  ⟨fun same => absurd same notSsid, fun same => absurd same notCountry⟩

theorem takes_onGeneric {elem : InfoElement} (rates : s.nBasicRates ≤ maxRates)
    (generic : elem.type = .generic) : Takes mem elem s (s.onGeneric mem elem) := by
  have fits : elem.Fits := fits_of_type (by rw [generic]; nofun) (by rw [generic]; nofun)
  have notSsid : elem.isSsid = false := by simp [InfoElement.isSsid, generic]
  have notRsn : elem.isRsn = false := by simp [InfoElement.isRsn, generic]
  have quiet : elem.isWpa mem = false → Takes mem elem s s := fun notWpa =>
    { rates := rates
      copies := by simp [fits]
      ssid := fun _ => by simp [notSsid]
      wpa := by simp [notWpa]
      rsn := by simp [notRsn] }
  rw [onGeneric]
  split
  · rename_i short
    exact quiet (by simp [InfoElement.isWpa, Nat.not_le.mpr short])
  · rename_i long
    dsimp only
    split
    · rename_i same
      have isWpa : elem.isWpa mem = true := by
        simp [InfoElement.isWpa, generic, Nat.not_lt.mp long, same]
      exact
        { rates := rates
          copies := (copiesFit_cons (s := s) rfl).trans
            (and_congr_left' ⟨fun _ => fits, fun _ => Nat.min_le_right _ _⟩)
          ssid := fun _ => by simp [notSsid, onWpa, copy, BeaconParse.read]
          wpa := by simp [isWpa, onWpa]
          rsn := by simp [notRsn, onWpa, copy, BeaconParse.read] }
    · rename_i differs
      have notWpa : elem.isWpa mem = false := by simp [InfoElement.isWpa, differs]
      have same := quiet notWpa
      split
      · exact ⟨same.rates, same.copies, same.ssid, same.wpa, same.rsn⟩
      · split
        · exact ⟨same.rates, same.copies, same.ssid, same.wpa, same.rsn⟩
        · exact ⟨same.rates, same.copies, same.ssid, same.wpa, same.rsn⟩

/-- Elements of other types than SSID, WPA and RSN leave the three lengths alone. -/
theorem takes_of_quiet {elem : InfoElement} {t : BeaconParse w}
    (notSsid : elem.type ≠ .ssid) (notGeneric : elem.type ≠ .generic) (notRsn : elem.type ≠ .rsn)
    (rates : t.nBasicRates ≤ maxRates) (copies : t.CopiesFit ↔ elem.Fits ∧ s.CopiesFit)
    (ssid : t.bss.ssidLen = s.bss.ssidLen) (wpa : t.bss.wpaIeLen = s.bss.wpaIeLen)
    (rsn : t.bss.rsnIeLen = s.bss.rsnIeLen) : Takes mem elem s t where
  rates := rates
  copies := copies
  ssid := fun _ => by simp [InfoElement.isSsid, notSsid, ssid]
  wpa := by simp [InfoElement.isWpa, notGeneric, wpa]
  rsn := by simp [InfoElement.isRsn, notRsn, rsn]

/-- One more copy, which fits if and only if the element does. -/
theorem copiesFit_one {elem : InfoElement} {t : BeaconParse w} {capacity count : Nat}
    (copies : t.copies = { capacity := capacity, count := count } :: s.copies)
    (fits : count ≤ capacity ↔ elem.Fits) : t.CopiesFit ↔ elem.Fits ∧ s.CopiesFit :=
  (copiesFit_cons copies).trans (and_congr_left' fits)

/-- A short SSID does not reach the fields behind. -/
theorem spilled_of_le {elem : InfoElement} {offset : Nat} (short : elem.len.toNat ≤ offset)
    (field : List UInt8) : spilled mem elem offset field = field := by
  rw [spilled, Nat.sub_eq_zero_of_le short, Nat.zero_min]
  rfl

/-- The switch keeps the descriptor in step with the accepted elements. -/
theorem takes_onElement (elem : InfoElement) (rates : s.nBasicRates ≤ maxRates) :
    Takes mem elem s (s.onElement mem elem) := by
  rw [onElement]
  cases type : elem.type with
  | ssid =>
      have fits : elem.len.toNat ≤ iwEssidMaxSize + 1 ↔ elem.Fits := by
        simp [InfoElement.Fits, type]
      exact
        { rates := rates
          copies := copiesFit_one rfl fits
          ssid := fun short => by
            have kept : spilled mem elem ssidToSsidLen [elem.len] = [elem.len] :=
              spilled_of_le (fits.mpr short) _
            rw [if_pos (by simp [InfoElement.isSsid, type])]
            show byteAt (spilled mem elem ssidToSsidLen [elem.len]) 0 = elem.len
            rw [kept]
            rfl
          wpa := by simp [InfoElement.isWpa, type, onSsid, copy, BeaconParse.read]
          rsn := by simp [InfoElement.isRsn, type, onSsid, copy, BeaconParse.read] }
  | rsn =>
      have fits : elem.Fits := fits_of_type (by simp [type]) (by simp [type])
      exact
        { rates := rates
          copies := copiesFit_one rfl ⟨fun _ => fits, fun _ => Nat.min_le_right _ _⟩
          ssid := fun _ => by simp [InfoElement.isSsid, type, onRsn, copy, BeaconParse.read]
          wpa := by simp [InfoElement.isWpa, type, onRsn, copy, BeaconParse.read]
          rsn := by simp [InfoElement.isRsn, type, onRsn] }
  | generic => exact takes_onGeneric rates type
  | country =>
      have fits : elem.len.toNat + 2 ≤ 254 ↔ elem.Fits := by simp [InfoElement.Fits, type]
      exact takes_of_quiet (by simp [type]) (by simp [type]) (by simp [type]) rates
        (copiesFit_one rfl fits) rfl rfl rfl
  | rates =>
      have fits : elem.Fits := fits_of_type (by simp [type]) (by simp [type])
      exact takes_of_quiet (by simp [type]) (by simp [type]) (by simp [type])
        (Nat.min_le_left _ _)
        (copiesFit_one rfl ⟨fun _ => fits, fun _ => Nat.le_succ_of_le (Nat.min_le_left _ _)⟩)
        rfl rfl rfl
  | ratesEx =>
      have fits : elem.Fits := fits_of_type (by simp [type]) (by simp [type])
      dsimp only
      rw [onRatesEx]
      split
      · exact takes_of_quiet (by simp [type]) (by simp [type]) (by simp [type])
          rates (by simp [fits]) rfl rfl rfl
      · -- The source clamps the number of extended rates to what is left of the array.
        refine takes_of_quiet (by simp [type]) (by simp [type]) (by simp [type])
          rates (copiesFit_one rfl ⟨fun _ => fits, fun _ => ?_⟩) rfl rfl rfl
        split <;> omega
  | other =>
      have fits : elem.Fits := fits_of_type (by simp [type]) (by simp [type])
      exact takes_of_quiet (by simp [type]) (by simp [type]) (by simp [type])
        rates (by simp [fits]) rfl rfl rfl
  | fhSet | dsSet | cfSet | ibssSet =>
      have fits : elem.Fits := fits_of_type (by simp [type]) (by simp [type])
      exact takes_of_quiet (by simp [type]) (by simp [type]) (by simp [type])
        rates (copiesFit_one rfl ⟨fun _ => fits, fun _ => Nat.le_refl _⟩) rfl rfl rfl

/-- An accepted element keeps the descriptor in step. -/
theorem Tracks.accept_onElement (tracks : s.Tracks mem) (elem : InfoElement) :
    ((s.accept elem).onElement mem elem).Tracks mem := by
  have takes : Takes mem elem (s.accept elem) ((s.accept elem).onElement mem elem) :=
    takes_onElement elem tracks.rates
  have accepted : ((s.accept elem).onElement mem elem).accepted = elem :: s.accepted :=
    (onElement_grows (s.accept elem) mem elem).2
  refine ⟨takes.rates, ?_, ?_, ?_, ?_⟩
  · rw [takes.copies, accepted, List.forall_mem_cons]
    exact and_congr_right' tracks.copies
  · intro fits
    rw [accepted, List.forall_mem_cons] at fits
    rw [takes.ssid fits.1, accepted, List.find?_cons]
    cases elem.isSsid with
    | true => rfl
    | false => exact tracks.ssid fits.2
  · rw [takes.wpa, accepted, List.find?_cons]
    cases elem.isWpa mem with
    | true => rfl
    | false => exact tracks.wpa
  · rw [takes.rsn, accepted, List.find?_cons]
    cases elem.isRsn with
    | true => rfl
    | false => exact tracks.rsn

/-- The loop keeps the descriptor in step with the accepted elements. -/
theorem Tracks.ieLoop (size fuel pos : Nat) (tracks : s.Tracks mem) :
    (ieLoop mem size fuel pos s).1.Tracks mem := by
  induction fuel generalizing pos s with
  | zero => exact tracks
  | succ fuel ih =>
      rw [BeaconParse.ieLoop]
      split
      · dsimp only
        split
        · exact tracks.read _ _
        · split
          · exact (tracks.read _ _).read _ _
          · exact ih _ (((tracks.read _ _).read _ _).accept_onElement _)
      · exact tracks

theorem Tracks.start : (start : BeaconParse w).Tracks mem where
  rates := Nat.zero_le _
  copies := by simp [CopiesFit, BeaconParse.start]
  ssid := fun _ => rfl
  wpa := rfl
  rsn := rfl

theorem Tracks.takeBssid (tracks : s.Tracks mem) : (s.takeBssid mem).Tracks mem where
  rates := tracks.rates
  copies := by
    have fits : (s.takeBssid mem).CopiesFit ↔ ethAlen ≤ ethAlen ∧ s.CopiesFit :=
      copiesFit_cons rfl
    rw [fits]
    simp only [Nat.le_refl, true_and]
    exact tracks.copies
  ssid := tracks.ssid
  wpa := tracks.wpa
  rsn := tracks.rsn

/-- What the parser leaves behind is what the accepted elements make of it. -/
theorem tracks_processRecord (mem : List UInt8) (size : Nat) :
    (processRecord (w := w) mem size).1.Tracks mem := by
  have start : (start (w := w)).Tracks mem := .start
  rw [processRecord]
  split
  · exact start
  · dsimp only
    have bssid := start.takeBssid
    split
    · exact bssid
    · have fixed : ((BeaconParse.start (w := w).takeBssid mem).fixedPart mem).Tracks mem :=
        ⟨bssid.rates, bssid.copies, bssid.ssid, bssid.wpa, bssid.rsn⟩
      have loop := fixed.ieLoop size size 19
      split
      · exact ⟨loop.rates, loop.copies, loop.ssid, loop.wpa, loop.rsn⟩
      · exact loop

/-- The loop gives up at a rejected element only. -/
theorem ieLoop_succeeds_iff {fuel pos : Nat} (s : BeaconParse w) :
    (ieLoop mem size fuel pos s).2 = true ↔
      ∀ elem ∈ headersFrom mem size fuel pos, elem.passes size = true → elem.rejected = false := by
  induction fuel generalizing pos s with
  | zero => simp [ieLoop, headersFrom]
  | succ fuel ih =>
      rw [ieLoop, headersFrom]
      split
      · dsimp only
        rw [List.forall_mem_cons]
        by_cases passes : pos + (elementAt mem pos).len.toNat ≤ size
        · have passed : (elementAt mem pos).passes size = true := decide_eq_true passes
          rw [if_neg (Nat.not_lt.mpr passes)]
          cases rejected : (elementAt mem pos).rejected with
          | true => simp [passed]
          | false =>
              have taken : (elementAt mem pos).taken size = true := by
                simp [InfoElement.taken, passed, rejected]
              rw [if_neg Bool.false_ne_true, ih, if_pos taken]
              simp
        · have failed : (elementAt mem pos).passes size = false := decide_eq_false passes
          rw [if_pos (Nat.lt_of_not_le passes)]
          simp [InfoElement.taken, failed]
      · simp

/-- The parser succeeds on a record with a whole fixed part and no rejected element. -/
theorem processRecord_succeeds_iff :
    (processRecord (w := w) mem size).2 = true ↔ ethAlen + 12 ≤ size ∧
      ∀ elem ∈ recordHeaders mem size, elem.passes size = true → elem.rejected = false := by
  rw [processRecord, recordHeaders]
  by_cases empty : size = 0
  · subst empty
    simp [ethAlen]
  · rw [if_neg empty]
    dsimp only
    split
    · rename_i short
      simp [Nat.not_le.mpr short]
    · rename_i long
      rw [← ieLoop_succeeds_iff ((start (w := w).takeBssid mem).fixedPart mem)]
      split <;> simp_all

end BeaconParse

/-- The last element of a kind that the parser takes. -/
def lastTaken (mem : List UInt8) (size : Nat) (select : InfoElement → Bool) :
    Option InfoElement :=
  ((recordHeaders mem size).filter (·.taken size)).reverse.find? select

/-- A descriptor whose lengths are in bounds and those of the last elements accepted. -/
structure BeaconParse.WellFormed {w : Nat} (mem : List UInt8) (s : BeaconParse w) : Prop where
  ssid : s.bss.ssidLen.toNat ≤ iwEssidMaxSize
  country : ∀ elem ∈ s.accepted, elem.type = .country → elem.len.toNat + 2 ≤ 254
  wpa : s.bss.wpaIeLen ≤ maxWpaIeLen
  rsn : s.bss.rsnIeLen ≤ maxWpaIeLen
  lastWpa : s.bss.wpaIeLen = InfoElement.keptLen (s.accepted.find? (·.isWpa mem))
  lastRsn : s.bss.rsnIeLen = InfoElement.keptLen (s.accepted.find? (·.isRsn))

theorem keptLen_le (found : Option InfoElement) : InfoElement.keptLen found ≤ maxWpaIeLen := by
  cases found with
  | none => exact Nat.zero_le _
  | some elem => exact Nat.min_le_right _ _

/-- The copies of the parser fit and the descriptor is well-formed, if and only if no SSID element
has more than 33 bytes and no country element more than 252, and the last SSID element has at most
32 bytes, unless an element is rejected. -/
theorem processRecord_wellFormed_iff {w : Nat} (mem : List UInt8) (size : Nat) :
    ((processRecord (w := w) mem size).1.CopiesFit ∧
      ((processRecord (w := w) mem size).2 = true →
        (processRecord (w := w) mem size).1.WellFormed mem)) ↔
      (∀ elem ∈ recordHeaders mem size, elem.taken size = true → elem.Fits) ∧
        ((∀ elem ∈ recordHeaders mem size, elem.passes size = true → elem.rejected = false) →
          ∀ elem, lastTaken mem size (·.isSsid) = some elem →
            elem.len.toNat ≤ iwEssidMaxSize) := by
  have tracks := BeaconParse.tracks_processRecord (w := w) mem size
  have accepted := BeaconParse.accepted_processRecord (w := w) mem size
  have copies : (processRecord (w := w) mem size).1.CopiesFit ↔
      ∀ elem ∈ recordHeaders mem size, elem.taken size = true → elem.Fits := by
    rw [tracks.copies, accepted]
    simp
  rw [copies]
  refine and_congr_right fun fits => ?_
  have ssid : (processRecord (w := w) mem size).1.bss.ssidLen =
      InfoElement.ssidLen (lastTaken mem size (·.isSsid)) := by
    rw [tracks.ssid (tracks.copies.mp (copies.mpr fits)), accepted]
    rfl
  constructor
  · intro wellFormed settled elem last
    by_cases long : ethAlen + 12 ≤ size
    · have bounded := (wellFormed
        (BeaconParse.processRecord_succeeds_iff.mpr ⟨long, settled⟩)).ssid
      rw [ssid, last] at bounded
      exact bounded
    · rw [lastTaken, recordHeaders] at last
      rw [if_pos (Nat.lt_of_not_le long)] at last
      cases last
  · intro bounded succeeds
    have settled := (BeaconParse.processRecord_succeeds_iff.mp succeeds).2
    refine ⟨?_, ?_, ?_, ?_, tracks.wpa, tracks.rsn⟩
    · rw [ssid]
      cases last : lastTaken mem size (·.isSsid) with
      | none => exact Nat.zero_le _
      | some elem => exact bounded settled elem last
    · intro elem member country
      exact (tracks.copies.mp (copies.mpr fits) elem member).2 country
    · rw [tracks.wpa]
      exact keptLen_le _
    · rw [tracks.rsn]
      exact keptLen_le _

/-- An SSID element of 40 bytes overflows its destination by 7 bytes. -/
theorem processRecord_overflows :
    ¬ ((processRecord (w := 32) (List.replicate 20 0 ++ [40]) 61).1.CopiesFit ∧
      ((processRecord (w := 32) (List.replicate 20 0 ++ [40]) 61).2 = true →
        (processRecord (w := 32) (List.replicate 20 0 ++ [40]) 61).1.WellFormed
          (List.replicate 20 0 ++ [40]))) :=
  fun sound => absurd sound.1 (by decide +kernel)

end Libertas

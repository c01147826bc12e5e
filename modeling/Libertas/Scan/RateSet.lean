import Libertas.Scan.Descriptor
import Mathlib.Data.List.Induction

/-!
# The bit rates of a beacon

Three kinds of elements write to the array of bit rates: the two elements with rates,
and an SSID element that is so long that its copy runs into the array. Each index holds
the byte that was written to it last.
-/

namespace Libertas

open ByteOrder

namespace InfoElement

def isRates (elem : InfoElement) : Bool :=
  elem.type = .rates

/-- The element is one of the two with bit rates. -/
def hasRates (elem : InfoElement) : Bool :=
  elem.type = .rates || elem.type = .ratesEx

/-- `n_basic_rates` behind some elements, of which the newest is the first. -/
def basicCount (accepted : List InfoElement) : Nat :=
  (accepted.find? (·.isRates)).elim 0 fun basic => min maxRates basic.len.toNat

/-- The data byte that an element puts at an index of the bit rates, behind the elements that were
accepted before. -/
def rateSource (k : Nat) (before : List InfoElement) (elem : InfoElement) : Option Nat :=
  match elem.type with
  | .ssid => if ssidToRates + k < elem.len.toNat then some (ssidToRates + k) else none
  | .rates => if k < min maxRates elem.len.toNat then some k else none
  | .ratesEx =>
      if (before.find? (·.isRates)).isSome ∧ basicCount before ≤ k ∧
          k < min maxRates (basicCount before + elem.len.toNat) then
        some (k - basicCount before)
      else none
  | _ => none

/-- The element that wrote last to an index of the bit rates, and the data byte. -/
def lastWrite (k : Nat) : List InfoElement → Option (InfoElement × Nat)
  | [] => none
  | elem :: before =>
      match rateSource k before elem with
      | some i => some (elem, i)
      | none => lastWrite k before

/-- The byte that was written last to an index of the cleared bit rates. -/
def lastByte (mem : List UInt8) (k : Nat) (accepted : List InfoElement) : UInt8 :=
  (lastWrite k accepted).elim 0 fun (elem, i) => byteAt mem (elem.data + i)

theorem lastByte_cons (mem : List UInt8) (k : Nat) (elem : InfoElement)
    (before : List InfoElement) :
    lastByte mem k (elem :: before) =
      (rateSource k before elem).elim (lastByte mem k before) fun i =>
        byteAt mem (elem.data + i) := by
  rw [lastByte]
  rw [lastWrite]
  cases rateSource k before elem <;> rfl

theorem basicCount_le (accepted : List InfoElement) : basicCount accepted ≤ maxRates := by
  rw [basicCount]
  cases accepted.find? (·.isRates) with
  | none => exact Nat.zero_le _
  | some basic => exact Nat.min_le_left _ _

end InfoElement

namespace BeaconParse

open InfoElement

variable {w : Nat} {s t : BeaconParse w} {mem : List UInt8} {elem : InfoElement}

/-- The bit rates are what the accepted elements have written, and the locals agree. -/
structure RateTrack (mem : List UInt8) (s : BeaconParse w) : Prop where
  length : s.bss.rates.length = maxRates + 1
  got : s.gotBasicRates = (s.accepted.find? (·.isRates)).isSome
  count : s.nBasicRates = basicCount s.accepted
  bytes : ∀ k ≤ maxRates, byteAt s.bss.rates k = lastByte mem k s.accepted

theorem RateTrack.start : (start : BeaconParse w).RateTrack mem where
  length := rfl
  got := rfl
  count := rfl
  bytes k le := by
    rw [maxRates] at le
    show byteAt (List.replicate 15 0) k = 0
    exact List.getD_replicate 0 (by omega)

/-- An element that writes no bit rates. -/
theorem RateTrack.quiet (track : s.RateTrack mem) (accepted : t.accepted = elem :: s.accepted)
    (rates : t.bss.rates = s.bss.rates) (got : t.gotBasicRates = s.gotBasicRates)
    (count : t.nBasicRates = s.nBasicRates) (other : elem.isRates = false)
    (source : ∀ k, rateSource k s.accepted elem = none) : t.RateTrack mem := by
  have same : (elem :: s.accepted).find? (·.isRates) = s.accepted.find? (·.isRates) := by
    rw [List.find?_cons, other]
  refine ⟨rates ▸ track.length, ?_, ?_, fun k le => ?_⟩
  · rw [got, track.got, accepted, same]
  · rw [count, track.count, accepted, basicCount, basicCount, same]
  · rw [rates, track.bytes k le, accepted, lastByte_cons, source k]
    rfl

/-- An element of which some bytes are copied into the array. -/
theorem RateTrack.written (start skipped count : Nat) (track : s.RateTrack mem)
    (accepted : t.accepted = elem :: s.accepted) (room : start + count ≤ maxRates + 1)
    (rates : t.bss.rates = s.bss.rates.take start ++
      overwrite (slice mem (elem.data + skipped) count) (s.bss.rates.drop start))
    (got : t.gotBasicRates = (t.accepted.find? (·.isRates)).isSome)
    (counted : t.nBasicRates = basicCount t.accepted)
    (source : ∀ k ≤ maxRates, rateSource k s.accepted elem =
      if start ≤ k ∧ k < start + count then some (skipped + (k - start)) else none) :
    t.RateTrack mem := by
  have length := track.length
  refine ⟨?_, got, counted, fun k le => ?_⟩
  · rw [rates, overwrite, List.length_append, List.length_append, slice_length,
      List.length_take_of_le (by omega), List.length_drop, List.length_drop, length]
    omega
  · rw [rates, byteAt_overwrite_at (by omega), accepted, lastByte_cons, source k le]
    split
    · rw [Option.elim_some, Nat.add_assoc]
    · exact track.bytes k le

theorem RateTrack.onSsid (track : s.RateTrack mem) (type : elem.type = .ssid) :
    ((s.accept elem).onSsid mem elem).RateTrack mem := by
  have other : elem.isRates = false := by
    rw [isRates]
    rw [type]
    rfl
  have same : (elem :: s.accepted).find? (·.isRates) = s.accepted.find? (·.isRates) := by
    rw [List.find?_cons, other]
  refine track.written 0 ssidToRates (min (elem.len.toNat - ssidToRates) (maxRates + 1)) rfl
    (by omega) rfl ?_ ?_ ?_
  · show s.gotBasicRates = ((elem :: s.accepted).find? (·.isRates)).isSome
    rw [same, track.got]
  · show s.nBasicRates = basicCount (elem :: s.accepted)
    rw [track.count, basicCount, basicCount, same]
  · intro k le
    rw [rateSource]
    rw [type]
    dsimp only
    congr 1
    · rw [eq_iff_iff]
      omega

theorem RateTrack.onRates (track : s.RateTrack mem) (type : elem.type = .rates) :
    ((s.accept elem).onRates mem elem).RateTrack mem := by
  have first : (elem :: s.accepted).find? (·.isRates) = some elem := by
    rw [List.find?_cons, isRates, type]
    rfl
  refine track.written 0 0 (min maxRates elem.len.toNat) rfl (by omega) rfl ?_ ?_ ?_
  · show true = ((elem :: s.accepted).find? (·.isRates)).isSome
    rw [first, Option.isSome_some]
  · show min maxRates elem.len.toNat = basicCount (elem :: s.accepted)
    rw [basicCount, first, Option.elim_some]
  · intro k le
    rw [rateSource]
    rw [type]
    simp

theorem RateTrack.onRatesEx (track : s.RateTrack mem) (type : elem.type = .ratesEx) :
    ((s.accept elem).onRatesEx mem elem).RateTrack mem := by
  have other : elem.isRates = false := by
    rw [isRates]
    rw [type]
    rfl
  have same : (elem :: s.accepted).find? (·.isRates) = s.accepted.find? (·.isRates) := by
    rw [List.find?_cons, other]
  have few := basicCount_le s.accepted
  have count : s.nBasicRates = basicCount (elem :: s.accepted) := by
    rw [track.count, basicCount, basicCount, same]
  have got : s.gotBasicRates = ((elem :: s.accepted).find? (·.isRates)).isSome := by
    rw [same, track.got]
  cases found : s.gotBasicRates with
  | false =>
      have skipped : (s.accept elem).onRatesEx mem elem = s.accept elem := by
        rw [BeaconParse.onRatesEx]
        rw [show (s.accept elem).gotBasicRates = false from found]
        rfl
      rw [skipped]
      rw [track.got] at found
      refine track.quiet rfl rfl rfl rfl other fun k => ?_
      rw [rateSource]
      rw [type, found]
      simp
  | true =>
      have ignored : ¬ (!(s.accept elem).gotBasicRates) = true := by
        rw [show (s.accept elem).gotBasicRates = true from found]
        decide
      rw [BeaconParse.onRatesEx]
      rw [if_neg ignored]
      refine track.written s.nBasicRates 0 (if s.nBasicRates + elem.len.toNat > maxRates then
        maxRates - s.nBasicRates else elem.len.toNat) rfl ?_ rfl got count fun k le => ?_
      · rw [track.count]
        split <;> omega
      · rw [track.got] at found
        rw [rateSource]
        rw [type, found, track.count]
        simp only [true_and]
        congr 1
        · rw [eq_iff_iff]
          split <;> omega
        · rw [Nat.zero_add]

/-- Elements of the other types write no bit rates. -/
theorem RateTrack.others (track : s.RateTrack mem) (accepted : t.accepted = elem :: s.accepted)
    (rates : t.bss.rates = s.bss.rates) (got : t.gotBasicRates = s.gotBasicRates)
    (count : t.nBasicRates = s.nBasicRates)
    (type : elem.type ∉ [.ssid, .rates, .ratesEx]) : t.RateTrack mem := by
  apply track.quiet accepted rates got count
  · exact decide_eq_false fun same => type (by simp [same])
  · intro k
    rw [rateSource]
    split <;> simp_all

theorem onGeneric_keeps (s : BeaconParse w) (mem : List UInt8) (elem : InfoElement) :
    (s.onGeneric mem elem).bss.rates = s.bss.rates ∧
      (s.onGeneric mem elem).gotBasicRates = s.gotBasicRates ∧
      (s.onGeneric mem elem).nBasicRates = s.nBasicRates := by
  rw [onGeneric]
  split
  · exact ⟨rfl, rfl, rfl⟩
  dsimp only
  split
  · exact ⟨rfl, rfl, rfl⟩
  split
  · exact ⟨rfl, rfl, rfl⟩
  split <;> exact ⟨rfl, rfl, rfl⟩

theorem RateTrack.accept_onElement (track : s.RateTrack mem) (elem : InfoElement) :
    ((s.accept elem).onElement mem elem).RateTrack mem := by
  have accepted : ((s.accept elem).onElement mem elem).accepted = elem :: s.accepted :=
    (onElement_grows (s.accept elem) mem elem).2
  rw [BeaconParse.onElement] at accepted ⊢
  cases type : elem.type with
  | ssid => exact track.onSsid type
  | rates => exact track.onRates type
  | ratesEx => exact track.onRatesEx type
  | fhSet => exact track.others rfl rfl rfl rfl (by simp [type])
  | dsSet => exact track.others rfl rfl rfl rfl (by simp [type])
  | cfSet => exact track.others rfl rfl rfl rfl (by simp [type])
  | ibssSet => exact track.others rfl rfl rfl rfl (by simp [type])
  | country => exact track.others rfl rfl rfl rfl (by simp [type])
  | rsn => exact track.others rfl rfl rfl rfl (by simp [type])
  | other => exact track.others rfl rfl rfl rfl (by simp [type])
  | generic =>
      rw [type] at accepted
      obtain ⟨rates, got, count⟩ := onGeneric_keeps (s.accept elem) mem elem
      exact track.others accepted rates got count (by simp [type])

/-- The loop keeps the bit rates in step with the accepted elements. -/
theorem RateTrack.ieLoop (size fuel pos : Nat) (track : s.RateTrack mem) :
    (ieLoop mem size fuel pos s).1.RateTrack mem := by
  induction fuel generalizing pos s with
  | zero => exact track
  | succ fuel ih =>
      have read : (s.read (pos + 1) 1).RateTrack mem :=
        ⟨track.length, track.got, track.count, track.bytes⟩
      rw [BeaconParse.ieLoop]
      split
      · dsimp only
        split
        · exact read
        · have header : ((s.read (pos + 1) 1).read pos 1).RateTrack mem :=
            ⟨read.length, read.got, read.count, read.bytes⟩
          split
          · exact header
          · exact ih _ (header.accept_onElement _)
      · exact track

end BeaconParse

/-- The elements of a record that the parser takes, in order. -/
def takenElements (mem : List UInt8) (size : Nat) : List InfoElement :=
  (recordHeaders mem size).filter (·.taken size)

/-- The masked bit rates that some elements leave behind, of which the newest is the first. -/
def rateBytes (mem : List UInt8) (accepted : List InfoElement) : List UInt8 :=
  (List.range (maxRates + 1)).map fun k => InfoElement.lastByte mem k accepted &&& 0x7f

@[simp] theorem length_rateBytes (mem : List UInt8) (accepted : List InfoElement) :
    (rateBytes mem accepted).length = maxRates + 1 := by
  simp [rateBytes]

theorem byteAt_rateBytes (mem : List UInt8) (accepted : List InfoElement) {k : Nat}
    (le : k ≤ maxRates) :
    byteAt (rateBytes mem accepted) k = InfoElement.lastByte mem k accepted &&& 0x7f := by
  simp [rateBytes, byteAt, List.getD_eq_getElem?_getD, Nat.lt_succ_of_le le]

/-- The switch over the type, applied to one element after the other. -/
def parseElements (w : Nat) (mem : List UInt8) (elems : List InfoElement) : BeaconParse w :=
  elems.foldl (fun s elem => (s.accept elem).onElement mem elem) .start

namespace BeaconParse

variable {w : Nat} {s : BeaconParse w} {mem : List UInt8} {size : Nat}

theorem RateTrack.unset (track : s.RateTrack mem) :
    s.unsetBasicRateFlags.bss.rates = rateBytes mem s.accepted := by
  apply List.ext_getElem
  · rw [length_rateBytes]
    exact (List.length_map _).trans track.length
  · intro k left right
    have below : k < s.bss.rates.length := Nat.lt_of_lt_of_eq left (List.length_map _)
    have length := track.length
    have byte := track.bytes k (by omega)
    have here : s.bss.rates[k] = byteAt s.bss.rates k := by
      simp [byteAt, List.getD_eq_getElem?_getD, below]
    simp [unsetBasicRateFlags, rateBytes, here, byte]

theorem rates_processRecord (parsed : (processRecord (w := w) mem size).2 = true) :
    (processRecord (w := w) mem size).1.bss.rates =
      rateBytes mem (takenElements mem size).reverse := by
  have accepted := accepted_processRecord (w := w) mem size
  rw [takenElements, ← accepted]
  rw [processRecord] at parsed ⊢
  split at parsed
  · cases parsed
  dsimp only at parsed ⊢
  split at parsed
  · cases parsed
  rename_i some long
  rw [if_neg some, if_neg long]
  have start : (BeaconParse.start : BeaconParse w).RateTrack mem := .start
  have fixed : ((BeaconParse.start (w := w).takeBssid mem).fixedPart mem).RateTrack mem :=
    ⟨start.length, start.got, start.count, start.bytes⟩
  have loop := fixed.ieLoop size size 19
  split at parsed
  · rename_i done
    rw [if_pos done]
    exact loop.unset
  · cases parsed

theorem track_parseElements (elems : List InfoElement) :
    (parseElements w mem elems).RateTrack mem ∧
      (parseElements w mem elems).accepted = elems.reverse := by
  induction elems using List.reverseRecOn with
  | nil => exact ⟨.start, rfl⟩
  | append_singleton elems elem ih =>
      rw [parseElements] at ih ⊢
      rw [List.foldl_concat, List.reverse_concat]
      refine ⟨ih.1.accept_onElement elem, ?_⟩
      rw [(onElement_grows _ mem elem).2, ← ih.2]
      rfl

theorem rates_parseElements (elems : List InfoElement) :
    (parseElements w mem elems).unsetBasicRateFlags.bss.rates = rateBytes mem elems.reverse := by
  obtain ⟨track, accepted⟩ := @track_parseElements w mem elems
  rw [track.unset, accepted]

end BeaconParse

/-- Among the elements that are taken there are one with rates and, later, one with extended rates,
and both lie inside the record. -/
structure RatePair (mem : List UInt8) (size : Nat) (basic ex : InfoElement) : Prop where
  two : (takenElements mem size).filter (·.hasRates) = [basic, ex]
  isBasic : basic.type = .rates
  isEx : ex.type = .ratesEx
  basicInside : basic.next ≤ size
  exInside : ex.next ≤ size

/-- The first bytes of both elements, masked, and zeros behind them. -/
def pairRates (mem : List UInt8) (basic ex : InfoElement) : List UInt8 :=
  overwrite
    (((slice mem basic.data basic.len.toNat ++ slice mem ex.data ex.len.toNat).take maxRates).map
      (· &&& 0x7f))
    (List.replicate (maxRates + 1) 0)

/-- The bit rates of a descriptor that was filled from a record. -/
structure RatesSound (w : Nat) (mem : List UInt8) (size : Nat) (rates : List UInt8) : Prop where
  length : rates.length = maxRates + 1
  terminated : ∃ k ≤ maxRates, byteAt rates k = 0
  masked : ∀ rate ∈ rates, rate < 0x80
  pair : ∀ basic ex, RatePair mem size basic ex → rates = pairRates mem basic ex
  ignored : ∀ front ex back, takenElements mem size = front ++ ex :: back → ex.type = .ratesEx →
    (∀ elem ∈ front, elem.type ≠ .rates) →
    rates = (parseElements w mem (front ++ back)).unsetBasicRateFlags.bss.rates

/-- No SSID element does harm: some index of the bit rates is not written at all, or last by a zero,
and where one element with rates is followed by one with extended rates, an SSID element that
writes last to some index puts the right byte there. -/
structure SsidsHarmless (mem : List UInt8) (size : Nat) : Prop where
  terminated : ∃ k ≤ maxRates, ∀ elem i,
    InfoElement.lastWrite k (takenElements mem size).reverse = some (elem, i) →
      byteAt mem (elem.data + i) &&& 0x7f = 0
  pair : ∀ basic ex, RatePair mem size basic ex → ∀ k ≤ maxRates, ∀ elem i,
    InfoElement.lastWrite k (takenElements mem size).reverse = some (elem, i) →
      elem.type = .ssid → byteAt mem (elem.data + i) &&& 0x7f = byteAt (pairRates mem basic ex) k

namespace InfoElement

variable {mem : List UInt8} {k i : Nat} {elem : InfoElement} {accepted : List InfoElement}

theorem lastByte_masked_eq_iff {byte : UInt8} :
    lastByte mem k accepted &&& 0x7f = byte ↔
      (lastWrite k accepted = none → byte = 0) ∧
      ∀ elem i, lastWrite k accepted = some (elem, i) →
        byteAt mem (elem.data + i) &&& 0x7f = byte := by
  rw [lastByte]
  cases lastWrite k accepted with
  | none => simp [eq_comm]
  | some write =>
      obtain ⟨elem, i⟩ := write
      simp

/-- The last element that writes, with the ones before it. -/
theorem lastWrite_some (last : lastWrite k accepted = some (elem, i)) :
    ∃ after before, accepted = after ++ elem :: before ∧ rateSource k before elem = some i := by
  induction accepted with
  | nil => cases last
  | cons first before ih =>
      rw [lastWrite] at last
      split at last
      · rename_i source
        cases last
        exact ⟨[], before, rfl, source⟩
      · obtain ⟨after, rest, rfl, source⟩ := ih last
        exact ⟨first :: after, rest, rfl, source⟩

theorem lastWrite_none (none : lastWrite k accepted = none) (after before : List InfoElement)
    (split : accepted = after ++ elem :: before) : rateSource k before elem = .none := by
  subst split
  induction after with
  | nil =>
      rw [List.nil_append, lastWrite] at none
      cases source : rateSource k before elem with
      | none => rfl
      | some i =>
          rw [source] at none
          cases none
  | cons first after ih =>
      rw [List.cons_append, lastWrite] at none
      split at none
      · cases none
      · exact ih none

/-- An element with extended rates in front of the first one with rates writes nothing. -/
theorem lastWrite_ignored {before : List InfoElement} (ex : elem.type = .ratesEx)
    (early : ∀ x ∈ before, x.type ≠ .rates) (after : List InfoElement) :
    lastWrite k (after ++ elem :: before) = lastWrite k (after ++ before) := by
  have none : before.find? (·.isRates) = none := by
    rw [List.find?_eq_none]
    intro x member
    simpa [isRates] using early x member
  induction after with
  | nil =>
      rw [List.nil_append, List.nil_append, lastWrite, rateSource, ex, none]
      simp
  | cons first after ih =>
      have other : elem.isRates = false := by
        rw [isRates, ex]
        rfl
      have same : (after ++ elem :: before).find? (·.isRates) =
          (after ++ before).find? (·.isRates) := by
        rw [List.find?_append, List.find?_append, List.find?_cons, other]
      have source : rateSource k (after ++ elem :: before) first =
          rateSource k (after ++ before) first := by
        unfold rateSource basicCount
        rw [same]
      rw [List.cons_append, List.cons_append, lastWrite, lastWrite, source, ih]

/-- An element that writes and is no SSID element has rates. -/
theorem hasRates_of_source {before : List InfoElement} (source : rateSource k before elem = some i)
    (other : elem.type ≠ .ssid) : elem.hasRates = true := by
  rw [rateSource] at source
  rw [hasRates]
  cases type : elem.type <;> simp_all

section Pair

variable {basic ex : InfoElement}

/-- The one element with rates is the newest in front of the one with extended rates. -/
theorem find_of_two (two : accepted.filter (·.hasRates) = [ex, basic])
    (isBasic : basic.type = .rates) (isEx : ex.type = .ratesEx) {after before : List InfoElement}
    (split : accepted = after ++ ex :: before) : before.find? (·.isRates) = some basic := by
  have exRates : ex.hasRates = true := by simp [hasRates, isEx]
  rw [split, List.filter_append, List.filter_cons_of_pos exRates] at two
  have behind : before.filter (·.hasRates) = [basic] := by
    cases newer : after.filter (·.hasRates) with
    | nil =>
        rw [newer, List.nil_append] at two
        exact (List.cons.inj two).2
    | cons x rest =>
        -- Then `ex` would be the older one.
        rw [newer, List.cons_append] at two
        have older := (List.cons.inj two).2
        have same : ex = basic := by
          cases rest with
          | nil => exact (List.cons.inj older).1
          | cons y rest =>
              have length := congrArg List.length older
              simp at length
        rw [same, isBasic] at isEx
        cases isEx
  have found := congrArg (List.find? (·.isRates)) behind
  rw [List.find?_filter] at found
  have basicRates : basic.isRates = true := by simp [isRates, isBasic]
  rw [List.find?_cons_of_pos basicRates] at found
  rw [← found]
  congr 1
  funext x
  cases type : x.type <;> simp [isRates, hasRates, type]

theorem byteAt_pairRates (le : k ≤ maxRates) :
    byteAt (pairRates mem basic ex) k =
      if k < min maxRates basic.len.toNat then byteAt mem (basic.data + k) &&& 0x7f
      else if k < min maxRates (basic.len.toNat + ex.len.toNat) then
        byteAt mem (ex.data + (k - basic.len.toNat)) &&& 0x7f
      else 0 := by
  rw [pairRates]
  have length : (slice mem basic.data basic.len.toNat ++ slice mem ex.data ex.len.toNat).length =
      basic.len.toNat + ex.len.toNat := by
    rw [List.length_append, slice_length, slice_length]
  generalize joined : slice mem basic.data basic.len.toNat ++ slice mem ex.data ex.len.toNat =
    bytes at length
  by_cases inside : k < min maxRates (basic.len.toNat + ex.len.toNat)
  · have here : k < bytes.length := by omega
    have masked : byteAt (overwrite ((bytes.take maxRates).map (· &&& 0x7f))
        (List.replicate (maxRates + 1) 0)) k = byteAt bytes k &&& 0x7f := by
      rw [overwrite, byteAt, List.getD_append _ _ _ _ (by simpa [length] using inside)]
      simp [byteAt, List.getD_eq_getElem?_getD, here, show k < maxRates by omega]
    rw [masked, ← joined, byteAt]
    by_cases first : k < basic.len.toNat
    · rw [if_pos (by omega), List.getD_append _ _ _ _ (by rwa [slice_length])]
      exact congrArg (· &&& 0x7f) (byteAt_slice mem first)
    · rw [if_neg (by omega), if_pos inside,
        List.getD_append_right _ _ _ _ (by rw [slice_length]; omega), slice_length]
      exact congrArg (· &&& 0x7f) (byteAt_slice mem (by omega))
  · rw [if_neg (by omega), if_neg inside,
      byteAt_overwrite_of_le (by rw [List.length_map, List.length_take]; omega)]
    exact List.getD_replicate 0 (by omega)

/-- Apart from SSID elements the right bytes are written. -/
theorem pair_right (two : accepted.filter (·.hasRates) = [ex, basic])
    (isBasic : basic.type = .rates) (isEx : ex.type = .ratesEx) (le : k ≤ maxRates) :
    (lastWrite k accepted = none → byteAt (pairRates mem basic ex) k = 0) ∧
      ∀ elem i, lastWrite k accepted = some (elem, i) → elem.type ≠ .ssid →
        byteAt mem (elem.data + i) &&& 0x7f = byteAt (pairRates mem basic ex) k := by
  have listed : ∀ x ∈ [ex, basic], x ∈ accepted := by
    intro x member
    rw [← two] at member
    exact (List.mem_filter.mp member).1
  rw [byteAt_pairRates le]
  constructor
  · intro none
    obtain ⟨after, before, split⟩ := List.append_of_mem (listed ex (by simp))
    have exSource := lastWrite_none none after before split
    have found := find_of_two two isBasic isEx split
    obtain ⟨after', before', split'⟩ := List.append_of_mem (listed basic (by simp))
    have basicSource := lastWrite_none none after' before' split'
    simp only [rateSource, isBasic, isEx, basicCount, found, Option.isSome_some, Option.elim_some,
      true_and, ite_eq_right_iff, reduceCtorEq, imp_false] at basicSource exSource
    rw [if_neg basicSource, if_neg (by omega)]
  · intro elem i last other
    obtain ⟨after, before, split, source⟩ := lastWrite_some last
    have member : elem ∈ accepted.filter (·.hasRates) := by
      refine List.mem_filter.mpr ⟨?_, hasRates_of_source source other⟩
      rw [split]
      exact List.mem_append_right _ List.mem_cons_self
    rw [two] at member
    rcases List.mem_pair.mp member with rfl | rfl
    · have found := find_of_two two isBasic isEx split
      simp only [rateSource, isEx, basicCount, found, Option.isSome_some, Option.elim_some,
        true_and, Option.ite_none_right_eq_some, Option.some.injEq] at source
      obtain ⟨⟨behind, below⟩, rfl⟩ := source
      rw [if_neg (by omega), if_pos (by omega)]
      congr 3
      omega
    · simp only [rateSource, isBasic, Option.ite_none_right_eq_some, Option.some.injEq] at source
      obtain ⟨below, rfl⟩ := source
      rw [if_pos below]

end Pair

end InfoElement

section Records

variable {mem : List UInt8} {size : Nat}

theorem length_pairRates (basic ex : InfoElement) :
    (pairRates mem basic ex).length = maxRates + 1 := by
  have few : (((slice mem basic.data basic.len.toNat ++
      slice mem ex.data ex.len.toNat).take maxRates).map (· &&& 0x7f)).length ≤ maxRates := by
    rw [List.length_map, List.length_take]
    exact Nat.min_le_left _ _
  rw [pairRates, overwrite, List.length_append, List.length_drop, List.length_replicate]
  omega

/-- Index 14 is only written by an SSID element, and the others only by one that is too long. -/
theorem harmless_of_short
    (short : ∀ elem ∈ takenElements mem size, elem.type = .ssid → elem.len.toNat ≤ ssidToRates) :
    SsidsHarmless mem size := by
  have none : ∀ k elem i, InfoElement.lastWrite k (takenElements mem size).reverse =
      some (elem, i) → elem.type ≠ .ssid := by
    intro k elem i last ssid
    obtain ⟨after, before, split, source⟩ := InfoElement.lastWrite_some last
    have member : elem ∈ takenElements mem size := by
      rw [← List.mem_reverse, split]
      exact List.mem_append_right _ List.mem_cons_self
    have bound := short elem member ssid
    simp only [InfoElement.rateSource, ssid, Option.ite_none_right_eq_some] at source
    omega
  refine ⟨⟨maxRates, Nat.le_refl _, fun elem i last => ?_⟩, fun _ _ _ k _ elem i last ssid =>
    absurd ssid (none k elem i last)⟩
  obtain ⟨after, before, -, source⟩ := InfoElement.lastWrite_some last
  have other := none maxRates elem i last
  rw [InfoElement.rateSource] at source
  cases type : elem.type with
  | ssid => exact absurd type other
  | rates =>
      simp only [type, Option.ite_none_right_eq_some] at source
      omega
  | ratesEx =>
      simp only [type, Option.ite_none_right_eq_some] at source
      omega
  | fhSet | dsSet | cfSet | ibssSet | country | rsn | generic | other =>
      rw [type] at source
      cases source

/-- After a record was parsed, the bit rates are a terminated array of rates below 0x80, those of
one element with rates and a later one with extended rates are joined, and early extended rates are
ignored, if and only if no SSID element does harm. -/
theorem beacon_rates_iff {w : Nat} (parsed : (processRecord (w := w) mem size).2 = true) :
    RatesSound w mem size (processRecord (w := w) mem size).1.bss.rates ↔
      SsidsHarmless mem size := by
  rw [BeaconParse.rates_processRecord parsed]
  constructor
  · intro sound
    refine ⟨?_, fun basic ex pair k le elem i last _ => ?_⟩
    · obtain ⟨k, le, zero⟩ := sound.terminated
      rw [byteAt_rateBytes _ _ le] at zero
      exact ⟨k, le, (InfoElement.lastByte_masked_eq_iff.mp zero).2⟩
    · rw [← sound.pair basic ex pair, byteAt_rateBytes _ _ le]
      exact (InfoElement.lastByte_masked_eq_iff.mp rfl).2 elem i last
  · intro harmless
    refine ⟨length_rateBytes _ _, ?_, ?_, fun basic ex pair => ?_, fun front ex back split isEx
      early => ?_⟩
    · obtain ⟨k, le, zero⟩ := harmless.terminated
      refine ⟨k, le, ?_⟩
      rw [byteAt_rateBytes _ _ le]
      exact InfoElement.lastByte_masked_eq_iff.mpr ⟨fun _ => rfl, zero⟩
    · intro rate member
      obtain ⟨k, _, rfl⟩ := List.mem_map.mp member
      rw [UInt8.lt_iff_toNat_lt, UInt8.toNat_and]
      exact Nat.and_lt_two_pow (n := 7) _ (by decide)
    · have two : (takenElements mem size).reverse.filter (·.hasRates) = [ex, basic] := by
        rw [List.filter_reverse, pair.two]
        rfl
      apply eq_of_byteAt (length_rateBytes _ _) (length_pairRates basic ex)
      intro k below
      have le : k ≤ maxRates := Nat.le_of_lt_succ below
      obtain ⟨absent, right⟩ :=
        @InfoElement.pair_right mem k _ _ _ two pair.isBasic pair.isEx le
      rw [byteAt_rateBytes _ _ le, InfoElement.lastByte_masked_eq_iff]
      refine ⟨absent, fun elem i last => ?_⟩
      by_cases ssid : elem.type = .ssid
      · exact harmless.pair basic ex pair k le elem i last ssid
      · exact right elem i last ssid
    · rw [BeaconParse.rates_parseElements, split]
      have early' : ∀ x ∈ front.reverse, x.type ≠ .rates := fun x member =>
        early x (List.mem_reverse.mp member)
      unfold rateBytes InfoElement.lastByte
      simp only [List.reverse_append, List.reverse_cons, List.append_assoc, List.singleton_append,
        InfoElement.lastWrite_ignored isEx early']

end Records

/-- The fixed part of a record. -/
def recordFront : List UInt8 :=
  List.replicate 19 0

/-- Early extended rates, rates, and extended rates of which one is too many. -/
def manyRates : List UInt8 :=
  recordFront ++ [50, 1, 99] ++ [1, 8, 0x82, 0x84, 0x8b, 0x96, 12, 18, 24, 36] ++
    [50, 7, 48, 72, 96, 108, 0x84, 0x8b, 0x96]

theorem beacon_rates_iff_many :
    RatesSound 32 manyRates 41 (processRecord (w := 32) manyRates 41).1.bss.rates :=
  (beacon_rates_iff (w := 32) (by decide +kernel)).mpr (harmless_of_short (by decide +kernel))

/-- An SSID element of 70 bytes fills the whole array of bit rates. -/
theorem beacon_rates_overrun :
    (processRecord (w := 32) (recordFront ++ [0, 70] ++ List.replicate 70 97) 91).2 = true ∧
      ¬ RatesSound 32 (recordFront ++ [0, 70] ++ List.replicate 70 97) 91
        (processRecord (w := 32) (recordFront ++ [0, 70] ++ List.replicate 70 97) 91).1.bss.rates :=
  ⟨by decide +kernel, fun sound => absurd sound.terminated (by decide +kernel)⟩

end Libertas

import Libertas.Scan.Beacon

/-!
# What the beacon parser reads

The stretches that the parser reads of an element are bounded by its span, which
depends on its type and length, for the extended rates also on the rates before
them, and for a generic element on its first data bytes.
-/

namespace Libertas

open ByteOrder

/-- The number of basic rates, once they were found. -/
def BeaconParse.rates {w : Nat} (s : BeaconParse w) : Option Nat :=
  if s.gotBasicRates then some s.nBasicRates else none

namespace InfoElement

variable (elem : InfoElement) (mem : List UInt8) (rates : Option Nat)

/-- The number of basic rates after an element. -/
def ratesAfter : Option Nat :=
  if elem.type = .rates then some (min maxRates elem.len.toNat) else rates

/-- How many bytes of an element are used, with its header. -/
def span : Nat :=
  match elem.type with
  | .ssid | .country => 2 + elem.len.toNat
  | .rates => 2 + min maxRates elem.len.toNat
  | .fhSet => 7
  | .dsSet => 3
  | .cfSet => 8
  | .ibssSet => 4
  | .rsn => min (elem.len.toNat + 2) maxWpaIeLen
  | .ratesEx =>
      match rates with
      | none => 2
      | some n => 2 + min elem.len.toNat (maxRates - n)
  | .generic =>
      if elem.len.toNat < 4 then 2
      else if slice mem elem.data 4 = wpaOui then min (elem.len.toNat + 2) maxWpaIeLen
      else if elem.len.toNat < marvellMeshIeLength then 2 + compared mem elem.data wpaOui
      else 2 + max (compared mem elem.data wpaOui) (compared mem elem.data meshOui)
  | .other => 2

/-- How many bytes of an element are copied whatever its length is, with its header. -/
def fixedLen : Nat :=
  match elem.type with
  | .fhSet => 7
  | .dsSet => 3
  | .cfSet => 8
  | .ibssSet => 4
  | _ => 2

/-- The end of what is used of an element that the loop comes to. -/
def usedEnd (size : Nat) : Nat :=
  elem.pos + if elem.taken size then elem.span mem rates else 2

end InfoElement

/-- The ends of what is used of a list of elements. -/
def usedEnds (mem : List UInt8) (size : Nat) : Option Nat → List InfoElement → List Nat
  | _, [] => []
  | rates, elem :: rest =>
      elem.usedEnd mem rates size ::
        if elem.taken size then usedEnds mem size (elem.ratesAfter rates) rest else []

theorem compared_le (mem : List UInt8) (pattern : List UInt8) (offset : Nat) :
    compared mem offset pattern ≤ pattern.length := by
  induction pattern generalizing offset with
  | nil => exact Nat.le_refl 0
  | cons byte rest ih =>
      rw [compared]
      have tail := ih (offset + 1)
      split <;> simp only [List.length_cons] <;> omega

theorem compared_pos (mem : List UInt8) (byte : UInt8) (rest : List UInt8) (offset : Nat) :
    0 < compared mem offset (byte :: rest) := by
  rw [compared]
  omega

/-- All bytes of some stretches are in front of a bound. -/
def AllWithin (bound : Nat) (extents : List Extent) : Prop :=
  ∀ extent ∈ extents, extent.Within bound

theorem allWithin_nil (bound : Nat) : AllWithin bound [] :=
  nofun

theorem allWithin_cons {bound offset count : Nat} {extents : List Extent} :
    AllWithin bound ({ offset := offset, count := count } :: extents) ↔
      (count = 0 ∨ offset + count ≤ bound) ∧ AllWithin bound extents :=
  List.forall_mem_cons

namespace BeaconParse

variable {w : Nat} {s : BeaconParse w} {mem : List UInt8} {elem : InfoElement} {size bound : Nat}

/-- What the switch reads of a generic element. -/
theorem readsWithin_onGeneric (generic : elem.type = .generic) (header : elem.pos + 2 ≤ bound) :
    AllWithin bound (s.onGeneric mem elem).reads ↔
      elem.pos + elem.span mem s.rates ≤ bound ∧ AllWithin bound s.reads := by
  have wpa := compared_pos mem 0x00 [0x50, 0xf2, 0x01] elem.data
  have wpaLe : compared mem elem.data wpaOui ≤ 4 := compared_le mem wpaOui elem.data
  have mesh := compared_pos mem 0x00 [0x50, 0x43, 0x04] elem.data
  have data : elem.data = elem.pos + 2 := rfl
  unfold onGeneric InfoElement.span
  rw [generic]
  dsimp only
  change 0 < compared mem elem.data wpaOui at wpa
  change 0 < compared mem elem.data meshOui at mesh
  generalize compared mem elem.data wpaOui = first at *
  generalize compared mem elem.data meshOui = second at *
  rw [data]
  split
  · simp [header]
  · split
    · show AllWithin bound (⟨_, _⟩ :: ⟨_, _⟩ :: s.reads) ↔ _
      rw [allWithin_cons, allWithin_cons]
      rw [maxWpaIeLen]
      constructor
      · rintro ⟨copied, _, before⟩
        exact ⟨by omega, before⟩
      · rintro ⟨copied, before⟩
        exact ⟨by omega, by omega, before⟩
    · split
      · show AllWithin bound (⟨_, _⟩ :: s.reads) ↔ _
        rw [allWithin_cons]
        constructor
        · rintro ⟨looked, before⟩
          exact ⟨by omega, before⟩
        · rintro ⟨looked, before⟩
          exact ⟨by omega, before⟩
      · have both : AllWithin bound (⟨elem.pos + 2, second⟩ :: ⟨elem.pos + 2, first⟩ :: s.reads) ↔
            elem.pos + (2 + max first second) ≤ bound ∧ AllWithin bound s.reads := by
          rw [allWithin_cons, allWithin_cons]
          constructor
          · rintro ⟨second, first, before⟩
            exact ⟨by omega, before⟩
          · rintro ⟨looked, before⟩
            exact ⟨by omega, by omega, before⟩
        split
        · exact both
        · exact both

/-- What the switch reads of an element is bounded by its span. -/
theorem readsWithin_onElement (header : elem.pos + 2 ≤ bound) :
    AllWithin bound (s.onElement mem elem).reads ↔
      elem.pos + elem.span mem s.rates ≤ bound ∧ AllWithin bound s.reads := by
  have data : elem.data = elem.pos + 2 := rfl
  rw [onElement]
  cases type : elem.type with
  | ssid =>
      have spans : elem.span mem s.rates = 2 + elem.len.toNat := by simp [InfoElement.span, type]
      show AllWithin bound (⟨_, _⟩ :: s.reads) ↔ _
      rw [allWithin_cons, spans, data]
      exact and_congr_left' (by omega)
  | rates =>
      have spans : elem.span mem s.rates = 2 + min maxRates elem.len.toNat := by
        simp [InfoElement.span, type]
      show AllWithin bound (⟨_, _⟩ :: s.reads) ↔ _
      rw [allWithin_cons, spans, data]
      exact and_congr_left' (by omega)
  | fhSet =>
      have spans : elem.span mem s.rates = 7 := by simp [InfoElement.span, type]
      show AllWithin bound (⟨_, _⟩ :: s.reads) ↔ _
      rw [allWithin_cons, spans]
      exact and_congr_left' (by omega)
  | dsSet =>
      have spans : elem.span mem s.rates = 3 := by simp [InfoElement.span, type]
      show AllWithin bound (⟨_, _⟩ :: ⟨_, _⟩ :: s.reads) ↔ _
      rw [allWithin_cons, allWithin_cons, spans, data, ← and_assoc]
      exact and_congr_left' (by omega)
  | cfSet =>
      have spans : elem.span mem s.rates = 8 := by simp [InfoElement.span, type]
      show AllWithin bound (⟨_, _⟩ :: s.reads) ↔ _
      rw [allWithin_cons, spans]
      exact and_congr_left' (by omega)
  | ibssSet =>
      have spans : elem.span mem s.rates = 4 := by simp [InfoElement.span, type]
      show AllWithin bound (⟨_, _⟩ :: ⟨_, _⟩ :: s.reads) ↔ _
      rw [allWithin_cons, allWithin_cons, spans, data, ← and_assoc]
      exact and_congr_left' (by omega)
  | country =>
      have spans : elem.span mem s.rates = 2 + elem.len.toNat := by simp [InfoElement.span, type]
      show AllWithin bound (⟨_, _⟩ :: s.reads) ↔ _
      rw [allWithin_cons, spans]
      exact and_congr_left' (by omega)
  | rsn =>
      have spans : elem.span mem s.rates = min (elem.len.toNat + 2) 64 := by
        simp [InfoElement.span, type, maxWpaIeLen]
      show AllWithin bound (⟨_, _⟩ :: s.reads) ↔ _
      rw [allWithin_cons, spans]
      exact and_congr_left' (by unfold maxWpaIeLen; omega)
  | ratesEx =>
      dsimp only
      rw [onRatesEx]
      cases got : s.gotBasicRates with
      | false =>
          have spans : elem.span mem s.rates = 2 := by
            simp [InfoElement.span, type, BeaconParse.rates, got]
          rw [spans]
          simp [header]
      | true =>
          have spans : elem.span mem s.rates =
              2 + min elem.len.toNat (maxRates - s.nBasicRates) := by
            simp [InfoElement.span, type, BeaconParse.rates, got]
          show AllWithin bound (⟨_, if _ then _ else _⟩ :: s.reads) ↔ _
          rw [allWithin_cons, spans, data]
          apply and_congr_left'
          rw [maxRates]
          split <;> omega
  | generic => exact readsWithin_onGeneric type header
  | other =>
      have spans : elem.span mem s.rates = 2 := by simp [InfoElement.span, type]
      rw [spans]
      simp [header]

/-- The switch only adds to what was read, and leaves the accepted elements alone. -/
theorem onElement_grows (s : BeaconParse w) (mem : List UInt8) (elem : InfoElement) :
    (∃ more, (s.onElement mem elem).reads = more ++ s.reads) ∧
      (s.onElement mem elem).accepted = s.accepted := by
  rw [onElement]
  cases elem.type with
  | dsSet => exact ⟨⟨[_, _], rfl⟩, rfl⟩
  | ibssSet => exact ⟨⟨[_, _], rfl⟩, rfl⟩
  | ratesEx =>
      dsimp only
      rw [onRatesEx]
      split
      · exact ⟨⟨[], rfl⟩, rfl⟩
      · exact ⟨⟨[_], rfl⟩, rfl⟩
  | generic =>
      dsimp only
      rw [onGeneric]
      split
      · exact ⟨⟨[], rfl⟩, rfl⟩
      · dsimp only
        split
        · exact ⟨⟨[_, _], rfl⟩, rfl⟩
        · split
          · exact ⟨⟨[_], rfl⟩, rfl⟩
          · split <;> exact ⟨⟨[_, _], rfl⟩, rfl⟩
  | other => exact ⟨⟨[], rfl⟩, rfl⟩
  | ssid | rates | fhSet | cfSet | country | rsn => exact ⟨⟨[_], rfl⟩, rfl⟩

theorem onElement_rates (s : BeaconParse w) (mem : List UInt8) (elem : InfoElement) :
    (s.onElement mem elem).rates = elem.ratesAfter s.rates := by
  rw [onElement, InfoElement.ratesAfter]
  cases type : elem.type with
  | rates => rfl
  | ratesEx =>
      dsimp only
      rw [onRatesEx]
      split <;> rfl
  | generic =>
      dsimp only
      rw [onGeneric]
      split
      · rfl
      · dsimp only
        split
        · rfl
        · split
          · rfl
          · split <;> rfl
  | ssid | fhSet | dsSet | cfSet | ibssSet | country | rsn | other => rfl

theorem span_ge (elem : InfoElement) (mem : List UInt8) (rates : Option Nat) :
    2 ≤ elem.span mem rates := by
  have first := compared_pos mem 0x00 [0x50, 0xf2, 0x01] elem.data
  change 0 < compared mem elem.data wpaOui at first
  unfold InfoElement.span maxWpaIeLen
  split
  all_goals first | omega | skip
  · split <;> omega
  · split
    · omega
    · split
      · omega
      · split <;> omega

/-- What is read of an element that passes, with its header. -/
theorem allWithin_accepted :
    AllWithin bound ((s.receive elem).onElement mem elem).reads ↔
      elem.pos + elem.span mem s.rates ≤ bound ∧ AllWithin bound s.reads := by
  have spans := span_ge elem mem s.rates
  have header : AllWithin bound (s.receive elem).reads ↔
      elem.pos + 2 ≤ bound ∧ AllWithin bound s.reads := by
    show AllWithin bound (⟨_, _⟩ :: ⟨_, _⟩ :: s.reads) ↔ _
    rw [allWithin_cons, allWithin_cons, ← and_assoc]
    exact and_congr_left' (by omega)
  by_cases fits : elem.pos + 2 ≤ bound
  · rw [readsWithin_onElement fits, header]
    show elem.pos + elem.span mem s.rates ≤ bound ∧ _ ↔ _
    simp [fits]
  · obtain ⟨⟨more, grown⟩, _⟩ := onElement_grows (s.receive elem) mem elem
    constructor
    · intro within
      rw [grown] at within
      have old := header.mp fun extent member => within extent (List.mem_append_right _ member)
      exact absurd old.1 fits
    · rintro ⟨used, _⟩
      omega

/-- What the loop reads ends where what is used of the elements ends. -/
theorem allWithin_runHeaders (mem : List UInt8) (size bound : Nat) (headers : List InfoElement)
    (s : BeaconParse w) :
    AllWithin bound (runHeaders mem size headers s).1.reads ↔
      (∀ position ∈ usedEnds mem size s.rates headers, position ≤ bound) ∧
        AllWithin bound s.reads := by
  induction headers generalizing s with
  | nil => simp [runHeaders, usedEnds]
  | cons elem rest ih =>
      unfold runHeaders usedEnds InfoElement.usedEnd InfoElement.taken
      rw [List.forall_mem_cons]
      dsimp only
      cases passes : elem.passes size with
      | false =>
          show AllWithin bound (⟨_, _⟩ :: s.reads) ↔ _
          rw [allWithin_cons]
          simp [Nat.add_assoc]
      | true =>
          cases rejected : elem.rejected with
          | true =>
              show AllWithin bound (⟨_, _⟩ :: ⟨_, _⟩ :: s.reads) ↔ _
              rw [allWithin_cons, allWithin_cons, ← and_assoc]
              simp
              omega
          | false =>
              have after : ((s.receive elem).onElement mem elem).rates = elem.ratesAfter s.rates :=
                onElement_rates _ mem elem
              have later := ih ((s.receive elem).onElement mem elem)
              rw [after, allWithin_accepted] at later
              show AllWithin bound
                (runHeaders mem size rest ((s.receive elem).onElement mem elem)).1.reads ↔ _
              rw [later]
              simp only [Bool.not_false, Bool.and_self, if_true]
              tauto

/-- The loop accepts the elements that it takes. -/
theorem accepted_ieLoop (fuel pos : Nat) (s : BeaconParse w) :
    (ieLoop mem size fuel pos s).1.accepted =
      ((headersFrom mem size fuel pos).filter (·.taken size)).reverse ++ s.accepted := by
  induction fuel generalizing pos s with
  | zero => rfl
  | succ fuel ih =>
      rw [ieLoop, headersFrom]
      split
      · dsimp only
        by_cases passes : pos + (elementAt mem pos).len.toNat ≤ size
        · have passed : (elementAt mem pos).passes size = true := decide_eq_true passes
          rw [if_neg (Nat.not_lt.mpr passes)]
          cases rejected : (elementAt mem pos).rejected with
          | true => simp [InfoElement.taken, rejected, read]
          | false =>
              have taken : (elementAt mem pos).taken size = true := by
                simp [InfoElement.taken, passed, rejected]
              have grown := (onElement_grows (((s.read (pos + 1) 1).read pos 1).accept
                (elementAt mem pos)) mem (elementAt mem pos)).2
              rw [if_neg Bool.false_ne_true, ih, grown, if_pos taken]
              simp [accept, read, taken]
        · have failed : (elementAt mem pos).passes size = false := decide_eq_false passes
          rw [if_pos (Nat.lt_of_not_le passes)]
          simp [InfoElement.taken, failed, read]
      · rfl

/-- The elements of a record that are accepted. -/
theorem accepted_processRecord (mem : List UInt8) (size : Nat) :
    (processRecord (w := w) mem size).1.accepted =
      ((recordHeaders mem size).filter (·.taken size)).reverse := by
  rw [processRecord, recordHeaders]
  by_cases empty : size = 0
  · subst empty
    rfl
  · rw [if_neg empty]
    dsimp only
    split
    · rfl
    · have loop :
          (ieLoop mem size size 19 ((start (w := w).takeBssid mem).fixedPart mem)).1.accepted =
            ((headersFrom mem size size 19).filter (·.taken size)).reverse ++
              ((start (w := w).takeBssid mem).fixedPart mem).accepted :=
        accepted_ieLoop size 19 _
      rw [show ((start (w := w).takeBssid mem).fixedPart mem).accepted = [] from rfl,
        List.append_nil] at loop
      rw [← loop]
      split <;> rfl

/-- What is read of a record. -/
theorem readsWithin_processRecord (mem : List UInt8) (size bound : Nat) :
    AllWithin bound (processRecord (w := w) mem size).1.reads ↔
      (size = 0 ∨ ethAlen ≤ bound) ∧ (ethAlen + 12 ≤ size → 19 ≤ bound) ∧
        ∀ position ∈ usedEnds mem size none (recordHeaders mem size), position ≤ bound := by
  rw [processRecord, recordHeaders]
  by_cases empty : size = 0
  · subst empty
    simp [AllWithin, start, usedEnds, ethAlen]
  · rw [if_neg empty]
    dsimp only
    split
    · rename_i short
      have : ¬ 6 + 12 ≤ size := Nat.not_le.mpr short
      show AllWithin bound [⟨_, _⟩] ↔ _
      rw [allWithin_cons]
      simp [AllWithin, empty, usedEnds, ethAlen, this]
    · rename_i long
      have long : 18 ≤ size := Nat.not_lt.mp long
      have loop := allWithin_runHeaders mem size bound (headersFrom mem size size 19)
        ((start (w := w).takeBssid mem).fixedPart mem)
      have fixed : AllWithin bound ((start (w := w).takeBssid mem).fixedPart mem).reads ↔
          19 ≤ bound := by
        show AllWithin bound [⟨17, 2⟩, ⟨15, 2⟩, ⟨6, 1⟩, ⟨0, 6⟩] ↔ _
        rw [allWithin_cons, allWithin_cons, allWithin_cons, allWithin_cons]
        have none := allWithin_nil bound
        constructor
        · rintro ⟨capability, _⟩
          omega
        · intro fits
          exact ⟨by omega, by omega, by omega, by omega, none⟩
      have ends : AllWithin bound
          (ieLoop mem size size 19 ((start (w := w).takeBssid mem).fixedPart mem)).1.reads ↔
            19 ≤ bound ∧
              ∀ position ∈ usedEnds mem size none (headersFrom mem size size 19),
                position ≤ bound := by
        rw [ieLoop_eq, loop, fixed]
        exact and_comm
      have same : AllWithin bound
          (ieLoop mem size size 19 ((start (w := w).takeBssid mem).fixedPart mem)).1.reads ↔
            (size = 0 ∨ ethAlen ≤ bound) ∧ (ethAlen + 12 ≤ size → 19 ≤ bound) ∧
              ∀ position ∈ usedEnds mem size none (headersFrom mem size size 19),
                position ≤ bound := by
        rw [ends]
        rw [ethAlen]
        constructor
        · rintro ⟨fixed, used⟩
          exact ⟨Or.inr (by omega), fun _ => fixed, used⟩
        · rintro ⟨_, fixed, used⟩
          exact ⟨fixed long, used⟩
      rw [← same]
      split <;> rfl

end BeaconParse

section Record

variable {mem : List UInt8} {size : Nat}

/-- What is used of an element is its fixed part or lies in its data. -/
theorem span_bounds (elem : InfoElement) (mem : List UInt8) (rates : Option Nat) :
    elem.fixedLen ≤ elem.span mem rates ∧
      elem.span mem rates ≤ max (2 + elem.len.toNat) elem.fixedLen := by
  have wpa : compared mem elem.data wpaOui ≤ 4 := compared_le mem wpaOui elem.data
  have mesh : compared mem elem.data meshOui ≤ 4 := compared_le mem meshOui elem.data
  have least := BeaconParse.span_ge elem mem rates
  revert least
  unfold InfoElement.span InfoElement.fixedLen maxWpaIeLen marvellMeshIeLength
  cases elem.type with
  | generic =>
      dsimp only
      intro least
      refine ⟨least, ?_⟩
      split
      · omega
      · split
        · omega
        · split <;> omega
  | ratesEx =>
      dsimp only
      intro least
      refine ⟨least, ?_⟩
      split <;> omega
  | _ =>
      dsimp only
      omega

/-- The header of every element that the loop comes to is inside the record. -/
theorem header_of_mem {fuel pos : Nat} {elem : InfoElement}
    (member : elem ∈ headersFrom mem size fuel pos) : elem.pos + 2 ≤ size := by
  induction fuel generalizing pos with
  | zero => cases member
  | succ fuel ih =>
      rw [headersFrom] at member
      split at member
      · rename_i fits
        rcases List.mem_cons.mp member with rfl | later
        · exact fits
        · split at later
          · exact ih later
          · cases later
      · cases member

theorem header_of_record {elem : InfoElement} (member : elem ∈ recordHeaders mem size) :
    elem.pos + 2 ≤ size := by
  rw [recordHeaders] at member
  split at member
  · cases member
  · exact header_of_mem member

/-- Every element that is taken contributes its end. -/
theorem usedEnd_mem {fuel pos : Nat} {elem : InfoElement} (rates : Option Nat)
    (member : elem ∈ headersFrom mem size fuel pos) :
    ∃ before, elem.usedEnd mem before size ∈
      usedEnds mem size rates (headersFrom mem size fuel pos) := by
  induction fuel generalizing pos rates with
  | zero => cases member
  | succ fuel ih =>
      rw [headersFrom] at member ⊢
      split at member
      · rename_i fits
        rw [if_pos fits]
        dsimp only at member ⊢
        rw [usedEnds]
        rcases List.mem_cons.mp member with rfl | later
        · exact ⟨rates, List.mem_cons_self⟩
        · split at later
          · rename_i taken
            rw [if_pos taken, if_pos taken]
            obtain ⟨before, found⟩ := ih _ later
            exact ⟨before, List.mem_cons_of_mem _ found⟩
          · cases later
      · cases member

/-- An end comes from an element. -/
theorem mem_usedEnds {headers : List InfoElement} {rates : Option Nat} {position : Nat}
    (member : position ∈ usedEnds mem size rates headers) :
    ∃ elem ∈ headers, ∃ before, position = elem.usedEnd mem before size := by
  induction headers generalizing rates with
  | nil => cases member
  | cons elem rest ih =>
      rw [usedEnds] at member
      rcases List.mem_cons.mp member with rfl | later
      · exact ⟨elem, List.mem_cons_self, rates, rfl⟩
      · split at later
        · obtain ⟨found, inRest, before, same⟩ := ih later
          exact ⟨found, List.mem_cons_of_mem _ inRest, before, same⟩
        · cases later

/-- A record is sound if it is not too short for what is read of it, and each element that is
taken is inside it, also the fixed part that is copied of some. -/
def RecordSound (mem : List UInt8) (size : Nat) : Prop :=
  (size = 0 ∨ ethAlen ≤ size) ∧ size ≠ 18 ∧
    ∀ elem ∈ recordHeaders mem size, elem.taken size = true →
      elem.next ≤ size ∧ elem.pos + elem.fixedLen ≤ size

instance (mem : List UInt8) (size : Nat) : Decidable (RecordSound mem size) := by
  unfold RecordSound
  infer_instance

theorem usedEnds_of_sound (sound : RecordSound mem size) {rates : Option Nat} {position : Nat}
    (member : position ∈ usedEnds mem size rates (recordHeaders mem size)) : position ≤ size := by
  obtain ⟨elem, inRecord, before, rfl⟩ := mem_usedEnds member
  have header := header_of_record inRecord
  rw [InfoElement.usedEnd]
  split
  · rename_i taken
    obtain ⟨whole, fixed⟩ := sound.2.2 elem inRecord taken
    have bounds := (span_bounds elem mem before).2
    rw [InfoElement.next] at whole
    omega
  · exact header

theorem fixed_of_usedEnds {elem : InfoElement} (member : elem ∈ recordHeaders mem size)
    (taken : elem.taken size = true)
    (used : ∀ position ∈ usedEnds mem size none (recordHeaders mem size), position ≤ size) :
    elem.pos + elem.fixedLen ≤ size := by
  rw [recordHeaders] at member used
  split at member
  · cases member
  · rename_i long
    rw [if_neg long] at used
    obtain ⟨before, found⟩ := usedEnd_mem none member
    have inside := used _ found
    have bounds := (span_bounds elem mem before).1
    rw [InfoElement.usedEnd] at inside
    rw [if_pos taken] at inside
    omega

/-- The parser stays inside a record, and accepts only elements that are inside it, if and only
if the record is sound. -/
theorem processRecord_inside_iff {w : Nat} (mem : List UInt8) (size : Nat) :
    ((∀ extent ∈ (processRecord (w := w) mem size).1.reads, extent.Within size) ∧
      ∀ elem ∈ (processRecord (w := w) mem size).1.accepted,
        elem.pos + 2 + elem.len.toNat ≤ size) ↔ RecordSound mem size := by
  have readsInside := BeaconParse.readsWithin_processRecord (w := w) mem size size
  rw [AllWithin] at readsInside
  rw [readsInside, BeaconParse.accepted_processRecord]
  constructor
  · rintro ⟨⟨bssid, fixedPart, used⟩, accepted⟩
    refine ⟨bssid, ?_, fun elem member taken => ⟨?_, fixed_of_usedEnds member taken used⟩⟩
    · rintro rfl
      have := fixedPart (by decide)
      omega
    · have whole := accepted elem (by simp [member, taken])
      rw [InfoElement.next]
      omega
  · intro sound
    refine ⟨⟨sound.1, fun long => ?_, fun position => usedEnds_of_sound sound⟩,
      fun elem member => ?_⟩
    · have := sound.2.1
      rw [ethAlen] at long
      omega
    · rw [List.mem_reverse, List.mem_filter] at member
      have := (sound.2.2 elem member.1 member.2).1
      rw [InfoElement.next] at this
      omega

/-- In a record of 21 bytes, an SSID element that announces two bytes begins at 19. -/
theorem processRecord_leaves_record :
    ¬ ((∀ extent ∈ (processRecord (w := 32) (List.replicate 20 0 ++ [2]) 21).1.reads,
          extent.Within 21) ∧
        ∀ elem ∈ (processRecord (w := 32) (List.replicate 20 0 ++ [2]) 21).1.accepted,
          elem.pos + 2 + elem.len.toNat ≤ 21) := by
  decide +kernel

end Record

end Libertas

import Libertas.Bits
import Libertas.Cmd.Card
import Libertas.Cmd.Channel
import Libertas.Cmd.Wrappers
import Libertas.Scan.Listing
import Libertas.Scanning
import Libertas.TlvSearch
import Libertas.Transition.Cells

/-!
# Files for the event thresholds

Each of six files of the debugfs is for a threshold of the card: a value, a frequency, and
whether the card reports an event. A write fetches the mask of all events, changes the bit
of its own, and stores the mask with the threshold. A read looks the threshold up among
those that the card answers with.

The calls come one after another; two writes at a time could lose a change of the mask.
-/

namespace Libertas

open ByteOrder Cells Printing Scanning

/-- `CMD_802_11_SUBSCRIBE_EVENT`. -/
def cmd80211SubscribeEvent : UInt16 := 0x0075

def subscribeEvent : OrdinaryCmd := ⟨cmd80211SubscribeEvent, by decide⟩

/-- `sizeof` of `struct cmd_ds_802_11_subscribe_event`, and of its elements. -/
def subscribeEventSize : Nat := 140
def subscribeTlvSize : Nat := 128

/-- `PAGE_SIZE`. -/
def pageSize : Nat := 4096

/-- The files. -/
inductive ThresholdFile
  | lowrssi
  | lowsnr
  | failcount
  | highrssi
  | highsnr
  | bcnmiss
deriving DecidableEq, Repr

namespace ThresholdFile

/-- `TLV_TYPE_*`. -/
def tlvType : ThresholdFile → UInt16
  | lowrssi => 0x0104
  | lowsnr => 0x0105
  | failcount => 0x0106
  | bcnmiss => 0x0107
  | highrssi => 0x0116
  | highsnr => 0x0117

/-- `CMD_SUBSCRIBE_*`. -/
def eventMask : ThresholdFile → UInt16
  | lowrssi => 0x0001
  | lowsnr => 0x0002
  | failcount => 0x0004
  | bcnmiss => 0x0008
  | highrssi => 0x0010
  | highsnr => 0x0020

end ThresholdFile

/-- What the kernel grants: a page, the copy from the user, and memory for the command. -/
structure FileEnv where
  page : Bool
  copied : Bool
  command : Bool
deriving DecidableEq, Repr

/-- The command that fetches the subscriptions, in zeroed memory. -/
def getSubscriptions : List UInt8 :=
  sizeHeader (UInt16.ofNat subscribeEventSize) [] ++ le16Bytes cmdActGet ++ le16Bytes 0 ++
    List.replicate subscribeTlvSize 0

/-- The structure of the fetch with one threshold in front, and the size of what is sent. -/
def setSubscription (events : List UInt8) (mask tlvType : UInt16) (value freq : UInt8) :
    List UInt8 :=
  sizeHeader 18 events ++ le16Bytes cmdActSet ++ le16Bytes mask ++ le16Bytes tlvType ++
    le16Bytes 2 ++ [value, freq] ++ events.drop 18

/-- The numbers in a text, as `sscanf` finds them: the value, the frequency, and the switch. -/
def scanThreshold (text : List UInt8) : Option (Int × Int × Int) :=
  (scanSigned text).bind fun (value, rest) =>
    (scanSigned rest).bind fun (freq, rest) =>
      (scanSigned rest).map fun (switch, _) => (value, freq, switch)

/-- The text for a threshold. -/
def printThreshold (value freq : UInt8) (on : Bool) : List UInt8 :=
  signed 0 value.toNat ++ ascii " " ++ signed 0 freq.toNat ++ ascii " " ++
    signed 0 (if on then 1 else 0) ++ ascii "\n"

section Calls

variable {κ : Type} (card : Card κ) (c : κ) (file : ThresholdFile) (env : FileEnv)

/-- `lbs_threshold_write`, from the first command on. -/
def storeThreshold (value freq switch : Int) (count : Nat) (fetch store : CallEnd) : Int × κ :=
  let (outcome, c) := card.call c subscribeEvent getSubscriptions fetch
  let (ret, events) := lbsCmdWithResponse cmd80211SubscribeEvent getSubscriptions outcome
  if ret ≠ 0 then (ret, c)
  else
    let currMask := le16At events 10
    let newMask :=
      if Int32.ofInt switch ≠ 0 then currMask ||| file.eventMask
      else currMask &&& ~~~file.eventMask
    -- The frequency of the beacon misses is left as it is in the structure.
    let freq := if file ≠ .bcnmiss then UInt8.ofInt freq else byteAt events 17
    let (outcome, c) := card.call c subscribeEvent
      (setSubscription events newMask file.tlvType (UInt8.ofInt value) freq) store
    (if outcome.ret = 0 then count else outcome.ret, c)

/-- `lbs_threshold_write`. -/
def lbsThresholdWrite (userbuf : List UInt8) (fetch store : CallEnd) : Int × κ :=
  if ¬env.page then (-eNoMem, c)
  else if ¬env.copied then (-eFault, c)
  else
    match scanThreshold (userbuf.take (pageSize - 1)) with
    | none => (-eInval, c)
    | some (value, freq, switch) =>
        if ¬env.command then (-eNoMem, c)
        else storeThreshold card c file value freq switch userbuf.length fetch store

/-- `lbs_threshold_read`, with a bound on the iterations of `lbs_tlv_find`. -/
def lbsThresholdRead (fetch : CallEnd) (fuel count : Nat) (ppos : Int) (fault : Bool) :
    Option (FileRead × κ) :=
  if ¬env.page ∨ ¬env.command then some ({ ret := -eNoMem, copied := [], ppos := ppos }, c)
  else
    let (outcome, c) := card.call c subscribeEvent getSubscriptions fetch
    let (ret, events) := lbsCmdWithResponse cmd80211SubscribeEvent getSubscriptions outcome
    if ret ≠ 0 then some ({ ret := ret, copied := [], ppos := ppos }, c)
    else
      (lbsTlvFind file.tlvType (fun i => byteAt events (12 + i)) (UInt16.ofNat subscribeTlvSize)
        fuel).map fun got =>
          let text :=
            match got with
            | none => []
            | some pos =>
                printThreshold (byteAt events (12 + pos + 4)) (byteAt events (12 + pos + 5))
                  (le16At events 10 &&& file.eventMask ≠ 0)
          (simpleReadFromBuffer (byteAt text) text.length count ppos fault, c)

end Calls

/-- A card that reports events. -/
structure EventCard (κ : Type) extends Card κ where
  events : κ → UInt16
  /-- The thresholds, as they are in an answer. -/
  fields : κ → List Tlv.Field

namespace EventCard

variable {κ : Type} (card : EventCard κ)

/-- The value and the frequency of a threshold. -/
def threshold (c : κ) (tlvType : UInt16) : Option (UInt8 × UInt8) :=
  ((card.fields c).find? fun field => field.type = tlvType).map fun field =>
    (byteAt field.value 0, byteAt field.value 1)

/-- What the source documents of the command: a query is answered with the events and all of the
thresholds, with room behind them, and a threshold that is set is stored along with the events. -/
structure Subscribes : Prop where
  fits : ∀ c, (Tlv.encode (card.fields c)).length + tlvHeaderSize ≤ subscribeTlvSize
  filled : ∀ c, ∀ field ∈ card.fields c, 2 ≤ field.value.length
  get : ∀ c body, le16At body 0 = cmdActGet →
    card.execute c cmd80211SubscribeEvent body =
      (c, le16Bytes cmdActGet ++ le16Bytes (card.events c) ++ Tlv.encode (card.fields c))
  setEvents : ∀ c body, le16At body 0 = cmdActSet →
    card.events (card.execute c cmd80211SubscribeEvent body).1 = le16At body 2
  setThreshold : ∀ c body, ∀ file : ThresholdFile, le16At body 0 = cmdActSet →
    le16At body 4 = file.tlvType → le16At body 6 = 2 →
    card.threshold (card.execute c cmd80211SubscribeEvent body).1 =
      write (card.threshold c) (some (file.tlvType, some (byteAt body 8, byteAt body 9)))

/-- The frequency of the first threshold in an answer. -/
def firstFreq (c : κ) : UInt8 :=
  match card.fields c with
  | [] => 0
  | field :: _ => byteAt field.value 1

/-- What the files are about. -/
def setting (c : κ) (file : ThresholdFile) : Option (UInt8 × UInt8) × Bool :=
  (card.threshold c file.tlvType, card.events c &&& file.eventMask ≠ 0)

end EventCard

section Fetch

variable {κ : Type} {card : EventCard κ} {c : κ} {seqnum : UInt16}

/-- The structure of the caller after a fetch. -/
def fetched (card : EventCard κ) (c : κ) (result : CallEnd) : List UInt8 :=
  (lbsCmdWithResponse cmd80211SubscribeEvent getSubscriptions
    (card.call c subscribeEvent getSubscriptions result).1).2

theorem afterCommand_getSubscriptions (keeps : card.Subscribes) (c : κ) :
    card.afterCommand c subscribeEvent getSubscriptions =
      (c, le16Bytes cmdActGet ++ le16Bytes (card.events c) ++ Tlv.encode (card.fields c)) :=
  keeps.get c _ (by decide +kernel)

/-- A fetch leaves the card as it is. -/
theorem call_getSubscriptions (keeps : card.Subscribes) (c : κ) (result : CallEnd) :
    (card.call c subscribeEvent getSubscriptions result).2 = c := by
  rw [Card.call_card, afterCommand_getSubscriptions keeps, ite_self]

/-- The caller sees the answer. -/
theorem byteAt_fetched (keeps : card.Subscribes) (c : κ) (seqnum : UInt16) {i : Nat}
    (inside : i < 132) :
    byteAt (fetched card c (.answered seqnum)) (sDsGen + i) =
      byteAt (le16Bytes cmdActGet ++ le16Bytes (card.events c) ++ Tlv.encode (card.fields c))
        i := by
  have cleared : ∀ j < 140, 8 ≤ j → byteAt ((withResponseRequest cmd80211SubscribeEvent
      getSubscriptions).storedBuffer getSubscriptions) j = 0 := by
    decide +kernel
  have size : respSize ((withResponseRequest cmd80211SubscribeEvent
      getSubscriptions).storedBuffer getSubscriptions) = 140 := by
    decide +kernel
  have header : sDsGen = 8 := rfl
  have fits := keeps.fits c
  have copied : byteAt (fetched card c (.answered seqnum)) (sDsGen + i) =
      byteAt (card.call c subscribeEvent getSubscriptions (.answered seqnum)).1.response
        (sDsGen + i) := by
    apply CmdOutcome.byteAt_buffer_of_zero Card.call_succeeded
    · rw [size]
      show sDsGen + i < 140
      omega
    · exact cleared _ (by omega) (by omega)
  rw [copied, Card.byteAt_response, afterCommand_getSubscriptions keeps]
  rw [afterCommand_getSubscriptions keeps]
  simp only [List.length_append, le16Bytes, List.length_cons, List.length_nil]
  rw [subscribeTlvSize] at fits
  omega

theorem le16At_fetched (keeps : card.Subscribes) :
    le16At (fetched card c (.answered seqnum)) 10 = card.events c := by
  have low := byteAt_fetched keeps c seqnum (by decide : 2 < 132)
  have high := byteAt_fetched keeps c seqnum (by decide : 3 < 132)
  have read := le16At_append (le16Bytes cmdActGet) (Tlv.encode (card.fields c)) (card.events c)
  rw [le16At, show 10 = sDsGen + 2 from rfl, show sDsGen + 2 + 1 = sDsGen + 3 from rfl, low, high]
  exact read

theorem byteAt_fetched_tlv (keeps : card.Subscribes) {i : Nat} (inside : i < subscribeTlvSize) :
    byteAt (fetched card c (.answered seqnum)) (12 + i) =
      byteAt (Tlv.encode (card.fields c)) i := by
  rw [subscribeTlvSize] at inside
  have shown := byteAt_fetched keeps c seqnum (by omega : 4 + i < 132)
  have header : sDsGen = 8 := rfl
  rw [show 12 + i = sDsGen + (4 + i) by omega, shown]
  exact byteAt_append_right (le16Bytes cmdActGet ++ le16Bytes (card.events c)) _ i

theorem length_encode_fields (keeps : card.Subscribes) (c : κ) :
    6 * (card.fields c).length ≤ (Tlv.encode (card.fields c)).length := by
  have filled := keeps.filled c
  generalize card.fields c = fields at filled ⊢
  induction fields with
  | nil => exact Nat.le_refl _
  | cons field fields ih =>
      have first := filled field List.mem_cons_self
      have rest := ih fun other member => filled other (List.mem_cons_of_mem _ member)
      rw [Tlv.encode_cons, List.length_append, field.length_bytes, List.length_cons]
      omega

theorem byteAt_append_zeros (bytes : List UInt8) (zeros i : Nat) :
    byteAt (bytes ++ List.replicate zeros 0) i = byteAt bytes i := by
  rw [byteAt, byteAt, List.getD_eq_getElem?_getD, List.getD_eq_getElem?_getD]
  by_cases inside : i < bytes.length
  · rw [List.getElem?_append_left inside]
  · rw [List.getElem?_append_right (by omega), List.getElem?_eq_none (by omega : bytes.length ≤ i),
      List.getElem?_replicate]
    split <;> rfl

/-- Bytes are read where each of them is. -/
theorem read_eq {mem : Nat → UInt8} {address : Nat} {bytes : List UInt8}
    (held : ∀ i < bytes.length, mem (address + i) = byteAt bytes i) :
    Store.read mem address bytes.length = bytes := by
  induction bytes generalizing address with
  | nil => rfl
  | cons first rest ih =>
      have here : mem address = first := held 0 (Nat.succ_pos _)
      have behind : Store.read mem (address + 1) rest.length = rest := by
        refine ih fun i below => ?_
        rw [Nat.add_assoc, Nat.add_comm 1 i]
        exact held (i + 1) (Nat.succ_lt_succ below)
      rw [List.length_cons, Store.read, here, behind]

/-- The elements in the memory of the caller. -/
theorem stream_fetched (keeps : card.Subscribes) (c : κ) (seqnum : UInt16) :
    ∃ zeros, TlvStream (fun i => byteAt (fetched card c (.answered seqnum)) (12 + i))
      (UInt16.ofNat subscribeTlvSize) (card.fields c) 0 zeros := by
  have fits := keeps.fits c
  have header : tlvHeaderSize = 4 := rfl
  have size : subscribeTlvSize = 128 := rfl
  refine ⟨subscribeTlvSize - (Tlv.encode (card.fields c)).length, ?_, ?_, .inr (by omega), ?_⟩
  · have read : Store.read (fun i => byteAt (fetched card c (.answered seqnum)) (12 + i)) 0
        (Tlv.encode (card.fields c) ++ List.replicate
          (subscribeTlvSize - (Tlv.encode (card.fields c)).length) 0).length =
        Tlv.encode (card.fields c) ++ List.replicate
          (subscribeTlvSize - (Tlv.encode (card.fields c)).length) 0 := by
      refine read_eq fun i below => ?_
      rw [List.length_append, List.length_replicate] at below
      rw [byteAt_append_zeros, Nat.zero_add, byteAt_fetched_tlv keeps (by omega)]
    rw [List.length_append, List.length_replicate] at read
    exact read
  · rw [size]
    show 0 + _ + _ = 128
    omega
  · intro field member empty
    have filled := keeps.filled c field member
    rw [empty] at filled
    exact absurd filled (by decide)

/-- The value and the frequency of the first element of a type are behind its header. -/
theorem find_eq_firstOffset {tlvType : UInt16} {fields : List Tlv.Field}
    (filled : ∀ field ∈ fields, 2 ≤ field.value.length) :
    ((fields.find? fun field => field.type = tlvType).map fun field =>
        (byteAt field.value 0, byteAt field.value 1)) =
      (Tlv.firstOffset tlvType fields).map fun pos =>
        (byteAt (Tlv.encode fields) (pos + 4), byteAt (Tlv.encode fields) (pos + 5)) := by
  induction fields with
  | nil => rfl
  | cons field fields ih =>
      rw [Tlv.encode_cons, Tlv.firstOffset]
      by_cases wanted : field.type = tlvType
      · have first := filled field List.mem_cons_self
        have shown : ∀ i < 2, byteAt (field.bytes ++ Tlv.encode fields) (4 + i) =
            byteAt field.value i :=
          fun i below => field.byteAt_value _ (by omega)
        rw [if_pos wanted, List.find?_cons_of_pos (by simpa using wanted), Option.map_some,
          Option.map_some, shown 0 (by decide), shown 1 (by decide)]
      · have later := ih fun other member => filled other (List.mem_cons_of_mem _ member)
        rw [if_neg wanted, List.find?_cons_of_neg (by simpa using wanted), later, Option.map_map]
        congr 1
        funext pos
        have moved : ∀ i, byteAt (field.bytes ++ Tlv.encode fields)
            (field.bytes.length + pos + i) = byteAt (Tlv.encode fields) (pos + i) := by
          intro i
          rw [Nat.add_assoc]
          exact byteAt_append_right _ _ _
        simp only [Function.comp_apply]
        rw [moved 4, moved 5]

/-- An element that is found is there with its value. -/
theorem firstOffset_within (keeps : card.Subscribes) {c : κ} {tlvType : UInt16} {pos : Nat}
    (found : Tlv.firstOffset tlvType (card.fields c) = some pos) :
    pos + 6 ≤ (Tlv.encode (card.fields c)).length := by
  obtain ⟨front, field, back, split, -, -, rfl⟩ := Tlv.firstOffset_eq_some.mp found
  have filled := keeps.filled c field (split ▸ List.mem_append_right _ List.mem_cons_self)
  have bytes : Tlv.encode (card.fields c) =
      Tlv.encode front ++ (field.bytes ++ Tlv.encode back) := by
    rw [split, Tlv.encode, List.flatMap_append, List.flatMap_cons]
    rfl
  rw [bytes, List.length_append, List.length_append, field.length_bytes]
  omega

theorem threshold_eq (keeps : card.Subscribes) (c : κ) (seqnum tlvType : UInt16) :
    card.threshold c tlvType = (Tlv.firstOffset tlvType (card.fields c)).map fun pos =>
      (byteAt (fetched card c (.answered seqnum)) (12 + pos + 4),
        byteAt (fetched card c (.answered seqnum)) (12 + pos + 5)) := by
  rw [EventCard.threshold, find_eq_firstOffset (keeps.filled c)]
  cases found : Tlv.firstOffset tlvType (card.fields c) with
  | none => rfl
  | some pos =>
      have within := firstOffset_within keeps found
      have fits := keeps.fits c
      rw [Option.map_some, Option.map_some, Nat.add_assoc 12, Nat.add_assoc 12,
        byteAt_fetched_tlv keeps (by omega), byteAt_fetched_tlv keeps (by omega)]

/-- The search finds the threshold, if there is one, in its place. -/
theorem lbsTlvFind_fetched (keeps : card.Subscribes) (c : κ) (seqnum tlvType : UInt16)
    {fuel : Nat} (enough : 32 ≤ fuel) :
    lbsTlvFind tlvType (fun i => byteAt (fetched card c (.answered seqnum)) (12 + i))
      (UInt16.ofNat subscribeTlvSize) fuel = some (Tlv.firstOffset tlvType (card.fields c)) := by
  have fits := keeps.fits c
  have few := length_encode_fields keeps c
  have size : subscribeTlvSize = 128 := rfl
  obtain ⟨zeros, stream⟩ := stream_fetched keeps c seqnum
  have found := stream.iterate tlvType (by omega : (card.fields c).length < fuel)
  simp only [Nat.zero_add, Option.map_id'] at found
  exact found

/-- A file shows a threshold with its setting, and nothing if there is none. -/
def settingText : Option (UInt8 × UInt8) × Bool → List UInt8
  | (none, _) => []
  | (some (value, freq), on) => printThreshold value freq on

/-- A read that gets its answer shows the setting. -/
theorem lbsThresholdRead_answered (keeps : card.Subscribes) (c : κ) (file : ThresholdFile)
    {env : FileEnv} (page : env.page = true) (command : env.command = true) (seqnum : UInt16)
    {fuel : Nat} (enough : 32 ≤ fuel) (count : Nat) (ppos : Int) (fault : Bool) :
    lbsThresholdRead card.toCard c file env (.answered seqnum) fuel count ppos fault =
      some (simpleReadFromBuffer (byteAt (settingText (card.setting c file)))
        (settingText (card.setting c file)).length count ppos fault, c) := by
  have fine : (lbsCmdWithResponse cmd80211SubscribeEvent getSubscriptions
      (card.call c subscribeEvent getSubscriptions (.answered seqnum)).1).1 = 0 :=
    Card.ret_call_answered
  have events : (lbsCmdWithResponse cmd80211SubscribeEvent getSubscriptions
      (card.call c subscribeEvent getSubscriptions (.answered seqnum)).1).2 =
        fetched card c (.answered seqnum) := rfl
  have whole : ¬(¬env.page = true ∨ ¬env.command = true) := by simp [page, command]
  rw [lbsThresholdRead, if_neg whole]
  simp only
  rw [if_neg (not_not.mpr fine), events, lbsTlvFind_fetched keeps c seqnum file.tlvType enough,
    call_getSubscriptions keeps, Option.map_some]
  rw [EventCard.setting, threshold_eq keeps c seqnum, le16At_fetched keeps]
  cases Tlv.firstOffset file.tlvType (card.fields c) <;> rfl

end Fetch

section Writes

variable {κ : Type} {card : EventCard κ} {c : κ} {file : ThresholdFile} {env : FileEnv}
  {userbuf : List UInt8} {fetch store : CallEnd}

/-- The kernel grants everything. -/
def FileEnv.Grants (env : FileEnv) : Prop :=
  env.page = true ∧ env.copied = true ∧ env.command = true

instance (env : FileEnv) : Decidable env.Grants := by
  unfold FileEnv.Grants
  infer_instance

/-- The frequency that a write stores. -/
def EventCard.storedFreq (card : EventCard κ) (c : κ) (freq : Int) : ThresholdFile → UInt8
  | .bcnmiss => card.firstFreq c
  | _ => UInt8.ofInt freq

/-- The file whose setting a write changes, and the new one. -/
def EventCard.writes (card : EventCard κ) (c : κ) (file : ThresholdFile) (env : FileEnv)
    (userbuf : List UInt8) (fetch store : CallEnd) :
    Option (ThresholdFile × (Option (UInt8 × UInt8) × Bool)) :=
  if env.Grants ∧ fetch.isAnswered ∧ store.executed then
    (scanThreshold (userbuf.take (pageSize - 1))).map fun (value, freq, switch) =>
      (file, some (UInt8.ofInt value, card.storedFreq c freq file), Int32.ofInt switch ≠ 0)
  else none

theorem byteAt_fetched_freq (keeps : card.Subscribes) (c : κ) (seqnum : UInt16) :
    byteAt (fetched card c (.answered seqnum)) 17 = card.firstFreq c := by
  have filled := keeps.filled c
  rw [show 17 = 12 + 5 from rfl, byteAt_fetched_tlv keeps (by decide), EventCard.firstFreq]
  generalize card.fields c = fields at filled ⊢
  cases fields with
  | nil => rfl
  | cons field fields =>
      have first := filled field List.mem_cons_self
      rw [Tlv.encode_cons]
      exact field.byteAt_value _ (by omega : 1 < field.value.length)

/-- What is sent of the structure. -/
def subscription (mask tlvType : UInt16) (value freq : UInt8) : List UInt8 :=
  le16Bytes cmdActSet ++ le16Bytes mask ++ (le16Bytes tlvType ++ (le16Bytes 2 ++ [value, freq]))

theorem afterCommand_setSubscription (events : List UInt8) (mask tlvType : UInt16)
    (value freq : UInt8) :
    card.afterCommand c subscribeEvent (setSubscription events mask tlvType value freq) =
      card.execute c cmd80211SubscribeEvent (subscription mask tlvType value freq) := by
  have header : (sizeHeader 18 events).length = sDsGen := by
    rw [sizeHeader, List.length_append, List.length_append, slice_length, slice_length]
    rfl
  have sent : (sizeHeader 18 events ++ subscription mask tlvType value freq).length = 18 := by
    rw [List.length_append, header]
    rfl
  have split : setSubscription events mask tlvType value freq =
      sizeHeader 18 events ++ subscription mask tlvType value freq ++ events.drop 18 := by
    simp only [setSubscription, subscription, List.append_assoc]
  have size : respSize (setSubscription events mask tlvType value freq) = 18 := by
    rw [split, respSize, sizeHeader, List.append_assoc, List.append_assoc, List.append_assoc]
    exact le16At_append (slice events 0 2) _ 18
  rw [Card.afterCommand, size, split, List.take_left' (by exact sent), List.drop_left' header]
  rfl

theorem eventMask_apart {other : ThresholdFile} (apart : other ≠ file) :
    file.eventMask &&& other.eventMask = 0 := by
  cases file <;> cases other <;> first | rfl | exact absurd rfl apart

theorem tlvType_injective {other : ThresholdFile} (same : other.tlvType = file.tlvType) :
    other = file := by
  cases file <;> cases other <;> first | rfl | exact absurd same (by decide)

/-- The mask that a write stores. -/
def newMask (currMask : UInt16) (file : ThresholdFile) (on : Bool) : UInt16 :=
  if on then currMask ||| file.eventMask else currMask &&& ~~~file.eventMask

theorem newMask_own (currMask : UInt16) (file : ThresholdFile) (on : Bool) :
    decide (newMask currMask file on &&& file.eventMask ≠ 0) = on := by
  cases on with
  | false =>
      rw [newMask, if_neg (by decide), Bits.clear_own]
      rfl
  | true =>
      rw [newMask, if_pos rfl, Bits.set_own]
      cases file <;> rfl

theorem newMask_other (currMask : UInt16) (on : Bool) {other : ThresholdFile}
    (apart : other ≠ file) :
    newMask currMask file on &&& other.eventMask = currMask &&& other.eventMask := by
  rw [newMask]
  split
  · exact Bits.same_set (eventMask_apart apart)
  · exact Bits.same_clear (eventMask_apart apart)

/-- A threshold is set: the setting of its file changes, and no other. -/
theorem setting_of_set (keeps : card.Subscribes) (c : κ) (file : ThresholdFile)
    (events : List UInt8) (value freq : UInt8) (on : Bool) :
    card.setting (card.afterCommand c subscribeEvent (setSubscription events
        (newMask (card.events c) file on) file.tlvType value freq)).1 =
      write (card.setting c) (some (file, some (value, freq), on)) := by
  have action : le16At (subscription (newMask (card.events c) file on) file.tlvType value freq) 0 =
      cmdActSet := le16At_le16Bytes cmdActSet _
  have mask : le16At (subscription (newMask (card.events c) file on) file.tlvType value freq) 2 =
      newMask (card.events c) file on :=
    le16At_append (le16Bytes cmdActSet) (le16Bytes file.tlvType ++ (le16Bytes 2 ++ [value, freq])) _
  have type : le16At (subscription (newMask (card.events c) file on) file.tlvType value freq) 4 =
      file.tlvType :=
    le16At_append (le16Bytes cmdActSet ++ le16Bytes (newMask (card.events c) file on))
      (le16Bytes 2 ++ [value, freq]) _
  have length : le16At (subscription (newMask (card.events c) file on) file.tlvType value freq) 6 =
      2 :=
    le16At_append (le16Bytes cmdActSet ++ le16Bytes (newMask (card.events c) file on) ++
      le16Bytes file.tlvType) [value, freq] 2
  have set := keeps.setThreshold c _ file action type length
  have events := keeps.setEvents c _ action
  rw [write] at set
  rw [mask] at events
  funext other
  rw [afterCommand_setSubscription, EventCard.setting, set, events, write]
  by_cases same : other = file
  · rw [same, Function.update_self, Function.update_self, newMask_own]
    rfl
  · rw [Function.update_of_ne (mt tlvType_injective same), Function.update_of_ne same,
      newMask_other _ _ same, EventCard.setting]

theorem setting_store (keeps : card.Subscribes) (c : κ) (file : ThresholdFile)
    (value freq switch : Int) (count : Nat) :
    card.setting (storeThreshold card.toCard c file value freq switch count fetch store).2 =
      write (card.setting c)
        (if fetch.isAnswered = true ∧ store.executed = true then
          some (file, some (UInt8.ofInt value, card.storedFreq c freq file),
            Int32.ofInt switch ≠ 0)
        else none) := by
  rw [storeThreshold]
  simp only
  rw [call_getSubscriptions keeps]
  cases fetch with
  | failed outcome error executed =>
      have wrong : (lbsCmdWithResponse cmd80211SubscribeEvent getSubscriptions
          (card.call c subscribeEvent getSubscriptions (.failed outcome error executed)).1).1 ≠ 0 :=
        error
      rw [if_pos wrong, if_neg fun both => Bool.false_ne_true both.1]
      rfl
  | answered seqnum =>
      have fine : (lbsCmdWithResponse cmd80211SubscribeEvent getSubscriptions
          (card.call c subscribeEvent getSubscriptions (.answered seqnum)).1).1 = 0 :=
        Card.ret_call_answered
      have events : (lbsCmdWithResponse cmd80211SubscribeEvent getSubscriptions
          (card.call c subscribeEvent getSubscriptions (.answered seqnum)).1).2 =
            fetched card c (.answered seqnum) := rfl
      have freq : (if file ≠ .bcnmiss then UInt8.ofInt freq else card.firstFreq c) =
          card.storedFreq c freq file := by
        cases file <;> rfl
      have mask : (if Int32.ofInt switch ≠ 0 then card.events c ||| file.eventMask
          else card.events c &&& ~~~file.eventMask) =
            newMask (card.events c) file (Int32.ofInt switch ≠ 0) := by
        rw [newMask]
        simp only [decide_eq_true_eq]
      rw [if_neg (not_not.mpr fine), events, le16At_fetched keeps, byteAt_fetched_freq keeps, freq,
        mask, Card.call_card]
      by_cases executed : store.executed = true
      · rw [if_pos executed, if_pos ⟨rfl, executed⟩, setting_of_set keeps]
      · rw [if_neg executed, if_neg fun both => executed both.2]
        rfl

/-- What a write does to the settings. -/
theorem setting_write (keeps : card.Subscribes) (c : κ) (file : ThresholdFile) (env : FileEnv)
    (userbuf : List UInt8) (fetch store : CallEnd) :
    card.setting (lbsThresholdWrite card.toCard c file env userbuf fetch store).2 =
      write (card.setting c) (card.writes c file env userbuf fetch store) := by
  have idle : ∀ reason : ¬(env.Grants ∧ fetch.isAnswered = true ∧ store.executed = true),
      write (card.setting c) (card.writes c file env userbuf fetch store) = card.setting c := by
    intro reason
    rw [EventCard.writes, if_neg reason]
    rfl
  rw [lbsThresholdWrite]
  by_cases page : env.page = true
  · by_cases copied : env.copied = true
    · rw [if_neg (not_not.mpr page), if_neg (not_not.mpr copied)]
      cases scanned : scanThreshold (userbuf.take (pageSize - 1)) with
      | none =>
          rw [EventCard.writes, scanned]
          simp only [Option.map_none, ite_self]
          rfl
      | some numbers =>
          obtain ⟨value, freq, switch⟩ := numbers
          by_cases command : env.command = true
          · simp only
            rw [if_neg (not_not.mpr command), setting_store keeps, EventCard.writes, scanned,
              Option.map_some]
            simp only [FileEnv.Grants, page, copied, command, true_and, and_self]
          · simp only
            rw [if_pos command, idle fun granted => command granted.1.2.2]
    · rw [if_neg (not_not.mpr page), if_pos copied, idle fun granted => copied granted.1.2.1]
  · rw [if_pos page, idle fun granted => page granted.1.1]

end Writes

/-- Calls of the files. A read with `pread` may start anywhere. -/
inductive ThresholdCall
  | write (file : ThresholdFile) (env : FileEnv) (userbuf : List UInt8) (fetch store : CallEnd)
  | read (env : FileEnv) (fetch : CallEnd)

section Runs

variable {κ : Type} {card : EventCard κ}

/-- A call leaves the card in another state. -/
def EventCard.step (card : EventCard κ) (c : κ) : ThresholdCall → κ
  | .write file env userbuf fetch store =>
      (lbsThresholdWrite card.toCard c file env userbuf fetch store).2
  | .read env fetch =>
      if env.page ∧ env.command then (card.call c subscribeEvent getSubscriptions fetch).2 else c

/-- The file whose setting a call changes, and the new one. -/
def EventCard.effect (card : EventCard κ) (c : κ) :
    ThresholdCall → Option (ThresholdFile × (Option (UInt8 × UInt8) × Bool))
  | .write file env userbuf fetch store => card.writes c file env userbuf fetch store
  | .read _ _ => none

theorem setting_step (keeps : card.Subscribes) (c : κ) (call : ThresholdCall) :
    card.setting (card.step c call) = write (card.setting c) (card.effect c call) := by
  cases call with
  | write file env userbuf fetch store => exact setting_write keeps c file env userbuf fetch store
  | read env fetch =>
      rw [EventCard.step, call_getSubscriptions keeps, ite_self]
      rfl

/-- A call stores a setting of the file, if its text is accepted. -/
def ThresholdCall.Stores (file : ThresholdFile) : ThresholdCall → Prop
  | write target env _ fetch store =>
      target = file ∧ env.Grants ∧ fetch.isAnswered = true ∧ store.executed = true
  | read _ _ => False

theorem effect_apart {file : ThresholdFile} {call : ThresholdCall} (apart : ¬call.Stores file)
    (c : κ) (new : ThresholdFile × (Option (UInt8 × UInt8) × Bool))
    (effect : card.effect c call = some new) : new.1 ≠ file := by
  cases call with
  | read env fetch => cases effect
  | write target env userbuf fetch store =>
      rintro rfl
      rw [EventCard.effect, EventCard.writes] at effect
      split at effect
      case isTrue granted =>
        obtain ⟨numbers, -, rfl⟩ := Option.map_eq_some_iff.mp effect
        exact apart ⟨rfl, granted⟩
      case isFalse => cases effect

/-- A write that is carried out changes the setting of its file. -/
theorem setting_of_stored (keeps : card.Subscribes) (c : κ) {file : ThresholdFile} {env : FileEnv}
    {userbuf : List UInt8} {fetch store : CallEnd} {value freq switch : Int}
    (scanned : scanThreshold (userbuf.take (pageSize - 1)) = some (value, freq, switch))
    (stored : (ThresholdCall.write file env userbuf fetch store).Stores file) :
    card.setting (card.step c (.write file env userbuf fetch store)) =
      write (card.setting c)
        (some (file, some (UInt8.ofInt value, card.storedFreq c freq file),
          Int32.ofInt switch ≠ 0)) := by
  rw [setting_step keeps, EventCard.effect, EventCard.writes, if_pos stored.2, scanned]
  rfl

/-- What was stored last in a file is what a read of it shows, whatever happens to the other files
and to calls that fail. Only the frequency of the beacon misses is that of the first threshold. -/
theorem threshold_file_read_back (keeps : card.Subscribes) (c : κ)
    (front : List ThresholdCall) {back : List ThresholdCall} {file : ThresholdFile}
    {env : FileEnv} {userbuf : List UInt8} {fetch store : CallEnd} {value freq switch : Int}
    (scanned : scanThreshold (userbuf.take (pageSize - 1)) = some (value, freq, switch))
    (stored : (ThresholdCall.write file env userbuf fetch store).Stores file)
    (last : ∀ call ∈ back, ¬call.Stores file) {reader : FileEnv} (page : reader.page = true)
    (command : reader.command = true) (seqnum : UInt16) {fuel : Nat} (enough : 32 ≤ fuel)
    (count : Nat) (ppos : Int) (fault : Bool) :
    let before := front.foldl card.step c
    let after := (front ++ .write file env userbuf fetch store :: back).foldl card.step c
    let text := printThreshold (UInt8.ofInt value) (card.storedFreq before freq file)
      (Int32.ofInt switch ≠ 0)
    lbsThresholdRead card.toCard after file reader (.answered seqnum) fuel count ppos fault =
      some (simpleReadFromBuffer (byteAt text) text.length count ppos fault, after) := by
  intro before after text
  have shown : card.setting after file =
      (some (UInt8.ofInt value, card.storedFreq before freq file),
        decide (Int32.ofInt switch ≠ 0)) := by
    have kept := cells_kept card.setting (setting_step keeps)
      (fun call late s new => effect_apart (last call late) s new)
      (card.step before (.write file env userbuf fetch store))
    have run : after = back.foldl card.step
        (card.step before (.write file env userbuf fetch store)) := List.foldl_append
    rw [run, kept, setting_of_stored keeps before scanned stored]
    exact Function.update_self _ _ _
  rw [lbsThresholdRead_answered keeps after file page command seqnum enough, shown]
  rfl

/-- The numbers of a text that was printed. -/
theorem scanThreshold_printThreshold (value freq : UInt8) (on : Bool) :
    scanThreshold (printThreshold value freq on) =
      some ((value.toNat : Int), (freq.toNat : Int), if on then 1 else 0) := by
  have text : printThreshold value freq on = signed 0 value.toNat ++ (0x20 ::
      (signed 0 freq.toNat ++ (0x20 :: (signed 0 (if on then 1 else 0) ++ [0x0a])))) := by
    simp only [printThreshold, List.append_assoc]
    rfl
  rw [text, scanThreshold, scanSigned_signed _ (ends_blank _), Option.bind_some]
  dsimp only
  rw [scanSigned_blank, scanSigned_signed _ (ends_blank _), Option.bind_some]
  dsimp only
  rw [scanSigned_blank, scanSigned_signed _ (ends_newline _)]
  rfl

/-- The text is much shorter than a page. -/
theorem take_printThreshold (value freq : UInt8) (on : Bool) :
    (printThreshold value freq on).take (pageSize - 1) = printThreshold value freq on := by
  have first := length_signed_byte value
  have second := length_signed_byte freq
  have third : (signed 0 (if on then 1 else 0)).length = 1 := by
    cases on <;> decide
  have blank : (ascii " ").length = 1 := rfl
  have newline : (ascii "\n").length = 1 := rfl
  apply List.take_of_length_le
  simp only [printThreshold, List.length_append, pageSize]
  omega

theorem uint8_ofInt_toNat (value : UInt8) : UInt8.ofInt value.toNat = value := by
  have small := value.toNat_lt
  rw [← UInt8.toNat_inj, toNat_uint8_ofInt]
  omega

/-- What a read of a file shows restores its setting later on, whatever was written meanwhile.
Only the frequency of the beacon misses is not restored. -/
theorem threshold_file_restores (keeps : card.Subscribes) (c : κ) {file : ThresholdFile}
    {value freq : UInt8} {on : Bool} (shown : card.setting c file = (some (value, freq), on))
    (calls : List ThresholdCall) {env : FileEnv} {fetch store : CallEnd}
    (stored : (ThresholdCall.write file env (settingText (card.setting c file)) fetch
      store).Stores file) :
    let after := calls.foldl card.step c
    let restored := card.step after
      (.write file env (settingText (card.setting c file)) fetch store)
    card.setting restored file =
        (if file = .bcnmiss then (some (value, card.firstFreq after), on)
          else card.setting c file) ∧
      ∀ other, other ≠ file → card.setting restored other = card.setting after other := by
  intro after restored
  have numbers : scanThreshold ((settingText (card.setting c file)).take (pageSize - 1)) =
      some ((value.toNat : Int), (freq.toNat : Int), if on then 1 else 0) := by
    rw [shown, settingText, take_printThreshold, scanThreshold_printThreshold]
  have written := setting_of_stored keeps after numbers stored
  have switch : decide (Int32.ofInt (if on then 1 else 0) ≠ 0) = on := by
    cases on <;> decide
  have freqs : (some (value, card.storedFreq after freq.toNat file), on) =
      if file = .bcnmiss then (some (value, card.firstFreq after), on)
        else card.setting c file := by
    rw [shown]
    cases file <;>
      first
        | rfl
        | exact congrArg (fun f => (some (value, f), on)) (uint8_ofInt_toNat _)
  constructor
  · have own := congrFun written file
    rw [write, Function.update_self, uint8_ofInt_toNat, switch, freqs] at own
    exact own
  · intro other apart
    exact (congrFun written other).trans (Function.update_of_ne apart _ _)

end Runs

/-- The files in the order of an answer. -/
def thresholdFiles : List ThresholdFile :=
  [.lowrssi, .lowsnr, .failcount, .bcnmiss, .highrssi, .highsnr]

/-- A card that is its mask and its thresholds. -/
def thresholdCard : EventCard (UInt16 × (ThresholdFile → UInt8 × UInt8)) where
  events c := c.1
  fields c := thresholdFiles.map fun file => ⟨file.tlvType, [(c.2 file).1, (c.2 file).2]⟩
  execute c _ body :=
    if le16At body 0 = cmdActSet then
      ((le16At body 2,
        fun file => if le16At body 4 = file.tlvType then (byteAt body 8, byteAt body 9)
          else c.2 file), [])
    else
      (c, le16Bytes cmdActGet ++ le16Bytes c.1 ++ Tlv.encode (thresholdFiles.map fun file =>
        ⟨file.tlvType, [(c.2 file).1, (c.2 file).2]⟩))

theorem threshold_thresholdCard (c : UInt16 × (ThresholdFile → UInt8 × UInt8)) (tlvType : UInt16) :
    thresholdCard.threshold c tlvType =
      (thresholdFiles.find? fun file => file.tlvType = tlvType).map c.2 := by
  rw [EventCard.threshold, thresholdCard, List.find?_map, Option.map_map]
  rfl

theorem thresholdCard_set (c : UInt16 × (ThresholdFile → UInt8 × UInt8)) {body : List UInt8}
    (set : le16At body 0 = cmdActSet) :
    (thresholdCard.execute c cmd80211SubscribeEvent body).1 =
      (le16At body 2, fun file => if le16At body 4 = file.tlvType then
        (byteAt body 8, byteAt body 9) else c.2 file) :=
  congrArg Prod.fst (if_pos set)

theorem thresholdCard_subscribes : thresholdCard.Subscribes where
  fits _ := by
    show 36 + 4 ≤ 128
    decide
  filled c field member := by
    obtain ⟨file, -, rfl⟩ := List.mem_map.mp member
    exact Nat.le_refl 2
  get c body get := if_neg (by rw [get]; decide)
  setEvents c _ set := congrArg Prod.fst (thresholdCard_set c set)
  setThreshold c body file set type _ := by
    funext tlvType
    rw [thresholdCard_set c set, type, write, threshold_thresholdCard]
    by_cases same : tlvType = file.tlvType
    · subst same
      rw [Function.update_self]
      cases file <;> rfl
    · rw [Function.update_of_ne same, threshold_thresholdCard]
      cases found : thresholdFiles.find? fun file => file.tlvType = tlvType with
      | none => rfl
      | some other =>
          have own : other.tlvType = tlvType := by simpa using List.find?_some found
          have apart : file.tlvType ≠ other.tlvType := fun clash => same (own.symm.trans clash.symm)
          exact congrArg some (if_neg apart)

/-- Everything is granted. -/
def granted : FileEnv :=
  { page := true, copied := true, command := true }

/-- A file is written, and the card answers both times. -/
def thresholdWrite (file : ThresholdFile) (value freq : UInt8) (on : Bool) : ThresholdCall :=
  .write file granted (printThreshold value freq on) (.answered 1) (.answered 2)

/-- The threshold of the SNR is set between writes to other files, and read. -/
theorem lowsnr_read_back :
    let after := ([thresholdWrite .bcnmiss 60 0 true] ++ thresholdWrite .lowsnr 10 3 true ::
      [thresholdWrite .lowrssi 200 1 false]).foldl thresholdCard.step (0, fun _ => (0, 0))
    let text := printThreshold 10 3 true
    lbsThresholdRead thresholdCard.toCard after .lowsnr granted (.answered 5) 32 64 0 false =
      some (simpleReadFromBuffer (byteAt text) text.length 64 0 false, after) := by
  have scanned := scanThreshold_printThreshold 10 3 true
  rw [← take_printThreshold] at scanned
  have other : ∀ call ∈ [thresholdWrite .lowrssi 200 1 false], ¬call.Stores .lowsnr := by
    intro call late stores
    cases List.mem_singleton.mp late
    exact absurd stores.1 (by decide)
  exact threshold_file_read_back thresholdCard_subscribes (0, fun _ => (0, 0))
    [thresholdWrite .bcnmiss 60 0 true] scanned ⟨rfl, by decide, rfl, rfl⟩ other rfl rfl 5
    (Nat.le_refl 32) 64 0 false

/-- The file is read, written by another text, and restored. -/
theorem lowsnr_restored :
    let after := [thresholdWrite .lowsnr 99 9 true].foldl thresholdCard.step (0, fun _ => (7, 2))
    let restored := thresholdCard.step after (thresholdWrite .lowsnr 7 2 false)
    thresholdCard.setting restored .lowsnr = (some (7, 2), false) ∧
      ∀ other, other ≠ .lowsnr →
        thresholdCard.setting restored other = thresholdCard.setting after other := by
  have shown : thresholdCard.setting (0, fun _ => (7, 2)) .lowsnr = (some (7, 2), false) := rfl
  have stored : (ThresholdCall.write .lowsnr granted
      (settingText (thresholdCard.setting (0, fun _ => (7, 2)) .lowsnr)) (.answered 1)
      (.answered 2)).Stores .lowsnr := ⟨rfl, by decide, rfl, rfl⟩
  have restores := threshold_file_restores thresholdCard_subscribes (0, fun _ => (7, 2)) shown
    [thresholdWrite .lowsnr 99 9 true] stored
  rw [shown] at restores
  exact restores

end Libertas

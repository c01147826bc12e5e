import Libertas.Cmd.Card
import Libertas.PersistCfg
import Libertas.Scanning
import Libertas.Transition.Cells

/-!
# The attributes of the persistent mesh settings

Each of seven attributes has a getter that prints it and a setter that scans it. The card
keeps all of them in one structure, which every getter fetches.

The getters of the numbers in the information element print them in decimal, and their
setters take what they are given for hexadecimal.
-/

namespace Libertas

open ByteOrder Cells Printing Scanning

/-- `CMD_TYPE_MESH_*`. -/
def cmdTypeMeshSetBootflag : UInt16 := 1
def cmdTypeMeshSetDefChannel : UInt16 := 3

def meshConfig : OrdinaryCmd := ⟨cmdMeshConfig, by decide⟩

/-- The conversions `%x` and `%hx` of `sscanf`. -/
def scanHex (buf : List UInt8) : Option UInt32 :=
  (scanUnsigned 16 buf).map fun (value, _) => UInt32.ofNat value
def scanShortHex (buf : List UInt8) : Option UInt16 :=
  (scanUnsigned 16 buf).map fun (value, _) => UInt16.ofNat value

/-- `bootflag_set`. -/
def bootflagSet (buf : List UInt8) (stored : CmdOutcome) : StoreEnd :=
  match scanHex buf with
  | none => { ret := -eInval, sent := [] }
  | some datum =>
      { ret := storeRet buf stored
        sent := [meshConfigRequest cmdActMeshConfigSet 0 cmdTypeMeshSetBootflag 4
          (le32Bytes (if datum ≠ 0 then 1 else 0))] }

/-- `channel_set`. -/
def channelSet (buf : List UInt8) (stored : CmdOutcome) : StoreEnd :=
  match scanShortHex buf with
  | none => { ret := -eInval, sent := [] }
  | some datum =>
      if datum < 1 ∨ datum > 11 then { ret := -eInval, sent := [] }
      else
        { ret := storeRet buf stored
          sent := [meshConfigRequest cmdActMeshConfigSet 0 cmdTypeMeshSetDefChannel 2
            (le16Bytes datum)] }

/-- The attributes. -/
inductive MeshAttribute
  | bootflag
  | boottime
  | channel
  | meshId
  | protocolId
  | metricId
  | capability
deriving DecidableEq, Repr

namespace MeshAttribute

/-- A part of the information element. -/
def InMeshie : MeshAttribute → Bool
  | bootflag | boottime | channel => false
  | meshId | protocolId | metricId | capability => true

/-- The setter of an attribute. -/
def set (buf stack : List UInt8) (fetched stored : CmdOutcome) : MeshAttribute → StoreEnd
  | bootflag => bootflagSet buf stored
  | boottime => boottimeSet scanHex buf stored
  | channel => channelSet buf stored
  | meshId => meshIdSet buf stack fetched stored buf.length
  | protocolId => protocolIdSet scanHex buf stack fetched stored
  | metricId => metricIdSet scanHex buf stack fetched stored
  | capability => capabilitySet scanHex buf stack fetched stored

/-- The bytes of an attribute in `struct mrvl_mesh_defaults`. A mesh identity is at most as long as
its array. -/
def raw (defs : List UInt8) : MeshAttribute → List UInt8
  | bootflag => slice defs 0 4
  | boottime => slice defs 4 1
  | channel => slice defs 6 2
  | protocolId => slice defs 16 1
  | metricId => slice defs 17 1
  | capability => slice defs 18 1
  | meshId => slice defs 20 (min (byteAt defs 19).toNat iwEssidMaxSize)

/-- The text that `snprintf` makes of these bytes. -/
def text (bytes : List UInt8) : MeshAttribute → List UInt8
  | bootflag => ascii "0x" ++ unsigned 16 0 (le32At bytes 0).toNat ++ ascii "\n"
  | boottime => ascii "0x" ++ unsigned 16 0 (byteAt bytes 0).toNat ++ ascii "\n"
  | channel => ascii "0x" ++ unsigned 16 0 (le16At bytes 0).toNat ++ ascii "\n"
  | protocolId | metricId | capability => signed 0 (byteAt bytes 0).toNat ++ ascii "\n"
  | meshId => bytes.takeWhile (· ≠ 0) ++ ascii "\n"

/-- The room that a getter gives to `snprintf`. -/
def room (bytes : List UInt8) : MeshAttribute → Nat
  | bootflag | boottime | channel => 12
  | protocolId | metricId | capability => 5
  | meshId => min (bytes.length + 2) 4096

/-- The zero that `mesh_id_get` stores behind the identity is in the structure. Behind 32 bytes it
is not. -/
def ZeroFits (bytes : List UInt8) : MeshAttribute → Bool
  | meshId => 20 + bytes.length < meshDefaultsSize
  | bootflag | boottime | channel | protocolId | metricId | capability => true

/-- The places of an attribute in the structure. -/
def Covers (i : Nat) : MeshAttribute → Prop
  | bootflag => i < 4
  | boottime => i = 4
  | channel => 6 ≤ i ∧ i < 8
  | protocolId => i = 16
  | metricId => i = 17
  | capability => i = 18
  | meshId => 19 ≤ i ∧ i < 52

/-- What a setter stores, if it accepts the text. A boot time is at least 20 seconds. -/
def asks (buf : List UInt8) : MeshAttribute → Option (List UInt8)
  | bootflag => (scanHex buf).map fun datum => le32Bytes (if datum ≠ 0 then 1 else 0)
  | boottime => (scanHex buf).map fun datum => [(if datum < 20 then 20 else datum).toUInt8]
  | channel =>
      (scanShortHex buf).bind fun datum =>
        if datum < 1 ∨ datum > 11 then none else some (le16Bytes datum)
  | protocolId | metricId | capability => (scanHex buf).map fun datum => [datum.toUInt8]
  | meshId =>
      if buf.length < 2 ∨ buf.length > iwEssidMaxSize + 1 then none
      else some (slice buf 0 (buf.length - 1))

section Calls

variable {κ : Type} (card : Card κ) (c : κ)

/-- The fetch of a setter that makes one. -/
def fetched (attr : MeshAttribute) (buf stack : List UInt8) (fetch : CallEnd) : CmdOutcome × κ :=
  if (attr.set buf stack .removed .removed).sent.head? = some getDefaultsRequest then
    card.send c meshConfig getDefaultsRequest fetch
  else (.removed, c)

/-- A setter is called. What it sends does not depend on the outcome of the storing. -/
def write (attr : MeshAttribute) (buf stack : List UInt8) (fetch store : CallEnd) : Int × κ :=
  let (fetched, c) := attr.fetched card c buf stack fetch
  match (attr.set buf stack fetched .removed).sent.getLast? with
  | none => ((attr.set buf stack fetched .removed).ret, c)
  | some req =>
      let (stored, c) := card.send c meshConfig req store
      ((attr.set buf stack fetched stored).ret, c)

/-- A getter is called: what it returns, and what is in the page. A getter that stores behind its
structure has no result here. -/
def read (attr : MeshAttribute) (stack : List UInt8) (fetch : CallEnd) :
    Option (Int × List UInt8) × κ :=
  let (fetched, c) := card.send c meshConfig getDefaultsRequest fetch
  let (ret, defs) := meshGetDefaultParameters stack fetched
  if ret ≠ 0 then (some (ret, []), c)
  else
    let bytes := attr.raw defs
    -- `%s` ends at the zero that was put behind the identity.
    if attr.ZeroFits bytes then
      (some ((attr.text bytes).length, stored (attr.room bytes) (attr.text bytes)), c)
    else (none, c)

end Calls

end MeshAttribute

/-- A card that keeps the settings. -/
structure MeshCard (κ : Type) extends Card κ where
  /-- `struct mrvl_mesh_defaults`. -/
  defaults : κ → List UInt8

/-- What a command stores: its type, and the offset and size of its part of the structure. -/
def meshPlaces : List (UInt16 × Nat × Nat) :=
  [(cmdTypeMeshSetBootflag, 0, 4), (cmdTypeMeshSetBoottime, 4, 1), (cmdTypeMeshSetDefChannel, 6, 2),
    (cmdTypeMeshSetMeshIe, 8, meshieSize)]

/-- A card answers with its settings, and stores the part that it is told to. -/
structure MeshCard.Keeps {κ : Type} (card : MeshCard κ) : Prop where
  get : ∀ c body, le16At body 0 = cmdActMeshConfigGet → le16At body 4 = cmdTypeMeshGetDefaults →
    (card.execute c cmdMeshConfig body).1 = c
  fits : ∀ c body, sDsGen + (card.execute c cmdMeshConfig body).2.length < 2 ^ 16
  answer : ∀ c body, le16At body 0 = cmdActMeshConfigGet →
    le16At body 4 = cmdTypeMeshGetDefaults → ∀ i < meshDefaultsSize,
      byteAt (card.execute c cmdMeshConfig body).2 (8 + i) = byteAt (card.defaults c) i
  set : ∀ c body, le16At body 0 = cmdActMeshConfigSet → ∀ place ∈ meshPlaces,
    le16At body 4 = place.1 → ∀ i < meshDefaultsSize,
      byteAt (card.defaults (card.execute c cmdMeshConfig body).1) i =
        if place.2.1 ≤ i ∧ i < place.2.1 + place.2.2 then byteAt body (8 + (i - place.2.1))
        else byteAt (card.defaults c) i

/-- The settings of a card. -/
def MeshCard.settings {κ : Type} (card : MeshCard κ) (c : κ) (attr : MeshAttribute) : List UInt8 :=
  attr.raw (card.defaults c)

namespace MeshAttribute

/-- Attributes have no byte in common, and none has the length of the element. -/
theorem covers_apart {attr other : MeshAttribute} (apart : other ≠ attr) {i : Nat}
    (own : attr.Covers i) : ¬other.Covers i := by
  cases attr <;> cases other <;> simp only [Covers] at own ⊢ <;>
    first
      | omega
      | exact absurd rfl apart

theorem ne_nine_of_covers {attr : MeshAttribute} {i : Nat} (own : attr.Covers i) :
    i ≠ 9 ∧ i < meshDefaultsSize := by
  rw [meshDefaultsSize]
  cases attr <;> simp only [Covers] at own <;> omega

theorem slice_congr {a b : List UInt8} {offset count : Nat}
    (same : ∀ i, offset ≤ i → i < offset + count → byteAt a i = byteAt b i) :
    slice a offset count = slice b offset count := by
  apply List.map_congr_left
  intro i below
  have inside := List.mem_range.mp below
  exact same (offset + i) (by omega) (by omega)

/-- An attribute is in its places. -/
theorem raw_congr {attr : MeshAttribute} {a b : List UInt8}
    (same : ∀ i, attr.Covers i → byteAt a i = byteAt b i) : attr.raw a = attr.raw b := by
  cases attr with
  | meshId =>
      have len : byteAt a 19 = byteAt b 19 := same 19 ⟨by decide, by decide⟩
      rw [raw, raw, len]
      apply slice_congr
      intro i above below
      have room : min (byteAt b 19).toNat iwEssidMaxSize ≤ 32 := Nat.min_le_right _ _
      exact same i ⟨by omega, by omega⟩
  | bootflag | boottime | channel | protocolId | metricId | capability =>
      apply slice_congr
      intro i above below
      apply same
      rw [Covers]
      omega

end MeshAttribute

section Stores

variable {κ : Type} {card : MeshCard κ} {c : κ} {req : Request} {type length : UInt16}
  {data : List UInt8}

/-- What is read off a mesh command is read off its body. -/
theorem read_sentBody {α : Type} (f : List UInt8 → α) {value : α}
    (sent : (if req.cmdNo = cmdMeshConfig then req.content.map fun content => f content.2
      else none) = some value) : f req.sentBody = value := by
  split at sent
  · obtain ⟨content, some, rfl⟩ := Option.map_eq_some_iff.mp sent
    rw [Request.sentBody, some]
    rfl
  · cases sent

/-- The card has stored the data of a command. -/
theorem byteAt_stored (keeps : card.Keeps) (c : κ) {offset size : Nat}
    (place : (type, offset, size) ∈ meshPlaces) (whole : data.length = size) {i : Nat}
    (inside : i < meshDefaultsSize) :
    byteAt (card.defaults (card.execute c cmdMeshConfig
        (meshConfigRequest cmdActMeshConfigSet 0 type length data).sentBody).1) i =
      if offset ≤ i ∧ i < offset + size then byteAt data (i - offset)
      else byteAt (card.defaults c) i := by
  have action : le16At (meshConfigRequest cmdActMeshConfigSet 0 type length data).sentBody 0 =
      cmdActMeshConfigSet :=
    read_sentBody (le16At · 0) meshAction_meshConfigRequest
  have kind : le16At (meshConfigRequest cmdActMeshConfigSet 0 type length data).sentBody 4 =
      type :=
    read_sentBody (le16At · 4) meshType_meshConfigRequest
  rw [keeps.set c _ action _ place kind i inside]
  by_cases own : offset ≤ i ∧ i < offset + size
  · have room : size ≤ 128 := by
      have all : ∀ place ∈ meshPlaces, place.2.2 ≤ 128 := by decide
      exact all _ place
    have byte : byteAt (meshConfigRequest cmdActMeshConfigSet 0 type length data).sentBody
        (8 + (i - offset)) = byteAt data (i - offset) :=
      read_sentBody (byteAt · (8 + (i - offset)))
        (meshByte_meshConfigRequest (by omega) (by omega))
    rw [if_pos own, if_pos own, byte]
  · rw [if_neg own, if_neg own]

theorem getDefaults_sentBody : le16At getDefaultsRequest.sentBody 0 = cmdActMeshConfigGet ∧
    le16At getDefaultsRequest.sentBody 4 = cmdTypeMeshGetDefaults :=
  ⟨read_sentBody (le16At · 0) meshAction_meshConfigRequest,
    read_sentBody (le16At · 4) meshType_meshConfigRequest⟩

/-- The fetch leaves the settings. -/
theorem defaults_fetched (keeps : card.Keeps) (c : κ) (fetch : CallEnd) :
    (card.send c meshConfig getDefaultsRequest fetch).2 = c := by
  obtain ⟨action, kind⟩ := getDefaults_sentBody
  rw [Card.send_card]
  split
  · exact keeps.get c _ action kind
  · rfl

/-- The element of a fetch that is answered. -/
theorem byteAt_fetchedMeshie_card (keeps : card.Keeps) (c : κ) (stack : List UInt8)
    (seqnum : UInt16) {i : Nat} (inside : i < meshieSize) :
    byteAt (fetchedMeshie stack (card.send c meshConfig getDefaultsRequest (.answered seqnum)).1)
      i = byteAt (card.defaults c) (8 + i) := by
  obtain ⟨action, kind⟩ := getDefaults_sentBody
  have size : 8 + i < meshDefaultsSize := by
    rw [meshieSize] at inside
    rw [meshDefaultsSize]
    omega
  rw [byteAt_fetchedMeshie Card.send_succeeded inside, CmdOutcome.meshieByte,
    show 24 + i = sDsGen + (8 + (8 + i)) by rw [sDsGen]; omega, Card.byteAt_send (keeps.fits c _)]
  exact keeps.answer c _ action kind (8 + i) size

variable {attr : MeshAttribute} {bytes : List UInt8}

/-- Settings of which one is written. -/
theorem settings_eq_write {c c' : κ}
    (others : ∀ other, other ≠ attr → ∀ i, other.Covers i →
      byteAt (card.defaults c') i = byteAt (card.defaults c) i)
    (own : attr.raw (card.defaults c') = bytes) :
    card.settings c' = write (card.settings c) (some (attr, bytes)) := by
  funext other
  rw [write]
  by_cases same : other = attr
  · subst same
    rw [Function.update_self]
    exact own
  · rw [Function.update_of_ne same]
    exact MeshAttribute.raw_congr (others other same)

theorem byteAt_of_slice {a : List UInt8} {offset : Nat}
    (held : ∀ i < bytes.length, byteAt a (offset + i) = byteAt bytes i) :
    slice a offset bytes.length = bytes := by
  rw [← slice_self bytes, slice_length]
  apply List.map_congr_left
  intro i below
  rw [held i (List.mem_range.mp below), Nat.zero_add]

/-- An attribute with a part of its own is stored. -/
theorem settings_stored_plain (keeps : card.Keeps) (c : κ) {offset : Nat}
    (place : (type, offset, bytes.length) ∈ meshPlaces)
    (covers : ∀ i, attr.Covers i ↔ offset ≤ i ∧ i < offset + bytes.length)
    (raw : ∀ defs, attr.raw defs = slice defs offset bytes.length) :
    card.settings (card.execute c cmdMeshConfig
        (meshConfigRequest cmdActMeshConfigSet 0 type length bytes).sentBody).1 =
      write (card.settings c) (some (attr, bytes)) := by
  apply settings_eq_write
  · intro other apart i covered
    have inside := (MeshAttribute.ne_nine_of_covers covered).2
    have outside : ¬attr.Covers i := MeshAttribute.covers_apart (Ne.symm apart) covered
    rw [byteAt_stored keeps c place rfl inside, if_neg (mt (covers i).mpr outside)]
  · rw [raw]
    apply byteAt_of_slice
    intro i below
    have own : attr.Covers (offset + i) := (covers _).mpr ⟨by omega, by omega⟩
    rw [byteAt_stored keeps c place rfl (MeshAttribute.ne_nine_of_covers own).2,
      if_pos ((covers _).mp own), Nat.add_sub_cancel_left]

/-- An attribute in the information element is stored with the rest of the element. -/
theorem settings_stored_meshie (keeps : card.Keeps) (c : κ) {ie : List UInt8}
    (size : ie.length = meshieSize)
    (others : ∀ i < meshieSize, ¬attr.Covers (8 + i) → i ≠ 1 →
      byteAt ie i = byteAt (card.defaults c) (8 + i))
    (own : ∀ defs, (∀ i < meshieSize, byteAt defs (8 + i) = byteAt ie i) → attr.raw defs = bytes) :
    card.settings (card.execute c cmdMeshConfig (setMeshIeRequest ie).sentBody).1 =
      write (card.settings c) (some (attr, bytes)) := by
  have place : (cmdTypeMeshSetMeshIe, 8, meshieSize) ∈ meshPlaces := by decide
  have total : 8 + meshieSize = meshDefaultsSize := rfl
  apply settings_eq_write
  · intro other apart i covered
    obtain ⟨notLength, inside⟩ := MeshAttribute.ne_nine_of_covers covered
    have outside : ¬attr.Covers i := MeshAttribute.covers_apart (Ne.symm apart) covered
    rw [setMeshIeRequest, byteAt_stored keeps c place size inside]
    by_cases element : 8 ≤ i
    · obtain ⟨j, rfl⟩ := Nat.exists_eq_add_of_le element
      rw [if_pos (by omega), Nat.add_sub_cancel_left,
        others j (by omega) outside (fun one => notLength (by omega))]
    · rw [if_neg (by omega)]
  · apply own
    intro i below
    rw [setMeshIeRequest, byteAt_stored keeps c place size (by omega), if_pos (by omega),
      Nat.add_sub_cancel_left]

/-- A number in the element is stored. -/
theorem settings_stored_number (keeps : card.Keeps) (c : κ) {stack : List UInt8}
    {fetched : CmdOutcome} {field : MeshField} (byte : UInt8)
    (covers : ∀ i, attr.Covers i ↔ i = 8 + field.offset)
    (raw : ∀ defs, attr.raw defs = slice defs (8 + field.offset) 1)
    (element : ∀ i < meshieSize,
      byteAt (fetchedMeshie stack fetched) i = byteAt (card.defaults c) (8 + i)) :
    card.settings (card.execute c cmdMeshConfig
        (setMeshIeRequest ((fetchedMeshie stack fetched).set field.offset byte)).sentBody).1 =
      write (card.settings c) (some (attr, [byte])) := by
  have place : field.offset < meshieSize := by cases field <;> decide
  have room : field.offset < (fetchedMeshie stack fetched).length := by
    rw [length_fetchedMeshie]
    exact place
  apply settings_stored_meshie keeps c
  · rw [List.length_set, length_fetchedMeshie]
  · intro i below outside _
    have other : i ≠ field.offset := fun same => outside ((covers _).mpr (congrArg (8 + ·) same))
    rw [byteAt_set _ room, if_neg other, element i below]
  · intro defs held
    rw [raw]
    have here : ∀ i < [byte].length, byteAt defs (8 + field.offset + i) = byteAt [byte] i := by
      intro i below
      obtain rfl : i = 0 := by simpa using below
      rw [Nat.add_zero, held _ place, byteAt_set _ room, if_pos rfl]
      rfl
    exact byteAt_of_slice here

/-- The bytes of a mesh identity that is stored, and its length. -/
theorem byteAt_withMeshId_own {buf ie : List UInt8} {len : Nat} (size : ie.length = meshieSize)
    (fits : len ≤ 32) :
    byteAt (withMeshId buf ie len) 11 = UInt8.ofNat len ∧
      ∀ i < len, byteAt (withMeshId buf ie len) (12 + i) = byteAt buf i := by
  rw [meshieSize] at size
  have room : (ie.take 12 ++ overwrite (slice buf 0 len) (ie.drop 12)).length = 44 := by
    simp only [overwrite, List.length_append, List.length_take, List.length_drop, slice_length,
      size]
    omega
  have outer : 1 < ((ie.take 12 ++ overwrite (slice buf 0 len) (ie.drop 12)).set 11
      (UInt8.ofNat len)).length := by
    rw [List.length_set, room]
    decide
  constructor
  · rw [withMeshId, byteAt_set _ outer, if_neg (by decide), byteAt_set _ (by omega), if_pos rfl]
  · intro i below
    rw [withMeshId, byteAt_set _ outer, if_neg (by omega), byteAt_set _ (by omega),
      if_neg (by omega), byteAt_overwrite_at (by omega), if_pos ⟨by omega, by omega⟩, Nat.zero_add,
      Nat.add_sub_cancel_left]

theorem raw_meshId_of_withMeshId {buf ie defs : List UInt8} {len : Nat}
    (size : ie.length = meshieSize) (fits : len ≤ 32)
    (held : ∀ i < meshieSize, byteAt defs (8 + i) = byteAt (withMeshId buf ie len) i) :
    MeshAttribute.meshId.raw defs = slice buf 0 len := by
  obtain ⟨lengthByte, own⟩ := byteAt_withMeshId_own size fits
  have length : byteAt defs 19 = UInt8.ofNat len := (held 11 (by decide)).trans lengthByte
  have kept : min (UInt8.ofNat len).toNat iwEssidMaxSize = len := by
    rw [UInt8.toNat_ofNat_of_lt' (Nat.lt_of_le_of_lt fits (by decide)), iwEssidMaxSize]
    exact Nat.min_eq_left fits
  rw [MeshAttribute.raw, length, kept]
  apply List.map_congr_left
  intro i below
  have inside := List.mem_range.mp below
  rw [show 20 + i = 8 + (12 + i) by omega, held (12 + i) (by rw [meshieSize]; omega),
    own i inside, Nat.zero_add]

/-- A mesh identity is stored along with its length. -/
theorem settings_stored_meshId (keeps : card.Keeps) (c : κ) {buf stack : List UInt8}
    {fetched : CmdOutcome} {len : Nat} (fits : len ≤ 32)
    (element : ∀ i < meshieSize,
      byteAt (fetchedMeshie stack fetched) i = byteAt (card.defaults c) (8 + i)) :
    card.settings (card.execute c cmdMeshConfig
        (setMeshIeRequest (withMeshId buf (fetchedMeshie stack fetched) len)).sentBody).1 =
      write (card.settings c) (some (.meshId, slice buf 0 len)) := by
  have size : (fetchedMeshie stack fetched).length = meshieSize := length_fetchedMeshie
  apply settings_stored_meshie keeps c
  · exact length_withMeshId size fits
  · intro i below outside notLength
    have other : ¬(MeshieSetter.meshId (len + 1)).Owns i := by
      rw [MeshAttribute.Covers] at outside
      rw [meshieSize] at below
      rw [MeshieSetter.Owns]
      omega
    rw [byteAt_withMeshId size fits other, element i below]
  · intro defs held
    exact raw_meshId_of_withMeshId size fits held

/-- A setter sends nothing for a text that it does not accept. -/
theorem set_of_rejected {buf : List UInt8} (rejected : attr.asks buf = none)
    (stack : List UInt8) (fetched stored : CmdOutcome) :
    attr.set buf stack fetched stored = { ret := -eInval, sent := [] } := by
  have number : ∀ field, scanHex buf = none →
      meshNumberSet scanHex buf stack fetched stored field = { ret := -eInval, sent := [] } := by
    intro field unscanned
    rw [meshNumberSet, unscanned]
  cases attr with
  | bootflag =>
      show bootflagSet buf stored = _
      rw [bootflagSet, Option.map_eq_none_iff.mp rejected]
  | boottime =>
      show boottimeSet scanHex buf stored = _
      rw [boottimeSet, Option.map_eq_none_iff.mp rejected]
  | channel =>
      show channelSet buf stored = _
      rw [MeshAttribute.asks] at rejected
      rw [channelSet]
      cases scanned : scanShortHex buf with
      | none => rfl
      | some datum =>
          rw [scanned, Option.bind_some, ite_eq_left_iff] at rejected
          by_cases outside : datum < 1 ∨ datum > 11
          · exact if_pos outside
          · cases rejected outside
  | meshId =>
      show meshIdSet buf stack fetched stored buf.length = _
      rw [MeshAttribute.asks, ite_eq_left_iff] at rejected
      rw [meshIdSet]
      by_cases outside : buf.length < 2 ∨ buf.length > iwEssidMaxSize + 1
      · exact if_pos outside
      · cases rejected outside
  | protocolId => exact number .protocolId (Option.map_eq_none_iff.mp rejected)
  | metricId => exact number .metricId (Option.map_eq_none_iff.mp rejected)
  | capability => exact number .capability (Option.map_eq_none_iff.mp rejected)

/-- A setter fetches the element if it needs it, and sends a command that stores these bytes, if the
element is what the card has. -/
structure SetterStores (card : MeshCard κ) (c : κ) (attr : MeshAttribute)
    (buf bytes stack : List UInt8) (fetched : CmdOutcome) (req : Request) : Prop where
  stop : ∀ stored, attr.set buf stack fetched stored =
    { ret := storeRet buf stored
      sent := (if attr.InMeshie then [getDefaultsRequest] else []) ++ [req] }
  stores : (attr.InMeshie = true → ∀ i < meshieSize,
      byteAt (fetchedMeshie stack fetched) i = byteAt (card.defaults c) (8 + i)) →
    card.settings (card.execute c cmdMeshConfig req.sentBody).1 =
      write (card.settings c) (some (attr, bytes))

variable {buf stack : List UInt8} {fetched : CmdOutcome}

/-- The setter of an attribute with a part of its own. -/
theorem stores_plain (keeps : card.Keeps) (c : κ) (type length : UInt16) (offset size : Nat)
    (stack : List UInt8) (fetched : CmdOutcome) (whole : bytes.length = size)
    (plain : attr.InMeshie = false)
    (stop : ∀ stored, attr.set buf stack fetched stored =
      { ret := storeRet buf stored
        sent := [meshConfigRequest cmdActMeshConfigSet 0 type length bytes] })
    (place : (type, offset, size) ∈ meshPlaces)
    (covers : ∀ i, attr.Covers i ↔ offset ≤ i ∧ i < offset + size)
    (raw : ∀ defs, attr.raw defs = slice defs offset size) :
    SetterStores card c attr buf bytes stack fetched
      (meshConfigRequest cmdActMeshConfigSet 0 type length bytes) where
  stop stored := by
    rw [stop stored, plain]
    rfl
  stores _ := by
    subst whole
    exact settings_stored_plain keeps c place covers raw

/-- The setter of a number in the element. -/
theorem stores_number (keeps : card.Keeps) (c : κ) (stack : List UInt8) (fetched : CmdOutcome)
    (field : MeshField) {datum : UInt32} (scanned : scanHex buf = some datum)
    (inside : attr.InMeshie = true)
    (set : ∀ stored, attr.set buf stack fetched stored =
      meshNumberSet scanHex buf stack fetched stored field)
    (covers : ∀ i, attr.Covers i ↔ i = 8 + field.offset)
    (raw : ∀ defs, attr.raw defs = slice defs (8 + field.offset) 1) :
    SetterStores card c attr buf [datum.toUInt8] stack fetched
      (setMeshIeRequest ((fetchedMeshie stack fetched).set field.offset datum.toUInt8)) where
  stop stored := by
    rw [set stored, meshNumberSet, scanned, inside]
    rfl
  stores element := settings_stored_number keeps c datum.toUInt8 covers raw (element inside)

/-- A setter that accepts a text stores it. -/
theorem stores_of_accepted (keeps : card.Keeps) (c : κ) (accepted : attr.asks buf = some bytes)
    (stack : List UInt8) (fetched : CmdOutcome) :
    ∃ req, SetterStores card c attr buf bytes stack fetched req := by
  cases attr with
  | bootflag =>
      obtain ⟨datum, scanned, rfl⟩ := Option.map_eq_some_iff.mp accepted
      have covers : ∀ i, MeshAttribute.bootflag.Covers i ↔ 0 ≤ i ∧ i < 0 + 4 := by
        intro i
        rw [MeshAttribute.Covers]
        omega
      refine ⟨_, stores_plain keeps c cmdTypeMeshSetBootflag 4 0 4 stack fetched rfl rfl
        (fun stored => ?_) (by decide) covers fun _ => rfl⟩
      show bootflagSet buf stored = _
      rw [bootflagSet, scanned]
  | boottime =>
      obtain ⟨datum, scanned, rfl⟩ := Option.map_eq_some_iff.mp accepted
      have covers : ∀ i, MeshAttribute.boottime.Covers i ↔ 4 ≤ i ∧ i < 4 + 1 := by
        intro i
        rw [MeshAttribute.Covers]
        omega
      refine ⟨_, stores_plain keeps c cmdTypeMeshSetBoottime 1 4 1 stack fetched rfl rfl
        (fun stored => ?_) (by decide) covers fun _ => rfl⟩
      show boottimeSet scanHex buf stored = _
      rw [boottimeSet, scanned]
  | channel =>
      obtain ⟨datum, scanned, asked⟩ := Option.bind_eq_some_iff.mp accepted
      by_cases outside : datum < 1 ∨ datum > 11
      · rw [if_pos outside] at asked
        cases asked
      rw [if_neg outside] at asked
      obtain rfl := Option.some.inj asked
      refine ⟨_, stores_plain keeps c cmdTypeMeshSetDefChannel 2 6 2 stack fetched rfl rfl
        (fun stored => ?_) (by decide) (fun _ => Iff.rfl) fun _ => rfl⟩
      show channelSet buf stored = _
      rw [channelSet, scanned]
      exact if_neg outside
  | meshId =>
      rw [MeshAttribute.asks] at accepted
      by_cases outside : buf.length < 2 ∨ buf.length > iwEssidMaxSize + 1
      · rw [if_pos outside] at accepted
        cases accepted
      rw [if_neg outside] at accepted
      obtain rfl := Option.some.inj accepted
      refine ⟨setMeshIeRequest (withMeshId buf (fetchedMeshie stack fetched) (buf.length - 1)),
        fun stored => ?_, fun element => ?_⟩
      · show meshIdSet buf stack fetched stored buf.length = _
        rw [meshIdSet, if_neg outside]
        rfl
      · rw [iwEssidMaxSize] at outside
        exact settings_stored_meshId keeps c (by omega) (element rfl)
  | protocolId =>
      obtain ⟨datum, scanned, rfl⟩ := Option.map_eq_some_iff.mp accepted
      exact ⟨_, stores_number keeps c stack fetched .protocolId scanned rfl (fun _ => rfl)
        (fun _ => Iff.rfl) fun _ => rfl⟩
  | metricId =>
      obtain ⟨datum, scanned, rfl⟩ := Option.map_eq_some_iff.mp accepted
      exact ⟨_, stores_number keeps c stack fetched .metricId scanned rfl (fun _ => rfl)
        (fun _ => Iff.rfl) fun _ => rfl⟩
  | capability =>
      obtain ⟨datum, scanned, rfl⟩ := Option.map_eq_some_iff.mp accepted
      exact ⟨_, stores_number keeps c stack fetched .capability scanned rfl (fun _ => rfl)
        (fun _ => Iff.rfl) fun _ => rfl⟩

/-- The fetch of a setter leaves the settings. -/
theorem fetched_card (keeps : card.Keeps) (c : κ) (attr : MeshAttribute) (buf stack : List UInt8)
    (fetch : CallEnd) :
    (attr.fetched card.toCard c buf stack fetch).2 = c := by
  rw [MeshAttribute.fetched]
  split
  · exact defaults_fetched keeps c fetch
  · rfl

/-- What a setter fetches is what the card has. -/
theorem fetched_element (keeps : card.Keeps) (c : κ) (accepted : attr.asks buf = some bytes)
    (inside : attr.InMeshie = true) (stack : List UInt8) {fetch : CallEnd}
    (answered : fetch.isAnswered = true) :
    ∀ i < meshieSize,
      byteAt (fetchedMeshie stack (attr.fetched card.toCard c buf stack fetch).1) i =
        byteAt (card.defaults c) (8 + i) := by
  obtain ⟨req, setter⟩ := stores_of_accepted keeps c accepted stack .removed
  have first : (attr.set buf stack .removed .removed).sent.head? = some getDefaultsRequest := by
    rw [setter.stop, inside]
    rfl
  rw [MeshAttribute.fetched, if_pos first]
  cases fetch with
  | failed outcome error executed => cases answered
  | answered seqnum => exact fun i below => byteAt_fetchedMeshie_card keeps c stack seqnum below

/-- A text that is not accepted changes nothing. -/
theorem write_of_rejected (rejected : attr.asks buf = none) (c : κ) (stack : List UInt8)
    (fetch store : CallEnd) :
    attr.write card.toCard c buf stack fetch store = (-eInval, c) := by
  have unfetched : attr.fetched card.toCard c buf stack fetch = (.removed, c) := by
    rw [MeshAttribute.fetched, set_of_rejected rejected]
    rfl
  rw [MeshAttribute.write, unfetched]
  dsimp only
  rw [set_of_rejected rejected]
  rfl

/-- A text that is accepted is stored by the last command. -/
theorem write_of_accepted (keeps : card.Keeps) (c : κ) (accepted : attr.asks buf = some bytes)
    (stack : List UInt8) (fetch store : CallEnd) :
    ∃ req, SetterStores card c attr buf bytes stack
        (attr.fetched card.toCard c buf stack fetch).1 req ∧
      attr.write card.toCard c buf stack fetch store =
        (storeRet buf (card.send c meshConfig req store).1,
          (card.send c meshConfig req store).2) := by
  obtain ⟨req, setter⟩ := stores_of_accepted keeps c accepted stack
    (attr.fetched card.toCard c buf stack fetch).1
  refine ⟨req, setter, ?_⟩
  have last : (attr.set buf stack (attr.fetched card.toCard c buf stack fetch).1
      .removed).sent.getLast? = some req := by
    rw [setter.stop]
    exact List.getLast?_concat
  have same := fetched_card keeps c attr buf stack fetch
  rw [MeshAttribute.write]
  dsimp only
  rw [same, last]
  dsimp only
  rw [setter.stop]

/-- What a setter leaves in the card. -/
theorem settings_write (keeps : card.Keeps) (c : κ) (attr : MeshAttribute) (buf stack : List UInt8)
    {fetch store : CallEnd}
    (answered : attr.InMeshie = true → store.executed = true → fetch.isAnswered = true) :
    card.settings (attr.write card.toCard c buf stack fetch store).2 =
      write (card.settings c)
        (if store.executed then (attr.asks buf).map fun bytes => (attr, bytes) else none) := by
  cases asked : attr.asks buf with
  | none =>
      rw [write_of_rejected asked, Option.map_none, ite_self]
      rfl
  | some bytes =>
      obtain ⟨req, setter, ran⟩ := write_of_accepted keeps c asked stack fetch store
      rw [ran, Card.send_card]
      by_cases executed : store.executed = true
      · rw [if_pos executed, if_pos executed]
        exact setter.stores fun inside =>
          fetched_element keeps c asked inside stack (answered inside executed)
      · rw [if_neg executed, if_neg executed]
        rfl

/-- The settings that an answered fetch gets. -/
theorem defaults_answered (keeps : card.Keeps) (c : κ) (stack : List UInt8) (seqnum : UInt16) :
    ∃ defs, meshGetDefaultParameters stack
        (card.send c meshConfig getDefaultsRequest (.answered seqnum)).1 = (0, defs) ∧
      ∀ i < meshDefaultsSize, byteAt defs i = byteAt (card.defaults c) i := by
  have succeeded : (card.send c meshConfig getDefaultsRequest (.answered seqnum)).1.Succeeded :=
    Card.send_succeeded
  have ret : (lbsMeshConfigSend cmdActMeshConfigGet 0 cmdTypeMeshGetDefaults 0 []
      (card.send c meshConfig getDefaultsRequest (.answered seqnum)).1).1 = 0 :=
    succeeded.ret_eq_zero
  have cleared : ∀ j < 144, 16 ≤ j → byteAt (getDefaultsRequest.storedBuffer
      (meshConfigCmd cmdActMeshConfigGet 0 cmdTypeMeshGetDefaults 0 [])) j = 0 := by
    decide +kernel
  obtain ⟨action, kind⟩ := getDefaults_sentBody
  refine ⟨_, if_neg (not_not.mpr ret), fun i inside => ?_⟩
  have size : meshDefaultsSize = 52 := rfl
  rw [byteAt_slice _ inside]
  refine (CmdOutcome.byteAt_buffer_of_zero succeeded (Nat.lt_of_lt_of_le (by omega : _ < 144)
    (by decide +kernel)) (cleared _ (by omega) (by omega))).trans ?_
  rw [show 16 + i = sDsGen + (8 + i) by rw [sDsGen]; omega, Card.byteAt_send (keeps.fits c _)]
  exact keeps.answer c _ action kind i inside

/-- The text of an attribute has room. -/
theorem text_fits (attr : MeshAttribute) (defs : List UInt8) :
    (attr.text (attr.raw defs)).length < attr.room (attr.raw defs) := by
  have head : (ascii "0x").length = 2 := rfl
  have newline : (ascii "\n").length = 1 := rfl
  have number : ∀ bytes, (signed 0 (byteAt bytes 0).toNat ++ ascii "\n").length < 5 := by
    intro bytes
    have digits := length_signed_byte (byteAt bytes 0)
    rw [List.length_append]
    omega
  cases attr with
  | bootflag =>
      have digits : (unsigned 16 0 (le32At (slice defs 0 4) 0).toNat).length ≤ 8 :=
        length_unsigned_le (by decide) (by decide) (UInt32.toNat_lt _)
      simp only [MeshAttribute.text, MeshAttribute.room, MeshAttribute.raw, List.length_append]
      omega
  | boottime =>
      have digits : (unsigned 16 0 (byteAt (slice defs 4 1) 0).toNat).length ≤ 2 :=
        length_unsigned_le (by decide) (by decide) (UInt8.toNat_lt _)
      simp only [MeshAttribute.text, MeshAttribute.room, MeshAttribute.raw, List.length_append]
      omega
  | channel =>
      have digits : (unsigned 16 0 (le16At (slice defs 6 2) 0).toNat).length ≤ 4 :=
        length_unsigned_le (by decide) (by decide) (UInt16.toNat_lt _)
      simp only [MeshAttribute.text, MeshAttribute.room, MeshAttribute.raw, List.length_append]
      omega
  | protocolId | metricId | capability => exact number _
  | meshId =>
      have length : (MeshAttribute.meshId.raw defs).length ≤ 32 := by
        rw [MeshAttribute.raw, slice_length, iwEssidMaxSize]
        exact Nat.min_le_right _ _
      have shown := (List.takeWhile_prefix (fun c : UInt8 => decide (c ≠ 0))
        (l := MeshAttribute.meshId.raw defs)).length_le
      simp only [MeshAttribute.text, MeshAttribute.room, List.length_append]
      omega

theorem stored_of_lt {room : Nat} {text : List UInt8} (fits : text.length < room) :
    stored room text = text ++ [0] := by
  rw [stored, if_neg (by omega), List.take_of_length_le (by omega)]

/-- A getter that is answered prints the setting, if the zero fits. -/
theorem read_answered (keeps : card.Keeps) (c : κ) (attr : MeshAttribute) (stack : List UInt8)
    (seqnum : UInt16) :
    attr.read card.toCard c stack (.answered seqnum) =
      (if attr.ZeroFits (card.settings c attr) then
        some (((attr.text (card.settings c attr)).length : Int),
          attr.text (card.settings c attr) ++ [0])
      else none, c) := by
  obtain ⟨defs, fetched, held⟩ := defaults_answered keeps c stack seqnum
  have same : attr.raw defs = card.settings c attr :=
    MeshAttribute.raw_congr fun i covered =>
      held i (MeshAttribute.ne_nine_of_covers covered).2
  have fits : (attr.text (card.settings c attr)).length < attr.room (card.settings c attr) :=
    text_fits attr (card.defaults c)
  have kept := defaults_fetched keeps c (.answered seqnum)
  rw [MeshAttribute.read]
  dsimp only
  rw [fetched]
  dsimp only
  rw [if_neg (not_not.mpr rfl), same, stored_of_lt fits, kept]
  split <;> rfl

end Stores

/-- The text of a setting, written back, is taken for the setting. The numbers of the element are
printed in decimal and scanned in hexadecimal, and what a setter does not store does not come
back. -/
def MeshAttribute.Stable (bytes : List UInt8) : MeshAttribute → Prop
  | bootflag => (le32At bytes 0).toNat ≤ 1
  | boottime => 20 ≤ (byteAt bytes 0).toNat
  | channel => 1 ≤ (le16At bytes 0).toNat ∧ (le16At bytes 0).toNat ≤ 11
  | protocolId | metricId | capability => (byteAt bytes 0).toNat < 10
  | meshId => bytes ≠ [] ∧ 0 ∉ bytes ∧ bytes.length < iwEssidMaxSize

section Texts

variable {attr : MeshAttribute} {defs : List UInt8}

theorem scanHex_text (n : Nat) :
    scanHex (ascii "0x" ++ unsigned 16 0 n ++ ascii "\n") = some (UInt32.ofNat n) := by
  have scanned : scanUnsigned 16 (ascii "0x" ++ unsigned 16 0 n ++ ascii "\n") =
      some (n, [0x0a]) := scanUnsigned_prefix n (ends_newline [])
  rw [scanHex, scanned]
  rfl

theorem scanShortHex_text (n : Nat) :
    scanShortHex (ascii "0x" ++ unsigned 16 0 n ++ ascii "\n") = some (UInt16.ofNat n) := by
  have scanned : scanUnsigned 16 (ascii "0x" ++ unsigned 16 0 n ++ ascii "\n") =
      some (n, [0x0a]) := scanUnsigned_prefix n (ends_newline [])
  rw [scanShortHex, scanned]
  rfl

/-- A field of two or four bytes is its bytes. -/
theorem eq_of_le16At {a b : List UInt8} (lengthA : a.length = 2) (lengthB : b.length = 2)
    (same : le16At a 0 = le16At b 0) : a = b := by
  obtain ⟨first, second⟩ := le16At_inj same
  apply eq_of_byteAt lengthA lengthB
  intro i below
  obtain rfl | rfl : i = 0 ∨ i = 1 := by omega
  · exact first
  · exact second

theorem eq_of_le32At {a b : List UInt8} (lengthA : a.length = 4) (lengthB : b.length = 4)
    (same : le32At a 0 = le32At b 0) : a = b := by
  obtain ⟨low, high⟩ := le32At_inj same
  obtain ⟨first, second⟩ := le16At_inj low
  obtain ⟨third, fourth⟩ := le16At_inj high
  apply eq_of_byteAt lengthA lengthB
  intro i below
  obtain rfl | rfl | rfl | rfl : i = 0 ∨ i = 1 ∨ i = 2 ∨ i = 3 := by omega
  · exact first
  · exact second
  · exact third
  · exact fourth

theorem eq_singleton {bytes : List UInt8} (length : bytes.length = 1) (byte : UInt8) :
    [byte] = bytes ↔ byte = byteAt bytes 0 := by
  obtain ⟨own, rfl⟩ := List.length_eq_one_iff.mp length
  exact List.singleton_inj

/-- A number in decimal, taken for one in hexadecimal, is the same up to 9. -/
theorem scanHex_decimal (byte : UInt8) :
    (scanHex (signed 0 byte.toNat ++ ascii "\n")).map (fun datum => [datum.toUInt8]) =
      some [byte] ↔ byte.toNat < 10 := by
  have all : ∀ n < 256, (scanHex (signed 0 (n : Nat) ++ ascii "\n")).map
      (fun datum => [datum.toUInt8]) = some [UInt8.ofNat n] ↔ n < 10 := by
    decide +kernel
  have own := all byte.toNat byte.toNat_lt
  rwa [UInt8.ofNat_toNat] at own

/-- The flag that is stored is the one that was shown, if that was a flag. -/
theorem bootflag_stable {bytes : List UInt8} (length : bytes.length = 4) :
    MeshAttribute.bootflag.asks (MeshAttribute.bootflag.text bytes) = some bytes ↔
      MeshAttribute.bootflag.Stable bytes := by
  have flag : ∀ value : UInt32, (if value ≠ 0 then 1 else 0) = value ↔ value.toNat ≤ 1 := by
    intro value
    by_cases zero : value = 0
    · subst zero
      decide
    · have positive : value.toNat ≠ 0 := fun none => zero (UInt32.toNat_inj.mp none)
      rw [if_pos zero]
      constructor
      · rintro rfl
        decide
      · intro small
        have one : value.toNat = 1 := by omega
        exact UInt32.toNat_inj.mp one.symm
  have field : ∀ on : Prop, [Decidable on] →
      le32At (le32Bytes (if on then 1 else 0)) 0 = if on then 1 else 0 := by
    intro on _
    split <;> decide
  rw [MeshAttribute.asks, MeshAttribute.text, scanHex_text, UInt32.ofNat_toNat, Option.map_some,
    Option.some_inj, MeshAttribute.Stable, ← flag]
  constructor
  · intro same
    have value := congrArg (le32At · 0) same
    exact (field _).symm.trans value
  · intro same
    exact eq_of_le32At rfl length ((field _).trans same)

theorem boottime_stable {bytes : List UInt8} (length : bytes.length = 1) :
    MeshAttribute.boottime.asks (MeshAttribute.boottime.text bytes) = some bytes ↔
      MeshAttribute.boottime.Stable bytes := by
  have bound := (byteAt bytes 0).toNat_lt
  have value : (UInt32.ofNat (byteAt bytes 0).toNat).toNat = (byteAt bytes 0).toNat :=
    UInt32.toNat_ofNat_of_lt' (Nat.lt_trans bound (by decide))
  rw [MeshAttribute.asks, MeshAttribute.text, scanHex_text, Option.map_some, Option.some_inj,
    eq_singleton length, MeshAttribute.Stable, ← UInt8.toNat_inj, toNat_boottime, value]
  omega

theorem channel_stable {bytes : List UInt8} (length : bytes.length = 2) :
    MeshAttribute.channel.asks (MeshAttribute.channel.text bytes) = some bytes ↔
      MeshAttribute.channel.Stable bytes := by
  have own : le16Bytes (le16At bytes 0) = bytes := by
    apply eq_of_le16At rfl length
    have field := le16At_le16Bytes (le16At bytes 0) []
    rwa [List.append_nil] at field
  have below : le16At bytes 0 < 1 ↔ (le16At bytes 0).toNat < 1 := UInt16.lt_iff_toNat_lt
  have above : le16At bytes 0 > 11 ↔ 11 < (le16At bytes 0).toNat := UInt16.lt_iff_toNat_lt
  rw [MeshAttribute.asks, MeshAttribute.text, scanShortHex_text, UInt16.ofNat_toNat,
    Option.bind_some, own, MeshAttribute.Stable]
  by_cases outside : le16At bytes 0 < 1 ∨ le16At bytes 0 > 11
  · rw [if_pos outside]
    rw [below, above] at outside
    refine iff_of_false (by simp) ?_
    omega
  · rw [if_neg outside]
    rw [below, above] at outside
    refine iff_of_true rfl ?_
    omega

theorem takeWhile_ne_zero {bytes : List UInt8} :
    bytes.takeWhile (· ≠ 0) = bytes ↔ 0 ∉ bytes := by
  rw [List.takeWhile_eq_self_iff]
  constructor
  · intro all mem
    exact absurd (all 0 mem) (by decide)
  · intro none c mem
    exact decide_eq_true fun zero => none (zero ▸ mem)

/-- A mesh identity is taken for itself if it is one for `snprintf`. -/
theorem meshId_asks {bytes : List UInt8} (short : bytes.length ≤ 32) :
    MeshAttribute.meshId.asks (MeshAttribute.meshId.text bytes) = some bytes ↔
      bytes ≠ [] ∧ 0 ∉ bytes := by
  have shown : (bytes.takeWhile (· ≠ 0)).length ≤ bytes.length :=
    (List.takeWhile_prefix _).length_le
  have text : (MeshAttribute.meshId.text bytes).length = (bytes.takeWhile (· ≠ 0)).length + 1 := by
    rw [MeshAttribute.text, List.length_append]
    rfl
  have kept : slice (MeshAttribute.meshId.text bytes) 0 (bytes.takeWhile (· ≠ 0)).length =
      bytes.takeWhile (· ≠ 0) := by
    apply eq_of_byteAt (slice_length _ _ _) rfl
    intro i below
    rw [byteAt_slice _ below, Nat.zero_add, MeshAttribute.text, byteAt,
      List.getD_append _ _ _ _ below, byteAt]
  rw [MeshAttribute.asks, text, Nat.add_sub_cancel, kept, iwEssidMaxSize, ← takeWhile_ne_zero]
  by_cases empty : bytes.takeWhile (· ≠ 0) = []
  · rw [empty, if_pos (.inl (by decide))]
    refine iff_of_false (by simp) ?_
    rintro ⟨filled, same⟩
    exact filled same.symm
  · have positive := List.length_pos_iff.mpr empty
    rw [if_neg (by omega), Option.some_inj]
    refine ⟨fun same => ⟨?_, same⟩, And.right⟩
    rw [← same]
    exact empty

theorem zeroFits_meshId {bytes : List UInt8} :
    MeshAttribute.meshId.ZeroFits bytes = true ↔ bytes.length < iwEssidMaxSize := by
  rw [MeshAttribute.ZeroFits, decide_eq_true_iff, meshDefaultsSize, iwEssidMaxSize]
  omega

/-- The text of a setting is printed, and taken for the setting. -/
theorem text_stable (attr : MeshAttribute) (defs : List UInt8) :
    attr.ZeroFits (attr.raw defs) = true ∧
        attr.asks (attr.text (attr.raw defs)) = some (attr.raw defs) ↔
      attr.Stable (attr.raw defs) := by
  have printed : ∀ {p q : Prop}, (p ↔ q) → (true = true ∧ p ↔ q) :=
    fun same => (and_iff_right rfl).trans same
  have number : ∀ offset, (scanHex (signed 0 (byteAt (slice defs offset 1) 0).toNat ++
      ascii "\n")).map (fun datum => [datum.toUInt8]) = some (slice defs offset 1) ↔
        (byteAt (slice defs offset 1) 0).toNat < 10 := by
    intro offset
    exact scanHex_decimal (byteAt defs (offset + 0))
  cases attr with
  | bootflag => exact printed (bootflag_stable (slice_length _ _ _))
  | boottime => exact printed (boottime_stable (slice_length _ _ _))
  | channel => exact printed (channel_stable (slice_length _ _ _))
  | protocolId => exact printed (number 16)
  | metricId => exact printed (number 17)
  | capability => exact printed (number 18)
  | meshId =>
      have short : (MeshAttribute.meshId.raw defs).length ≤ 32 := by
        rw [MeshAttribute.raw, slice_length, iwEssidMaxSize]
        exact Nat.min_le_right _ _
      rw [zeroFits_meshId, meshId_asks short, MeshAttribute.Stable, and_comm, and_assoc]

/-- A text of a getter has no zero byte. -/
theorem zero_not_mem_text (attr : MeshAttribute) (bytes : List UInt8) : 0 ∉ attr.text bytes := by
  have head : 0 ∉ ascii "0x" := by decide
  have newline : 0 ∉ ascii "\n" := by decide
  have hex : ∀ n, 0 ∉ ascii "0x" ++ unsigned 16 0 n ++ ascii "\n" := by
    intro n
    have digits : 0 ∉ unsigned 16 0 n := zero_not_mem_unsigned (by decide) (by decide) n
    simp only [List.mem_append, head, digits, newline, or_self, not_false_eq_true]
  have decimal : 0 ∉ signed 0 (byteAt bytes 0).toNat ++ ascii "\n" := by
    have digits : 0 ∉ unsigned 10 0 (byteAt bytes 0).toNat :=
      zero_not_mem_unsigned (by decide) (by decide) _
    rw [signed, if_neg (by omega), List.mem_append, not_or]
    exact ⟨digits, newline⟩
  cases attr with
  | bootflag | boottime | channel => exact hex _
  | protocolId | metricId | capability => exact decimal
  | meshId =>
      rw [MeshAttribute.text, List.mem_append, not_or]
      refine ⟨fun mem => ?_, newline⟩
      exact absurd (List.mem_takeWhile_imp mem) (by decide)

theorem strlen_text (attr : MeshAttribute) (bytes : List UInt8) :
    strlen (attr.text bytes) = (attr.text bytes).length :=
  congrArg List.length (takeWhile_ne_zero.mpr (zero_not_mem_text attr bytes))

end Texts

/-- A text is written to an attribute. The information element is not stored behind a fetch that
failed. -/
structure MeshWrite where
  attr : MeshAttribute
  buf : List UInt8
  stack : List UInt8
  fetch : CallEnd
  store : CallEnd
  fetches : attr.InMeshie = true → store.executed = true → fetch.isAnswered = true

/-- What is stored. -/
def MeshWrite.effect (call : MeshWrite) : Option (MeshAttribute × List UInt8) :=
  if call.store.executed then (call.attr.asks call.buf).map fun bytes => (call.attr, bytes)
  else none

section Runs

variable {κ : Type} {card : MeshCard κ}

def MeshCard.step (card : MeshCard κ) (c : κ) (call : MeshWrite) : κ :=
  (call.attr.write card.toCard c call.buf call.stack call.fetch call.store).2

/-- The settings after any writes are what the writes store. -/
theorem settings_foldl (keeps : card.Keeps) (c : κ) (calls : List MeshWrite) :
    card.settings (calls.foldl card.step c) =
      written (card.settings c) (calls.filterMap MeshWrite.effect) := by
  have one : ∀ c call, card.settings (card.step c call) =
      write (card.settings c) (MeshWrite.effect call) :=
    fun c call => settings_write keeps c call.attr call.buf call.stack call.fetches
  exact cells_foldl card.settings one c calls

/-- A getter prints what was stored last in its attribute, whatever was written to the others. Only
of an identity of 32 bytes it does not: it stores behind its structure. -/
theorem mesh_settings_read_back (keeps : card.Keeps) (c : κ) (calls : List MeshWrite)
    (attr : MeshAttribute) (stack : List UInt8) (seqnum : UInt16) :
    let after := calls.foldl card.step c
    let bytes := written (card.settings c) (calls.filterMap MeshWrite.effect) attr
    let text := attr.text bytes
    attr.read card.toCard after stack (.answered seqnum) =
      (if attr = .meshId ∧ iwEssidMaxSize ≤ bytes.length then none
      else some ((text.length : Int), text ++ [0]), after) := by
  intro after bytes text
  have fits : attr.ZeroFits bytes = true ↔ ¬(attr = .meshId ∧ iwEssidMaxSize ≤ bytes.length) := by
    cases attr with
    | meshId =>
        rw [zeroFits_meshId]
        simp
    | _ => simp [MeshAttribute.ZeroFits]
  rw [read_answered keeps after attr stack seqnum, settings_foldl keeps c calls]
  by_cases behind : attr = .meshId ∧ iwEssidMaxSize ≤ bytes.length
  · rw [if_pos behind, if_neg fun shown => fits.mp shown behind]
  · rw [if_neg behind, if_pos (fits.mpr behind)]

/-- The text of a setting is written back. -/
theorem text_written_iff (keeps : card.Keeps) (c : κ) (attr : MeshAttribute) (stack : List UInt8)
    (fetchSeq storeSeq : UInt16) :
    let text := attr.text (card.settings c attr)
    let ran := attr.write card.toCard c text stack (.answered fetchSeq) (.answered storeSeq)
    ran.1 = text.length ∧ card.settings ran.2 = card.settings c ↔
      attr.asks text = some (card.settings c attr) := by
  intro text ran
  have after : card.settings ran.2 =
      write (card.settings c) ((attr.asks text).map fun bytes => (attr, bytes)) :=
    settings_write keeps c attr text stack fun _ _ => rfl
  rw [after]
  cases asked : attr.asks text with
  | none =>
      have refused : ran.1 = -eInval :=
        congrArg Prod.fst (write_of_rejected asked c stack _ _)
      rw [refused]
      refine iff_of_false (fun both => ?_) (by simp)
      have negative := both.1
      rw [eInval] at negative
      omega
  | some bytes =>
      obtain ⟨req, -, wrote⟩ :=
        write_of_accepted keeps c asked stack (.answered fetchSeq) (.answered storeSeq)
      have answered : (card.send c meshConfig req (.answered storeSeq)).1.Succeeded :=
        Card.send_succeeded
      have length : ran.1 = text.length := by
        rw [show ran = _ from wrote, storeRet, if_neg (not_not.mpr answered.ret_eq_zero),
          strlen_text]
      constructor
      · rintro ⟨-, same⟩
        have own := congrFun same attr
        rw [Option.map_some, write, Function.update_self] at own
        exact congrArg some own
      · intro same
        refine ⟨length, ?_⟩
        rw [Option.map_some, write, Option.some.inj same, Function.update_eq_self]

/-- What a getter prints, its setter takes, and leaves all settings as they are, if and only if the
setting is stable. -/
theorem settings_text_stable_iff (keeps : card.Keeps) (c : κ) (attr : MeshAttribute)
    (stack : List UInt8) (shownSeq fetchSeq storeSeq : UInt16) :
    (∃ ret page, (attr.read card.toCard c stack (.answered shownSeq)).1 = some (ret, page) ∧
      let text := page.take ret.toNat
      let ran := attr.write card.toCard c text stack (.answered fetchSeq) (.answered storeSeq)
      ran.1 = text.length ∧ card.settings ran.2 = card.settings c) ↔
      attr.Stable (card.settings c attr) := by
  have shown := congrArg Prod.fst (read_answered keeps c attr stack shownSeq)
  have stable : attr.ZeroFits (card.settings c attr) = true ∧
      attr.asks (attr.text (card.settings c attr)) = some (card.settings c attr) ↔
        attr.Stable (card.settings c attr) := text_stable attr (card.defaults c)
  rw [← stable, shown]
  constructor
  · rintro ⟨ret, page, read, same⟩
    split at read
    · rename_i fits
      obtain ⟨rfl, rfl⟩ := Prod.mk.inj (Option.some.inj read)
      have printed : (attr.text (card.settings c attr) ++ [0]).take
          ((attr.text (card.settings c attr)).length : Int).toNat =
            attr.text (card.settings c attr) := List.take_left
      rw [printed] at same
      exact ⟨fits, (text_written_iff keeps c attr stack fetchSeq storeSeq).mp same⟩
    · exact absurd read (by simp)
  · rintro ⟨fits, taken⟩
    refine ⟨_, _, if_pos fits, ?_⟩
    have printed : (attr.text (card.settings c attr) ++ [0]).take
        ((attr.text (card.settings c attr)).length : Int).toNat =
          attr.text (card.settings c attr) := List.take_left
    rw [printed]
    exact (text_written_iff keeps c attr stack fetchSeq storeSeq).mpr taken

end Runs

/-- A card that is its settings. -/
def meshCard : MeshCard (List UInt8) where
  defaults c := c
  execute c _ body :=
    if le16At body 0 = cmdActMeshConfigSet then
      match meshPlaces.find? fun place => place.1 = le16At body 4 with
      | none => (c, [])
      | some place =>
          ((List.range meshDefaultsSize).map fun i =>
            if place.2.1 ≤ i ∧ i < place.2.1 + place.2.2 then byteAt body (8 + (i - place.2.1))
            else byteAt c i, [])
    else (c, List.replicate 8 0 ++ slice c 0 meshDefaultsSize)

theorem meshCard_keeps : meshCard.Keeps where
  get c body get _ := by
    have other : ¬le16At body 0 = cmdActMeshConfigSet := by
      rw [get]
      decide
    exact congrArg Prod.fst (if_neg other)
  fits c body := by
    show sDsGen + (if _ then _ else _ : List UInt8 × List UInt8).2.length < _
    rw [sDsGen]
    split
    · split <;> exact (by decide : 8 < 2 ^ 16)
    · rw [List.length_append, slice_length]
      decide
  answer c body get _ i inside := by
    have other : ¬le16At body 0 = cmdActMeshConfigSet := by
      rw [get]
      decide
    have answer : (meshCard.execute c cmdMeshConfig body).2 =
        List.replicate 8 0 ++ slice c 0 meshDefaultsSize := congrArg Prod.snd (if_neg other)
    have behind : byteAt (List.replicate 8 0 ++ slice c 0 meshDefaultsSize) (8 + i) =
        byteAt (slice c 0 meshDefaultsSize) i := byteAt_append_right (List.replicate 8 0) _ i
    rw [answer, behind, byteAt_slice _ inside, Nat.zero_add]
    rfl
  set c body set place listed type i inside := by
    have found : meshPlaces.find? (fun place => place.1 = le16At body 4) = some place := by
      rw [type]
      have all : ∀ place ∈ meshPlaces,
          meshPlaces.find? (fun other => other.1 = place.1) = some place := by decide
      exact all place listed
    have executed : (meshCard.execute c cmdMeshConfig body).1 =
        (List.range meshDefaultsSize).map fun i =>
          if place.2.1 ≤ i ∧ i < place.2.1 + place.2.2 then byteAt body (8 + (i - place.2.1))
          else byteAt c i := by
      show (if _ then _ else _ : List UInt8 × List UInt8).1 = _
      rw [if_pos set, found]
    show byteAt (meshCard.execute c cmdMeshConfig body).1 i = _
    rw [executed, byteAt, List.getD_eq_getElem?_getD, List.getElem?_map,
      List.getElem?_range inside]
    rfl

/-- Both commands are answered. -/
def meshWrite (attr : MeshAttribute) (buf : List UInt8) : MeshWrite where
  attr := attr
  buf := buf
  stack := []
  fetch := .answered 1
  store := .answered 2
  fetches _ _ := rfl

/-- A protocol is set to 12, and is 18 then. The identity is set behind it. -/
theorem protocol_read_back :
    let after := [meshWrite .protocolId (ascii "12\n"), meshWrite .meshId (ascii "net\n")].foldl
      meshCard.step (List.replicate 52 0)
    MeshAttribute.protocolId.read meshCard.toCard after [] (.answered 3) =
      (some ((3 : Int), ascii "18\n" ++ [0]), after) := by
  have text : MeshAttribute.protocolId.text (written (meshCard.settings (List.replicate 52 0))
      ([meshWrite .protocolId (ascii "12\n"), meshWrite .meshId (ascii "net\n")].filterMap
        MeshWrite.effect) .protocolId) = ascii "18\n" := by
    decide
  have shown := mesh_settings_read_back meshCard_keeps (List.replicate 52 0)
    [meshWrite .protocolId (ascii "12\n"), meshWrite .meshId (ascii "net\n")] .protocolId [] 3
  dsimp only at shown
  rw [text] at shown
  exact shown

/-- A protocol of 10 is shown as 10, which is taken for 16. -/
theorem protocol_not_stable :
    let c := List.replicate 16 0 ++ [10] ++ List.replicate 35 0
    ¬∃ ret page,
      (MeshAttribute.protocolId.read meshCard.toCard c [] (.answered 1)).1 = some (ret, page) ∧
        let text := page.take ret.toNat
        let ran :=
          MeshAttribute.protocolId.write meshCard.toCard c text [] (.answered 2) (.answered 3)
        ran.1 = text.length ∧ meshCard.settings ran.2 = meshCard.settings c := by
  intro c
  have large : ¬MeshAttribute.protocolId.Stable (meshCard.settings c .protocolId) := by
    show ¬(10 : Nat) < 10
    decide
  exact mt (settings_text_stable_iff meshCard_keeps c .protocolId [] 1 2 3).mp large

end Libertas

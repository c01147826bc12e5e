import Libertas.Cmd.Mesh

/-!
# Persistent mesh settings

The sysfs attributes of the mesh device read and write settings that the card keeps
in its flash memory. The protocol, the metric, the capability and the mesh identity
are parts of one information element: their setters fetch it, change a part of it on
the stack and store it. None of them looks at the result of the fetch.

`scan` is the conversion `%x` of `sscanf`; the results hold for every one. What was on
the stack where the fetched settings are to come is part of the input.
-/

namespace Libertas

open ByteOrder

/-- `CMD_TYPE_MESH_*`. -/
def cmdTypeMeshSetBoottime : UInt16 := 2
def cmdTypeMeshSetMeshIe : UInt16 := 4
def cmdTypeMeshGetDefaults : UInt16 := 5

/-- `sizeof(struct mrvl_meshie)` and `sizeof(struct mrvl_mesh_defaults)`. -/
def meshieSize : Nat := 44
def meshDefaultsSize : Nat := 52

/-- The end of a setter: what it returns, and the commands that it sends, oldest first. -/
structure StoreEnd where
  ret : Int
  sent : List Request
deriving DecidableEq, Repr

/-- The setters that store a number in the information element. -/
inductive MeshField
  | protocolId
  | metricId
  | capability
deriving DecidableEq, Repr

/-- Where the number is in `struct mrvl_meshie`. -/
def MeshField.offset : MeshField → Nat
  | protocolId => 8
  | metricId => 9
  | capability => 10

/-- `strlen`. -/
def strlen (buf : List UInt8) : Nat :=
  (buf.takeWhile (· ≠ 0)).length

/-- The command of `mesh_get_default_parameters`. -/
def getDefaultsRequest : Request :=
  meshConfigRequest cmdActMeshConfigGet 0 cmdTypeMeshGetDefaults 0 []

/-- `mesh_get_default_parameters`: what it returns, and the structure of the caller. -/
def meshGetDefaultParameters (defs : List UInt8) (outcome : CmdOutcome) : Int × List UInt8 :=
  let (ret, cmd) := lbsMeshConfigSend cmdActMeshConfigGet 0 cmdTypeMeshGetDefaults 0 [] outcome
  if ret ≠ 0 then (-eOpNotSupp, defs) else (0, slice cmd 16 meshDefaultsSize)

/-- The command that stores an information element. -/
def setMeshIeRequest (ie : List UInt8) : Request :=
  meshConfigRequest cmdActMeshConfigSet 0 cmdTypeMeshSetMeshIe (UInt16.ofNat meshieSize) ie

/-- What a setter returns for the result of its last command. -/
def storeRet (buf : List UInt8) (outcome : CmdOutcome) : Int :=
  if outcome.ret ≠ 0 then outcome.ret else strlen buf

section Setters

variable (scan : List UInt8 → Option UInt32) (buf stack : List UInt8)
  (fetched stored : CmdOutcome)

/-- `boottime_set`. -/
def boottimeSet : StoreEnd :=
  match scan buf with
  | none => { ret := -eInval, sent := [] }
  | some datum =>
      let datum := if datum < 20 then 20 else datum
      { ret := storeRet buf stored
        sent := [meshConfigRequest cmdActMeshConfigSet 0 cmdTypeMeshSetBoottime 1
          [datum.toUInt8]] }

/-- The information element on the stack behind the fetch. -/
def fetchedMeshie : List UInt8 :=
  slice (meshGetDefaultParameters stack fetched).2 8 meshieSize

/-- An information element with another mesh identity, and the lengths that depend on it. -/
def withMeshId (ie : List UInt8) (len : Nat) : List UInt8 :=
  ((ie.take 12 ++ overwrite (slice buf 0 len) (ie.drop 12)).set 11 (UInt8.ofNat len)).set 1
    (UInt8.ofNat (meshieValSize - iwEssidMaxSize + len))

/-- `mesh_id_set`. -/
def meshIdSet (count : Nat) : StoreEnd :=
  if count < 2 ∨ count > iwEssidMaxSize + 1 then { ret := -eInval, sent := [] }
  else
    let ie := withMeshId buf (fetchedMeshie stack fetched) (count - 1)
    { ret := storeRet buf stored, sent := [getDefaultsRequest, setMeshIeRequest ie] }

/-- The setters of the numbers, but for the place of their number. -/
def meshNumberSet (field : MeshField) : StoreEnd :=
  match scan buf with
  | none => { ret := -eInval, sent := [] }
  | some datum =>
      let ie := (fetchedMeshie stack fetched).set field.offset datum.toUInt8
      { ret := storeRet buf stored, sent := [getDefaultsRequest, setMeshIeRequest ie] }

/-- `protocol_id_set`, `metric_id_set` and `capability_set`. -/
def protocolIdSet : StoreEnd :=
  meshNumberSet scan buf stack fetched stored .protocolId
def metricIdSet : StoreEnd :=
  meshNumberSet scan buf stack fetched stored .metricId
def capabilitySet : StoreEnd :=
  meshNumberSet scan buf stack fetched stored .capability

end Setters

/-- The setters of the information element. -/
inductive MeshieSetter
  | meshId (count : Nat)
  | number (field : MeshField)
deriving DecidableEq, Repr

namespace MeshieSetter

/-- The setter runs. -/
def run (scan : List UInt8 → Option UInt32) (buf stack : List UInt8)
    (fetched stored : CmdOutcome) : MeshieSetter → StoreEnd
  | meshId count => meshIdSet buf stack fetched stored count
  | number .protocolId => protocolIdSet scan buf stack fetched stored
  | number .metricId => metricIdSet scan buf stack fetched stored
  | number .capability => capabilitySet scan buf stack fetched stored

/-- The input is rejected. -/
def Rejects (scan : List UInt8 → Option UInt32) (buf : List UInt8) : MeshieSetter → Prop
  | meshId count => count < 2 ∨ count > iwEssidMaxSize + 1
  | number _ => scan buf = none

/-- The bytes of the information element that the setter is for. A mesh identity comes with its
length and that of the element. -/
def Owns (i : Nat) : MeshieSetter → Prop
  | meshId _ => i = 1 ∨ i = 11 ∨ 12 ≤ i
  | number field => i = field.offset

end MeshieSetter

/-- The byte of the information element that the card answers with. -/
def CmdOutcome.meshieByte (outcome : CmdOutcome) (i : Nat) : UInt8 :=
  byteAt outcome.response (24 + i)

/-- The command stores an information element. -/
def Request.SetsMeshie (req : Request) : Prop :=
  req.meshAction = some cmdActMeshConfigSet ∧ req.meshType = some cmdTypeMeshSetMeshIe

/-- An information element is stored only after it was fetched, and differs from the one that was
fetched only in the bytes of the setter. -/
def ModifiesFetched (setter : MeshieSetter) (fetched : CmdOutcome) (sent : List Request) : Prop :=
  ∀ req ∈ sent, req.SetsMeshie →
    fetched.Succeeded ∧
      ∀ i < meshieSize, ¬ setter.Owns i → req.meshByte i = some (fetched.meshieByte i)

section Fetch

variable {scan : List UInt8 → Option UInt32} {buf stack ie : List UInt8}
  {fetched stored : CmdOutcome} {setter : MeshieSetter}

@[simp] theorem length_fetchedMeshie : (fetchedMeshie stack fetched).length = meshieSize :=
  slice_length _ _ _

/-- What is fetched is in the response. -/
theorem byteAt_fetchedMeshie (succeeded : fetched.Succeeded) {i : Nat} (inside : i < meshieSize) :
    byteAt (fetchedMeshie stack fetched) i = fetched.meshieByte i := by
  have defaults : (meshGetDefaultParameters stack fetched).2 =
      slice (lbsMeshConfigSend cmdActMeshConfigGet 0 cmdTypeMeshGetDefaults 0 [] fetched).2 16
        meshDefaultsSize := by
    have ret : (lbsMeshConfigSend cmdActMeshConfigGet 0 cmdTypeMeshGetDefaults 0 [] fetched).1 =
        0 := succeeded.ret_eq_zero
    rw [meshGetDefaultParameters]
    dsimp only
    rw [if_neg (not_not.mpr ret)]
  have cleared : ∀ j < 144, 16 ≤ j → byteAt (getDefaultsRequest.storedBuffer
      (meshConfigCmd cmdActMeshConfigGet 0 cmdTypeMeshGetDefaults 0 [])) j = 0 := by
    decide +kernel
  have size : meshieSize = 44 := rfl
  rw [fetchedMeshie, byteAt_slice _ inside, defaults, byteAt_slice _ (by
    rw [meshDefaultsSize]
    omega), CmdOutcome.meshieByte, show 16 + (8 + i) = 24 + i by omega]
  exact CmdOutcome.byteAt_buffer_of_zero succeeded (Nat.lt_of_lt_of_le (by omega : _ < 144)
    (by decide +kernel)) (cleared _ (by omega) (by omega))

/-- An information element is sent as it was made. -/
theorem meshByte_setMeshIeRequest (size : ie.length = meshieSize) {i : Nat}
    (inside : i < meshieSize) : (setMeshIeRequest ie).meshByte i = some (byteAt ie i) := by
  have room : meshieSize ≤ 128 := by decide
  exact meshByte_meshConfigRequest (size ▸ inside) (Nat.lt_of_lt_of_le inside room)

theorem setsMeshie_setMeshIeRequest : (setMeshIeRequest ie).SetsMeshie :=
  ⟨meshAction_meshConfigRequest, meshType_meshConfigRequest⟩

theorem not_setsMeshie_getDefaults : ¬ getDefaultsRequest.SetsMeshie := by
  rintro ⟨get, -⟩
  rw [getDefaultsRequest, meshAction_meshConfigRequest] at get
  exact absurd get (by decide)

theorem length_withMeshId (size : ie.length = meshieSize) {len : Nat} (fits : len ≤ 32) :
    (withMeshId buf ie len).length = meshieSize := by
  rw [meshieSize] at size ⊢
  simp only [withMeshId, overwrite, List.length_set, List.length_append, List.length_take,
    List.length_drop, slice_length, size]
  omega

theorem byteAt_withMeshId (size : ie.length = meshieSize) {len : Nat} (fits : len ≤ 32) {i : Nat}
    (other : ¬ (MeshieSetter.meshId (len + 1)).Owns i) :
    byteAt (withMeshId buf ie len) i = byteAt ie i := by
  rw [MeshieSetter.Owns] at other
  rw [meshieSize] at size
  have room : (ie.take 12 ++ overwrite (slice buf 0 len) (ie.drop 12)).length = 44 := by
    simp only [overwrite, List.length_append, List.length_take, List.length_drop, slice_length,
      size]
    omega
  rw [withMeshId, byteAt_set _ (by rw [List.length_set]; omega), if_neg (by omega),
    byteAt_set _ (by omega), if_neg (by omega), byteAt_overwrite_at (by omega), if_neg (by omega)]

theorem run_number (field : MeshField) :
    (MeshieSetter.number field).run scan buf stack fetched stored =
      meshNumberSet scan buf stack fetched stored field := by
  cases field <;> rfl

/-- A setter that is not rejected fetches the information element and stores one that is like it
but for its own bytes. -/
theorem run_of_accepted (stack : List UInt8) (fetched stored : CmdOutcome)
    (accepted : ¬ setter.Rejects scan buf) :
    ∃ ie, (setter.run scan buf stack fetched stored).sent =
        [getDefaultsRequest, setMeshIeRequest ie] ∧ ie.length = meshieSize ∧
      ∀ i < meshieSize, ¬ setter.Owns i → byteAt ie i = byteAt (fetchedMeshie stack fetched) i := by
  cases setter with
  | meshId count =>
      show ∃ ie, (meshIdSet buf stack fetched stored count).sent = _ ∧ _
      rw [MeshieSetter.Rejects, iwEssidMaxSize] at accepted
      rw [meshIdSet, iwEssidMaxSize, if_neg accepted]
      refine ⟨_, rfl, length_withMeshId length_fetchedMeshie (by omega), fun i _ other => ?_⟩
      exact byteAt_withMeshId length_fetchedMeshie (by omega) other
  | number field =>
      obtain ⟨datum, scanned⟩ := Option.ne_none_iff_exists'.mp accepted
      rw [run_number, meshNumberSet, scanned]
      have place : field.offset < meshieSize := by cases field <;> decide
      refine ⟨_, rfl, ?_, fun i _ other => ?_⟩
      · rw [List.length_set, length_fetchedMeshie]
      · rw [MeshieSetter.Owns] at other
        rw [byteAt_set _ (by rw [length_fetchedMeshie]; exact place), if_neg other]

theorem run_of_rejected (rejected : setter.Rejects scan buf) :
    (setter.run scan buf stack fetched stored).sent = [] := by
  cases setter with
  | meshId count =>
      show (meshIdSet buf stack fetched stored count).sent = []
      rw [MeshieSetter.Rejects] at rejected
      rw [meshIdSet, if_pos rejected]
  | number field =>
      have unscanned : scan buf = none := rejected
      rw [run_number, meshNumberSet, unscanned]

end Fetch

/-- A setter stores only a changed copy of what it fetched, if and only if its input is rejected or
the card answers the fetch. -/
theorem mesh_settings_modified_iff (scan : List UInt8 → Option UInt32) (setter : MeshieSetter)
    (buf stack : List UInt8) (fetched stored : CmdOutcome) :
    ModifiesFetched setter fetched (setter.run scan buf stack fetched stored).sent ↔
      setter.Rejects scan buf ∨ fetched.Succeeded := by
  by_cases rejected : setter.Rejects scan buf
  · refine iff_of_true ?_ (.inl rejected)
    rw [run_of_rejected rejected]
    exact fun req member => absurd member List.not_mem_nil
  obtain ⟨ie, sent, size, same⟩ := run_of_accepted stack fetched stored rejected
  rw [sent]
  constructor
  · intro modifies
    exact .inr (modifies (setMeshIeRequest ie) (by simp) setsMeshie_setMeshIeRequest).1
  · intro answered
    have succeeded := answered.resolve_left rejected
    intro req member sets
    rcases List.mem_cons.mp member with rfl | member
    · exact absurd sets not_setsMeshie_getDefaults
    · obtain rfl := List.mem_singleton.mp member
      refine ⟨succeeded, fun i inside other => ?_⟩
      rw [meshByte_setMeshIeRequest size inside, same i inside other,
        byteAt_fetchedMeshie succeeded inside]

/-- The fetch times out, and what was on the stack is stored. -/
theorem stack_stored_as_meshie :
    ¬ ModifiesFetched (.number .protocolId) .timedOut
      ((MeshieSetter.number .protocolId).run (fun _ => some 1) [0x31, 0x0a]
        (List.replicate 52 0xff) .timedOut .interrupted).sent := by
  intro modifies
  have accepted : ¬ (MeshieSetter.number .protocolId).Rejects (fun _ => some 1) [0x31, 0x0a] :=
    Option.some_ne_none 1
  obtain ⟨ie, sent, -, -⟩ :=
    run_of_accepted (List.replicate 52 0xff) .timedOut .interrupted accepted
  rw [sent] at modifies
  exact (modifies (setMeshIeRequest ie) (by simp) setsMeshie_setMeshIeRequest).1

/-- The setters that store a number in one byte. -/
inductive NumberSetter
  | boottime
  | meshie (field : MeshField)
deriving DecidableEq, Repr

namespace NumberSetter

/-- The setter runs. -/
def run (scan : List UInt8 → Option UInt32) (buf stack : List UInt8)
    (fetched stored : CmdOutcome) : NumberSetter → StoreEnd
  | boottime => boottimeSet scan buf stored
  | meshie field => (MeshieSetter.number field).run scan buf stack fetched stored

/-- The place of the number in the data of the command. -/
def place : NumberSetter → Nat
  | boottime => 0
  | meshie field => field.offset

/-- The number to store. A boot time is at least 20 seconds. -/
def wanted (datum : UInt32) : NumberSetter → Nat
  | boottime => max 20 datum.toNat
  | meshie _ => datum.toNat

end NumberSetter

/-- The number of the input is the one that is stored, and one that has no room is rejected. -/
structure ValueKept (scan : List UInt8 → Option UInt32) (buf : List UInt8) (setter : NumberSetter)
    (stop : StoreEnd) : Prop where
  stored : ∀ datum, scan buf = some datum → ∀ req ∈ stop.sent,
    req.meshAction = some cmdActMeshConfigSet →
      ∃ byte, req.meshByte setter.place = some byte ∧ byte.toNat = setter.wanted datum
  rejected : ∀ datum, scan buf = some datum → 256 ≤ setter.wanted datum →
    stop.ret = -eInval ∧ stop.sent = []

section Number

variable {scan : List UInt8 → Option UInt32} {buf : List UInt8} {datum : UInt32}

/-- The byte of a boot time. -/
theorem toNat_boottime (datum : UInt32) :
    (if datum < 20 then 20 else datum).toUInt8.toNat = max 20 datum.toNat % 256 := by
  have bound : datum < 20 ↔ datum.toNat < 20 := UInt32.lt_iff_toNat_lt
  by_cases small : datum < 20
  · rw [if_pos small, Nat.max_eq_left (Nat.le_of_lt (bound.mp small))]
    rfl
  · rw [if_neg small, Nat.max_eq_right (Nat.le_of_not_lt (small ∘ bound.mpr)),
      UInt32.toNat_toUInt8]

/-- A number that was read is stored, by the last command of the setter only. -/
theorem run_of_scanned (setter : NumberSetter) (stack : List UInt8) (fetched stored : CmdOutcome)
    (scanned : scan buf = some datum) :
    ∃ before req, (setter.run scan buf stack fetched stored).sent = before ++ [req] ∧
      (∀ other ∈ before, other.meshAction ≠ some cmdActMeshConfigSet) ∧
      req.meshAction = some cmdActMeshConfigSet ∧
      ∃ byte, req.meshByte setter.place = some byte ∧
        byte.toNat = setter.wanted datum % 256 := by
  cases setter with
  | boottime =>
      rw [NumberSetter.run, boottimeSet, scanned]
      exact ⟨[], _, rfl, fun _ member => absurd member List.not_mem_nil,
        meshAction_meshConfigRequest, (if datum < 20 then 20 else datum).toUInt8,
        meshByte_meshConfigRequest Nat.zero_lt_one (by decide), toNat_boottime datum⟩
  | meshie field =>
      have place : field.offset < meshieSize := by cases field <;> decide
      rw [NumberSetter.run, run_number, meshNumberSet, scanned]
      refine ⟨[getDefaultsRequest], _, rfl, ?_, meshAction_meshConfigRequest, datum.toUInt8, ?_, ?_⟩
      · intro other member
        rw [List.mem_singleton.mp member, getDefaultsRequest, meshAction_meshConfigRequest]
        decide
      · rw [NumberSetter.place, meshByte_setMeshIeRequest (by
          rw [List.length_set, length_fetchedMeshie]) place,
          byteAt_set _ (by rw [length_fetchedMeshie]; exact place), if_pos rfl]
      · exact UInt32.toNat_toUInt8 datum

end Number

/-- A number is kept or rejected, if and only if it has room in a byte. -/
theorem mesh_value_kept_iff (scan : List UInt8 → Option UInt32) (setter : NumberSetter)
    (buf stack : List UInt8) (fetched stored : CmdOutcome) :
    ValueKept scan buf setter (setter.run scan buf stack fetched stored) ↔
      ∀ datum, scan buf = some datum → datum.toNat < 256 := by
  have room : ∀ datum : UInt32, setter.wanted datum < 256 ↔ datum.toNat < 256 := by
    intro datum
    cases setter with
    | boottime =>
        rw [NumberSetter.wanted]
        omega
    | meshie field => exact Iff.rfl
  constructor
  · intro kept datum scanned
    obtain ⟨before, req, sent, -, sets, byte, here, value⟩ :=
      run_of_scanned setter stack fetched stored scanned
    have member : req ∈ (setter.run scan buf stack fetched stored).sent := by
      rw [sent]
      exact List.mem_append_right _ (List.mem_singleton_self req)
    obtain ⟨byte', here', value'⟩ := kept.stored datum scanned req member sets
    obtain rfl := Option.some.inj (here.symm.trans here')
    rw [← room, ← value']
    exact byte.toNat_lt
  · intro fits
    refine ⟨fun datum scanned req member sets => ?_, fun datum scanned large => ?_⟩
    · obtain ⟨before, last, sent, others, -, byte, here, value⟩ :=
        run_of_scanned setter stack fetched stored scanned
      rw [sent] at member
      rcases List.mem_append.mp member with early | late
      · exact absurd sets (others req early)
      · obtain rfl := List.mem_singleton.mp late
        refine ⟨byte, here, ?_⟩
        rw [value, Nat.mod_eq_of_lt ((room datum).mpr (fits datum scanned))]
    · exact absurd ((room datum).mpr (fits datum scanned)) (Nat.not_lt.mpr large)

/-- A boot time of 256 seconds is stored as one of none. -/
theorem boottime_stored_as_zero :
    ¬ ValueKept (fun _ => some 0x100) [0x31, 0x30, 0x30, 0x0a] .boottime
      (NumberSetter.boottime.run (fun _ => some 0x100) [0x31, 0x30, 0x30, 0x0a] [] .timedOut
        .interrupted) := by
  intro kept
  obtain ⟨byte, -, value⟩ := kept.stored 0x100 rfl _ (List.mem_singleton_self _)
    meshAction_meshConfigRequest
  have small := byte.toNat_lt
  rw [value] at small
  exact absurd small (by decide)

end Libertas

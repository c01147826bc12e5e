import Libertas.Assoc.Rejection
import Libertas.Assoc.Worker

/-!
# Indices into the WEP keys

An index into `wep_keys` comes from the flags of an ioctl or from a stored
`wep_tx_keyidx`. Stored indices are always below four, because a key is set only
behind the check in `lbs_set_wep_key`. The flags are checked everywhere but in
`lbs_get_encode`.
-/

namespace Libertas

/-- Only elements of the array. -/
def WithinKeys (accesses : List Nat) : Prop :=
  ∀ index ∈ accesses, index < 4

/-- The stored transmit keys exist, and only elements of the array were visited. -/
structure KeySafe (priv : AssocPriv) : Prop where
  stored : priv.wepTxKeyidx.toNat < 4
  pending : ∀ req, priv.pendingAssocReq = some req → req.wepTxKeyidx.toNat < 4
  inProgress : ∀ req, priv.inProgressAssocReq = some req → req.wepTxKeyidx.toNat < 4
  visited : WithinKeys priv.keyAccesses

/-- A setting that stores the index of a key and visits elements of the array. -/
structure Setting.KeySafe (set : Setting) : Prop where
  stored : set.req.wepTxKeyidx.toNat < 4
  visited : WithinKeys set.accesses

theorem withinKeys_nil : WithinKeys [] := by
  intro index member
  cases member

theorem withinKeys_allKeys : WithinKeys allKeys := by
  rw [WithinKeys]
  decide

theorem WithinKeys.append {first second : List Nat} (left : WithinKeys first)
    (right : WithinKeys second) : WithinKeys (first ++ second) := by
  intro index member
  rcases List.mem_append.mp member with here | there
  · exact left index here
  · exact right index there

section Requests

variable {req : AssocRequest} {dwrq : IwPoint}

theorem storeWepKey_keySafe {index : UInt16} (stored : req.wepTxKeyidx.toNat < 4)
    (bound : index.toNat < 4) (pkey : EncKey) (setTxKey : Bool) :
    (req.storeWepKey index bound pkey setTxKey).KeySafe := by
  have visited : WithinKeys [index.toNat] := by
    intro other member
    obtain rfl := List.mem_singleton.mp member
    exact bound
  rw [AssocRequest.storeWepKey]
  dsimp only
  split
  · exact ⟨stored, visited⟩
  · refine ⟨?_, visited⟩
    show (if setTxKey then index else req.wepTxKeyidx).toNat < 4
    split
    · exact bound
    · exact stored

/-- An index passes the check, or nothing is visited. -/
theorem lbsSetWepKey_keySafe (stored : req.wepTxKeyidx.toNat < 4) (key : List UInt8)
    (keyLength index : UInt16) (setTxKey : Bool) :
    (req.lbsSetWepKey key keyLength index setTxKey).KeySafe := by
  rw [AssocRequest.lbsSetWepKey]
  split
  · split
    · exact ⟨stored, withinKeys_nil⟩
    · exact storeWepKey_keySafe stored _ _ _
  · exact ⟨stored, withinKeys_nil⟩

theorem restrict_wepTxKeyidx (req : AssocRequest) (flags : UInt16) :
    (req.restrict flags).wepTxKeyidx = req.wepTxKeyidx := by
  rw [AssocRequest.restrict]
  split
  · rfl
  · split <;> rfl

theorem setWepKey_keySafe (stored : req.wepTxKeyidx.toNat < 4) (key : List UInt8)
    (keyLength : UInt16) (force : Bool) : (req.setWepKey dwrq key keyLength force).KeySafe := by
  rw [AssocRequest.setWepKey]
  split
  · exact ⟨stored, withinKeys_nil⟩
  · rename_i index isDefault _
    dsimp only
    have set := lbsSetWepKey_keySafe stored key keyLength index
      (!req.secinfo.wepEnabled || dwrq.length = 0 && !isDefault || force)
    split
    · exact set
    · refine ⟨?_, set.visited⟩
      dsimp only
      rw [restrict_wepTxKeyidx]
      exact set.stored

theorem disable_keySafe (stored : req.wepTxKeyidx.toNat < 4) : req.disable.KeySafe :=
  ⟨stored, withinKeys_allKeys⟩

theorem setEncode_keySafe (stored : req.wepTxKeyidx.toNat < 4) : (req.setEncode dwrq).KeySafe := by
  rw [AssocRequest.setEncode]
  split
  · exact disable_keySafe stored
  · exact setWepKey_keySafe stored _ _ _

theorem setWpaKey_wepTxKeyidx (req : AssocRequest) (ext : IwEncodeExt) :
    (req.setWpaKey ext).wepTxKeyidx = req.wepTxKeyidx := by
  have enabled : ∀ req : AssocRequest, req.enableWpa.wepTxKeyidx = req.wepTxKeyidx := by
    intro req
    rw [AssocRequest.enableWpa]
    split <;> rfl
  rw [AssocRequest.setWpaKey]
  rw [enabled]
  rw [AssocRequest.storeWpaKey]
  split <;> rfl

theorem setEncodeext_keySafe (stored : req.wepTxKeyidx.toNat < 4) (ext : IwEncodeExt) :
    (req.setEncodeext dwrq ext).KeySafe := by
  rw [AssocRequest.setEncodeext]
  split
  · exact disable_keySafe stored
  · split
    · exact setWepKey_keySafe stored _ _ _
    · split
      · split
        · exact ⟨stored, withinKeys_nil⟩
        · refine ⟨?_, withinKeys_allKeys⟩
          show (req.setWpaKey ext).wepTxKeyidx.toNat < 4
          rw [setWpaKey_wepTxKeyidx]
          exact stored
      · exact ⟨stored, withinKeys_nil⟩

theorem setGenie_keySafe (stored : req.wepTxKeyidx.toNat < 4) : (req.setGenie dwrq).KeySafe := by
  rw [AssocRequest.setGenie]
  split <;> exact ⟨stored, withinKeys_nil⟩

theorem applyIf_wepTxKeyidx {change : AssocRequest → AssocRequest} (req : AssocRequest)
    (wanted : Bool) (kept : ∀ req, (change req).wepTxKeyidx = req.wepTxKeyidx) :
    (req.applyIf wanted change).wepTxKeyidx = req.wepTxKeyidx := by
  cases wanted with
  | false => rfl
  | true => exact kept req

theorem setWpaVersion_wepTxKeyidx (req : AssocRequest) (value : UInt32) :
    (req.setWpaVersion value).wepTxKeyidx = req.wepTxKeyidx := by
  rw [AssocRequest.setWpaVersion]
  rw [applyIf_wepTxKeyidx, applyIf_wepTxKeyidx, applyIf_wepTxKeyidx] <;> intros <;> rfl

theorem setAuthAlg_wepTxKeyidx {set : AssocRequest} {value : UInt32}
    (known : req.setAuthAlg value = some set) : set.wepTxKeyidx = req.wepTxKeyidx := by
  rw [AssocRequest.setAuthAlg] at known
  split at known
  · cases known
    rfl
  · split at known
    · cases known
      rfl
    · split at known <;> cases known
      rfl

theorem setWpaEnabled_wepTxKeyidx (req : AssocRequest) (value : UInt32) :
    (req.setWpaEnabled value).wepTxKeyidx = req.wepTxKeyidx := by
  rw [AssocRequest.setWpaEnabled]
  split
  · split <;> rfl
  · rfl

theorem setAuth_keySafe (stored : req.wepTxKeyidx.toNat < 4) (flags : UInt16) (value : UInt32) :
    (req.setAuth flags value).KeySafe := by
  rw [AssocRequest.setAuth]
  dsimp only
  split
  case h_1 => exact ⟨(setWpaVersion_wepTxKeyidx req value).symm ▸ stored, withinKeys_nil⟩
  case h_7 =>
      split
      · rename_i known
        exact ⟨(setAuthAlg_wepTxKeyidx known).symm ▸ stored, withinKeys_nil⟩
      · exact ⟨stored, withinKeys_nil⟩
  case h_8 => exact ⟨(setWpaEnabled_wepTxKeyidx req value).symm ▸ stored, withinKeys_nil⟩
  all_goals exact ⟨stored, withinKeys_nil⟩

theorem setFreq_keySafe (stored : req.wepTxKeyidx.toNat < 4) (tables : ChannelTables) (m e : Int) :
    (req.setFreq tables m e).KeySafe := by
  rw [AssocRequest.setFreq]
  dsimp only
  split
  · split
    · exact ⟨stored, withinKeys_nil⟩
    · split
      · exact ⟨stored, withinKeys_nil⟩
      · split <;> exact ⟨stored, withinKeys_nil⟩
  · split
    · exact ⟨stored, withinKeys_nil⟩
    · split <;> exact ⟨stored, withinKeys_nil⟩

end Requests

namespace KeySafe

variable {priv : AssocPriv} {alloc : Bool}

theorem visit {accesses : List Nat} (safe : KeySafe priv) (within : WithinKeys accesses) :
    KeySafe (priv.visit accesses) :=
  ⟨safe.stored, safe.pending, safe.inProgress, within.append safe.visited⟩

theorem refresh {req : AssocRequest} (safe : KeySafe priv) (stored : req.wepTxKeyidx.toNat < 4) :
    (req.refresh priv).wepTxKeyidx.toNat < 4 := by
  show (if req.flags.wepTxKeyidx then req.wepTxKeyidx else priv.wepTxKeyidx).toNat < 4
  split
  · exact stored
  · exact safe.stored

theorem request {req : AssocRequest} (safe : KeySafe priv) (stored : req.wepTxKeyidx.toNat < 4) :
    KeySafe { priv with pendingAssocReq := some req } := by
  refine ⟨safe.stored, ?_, safe.inProgress, safe.visited⟩
  rintro _ ⟨⟩
  exact stored

theorem lbsGetAssociationRequest (safe : KeySafe priv) (alloc : Bool) :
    KeySafe (priv.lbsGetAssociationRequest alloc).2 ∧
      ∀ req, (priv.lbsGetAssociationRequest alloc).1 = some req → req.wepTxKeyidx.toNat < 4 := by
  rw [AssocPriv.lbsGetAssociationRequest]
  split
  · rename_i req pending
    have stored := safe.refresh (safe.pending req pending)
    refine ⟨(safe.request stored).visit ?_, ?_⟩
    · split
      · exact withinKeys_nil
      · exact withinKeys_allKeys
    · rintro _ ⟨⟩
      exact stored
  · cases alloc with
    | true =>
        have zero : AssocRequest.zero.wepTxKeyidx.toNat < 4 := by decide
        have stored := safe.refresh zero
        refine ⟨(safe.request stored).visit withinKeys_allKeys, ?_⟩
        rintro _ ⟨⟩
        exact stored
    | false =>
        refine ⟨safe, ?_⟩
        intro req missing
        cases missing

theorem lbsPostponeAssociationWork (safe : KeySafe priv) :
    KeySafe priv.lbsPostponeAssociationWork := by
  rw [AssocPriv.lbsPostponeAssociationWork]
  split
  · exact safe
  · exact ⟨safe.stored, safe.pending, safe.inProgress, safe.visited⟩

theorem lbsCancelAssociationWork (safe : KeySafe priv) :
    KeySafe priv.lbsCancelAssociationWork := by
  refine ⟨safe.stored, ?_, safe.inProgress, safe.visited⟩
  intro req missing
  cases missing

/-- A setting that is safe leaves the private structure safe, whichever exit is taken. -/
theorem setting {set : Setting} (safe : KeySafe priv) (new : set.KeySafe) :
    KeySafe ({ priv with pendingAssocReq := some set.req }.visit set.accesses) :=
  (safe.request new.stored).visit new.visited

theorem withRequest {set : AssocRequest → Setting} (safe : KeySafe priv)
    (new : ∀ req : AssocRequest, req.wepTxKeyidx.toNat < 4 → (set req).KeySafe) :
    KeySafe (priv.withRequest alloc set).2 := by
  rw [AssocPriv.withRequest]
  obtain ⟨found, stored⟩ := safe.lbsGetAssociationRequest alloc
  split
  · rename_i result
    rw [result] at found
    exact found.lbsCancelAssociationWork
  · rename_i req _ result
    rw [result] at found stored
    have set := found.setting (new req (stored req rfl))
    dsimp only
    split
    · exact set.lbsPostponeAssociationWork
    · exact set.lbsCancelAssociationWork

theorem lbsSetAuth (safe : KeySafe priv) (flags : UInt16) (value : UInt32) :
    KeySafe (priv.lbsSetAuth alloc flags value).2 := by
  rw [AssocPriv.lbsSetAuth]
  obtain ⟨found, stored⟩ := safe.lbsGetAssociationRequest alloc
  split
  · rename_i result
    rw [result] at found
    exact found.lbsCancelAssociationWork
  · rename_i req _ result
    rw [result] at found stored
    have set := found.setting (setAuth_keySafe (stored req rfl) flags value)
    dsimp only
    split
    · exact set.lbsPostponeAssociationWork
    · split
      · exact set.lbsCancelAssociationWork
      · exact set

/-- No setter stores or visits an index that does not exist. -/
theorem call (safe : KeySafe priv) (call : SetterCall) : KeySafe (priv.call alloc call).2 := by
  cases call with
  | essid dwrq =>
      simp only [AssocPriv.call, AssocPriv.lbsSetEssid]
      split
      · exact safe.lbsCancelAssociationWork
      · exact safe.withRequest fun _ stored => ⟨stored, withinKeys_nil⟩
  | wap ether bssid =>
      cases ether with
      | false => exact safe
      | true => exact safe.withRequest fun _ stored => ⟨stored, withinKeys_nil⟩
  | freq m e => exact safe.withRequest fun _ stored => setFreq_keySafe stored _ m e
  | mode mode =>
      simp only [AssocPriv.call, AssocPriv.lbsSetMode]
      split
      · exact safe.withRequest fun _ stored => ⟨stored, withinKeys_nil⟩
      · exact safe
  | encode dwrq => exact safe.withRequest fun _ stored => setEncode_keySafe stored
  | encodeext dwrq ext => exact safe.withRequest fun _ stored => setEncodeext_keySafe stored ext
  | genie dwrq => exact safe.withRequest fun _ stored => setGenie_keySafe stored
  | auth flags value => exact safe.lbsSetAuth flags value

/-- The link, the work and the rest of the configuration hold no index. -/
theorem of_eq {after : AssocPriv} (safe : KeySafe priv)
    (stored : after.wepTxKeyidx = priv.wepTxKeyidx)
    (pending : after.pendingAssocReq = priv.pendingAssocReq)
    (inProgress : after.inProgressAssocReq = priv.inProgressAssocReq)
    (visited : after.keyAccesses = priv.keyAccesses) : KeySafe after := by
  refine ⟨?_, ?_, ?_, ?_⟩
  · rw [stored]
    exact safe.stored
  · rw [pending]
    exact safe.pending
  · rw [inProgress]
    exact safe.inProgress
  · rw [visited]
    exact safe.visited

section Worker

variable {s : AssocSys} {req : AssocRequest}

theorem take (safe : KeySafe s.priv) : KeySafe s.take.priv := by
  refine ⟨safe.stored, ?_, safe.pending, safe.visited⟩
  intro req missing
  cases missing

theorem next {pc : AssocPc} (safe : KeySafe s.priv) (stored : req.wepTxKeyidx.toNat < 4) :
    KeySafe (s.next req pc).priv := by
  refine ⟨safe.stored, safe.pending, ?_, safe.visited⟩
  rintro _ ⟨⟩
  exact stored

theorem foundBest_wepTxKeyidx (req : AssocRequest) (ssid : List UInt8) (ssidLen mode : UInt8) :
    (req.foundBest ssid ssidLen mode).wepTxKeyidx = req.wepTxKeyidx := by
  rw [AssocRequest.foundBest]
  dsimp only
  split <;> rfl

theorem lbsUpdateChannel {after : AssocPriv} {answer : Option UInt16} (safe : KeySafe priv)
    (updated : priv.lbsUpdateChannel answer = some after) : KeySafe after := by
  cases answer with
  | none => cases updated
  | some channel =>
      obtain rfl := Option.some.inj updated
      dsimp only
      split
      · exact safe
      · exact safe.of_eq rfl rfl rfl rfl

theorem lbsSetChannel (safe : KeySafe priv) (answer : Option UInt16) :
    KeySafe (priv.lbsSetChannel answer) := by
  cases answer with
  | none => exact safe
  | some channel => exact safe.of_eq rfl rfl rfl rfl

theorem assocHelperChannel (safe : KeySafe priv) (stored : req.wepTxKeyidx.toNat < 4)
    (answers : Option UInt16 × Option UInt16 × Option UInt16) :
    (priv.assocHelperChannel req answers).2.1.wepTxKeyidx.toNat < 4 ∧
      KeySafe (priv.assocHelperChannel req answers).2.2 := by
  rw [AssocPriv.assocHelperChannel]
  split
  · exact ⟨stored, safe⟩
  · rename_i updated
    have first := safe.lbsUpdateChannel updated
    split
    · exact ⟨stored, first⟩
    · have set := first.lbsSetChannel answers.2.1
      dsimp only
      split
      · exact ⟨stored, set⟩
      · rename_i updated
        have second := set.lbsUpdateChannel updated
        split
        · exact ⟨stored, second⟩
        · refine ⟨stored, second.visit ?_⟩
          split
          · exact withinKeys_allKeys
          · exact withinKeys_nil

theorem assocHelperWpaIe (safe : KeySafe priv) (req : AssocRequest) :
    KeySafe (priv.assocHelperWpaIe req) := by
  rw [AssocPriv.assocHelperWpaIe]
  split <;> exact safe.of_eq rfl rfl rfl rfl

/-- The worker copies indices and visits all keys. -/
theorem workerStep (safe : KeySafe s.priv) (stored : req.wepTxKeyidx.toNat < 4)
    (answers : AssocAnswers) : KeySafe (s.workerStep req answers).priv := by
  rw [AssocSys.workerStep]
  cases s.worker with
  | idle => exact safe
  | taking => exact safe
  | finding =>
      dsimp only
      split
      · split
        · exact safe.next stored
        · rename_i ssid ssidLen mode _
          apply safe.next
          rw [foundBest_wepTxKeyidx]
          exact stored
      · exact safe.next stored
  | mode =>
      dsimp only
      split
      · exact next (s := { s with priv := { s.priv with mode := req.mode } })
          (safe.of_eq rfl rfl rfl rfl) stored
      · exact safe.next stored
  | channel =>
      dsimp only
      split
      · obtain ⟨changed, helped⟩ := safe.assocHelperChannel stored answers.channel
        exact next (s := { s with priv := (s.priv.assocHelperChannel req answers.channel).2.2 })
          helped changed
      · exact safe.next stored
  | wepKeys =>
      have visited := safe.visit withinKeys_allKeys
      dsimp only
      split
      · split
        · exact next (s := { s with priv := s.priv.visit allKeys }) visited stored
        · exact next (s := { s with
            priv := s.priv.visit allKeys
            card := { s.card with wep := some (req.wepKeys, req.wepTxKeyidx) } }) visited stored
      · exact safe.next stored
  | wepSent =>
      have copied : KeySafe
          { s.priv with wepKeys := req.wepKeys, wepTxKeyidx := req.wepTxKeyidx } :=
        ⟨stored, safe.pending, safe.inProgress, safe.visited⟩
      exact next (s := { s with priv := { s.priv with
        wepKeys := req.wepKeys, wepTxKeyidx := req.wepTxKeyidx }.visit allKeys })
        (copied.visit withinKeys_allKeys) stored
  | secinfo =>
      dsimp only
      split
      · exact next (s := { s with priv := { s.priv with secinfo := req.secinfo } })
          (safe.of_eq rfl rfl rfl rfl) stored
      · exact safe.next stored
  | rsn => exact safe.next stored
  | wpaIe =>
      dsimp only
      split
      · exact next (s := { s with priv := s.priv.assocHelperWpaIe req })
          (safe.assocHelperWpaIe req) stored
      · exact safe.next stored
  | wpaKeys =>
      dsimp only
      split
      · split
        · exact next (s := { s with card := AssocSys.sendWpaKeys s.card req }) safe stored
        · exact safe.next stored
      · exact safe.next stored
  | associating =>
      dsimp only
      split
      · exact next (s := { s with attempts := { req := req, card := s.card } :: s.attempts })
          safe stored
      · exact safe.next stored
  | ending =>
      refine ⟨safe.stored, safe.pending, ?_, safe.visited⟩
      intro req missing
      cases missing

end Worker

section Getters

/-- The index of a getter is right if that of the caller is. -/
theorem lbsGetEncode {flags : UInt16} (safe : KeySafe priv)
    (known : (flags &&& iwEncodeIndex).toNat ≤ 4) (beyond : Nat → EncKey) (length : UInt16) :
    KeySafe (priv.lbsGetEncode beyond length flags).2 := by
  apply safe.visit
  intro index member
  obtain rfl := List.mem_singleton.mp member
  rw [AssocPriv.encodeIndex]
  split
  · exact safe.stored
  · rename_i given
    have positive : (flags &&& iwEncodeIndex).toNat ≠ 0 :=
      fun zero => given (UInt16.toNat_inj.mp zero)
    omega

theorem encodeextIndex {flags : UInt16} {index : Nat} (safe : KeySafe priv)
    (found : priv.encodeextIndex flags = some index) : index < 4 := by
  unfold AssocPriv.encodeextIndex at found
  dsimp only at found
  split at found
  · cases found
    exact safe.stored
  · split at found
    · cases found
    · cases found
      omega

theorem lbsGetEncodeext (safe : KeySafe priv) (beyond : Nat → EncKey) (length flags : UInt16)
    (extFlags : UInt32) (alg : UInt16) :
    KeySafe (priv.lbsGetEncodeext beyond length flags extFlags alg).2 := by
  rw [AssocPriv.lbsGetEncodeext]
  dsimp only
  split
  · exact safe
  · split
    · exact safe
    · rename_i index found
      have bound := safe.encodeextIndex found
      split
      · exact safe
      · split
        · exact safe
        · apply safe.visit
          intro other member
          obtain rfl := List.mem_singleton.mp member
          exact bound
        · split <;> exact safe
        · exact safe

end Getters

theorem fresh (tables : ChannelTables) : KeySafe (.fresh tables) := by
  have zero : (0 : UInt16).toNat < 4 := by decide
  refine ⟨zero, ?_, ?_, withinKeys_nil⟩
  · intro req missing
    cases missing
  · intro req missing
    cases missing

end KeySafe

/-- The index in the flags of `lbs_get_encode` is zero or the number of a key. -/
def IndexChecked (_ : AssocSys) : AssocAction → Prop
  | .getEncode _ _ flags => (flags &&& iwEncodeIndex).toNat ≤ 4
  | _ => True

instance (s : AssocSys) (action : AssocAction) : Decidable (IndexChecked s action) := by
  unfold IndexChecked
  split <;> infer_instance

/-- Every step keeps the stored indices and the visits within the array. -/
theorem keySafe_step {s t : AssocSys} {action : AssocAction} (safe : KeySafe s.priv)
    (checked : IndexChecked s action) (stepped : s.step action = some t) : KeySafe t.priv := by
  cases action with
  | call alloc call =>
      cases stepped
      exact safe.call call
  | getEncode beyond length flags =>
      cases stepped
      exact safe.lbsGetEncode checked beyond length
  | getEncodeext beyond length flags extFlags alg =>
      cases stepped
      exact safe.lbsGetEncodeext beyond length flags extFlags alg
  | remove =>
      cases stepped
      exact safe.of_eq rfl rfl rfl rfl
  | link curbssparams mode =>
      cases stepped
      exact safe.of_eq rfl rfl rfl rfl
  | regulate tables =>
      cases stepped
      exact safe.of_eq rfl rfl rfl rfl
  | timer =>
      simp only [AssocSys.step] at stepped
      split at stepped <;> cases stepped
      exact safe.of_eq rfl rfl rfl rfl
  | work =>
      simp only [AssocSys.step] at stepped
      split at stepped <;> cases stepped
      exact safe.of_eq rfl rfl rfl rfl
  | worker answers =>
      simp only [AssocSys.step] at stepped
      split at stepped
      · cases stepped
      · cases stepped
        exact safe.take
      · rename_i req inProgress _ _
        cases stepped
        exact safe.workerStep (safe.inProgress req inProgress) answers
      · cases stepped

/-- In every run whose `lbs_get_encode` calls name a key or none, every access to `wep_keys` is
to one of its four elements. -/
theorem wep_key_index_safe {s : AssocSys} (reached : associator.ReachableUnder IndexChecked s) :
    ∀ index ∈ s.priv.keyAccesses, index < 4 := by
  have safe : KeySafe s.priv := by
    refine reached.invariant (fun s => KeySafe s.priv) ?_ fun _ _ _ _ safe checked stepped =>
      keySafe_step safe checked stepped
    rintro _ ⟨tables, rfl⟩
    exact .fresh tables
  exact safe.visited

/-- The setting of the second WEP key. -/
def secondKeyCall : SetterCall :=
  .encode { length := 5, flags := 2, extra := some [1, 2, 3, 4, 5] }

/-- The settings are applied by a worker whose commands succeed. -/
def applySettings : List AssocAction :=
  [.timer, .work] ++
    List.replicate 12 (.worker { ok := true, best := none, channel := (none, none, none) })

/-- A key is set, applied, and read by both getters. -/
theorem wep_key_index_safe_second : ∃ s, associator.ReachableUnder IndexChecked s ∧
    s.priv.wepTxKeyidx = 1 ∧ 1 ∈ s.priv.keyAccesses ∧
    ∀ index ∈ s.priv.keyAccesses, index < 4 := by
  obtain ⟨s, executed, read⟩ := Machine.exists_of_map
    (fun s : AssocSys => s.priv.wepTxKeyidx = 1 ∧ 1 ∈ s.priv.keyAccesses)
    (show (associator.runUnder IndexChecked (.init (.fresh twoChannels))
      ([.call true secondKeyCall] ++ applySettings ++ [.getEncode (fun _ => .zero) 0 2,
        .getEncodeext (fun _ => .zero) 64 0 0 iwEncodeAlgWep])).map _ = some true by
      decide +kernel)
  have start : associator.initial (.init (.fresh twoChannels)) := ⟨twoChannels, rfl⟩
  have reached := Machine.ReachableUnder.run (.initial start) executed
  exact ⟨s, reached, read.1, read.2, wep_key_index_safe reached⟩

/-- Any other index is read outside of the array. -/
theorem get_encode_reads_beyond : ∃ s, associator.Reachable s ∧ 4 ∈ s.priv.keyAccesses := by
  obtain ⟨s, executed, read⟩ := Machine.exists_of_map
    (fun s : AssocSys => 4 ∈ s.priv.keyAccesses)
    (show (associator.run (.init (.fresh twoChannels))
      [.getEncode (fun _ => .zero) 0 5]).map _ = some true by decide +kernel)
  exact ⟨s, Machine.reachable_of_run ⟨twoChannels, rfl⟩ executed, read⟩

end Libertas

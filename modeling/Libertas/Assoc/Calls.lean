import Libertas.Assoc.Rejection

/-!
# What a setter call does

A call that succeeds puts the changed request in the place of the pending one. Any
call leaves the configuration alone; a request that is pending behind it is the one
from before, the refreshed one, or the changed one of a call that succeeds.
-/

namespace Libertas

/-- What a successful call does to the request, by the call. -/
def SetterCall.setting (tables : ChannelTables) : SetterCall → AssocRequest → Setting
  | .essid dwrq, req =>
      let ssid := if dwrq.flags = 0 then [] else dwrq.bytes dwrq.length.toNat
      { ret := 0
        req := { req with
          ssid := ssid ++ List.replicate (iwEssidMaxSize - ssid.length) 0
          ssidLen := if dwrq.flags = 0 then 0 else dwrq.length.toUInt8
          flags := { req.flags with ssid := true } }
        accesses := [] }
  | .wap _ bssid, req =>
      { ret := 0
        req := { req with bssid := bssid, flags := { req.flags with bssid := true } }
        accesses := [] }
  | .freq m e, req => req.setFreq tables m e
  | .mode value, req =>
      { ret := 0
        req := { req with mode := value.toUInt8, flags := { req.flags with mode := true } }
        accesses := [] }
  | .encode dwrq, req => req.setEncode dwrq
  | .encodeext dwrq ext, req => req.setEncodeext dwrq ext
  | .genie dwrq, req => req.setGenie dwrq
  | .auth flags value, req => req.setAuth flags value

/-- The request that a setter is given. -/
def AssocPriv.draft (priv : AssocPriv) : AssocRequest :=
  (priv.pendingAssocReq.getD .zero).refresh priv

section Calls

variable {priv after : AssocPriv} {alloc : Bool} {call : SetterCall}

/-- A successful call puts the changed request in the place of the pending one. -/
structure Stages (priv : AssocPriv) (set : AssocRequest → Setting) (after : AssocPriv) :
    Prop where
  ret : (set priv.draft).ret = 0
  only : ∃ work accesses, after =
    { priv with
      assocWork := work
      pendingAssocReq := some (set priv.draft).req
      keyAccesses := accesses }

theorem Stages.postpone {set : AssocRequest → Setting} {after : AssocPriv}
    (stages : Stages priv set after) : Stages priv set after.lbsPostponeAssociationWork := by
  obtain ⟨ret, work, accesses, rfl⟩ := stages
  rw [AssocPriv.lbsPostponeAssociationWork]
  split
  · exact ⟨ret, _, _, rfl⟩
  · exact ⟨ret, _, _, rfl⟩

theorem withRequest_success {set : AssocRequest → Setting}
    (success : (priv.withRequest alloc set).1 = 0) :
    Stages priv set (priv.withRequest alloc set).2 := by
  rw [AssocPriv.withRequest] at success ⊢
  rcases priv.lbsGetAssociationRequest_cases alloc with missing | ⟨accesses, found⟩
  · rw [missing] at success
    cases success
  · rw [found] at success ⊢
    dsimp only at success ⊢
    rw [if_pos success]
    exact Stages.postpone ⟨success, _, _, rfl⟩

theorem lbsSetAuth_success {flags : UInt16} {value : UInt32}
    (success : (priv.lbsSetAuth alloc flags value).1 = 0) :
    Stages priv (·.setAuth flags value) (priv.lbsSetAuth alloc flags value).2 := by
  rw [AssocPriv.lbsSetAuth] at success ⊢
  rcases priv.lbsGetAssociationRequest_cases alloc with missing | ⟨accesses, found⟩
  · rw [missing] at success
    cases success
  · rw [found] at success ⊢
    dsimp only at success ⊢
    rw [if_pos success]
    exact Stages.postpone ⟨success, _, _, rfl⟩

theorem call_success (success : (priv.call alloc call).1 = 0) :
    Stages priv (call.setting priv.tables) (priv.call alloc call).2 := by
  cases call with
  | essid dwrq =>
      simp only [AssocPriv.call, AssocPriv.lbsSetEssid] at success ⊢
      split at success
      · cases success
      · rename_i fits
        rw [if_neg fits]
        exact withRequest_success success
  | wap ether bssid =>
      cases ether with
      | false => cases success
      | true => exact withRequest_success success
  | freq m e => exact withRequest_success success
  | mode mode =>
      simp only [AssocPriv.call, AssocPriv.lbsSetMode] at success ⊢
      split at success
      · rename_i known
        rw [if_pos known]
        exact withRequest_success success
      · cases success
  | encode dwrq => exact withRequest_success success
  | encodeext dwrq ext => exact withRequest_success success
  | genie dwrq => exact withRequest_success success
  | auth flags value => exact lbsSetAuth_success success

/-- A call leaves the configuration alone, and no request without the property. -/
structure Leaves (P : AssocRequest → Prop) (priv after : AssocPriv) : Prop where
  configuration : after.configuration = priv.configuration
  pending : ∀ req, after.pendingAssocReq = some req → P req

section Leaves

variable {P : AssocRequest → Prop}

/-- What is read from the configuration is the same. -/
theorem Leaves.field {α : Type} (leaves : Leaves P priv after) (f : AssocPriv → α) :
    f after.configuration = f priv.configuration :=
  congrArg f leaves.configuration

theorem Leaves.postpone (leaves : Leaves P priv after) :
    Leaves P priv after.lbsPostponeAssociationWork := by
  rw [AssocPriv.lbsPostponeAssociationWork]
  split
  · exact leaves
  · exact ⟨leaves.configuration, leaves.pending⟩

theorem Leaves.cancel (same : after.configuration = priv.configuration) :
    Leaves P priv after.lbsCancelAssociationWork := by
  refine ⟨same, ?_⟩
  intro req missing
  cases missing

theorem withRequest_leaves {set : AssocRequest → Setting}
    (setting : (set priv.draft).ret = 0 → P (set priv.draft).req) :
    Leaves P priv (priv.withRequest alloc set).2 := by
  rw [AssocPriv.withRequest]
  rcases priv.lbsGetAssociationRequest_cases alloc with missing | ⟨accesses, found⟩
  · rw [missing]
    exact .cancel rfl
  · rw [found]
    dsimp only
    split
    · rename_i success
      apply Leaves.postpone
      refine ⟨rfl, ?_⟩
      rintro _ ⟨⟩
      exact setting success
    · exact .cancel rfl

theorem lbsSetAuth_leaves {flags : UInt16} {value : UInt32} (draft : P priv.draft)
    (setting : (priv.draft.setAuth flags value).ret = 0 →
      P (priv.draft.setAuth flags value).req) :
    Leaves P priv (priv.lbsSetAuth alloc flags value).2 := by
  rw [AssocPriv.lbsSetAuth]
  rcases priv.lbsGetAssociationRequest_cases alloc with missing | ⟨accesses, found⟩
  · rw [missing]
    exact .cancel rfl
  · rw [found]
    dsimp only
    split
    · rename_i success
      apply Leaves.postpone
      refine ⟨rfl, ?_⟩
      rintro _ ⟨⟩
      exact setting success
    · split
      · exact .cancel rfl
      · rename_i kept
        refine ⟨rfl, ?_⟩
        rintro _ ⟨⟩
        rw [AssocPriv.setAuth_unsupported (not_not.mp kept)]
        exact draft

/-- The requests keep every property that the setting of the call keeps. -/
theorem call_leaves (pending : ∀ req, priv.pendingAssocReq = some req → P req)
    (draft : P priv.draft)
    (setting : (call.setting priv.tables priv.draft).ret = 0 →
      P (call.setting priv.tables priv.draft).req) :
    Leaves P priv (priv.call alloc call).2 := by
  cases call with
  | essid dwrq =>
      simp only [AssocPriv.call, AssocPriv.lbsSetEssid]
      split
      · exact .cancel rfl
      · exact withRequest_leaves setting
  | wap ether bssid =>
      cases ether with
      | false => exact ⟨rfl, pending⟩
      | true => exact withRequest_leaves setting
  | freq m e => exact withRequest_leaves setting
  | mode mode =>
      simp only [AssocPriv.call, AssocPriv.lbsSetMode]
      split
      · exact withRequest_leaves setting
      · exact ⟨rfl, pending⟩
  | encode dwrq => exact withRequest_leaves setting
  | encodeext dwrq ext => exact withRequest_leaves setting
  | genie dwrq => exact withRequest_leaves setting
  | auth flags value => exact lbsSetAuth_leaves draft setting

end Leaves

end Calls

end Libertas

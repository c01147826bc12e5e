import Libertas.Assoc.Setters

/-!
# Settings that are rejected

A setter that returns an error leaves the pending request alone, keeps its
settings, or cancels it as a whole with its work. Which of the three happens
depends on the ioctl and the error.
-/

namespace Libertas

/-- The attributes that were set are the same; the others may follow the configuration. -/
structure SameSettings (old new : AssocRequest) : Prop where
  flags : new.flags = old.flags
  ssid : old.flags.ssid = true → new.ssid = old.ssid ∧ new.ssidLen = old.ssidLen
  channel : old.flags.channel = true → new.channel = old.channel
  band : old.flags.band = true → new.band = old.band
  mode : old.flags.mode = true → new.mode = old.mode
  bssid : old.flags.bssid = true → new.bssid = old.bssid
  wepKeys : old.flags.wepKeys = true → new.wepKeys = old.wepKeys
  wepTxKeyidx : old.flags.wepTxKeyidx = true → new.wepTxKeyidx = old.wepTxKeyidx
  wpaMcastKey : old.flags.wpaMcastKey = true → new.wpaMcastKey = old.wpaMcastKey
  wpaUnicastKey : old.flags.wpaUcastKey = true → new.wpaUnicastKey = old.wpaUnicastKey
  secinfo : old.flags.secinfo = true → new.secinfo = old.secinfo
  wpaIe : old.flags.wpaIe = true → new.wpaIe = old.wpaIe ∧ new.wpaIeLen = old.wpaIeLen

namespace AssocPriv

/-- What is configured, apart from the request and its work. -/
def configuration (priv : AssocPriv) : AssocPriv :=
  { priv with assocWork := .idle, pendingAssocReq := none, keyAccesses := [] }

/-- The request and its work are gone. -/
structure Cancelled (priv after : AssocPriv) : Prop where
  request : after.pendingAssocReq = none
  work : after.assocWork = priv.assocWork.cancelDelayedWork
  configuration : after.configuration = priv.configuration

/-- The settings of the request and its work are kept. A request without settings may be new. -/
structure Kept (priv after : AssocPriv) : Prop where
  request : ∃ req, after.pendingAssocReq = some req ∧
    SameSettings (priv.pendingAssocReq.getD .zero) req
  work : after.assocWork = priv.assocWork
  configuration : after.configuration = priv.configuration

/-- What a call that returns the error `ret` does to the request. -/
def RejectedAs (priv after : AssocPriv) (ret : Int) : SetterCall → Prop
  | .mode _ => if ret = -eNoMem then Cancelled priv after else after = priv
  | .wap _ _ => if ret = -eNoMem then Cancelled priv after else after = priv
  | .auth _ _ => if ret = -eOpNotSupp then Kept priv after else Cancelled priv after
  | _ => Cancelled priv after

section Rejection

variable {priv : AssocPriv} {alloc : Bool}

theorem sameSettings_refresh (req : AssocRequest) (priv : AssocPriv) :
    SameSettings req (req.refresh priv) where
  flags := rfl
  ssid set := ⟨if_pos set, if_pos set⟩
  channel set := if_pos set
  band set := if_pos set
  mode set := if_pos set
  bssid set := if_pos set
  wepKeys set := if_pos set
  wepTxKeyidx set := if_pos set
  wpaMcastKey set := if_pos set
  wpaUnicastKey set := if_pos set
  secinfo set := if_pos set
  wpaIe set := ⟨if_pos set, if_pos set⟩

theorem cancelled_lbsCancelAssociationWork (priv : AssocPriv) :
    Cancelled priv priv.lbsCancelAssociationWork :=
  ⟨rfl, rfl, rfl⟩

/-- What a setter gets: the pending request refreshed, or an empty one. -/
theorem lbsGetAssociationRequest_cases (priv : AssocPriv) (alloc : Bool) :
    priv.lbsGetAssociationRequest alloc = (none, priv) ∨
    ∃ accesses, priv.lbsGetAssociationRequest alloc =
      (some ((priv.pendingAssocReq.getD .zero).refresh priv),
        { priv with
          pendingAssocReq := some ((priv.pendingAssocReq.getD .zero).refresh priv)
          keyAccesses := accesses ++ priv.keyAccesses }) := by
  rw [lbsGetAssociationRequest]
  cases priv.pendingAssocReq with
  | some req => exact .inr ⟨_, rfl⟩
  | none =>
      cases alloc with
      | true => exact .inr ⟨_, rfl⟩
      | false => exact .inl rfl

/-- A setter with the common exit either succeeds or cancels the request. -/
theorem withRequest_rejected {set : AssocRequest → Setting}
    (failed : (priv.withRequest alloc set).1 ≠ 0) :
    Cancelled priv (priv.withRequest alloc set).2 := by
  rw [withRequest] at failed ⊢
  rcases priv.lbsGetAssociationRequest_cases alloc with missing | ⟨accesses, found⟩
  · rw [missing]
    exact cancelled_lbsCancelAssociationWork priv
  · rw [found] at failed ⊢
    dsimp only at failed ⊢
    rw [if_neg failed]
    exact ⟨rfl, rfl, rfl⟩

/-- A setter that changes its attribute without a check fails for lack of memory only. -/
theorem withRequest_unchecked {set : AssocRequest → Setting} (checked : ∀ req, (set req).ret = 0)
    (failed : (priv.withRequest alloc set).1 ≠ 0) :
    if (priv.withRequest alloc set).1 = -eNoMem then Cancelled priv (priv.withRequest alloc set).2
      else (priv.withRequest alloc set).2 = priv := by
  have memory : (priv.withRequest alloc set).1 = -eNoMem := by
    rw [withRequest] at failed ⊢
    rcases priv.lbsGetAssociationRequest_cases alloc with missing | ⟨accesses, found⟩
    · rw [missing]
    · rw [found] at failed
      exact absurd (checked _) failed
  rw [if_pos memory]
  exact withRequest_rejected failed

/-- A parameter that is not supported changes nothing. -/
theorem setAuth_unsupported {req : AssocRequest} {flags : UInt16} {value : UInt32}
    (unsupported : (req.setAuth flags value).ret = -eOpNotSupp) :
    (req.setAuth flags value).req = req := by
  have success : (0 : Int) ≠ -eOpNotSupp := by decide
  have invalid : -eInval ≠ -eOpNotSupp := by decide
  rw [AssocRequest.setAuth] at unsupported ⊢
  dsimp only at unsupported ⊢
  split at unsupported
  case h_7 =>
      split at unsupported
      · exact absurd unsupported success
      · exact absurd unsupported invalid
  all_goals first | rfl | exact absurd unsupported success

theorem lbsSetAuth_rejected {flags : UInt16} {value : UInt32}
    (failed : (priv.lbsSetAuth alloc flags value).1 ≠ 0) :
    RejectedAs priv (priv.lbsSetAuth alloc flags value).2
      (priv.lbsSetAuth alloc flags value).1 (.auth flags value) := by
  rw [lbsSetAuth] at failed ⊢
  rcases priv.lbsGetAssociationRequest_cases alloc with missing | ⟨accesses, found⟩
  · rw [missing]
    exact cancelled_lbsCancelAssociationWork priv
  · rw [found] at failed ⊢
    dsimp only at failed ⊢
    have kept := @setAuth_unsupported ((priv.pendingAssocReq.getD .zero).refresh priv) flags value
    generalize ((priv.pendingAssocReq.getD .zero).refresh priv).setAuth flags value = result
      at failed kept ⊢
    rw [if_neg failed]
    by_cases unsupported : result.ret = -eOpNotSupp
    · rw [if_neg (not_not_intro unsupported), kept unsupported, unsupported]
      exact ⟨⟨_, rfl, sameSettings_refresh _ priv⟩, rfl, rfl⟩
    · rw [if_pos unsupported]
      show if result.ret = -eOpNotSupp then Kept _ _ else Cancelled _ _
      rw [if_neg unsupported]
      exact ⟨rfl, rfl, rfl⟩

end Rejection

end AssocPriv

/-- A setter that returns an error leaves the request alone when the mode or the kind of address
is not known, keeps its settings when the authentication parameter is not supported, and cancels
the request otherwise. -/
theorem rejected_setting {priv : AssocPriv} {alloc : Bool} {call : SetterCall}
    (failed : (priv.call alloc call).1 ≠ 0) :
    AssocPriv.RejectedAs priv (priv.call alloc call).2 (priv.call alloc call).1 call := by
  cases call with
  | essid dwrq =>
      simp only [AssocPriv.call, AssocPriv.lbsSetEssid] at failed ⊢
      split at failed
      · rename_i long
        rw [if_pos long]
        exact AssocPriv.cancelled_lbsCancelAssociationWork priv
      · rename_i short
        rw [if_neg short]
        exact AssocPriv.withRequest_rejected failed
  | wap ether bssid =>
      cases ether with
      | false => rfl
      | true => exact AssocPriv.withRequest_unchecked (fun _ => rfl) failed
  | freq m e => exact AssocPriv.withRequest_rejected failed
  | mode mode =>
      simp only [AssocPriv.call, AssocPriv.lbsSetMode] at failed ⊢
      split at failed
      · rename_i known
        rw [if_pos known]
        exact AssocPriv.withRequest_unchecked (fun _ => rfl) failed
      · rename_i unknown
        rw [if_neg unknown]
        rfl
  | encode dwrq => exact AssocPriv.withRequest_rejected failed
  | encodeext dwrq ext => exact AssocPriv.withRequest_rejected failed
  | genie dwrq => exact AssocPriv.withRequest_rejected failed
  | auth flags value => exact AssocPriv.lbsSetAuth_rejected failed

/-- One region with two channels. -/
def twoChannels : ChannelTables :=
  { enable11d := false
    regionChannel := [{ valid := true, band := 0, cfp := [⟨1, 2412⟩, ⟨6, 2437⟩] }]
    universalChannel := [] }

/-- The setting of an SSID. -/
def essidCall : SetterCall :=
  .essid { length := 1, flags := 1, extra := some [65] }

/-- A pending request for one network. -/
def AssocPriv.withEssid : AssocPriv :=
  ((AssocPriv.fresh twoChannels).call true essidCall).2

/-- A channel that does not exist cancels the request for the network. -/
theorem rejected_setting_freq :
    AssocPriv.Cancelled .withEssid (AssocPriv.withEssid.call true (.freq 15 0)).2 :=
  @rejected_setting .withEssid true (.freq 15 0) (by decide +kernel)

/-- The setting of an SSID was accepted, and is lost when a channel is rejected. -/
theorem rejected_freq_drops_essid :
    ((AssocPriv.fresh twoChannels).call true essidCall).1 = 0 ∧
    AssocPriv.withEssid.pendingAssocReq.isSome = true ∧
    AssocPriv.withEssid.assocWork = .timer ∧
    (AssocPriv.withEssid.call true (.freq 15 0)).1 = -eInval ∧
    (AssocPriv.withEssid.call true (.freq 15 0)).2.pendingAssocReq = none ∧
    (AssocPriv.withEssid.call true (.freq 15 0)).2.assocWork = .idle := by
  decide +kernel

end Libertas

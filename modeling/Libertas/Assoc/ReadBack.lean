import Libertas.Assoc.Latest

/-!
# Reading the applied settings back

The getter ioctls, and the check before the card goes back to sleep, look at the
private structure only. While the worker processes a request, it copies the
attributes that are set to the private structure, one after the other. The WPA
keys are sent to the firmware, and are copied nowhere.
-/

namespace Libertas

/-- A WPA key of the private structure. -/
def AssocPriv.storedKey (priv : AssocPriv) : WpaKeyAttr → EncKey
  | .wpaMcastKey => priv.wpaMcastKey
  | .wpaUnicastKey => priv.wpaUnicastKey

/-- An attribute about security that was set. The information element counts when some version
of WPA is enabled. -/
def AssocRequest.sets (req : AssocRequest) : SecurityAttr → Bool
  | .wpaIe => req.marked .wpaIe && (req.secinfo.wpaEnabled || req.secinfo.wpa2Enabled)
  | attr => req.marked attr

/-- The private structure has the value of each attribute that was set. -/
structure ReadBack (priv : AssocPriv) (req : AssocRequest) : Prop where
  security : ∀ attr, req.sets attr = true → priv.get attr = req.get attr
  mode : req.flags.mode = true → priv.mode = req.mode
  wpaKeys : ∀ attr key, req.wpaKey attr = some key → priv.storedKey attr = key

/-- All commands of a step succeed, and a search for the best network finds one. -/
structure AssocAnswers.Succeed (answers : AssocAnswers) : Prop where
  ok : answers.ok = true
  best : answers.best.isSome = true
  channel : answers.channel.1.isSome = true ∧ answers.channel.2.1.isSome = true ∧
    answers.channel.2.2.isSome = true

/-- The worker is past the place where it sets the mode. -/
def AssocPc.modeSet : AssocPc → Bool
  | .finding | .mode => false
  | _ => true

/-- The worker processes its request. The ioctls run meanwhile, and no event changes a mode that
the worker has set. -/
def Processing (s : AssocSys) : AssocAction → Prop
  | .worker answers => s.worker ≠ .ending ∧ answers.Succeed
  | .link _ mode => s.worker.modeSet = true → ∀ req ∈ s.priv.inProgressAssocReq,
      req.flags.mode = true → mode = s.priv.mode
  | _ => True

/-- The element of a request lies in its buffer, and a WPA key that was set says what it is for. -/
structure AssocRequest.Sound (req : AssocRequest) : Prop where
  buffer : req.wpaIe.length = maxWpaIeLen
  element : req.wpaIeLen.toNat ≤ maxWpaIeLen
  keys : ∀ attr key, req.wpaKey attr = some key → key.flags ≠ 0

/-- The requests are sound, and the private structure holds no WPA keys. -/
structure SoundStore (priv : AssocPriv) : Prop where
  buffer : priv.wpaIe.length = maxWpaIeLen
  element : priv.wpaIeLen.toNat ≤ maxWpaIeLen
  empty : ∀ attr, priv.storedKey attr = .zero
  pending : ∀ req, priv.pendingAssocReq = some req → req.Sound
  inProgress : ∀ req, priv.inProgressAssocReq = some req → req.Sound

namespace AssocRequest

variable {req after : AssocRequest}

theorem Sound.fits (sound : req.Sound) : req.Fits := by
  have buffer := sound.buffer
  have element := sound.element
  show (req.wpaIe.take req.wpaIeLen.toNat).length = req.wpaIeLen.toNat
  exact List.length_take_of_le (by omega)

/-- The element and the WPA keys are the same. -/
theorem Sound.of_same (sound : req.Sound) (element : after.element = req.element)
    (keys : after.wpaKey = req.wpaKey) : after.Sound := by
  obtain ⟨bytes, rest⟩ := Prod.mk.inj element
  obtain ⟨length, -⟩ := Prod.mk.inj rest
  refine ⟨?_, ?_, fun attr key set => sound.keys attr key ?_⟩
  · rw [bytes]
    exact sound.buffer
  · rw [length]
    exact sound.element
  · rw [← keys]
    exact set

theorem sound_zero : AssocRequest.zero.Sound := by
  refine ⟨rfl, by decide, ?_⟩
  intro attr key set
  cases attr <;> cases set

theorem Sound.refresh {priv : AssocPriv} (sound : req.Sound)
    (buffer : priv.wpaIe.length = maxWpaIeLen) (element : priv.wpaIeLen.toNat ≤ maxWpaIeLen) :
    (req.refresh priv).Sound := by
  refine ⟨?_, ?_, ?_⟩
  · show (if req.flags.wpaIe then req.wpaIe else priv.wpaIe).length = maxWpaIeLen
    split
    · exact sound.buffer
    · exact buffer
  · show (if req.flags.wpaIe then req.wpaIeLen else priv.wpaIeLen).toNat ≤ maxWpaIeLen
    split
    · exact sound.element
    · exact element
  · rw [refresh_wpaKey]
    exact sound.keys

theorem Sound.disableWpa (sound : req.Sound) : req.disableWpa.Sound := by
  refine ⟨sound.buffer, sound.element, ?_⟩
  intro attr key set
  cases attr with
  | wpaMcastKey =>
      cases set
      show keyInfoWpaMcast ≠ 0
      decide
  | wpaUnicastKey =>
      cases set
      show keyInfoWpaUnicast ≠ 0
      decide

theorem Sound.wepOnly (sound : req.Sound) (only : WepOnly req after) : after.Sound :=
  sound.of_same only.element only.wpaKey

theorem Sound.disable (sound : req.Sound) : req.disable.req.Sound :=
  (sound.wepOnly (disableWep_wepOnly req)).disableWpa

theorem Sound.setEncode (sound : req.Sound) (dwrq : IwPoint) : (req.setEncode dwrq).req.Sound := by
  rw [AssocRequest.setEncode]
  split
  · exact sound.disable
  · exact sound.wepOnly (setWepKey_wepOnly req _ _ _ _)

theorem wpaKeyOf_flags (ext : IwEncodeExt) : (wpaKeyOf ext).flags ≠ 0 := by
  rw [wpaKeyOf]
  dsimp only
  split <;> split <;> decide

theorem Sound.setWpaKey (sound : req.Sound) (ext : IwEncodeExt) : (req.setWpaKey ext).Sound := by
  have stored (group : Bool) : (req.storeWpaKey group (wpaKeyOf ext)).Sound := by
    rw [storeWpaKey]
    cases group with
    | true =>
        refine ⟨sound.buffer, sound.element, fun attr key set => ?_⟩
        cases attr with
        | wpaMcastKey =>
            cases set
            exact wpaKeyOf_flags ext
        | wpaUnicastKey => exact sound.keys .wpaUnicastKey key set
    | false =>
        refine ⟨sound.buffer, sound.element, fun attr key set => ?_⟩
        cases attr with
        | wpaMcastKey => exact sound.keys .wpaMcastKey key set
        | wpaUnicastKey =>
            cases set
            exact wpaKeyOf_flags ext
  rw [AssocRequest.setWpaKey, enableWpa]
  split
  · exact stored _
  · exact (stored _).of_same rfl rfl

theorem Sound.setEncodeext (sound : req.Sound) (dwrq : IwPoint) (ext : IwEncodeExt) :
    (req.setEncodeext dwrq ext).req.Sound := by
  rw [AssocRequest.setEncodeext]
  split
  · exact sound.disable
  split
  · exact sound.wepOnly (setWepKey_wepOnly req _ _ _ _)
  split
  · split
    · exact sound
    · exact (sound.setWpaKey ext).wepOnly (disableWep_wepOnly _)
  · exact sound

theorem Sound.setGenie (sound : req.Sound) (dwrq : IwPoint) : (req.setGenie dwrq).req.Sound := by
  rw [AssocRequest.setGenie]
  split
  · exact sound
  · rename_i fits
    rw [not_or] at fits
    have short : dwrq.length.toNat ≤ maxWpaIeLen := Nat.le_of_not_lt fits.1
    have taken : (dwrq.bytes dwrq.length.toNat).length ≤ maxWpaIeLen := by
      rw [IwPoint.bytes]
      rw [List.length_take]
      omega
    refine ⟨?_, ?_, sound.keys⟩
    · show (if dwrq.length ≠ 0 then _ else _ : List UInt8).length = maxWpaIeLen
      split
      · rw [List.length_append, List.length_drop, sound.buffer]
        omega
      · exact List.length_replicate
    · show dwrq.length.toUInt8.toNat ≤ maxWpaIeLen
      rw [UInt16.toNat_toUInt8]
      exact Nat.le_trans (Nat.mod_le _ _) short

theorem Sound.applyIf {change : AssocRequest → AssocRequest} (sound : req.Sound) (wanted : Bool)
    (changed : ∀ {req : AssocRequest}, req.Sound → (change req).Sound) :
    (req.applyIf wanted change).Sound := by
  cases wanted with
  | false => exact sound
  | true => exact changed sound

theorem Sound.setAuth (sound : req.Sound) (flags : UInt16) (value : UInt32) :
    (req.setAuth flags value).req.Sound := by
  have useWpa : ∀ {req : AssocRequest}, req.Sound → req.useWpa.Sound :=
    fun sound => sound.of_same rfl rfl
  have useWpa2 : ∀ {req : AssocRequest}, req.Sound → req.useWpa2.Sound :=
    fun sound => sound.of_same rfl rfl
  have version : (req.setWpaVersion value).Sound :=
    ((sound.applyIf _ fun sound => sound.disableWpa).applyIf _ useWpa).applyIf _ useWpa2
  have enabled : (req.setWpaEnabled value).Sound := by
    rw [AssocRequest.setWpaEnabled]
    split
    · split
      · exact sound
      · exact sound.of_same rfl rfl
    · exact sound.disableWpa
  rw [AssocRequest.setAuth]
  dsimp only
  split
  · exact version.of_same rfl rfl
  case h_7 =>
    rw [AssocRequest.setAuthAlg]
    split_ifs <;> exact sound.of_same rfl rfl
  case h_8 => exact enabled.of_same rfl rfl
  all_goals exact sound

theorem Sound.setting (sound : req.Sound) (tables : ChannelTables) (call : SetterCall) :
    (call.setting tables req).req.Sound := by
  cases call with
  | essid dwrq => exact sound.of_same rfl rfl
  | wap ether bssid => exact sound.of_same rfl rfl
  | freq m e =>
      rcases setFreq_cases tables m e with failed | ⟨channel, set⟩
      · simp only [SetterCall.setting, failed]
        exact sound
      · simp only [SetterCall.setting, set]
        exact sound.of_same rfl rfl
  | mode value => exact sound.of_same rfl rfl
  | encode dwrq => exact sound.setEncode dwrq
  | encodeext dwrq ext => exact sound.setEncodeext dwrq ext
  | genie dwrq => exact sound.setGenie dwrq
  | auth flags value => exact sound.setAuth flags value

theorem Sound.foundBest (sound : req.Sound) (ssid : List UInt8) (ssidLen mode : UInt8) :
    (req.foundBest ssid ssidLen mode).Sound := by
  rw [AssocRequest.foundBest]
  dsimp only
  split <;> exact sound.of_same rfl rfl

end AssocRequest

namespace SoundStore

variable {priv after : AssocPriv} {s t : AssocSys} {req : AssocRequest}

/-- The element, the keys and the requests are the same. -/
theorem same (sound : SoundStore priv) (wpaIe : after.wpaIe = priv.wpaIe)
    (wpaIeLen : after.wpaIeLen = priv.wpaIeLen) (storedKey : after.storedKey = priv.storedKey)
    (pending : after.pendingAssocReq = priv.pendingAssocReq)
    (inProgress : after.inProgressAssocReq = priv.inProgressAssocReq) : SoundStore after :=
  { buffer := wpaIe ▸ sound.buffer
    element := wpaIeLen ▸ sound.element
    empty := storedKey ▸ sound.empty
    pending := pending ▸ sound.pending
    inProgress := inProgress ▸ sound.inProgress }

/-- The worker goes on with a sound request. -/
theorem next (sound : SoundStore s.priv) (request : req.Sound) (pc : AssocPc) :
    SoundStore (s.next req pc).priv := by
  refine ⟨sound.buffer, sound.element, sound.empty, sound.pending, ?_⟩
  rintro _ ⟨⟩
  exact request

theorem visit (sound : SoundStore priv) (accesses : List Nat) :
    SoundStore (priv.visit accesses) :=
  sound.same rfl rfl rfl rfl rfl

theorem draft (sound : SoundStore priv) : priv.draft.Sound := by
  refine AssocRequest.Sound.refresh ?_ sound.buffer sound.element
  cases pending : priv.pendingAssocReq with
  | none => exact AssocRequest.sound_zero
  | some req => exact sound.pending req pending

theorem leaves (sound : SoundStore priv) (alloc : Bool) (call : SetterCall) :
    Leaves AssocRequest.Sound priv (priv.call alloc call).2 :=
  call_leaves sound.pending sound.draft fun _ => sound.draft.setting priv.tables call

theorem call (sound : SoundStore priv) (alloc : Bool) (call : SetterCall) :
    SoundStore (priv.call alloc call).2 := by
  have leaves := sound.leaves alloc call
  have wpaIe : (priv.call alloc call).2.wpaIe = priv.wpaIe := leaves.field AssocPriv.wpaIe
  have wpaIeLen : (priv.call alloc call).2.wpaIeLen = priv.wpaIeLen :=
    leaves.field AssocPriv.wpaIeLen
  have keys : (priv.call alloc call).2.storedKey = priv.storedKey :=
    leaves.field AssocPriv.storedKey
  have inProgress : (priv.call alloc call).2.inProgressAssocReq = priv.inProgressAssocReq :=
    leaves.field AssocPriv.inProgressAssocReq
  exact
    { buffer := wpaIe ▸ sound.buffer
      element := wpaIeLen ▸ sound.element
      empty := keys ▸ sound.empty
      pending := leaves.pending
      inProgress := inProgress ▸ sound.inProgress }

theorem take (sound : SoundStore s.priv) : SoundStore s.take.priv := by
  refine ⟨sound.buffer, sound.element, sound.empty, ?_, sound.pending⟩
  intro req missing
  cases missing

/-- The buffer keeps its length when the element is taken over. -/
theorem assocHelperWpaIe (sound : SoundStore priv) (request : req.Sound) :
    SoundStore (priv.assocHelperWpaIe req) := by
  rw [AssocPriv.assocHelperWpaIe]
  split
  · refine ⟨?_, request.element, sound.empty, sound.pending, sound.inProgress⟩
    have taken : (req.wpaIe.take req.wpaIeLen.toNat).length = req.wpaIeLen.toNat := request.fits
    have buffer := sound.buffer
    have element := request.element
    show (_ ++ _ : List UInt8).length = _
    rw [List.length_append, List.length_drop, taken]
    omega
  · exact ⟨List.length_replicate, Nat.zero_le _, sound.empty, sound.pending, sound.inProgress⟩

theorem assocHelperChannel (sound : SoundStore priv)
    (answers : Option UInt16 × Option UInt16 × Option UInt16) :
    SoundStore (priv.assocHelperChannel req answers).2.2 := by
  obtain ⟨curbssparams, accesses, same, _⟩ := assocHelperChannel_only priv req answers
  rw [same]
  exact sound.same rfl rfl rfl rfl rfl

theorem workerStep (sound : SoundStore s.priv) (request : req.Sound) (answers : AssocAnswers) :
    SoundStore (s.workerStep req answers).priv := by
  have stays (pc : AssocPc) : SoundStore (s.next req pc).priv := sound.next request pc
  rw [AssocSys.workerStep]
  cases s.worker with
  | idle | taking => exact sound
  | finding =>
      dsimp only
      split
      · split
        · exact stays _
        · exact sound.next (request.foundBest _ _ _) _
      · exact stays _
  | mode =>
      dsimp only
      split
      · have stored : SoundStore { s.priv with mode := req.mode } :=
          sound.same rfl rfl rfl rfl rfl
        exact next (s := { s with priv := _ }) stored request _
      · exact stays _
  | channel =>
      dsimp only
      split
      · have changed : (s.priv.assocHelperChannel req answers.channel).2.1.Sound := by
          obtain ⟨_, _, _, same | changed⟩ := assocHelperChannel_only s.priv req answers.channel
          · rw [same]
            exact request
          · rw [changed]
            exact request.of_same rfl rfl
        exact next (s := { s with priv := _ }) (sound.assocHelperChannel _) changed _
      · exact stays _
  | wepKeys =>
      dsimp only
      split
      · split
        · exact next (s := { s with priv := _ }) (sound.visit allKeys) request _
        · exact next (s := { s with priv := _, card := _ }) (sound.visit allKeys) request _
      · exact stays _
  | wepSent =>
      have stored : SoundStore ({ s.priv with
          wepKeys := req.wepKeys
          wepTxKeyidx := req.wepTxKeyidx }.visit allKeys) :=
        sound.same rfl rfl rfl rfl rfl
      exact next (s := { s with priv := _ }) stored request _
  | secinfo =>
      dsimp only
      split
      · have stored : SoundStore { s.priv with secinfo := req.secinfo } :=
          sound.same rfl rfl rfl rfl rfl
        exact next (s := { s with priv := _ }) stored request _
      · exact stays _
  | rsn => exact stays _
  | wpaIe =>
      dsimp only
      split
      · exact next (s := { s with priv := _ }) (sound.assocHelperWpaIe request) request _
      · exact stays _
  | wpaKeys =>
      dsimp only
      split
      · split
        · exact next (s := { s with card := _ }) sound request .associating
        · exact stays _
      · exact stays _
  | associating =>
      dsimp only
      split
      · exact next (s := { s with attempts := _ }) sound request .ending
      · exact stays _
  | ending =>
      refine ⟨sound.buffer, sound.element, sound.empty, sound.pending, ?_⟩
      intro req missing
      cases missing

theorem step {action : AssocAction} (sound : SoundStore s.priv)
    (stepped : s.step action = some t) : SoundStore t.priv := by
  cases action with
  | call alloc call =>
      cases stepped
      exact sound.call alloc call
  | getEncode beyond length flags =>
      cases stepped
      exact sound.visit _
  | getEncodeext beyond length flags extFlags alg =>
      cases stepped
      obtain ⟨accesses, same⟩ := s.priv.lbsGetEncodeext_visits beyond length flags extFlags alg
      rw [same]
      exact sound.visit _
  | remove | link | regulate =>
      cases stepped
      exact sound.same rfl rfl rfl rfl rfl
  | timer | work =>
      simp only [AssocSys.step] at stepped
      split at stepped <;> cases stepped
      exact sound.same rfl rfl rfl rfl rfl
  | worker answers =>
      simp only [AssocSys.step] at stepped
      split at stepped
      · cases stepped
      · cases stepped
        exact sound.take
      · rename_i req inProgress _ _
        cases stepped
        exact sound.workerStep (sound.inProgress req inProgress) answers
      · cases stepped

/-- No step stores a WPA key. -/
theorem reached (reached : associator.Reachable s) : SoundStore s.priv := by
  refine reached.invariant (fun s => SoundStore s.priv) ?_
    fun _ _ _ _ sound _ stepped => sound.step stepped
  rintro _ ⟨tables, rfl⟩
  refine ⟨rfl, Nat.zero_le _, ?_, ?_, ?_⟩
  · intro attr
    cases attr <;> rfl
  · intro req missing
    cases missing
  · intro req missing
    cases missing

end SoundStore

/-- What was set is stored, as far as the worker is past it. -/
structure Stored (pc : AssocPc) (priv : AssocPriv) (req : AssocRequest) : Prop where
  security : ∀ attr, pc.copied attr = true → req.sets attr = true → priv.get attr = req.get attr
  mode : pc.modeSet = true → req.flags.mode = true → priv.mode = req.mode

/-- The worker processes a request that was taken as `first`. -/
structure Underway (first : AssocRequest) (s : AssocSys) : Prop where
  busy : s.worker ≠ .idle ∧ s.worker ≠ .taking
  request : ∃ req, s.priv.inProgressAssocReq = some req ∧ req.wpaKey = first.wpaKey ∧
    Stored s.worker s.priv req

section Processing

variable {pc pc' : AssocPc} {priv after : AssocPriv} {s t : AssocSys}
variable {first req : AssocRequest} {answers : AssocAnswers}

theorem visit_get (priv : AssocPriv) (accesses : List Nat) :
    (priv.visit accesses).get = priv.get := by
  funext attr
  cases attr <;> rfl

/-- An attribute that is not marked was not set. -/
theorem sets_of_unmarked {attr : SecurityAttr} (unmarked : req.marked attr = false) :
    req.sets attr = false := by
  cases attr with
  | wpaIe => exact Bool.and_eq_false_iff.mpr (.inl unmarked)
  | _ => exact unmarked

/-- Nothing is copied at the first places. -/
theorem Stored.early (early : pc = .mode ∨ pc = .channel ∨ pc = .wepKeys)
    (mode : pc.modeSet = true → req.flags.mode = true → priv.mode = req.mode) :
    Stored pc priv req := by
  refine ⟨?_, mode⟩
  intro attr copied
  rcases early with rfl | rfl | rfl <;> cases attr <;> cases copied

/-- The later places change no attribute that is copied already. -/
theorem Stored.pass (stored : Stored pc priv req) (later : pc.modeSet = true)
    (mode : after.mode = priv.mode)
    (get : ∀ attr, pc'.copied attr = true →
      (pc.copied attr = true ∧ after.get attr = priv.get attr) ∨ req.sets attr = false ∨
        after.get attr = req.get attr) : Stored pc' after req := by
  refine ⟨?_, fun _ set => mode.trans (stored.mode later set)⟩
  intro attr copied set
  rcases get attr copied with ⟨before, same⟩ | unset | same
  · exact same.trans (stored.security attr before set)
  · rw [set] at unset
    cases unset
  · exact same

/-- A place that copies nothing, and passes no attribute that was set. -/
theorem Stored.skip (stored : Stored pc priv req) (later : pc.modeSet = true)
    (mode : after.mode = priv.mode) (same : after.get = priv.get)
    (passed : ∀ attr, pc'.copied attr = true → pc.copied attr = true ∨ req.marked attr = false) :
    Stored pc' after req := by
  apply stored.pass later mode
  intro attr copied
  rcases passed attr copied with before | unmarked
  · exact .inl ⟨before, congrFun same attr⟩
  · exact .inr (.inl (sets_of_unmarked unmarked))

theorem Stored.congr (stored : Stored pc priv req) (get : after.get = priv.get)
    (mode : after.mode = priv.mode) : Stored pc after req :=
  ⟨get ▸ stored.security, mode ▸ stored.mode⟩

/-- The worker goes on from here with its request. -/
theorem Underway.goes (keys : req.wpaKey = first.wpaKey) (stored : Stored pc s.priv req)
    (busy : pc ≠ .idle ∧ pc ≠ .taking) : Underway first (s.next req pc) :=
  ⟨busy, req, rfl, keys, stored.congr (next_get s req pc) rfl⟩

theorem assocHelperChannel_ok {answers : Option UInt16 × Option UInt16 × Option UInt16}
    (channels : answers.1.isSome = true ∧ answers.2.1.isSome = true ∧
      answers.2.2.isSome = true) : (priv.assocHelperChannel req answers).1 = true := by
  have updated {priv : AssocPriv} {answer : Option UInt16} (succeeds : answer.isSome = true) :
      priv.lbsUpdateChannel answer ≠ none := by
    intro failed
    rw [AssocPriv.lbsUpdateChannel, Option.map_eq_none_iff] at failed
    rw [failed] at succeeds
    cases succeeds
  rw [AssocPriv.assocHelperChannel]
  split
  · rename_i failed
    exact absurd failed (updated channels.1)
  · split
    · rfl
    · dsimp only
      split
      · rename_i failed
        exact absurd failed (updated channels.2.2)
      · split <;> rfl

section Places

variable (stored : Stored pc priv req)

include stored

theorem Stored.wepUnset (place : pc = .wepKeys)
    (unset : req.flags.wepKeys = false ∧ req.flags.wepTxKeyidx = false) :
    Stored .secinfo priv req := by
  subst place
  refine stored.skip rfl rfl rfl fun attr copied => .inr ?_
  cases attr with
  | wepKeys => exact unset.1
  | wepTxKeyidx => exact unset.2
  | secinfo => cases copied
  | wpaIe => cases copied

/-- The keys are not copied before the firmware has them. -/
theorem Stored.wepKeys (place : pc = .wepKeys) : Stored .wepSent (priv.visit allKeys) req := by
  subst place
  refine stored.skip rfl rfl (visit_get _ _) ?_
  intro attr copied
  cases attr <;> cases copied

theorem Stored.wepSent (place : pc = .wepSent) :
    Stored .secinfo ({ priv with
      wepKeys := req.wepKeys
      wepTxKeyidx := req.wepTxKeyidx }.visit allKeys) req := by
  subst place
  refine stored.pass rfl rfl fun attr copied => .inr (.inr ?_)
  cases attr with
  | wepKeys => rfl
  | wepTxKeyidx => rfl
  | secinfo => cases copied
  | wpaIe => cases copied

theorem Stored.secinfoUnset (place : pc = .secinfo) (unset : req.flags.secinfo = false) :
    Stored .wpaIe priv req := by
  subst place
  refine stored.skip rfl rfl rfl fun attr copied => ?_
  cases attr with
  | wepKeys => exact .inl rfl
  | wepTxKeyidx => exact .inl rfl
  | secinfo => exact .inr unset
  | wpaIe => cases copied

theorem Stored.secinfo (place : pc = .secinfo) :
    Stored .rsn { priv with secinfo := req.secinfo } req := by
  subst place
  refine stored.pass rfl rfl fun attr copied => ?_
  cases attr with
  | wepKeys => exact .inl ⟨rfl, rfl⟩
  | wepTxKeyidx => exact .inl ⟨rfl, rfl⟩
  | secinfo => exact .inr (.inr rfl)
  | wpaIe => cases copied

theorem Stored.rsn (place : pc = .rsn) : Stored .wpaIe priv req := by
  subst place
  refine stored.skip rfl rfl rfl fun attr copied => .inl ?_
  cases attr with
  | wpaIe => cases copied
  | _ => rfl

theorem Stored.wpaIeUnset (place : pc = .wpaIe) (unset : req.flags.wpaIe = false) :
    Stored .wpaKeys priv req := by
  subst place
  refine stored.skip rfl rfl rfl fun attr _ => ?_
  cases attr with
  | wpaIe => exact .inr unset
  | _ => exact .inl rfl

/-- The element of a request without WPA is not taken over. -/
theorem Stored.wpaIe (place : pc = .wpaIe) (fits : req.Fits) :
    Stored .wpaKeys (priv.assocHelperWpaIe req) req := by
  subst place
  have mode : (priv.assocHelperWpaIe req).mode = priv.mode := by
    rw [AssocPriv.assocHelperWpaIe]
    split <;> rfl
  refine stored.pass rfl mode fun attr _ => ?_
  by_cases wpa : (req.secinfo.wpaEnabled || req.secinfo.wpa2Enabled) = true
  · have get := assocHelperWpaIe_get priv fits (.inl wpa)
    rcases eq_or_ne attr .wpaIe with rfl | other
    · exact .inr (.inr ((get _).trans (if_pos rfl)))
    · refine .inl ⟨?_, (get attr).trans (if_neg other)⟩
      cases attr with
      | wpaIe => exact absurd rfl other
      | _ => rfl
  · rw [AssocPriv.assocHelperWpaIe]
    rw [if_neg wpa]
    cases attr with
    | wpaIe =>
        refine .inr (.inl ?_)
        rw [Bool.not_eq_true] at wpa
        exact Bool.and_eq_false_iff.mpr (.inr wpa)
    | _ => exact .inl ⟨rfl, rfl⟩

/-- All is copied at the last places. -/
theorem Stored.late (late : pc = .wpaKeys ∨ pc = .associating) : Stored pc' priv req := by
  have copied : ∀ attr, pc.copied attr = true := by
    rcases late with rfl | rfl <;>
    · intro attr
      cases attr <;> rfl
  have past : pc.modeSet = true := by
    rcases late with rfl | rfl <;> rfl
  exact stored.skip past rfl rfl fun attr _ => .inl (copied attr)

end Places

/-- When its commands succeed, the worker does not give up its request. -/
theorem underway_worker (inProgress : s.worker ≠ .idle ∧ s.worker ≠ .taking)
    (keys : req.wpaKey = first.wpaKey) (stored : Stored s.worker s.priv req) (fits : req.Fits)
    (valid : req.validWepKeys = true) (more : s.worker ≠ .ending) (succeed : answers.Succeed) :
    Underway first (s.workerStep req answers) := by
  obtain ⟨ok, best, channels⟩ := succeed
  rw [AssocSys.workerStep]
  cases place : s.worker with
  | idle => exact absurd place inProgress.1
  | taking => exact absurd place inProgress.2
  | ending => exact absurd place more
  | finding =>
      dsimp only
      split
      · rename_i any
        cases found : answers.best with
        | none =>
            rw [found] at best
            cases best
        | some network =>
            obtain ⟨ssid, ssidLen, mode⟩ := network
            have same := (carried_foundBest place any ssid ssidLen mode).wpaKey
            exact .goes (same.trans keys) (.early (.inl rfl) (by cases ·)) (by simp)
      · exact .goes keys (.early (.inl rfl) (by cases ·)) (by simp)
  | mode =>
      dsimp only
      rw [ok]
      split
      · exact .goes keys (.early (.inr (.inl rfl)) fun _ _ => rfl) (by simp)
      · rename_i unchanged
        refine .goes keys (.early (.inr (.inl rfl)) fun _ set => ?_) (by simp)
        simp only [set, Bool.true_and, decide_eq_true_eq, not_not] at unchanged
        exact unchanged.symm
  | channel =>
      have mode := stored.mode (by rw [place]; rfl)
      dsimp only
      split
      · obtain ⟨curbssparams, accesses, same, request⟩ :=
          assocHelperChannel_only s.priv req answers.channel
        rw [assocHelperChannel_ok channels, same]
        rcases request with request | request
        · rw [request]
          exact .goes keys (.early (.inr (.inr rfl)) fun _ => mode) (by simp)
        · rw [request]
          exact .goes keys (.early (.inr (.inr rfl)) fun _ => mode) (by simp)
      · exact .goes keys (.early (.inr (.inr rfl)) fun _ => mode) (by simp)
  | wepKeys =>
      dsimp only
      split
      · split
        · rename_i refused
          simp [valid, ok] at refused
        · exact .goes keys (stored.wepKeys place) (by simp)
      · rename_i unset
        simp only [Bool.or_eq_true, not_or, Bool.not_eq_true] at unset
        exact .goes keys (stored.wepUnset place unset) (by simp)
  | wepSent => exact .goes keys (stored.wepSent place) (by simp)
  | secinfo =>
      dsimp only
      split
      · exact .goes keys (stored.secinfo place) (by simp)
      · rename_i unset
        exact .goes keys (stored.secinfoUnset place (Bool.eq_false_iff.mpr unset))
          (by simp)
  | rsn =>
      dsimp only
      rw [ok]
      exact .goes keys (stored.rsn place) (by simp)
  | wpaIe =>
      dsimp only
      split
      · exact .goes keys (stored.wpaIe place fits) (by simp)
      · rename_i unset
        exact .goes keys (stored.wpaIeUnset place (Bool.eq_false_iff.mpr unset)) (by simp)
  | wpaKeys =>
      dsimp only
      rw [ok]
      split <;> exact .goes keys (stored.late (.inl place)) (by simp)
  | associating =>
      dsimp only
      split <;> exact .goes keys (stored.late (.inr place)) (by simp)

/-- A step of another party: the request and what is stored are the same. -/
theorem Underway.aside (underway : Underway first s) (worker : t.worker = s.worker)
    (inProgress : t.priv.inProgressAssocReq = s.priv.inProgressAssocReq)
    (get : t.priv.get = s.priv.get) (mode : t.priv.mode = s.priv.mode) : Underway first t := by
  obtain ⟨busy, req, found, keys, stored⟩ := underway
  rw [← worker] at busy stored
  exact ⟨busy, req, inProgress.trans found, keys, stored.congr get mode⟩

theorem underway_step {action : AssocAction} (underway : Underway first s)
    (reached : associator.Reachable s) (processing : Processing s action)
    (stepped : s.step action = some t) : Underway first t := by
  have sound := SoundStore.reached reached
  cases action with
  | call alloc call =>
      cases stepped
      have leaves := sound.leaves alloc call
      exact underway.aside rfl (leaves.field AssocPriv.inProgressAssocReq)
        (leaves.field AssocPriv.get) (leaves.field AssocPriv.mode)
  | getEncode beyond length flags =>
      cases stepped
      exact underway.aside rfl rfl (visit_get _ _) rfl
  | getEncodeext beyond length flags extFlags alg =>
      cases stepped
      obtain ⟨accesses, same⟩ := s.priv.lbsGetEncodeext_visits beyond length flags extFlags alg
      rw [same]
      exact underway.aside rfl rfl (visit_get _ _) rfl
  | remove | regulate =>
      cases stepped
      refine underway.aside rfl rfl ?_ rfl
      funext attr
      cases attr <;> rfl
  | link curbssparams mode =>
      cases stepped
      obtain ⟨busy, req, inProgress, keys, stored⟩ := underway
      refine ⟨busy, req, inProgress, keys, ?_, ?_⟩
      · intro attr copied set
        rw [← stored.security attr copied set]
        cases attr <;> rfl
      · intro later set
        exact (processing later req inProgress set).trans (stored.mode later set)
  | timer =>
      simp only [AssocSys.step] at stepped
      split at stepped <;> cases stepped
      refine underway.aside rfl rfl ?_ rfl
      funext attr
      cases attr <;> rfl
  | work =>
      simp only [AssocSys.step] at stepped
      split at stepped
      · rename_i idle _
        exact absurd idle underway.busy.1
      · cases stepped
  | worker answers =>
      obtain ⟨busy, req, inProgress, keys, stored⟩ := underway
      obtain ⟨more, succeed⟩ := processing
      have standard := (standardStore reached).inProgress req inProgress
      have moved : t = s.workerStep req answers := by
        simp only [AssocSys.step] at stepped
        split at stepped
        · cases stepped
        · rename_i taking
          exact absurd taking busy.2
        · rename_i other found _ _
          obtain rfl := Option.some.inj (inProgress.symm.trans found)
          cases stepped
          rfl
        · cases stepped
      rw [moved]
      exact underway_worker busy keys stored (sound.inProgress req inProgress).fits
        (validWepKeys_of_standard standard.lengths) more succeed

/-- From the moment it is taken to the end, the request is on its way. -/
theorem underway (reached : associator.Reachable s) (finding : s.worker = .finding)
    (taken : s.priv.inProgressAssocReq = some first)
    (processed : (associator.startingIn s).ReachableUnder Processing t) : Underway first t := by
  refine processed.invariant (Underway first) ?_ ?_
  · rintro _ rfl
    refine ⟨?_, first, taken, rfl, ?_⟩
    · rw [finding]
      exact ⟨nofun, nofun⟩
    · rw [finding]
      refine ⟨?_, nofun⟩
      intro attr copied
      cases attr <;> cases copied
  · intro before action after part goes processing stepped
    exact underway_step goes (reached.startingIn part) processing stepped

end Processing

/-- The request `req` is taken in `s`, and at its end in `t` it is `applied`. -/
structure ProcessedRequest (s t : AssocSys) (req applied : AssocRequest) : Prop where
  reached : associator.Reachable s
  finding : s.worker = .finding
  taken : s.priv.inProgressAssocReq = some req
  processed : (associator.startingIn s).ReachableUnder Processing t
  ending : t.worker = .ending
  left : t.priv.inProgressAssocReq = some applied

/-- What was applied can be read back if and only if no WPA key was set. -/
theorem applied_read_back {s t : AssocSys} {req applied : AssocRequest}
    (processed : ProcessedRequest s t req applied) :
    ReadBack t.priv applied ↔ ∀ attr, req.wpaKey attr = none := by
  obtain ⟨reached, finding, taken, part, ending, left⟩ := processed
  obtain ⟨_, current, inProgress, keys, stored⟩ := underway reached finding taken part
  obtain rfl := Option.some.inj (inProgress.symm.trans left)
  have sound := SoundStore.reached (reached.startingIn part)
  rw [ending] at stored
  constructor
  · intro back attr
    rw [← keys]
    cases set : current.wpaKey attr with
    | none => rfl
    | some key =>
        -- The store is empty, and the key says what it is for.
        have same : EncKey.zero = key := (sound.empty attr).symm.trans (back.wpaKeys attr key set)
        have flags := (sound.inProgress current inProgress).keys attr key set
        rw [← same] at flags
        exact absurd rfl flags
  · intro none
    refine ⟨fun attr => stored.security attr ?_, stored.mode rfl, ?_⟩
    · cases attr <;> rfl
    · intro attr key set
      rw [keys, none attr] at set
      cases set

instance (answers : AssocAnswers) : Decidable answers.Succeed :=
  decidable_of_iff (answers.ok = true ∧ answers.best.isSome = true ∧
      answers.channel.1.isSome = true ∧ answers.channel.2.1.isSome = true ∧
      answers.channel.2.2.isSome = true)
    ⟨fun ⟨ok, best, channel⟩ => ⟨ok, best, channel⟩,
      fun succeed => ⟨succeed.ok, succeed.best, succeed.channel⟩⟩

instance (s : AssocSys) : (action : AssocAction) → Decidable (Processing s action)
  | .worker answers => inferInstanceAs (Decidable (s.worker ≠ .ending ∧ answers.Succeed))
  | .link _ mode => inferInstanceAs (Decidable (s.worker.modeSet = true →
      ∀ req ∈ s.priv.inProgressAssocReq, req.flags.mode = true → mode = s.priv.mode))
  | .call _ _ | .getEncode _ _ _ | .getEncodeext _ _ _ _ _ | .remove | .regulate _ | .timer
  | .work => .isTrue trivial

/-- Some steps of the worker, whose commands all succeed. -/
def processSteps (n : Nat) : List AssocAction :=
  List.replicate n (.worker
    { ok := true, best := some ([1], 1, iwModeInfra), channel := (some 6, some 6, some 6) })

theorem exists_processed (calls : List AssocAction) (n : Nat)
    (Good : AssocSys → AssocRequest → AssocRequest → Prop)
    [∀ t req applied, Decidable (Good t req applied)]
    (holds : ((associator.run (.init (.fresh twoChannels))
        (calls ++ [.timer, .work] ++ processSteps 1)).bind fun s =>
      s.priv.inProgressAssocReq.bind fun req =>
        ((associator.startingIn s).runUnder Processing s (processSteps n)).bind fun t =>
          t.priv.inProgressAssocReq.map fun applied =>
            decide (s.worker = .finding ∧ t.worker = .ending ∧ Good t req applied)) =
      some true) :
    ∃ s t req applied, ProcessedRequest s t req applied ∧ Good t req applied := by
  obtain ⟨s, run, holds⟩ := Option.bind_eq_some_iff.mp holds
  obtain ⟨req, taken, holds⟩ := Option.bind_eq_some_iff.mp holds
  obtain ⟨t, part, holds⟩ := Option.bind_eq_some_iff.mp holds
  obtain ⟨applied, left, holds⟩ := Option.map_eq_some_iff.mp holds
  obtain ⟨finding, ending, good⟩ := of_decide_eq_true holds
  have start : associator.initial (.init (.fresh twoChannels)) := ⟨twoChannels, rfl⟩
  refine ⟨s, t, req, applied, ?_, good⟩
  exact
    { reached := Machine.reachable_of_run start run
      finding := finding
      taken := taken
      processed := Machine.ReachableUnder.run (.initial rfl) part
      ending := ending
      left := left }

/-- WEP keys and an SSID are applied, and all of it can be read back. -/
theorem applied_read_back_wep : ∃ s t req applied, ProcessedRequest s t req applied ∧
    applied.flags.wepKeys = true ∧ applied.flags.ssid = true ∧ ReadBack t.priv applied := by
  obtain ⟨s, t, req, applied, processed, keys, ssid, mcast, unicast⟩ := exists_processed
    [.call true secondKeyCall, .call true essidCall] 10
    (fun _ req applied => applied.flags.wepKeys = true ∧ applied.flags.ssid = true ∧
      req.wpaKey .wpaMcastKey = none ∧ req.wpaKey .wpaUnicastKey = none)
    (by decide +kernel)
  refine ⟨s, t, req, applied, processed, keys, ssid, (applied_read_back processed).mpr ?_⟩
  intro attr
  cases attr with
  | wpaMcastKey => exact mcast
  | wpaUnicastKey => exact unicast

/-- A unicast key for CCMP. -/
def ccmpCall : SetterCall :=
  .encodeext { length := 56, flags := 1, extra := none }
    { extFlags := 0, alg := iwEncodeAlgCcmp, keyLen := 16, key := List.replicate 16 7 }

/-- The firmware has the new key, and the private structure has none. -/
theorem wpa_key_not_stored : ∃ s t req applied, ProcessedRequest s t req applied ∧
    t.card.wpaUnicastKey = some applied.wpaUnicastKey ∧ applied.wpaUnicastKey.len = 16 ∧
    t.priv.wpaKey = none ∧ ¬ ReadBack t.priv applied := by
  obtain ⟨s, t, req, applied, processed, sent, length, missing, set, unlike⟩ := exists_processed
    [.call true ccmpCall] 10
    (fun t _ applied => t.card.wpaUnicastKey = some applied.wpaUnicastKey ∧
      applied.wpaUnicastKey.len = 16 ∧ t.priv.wpaKey = none ∧
      applied.wpaKey .wpaUnicastKey = some applied.wpaUnicastKey ∧
      t.priv.wpaUnicastKey ≠ applied.wpaUnicastKey)
    (by decide +kernel)
  refine ⟨s, t, req, applied, processed, sent, length, missing, ?_⟩
  intro back
  exact unlike (back.wpaKeys .wpaUnicastKey _ set)

end Libertas

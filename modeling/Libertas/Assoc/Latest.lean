import Libertas.Assoc.Attributes

/-!
# Association attempts and the latest settings

Beside the driver runs a record of what the user asked for. `wanted` is what all
calls so far amount to, `taken` is the same at the time when the worker took its
request, which is after the last call that changed this request. In orderly runs
an association attempt uses `taken`.

An attribute about security, or a key, is wanted until a later call sets it
again. The network is only wanted until the worker takes the request; what no
call has asked for by then is the current network.
-/

namespace Libertas

/-- What is not asked for is as in the current network. -/
def AssocRequest.current (wanted : AssocRequest) (priv : AssocPriv) : AssocRequest :=
  { wanted with
    ssid := if wanted.flags.ssid then wanted.ssid else priv.curbssparams.ssid
    ssidLen := if wanted.flags.ssid then wanted.ssidLen else priv.curbssparams.ssidLen
    bssid := if wanted.flags.bssid then wanted.bssid else priv.curbssparams.bssid
    channel := if wanted.flags.channel then wanted.channel else priv.curbssparams.channel
    mode := if wanted.flags.mode then wanted.mode else priv.mode }

/-- The network is not asked for any more. -/
def AssocRequest.handed (wanted : AssocRequest) : AssocRequest :=
  { wanted with flags := { wanted.flags with
      ssid := false, bssid := false, channel := false, mode := false } }

/-- The system and the record of what is wanted. -/
structure Watched where
  sys : AssocSys
  wanted : AssocRequest
  taken : AssocRequest
deriving DecidableEq, Repr

namespace Watched

/-- A successful call changes what is wanted. -/
def heed (w : Watched) (alloc : Bool) (call : SetterCall) : AssocRequest :=
  if (w.sys.priv.call alloc call).1 = 0 then
    (call.setting w.sys.priv.tables (w.wanted.current w.sys.priv)).req
  else w.wanted

/-- The record after a step of the system to `t`. -/
def record (w : Watched) (t : AssocSys) : AssocAction → Watched
  | .call alloc call => { w with sys := t, wanted := w.heed alloc call }
  | .worker _ =>
      if w.sys.worker = .taking then { sys := t, wanted := w.wanted.handed, taken := w.wanted }
      else { w with sys := t }
  | _ => { w with sys := t }

def step (w : Watched) (action : AssocAction) : Option Watched :=
  (w.sys.step action).map fun t => w.record t action

/-- Nothing is asked for, and security is as at the start. -/
def init (tables : ChannelTables) : Watched :=
  let wanted := AssocRequest.zero.refresh (.fresh tables)
  { sys := .init (.fresh tables), wanted := wanted, taken := wanted }

end Watched

/-- The association side of the driver, with a record of what is wanted. -/
def watcher : Machine Watched AssocAction where
  initial w := ∃ tables, w = .init tables
  step := Watched.step

/-- A WPA key that the firmware was given. -/
def CardKeys.wpaKey (card : CardKeys) : WpaKeyAttr → Option EncKey
  | .wpaMcastKey => card.wpaMcastKey
  | .wpaUnicastKey => card.wpaUnicastKey

/-- An attempt uses what is wanted. The firmware has no WEP keys before it gets the first. An
empty SSID stands for the best network, and then the automatic mode for the mode of it. -/
structure Attempt.Uses (attempt : Attempt) (priv : AssocPriv) (wanted : AssocRequest) : Prop where
  security : attempt.req.get = wanted.get
  stored : priv.get = wanted.get
  wepKeys : attempt.card.wep.getD (Vector.replicate 4 .zero, 0) =
    (wanted.wepKeys, wanted.wepTxKeyidx)
  wpaKeys : attempt.card.wpaKey = wanted.wpaKey
  bssid : attempt.req.network .bssid = wanted.network .bssid
  channel : attempt.req.network .channel = wanted.network .channel
  ssid : attempt.req.network .ssid = wanted.network .ssid ∨ wanted.findAnySsid = true
  mode : attempt.req.network .mode = wanted.network .mode ∨
    wanted.findAnySsid = true ∧ wanted.mode = iwModeAuto

/-- A setter that copies this attribute copies what the worker is going to leave behind. -/
def AssocSys.Steady (s : AssocSys) (attr : SecurityAttr) : Prop :=
  (s.priv.pendingAssocReq.getD .zero).marked attr = true ∨
    ∀ req ∈ s.priv.inProgressAssocReq, s.priv.get attr = req.get attr

/-- The worker does not give up its request, and takes over a new information element. -/
def AssocSys.Completes (s : AssocSys) (answers : AssocAnswers) : Prop :=
  (∀ t ∈ s.step (.worker answers), t.worker = .ending → s.worker = .associating) ∧
    (s.worker = .wpaIe → ∀ req ∈ s.priv.inProgressAssocReq, req.flags.wpaIe = true →
      (req.secinfo.wpaEnabled || req.secinfo.wpa2Enabled) = true ∨ req.wpaIeLen = 0)

/-- The calls succeed, and copy nothing that is about to change; the worker completes its
requests. -/
def Orderly (w : Watched) : AssocAction → Prop
  | .call alloc call =>
      (w.sys.priv.call alloc call).1 = 0 ∧ call.wellFormed ∧ ∀ attr, w.sys.Steady attr
  | .worker answers => w.sys.Completes answers
  | _ => True

instance : (attr : SecurityAttr) → DecidableEq attr.Value
  | .wepKeys => inferInstanceAs (DecidableEq WepKeys)
  | .wepTxKeyidx => inferInstanceAs (DecidableEq UInt16)
  | .secinfo => inferInstanceAs (DecidableEq Security)
  | .wpaIe => inferInstanceAs (DecidableEq (List UInt8 × UInt8))

instance (s : AssocSys) (attr : SecurityAttr) : Decidable (s.Steady attr) := by
  unfold AssocSys.Steady
  infer_instance

instance (s : AssocSys) : Decidable (∀ attr, s.Steady attr) :=
  decidable_of_iff
    (s.Steady .wepKeys ∧ s.Steady .wepTxKeyidx ∧ s.Steady .secinfo ∧ s.Steady .wpaIe)
    ⟨fun ⟨keys, index, secinfo, element⟩ attr => by cases attr <;> assumption,
      fun steady => ⟨steady _, steady _, steady _, steady _⟩⟩

instance (s : AssocSys) (answers : AssocAnswers) : Decidable (s.Completes answers) := by
  unfold AssocSys.Completes
  infer_instance

instance (w : Watched) : (action : AssocAction) → Decidable (Orderly w action)
  | .call alloc call => inferInstanceAs (Decidable ((w.sys.priv.call alloc call).1 = 0 ∧
      call.wellFormed ∧ ∀ attr, w.sys.Steady attr))
  | .worker answers => inferInstanceAs (Decidable (w.sys.Completes answers))
  | .getEncode _ _ _ | .getEncodeext _ _ _ _ _ | .remove | .link _ _ | .regulate _ | .timer
  | .work => .isTrue trivial

section Record

variable (wanted : AssocRequest) (priv : AssocPriv)

theorem current_get : (wanted.current priv).get = wanted.get := by
  funext attr
  cases attr <;> rfl

theorem current_network (attr : NetworkAttr) :
    (wanted.current priv).network attr = (wanted.asked attr).getD (priv.network attr) := by
  rw [AssocRequest.current]
  cases attr <;>
  · dsimp only [AssocRequest.network, AssocRequest.asked]
    split <;> rfl

theorem current_asked : (wanted.current priv).asked = wanted.asked := by
  rw [AssocRequest.current]
  funext attr
  cases attr <;>
  · dsimp only [AssocRequest.asked]
    split <;> rfl

theorem current_wpaKey : (wanted.current priv).wpaKey = wanted.wpaKey := rfl

theorem handed_get : wanted.handed.get = wanted.get := by
  funext attr
  cases attr <;> rfl

theorem handed_asked : wanted.handed.asked = fun _ => none := by
  funext attr
  cases attr <;> rfl

theorem handed_wpaKey : wanted.handed.wpaKey = wanted.wpaKey := rfl

theorem zero_marked (attr : SecurityAttr) : AssocRequest.zero.marked attr = false := by
  cases attr <;> rfl

theorem zero_asked : AssocRequest.zero.asked = fun _ => none := by
  funext attr
  cases attr <;> rfl

theorem zero_wpaKey (attr : WpaKeyAttr) : AssocRequest.zero.wpaKey attr = none := by
  cases attr <;> rfl

end Record

/-- A step of another party: it leaves all but the current network alone, and may start the
worker. -/
structure Aside (s t : AssocSys) : Prop where
  get : t.priv.get = s.priv.get
  pending : t.priv.pendingAssocReq = s.priv.pendingAssocReq
  inProgress : t.priv.inProgressAssocReq = s.priv.inProgressAssocReq
  card : t.card = s.card
  attempts : t.attempts = s.attempts
  next : t.worker = s.worker ∨ s.worker = .idle ∧ t.worker = .taking

/-- What a step of the worker does to its request. -/
structure Carried (s : AssocSys) (req req' : AssocRequest) : Prop where
  get : req'.get = req.get
  marked : ∀ attr, req'.marked attr = false → req.marked attr = false
  wpaKey : req'.wpaKey = req.wpaKey
  network : req'.network = req.network ∨
    s.worker = .finding ∧ req.findAnySsid = true ∧ req'.bssid = req.bssid ∧
      req'.channel = req.channel ∧ (req.mode ≠ iwModeAuto → req'.mode = req.mode)

theorem Carried.refl (s : AssocSys) (req : AssocRequest) : Carried s req req :=
  ⟨rfl, fun _ => id, rfl, .inl rfl⟩

/-- The worker ends, or goes on with its request. -/
inductive Carries (s : AssocSys) (req : AssocRequest) (t : AssocSys) : Prop
  | ended (ending : s.worker = .ending) (left : t.priv.inProgressAssocReq = none)
      (idle : t.worker = .idle)
  | goes (req' : AssocRequest) (carried : Carried s req req')
      (inProgress : t.priv.inProgressAssocReq = some req')
      (busy : t.worker ≠ .finding ∧ t.worker ≠ .idle ∧ t.worker ≠ .taking)

section Steps

variable {s t : AssocSys} {req : AssocRequest} {answers : AssocAnswers}

theorem carried_foundBest (finding : s.worker = .finding) (any : req.findAnySsid = true)
    (ssid : List UInt8) (ssidLen mode : UInt8) :
    Carried s req (req.foundBest ssid ssidLen mode) := by
  rw [AssocRequest.foundBest]
  dsimp only
  split
  · rename_i automatic
    refine ⟨?_, fun attr unmarked => ?_, rfl, .inr ⟨finding, any, rfl, rfl, ?_⟩⟩
    · funext attr
      cases attr <;> rfl
    · cases attr <;> exact unmarked
    · exact fun other => absurd automatic other
  · refine ⟨?_, fun attr unmarked => ?_, rfl, .inr ⟨finding, any, rfl, rfl, fun _ => rfl⟩⟩
    · funext attr
      cases attr <;> rfl
    · cases attr <;> exact unmarked

theorem carried_channelChanged (s : AssocSys) (req : AssocRequest) :
    Carried s req req.channelChanged := by
  refine ⟨?_, fun attr unmarked => ?_, rfl, .inl ?_⟩
  · funext attr
    cases attr <;> rfl
  · cases attr with
    | wepKeys => exact (Bool.or_eq_false_iff.mp unmarked).1
    | wepTxKeyidx => exact unmarked
    | secinfo => exact unmarked
    | wpaIe => exact unmarked
  · funext attr
    cases attr <;> rfl

/-- Only the current channel changes, and the keys may be visited. -/
theorem lbsUpdateChannel_only {priv after : AssocPriv} {answer : Option UInt16}
    (updated : priv.lbsUpdateChannel answer = some after) :
    ∃ curbssparams, after = { priv with curbssparams := curbssparams } := by
  cases answer with
  | none => cases updated
  | some channel =>
      obtain rfl := Option.some.inj updated
      dsimp only
      split
      · exact ⟨_, rfl⟩
      · exact ⟨_, rfl⟩

theorem lbsSetChannel_only (priv : AssocPriv) (answer : Option UInt16) :
    ∃ curbssparams, priv.lbsSetChannel answer = { priv with curbssparams := curbssparams } := by
  cases answer with
  | none => exact ⟨_, rfl⟩
  | some channel => exact ⟨_, rfl⟩

theorem assocHelperChannel_only (priv : AssocPriv) (req : AssocRequest)
    (answers : Option UInt16 × Option UInt16 × Option UInt16) :
    ∃ curbssparams accesses, (priv.assocHelperChannel req answers).2.2 =
        { priv with curbssparams := curbssparams, keyAccesses := accesses } ∧
      ((priv.assocHelperChannel req answers).2.1 = req ∨
        (priv.assocHelperChannel req answers).2.1 = req.channelChanged) := by
  rw [AssocPriv.assocHelperChannel]
  split
  · exact ⟨_, _, rfl, .inl rfl⟩
  · rename_i updated
    obtain ⟨first, rfl⟩ := lbsUpdateChannel_only updated
    split
    · exact ⟨_, _, rfl, .inl rfl⟩
    · obtain ⟨second, set⟩ := lbsSetChannel_only { priv with curbssparams := first } answers.2.1
      rw [set]
      dsimp only
      split
      · exact ⟨_, _, rfl, .inl rfl⟩
      · rename_i updated
        obtain ⟨third, rfl⟩ := lbsUpdateChannel_only updated
        split
        · exact ⟨_, _, rfl, .inl rfl⟩
        · exact ⟨_, _, rfl, .inr rfl⟩

/-- What the worker does to its request. -/
theorem workerStep_carries (req : AssocRequest) (answers : AssocAnswers)
    (busy : s.worker ≠ .idle ∧ s.worker ≠ .taking) :
    Carries s req (s.workerStep req answers) := by
  rw [AssocSys.workerStep]
  cases place : s.worker with
  | idle => exact absurd place busy.1
  | taking => exact absurd place busy.2
  | finding =>
      dsimp only
      split
      · rename_i any
        split
        · exact .goes req (.refl s req) rfl (by simp)
        · exact .goes _ (carried_foundBest place any _ _ _) rfl (by simp)
      · exact .goes req (.refl s req) rfl (by simp)
  | mode =>
      dsimp only
      split
      · refine .goes req (.refl s req) rfl ?_
        cases answers.ok <;> simp
      · exact .goes req (.refl s req) rfl (by simp)
  | channel =>
      dsimp only
      split
      · have carried : Carried s req (s.priv.assocHelperChannel req answers.channel).2.1 := by
          obtain ⟨_, _, _, same | changed⟩ := assocHelperChannel_only s.priv req answers.channel
          · rw [same]
            exact .refl s req
          · rw [changed]
            exact carried_channelChanged s req
        refine .goes _ carried rfl ?_
        cases (s.priv.assocHelperChannel req answers.channel).1 <;> simp
      · exact .goes req (.refl s req) rfl (by simp)
  | rsn =>
      refine .goes req (.refl s req) rfl ?_
      cases answers.ok <;> simp
  | ending => exact .ended place rfl rfl
  | wepSent => exact .goes req (.refl s req) rfl (by simp)
  | wepKeys | wpaKeys =>
      dsimp only
      split
      · split <;> exact .goes req (.refl s req) rfl (by simp)
      · exact .goes req (.refl s req) rfl (by simp)
  | secinfo | wpaIe | associating =>
      dsimp only
      split <;> exact .goes req (.refl s req) rfl (by simp)

end Steps

/-- The worker is past the place where it copies the attribute. -/
def AssocPc.copied : AssocPc → SecurityAttr → Bool
  | .finding, _ | .mode, _ | .channel, _ | .wepKeys, _ | .wepSent, _ => false
  | .secinfo, .wepKeys | .secinfo, .wepTxKeyidx => true
  | .secinfo, .secinfo | .secinfo, .wpaIe | .rsn, .wpaIe | .wpaIe, .wpaIe => false
  | .rsn, _ | .wpaIe, _ | .wpaKeys, _ | .associating, _ | .ending, _ | .idle, _ | .taking, _ => true

/-- A step of the worker copies some attributes. If the worker does not give up, it does not pass
one that is marked. -/
structure Copies (s : AssocSys) (req : AssocRequest) (t : AssocSys) : Prop where
  pending : t.priv.pendingAssocReq = s.priv.pendingAssocReq
  only : ∀ attr, t.priv.get attr = s.priv.get attr ∨ t.priv.get attr = req.get attr
  done : (t.worker = .ending → s.worker = .associating) → ∀ attr, t.worker.copied attr = true →
    s.worker.copied attr = true ∨ req.marked attr = false ∨ t.priv.get attr = req.get attr

section Steps

variable {s t : AssocSys} {req : AssocRequest} {answers : AssocAnswers}

/-- Nothing is copied at this place. -/
theorem Copies.none (pending : t.priv.pendingAssocReq = s.priv.pendingAssocReq)
    (get : t.priv.get = s.priv.get)
    (passed : (t.worker = .ending → s.worker = .associating) → ∀ attr,
      t.worker.copied attr = true → s.worker.copied attr = true ∨ req.marked attr = false) :
    Copies s req t :=
  { pending := pending
    only := fun attr => .inl (congrFun get attr)
    done := fun goes attr copied => (passed goes attr copied).imp_right .inl }

/-- The worker gives up. -/
theorem Copies.dropped (pending : t.priv.pendingAssocReq = s.priv.pendingAssocReq)
    (get : t.priv.get = s.priv.get) (ending : t.worker = .ending)
    (early : s.worker ≠ .associating) : Copies s req t :=
  .none pending get fun goes => absurd (goes ending) early

/-- The worker is not past any place where it copies. -/
theorem Copies.early (pending : t.priv.pendingAssocReq = s.priv.pendingAssocReq)
    (get : t.priv.get = s.priv.get)
    (early : t.worker = .mode ∨ t.worker = .channel ∨ t.worker = .wepKeys ∨
      t.worker = .wepSent) : Copies s req t := by
  refine .none pending get fun _ attr copied => ?_
  rcases early with place | place | place | place <;> rw [place] at copied <;> cases attr <;>
    cases copied

/-- The worker is past all places where it copies. -/
theorem Copies.late (pending : t.priv.pendingAssocReq = s.priv.pendingAssocReq)
    (get : t.priv.get = s.priv.get)
    (late : s.worker = .wpaKeys ∨ s.worker = .associating ∨ s.worker = .ending) :
    Copies s req t := by
  refine .none pending get fun _ attr _ => .inl ?_
  rcases late with place | place | place <;> rw [place] <;> cases attr <;> rfl

theorem next_get (s : AssocSys) (req : AssocRequest) (pc : AssocPc) :
    (s.next req pc).priv.get = s.priv.get := by
  funext attr
  cases attr <;> rfl

/-- The element that is taken over is the one of the request. -/
theorem assocHelperWpaIe_get (priv : AssocPriv) (fits : req.Fits)
    (taken : (req.secinfo.wpaEnabled || req.secinfo.wpa2Enabled) = true ∨ req.wpaIeLen = 0)
    (attr : SecurityAttr) : (priv.assocHelperWpaIe req).get attr =
      if attr = .wpaIe then req.get attr else priv.get attr := by
  rw [AssocPriv.assocHelperWpaIe]
  cases attr with
  | wepKeys => split <;> rfl
  | wepTxKeyidx => split <;> rfl
  | secinfo => split <;> rfl
  | wpaIe =>
      rw [if_pos rfl]
      split
      · exact Prod.ext (List.take_left' fits) rfl
      · rename_i off
        rcases taken with on | empty
        · exact absurd on off
        · show (_, _) = (_, _)
          rw [empty]
          rfl

/-- What the worker copies. -/
theorem workerStep_copies (busy : s.worker ≠ .idle ∧ s.worker ≠ .taking) (fits : req.Fits)
    (taken : s.worker = .wpaIe → req.flags.wpaIe = true →
      (req.secinfo.wpaEnabled || req.secinfo.wpa2Enabled) = true ∨ req.wpaIeLen = 0) :
    Copies s req (s.workerStep req answers) := by
  unfold AssocSys.workerStep
  cases place : s.worker with
  | idle => exact absurd place busy.1
  | taking => exact absurd place busy.2
  | finding =>
      dsimp only
      split
      · split
        · exact .dropped rfl (next_get _ _ _) rfl (by rw [place]; nofun)
        · exact .early rfl (next_get _ _ _) (.inl rfl)
      · exact .early rfl (next_get _ _ _) (.inl rfl)
  | mode =>
      dsimp only
      split
      · have get : ({ s.priv with mode := req.mode } : AssocPriv).get = s.priv.get := by
          funext attr
          cases attr <;> rfl
        cases answers.ok with
        | true => exact .early rfl ((next_get _ _ _).trans get) (.inr (.inl rfl))
        | false => exact .dropped rfl ((next_get _ _ _).trans get) rfl (by rw [place]; nofun)
      · exact .early rfl (next_get _ _ _) (.inr (.inl rfl))
  | channel =>
      dsimp only
      split
      · obtain ⟨curbssparams, accesses, same, _⟩ :=
          assocHelperChannel_only s.priv req answers.channel
        rw [same]
        have get : ({ s.priv with curbssparams := curbssparams, keyAccesses := accesses } :
            AssocPriv).get = s.priv.get := by
          funext attr
          cases attr <;> rfl
        cases (s.priv.assocHelperChannel req answers.channel).1 with
        | true => exact .early rfl ((next_get _ _ _).trans get) (.inr (.inr (.inl rfl)))
        | false => exact .dropped rfl ((next_get _ _ _).trans get) rfl (by rw [place]; nofun)
      · exact .early rfl (next_get _ _ _) (.inr (.inr (.inl rfl)))
  | wepKeys =>
      have get : (s.priv.visit allKeys).get = s.priv.get := by
        funext attr
        cases attr <;> rfl
      dsimp only
      split
      · split
        · exact .dropped rfl ((next_get _ _ _).trans get) rfl (by rw [place]; nofun)
        · exact .early rfl ((next_get _ _ _).trans get) (.inr (.inr (.inr rfl)))
      · rename_i unset
        simp only [Bool.or_eq_true, not_or, Bool.not_eq_true] at unset
        refine .none rfl (next_get _ _ _) fun _ attr copied => .inr ?_
        cases attr with
        | wepKeys => exact unset.1
        | wepTxKeyidx => exact unset.2
        | secinfo => cases copied
        | wpaIe => cases copied
  | wepSent =>
      refine ⟨rfl, fun attr => ?_, fun _ attr copied => ?_⟩
      · cases attr with
        | wepKeys => exact .inr rfl
        | wepTxKeyidx => exact .inr rfl
        | secinfo => exact .inl rfl
        | wpaIe => exact .inl rfl
      · cases attr with
        | wepKeys => exact .inr (.inr rfl)
        | wepTxKeyidx => exact .inr (.inr rfl)
        | secinfo => cases copied
        | wpaIe => cases copied
  | secinfo =>
      dsimp only
      split
      · refine ⟨rfl, fun attr => ?_, fun _ attr copied => ?_⟩
        · cases attr with
          | wepKeys => exact .inl rfl
          | wepTxKeyidx => exact .inl rfl
          | secinfo => exact .inr rfl
          | wpaIe => exact .inl rfl
        · cases attr with
          | wepKeys => exact .inl (by rw [place]; rfl)
          | wepTxKeyidx => exact .inl (by rw [place]; rfl)
          | secinfo => exact .inr (.inr rfl)
          | wpaIe => cases copied
      · rename_i unset
        refine .none rfl (next_get _ _ _) fun _ attr copied => ?_
        cases attr with
        | wepKeys => exact .inl (by rw [place]; rfl)
        | wepTxKeyidx => exact .inl (by rw [place]; rfl)
        | secinfo => exact .inr (Bool.eq_false_iff.mpr unset)
        | wpaIe => cases copied
  | rsn =>
      cases answers.ok with
      | true =>
          refine .none rfl (next_get _ _ _) fun _ attr copied => .inl ?_
          rw [place]
          cases attr with
          | wepKeys => rfl
          | wepTxKeyidx => rfl
          | secinfo => rfl
          | wpaIe => cases copied
      | false => exact .dropped rfl (next_get _ _ _) rfl (by rw [place]; nofun)
  | wpaIe =>
      dsimp only
      split
      · rename_i set
        have helped := assocHelperWpaIe_get s.priv fits (taken place set)
        have pending : (s.priv.assocHelperWpaIe req).pendingAssocReq = s.priv.pendingAssocReq := by
          rw [AssocPriv.assocHelperWpaIe]
          split <;> rfl
        refine ⟨pending, fun attr => ?_, fun _ attr _ => ?_⟩
        · rw [next_get]
          rcases eq_or_ne attr .wpaIe with rfl | other
          · exact .inr ((helped _).trans (if_pos rfl))
          · exact .inl ((helped _).trans (if_neg other))
        · rw [next_get, place]
          rcases eq_or_ne attr .wpaIe with rfl | other
          · exact .inr (.inr ((helped _).trans (if_pos rfl)))
          · cases attr with
            | wepKeys => exact .inl rfl
            | wepTxKeyidx => exact .inl rfl
            | secinfo => exact .inl rfl
            | wpaIe => exact absurd rfl other
      · rename_i unset
        refine .none rfl (next_get _ _ _) fun _ attr _ => ?_
        rw [place]
        cases attr with
        | wepKeys => exact .inl rfl
        | wepTxKeyidx => exact .inl rfl
        | secinfo => exact .inl rfl
        | wpaIe => exact .inr (Bool.eq_false_iff.mpr unset)
  | wpaKeys =>
      dsimp only
      split
      · split <;> exact .late rfl (next_get _ _ _) (.inl place)
      · exact .late rfl (next_get _ _ _) (.inl place)
  | associating =>
      dsimp only
      split <;> exact .late rfl (next_get _ _ _) (.inr (.inl place))
  | ending =>
      refine .late rfl ?_ (.inr (.inr place))
      funext attr
      cases attr <;> rfl

end Steps

/-- A step of the system, as the record sees it. -/
inductive WatchStep (w : Watched) (action : AssocAction) (w' : Watched) : Prop
  | call (alloc : Bool) (call : SetterCall) (is_call : action = .call alloc call)
      (result : w' = { w with
        sys := { w.sys with priv := (w.sys.priv.call alloc call).2 }
        wanted := w.heed alloc call })
  | take (taking : w.sys.worker = .taking)
      (result : w' = { sys := w.sys.take, wanted := w.wanted.handed, taken := w.wanted })
  | work (answers : AssocAnswers) (req : AssocRequest) (is_worker : action = .worker answers)
      (inProgress : w.sys.priv.inProgressAssocReq = some req)
      (busy : w.sys.worker ≠ .idle ∧ w.sys.worker ≠ .taking)
      (stepped : w.sys.step (.worker answers) = some (w.sys.workerStep req answers))
      (result : w' = { w with sys := w.sys.workerStep req answers })
  | aside (t : AssocSys) (result : w' = { w with sys := t }) (kept : Aside w.sys t)

section Watch

variable {w w' : Watched} {s t : AssocSys} {action : AssocAction}

theorem aside_of_visit {priv : AssocPriv} {accesses : List Nat}
    (visited : priv = s.priv.visit accesses) : Aside s { s with priv := priv } := by
  subst visited
  exact ⟨funext fun attr => by cases attr <;> rfl, rfl, rfl, rfl, rfl, .inl rfl⟩

theorem watchStep (stepped : w.step action = some w') : WatchStep w action w' := by
  obtain ⟨t, moved, rfl⟩ := Option.map_eq_some_iff.mp stepped
  cases action with
  | call alloc call =>
      cases moved
      exact .call alloc call rfl rfl
  | getEncode beyond length flags =>
      cases moved
      exact .aside _ rfl (aside_of_visit rfl)
  | getEncodeext beyond length flags extFlags alg =>
      cases moved
      obtain ⟨accesses, same⟩ :=
        w.sys.priv.lbsGetEncodeext_visits beyond length flags extFlags alg
      exact .aside _ rfl (aside_of_visit same)
  | remove =>
      cases moved
      exact .aside _ rfl ⟨funext fun attr => by cases attr <;> rfl, rfl, rfl, rfl, rfl, .inl rfl⟩
  | link curbssparams mode =>
      cases moved
      exact .aside _ rfl ⟨funext fun attr => by cases attr <;> rfl, rfl, rfl, rfl, rfl, .inl rfl⟩
  | regulate tables =>
      cases moved
      exact .aside _ rfl ⟨funext fun attr => by cases attr <;> rfl, rfl, rfl, rfl, rfl, .inl rfl⟩
  | timer =>
      simp only [AssocSys.step] at moved
      split at moved <;> cases moved
      exact .aside _ rfl ⟨funext fun attr => by cases attr <;> rfl, rfl, rfl, rfl, rfl, .inl rfl⟩
  | work =>
      simp only [AssocSys.step] at moved
      split at moved <;> cases moved
      rename_i idle _
      exact .aside _ rfl ⟨funext fun attr => by cases attr <;> rfl, rfl, rfl, rfl, rfl,
        .inr ⟨idle, rfl⟩⟩
  | worker answers =>
      have same := moved
      simp only [AssocSys.step] at moved
      split at moved
      · cases moved
      · rename_i taking
        cases moved
        exact .take taking (if_pos taking)
      · rename_i req inProgress idle taking
        cases moved
        exact .work answers req rfl inProgress ⟨idle, taking⟩ same (if_neg taking)
      · cases moved

end Watch

/-- The attribute is copied, or there is nothing to copy. -/
def AssocSys.Applied (s : AssocSys) (attr : SecurityAttr) : Prop :=
  s.worker.copied attr = true ∨
    ∃ req, s.priv.inProgressAssocReq = some req ∧ req.marked attr = false

/-- What the driver knows about keys and security is what is wanted. The request in progress
has what was wanted when it was taken, and the private structure has it as far as it is copied. -/
structure Secured (w : Watched) : Prop where
  wantedFits : w.wanted.Fits
  takenFits : w.taken.Fits
  pending : ∀ req, w.sys.priv.pendingAssocReq = some req → req.get = w.wanted.get
  unmarked : ∀ attr, (w.sys.priv.pendingAssocReq.getD .zero).marked attr = false →
    w.wanted.get attr = w.taken.get attr
  inProgress : ∀ req, w.sys.priv.inProgressAssocReq = some req → req.get = w.taken.get
  stored : ∀ attr, w.sys.Applied attr → w.sys.priv.get attr = w.taken.get attr
  resting : w.sys.priv.inProgressAssocReq = none →
    w.sys.worker = .idle ∨ w.sys.worker = .taking

section Secured

variable {w : Watched} {t : AssocSys} {alloc : Bool} {call : SetterCall}

/-- A setter starts from what is wanted. -/
theorem secured_draft (secured : Secured w) (steady : ∀ attr, w.sys.Steady attr) :
    w.sys.priv.draft.get = w.wanted.get := by
  funext attr
  rw [AssocPriv.draft]
  rw [refresh_get]
  split
  · rename_i marked
    cases pending : w.sys.priv.pendingAssocReq with
    | none =>
        rw [pending] at marked
        exact absurd (zero_marked attr) (Bool.not_eq_false _ ▸ marked)
    | some req => exact congrFun (secured.pending req pending) attr
  · rename_i unmarked
    rw [Bool.not_eq_true] at unmarked
    rw [secured.unmarked attr unmarked]
    -- The private structure has the attribute already, or the request in progress has the same.
    cases inProgress : w.sys.priv.inProgressAssocReq with
    | none =>
        refine secured.stored attr (.inl ?_)
        rcases secured.resting inProgress with place | place <;> rw [place] <;> cases attr <;> rfl
    | some req =>
        rcases steady attr with marked | same
        · rw [unmarked] at marked
          cases marked
        · rw [same req inProgress]
          exact congrFun (secured.inProgress req inProgress) attr

theorem secured_call (secured : Secured w) (success : (w.sys.priv.call alloc call).1 = 0)
    (wellFormed : call.wellFormed) (steady : ∀ attr, w.sys.Steady attr) :
    Secured { w with
      sys := { w.sys with priv := (w.sys.priv.call alloc call).2 }
      wanted := w.heed alloc call } := by
  obtain ⟨ret, work, accesses, after⟩ := call_success success
  have heed : w.heed alloc call =
      (call.setting w.sys.priv.tables (w.wanted.current w.sys.priv)).req := if_pos success
  have drafted := secured_draft secured steady
  obtain ⟨sameRet, sameGet⟩ := setting_agrees w.sys.priv.tables wellFormed
    (drafted.trans (current_get w.wanted w.sys.priv).symm)
  have marks := setting_marks wellFormed ret
  rw [heed, after]
  constructor
  case wantedFits =>
    apply setting_fits wellFormed (sameRet.symm.trans ret)
    exact fits_of_get (congrFun (current_get _ _) _) secured.wantedFits
  case takenFits => exact secured.takenFits
  case pending =>
    rintro req ⟨⟩
    exact sameGet ret
  case unmarked =>
    intro attr unmarked
    obtain ⟨before, same⟩ := marks attr unmarked
    rw [← sameGet ret, same, drafted]
    exact secured.unmarked attr before
  case inProgress => exact secured.inProgress
  case stored =>
    intro attr applied
    rw [← secured.stored attr applied]
    cases attr <;> rfl
  case resting => exact secured.resting

theorem secured_take (secured : Secured w) (taking : w.sys.worker = .taking) :
    Secured { sys := w.sys.take, wanted := w.wanted.handed, taken := w.wanted } := by
  have stored : ∀ attr, w.sys.priv.get attr = w.taken.get attr := by
    intro attr
    refine secured.stored attr (.inl ?_)
    rw [taking]
    cases attr <;> rfl
  have get : w.sys.take.priv.get = w.sys.priv.get := by
    funext attr
    cases attr <;> rfl
  constructor
  case wantedFits => exact secured.wantedFits
  case takenFits => exact secured.wantedFits
  case pending => rintro req ⟨⟩
  case unmarked => exact fun attr _ => congrFun (handed_get w.wanted) attr
  case inProgress => exact secured.pending
  case stored =>
    intro attr applied
    rw [get, stored]
    refine (secured.unmarked attr ?_).symm
    cases pending : w.sys.priv.pendingAssocReq with
    | none => exact zero_marked attr
    | some req =>
        rcases applied with copied | ⟨_, same, unmarked⟩
        · have place : w.sys.take.worker = .finding := by
            rw [AssocSys.take]
            rw [pending]
            rfl
          rw [place] at copied
          cases attr <;> cases copied
        · obtain rfl := Option.some.inj (same.symm.trans pending)
          exact unmarked
  case resting =>
    intro missing
    left
    rw [AssocSys.take]
    rw [show w.sys.priv.pendingAssocReq = none from missing]
    rfl

theorem secured_work {answers : AssocAnswers} {req : AssocRequest} (secured : Secured w)
    (inProgress : w.sys.priv.inProgressAssocReq = some req)
    (busy : w.sys.worker ≠ .idle ∧ w.sys.worker ≠ .taking)
    (stepped : w.sys.step (.worker answers) = some (w.sys.workerStep req answers))
    (completes : w.sys.Completes answers) :
    Secured { w with sys := w.sys.workerStep req answers } := by
  have held := secured.inProgress req inProgress
  have copies : Copies w.sys req (w.sys.workerStep req answers) :=
    workerStep_copies busy (fits_of_get (congrFun held _) secured.takenFits)
      fun place set => completes.2 place req inProgress set
  have goes := completes.1 _ stepped
  have kept : ∀ attr, w.sys.Applied attr →
      (w.sys.workerStep req answers).priv.get attr = w.taken.get attr := by
    intro attr applied
    rcases copies.only attr with same | same
    · rw [same]
      exact secured.stored attr applied
    · rw [same, held]
  constructor
  case wantedFits => exact secured.wantedFits
  case takenFits => exact secured.takenFits
  case pending => exact copies.pending ▸ secured.pending
  case unmarked => exact copies.pending ▸ secured.unmarked
  case inProgress =>
    intro req' found
    cases workerStep_carries req answers busy with
    | ended _ left _ =>
        rw [left] at found
        cases found
    | goes _ carried inProgress' _ =>
        obtain rfl := Option.some.inj (inProgress'.symm.trans found)
        exact carried.get.trans held
  case stored =>
    rintro attr (copied | ⟨req', found, unmarked⟩)
    · rcases copies.done goes attr copied with before | unmarked | same
      · exact kept attr (.inl before)
      · exact kept attr (.inr ⟨req, inProgress, unmarked⟩)
      · rw [same, held]
    · cases workerStep_carries req answers busy with
      | ended _ left _ =>
          rw [left] at found
          cases found
      | goes _ carried inProgress' _ =>
          obtain rfl := Option.some.inj (inProgress'.symm.trans found)
          exact kept attr (.inr ⟨req, inProgress, carried.marked attr unmarked⟩)
  case resting =>
    intro missing
    cases workerStep_carries req answers busy with
    | ended _ _ idle => exact .inl idle
    | goes _ _ inProgress' _ =>
        rw [inProgress'] at missing
        cases missing

theorem secured_aside (secured : Secured w) (kept : Aside w.sys t) :
    Secured { w with sys := t } := by
  have copied : ∀ attr, t.worker.copied attr = w.sys.worker.copied attr := by
    intro attr
    rcases kept.next with same | ⟨idle, taking⟩
    · rw [same]
    · rw [idle, taking]
      cases attr <;> rfl
  constructor
  case wantedFits => exact secured.wantedFits
  case takenFits => exact secured.takenFits
  case pending => exact kept.pending ▸ secured.pending
  case unmarked => exact kept.pending ▸ secured.unmarked
  case inProgress => exact kept.inProgress ▸ secured.inProgress
  case stored =>
    intro attr applied
    rw [kept.get]
    apply secured.stored attr
    rw [AssocSys.Applied] at applied ⊢
    rw [← copied attr, ← kept.inProgress]
    exact applied
  case resting =>
    intro missing
    rw [kept.inProgress] at missing
    rcases kept.next with same | ⟨_, taking⟩
    · rw [same]
      exact secured.resting missing
    · exact .inr taking

theorem secured_init (tables : ChannelTables) : Secured (.init tables) := by
  constructor
  case wantedFits => rfl
  case takenFits => rfl
  case pending => rintro req ⟨⟩
  case unmarked => exact fun _ _ => rfl
  case inProgress => rintro req ⟨⟩
  case stored => exact fun attr _ => by cases attr <;> rfl
  case resting => exact fun _ => .inl rfl

end Secured

/-- The worker has not sent the WPA keys of its request yet. -/
def AssocPc.beforeWpaKeys : AssocPc → Bool
  | .finding | .mode | .channel | .wepKeys | .wepSent | .secinfo | .rsn | .wpaIe | .wpaKeys => true
  | .idle | .taking | .associating | .ending => false

/-- What a step of the worker sends to the firmware, and the WEP keys that it copies. -/
structure Sends (s : AssocSys) (req : AssocRequest) (t : AssocSys) : Prop where
  wepSent : t.worker = .wepSent → t.card.wep = some (req.wepKeys, req.wepTxKeyidx)
  wepCopied : s.worker = .wepSent → t.worker ≠ .wepSent ∧ t.card.wep = s.card.wep ∧
    t.priv.wepKeys = req.wepKeys ∧ t.priv.wepTxKeyidx = req.wepTxKeyidx
  wepKept : s.worker ≠ .wepSent → t.worker ≠ .wepSent → t.card.wep = s.card.wep ∧
    t.priv.wepKeys = s.priv.wepKeys ∧ t.priv.wepTxKeyidx = s.priv.wepTxKeyidx
  wpaSent : s.worker = .wpaKeys → (t.worker = .ending → s.worker = .associating) →
    t.worker.beforeWpaKeys = false ∧
      ∀ attr, t.card.wpaKey attr = (req.wpaKey attr).or (s.card.wpaKey attr)
  wpaKept : s.worker ≠ .wpaKeys → (t.worker = .ending → s.worker = .associating) →
    t.worker.beforeWpaKeys = s.worker.beforeWpaKeys ∧ t.card.wpaKey = s.card.wpaKey

section Sending

variable {s t : AssocSys} {req : AssocRequest} {answers : AssocAnswers}

/-- Nothing is sent or copied at this place. -/
theorem Sends.quiet {pc : AssocPc} (place : s.worker = pc) (pc' : AssocPc)
    (next : t.worker = pc') (card : t.card = s.card)
    (keys : t.priv.wepKeys = s.priv.wepKeys) (index : t.priv.wepTxKeyidx = s.priv.wepTxKeyidx)
    (apart : pc ≠ .wepSent ∧ pc ≠ .wpaKeys ∧ pc' ≠ .wepSent ∧
      pc'.beforeWpaKeys = pc.beforeWpaKeys) : Sends s req t := by
  subst place next
  obtain ⟨notSent, notWpa, next, same⟩ := apart
  exact
    { wepSent := fun sent => absurd sent next
      wepCopied := fun sent => absurd sent notSent
      wepKept := fun _ _ => ⟨by rw [card], keys, index⟩
      wpaSent := fun sent => absurd sent notWpa
      wpaKept := fun _ _ => ⟨same, by rw [card]⟩ }

/-- The worker gives up, and has sent nothing. -/
theorem Sends.dropped {pc : AssocPc} (place : s.worker = pc) (ending : t.worker = .ending)
    (card : t.card = s.card) (keys : t.priv.wepKeys = s.priv.wepKeys)
    (index : t.priv.wepTxKeyidx = s.priv.wepTxKeyidx)
    (apart : pc ≠ .wepSent ∧ pc ≠ .associating) : Sends s req t := by
  subst place
  exact
    { wepSent := fun sent => by rw [ending] at sent; cases sent
      wepCopied := fun sent => absurd sent apart.1
      wepKept := fun _ _ => ⟨by rw [card], keys, index⟩
      wpaSent := fun _ goes => absurd (goes ending) apart.2
      wpaKept := fun _ goes => absurd (goes ending) apart.2 }

theorem sendWpaKeys_wpaKey (card : CardKeys) (req : AssocRequest) (attr : WpaKeyAttr) :
    (AssocSys.sendWpaKeys card req).wpaKey attr = (req.wpaKey attr).or (card.wpaKey attr) := by
  rw [AssocSys.sendWpaKeys]
  cases attr with
  | wpaMcastKey =>
      dsimp only [CardKeys.wpaKey, AssocRequest.wpaKey]
      split <;> rfl
  | wpaUnicastKey =>
      dsimp only [CardKeys.wpaKey, AssocRequest.wpaKey]
      split <;> rfl

theorem workerStep_sends (busy : s.worker ≠ .idle ∧ s.worker ≠ .taking) :
    Sends s req (s.workerStep req answers) := by
  rw [AssocSys.workerStep]
  cases place : s.worker with
  | idle => exact absurd place busy.1
  | taking => exact absurd place busy.2
  | finding =>
      dsimp only
      split
      · split
        · exact .dropped place rfl rfl rfl rfl (by decide)
        · exact .quiet place .mode rfl rfl rfl rfl (by decide)
      · exact .quiet place .mode rfl rfl rfl rfl (by decide)
  | mode =>
      dsimp only
      split
      · cases answers.ok with
        | true => exact .quiet place .channel rfl rfl rfl rfl (by decide)
        | false => exact .dropped place rfl rfl rfl rfl (by decide)
      · exact .quiet place .channel rfl rfl rfl rfl (by decide)
  | channel =>
      dsimp only
      split
      · obtain ⟨curbssparams, accesses, same, _⟩ :=
          assocHelperChannel_only s.priv req answers.channel
        rw [same]
        cases (s.priv.assocHelperChannel req answers.channel).1 with
        | true => exact .quiet place .wepKeys rfl rfl rfl rfl (by decide)
        | false => exact .dropped place rfl rfl rfl rfl (by decide)
      · exact .quiet place .wepKeys rfl rfl rfl rfl (by decide)
  | wepKeys =>
      dsimp only
      split
      · split
        · exact .dropped place rfl rfl rfl rfl (by decide)
        · constructor
          case wepSent => exact fun _ => rfl
          case wepCopied => exact fun sent => absurd (place.symm.trans sent) (by simp)
          case wepKept => exact fun _ other => absurd rfl other
          case wpaSent => exact fun sent => absurd (place.symm.trans sent) (by simp)
          case wpaKept => exact fun _ _ => ⟨by rw [place]; rfl, rfl⟩
      · exact .quiet place .secinfo rfl rfl rfl rfl (by decide)
  | wepSent =>
      constructor
      case wepSent => simp
      case wepCopied => exact fun _ => ⟨by simp, rfl, rfl, rfl⟩
      case wepKept => exact fun other => absurd place other
      case wpaSent => exact fun sent => absurd (place.symm.trans sent) (by simp)
      case wpaKept => exact fun _ _ => ⟨by rw [place]; rfl, rfl⟩
  | secinfo =>
      dsimp only
      split
      · exact .quiet place .rsn rfl rfl rfl rfl (by decide)
      · exact .quiet place .wpaIe rfl rfl rfl rfl (by decide)
  | rsn =>
      cases answers.ok with
      | true => exact .quiet place .wpaIe rfl rfl rfl rfl (by decide)
      | false => exact .dropped place rfl rfl rfl rfl (by decide)
  | wpaIe =>
      have helped : (s.priv.assocHelperWpaIe req).wepKeys = s.priv.wepKeys ∧
          (s.priv.assocHelperWpaIe req).wepTxKeyidx = s.priv.wepTxKeyidx := by
        rw [AssocPriv.assocHelperWpaIe]
        split <;> exact ⟨rfl, rfl⟩
      dsimp only
      split
      · exact .quiet place .wpaKeys rfl rfl helped.1 helped.2 (by decide)
      · exact .quiet place .wpaKeys rfl rfl rfl rfl (by decide)
  | wpaKeys =>
      dsimp only
      split
      · split
        · constructor
          case wepSent => simp
          case wepCopied => exact fun sent => absurd (place.symm.trans sent) (by simp)
          case wepKept => exact fun _ _ => ⟨rfl, rfl, rfl⟩
          case wpaSent => exact fun _ _ => ⟨rfl, sendWpaKeys_wpaKey s.card req⟩
          case wpaKept => exact fun other => absurd place other
        · exact .dropped place rfl rfl rfl rfl (by decide)
      · rename_i unset
        simp only [Bool.or_eq_true, not_or, Bool.not_eq_true] at unset
        constructor
        case wepSent => simp
        case wepCopied => exact fun sent => absurd (place.symm.trans sent) (by simp)
        case wepKept => exact fun _ _ => ⟨rfl, rfl, rfl⟩
        case wpaSent =>
          refine fun _ _ => ⟨rfl, fun attr => ?_⟩
          cases attr with
          | wpaMcastKey =>
              simp only [AssocRequest.wpaKey, unset.1]
              rfl
          | wpaUnicastKey =>
              simp only [AssocRequest.wpaKey, unset.2]
              rfl
        case wpaKept => exact fun other => absurd place other
  | associating =>
      dsimp only
      split
      · exact .quiet place .ending rfl rfl rfl rfl (by decide)
      · exact .quiet place .ending rfl rfl rfl rfl (by decide)
  | ending => exact .quiet place .idle rfl rfl rfl rfl (by decide)

end Sending

/-- A WPA key that the worker is going to send. -/
def AssocSys.unsent (s : AssocSys) (attr : WpaKeyAttr) : Option EncKey :=
  if s.worker.beforeWpaKeys then s.priv.inProgressAssocReq.bind (·.wpaKey attr) else none

/-- The firmware has the WEP keys of the private structure, or those that are going to be copied
to it, and it has or gets the WPA keys that are wanted. -/
structure Keyed (w : Watched) : Prop where
  wep : w.sys.worker ≠ .wepSent → w.sys.card.wep.getD (Vector.replicate 4 .zero, 0) =
    (w.sys.priv.wepKeys, w.sys.priv.wepTxKeyidx)
  wepSent : w.sys.worker = .wepSent → ∀ req, w.sys.priv.inProgressAssocReq = some req →
    w.sys.card.wep = some (req.wepKeys, req.wepTxKeyidx)
  wanted : ∀ attr, w.wanted.wpaKey attr =
    ((w.sys.priv.pendingAssocReq.getD .zero).wpaKey attr).or (w.taken.wpaKey attr)
  taken : ∀ attr, w.taken.wpaKey attr = (w.sys.unsent attr).or (w.sys.card.wpaKey attr)

section Keyed

variable {w : Watched} {t : AssocSys} {alloc : Bool} {call : SetterCall}

theorem keyed_call (keyed : Keyed w) (success : (w.sys.priv.call alloc call).1 = 0) :
    Keyed { w with
      sys := { w.sys with priv := (w.sys.priv.call alloc call).2 }
      wanted := w.heed alloc call } := by
  obtain ⟨_, work, accesses, after⟩ := call_success success
  have heed : w.heed alloc call =
      (call.setting w.sys.priv.tables (w.wanted.current w.sys.priv)).req := if_pos success
  rw [heed, after]
  refine ⟨keyed.wep, keyed.wepSent, fun attr => ?_, keyed.taken⟩
  obtain ⟨key, set⟩ := setting_wpaKey w.sys.priv.tables call attr
  show _ = ((call.setting w.sys.priv.tables w.sys.priv.draft).req.wpaKey attr).or _
  rw [set, set, current_wpaKey, keyed.wanted, Option.or_assoc]
  rw [AssocPriv.draft]
  rw [refresh_wpaKey]

theorem keyed_take (keyed : Keyed w) (taking : w.sys.worker = .taking) :
    Keyed { sys := w.sys.take, wanted := w.wanted.handed, taken := w.wanted } := by
  have sent : ∀ attr, w.sys.unsent attr = none := by
    intro attr
    rw [AssocSys.unsent]
    rw [taking]
    rfl
  have next : w.sys.take.worker ≠ .wepSent := by
    rw [AssocSys.take]
    dsimp only
    split <;> nofun
  refine ⟨fun _ => keyed.wep (by rw [taking]; nofun), fun place => absurd place next,
    fun attr => ?_, fun attr => ?_⟩
  · show w.wanted.handed.wpaKey attr = (AssocRequest.zero.wpaKey attr).or (w.wanted.wpaKey attr)
    rw [handed_wpaKey, zero_wpaKey]
    rfl
  · show w.wanted.wpaKey attr = (w.sys.take.unsent attr).or (w.sys.card.wpaKey attr)
    rw [keyed.wanted, keyed.taken, sent]
    rw [AssocSys.unsent, AssocSys.take]
    cases w.sys.priv.pendingAssocReq with
    | none =>
        show ((AssocRequest.zero.wpaKey attr).or _) = _
        rw [zero_wpaKey]
        rfl
    | some req => rfl

theorem keyed_work {answers : AssocAnswers} {req : AssocRequest} (keyed : Keyed w)
    (inProgress : w.sys.priv.inProgressAssocReq = some req)
    (busy : w.sys.worker ≠ .idle ∧ w.sys.worker ≠ .taking)
    (pending : (w.sys.workerStep req answers).priv.pendingAssocReq =
      w.sys.priv.pendingAssocReq)
    (goes : (w.sys.workerStep req answers).worker = .ending → w.sys.worker = .associating) :
    Keyed { w with sys := w.sys.workerStep req answers } := by
  have sends : Sends w.sys req (w.sys.workerStep req answers) := workerStep_sends busy
  have unsent : ∀ attr, w.sys.unsent attr =
      if w.sys.worker.beforeWpaKeys then req.wpaKey attr else none := by
    intro attr
    rw [AssocSys.unsent]
    rw [inProgress]
    rfl
  have unsent' : ∀ attr, (w.sys.workerStep req answers).unsent attr =
      if (w.sys.workerStep req answers).worker.beforeWpaKeys then req.wpaKey attr else none := by
    intro attr
    rw [AssocSys.unsent]
    cases workerStep_carries req answers busy with
    | ended _ _ idle =>
        rw [idle]
        rfl
    | goes req' carried inProgress' _ =>
        rw [inProgress', ← carried.wpaKey]
        rfl
  constructor
  case wep =>
    intro next
    dsimp only at next ⊢
    by_cases sent : w.sys.worker = .wepSent
    · obtain ⟨_, card, keys, index⟩ := sends.wepCopied sent
      rw [card, keyed.wepSent sent req inProgress, keys, index]
      rfl
    · obtain ⟨card, keys, index⟩ := sends.wepKept sent next
      rw [card, keys, index]
      exact keyed.wep sent
  case wepSent =>
    intro next req' found
    dsimp only at next found ⊢
    rw [sends.wepSent next]
    cases workerStep_carries req answers busy with
    | ended _ left _ =>
        rw [left] at found
        cases found
    | goes _ carried inProgress' _ =>
        obtain rfl := Option.some.inj (inProgress'.symm.trans found)
        have keys : _ = req.wepKeys := congrFun carried.get .wepKeys
        have index : _ = req.wepTxKeyidx := congrFun carried.get .wepTxKeyidx
        rw [← keys, ← index]
        rfl
  case wanted =>
    dsimp only
    rw [pending]
    exact keyed.wanted
  case taken =>
    intro attr
    dsimp only
    rw [keyed.taken, unsent, unsent']
    by_cases place : w.sys.worker = .wpaKeys
    · obtain ⟨past, card⟩ := sends.wpaSent place goes
      rw [past, card, place]
      rfl
    · obtain ⟨same, card⟩ := sends.wpaKept place goes
      rw [same, card]

theorem keyed_aside (keyed : Keyed w) (kept : Aside w.sys t) : Keyed { w with sys := t } := by
  have keys : t.priv.wepKeys = w.sys.priv.wepKeys := congrFun kept.get .wepKeys
  have index : t.priv.wepTxKeyidx = w.sys.priv.wepTxKeyidx := congrFun kept.get .wepTxKeyidx
  have place : t.worker = .wepSent ↔ w.sys.worker = .wepSent := by
    rcases kept.next with same | ⟨idle, taking⟩
    · rw [same]
    · rw [idle, taking]
      exact iff_of_false nofun nofun
  have before : t.worker.beforeWpaKeys = w.sys.worker.beforeWpaKeys := by
    rcases kept.next with same | ⟨idle, taking⟩
    · rw [same]
    · rw [idle, taking]
      rfl
  constructor
  case wep =>
    intro next
    dsimp only at next ⊢
    rw [kept.card, keys, index]
    exact keyed.wep fun sent => next (place.mpr sent)
  case wepSent =>
    intro next
    dsimp only at next ⊢
    rw [kept.card, kept.inProgress]
    exact keyed.wepSent (place.mp next)
  case wanted => exact kept.pending ▸ keyed.wanted
  case taken =>
    intro attr
    have unsent : t.unsent attr = w.sys.unsent attr := by
      unfold AssocSys.unsent
      rw [before, kept.inProgress]
    dsimp only
    rw [unsent, kept.card]
    exact keyed.taken attr

theorem keyed_init (tables : ChannelTables) : Keyed (.init tables) := by
  refine ⟨fun _ => rfl, nofun, ?_, ?_⟩
  · intro attr
    cases attr <;> rfl
  · intro attr
    cases attr <;> rfl

end Keyed

/-- The request in progress goes for the network that was wanted, or for the best one. -/
structure Towards (wanted req : AssocRequest) : Prop where
  bssid : req.network .bssid = wanted.network .bssid
  channel : req.network .channel = wanted.network .channel
  ssid : req.network .ssid = wanted.network .ssid ∨ wanted.findAnySsid = true
  mode : req.network .mode = wanted.network .mode ∨
    wanted.findAnySsid = true ∧ wanted.mode = iwModeAuto

theorem Towards.of_eq {wanted req : AssocRequest} (same : req.network = wanted.network) :
    Towards wanted req :=
  ⟨by rw [same], by rw [same], .inl (by rw [same]), .inl (by rw [same])⟩

/-- The pending request asks for the network that is wanted. -/
structure Targeted (w : Watched) : Prop where
  asked : (w.sys.priv.pendingAssocReq.getD .zero).asked = w.wanted.asked
  pending : ∀ req, w.sys.priv.pendingAssocReq = some req → req.network = w.wanted.network
  finding : w.sys.worker = .finding → ∀ req, w.sys.priv.inProgressAssocReq = some req →
    req.network = w.taken.network ∧ req.asked = w.taken.asked
  inProgress : ∀ req, w.sys.priv.inProgressAssocReq = some req → Towards w.taken req

section Targeted

variable {w : Watched} {t : AssocSys} {alloc : Bool} {call : SetterCall} {req other : AssocRequest}

/-- Whether the best network is looked for depends on what is asked for. -/
theorem findAnySsid_congr (asked : req.asked = other.asked) :
    req.findAnySsid = other.findAnySsid := by
  have ssid : (if req.flags.ssid then some (req.ssid, req.ssidLen) else none) =
      if other.flags.ssid then some (other.ssid, other.ssidLen) else none :=
    congrFun asked .ssid
  have bssid : (if req.flags.bssid then some req.bssid else none) =
      if other.flags.bssid then some other.bssid else none :=
    congrFun asked .bssid
  have locked : req.lockedBssid = other.lockedBssid := by
    unfold AssocRequest.lockedBssid
    split_ifs at bssid with on on' off' <;> simp_all
  unfold AssocRequest.findAnySsid
  rw [locked]
  split_ifs at ssid with on on' off' <;> simp_all

theorem targeted_call (targeted : Targeted w) (success : (w.sys.priv.call alloc call).1 = 0) :
    Targeted { w with
      sys := { w.sys with priv := (w.sys.priv.call alloc call).2 }
      wanted := w.heed alloc call } := by
  obtain ⟨_, work, accesses, after⟩ := call_success success
  have heed : w.heed alloc call =
      (call.setting w.sys.priv.tables (w.wanted.current w.sys.priv)).req := if_pos success
  have network : w.sys.priv.draft.network = (w.wanted.current w.sys.priv).network := by
    funext attr
    rw [AssocPriv.draft]
    rw [refresh_network, current_network, targeted.asked]
  have asked : w.sys.priv.draft.asked = (w.wanted.current w.sys.priv).asked := by
    rw [AssocPriv.draft]
    rw [refresh_asked, current_asked, targeted.asked]
  obtain ⟨network, asked⟩ := setting_network w.sys.priv.tables call network asked
  rw [heed, after]
  refine ⟨asked, ?_, targeted.finding, targeted.inProgress⟩
  rintro req ⟨⟩
  exact network

theorem targeted_take (targeted : Targeted w) :
    Targeted { sys := w.sys.take, wanted := w.wanted.handed, taken := w.wanted } := by
  constructor
  case asked => exact zero_asked.trans (handed_asked w.wanted).symm
  case pending => rintro req ⟨⟩
  case finding =>
    intro _ req found
    have pending : w.sys.priv.pendingAssocReq = some req := found
    refine ⟨targeted.pending req pending, ?_⟩
    have asked := targeted.asked
    rw [pending] at asked
    exact asked
  case inProgress => exact fun req found => .of_eq (targeted.pending req found)

theorem targeted_work {answers : AssocAnswers} (targeted : Targeted w)
    (inProgress : w.sys.priv.inProgressAssocReq = some req)
    (busy : w.sys.worker ≠ .idle ∧ w.sys.worker ≠ .taking)
    (pending : (w.sys.workerStep req answers).priv.pendingAssocReq =
      w.sys.priv.pendingAssocReq) :
    Targeted { w with sys := w.sys.workerStep req answers } := by
  have towards := targeted.inProgress req inProgress
  constructor
  case asked => exact pending ▸ targeted.asked
  case pending => exact pending ▸ targeted.pending
  case finding =>
    intro place
    cases workerStep_carries req answers busy with
    | ended _ _ idle => exact absurd (idle.symm.trans place) nofun
    | goes _ _ _ next => exact absurd place next.1
  case inProgress =>
    intro req' found
    cases workerStep_carries req answers busy with
    | ended _ left _ =>
        dsimp only at found
        rw [left] at found
        cases found
    | goes _ carried inProgress' _ =>
        obtain rfl := Option.some.inj (inProgress'.symm.trans found)
        rcases carried.network with same | ⟨place, any, bssid, channel, mode⟩
        · exact ⟨by rw [same]; exact towards.bssid, by rw [same]; exact towards.channel,
            by rw [same]; exact towards.ssid, by rw [same]; exact towards.mode⟩
        · -- The best network is taken over.
          obtain ⟨network, asked⟩ := targeted.finding place req inProgress
          have any' : w.taken.findAnySsid = true := findAnySsid_congr asked ▸ any
          refine ⟨bssid.trans towards.bssid, channel.trans towards.channel, .inr any', ?_⟩
          have same : req.mode = w.taken.mode := congrFun network .mode
          by_cases automatic : req.mode = iwModeAuto
          · exact .inr ⟨any', same ▸ automatic⟩
          · exact .inl ((mode automatic).trans same)

theorem targeted_aside (targeted : Targeted w) (kept : Aside w.sys t) :
    Targeted { w with sys := t } := by
  constructor
  case asked => exact kept.pending ▸ targeted.asked
  case pending => exact kept.pending ▸ targeted.pending
  case finding =>
    intro place
    rcases kept.next with same | ⟨_, taking⟩
    · exact kept.inProgress ▸ targeted.finding (same ▸ place)
    · exact absurd (taking.symm.trans place) nofun
  case inProgress => exact kept.inProgress ▸ targeted.inProgress

theorem targeted_init (tables : ChannelTables) : Targeted (.init tables) := by
  refine ⟨rfl, ?_, nofun, ?_⟩
  · rintro req ⟨⟩
  · rintro req ⟨⟩

end Targeted

/-- What the driver holds is what is wanted. -/
structure Faithful (w : Watched) : Prop where
  secured : Secured w
  keyed : Keyed w
  targeted : Targeted w

theorem faithful_step {w w' : Watched} {action : AssocAction} (faithful : Faithful w)
    (orderly : Orderly w action) (stepped : watcher.step w action = some w') : Faithful w' := by
  obtain ⟨secured, keyed, targeted⟩ := faithful
  cases watchStep stepped with
  | call alloc call is_call result =>
      subst is_call result
      obtain ⟨success, wellFormed, steady⟩ := orderly
      exact ⟨secured_call secured success wellFormed steady, keyed_call keyed success,
        targeted_call targeted success⟩
  | take taking result =>
      subst result
      exact ⟨secured_take secured taking, keyed_take keyed taking, targeted_take targeted⟩
  | work answers req is_worker inProgress busy moved result =>
      subst is_worker result
      have copies : Copies w.sys req (w.sys.workerStep req answers) :=
        workerStep_copies busy
          (fits_of_get (congrFun (secured.inProgress req inProgress) _) secured.takenFits)
          fun place set => orderly.2 place req inProgress set
      exact ⟨secured_work secured inProgress busy moved orderly,
        keyed_work keyed inProgress busy copies.pending (orderly.1 _ moved),
        targeted_work targeted inProgress busy copies.pending⟩
  | aside t result kept =>
      subst result
      exact ⟨secured_aside secured kept, keyed_aside keyed kept, targeted_aside targeted kept⟩

theorem faithful_reached {w : Watched} (reached : watcher.ReachableUnder Orderly w) :
    Faithful w := by
  refine reached.invariant Faithful ?_ fun _ _ _ _ faithful orderly stepped =>
    faithful_step faithful orderly stepped
  rintro _ ⟨tables, rfl⟩
  exact ⟨secured_init tables, keyed_init tables, targeted_init tables⟩

theorem grown_ne {attempts : List Attempt} {attempt : Attempt} :
    attempts ≠ attempt :: attempts := by
  intro same
  exact absurd (congrArg List.length same) (by simp)

/-- An attempt is only made at the last place of the worker, with its request. -/
theorem attempt_made {s : AssocSys} {req : AssocRequest} {answers : AssocAnswers}
    {attempt : Attempt} (made : (s.workerStep req answers).attempts = attempt :: s.attempts) :
    s.worker = .associating ∧ attempt = { req := req, card := s.card } := by
  rw [AssocSys.workerStep] at made
  cases place : s.worker with
  | associating =>
      rw [place] at made
      dsimp only at made
      split at made
      · exact ⟨rfl, (List.cons.inj made).1.symm⟩
      · exact absurd made grown_ne
  | _ =>
      rw [place] at made
      dsimp only at made
      refine absurd ?_ (@grown_ne s.attempts attempt)
      revert made
      repeat' split
      all_goals exact id

/-- In an orderly run every association attempt uses what was wanted when its request was taken. -/
theorem attempts_use_latest {w w' : Watched} {action : AssocAction} {attempt : Attempt}
    (reached : watcher.ReachableUnder Orderly w) (stepped : watcher.step w action = some w')
    (made : w'.sys.attempts = attempt :: w.sys.attempts) :
    attempt.Uses w.sys.priv w.taken := by
  obtain ⟨secured, keyed, targeted⟩ := faithful_reached reached
  cases watchStep stepped with
  | call alloc call _ result =>
      subst result
      exact absurd made grown_ne
  | take _ result =>
      subst result
      exact absurd made grown_ne
  | aside t result kept =>
      subst result
      exact absurd (kept.attempts.symm.trans made) grown_ne
  | work answers req _ inProgress _ _ result =>
      subst result
      obtain ⟨place, rfl⟩ := attempt_made made
      have stored : w.sys.priv.get = w.taken.get := by
        funext attr
        refine secured.stored attr (.inl ?_)
        rw [place]
        cases attr <;> rfl
      have unsent : ∀ attr, w.sys.unsent attr = none := by
        intro attr
        rw [AssocSys.unsent]
        rw [place]
        rfl
      obtain ⟨bssid, channel, ssid, mode⟩ := targeted.inProgress req inProgress
      have keys : w.sys.priv.wepKeys = w.taken.wepKeys := congrFun stored .wepKeys
      have index : w.sys.priv.wepTxKeyidx = w.taken.wepTxKeyidx := congrFun stored .wepTxKeyidx
      exact
        { security := secured.inProgress req inProgress
          stored := stored
          wepKeys := by rw [keyed.wep (by rw [place]; nofun), keys, index]
          wpaKeys := funext fun attr => by rw [keyed.taken, unsent]; rfl
          bssid := bssid, channel := channel, ssid := ssid, mode := mode }

/-- The calls succeed. -/
def CallsSucceed (w : Watched) : AssocAction → Prop
  | .call alloc call => (w.sys.priv.call alloc call).1 = 0
  | _ => True

instance (w : Watched) : (action : AssocAction) → Decidable (CallsSucceed w action)
  | .call alloc call => inferInstanceAs (Decidable ((w.sys.priv.call alloc call).1 = 0))
  | .getEncode _ _ _ | .getEncodeext _ _ _ _ _ | .remove | .link _ _ | .regulate _ | .timer
  | .work | .worker _ => .isTrue trivial

/-- A run of allowed steps, and a step that makes an attempt with a property. -/
structure Attempted (allowed : Watched → AssocAction → Prop)
    [∀ w action, Decidable (allowed w action)] (actions : List AssocAction)
    (Good : Watched → Attempt → Prop) (w w' : Watched) (attempt : Attempt) : Prop where
  run : watcher.runUnder allowed (.init twoChannels) actions = some w
  step : ∃ action, watcher.step w action = some w'
  made : w'.sys.attempts = attempt :: w.sys.attempts
  good : Good w attempt

/-- The answers to commands that all succeed, or all fail. -/
def answersAll (ok : Bool) : AssocAnswers :=
  { ok := ok, best := none, channel := (none, none, none) }

/-- Some steps of the worker, whose commands all succeed or all fail. -/
def assocSteps (n : Nat) (ok : Bool) : List AssocAction :=
  List.replicate n (.worker (answersAll ok))

theorem attempted (allowed : Watched → AssocAction → Prop)
    [∀ w action, Decidable (allowed w action)] (actions : List AssocAction)
    (Good : Watched → Attempt → Prop) [∀ w attempt, Decidable (Good w attempt)]
    (holds : ((watcher.runUnder allowed (.init twoChannels) actions).bind fun w =>
      (watcher.step w (.worker (answersAll true))).bind fun w' =>
        w'.sys.attempts.head?.map fun attempt =>
          decide (w'.sys.attempts = attempt :: w.sys.attempts ∧ Good w attempt)) = some true) :
    ∃ w w' attempt, Attempted allowed actions Good w w' attempt := by
  obtain ⟨w, run, holds⟩ := Option.bind_eq_some_iff.mp holds
  obtain ⟨w', step, holds⟩ := Option.bind_eq_some_iff.mp holds
  obtain ⟨attempt, _, holds⟩ := Option.map_eq_some_iff.mp holds
  obtain ⟨made, good⟩ := of_decide_eq_true holds
  exact ⟨w, w', attempt, run, ⟨_, step⟩, made, good⟩

theorem Attempted.reached {allowed : Watched → AssocAction → Prop}
    [∀ w action, Decidable (allowed w action)] {actions : List AssocAction}
    {Good : Watched → Attempt → Prop} {w w' : Watched} {attempt : Attempt}
    (attempted : Attempted allowed actions Good w w' attempt) :
    watcher.ReachableUnder allowed w := by
  have start : watcher.initial (.init twoChannels) := ⟨twoChannels, rfl⟩
  exact Machine.ReachableUnder.run (.initial start) attempted.run

/-- An information element of four bytes. -/
def genieCall : SetterCall :=
  .genie { length := 4, flags := 0, extra := some [0x30, 2, 1, 0] }

/-- A key, WPA, an information element and an SSID are set, each while the worker is idle or has
copied all there is. -/
def orderlyActions : List AssocAction :=
  [.call true secondKeyCall, .timer, .work] ++ assocSteps 12 true ++
    [.call true (.auth 7 1), .call true genieCall, .timer, .work] ++ assocSteps 8 true ++
    [.call true essidCall] ++ assocSteps 3 true ++ [.timer, .work] ++ assocSteps 8 true

/-- An attempt with the settings of three requests. -/
theorem attempts_use_latest_three : ∃ (w : Watched) (attempt : Attempt),
    watcher.ReachableUnder Orderly w ∧
    (w.taken.wpaIeLen = 4 ∧ w.taken.wepKeys[1].len = 5 ∧ w.taken.ssidLen = 1) ∧
    attempt.Uses w.sys.priv w.taken := by
  obtain ⟨w, w', attempt, attempted⟩ := attempted Orderly orderlyActions
    (fun w _ => w.taken.wpaIeLen = 4 ∧ w.taken.wepKeys[1].len = 5 ∧ w.taken.ssidLen = 1)
    (by decide +kernel)
  obtain ⟨action, step⟩ := attempted.step
  exact ⟨w, attempt, attempted.reached, attempted.good,
    attempts_use_latest attempted.reached step attempted.made⟩

/-- WEP is switched off, and while this is applied open authentication and an SSID are asked
for. -/
def meanwhileActions : List AssocAction :=
  [.call true secondKeyCall, .timer, .work] ++ assocSteps 12 true ++
    [.call true (.encode { length := 0, flags := iwEncodeDisabled, extra := none }),
      .timer, .work] ++ assocSteps 1 true ++
    [.call true (.auth 6 1), .call true essidCall] ++ assocSteps 11 true ++ [.timer, .work] ++
    assocSteps 9 true

/-- An information element is applied before WPA is asked for. -/
def earlyElementActions : List AssocAction :=
  [.call true genieCall, .timer, .work] ++ assocSteps 10 true ++
    [.call true (.auth 7 1), .call true essidCall, .timer, .work] ++ assocSteps 9 true

/-- The command with a new WEP key fails. -/
def failedCommandActions : List AssocAction :=
  [.call true secondKeyCall, .timer, .work] ++ assocSteps 6 false ++
    [.call true essidCall, .timer, .work] ++ assocSteps 8 true

/-- An SSID is asked for, and then only a BSSID. -/
def bssidActions : List AssocAction :=
  [.call true essidCall, .timer, .work] ++ assocSteps 10 true ++
    [.call true (.wap true [1, 2, 3, 4, 5, 6]), .timer, .work] ++ assocSteps 8 true

/-- With successful calls alone, an attempt may use old security information, no information
element, an old key, or no SSID. -/
theorem attempts_miss_settings :
    (∃ w w' attempt, Attempted CallsSucceed meanwhileActions
      (fun w attempt => attempt.req.get .secinfo ≠ w.taken.get .secinfo) w w' attempt) ∧
    (∃ w w' attempt, Attempted CallsSucceed earlyElementActions
      (fun w attempt => attempt.req.get .wpaIe ≠ w.taken.get .wpaIe) w w' attempt) ∧
    (∃ w w' attempt, Attempted CallsSucceed failedCommandActions
      (fun w attempt => attempt.req.get .wepKeys ≠ w.taken.get .wepKeys) w w' attempt) ∧
    ∃ w w' attempt, Attempted CallsSucceed bssidActions
      (fun _ attempt => attempt.req.ssidLen = 0) w w' attempt :=
  ⟨attempted _ _ _ (by decide +kernel), attempted _ _ _ (by decide +kernel),
    attempted _ _ _ (by decide +kernel), attempted _ _ _ (by decide +kernel)⟩

end Libertas

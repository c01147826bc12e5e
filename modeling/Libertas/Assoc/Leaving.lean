import Libertas.Assoc.PassOrder

/-!
# Leaving a network before joining one

The worker decides early in a pass whether to leave the network the driver is in, and
much later whether to join one. In between it sleeps, and the request may change.
`left_before_joining` says of every pass that joins which networks were left before.
-/

namespace Libertas

open Procedure

namespace PassState

variable {w : Nat} (s : PassState w)

/-- The driver has to leave its network: always in infrastructure mode, and in ad-hoc mode if the
request has another SSID, mode or channel. -/
def MustLeave : Prop :=
  s.connectStatus = .connected ∧
    (s.mode = iwModeInfra ∨
      s.mode = iwModeAdhoc ∧
        (sameSsid s.curbssparams.ssid s.curbssparams.ssidLen s.req.ssid s.req.ssidLen = false ∨
          s.req.flags.mode = true ∧ s.req.mode ≠ iwModeAdhoc ∨
          s.req.flags.channel = true ∧ s.req.channel ≠ s.curbssparams.channel))

/-- The request asks for something that leads to an attempt. -/
def AsksToJoin : Prop :=
  s.req.flags.bssid = true ∨ s.req.flags.ssid = true ∨ s.req.flags.channel = true

variable {s}

theorem shouldStopAdhoc_iff (connected : s.connectStatus = .connected) :
    s.shouldStopAdhoc = true ↔
      sameSsid s.curbssparams.ssid s.curbssparams.ssidLen s.req.ssid s.req.ssidLen = false ∨
        s.req.flags.mode = true ∧ s.req.mode ≠ iwModeAdhoc ∨
        s.req.flags.channel = true ∧ s.req.channel ≠ s.curbssparams.channel := by
  rw [shouldStopAdhoc, if_neg (not_not.mpr connected)]
  cases sameSsid s.curbssparams.ssid s.curbssparams.ssidLen s.req.ssid s.req.ssidLen <;>
    cases s.req.flags.mode <;> cases s.req.flags.channel <;> simp

/-- A request that leads to an attempt leads away from an access point. -/
theorem shouldDeauth_of_asks (connected : s.connectStatus = .connected) (asks : s.AsksToJoin) :
    s.shouldDeauthInfrastructure = true := by
  rw [shouldDeauthInfrastructure, if_neg (not_not.mpr connected)]
  rcases asks with bssid | ssid | channel
  · simp only [bssid, if_true]
    split
    · rfl
    · split <;> rfl
  · rw [if_pos ssid]
  · simp only [channel, if_true]
    split
    · rfl
    · split
      · rfl
      · split <;> rfl

@[simp] theorem act_req (entry : PassEntry w) (event : LinkEvent) :
    (act entry s event).req = s.req := by
  cases event with
  | lost =>
      rw [act, disconnected]
      split <;> rfl
  | replied curcmd respcmd bssid =>
      rw [act, handle]
      split
      · split <;> rfl
      · rfl

@[simp] theorem resume_req (entry : PassEntry w) : (s.resume entry).req = s.req := by
  have folded : ∀ (events : List LinkEvent) (t : PassState w),
      (events.foldl (act entry) t).req = t.req := by
    intro events
    induction events with
    | nil => exact fun _ => rfl
    | cons event rest ih => exact fun t => (ih _).trans (act_req entry event)
  exact folded s.answer.link _

end PassState

namespace Pass

variable {w : Nat}

/-- A call leaves the request as it is. -/
theorem call_keeps (entry : PassEntry w) : Keeps PassState.req (call entry) :=
  fun _ => PassState.resume_req entry

theorem prepareAndSend_keeps (entry : PassEntry w) (built : Bool) :
    Keeps PassState.req (prepareAndSend entry built) :=
  .bind (call_keeps entry) fun _ => .pure _

theorem wrapper_keeps {α : Type} (run : CmdPriv → Answer w → CmdEnd α) :
    Keeps PassState.req (wrapper run) := by
  intro s
  rw [wrapper]
  cases sent : (run s.cmd s.answer).sent with
  | none => rfl
  | some req => exact PassState.resume_req (.call req)

theorem setMacControl_keeps : Keeps PassState.req (setMacControl : Pass w PUnit) :=
  .bind .get fun _ => .bind (call_keeps _) fun _ => .pure _

theorem leave_keeps : Keeps PassState.req (leave : Pass w PUnit) := by
  refine .bind .get fun s => .ite (fun _ => ?_) fun _ => .ite (fun _ => ?_) fun _ => .pure _
  · refine .ite (fun _ => .bind ?_ fun _ => .pure _) fun _ => .pure _
    exact .bind .get fun _ => prepareAndSend_keeps _ _
  · exact .ite (fun _ => .bind (prepareAndSend_keeps _ _) fun _ => .pure _) fun _ => .pure _

theorem assocHelperMode_keeps : Keeps PassState.req (assocHelperMode : Pass w Int) := by
  have wake : Keeps PassState.req (wakeCard : Pass w PUnit) :=
    .bind .get fun _ =>
      .ite (fun _ => .bind (prepareAndSend_keeps _ _) fun _ => .pure _) fun _ => .pure _
  have endPs : Keeps PassState.req (endPowerSaving : Pass w PUnit) :=
    .bind .get fun _ =>
      .ite (fun _ => .bind wake fun _ => .modify fun _ => rfl) fun _ => .pure _
  refine .bind .get fun s => .ite (fun _ => .pure _) fun _ => .bind endPs fun _ => ?_
  exact .bind (.modify fun _ => rfl) fun _ => prepareAndSend_keeps _ _

theorem updateChannel_keeps : Keeps PassState.req (updateChannel : Pass w Int) :=
  .bind (call_keeps _) fun _ => .bind .get fun _ =>
    .bind (.modify fun _ => rfl) fun _ => .pure _

theorem meshConfig_keeps (action : UInt16) (chan : UInt8) :
    Keeps PassState.req (meshConfig action chan : Pass w PUnit) := by
  refine .bind .get fun s => ?_
  cases s.mesh.config action chan s.answer.outcome with
  | nil => exact .pure _
  | cons req rest => exact .bind (call_keeps _) fun _ => .pure _

theorem assocHelperWepKeys_keeps : Keeps PassState.req (assocHelperWepKeys : Pass w Int) := by
  refine .bind .get fun s => .bind (wrapper_keeps _) fun out => .ite (fun _ => .pure _) fun _ => ?_
  refine .bind (.modify fun _ => rfl) fun _ => .bind setMacControl_keeps fun _ => ?_
  exact .bind (.modify fun _ => rfl) fun _ => .pure _

theorem assocHelperSecinfo_keeps : Keeps PassState.req (assocHelperSecinfo : Pass w Int) := by
  refine .bind (.modify fun _ => rfl) fun _ => .bind setMacControl_keeps fun _ => ?_
  refine .bind (wrapper_keeps _) fun out => .ite (fun _ => .pure _) fun _ => ?_
  refine .bind .get fun s => .ite (fun _ => .pure _) fun _ => ?_
  exact .bind (wrapper_keeps _) fun _ => .pure _

theorem assocHelperWpaKeys_keeps : Keeps PassState.req (assocHelperWpaKeys : Pass w Int) := by
  have key : ∀ choose flag, Keeps PassState.req (wanted flag (keyMaterial choose) : Pass w Int) :=
    fun choose flag => .bind .get fun s =>
      .ite (fun _ => .bind .get fun _ => .bind (wrapper_keeps _) fun _ => .pure _) fun _ => .pure _
  intro s
  refine Leads.stages (fun t : PassState w => t.req = s.req) (fun stage member => ?_) s rfl
  simp only [List.mem_cons, List.not_mem_nil, or_false] at member
  rcases member with rfl | rfl <;> exact .of_keeps (fun req => req = s.req) (key _ _)

/-- The channel of the request is noted at most once. -/
theorem assocHelperChannel_req (s : PassState w) :
    (assocHelperChannel s).state.req = s.req ∨
      (assocHelperChannel s).state.req = s.req.channelChanged := by
  have kept : ∀ {α : Type} {p : Pass w α}, Keeps PassState.req p →
      Leads (fun t => t.req = s.req) p fun t => t.req = s.req :=
    fun keeps => .of_keeps (fun req => req = s.req) keeps
  have weak : ∀ t : PassState w, t.req = s.req →
      t.req = s.req ∨ t.req = s.req.channelChanged := fun _ => .inl
  have note : Leads (fun t => t.req = s.req) (noteChannel : Pass w PUnit)
      fun t => t.req = s.req ∨ t.req = s.req.channelChanged :=
    .bind .get fun _ => .ite (fun _ => .modify fun t same => .inr (by rw [← same]))
      fun _ => .pure weak _
  refine (Leads.bind (kept updateChannel_keeps) fun _ => .ite (fun _ => .pure weak _) fun _ => ?_ :
    Leads (fun t => t.req = s.req) _ _) s rfl
  refine .bind .get fun _ => .ite (fun _ => .pure weak _) fun _ => ?_
  refine .bind (kept (meshConfig_keeps _ _)) fun _ => .bind (kept (wrapper_keeps _)) fun _ => ?_
  refine .bind (kept updateChannel_keeps) fun _ => .ite (fun _ => .pure weak _) fun _ => ?_
  refine .bind note fun _ => .bind .get fun _ => .bind ?_ fun _ => .pure (fun _ held => held) _
  exact .of_keeps (fun req => req = s.req ∨ req = s.req.channelChanged) (meshConfig_keeps _ _)

/-- The flags that decide about an attempt, compared with those of an earlier request. -/
structure FlagsFrom (old req : AssocRequest) : Prop where
  bssid : req.flags.bssid = old.flags.bssid
  channel : req.flags.channel = old.flags.channel
  ssid : req.flags.ssid = true → old.flags.ssid = true ∨ old.flags.channel = true

/-- The configuration sets no flag but that of the SSID, and this one for a change of the
channel. -/
theorem configuration_flags (s : PassState w) :
    FlagsFrom s.req (configuration s).state.req := by
  have kept : ∀ (flag : AssocFlags → Bool) {p : Pass w Int}, Keeps PassState.req p →
      Leads (fun t => FlagsFrom s.req t.req) (wanted flag p) fun t => FlagsFrom s.req t.req :=
    fun flag _ keeps => .bind .get fun _ =>
      .ite (fun _ => .of_keeps (FlagsFrom s.req) keeps) fun _ => .pure (fun _ held => held) _
  have channel : Leads (fun t => FlagsFrom s.req t.req)
      (wanted (·.channel) (assocHelperChannel : Pass w Int)) fun t => FlagsFrom s.req t.req := by
    intro t flags
    have evaluated : (wanted (·.channel) (assocHelperChannel : Pass w Int) t).state =
        if t.req.flags.channel then (assocHelperChannel t).state else t := by
      by_cases asked : t.req.flags.channel = true <;> simp [wanted, asked]
    rw [evaluated]
    split
    · rename_i asked
      rcases assocHelperChannel_req t with same | changed
      · rw [same]
        exact flags
      · rw [changed]
        exact ⟨flags.bssid, flags.channel, fun _ => .inr (flags.channel ▸ asked)⟩
    · exact flags
  have start : FlagsFrom s.req s.req := ⟨rfl, rfl, .inl⟩
  refine Leads.stages (fun t : PassState w => FlagsFrom s.req t.req)
    (fun stage member => ?_) s start
  simp only [List.mem_cons, List.not_mem_nil, or_false] at member
  rcases member with rfl | rfl | rfl | rfl | rfl | rfl
  · exact kept _ assocHelperMode_keeps
  · exact channel
  · exact kept _ assocHelperWepKeys_keeps
  · exact kept _ assocHelperSecinfo_keeps
  · exact kept _ (.bind (.modify fun _ => rfl) fun _ => .pure _)
  · exact kept _ assocHelperWpaKeys_keeps

/-- What an attempt writes shows that the request asked for one. -/
theorem asks_of_attempt {s : PassState w} {entry : PassEntry w}
    (member : entry ∈ (attempt s).journal) :
    s.req.flags.bssid = true ∨ s.req.flags.ssid = true := by
  by_contra none
  have empty : (attempt s).journal = [] := by
    simp [attempt, none]
  rw [empty] at member
  exact List.not_mem_nil member

/-- What is written when the network is left. -/
theorem leave_journal (s : PassState w) :
    (leave s).journal =
      if s.mode = iwModeInfra then
        if s.shouldDeauthInfrastructure then
          [.call (deauthenticateRequest s.curbssparams.bssid)]
        else []
      else if s.mode = iwModeAdhoc then
        if s.shouldStopAdhoc then [.call adHocStopRequest] else []
      else [] := by
  by_cases infra : s.mode = iwModeInfra
  · cases deauth : s.shouldDeauthInfrastructure <;>
      simp [leave, infra, deauth, lbsSendDeauthentication, prepareAndSend, call]
  · by_cases adhoc : s.mode = iwModeAdhoc
    · have other : ¬ iwModeAdhoc = iwModeInfra := by decide
      cases stop : s.shouldStopAdhoc <;>
        simp [leave, adhoc, other, stop, lbsStopAdhocNetwork, prepareAndSend, call]
    · simp [leave, infra, adhoc]

/-- The network is left exactly if it must be, when an attempt follows. -/
theorem leaves_iff {s : PassState w} (asks : s.AsksToJoin) :
    (∃ entry ∈ (leave s).journal, entry.Leaves) ↔ s.MustLeave := by
  have none : ¬ ∃ entry ∈ ([] : List (PassEntry w)), entry.Leaves := by
    rintro ⟨_, member, -⟩
    exact List.not_mem_nil member
  rw [leave_journal, PassState.MustLeave]
  by_cases connected : s.connectStatus = .connected
  · rw [PassState.shouldDeauth_of_asks connected asks, if_pos rfl]
    by_cases infra : s.mode = iwModeInfra
    · rw [if_pos infra]
      exact iff_of_true ⟨_, List.mem_singleton.mpr rfl, rfl⟩ ⟨connected, .inl infra⟩
    · rw [if_neg infra]
      by_cases adhoc : s.mode = iwModeAdhoc
      · simp only [if_pos adhoc, PassState.shouldStopAdhoc_iff connected]
        split
        · rename_i stop
          exact iff_of_true ⟨_, List.mem_singleton.mpr rfl, rfl⟩ ⟨connected, .inr ⟨adhoc, stop⟩⟩
        · rename_i stay
          refine iff_of_false none ?_
          rintro ⟨-, first | ⟨-, stop⟩⟩
          · exact infra first
          · exact stay stop
      · rw [if_neg adhoc]
        refine iff_of_false none ?_
        rintro ⟨-, first | ⟨second, -⟩⟩
        · exact infra first
        · exact adhoc second
  · have stays : s.shouldDeauthInfrastructure = false ∧ s.shouldStopAdhoc = false := by
      rw [PassState.shouldDeauthInfrastructure, PassState.shouldStopAdhoc, if_pos connected,
        if_pos connected]
      exact ⟨rfl, rfl⟩
    simp only [stays.1, stays.2, Bool.false_eq_true, if_false, ite_self]
    exact iff_of_false none fun must => connected must.1

/-- The parts of a pass that goes on behind the search: an attempt follows the configuration unless
that fails. -/
theorem pass_journal {s : PassState w} (found : (findAny s).out = 0) :
    (lbsAssociationWorker s).journal =
      (findAny s).journal ++ ((leave (findAny s).state).journal ++
        ((configuration (leave (findAny s).state).state).journal ++
          if (configuration (leave (findAny s).state).state).out = 0 then
            (attempt (configuration (leave (findAny s).state).state).state).journal
          else [])) := by
  by_cases failed : (configuration (leave (findAny s).state).state).out = 0 <;>
    simp [lbsAssociationWorker, found, failed]

/-- An entry with a rank is in the part of the pass that the rank belongs to. -/
theorem mem_pass {s : PassState w} {entry : PassEntry w} {n : Nat}
    (member : entry ∈ (lbsAssociationWorker s).journal) (ranked : entry.rank = some n) :
    n = 0 ∨ n = 1 ∧ entry ∈ (leave (findAny s).state).journal ∨
      (2 ≤ n ∧ n ≤ 8) ∨
      9 ≤ n ∧ entry ∈ (attempt (configuration (leave (findAny s).state).state).state).journal := by
  have only : ∀ {m : Nat}, Ranked m entry → n = m := by
    rintro m (none | some)
    · rw [none] at ranked
      cases ranked
    · rw [some] at ranked
      exact (Option.some.inj ranked).symm
  by_cases found : (findAny s).out = 0
  · rw [pass_journal found, List.mem_append, List.mem_append, List.mem_append] at member
    rcases member with early | left | configured | tried
    · exact .inl (only (findAny_writes s entry early))
    · exact .inr (.inl ⟨only (leave_writes _ entry left), left⟩)
    · have within := configuration_ascends.within _ n
        (List.mem_filterMap.mpr ⟨entry, configured, ranked⟩)
      exact .inr (.inr (.inl within))
    · split at tried
      · have within := attempt_ascends.within _ n (List.mem_filterMap.mpr ⟨entry, tried, ranked⟩)
        exact .inr (.inr (.inr ⟨within.1, tried⟩))
      · exact absurd tried List.not_mem_nil
  · have ends : (lbsAssociationWorker s).journal = (findAny s).journal := by
      simp [lbsAssociationWorker, found]
    rw [ends] at member
    exact .inl (only (findAny_writes s entry member))

/-- A pass that turns to a network has left the one that it was in before exactly if it had to. -/
theorem left_before_joining {s : PassState w} {front back : List (PassEntry w)}
    {entry : PassEntry w} (split : (lbsAssociationWorker s).journal = front ++ entry :: back)
    (joins : entry.Joins) :
    (∃ other ∈ front, other.Leaves) ↔ (findAny s).state.MustLeave := by
  have written : ∀ other, other ∈ (lbsAssociationWorker s).journal ↔
      other ∈ front ∨ other = entry ∨ other ∈ back := by
    intro other
    rw [split, List.mem_append, List.mem_cons]
  obtain ⟨n, ranked, large⟩ : ∃ n, entry.rank = some n ∧ 9 ≤ n := by
    rcases joins with ten | fourteen
    · exact ⟨10, ten, by decide⟩
    · exact ⟨14, fourteen, by decide⟩
  have tried : entry ∈
      (attempt (configuration (leave (findAny s).state).state).state).journal := by
    rcases mem_pass ((written entry).mpr (.inr (.inl rfl))) ranked with
      zero | ⟨one, -⟩ | ⟨-, small⟩ | ⟨-, tried⟩
    · omega
    · omega
    · omega
    · exact tried
  have asks : (findAny s).state.AsksToJoin := by
    have flags := configuration_flags (leave (findAny s).state).state
    have kept : (leave (findAny s).state).state.req = (findAny s).state.req := leave_keeps _
    rw [kept] at flags
    rcases asks_of_attempt tried with bssid | ssid
    · exact .inl (flags.bssid ▸ bssid)
    · exact .inr (flags.ssid ssid)
  rw [← leaves_iff asks]
  constructor
  · rintro ⟨other, early, leaves⟩
    rcases mem_pass ((written other).mpr (.inl early)) leaves with
      zero | ⟨-, left⟩ | ⟨positive, -⟩ | ⟨large, -⟩
    · omega
    · exact ⟨other, left, leaves⟩
    · omega
    · omega
  · rintro ⟨other, left, leaves⟩
    have member : other ∈ (lbsAssociationWorker s).journal := by
      have found : (findAny s).out = 0 := by
        by_contra lost
        have ends : (lbsAssociationWorker s).journal = (findAny s).journal := by
          simp [lbsAssociationWorker, lost]
        have early := (written entry).mpr (.inr (.inl rfl))
        rw [ends] at early
        rcases findAny_writes s entry early with none | zero
        · rw [none] at ranked
          cases ranked
        · rw [zero] at ranked
          cases ranked
          omega
      rw [pass_journal found]
      exact List.mem_append_right _ (List.mem_append_left _ left)
    rcases (written other).mp member with early | rfl | late
    · exact ⟨other, early, leaves⟩
    · rw [leaves] at ranked
      cases ranked
      omega
    · -- The order of the pass does not let the network be left behind the attempt.
      have sorted := lbsAssociationWorker_ascends.sorted s
      rw [split, List.filterMap_append, List.filterMap_cons_some ranked,
        List.pairwise_append] at sorted
      have above := (List.pairwise_cons.mp sorted.2.1).1 1
        (List.mem_filterMap.mpr ⟨other, late, leaves⟩)
      omega

end Pass

theorem maxNetworkCount_pos : 0 < maxNetworkCount := by decide

/-- An open network on channel 6. -/
def nextNetwork : BssDescriptor 32 :=
  { onChannelSix.bss with mode := iwModeInfra }

/-- Every command succeeds, and the response to one that joins comes at once. -/
def smoothAnswer : Answer 32 :=
  { ret := 0, outcome := refusedCommand, nested := { psMode := 0, domainInfo := 0 }, stack := []
    params := [], behindIe := [], behindSsid := []
    link := [.replied cmd80211Associate cmdRet80211Associate []]
    others :=
      { surpriseremoved := false, assocWork := .idle, pendingAssocReq := none
        tables := { enable11d := false, regionChannel := [], universalChannel := [] }
        channel := 1, radio := .init, rates := { enablehwauto := 1, curRate := 0 }
        psstate := .fullPower, psmode := 0, macControl := 0
        mesh := { meshDev := false, meshTlv := 0, meshSsid := [], meshSsidLen := 0 }
        table :=
          { networks := fun _ => nextNetwork, networkList := [⟨0, maxNetworkCount_pos⟩]
            networkFreeList := [] } } }

/-- The driver is in one network, and the next one is asked for. -/
def roaming : PassState 32 :=
  { cmd := { CmdPriv.init with
      assoc := { CmdPriv.init.assoc with curbssparams := onChannelOne.curbssparams } }
    rates := [], connectStatus := .connected, beaconPeriod := 0, capability := 0
    psstate := .fullPower, psmode := 0, adhoccreate := false, macControl := 0
    mesh := smoothAnswer.others.mesh
    table := { networks := fun _ => .zero, networkList := [], networkFreeList := [] }
    req := { AssocRequest.zero with
      flags := { AssocRequest.zero.flags with ssid := true }
      ssid := nextNetwork.ssid, ssidLen := nextNetwork.ssidLen, mode := iwModeInfra }
    bss := .zero, answers := fun _ => smoothAnswer }

/-- The old network is left before the next one is joined. -/
theorem left_before_joining_roaming : ∃ front entry back,
    (Pass.lbsAssociationWorker roaming).journal = front ++ entry :: back ∧ entry.Joins ∧
      ((∃ other ∈ front, other.Leaves) ↔ (Pass.findAny roaming).state.MustLeave) := by
  have joins : 14 ∈ (Pass.lbsAssociationWorker roaming).journal.filterMap PassEntry.rank := by
    decide +kernel
  obtain ⟨entry, member, ranked⟩ := List.mem_filterMap.mp joins
  obtain ⟨front, back, split⟩ := List.append_of_mem member
  exact ⟨front, entry, back, split, .inr ranked, Pass.left_before_joining split (.inr ranked)⟩

end Libertas

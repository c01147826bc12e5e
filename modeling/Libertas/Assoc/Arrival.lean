import Libertas.Assoc.Leaving

/-!
# The network at the end of a pass

A pass that ends in a network either never left the one that it started in, or is in
the network of one of its commands. A response only says that the card has joined. Its
handler takes the name from the request, and this is the name in the command.

This is so when every response that is handled is one to the command in flight. The test
of the responses lets others through, and the handler of an association response does not
ask what it is the response to.
-/

namespace Libertas

open ByteOrder Procedure

/-- What identifies a network: the BSSID, the SSID and its length. -/
structure NetworkName where
  bssid : List UInt8
  ssid : List UInt8
  ssidLen : UInt8
deriving DecidableEq

/-- The name of a BSS. -/
def BssDescriptor.network {w : Nat} (bss : BssDescriptor w) : NetworkName :=
  { bssid := bss.bssid, ssid := slice bss.ssid 0 iwEssidMaxSize, ssidLen := bss.ssidLen }

/-- The name of the current network. -/
def CurrentBssParams.network (curbssparams : CurrentBssParams) : NetworkName :=
  { bssid := curbssparams.bssid, ssid := slice curbssparams.ssid 0 iwEssidMaxSize
    ssidLen := curbssparams.ssidLen }

/-- A response has a reply code of the command in flight. -/
def LinkEvent.IsOwn : LinkEvent → Prop
  | lost => True
  | replied curcmd respcmd _ => IsReplyCode curcmd respcmd

namespace PassState

variable {w : Nat} (s : PassState w)

/-- The name of the network the driver is in. -/
def network : NetworkName := s.curbssparams.network

/-- Every response to come is one to the command in flight. -/
def Orderly : Prop :=
  ∀ n, ∀ event ∈ (s.answers n).link, event.IsOwn

end PassState

namespace PassEntry

variable {w : Nat}

/-- A command that was built can bring the driver into a network of this name. A network that is
started gets its BSSID from the card. -/
def Brings (name : NetworkName) : PassEntry w → Prop
  | associate bss (some _) => name = bss.network
  | adHocJoin bss (some _) => name = bss.network
  | adHocStart ssid ssidLen (some _) =>
      name.ssid = slice ssid 0 iwEssidMaxSize ∧ name.ssidLen = ssidLen
  | _ => False

/-- A command is for the BSS of the request. -/
def Matches (bss : BssDescriptor w) : PassEntry w → Prop
  | associate chosen _ => chosen = bss
  | adHocJoin chosen _ => chosen = bss
  | adHocStart ssid ssidLen _ => ssid = bss.ssid ∧ ssidLen = bss.ssidLen
  | _ => True

/-- A response to the command in flight that reports a network is one to the command of the entry,
and it brings a BSSID if that starts the network. -/
theorem own_reply {entry : PassEntry w} {curcmd respcmd : UInt16}
    (flight : entry.MayBeInFlight curcmd) (own : IsReplyCode curcmd respcmd)
    (joins : respcmd ∈ joinReplies) :
    entry.joining = some curcmd ∧
      (respcmd = cmdRet cmd80211AdHocStart ↔ curcmd = cmd80211AdHocStart) := by
  have known : entry.joining = some curcmd := by
    rcases own with same | ⟨rfl, -⟩
    · exact flight (same ▸ joins)
    · exact flight (by decide)
  have listed : curcmd = cmd80211Associate ∨ curcmd = cmd80211AdHocJoin ∨
      curcmd = cmd80211AdHocStart := by
    unfold joining at known
    split at known <;> cases known <;> simp
  refine ⟨known, ?_⟩
  rcases own with rfl | ⟨rfl, rfl⟩
  · rcases listed with rfl | rfl | rfl <;> decide
  · decide

end PassEntry

namespace PassState

variable {w : Nat} {s : PassState w}

/-- Only the response to a command for a network changes the BSS of the request. -/
theorem resume_bss {entry : PassEntry w} (other : entry.joining = none) :
    (s.resume entry).bss = s.bss := by
  have step : ∀ (event : LinkEvent) (t : PassState w), (act entry t event).bss = t.bss := by
    intro event t
    cases event with
    | lost =>
        rw [act, disconnected]
        split <;> rfl
    | replied curcmd respcmd bssid =>
        rw [act, handle]
        split
        · rename_i taken
          have foreign : cmdRet curcmd ∉ joinReplies := by
            intro member
            have known := taken.1 member
            rw [other] at known
            cases known
          split
          · rename_i joins
            rcases taken.2 with rfl | rfl | rfl
            · exact absurd joins foreign
            · rfl
            · exact absurd (by decide) foreign
          · rfl
        · rfl
  have folded : ∀ (events : List LinkEvent) (t : PassState w),
      (events.foldl (act entry) t).bss = t.bss := by
    intro events
    induction events with
    | nil => exact fun _ => rfl
    | cons event rest ih => exact fun t => (ih _).trans (step event t)
  exact folded s.answer.link _

end PassState

/-- A run keeps the driver in its network, or brings it into that of one of its commands, when the
responses are orderly. -/
def Arrives {w : Nat} (s : PassState w) (journal : List (PassEntry w)) (t : PassState w) : Prop :=
  s.Orderly → t.Orderly ∧ (t.connectStatus = .connected →
    (s.connectStatus = .connected ∧ t.network = s.network) ∨
      ∃ entry ∈ journal, entry.Brings t.network)

/-- A function over a command keeps the name if it stores no other. -/
theorem CmdPriv.send_network {α : Type} {priv : CmdPriv} {cmdNo : UInt16} {cmd : List UInt8}
    {outcome : CmdOutcome} {out : α} {done : List UInt8 → α × CmdPriv}
    (stored : ∀ resp, (done resp).2.assoc.curbssparams.network =
      priv.assoc.curbssparams.network) :
    (priv.send cmdNo cmd outcome out done).priv.assoc.curbssparams.network =
      priv.assoc.curbssparams.network := by
  rw [CmdPriv.send]
  dsimp only
  split
  · exact stored _
  · rfl

section Arriving

variable {w : Nat} {s t : PassState w}

theorem composes_arrives : Composes (Arrives (w := w)) := by
  refine ⟨fun s orderly => ⟨orderly, fun connected => .inl ⟨connected, rfl⟩⟩, ?_⟩
  intro s t u journal journal' first rest orderly
  obtain ⟨middle, arrived⟩ := first orderly
  obtain ⟨last, arrived'⟩ := rest middle
  refine ⟨last, fun connected => ?_⟩
  rcases arrived' connected with ⟨before, same⟩ | ⟨entry, member, brings⟩
  · rcases arrived before with ⟨start, same'⟩ | ⟨entry, member, brings⟩
    · exact .inl ⟨start, same.trans same'⟩
    · exact .inr ⟨entry, List.mem_append_left _ member, same ▸ brings⟩
  · exact .inr ⟨entry, List.mem_append_right _ member, brings⟩

/-- A state with the same connection. -/
theorem arrives_of_same {journal : List (PassEntry w)}
    (status : t.connectStatus = s.connectStatus ∧ t.answers = s.answers)
    (name : t.network = s.network) : Arrives s journal t := by
  intro orderly
  refine ⟨?_, fun connected => .inl ⟨status.1 ▸ connected, name⟩⟩
  rw [PassState.Orderly, status.2]
  exact orderly

theorem slice_overwrite (source destination : List UInt8) (count : Nat) :
    slice (overwrite (slice source 0 count) destination) 0 count = slice source 0 count := by
  apply eq_of_byteAt (slice_length _ _ _) (slice_length _ _ _)
  intro i below
  rw [byteAt_slice _ below, Nat.zero_add]
  have inside : i < (slice source 0 count).length := by
    rw [slice_length]
    exact below
  exact agreeBelow_overwrite (slice source 0 count) destination i inside

/-- The name that a successful response gives. -/
theorem network_connected (s : PassState w) (bssid : List UInt8) :
    (s.connected bssid).network = { s.bss.network with bssid := bssid } := by
  have ssid := slice_overwrite s.bss.ssid s.curbssparams.ssid iwEssidMaxSize
  simp only [PassState.network, CurrentBssParams.network, BssDescriptor.network,
    PassState.connected, PassState.setCurbssparams, PassState.setAssoc, PassState.curbssparams]
    at ssid ⊢
  rw [ssid]

/-- A call uses up one answer. -/
theorem resume_answers (entry : PassEntry w) :
    (s.resume entry).answers = fun n => s.answers (n + 1) := by
  have step : ∀ (event : LinkEvent) (t : PassState w),
      (PassState.act entry t event).answers = t.answers := by
    intro event t
    cases event with
    | lost =>
        rw [PassState.act, PassState.disconnected]
        split <;> rfl
    | replied curcmd respcmd bssid =>
        rw [PassState.act, PassState.handle]
        split
        · split <;> rfl
        · rfl
  have folded : ∀ (events : List LinkEvent) (t : PassState w),
      (events.foldl (PassState.act entry) t).answers = t.answers := by
    intro events
    induction events with
    | nil => exact fun _ => rfl
    | cons event rest ih => exact fun t => (ih _).trans (step event t)
  exact folded s.answer.link _

/-- What the main thread has done during a call, as far as it concerns the network. The BSS of the
request gets another BSSID only when a network is started. -/
structure During (s : PassState w) (entry : PassEntry w) (t : PassState w) : Prop where
  arrives : t.connectStatus = .connected →
    (s.connectStatus = .connected ∧ t.network = s.network) ∨ entry.Brings t.network
  ssid : t.bss.ssid = s.bss.ssid
  ssidLen : t.bss.ssidLen = s.bss.ssidLen
  bss : entry.joining ≠ some cmd80211AdHocStart → t.bss = s.bss

theorem During.act {entry : PassEntry w} (during : During s entry t) (matched : entry.Matches s.bss)
    {event : LinkEvent} (own : event.IsOwn) : During s entry (PassState.act entry t event) := by
  have brought : ∀ bssid, entry.Brings { t.bss.network with bssid := bssid } →
      (entry.joining ≠ some cmd80211AdHocStart → bssid = t.bss.bssid) →
      During s entry (t.connected bssid) := by
    intro bssid brings same
    refine ⟨fun _ => .inr ?_, during.ssid, during.ssidLen, ?_⟩
    · rw [network_connected]
      exact brings
    · intro other
      have kept := during.bss other
      rw [← kept, same other]
      rfl
  cases event with
  | lost =>
      have off : (t.disconnected).connectStatus = .disconnected ∧ t.disconnected.bss = t.bss := by
        cases status : t.connectStatus with
        | connected => simp [PassState.disconnected, status, PassState.setCurbssparams,
            PassState.setAssoc]
        | disconnected => simp [PassState.disconnected, status]
      refine ⟨fun connected => ?_, ?_, ?_, fun other => ?_⟩
      · rw [PassState.act, off.1] at connected
        cases connected
      · rw [PassState.act, off.2]
        exact during.ssid
      · rw [PassState.act, off.2]
        exact during.ssidLen
      · rw [PassState.act, off.2]
        exact during.bss other
  | replied curcmd respcmd bssid =>
      rw [PassState.act, PassState.handle]
      split
      · split
        · rename_i taken joins
          obtain ⟨known, starts⟩ := PassEntry.own_reply taken.1 own joins
          cases entry with
          | scan caller | lookup table secinfo | call req | nested cmdNo | rejoined bssid =>
              cases known
          | associate chosen cmd =>
              cases cmd with
              | none => cases known
              | some cmd =>
                  have kept := during.bss (by simp [PassEntry.joining, cmd80211Associate,
                    cmd80211AdHocStart])
                  cases known
                  rw [if_neg (mt starts.mp (by decide))]
                  refine brought t.bss.bssid ?_ fun _ => rfl
                  rw [kept]
                  exact congrArg BssDescriptor.network (Eq.symm matched)
          | adHocJoin chosen cmd =>
              cases cmd with
              | none => cases known
              | some cmd =>
                  have kept := during.bss (by simp [PassEntry.joining, cmd80211AdHocJoin,
                    cmd80211AdHocStart])
                  cases known
                  rw [if_neg (mt starts.mp (by decide))]
                  refine brought t.bss.bssid ?_ fun _ => rfl
                  rw [kept]
                  exact congrArg BssDescriptor.network (Eq.symm matched)
          | adHocStart ssid ssidLen cmd =>
              cases cmd with
              | none => cases known
              | some cmd =>
                  cases known
                  rw [if_pos (starts.mpr rfl)]
                  refine brought bssid ⟨?_, ?_⟩ fun other => absurd rfl other
                  · rw [matched.1]
                    exact congrArg (slice · 0 iwEssidMaxSize) during.ssid
                  · rw [matched.2]
                    exact during.ssidLen
        · exact during
      · exact during

/-- What has happened when the worker goes on after a call. -/
theorem resume_arrives {entry : PassEntry w} (matched : entry.Matches s.bss) :
    Arrives s [entry] (s.resume entry) := by
  intro orderly
  have folded : ∀ (events : List LinkEvent) (t : PassState w), (∀ event ∈ events, event.IsOwn) →
      During s entry t → During s entry (events.foldl (PassState.act entry) t) := by
    intro events
    induction events with
    | nil => exact fun _ _ during => during
    | cons event rest ih =>
        intro t own during
        exact ih _ (fun other member => own other (List.mem_cons_of_mem _ member))
          (during.act matched (own event List.mem_cons_self))
  have last := folded s.answer.link { s with answers := fun n => s.answers (n + 1) } (orderly 0)
    ⟨fun connected => .inl ⟨connected, rfl⟩, rfl, rfl, fun _ => rfl⟩
  have later : (s.resume entry).answers = fun n => s.answers (n + 1) := resume_answers entry
  refine ⟨fun n => ?_, fun connected => ?_⟩
  · rw [later]
    exact orderly (n + 1)
  · exact (last.arrives connected).imp id fun brings => ⟨entry, List.mem_singleton.mpr rfl, brings⟩

end Arriving

namespace Pass

variable {w : Nat}

/-- Every run of a procedure keeps or brings the driver into a network. -/
def Arriving {α : Type} (p : Pass w α) : Prop :=
  Satisfies Arrives p

namespace Arriving

variable {α β : Type} {p q : Pass w α} {f : α → Pass w β}

theorem pure (out : α) : Arriving (pure out : Pass w α) :=
  Satisfies.pure composes_arrives out

theorem get : Arriving (get : Pass w (PassState w)) :=
  Satisfies.get composes_arrives

theorem bind (first : Arriving p) (rest : ∀ out, Arriving (f out)) : Arriving (p >>= f) :=
  Satisfies.bind composes_arrives first rest

theorem ite {c : Prop} [Decidable c] (yes : c → Arriving p) (no : ¬ c → Arriving q) :
    Arriving (if c then p else q) :=
  Satisfies.ite yes no

theorem stages {all : List (Pass w Int)} (each : ∀ stage ∈ all, Arriving stage) :
    Arriving (stages all) :=
  Satisfies.stages composes_arrives each

/-- A change that has nothing to do with the connection. -/
theorem modify {change : PassState w → PassState w}
    (status : ∀ s, (change s).connectStatus = s.connectStatus ∧ (change s).answers = s.answers)
    (name : ∀ s, (change s).network = s.network) : Arriving (modify change : Pass w PUnit) :=
  fun s => arrives_of_same (status s) (name s)

theorem call {entry : PassEntry w} (matched : ∀ bss, entry.Matches bss) : Arriving (call entry) :=
  fun s => resume_arrives (matched s.bss)

/-- A command that is for no BSS. -/
theorem command (req : Request) : Arriving (Pass.call (.call req) : Pass w (Answer w)) :=
  .call fun _ => trivial

theorem prepareAndSend (req : Request) (built : Bool) :
    Arriving (prepareAndSend (.call req) built : Pass w Int) :=
  .bind (.command req) fun _ => .pure _

theorem lookup (find : ScanTable w → Security → α) : Arriving (lookup find) :=
  .bind .get fun _ => .bind (.call fun _ => by trivial) fun _ => .bind .get fun _ => .pure _

/-- A wrapper whose response does not change the name of the network. -/
theorem wrapper {run : CmdPriv → Answer w → CmdEnd α}
    (name : ∀ priv answer, (run priv answer).priv.assoc.curbssparams.network =
      priv.assoc.curbssparams.network) : Arriving (wrapper run) := by
  intro s
  rw [Pass.wrapper]
  cases sent : (run s.cmd s.answer).sent with
  | none => exact composes_arrives.nothing s
  | some req =>
      have slept := command req s
      have stored : Arrives (Pass.call (.call req) s).state []
          { (Pass.call (.call req) s).state with
            cmd := (run (Pass.call (.call req) s).state.cmd s.answer).priv } :=
        arrives_of_same ⟨rfl, rfl⟩ (name _ _)
      exact List.append_nil (Pass.call (.call req) s).journal ▸
        composes_arrives.together slept stored

end Arriving

theorem setMacControl_arriving : Arriving (setMacControl : Pass w PUnit) :=
  .bind .get fun _ => .bind (.command _) fun _ => .pure _

theorem setRadioControl_arriving : Arriving (setRadioControl : Pass w PUnit) := by
  refine .bind (.wrapper fun priv answer => ?_) fun _ => .pure _
  rw [CmdPriv.lbsSetRadioControl]
  exact CmdPriv.send_network fun _ => rfl

theorem findAny_arriving : Arriving (findAny : Pass w Int) := by
  refine .bind .get fun s => .ite (fun _ => .bind ?_ fun found => ?_) fun _ => .pure _
  · refine .bind (.call fun _ => by trivial) fun _ => .bind .get fun t => ?_
    exact .ite (fun _ => .pure _) fun _ => .bind (.lookup _) fun _ => .pure _
  · cases found with
    | none => exact .pure _
    | some bss => exact .bind (.modify (fun _ => ⟨rfl, rfl⟩) fun _ => rfl) fun _ => .pure _

theorem leave_arriving : Arriving (leave : Pass w PUnit) := by
  refine .bind .get fun s => .ite (fun _ => ?_) fun _ => .ite (fun _ => ?_) fun _ => .pure _
  · refine .ite (fun _ => .bind ?_ fun _ => .pure _) fun _ => .pure _
    exact .bind .get fun _ => .prepareAndSend _ _
  · refine .ite (fun _ => .bind ?_ fun _ => .pure _) fun _ => .pure _
    exact .prepareAndSend _ _

theorem assocHelperMode_arriving : Arriving (assocHelperMode : Pass w Int) := by
  have wake : Arriving (wakeCard : Pass w PUnit) := by
    refine .bind .get fun _ => .ite (fun _ => .bind ?_ fun _ => .pure _) fun _ => .pure _
    exact .prepareAndSend _ _
  have endPs : Arriving (endPowerSaving : Pass w PUnit) := by
    refine .bind .get fun _ => .ite (fun _ => .bind wake fun _ => ?_) fun _ => .pure _
    exact .modify (fun _ => ⟨rfl, rfl⟩) fun _ => rfl
  refine .bind .get fun s => .ite (fun _ => .pure _) fun _ => .bind endPs fun _ => ?_
  exact .bind (.modify (fun _ => ⟨rfl, rfl⟩) fun _ => rfl) fun _ => .prepareAndSend _ _

theorem updateChannel_arriving : Arriving (updateChannel : Pass w Int) := by
  refine .bind (.command _) fun answer => .bind .get fun _ => ?_
  refine .bind (.modify (fun _ => ⟨rfl, rfl⟩) fun s => ?_) fun _ => .pure _
  simp only [PassState.network, PassState.curbssparams, CmdPriv.lbsUpdateChannel]
  split <;> rfl

theorem meshConfig_arriving (action : UInt16) (chan : UInt8) :
    Arriving (meshConfig action chan : Pass w PUnit) := by
  refine .bind .get fun s => ?_
  cases s.mesh.config action chan s.answer.outcome with
  | nil => exact .pure _
  | cons req rest => exact .bind (.command _) fun _ => .pure _

theorem assocHelperChannel_arriving : Arriving (assocHelperChannel : Pass w Int) := by
  have set : ∀ channel, Arriving (wrapper fun priv answer =>
      priv.lbsSetChannel answer.outcome channel : Pass w (Int × Unit)) := by
    refine fun channel => .wrapper fun priv answer => ?_
    rw [CmdPriv.lbsSetChannel]
    exact CmdPriv.send_network fun _ => rfl
  have note : Arriving (noteChannel : Pass w PUnit) :=
    .bind .get fun _ => .ite (fun _ => .modify (fun _ => ⟨rfl, rfl⟩) fun _ => rfl) fun _ => .pure _
  refine .bind updateChannel_arriving fun _ => .ite (fun _ => .pure _) fun _ => ?_
  refine .bind .get fun s => .ite (fun _ => .pure _) fun _ => ?_
  refine .bind (meshConfig_arriving _ _) fun _ => .bind (set _) fun _ => ?_
  refine .bind updateChannel_arriving fun _ => .ite (fun _ => .pure _) fun _ => ?_
  exact .bind note fun _ => .bind .get fun _ => .bind (meshConfig_arriving _ _) fun _ => .pure _

theorem setWep_arriving (req : AssocRequest) : Arriving (wrapper fun priv answer =>
    priv.lbsCmd80211SetWep answer.outcome (if req.hasWepKey then cmdActAdd else cmdActRemove)
      req : Pass w (Int × Unit)) := by
  refine .wrapper fun priv answer => ?_
  generalize (if req.hasWepKey then cmdActAdd else cmdActRemove) = action
  rw [CmdPriv.lbsCmd80211SetWep]
  split
  · cases req.wepKeys.toList.mapM wepKeyType with
    | none => rfl
    | some types => exact CmdPriv.send_network fun _ => rfl
  · exact CmdPriv.send_network fun _ => rfl

theorem assocHelperWepKeys_arriving : Arriving (assocHelperWepKeys : Pass w Int) := by
  refine .bind .get fun s => .bind (setWep_arriving s.req) fun _ => ?_
  refine .ite (fun _ => .pure _) fun _ => ?_
  refine .bind (.modify (fun _ => ⟨rfl, rfl⟩) fun _ => rfl) fun _ => ?_
  refine .bind setMacControl_arriving fun _ => ?_
  exact .bind (.modify (fun _ => ⟨rfl, rfl⟩) fun _ => rfl) fun _ => .pure _

theorem enableRsn_arriving (cmdAction enable : UInt16) : Arriving (wrapper fun priv answer =>
    priv.lbsCmd80211EnableRsn answer.stack answer.outcome cmdAction enable :
      Pass w (Int × UInt16)) := by
  refine .wrapper fun priv answer => ?_
  rw [CmdPriv.lbsCmd80211EnableRsn]
  refine CmdPriv.send_network fun resp => ?_
  split <;> rfl

theorem assocHelperSecinfo_arriving : Arriving (assocHelperSecinfo : Pass w Int) := by
  refine .bind (.modify (fun _ => ⟨rfl, rfl⟩) fun _ => rfl) fun _ => ?_
  refine .bind setMacControl_arriving fun _ => .bind (enableRsn_arriving _ _) fun _ => ?_
  refine .ite (fun _ => .pure _) fun _ => .bind .get fun s => .ite (fun _ => .pure _) fun _ => ?_
  exact .bind (enableRsn_arriving _ _) fun _ => .pure _

theorem assocHelperWpaIe_arriving : Arriving (assocHelperWpaIe : Pass w Int) := by
  refine .bind (.modify (fun _ => ⟨rfl, rfl⟩) fun s => ?_) fun _ => .pure _
  simp only [PassState.network, PassState.curbssparams, PassState.setAssoc,
    AssocPriv.assocHelperWpaIe]
  split <;> rfl

theorem assocHelperWpaKeys_arriving : Arriving (assocHelperWpaKeys : Pass w Int) := by
  have key : ∀ choose, Arriving (keyMaterial choose : Pass w Int) := by
    refine fun choose => .bind .get fun s => .bind (.wrapper fun priv answer => ?_) fun _ => .pure _
    rw [CmdPriv.lbsCmd80211KeyMaterial, if_neg (by decide)]
    exact CmdPriv.send_network fun _ => rfl
  refine .stages fun stage member => ?_
  simp only [List.mem_cons, List.not_mem_nil, or_false] at member
  rcases member with rfl | rfl <;>
    exact .bind .get fun _ => .ite (fun _ => key _) fun _ => .pure _

theorem configuration_arriving : Arriving (configuration : Pass w Int) := by
  have wanted : ∀ (flag : AssocFlags → Bool) {helper : Pass w Int}, Arriving helper →
      Arriving (wanted flag helper) :=
    fun _ _ arriving => .bind .get fun _ => .ite (fun _ => arriving) fun _ => .pure _
  refine .stages fun stage member => ?_
  simp only [List.mem_cons, List.not_mem_nil, or_false] at member
  rcases member with rfl | rfl | rfl | rfl | rfl | rfl
  · exact wanted _ assocHelperMode_arriving
  · exact wanted _ assocHelperChannel_arriving
  · exact wanted _ assocHelperWepKeys_arriving
  · exact wanted _ assocHelperSecinfo_arriving
  · exact wanted _ assocHelperWpaIe_arriving
  · exact wanted _ assocHelperWpaKeys_arriving

/-- A command for the BSS of the request, behind those of its builder. -/
theorem joining_arrives {s : PassState w} {entry : PassEntry w} (matched : entry.Matches s.bss)
    (sent : List UInt16) (built : Bool) :
    Arrives s ((sendNested sent >>= fun _ => prepareAndSend entry built : Pass w Int) s).journal
      ((sendNested sent >>= fun _ => prepareAndSend entry built : Pass w Int) s).state := by
  have last : ∀ t : PassState w, t.bss = s.bss →
      Arrives t (prepareAndSend entry built t).journal (prepareAndSend entry built t).state := by
    intro t same
    rw [prepareAndSend, bind_journal, bind_state]
    exact composes_arrives.together (resume_arrives (same ▸ matched)) (composes_arrives.nothing _)
  have nested : ∀ (sent : List UInt16) (t : PassState w),
      Arrives t (sendNested sent t).journal (sendNested sent t).state ∧
        (sendNested sent t).state.bss = t.bss := by
    intro sent
    induction sent with
    | nil => exact fun t => ⟨composes_arrives.nothing t, rfl⟩
    | cons cmdNo rest ih =>
        intro t
        obtain ⟨arrives, same⟩ := ih (t.resume (.nested cmdNo))
        refine ⟨composes_arrives.together (resume_arrives trivial) arrives, same.trans ?_⟩
        exact PassState.resume_bss rfl
  obtain ⟨arrives, same⟩ := nested sent s
  exact composes_arrives.together arrives (last _ same)

theorem sendAssociate_arriving : Arriving (sendAssociate : Pass w Int) := by
  intro s
  let input := associateInput s
  let built := s.built (s.toBuild.lbsCmd80211Associate s.answer.nested input s.answer.params).priv
  have stored : built.curbssparams.network = s.curbssparams.network := by
    change CurrentBssParams.network (BuildPriv.lbsCmd80211Associate _ _ _ _).priv.curbssparams = _
    rw [BuildPriv.lbsCmd80211Associate_priv]
    split <;> rfl
  have kept : Arrives s [] built := arrives_of_same ⟨rfl, rfl⟩ stored
  have matched : ∀ cmd, (PassEntry.associate s.bss cmd).Matches built.bss := fun _ => rfl
  exact composes_arrives.together kept (joining_arrives (matched _) _ _)

theorem sendAdHocJoin_arriving : Arriving (sendAdHocJoin : Pass w Int) := by
  intro s
  let built := s.built (s.toBuild.lbsCmd80211AdHocJoin s.answer.nested s.bss
    s.req.secinfo.wepEnabled).priv
  have stored : built.curbssparams.network = s.curbssparams.network := by
    change CurrentBssParams.network (BuildPriv.lbsCmd80211AdHocJoin _ _ _ _).priv.curbssparams = _
    rw [BuildPriv.lbsCmd80211AdHocJoin_priv]
    rfl
  have kept : Arrives s [] built := arrives_of_same ⟨rfl, rfl⟩ stored
  have matched : ∀ cmd, (PassEntry.adHocJoin s.bss cmd).Matches built.bss := fun _ => rfl
  exact composes_arrives.together kept (joining_arrives (matched _) _ _)

theorem sendAdHocStart_arriving : Arriving (sendAdHocStart : Pass w Int) := by
  intro s
  let built := s.built (s.toBuild.lbsCmd80211AdHocStart s.answer.nested s.req).priv
  have stored : built.curbssparams.network = s.curbssparams.network := by
    change CurrentBssParams.network (BuildPriv.lbsCmd80211AdHocStart _ _ _).priv.curbssparams = _
    rw [BuildPriv.lbsCmd80211AdHocStart_priv]
    rfl
  have kept : Arrives s [] built := arrives_of_same ⟨rfl, rfl⟩ stored
  have matched : ∀ cmd, (PassEntry.adHocStart s.bss.ssid s.bss.ssidLen cmd).Matches built.bss :=
    fun _ => ⟨rfl, rfl⟩
  exact composes_arrives.together kept (joining_arrives (matched _) _ _)

theorem lbsAssociate_arriving : Arriving (lbsAssociate : Pass w Int) := by
  refine .bind .get fun s => .bind (.prepareAndSend _ _) fun _ => ?_
  refine .ite (fun _ => .pure _) fun _ => ?_
  refine .bind (.modify (fun _ => ⟨rfl, rfl⟩) fun _ => rfl) fun _ => ?_
  exact .bind setRadioControl_arriving fun _ => sendAssociate_arriving

theorem lbsJoinAdhocNetwork_arriving : Arriving (lbsJoinAdhocNetwork : Pass w Int) := by
  refine .bind .get fun s => .ite (fun _ => ?_) fun _ => ?_
  · exact .bind (.call fun _ => trivial) fun _ => .pure _
  · refine .bind (.modify (fun _ => ⟨rfl, rfl⟩) fun _ => rfl) fun _ => ?_
    refine .bind setRadioControl_arriving fun _ => ?_
    exact .bind (.modify (fun _ => ⟨rfl, rfl⟩) fun _ => rfl) fun _ => sendAdHocJoin_arriving

theorem lbsStartAdhocNetwork_arriving : Arriving (lbsStartAdhocNetwork : Pass w Int) := by
  refine .bind (.modify (fun _ => ⟨rfl, rfl⟩) fun _ => rfl) fun _ => ?_
  exact .bind setRadioControl_arriving fun _ => sendAdHocStart_arriving

theorem choose_arriving (bss : BssDescriptor w) : Arriving (choose bss) :=
  .modify (fun _ => ⟨rfl, rfl⟩) fun _ => rfl

theorem findEssid_arriving (mode : UInt8) :
    Arriving (findEssid mode : Pass w (Option (BssDescriptor w))) := by
  have scanning : Arriving (lbsSendSpecificSsidScan : Pass w PUnit) := by
    refine .bind .get fun _ => .ite (fun _ => .pure _) fun _ => ?_
    exact .bind (.call fun _ => trivial) fun _ => .pure _
  exact .bind scanning fun _ => .bind .get fun _ => .lookup _

theorem assocHelperEssid_arriving : Arriving (assocHelperEssid : Pass w Int) := by
  refine .bind .get fun s => .ite (fun _ => ?_) fun _ => .ite (fun _ => ?_) fun _ => .pure _
  · refine .bind (findEssid_arriving _) fun found => ?_
    cases found with
    | none => exact .pure _
    | some bss => exact .bind (choose_arriving bss) fun _ => lbsAssociate_arriving
  · refine .bind (findEssid_arriving _) fun found => ?_
    cases found with
    | none =>
        refine .bind (.modify (fun _ => ⟨rfl, rfl⟩) fun _ => rfl) fun _ => ?_
        exact .bind lbsStartAdhocNetwork_arriving fun _ => .pure _
    | some bss =>
        refine .bind (choose_arriving bss) fun _ => ?_
        exact .bind lbsJoinAdhocNetwork_arriving fun _ => .pure _

theorem assocHelperBssid_arriving : Arriving (assocHelperBssid : Pass w Int) := by
  refine .bind .get fun s => .bind (.lookup _) fun found => ?_
  cases found with
  | none => exact .pure _
  | some bss =>
      refine .bind (choose_arriving bss) fun _ => .ite (fun _ => lbsAssociate_arriving) fun _ => ?_
      refine .ite (fun _ => ?_) fun _ => .pure _
      exact .bind lbsJoinAdhocNetwork_arriving fun _ => .pure _

theorem attempt_arriving : Arriving (attempt : Pass w Int) := by
  have associate : Arriving (assocHelperAssociate : Pass w Int) :=
    .bind .get fun _ => .ite (fun _ => assocHelperBssid_arriving) fun _ =>
      .ite (fun _ => assocHelperEssid_arriving) fun _ => .pure _
  refine .bind .get fun s => .ite (fun _ => .bind associate fun _ => ?_) fun _ => .pure _
  refine .bind .get fun _ => .ite (fun _ => ?_) fun _ => .pure _
  exact .bind (.prepareAndSend _ _) fun _ => .pure _

/-- A pass keeps the driver in its network, or brings it into that of one of its commands. -/
theorem pass_arriving : Arriving (lbsAssociationWorker : Pass w Int) := by
  refine .bind findAny_arriving fun _ => .ite (fun _ => .pure _) fun _ => ?_
  refine .bind leave_arriving fun _ => .bind configuration_arriving fun _ => ?_
  exact .ite (fun _ => .pure _) fun _ => attempt_arriving

/-- A pass that ends in a network either was in that network at its start, or it has sent a command
that brings the driver into it, when every response is one to the command in flight. -/
theorem network_of_pass {s : PassState w} (orderly : s.Orderly)
    (connected : (lbsAssociationWorker s).state.connectStatus = .connected) :
    (s.connectStatus = .connected ∧ (lbsAssociationWorker s).state.network = s.network) ∨
      ∃ entry ∈ (lbsAssociationWorker s).journal,
        entry.Brings (lbsAssociationWorker s).state.network :=
  (pass_arriving s orderly).2 connected

end Pass

theorem roaming_orderly : roaming.Orderly := by
  intro _ event member
  rw [List.mem_singleton.mp member]
  exact .inr ⟨rfl, rfl⟩

/-- The pass that leaves one network ends in the next one. -/
theorem network_of_pass_roaming :
    (roaming.connectStatus = .connected ∧
        (Pass.lbsAssociationWorker roaming).state.network = roaming.network) ∨
      ∃ entry ∈ (Pass.lbsAssociationWorker roaming).journal,
        entry.Brings (Pass.lbsAssociationWorker roaming).state.network :=
  Pass.network_of_pass roaming_orderly (by decide +kernel)

end Libertas

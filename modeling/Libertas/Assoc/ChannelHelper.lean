import Libertas.Assoc.Worker
import Libertas.Cmd.Mesh

/-!
# Changing the channel for an association

While there is a mesh device, the firmware changes its channel only when the mesh
is stopped. `assoc_helper_channel` stops it in front of the change and starts it
behind, on some of its ways out.

`AssocPriv.assocHelperChannel` is the same function by the answers of the card alone;
here are the commands that are sent.
-/

namespace Libertas

open ByteOrder

/-- The outcomes of the commands of `assoc_helper_channel`, in their order. -/
structure ChannelOutcomes where
  got : CmdOutcome
  stopped : CmdOutcome
  set : CmdOutcome
  gotAgain : CmdOutcome
  started : CmdOutcome

/-- The end of `assoc_helper_channel`. -/
structure ChannelHelped where
  ret : Int
  req : AssocRequest
  priv : CmdPriv
  /-- The commands, oldest first. -/
  sent : List Request

/-- The command of `lbs_get_channel`. -/
def getChannelRequest : Request :=
  withResponseRequest cmd80211RfChannel (CmdPriv.rfChannelCmd cmdOptRfChannelGet 0)

/-- A mesh command is sent if there is a mesh device. -/
def MeshSettings.config (mesh : MeshSettings) (action : UInt16) (chan : UInt8)
    (outcome : CmdOutcome) : List Request :=
  if mesh.meshDev then (lbsMeshConfig mesh action chan.toUInt16 outcome).2 else []

/-- `assoc_helper_channel`. -/
def CmdPriv.assocHelperChannel (priv : CmdPriv) (mesh : MeshSettings) (req : AssocRequest)
    (outcomes : ChannelOutcomes) : ChannelHelped :=
  let (ret, priv) := priv.lbsUpdateChannel outcomes.got
  if ret ≠ 0 then { ret := ret, req := req, priv := priv, sent := [getChannelRequest] }
  else if req.channel = priv.channel then
    { ret := ret, req := req, priv := priv, sent := [getChannelRequest] }
  else
    let stop := mesh.config cmdActMeshConfigStop req.channel outcomes.stopped
    let set := priv.lbsSetChannel outcomes.set req.channel
    let (ret, priv) := set.priv.lbsUpdateChannel outcomes.gotAgain
    let sent := getChannelRequest :: stop ++ set.sent.toList ++ [getChannelRequest]
    -- This way out leads past `restore_mesh`.
    if ret ≠ 0 then { ret := ret, req := req, priv := priv, sent := sent }
    else
      let sent := sent ++ mesh.config cmdActMeshConfigStart priv.channel outcomes.started
      if req.channel ≠ priv.channel then { ret := ret, req := req, priv := priv, sent := sent }
      else
        { ret := ret
          req := req.channelChanged
          priv :=
            { priv with
              assoc := priv.assoc.visit (if req.secinfo.wepEnabled then allKeys else []) }
          sent := sent }

/-- The mesh actions of a list of commands. -/
def meshActions (sent : List Request) : List UInt16 :=
  sent.filterMap Request.meshAction

/-- If the mesh is stopped, it is started again. -/
def MeshRestarted (sent : List Request) : Prop :=
  cmdActMeshConfigStop ∈ meshActions sent →
    (meshActions sent).getLast? = some cmdActMeshConfigStart

/-- The channel has to be changed while there is a mesh device, and asking for it afterwards fails
in the driver. -/
structure MeshLeftStopped (priv : CmdPriv) (mesh : MeshSettings) (req : AssocRequest)
    (outcomes : ChannelOutcomes) : Prop where
  meshDev : mesh.meshDev = true
  got : 0 ≤ outcomes.got.ret
  changes : req.channel ≠ (priv.lbsUpdateChannel outcomes.got).2.channel
  lost : outcomes.gotAgain.ret < 0

section Restart

variable {priv : CmdPriv} {mesh : MeshSettings} {req : AssocRequest} {outcomes : ChannelOutcomes}

theorem meshActions_append (front back : List Request) :
    meshActions (front ++ back) = meshActions front ++ meshActions back :=
  List.filterMap_append

theorem meshActions_getChannel : meshActions [getChannelRequest] = [] := by
  decide

theorem meshActions_setChannel (priv : CmdPriv) (outcome : CmdOutcome) (channel : UInt8) :
    meshActions (priv.lbsSetChannel outcome channel).sent.toList = [] :=
  rfl

theorem meshActions_stop (chan : UInt8) (outcome : CmdOutcome) :
    meshActions (mesh.config cmdActMeshConfigStop chan outcome) =
      if mesh.meshDev then [cmdActMeshConfigStop] else [] := by
  rw [MeshSettings.config]
  split
  · exact lbsMeshConfig_stop
  · rfl

theorem meshActions_start (chan : UInt8) (outcome : CmdOutcome) :
    meshActions (mesh.config cmdActMeshConfigStart chan outcome) =
      if mesh.meshDev then [cmdActMeshConfigStart] else [] := by
  rw [MeshSettings.config]
  split
  · exact lbsMeshConfig_start
  · rfl

/-- The mesh commands of `assoc_helper_channel`. -/
theorem meshActions_assocHelperChannel :
    meshActions (priv.assocHelperChannel mesh req outcomes).sent =
      if mesh.meshDev = true ∧ 0 ≤ outcomes.got.ret ∧
          req.channel ≠ (priv.lbsUpdateChannel outcomes.got).2.channel then
        if outcomes.gotAgain.ret < 0 then [cmdActMeshConfigStop]
        else [cmdActMeshConfigStop, cmdActMeshConfigStart]
      else [] := by
  have got := lbsUpdateChannel_ret priv outcomes.got
  rw [CmdPriv.assocHelperChannel]
  dsimp only
  by_cases failed : outcomes.got.ret < 0
  · rw [got, if_pos failed, if_pos (Int.ne_of_lt failed), if_neg (by omega)]
    exact meshActions_getChannel
  rw [got, if_neg failed, if_neg (not_not.mpr rfl)]
  by_cases same : req.channel = (priv.lbsUpdateChannel outcomes.got).2.channel
  · rw [if_pos same, if_neg (fun changes => changes.2.2 same)]
    exact meshActions_getChannel
  rw [if_neg same]
  have again := lbsUpdateChannel_ret
    ((priv.lbsUpdateChannel outcomes.got).2.lbsSetChannel outcomes.set req.channel).priv
    outcomes.gotAgain
  have front : ∀ stop set : List Request, meshActions set = [] →
      meshActions (getChannelRequest :: stop ++ set ++ [getChannelRequest]) =
        meshActions stop := by
    intro stop set quiet
    rw [← List.singleton_append, meshActions_append, meshActions_append, meshActions_append,
      meshActions_getChannel, quiet, List.nil_append, List.append_nil, List.append_nil]
  by_cases lost : outcomes.gotAgain.ret < 0
  · rw [again, if_pos lost, if_pos (Int.ne_of_lt lost)]
    dsimp only
    rw [front _ _ (meshActions_setChannel _ _ _), meshActions_stop]
    simp [same, Int.not_lt.mp failed, lost]
  · rw [again, if_neg lost, if_neg (not_not.mpr rfl)]
    split
    · dsimp only
      rw [meshActions_append, front _ _ (meshActions_setChannel _ _ _), meshActions_stop,
        meshActions_start]
      cases mesh.meshDev <;> simp [same, Int.not_lt.mp failed]
    · dsimp only
      rw [meshActions_append, front _ _ (meshActions_setChannel _ _ _), meshActions_stop,
        meshActions_start]
      cases mesh.meshDev <;> simp [same, Int.not_lt.mp failed]

end Restart

/-- `assoc_helper_channel` starts a mesh again that it stops, unless asking for the new channel
fails. -/
theorem mesh_restarted_iff (priv : CmdPriv) (mesh : MeshSettings) (req : AssocRequest)
    (outcomes : ChannelOutcomes) :
    MeshRestarted (priv.assocHelperChannel mesh req outcomes).sent ↔
      ¬ MeshLeftStopped priv mesh req outcomes := by
  rw [MeshRestarted, meshActions_assocHelperChannel]
  constructor
  · rintro restarted ⟨meshDev, got, changes, lost⟩
    rw [if_pos ⟨meshDev, got, changes⟩, if_pos lost] at restarted
    exact absurd (restarted List.mem_cons_self) (by decide)
  · intro kept stopped
    by_cases changes : mesh.meshDev = true ∧ 0 ≤ outcomes.got.ret ∧
        req.channel ≠ (priv.lbsUpdateChannel outcomes.got).2.channel
    · have answered : ¬ outcomes.gotAgain.ret < 0 :=
        fun lost => kept ⟨changes.1, changes.2.1, changes.2.2, lost⟩
      rw [if_pos changes, if_neg answered]
      rfl
    · rw [if_neg changes] at stopped
      cases stopped

/-- The card reports channel 6. -/
def channelSix : CmdOutcome :=
  .answered ⟨[0x1d, 0x80, 12, 0, 1, 0, 0, 0, 0, 0, 6, 0], by decide, by decide⟩

/-- A mesh on channel 6, an association on channel 11, and a card that does not answer any more once
the channel is set. -/
theorem mesh_left_stopped : ¬ ∀ (priv : CmdPriv) (mesh : MeshSettings) (req : AssocRequest)
    (outcomes : ChannelOutcomes),
      MeshRestarted (priv.assocHelperChannel mesh req outcomes).sent := by
  intro restarted
  have last := restarted .init
    { meshDev := true, meshTlv := 0x0125, meshSsid := [0x6d, 0x65, 0x73, 0x68], meshSsidLen := 4 }
    { AssocRequest.zero with channel := 11 }
    { got := channelSix, stopped := channelSix, set := channelSix, gotAgain := .timedOut
      started := .removed }
  rw [MeshRestarted, meshActions_assocHelperChannel, if_pos (by decide), if_pos (by decide)] at last
  exact absurd (last List.mem_cons_self) (by decide)

end Libertas

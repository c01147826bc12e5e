import Libertas.Assoc.BestNetwork
import Libertas.Cmd.Channel

/-!
# Mesh configuration

`CMD_MESH_CONFIG` starts and stops the mesh network and reads and writes the
settings that the card keeps. The bytes of all its forms are those of
`struct cmd_ds_mesh_config`.
-/

namespace Libertas

open ByteOrder

/-- `CMD_MESH_CONFIG`. -/
def cmdMeshConfig : UInt16 := 0x00a3

/-- `CMD_ACT_MESH_CONFIG_*`. -/
def cmdActMeshConfigStop : UInt16 := 0
def cmdActMeshConfigStart : UInt16 := 1
def cmdActMeshConfigSet : UInt16 := 2
def cmdActMeshConfigGet : UInt16 := 3

/-- `sizeof(struct mrvl_meshie_val)`. -/
def meshieValSize : Nat := 42

/-- `MARVELL_MESH_IE_TYPE`, `MARVELL_MESH_IE_SUBTYPE` and `MARVELL_MESH_IE_VERSION`. -/
def marvellMeshIeType : UInt8 := 4
def marvellMeshIeSubtype : UInt8 := 0
def marvellMeshIeVersion : UInt8 := 0

/-- `MARVELL_MESH_PROTO_ID_HWMP`, `MARVELL_MESH_METRIC_ID` and `MARVELL_MESH_CAPABILITY`. -/
def marvellMeshProtoIdHwmp : UInt8 := 0
def marvellMeshMetricId : UInt8 := 0
def marvellMeshCapability : UInt8 := 0

/-- What the driver knows about the mesh. -/
structure MeshSettings where
  /-- `mesh_dev` is not NULL. -/
  meshDev : Bool
  meshTlv : UInt16
  meshSsid : List UInt8
  meshSsidLen : UInt8
deriving DecidableEq, Repr

/-- `struct cmd_ds_mesh_config`. -/
def meshConfigCmd (action channel type length : UInt16) (data : List UInt8) : List UInt8 :=
  commandHeader cmdMeshConfig 144 [] ++ le16Bytes action ++ (le16Bytes channel ++
    le16Bytes type ++ le16Bytes length ++ overwrite data (List.replicate 128 0))

/-- The call that `lbs_mesh_config_send` makes. -/
def meshConfigRequest (action channel type length : UInt16) (data : List UInt8) : Request :=
  withResponseRequest cmdMeshConfig (meshConfigCmd action channel type length data)

/-- `lbs_mesh_config_send`: what it returns, and the structure of the caller. -/
def lbsMeshConfigSend (action channel type length : UInt16) (data : List UInt8)
    (outcome : CmdOutcome) : Int × List UInt8 :=
  lbsCmdWithResponse cmdMeshConfig (meshConfigCmd action channel type length data) outcome

/-- The information element of `lbs_mesh_config`. -/
def MeshSettings.meshie (mesh : MeshSettings) : List UInt8 :=
  [mfieTypeGeneric, UInt8.ofNat (meshieValSize - iwEssidMaxSize) + mesh.meshSsidLen,
    0x00, 0x50, 0x43, marvellMeshIeType, marvellMeshIeSubtype, marvellMeshIeVersion,
    marvellMeshProtoIdHwmp, marvellMeshMetricId, marvellMeshCapability, mesh.meshSsidLen] ++
    slice mesh.meshSsid 0 mesh.meshSsidLen.toNat

/-- `lbs_mesh_config`: what it returns, and the command that it sends. -/
def lbsMeshConfig (mesh : MeshSettings) (action chan : UInt16) (outcome : CmdOutcome) :
    Int × List Request :=
  let send := fun (length : UInt16) (data : List UInt8) =>
    ((lbsMeshConfigSend action chan mesh.meshTlv length data outcome).1,
      [meshConfigRequest action chan mesh.meshTlv length data])
  if action = cmdActMeshConfigStart then send (UInt16.ofNat meshieValSize) mesh.meshie
  else if action = cmdActMeshConfigStop then send 0 []
  else (-1, [])

/-- The action, the channel and the type of a mesh command, and the bytes of its data. -/
def Request.meshAction (req : Request) : Option UInt16 :=
  if req.cmdNo = cmdMeshConfig then req.content.map fun content => le16At content.2 0 else none
def Request.meshChannel (req : Request) : Option UInt16 :=
  if req.cmdNo = cmdMeshConfig then req.content.map fun content => le16At content.2 2 else none
def Request.meshType (req : Request) : Option UInt16 :=
  if req.cmdNo = cmdMeshConfig then req.content.map fun content => le16At content.2 4 else none
def Request.meshByte (req : Request) (i : Nat) : Option UInt8 :=
  if req.cmdNo = cmdMeshConfig then req.content.map fun content => byteAt content.2 (8 + i)
  else none

section Layout

variable {action channel type length : UInt16} {data : List UInt8}

theorem respSize_meshConfigCmd :
    respSize (meshConfigCmd action channel type length data) = 144 := by
  rw [meshConfigCmd, List.append_assoc]
  exact respSize_commandHeader cmdMeshConfig 144 [] _

/-- The bytes behind the header are sent as they are in the structure. -/
theorem byteAt_meshConfigRequest {i : Nat} (inside : 8 + i < 144) :
    byteAt (((meshConfigCmd action channel type length data).take
      (respSize (meshConfigCmd action channel type length data)).toNat).drop sDsGen) i =
        byteAt (meshConfigCmd action channel type length data) (8 + i) := by
  rw [respSize_meshConfigCmd]
  exact byteAt_take_drop _ inside

/-- A field of the structure is sent at its place. -/
theorem le16At_meshConfigRequest {front back : List UInt8} {value : UInt16} {i : Nat}
    (layout : meshConfigCmd action channel type length data = front ++ le16Bytes value ++ back)
    (place : front.length = 8 + i) (inside : i ≤ 134) :
    (meshConfigRequest action channel type length data).content.map
      (fun content => le16At content.2 i) = some value := by
  have read := le16At_append front back value
  rw [← layout, place, le16At] at read
  rw [meshConfigRequest, withResponseRequest, Option.map_some, le16At,
    byteAt_meshConfigRequest (by omega), byteAt_meshConfigRequest (by omega)]
  exact congrArg some read

theorem meshAction_meshConfigRequest :
    (meshConfigRequest action channel type length data).meshAction = some action :=
  le16At_meshConfigRequest rfl rfl (by decide)

theorem meshChannel_meshConfigRequest :
    (meshConfigRequest action channel type length data).meshChannel = some channel := by
  have layout : meshConfigCmd action channel type length data =
      commandHeader cmdMeshConfig 144 [] ++ le16Bytes action ++ le16Bytes channel ++
        (le16Bytes type ++ le16Bytes length ++ overwrite data (List.replicate 128 0)) := by
    simp only [meshConfigCmd, List.append_assoc]
  exact le16At_meshConfigRequest layout rfl (by decide)

theorem meshType_meshConfigRequest :
    (meshConfigRequest action channel type length data).meshType = some type := by
  have layout : meshConfigCmd action channel type length data =
      commandHeader cmdMeshConfig 144 [] ++ le16Bytes action ++ le16Bytes channel ++
        le16Bytes type ++ (le16Bytes length ++ overwrite data (List.replicate 128 0)) := by
    simp only [meshConfigCmd, List.append_assoc]
  exact le16At_meshConfigRequest layout rfl (by decide)

/-- The data that was given is sent. -/
theorem meshByte_meshConfigRequest {i : Nat} (inside : i < data.length) (room : i < 128) :
    (meshConfigRequest action channel type length data).meshByte i = some (byteAt data i) := by
  have read := byteAt_append_right (commandHeader cmdMeshConfig 144 [] ++ le16Bytes action ++
    le16Bytes channel ++ le16Bytes type ++ le16Bytes length)
      (overwrite data (List.replicate 128 0)) i
  have layout : meshConfigCmd action channel type length data =
      commandHeader cmdMeshConfig 144 [] ++ le16Bytes action ++ le16Bytes channel ++
        le16Bytes type ++ le16Bytes length ++ overwrite data (List.replicate 128 0) := by
    simp only [meshConfigCmd, List.append_assoc]
  rw [agreeBelow_overwrite data _ i inside, ← layout] at read
  rw [Request.meshByte, meshConfigRequest, withResponseRequest, if_pos rfl, Option.map_some,
    byteAt_meshConfigRequest (by omega), show 8 + (8 + i) = 16 + i by omega]
  exact congrArg some read

theorem lbsMeshConfig_stop {mesh : MeshSettings} {chan : UInt16} {outcome : CmdOutcome} :
    (lbsMeshConfig mesh cmdActMeshConfigStop chan outcome).2.filterMap Request.meshAction =
      [cmdActMeshConfigStop] := by
  simp [lbsMeshConfig, cmdActMeshConfigStop, cmdActMeshConfigStart, meshAction_meshConfigRequest]

theorem lbsMeshConfig_start {mesh : MeshSettings} {chan : UInt16} {outcome : CmdOutcome} :
    (lbsMeshConfig mesh cmdActMeshConfigStart chan outcome).2.filterMap Request.meshAction =
      [cmdActMeshConfigStart] := by
  simp [lbsMeshConfig, meshAction_meshConfigRequest]

end Layout

end Libertas

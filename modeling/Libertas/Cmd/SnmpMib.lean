import Libertas.CmdResp.Handlers

/-!
# The management information base of the card

`lbs_cmd_802_11_snmp_mib` builds the commands that read and write objects of the
card. The object is chosen by an identifier of the driver, and the value comes from
the caller, or for the retry limit from the private structure.
-/

namespace Libertas

open ByteOrder

/-- The identifiers of the driver, `OID_802_11_*`. -/
def oid80211InfrastructureMode : UInt32 := 0x8008
def oid80211FragmentationThreshold : UInt32 := 0x8009
def oid80211RtsThreshold : UInt32 := 0x800a
def oid80211TxRetrycount : UInt32 := 0x801d
def oid80211dEnable : UInt32 := 0x8020

/-- `DESIRED_BSSTYPE_I` and `DOT11D_I` of `enum SNMP_MIB_INDEX_e`. -/
def desiredBsstypeI : UInt16 := 0
def dot11dI : UInt16 := 9

/-- `enum SNMP_MIB_VALUE_e`. -/
def snmpMibValueInfra : UInt8 := 1
def snmpMibValueAdhoc : UInt8 := 2

/-- `sizeof(struct cmd_ds_802_11_snmp_mib)`. -/
def sizeofSnmpMib : Nat := 134

/-- What the builder writes of `struct cmd_ds_802_11_snmp_mib`. The command is cleared before. -/
structure SnmpMib where
  querytype : UInt16
  oid : UInt16
  bufsize : UInt16
  value : List UInt8
deriving DecidableEq, Repr

/-- The bytes of the structure. -/
def SnmpMib.bytes (mib : SnmpMib) : List UInt8 :=
  le16Bytes mib.querytype ++ le16Bytes mib.oid ++ le16Bytes mib.bufsize ++
    overwrite mib.value (List.replicate 128 0)

/-- An object whose value is a 16-bit number that is read or written. -/
def numberMib (oid cmdAction value : UInt16) : SnmpMib :=
  if cmdAction = cmdActGet then { querytype := cmdActGet, oid := oid, bufsize := 0, value := [] }
  else if cmdAction = cmdActSet then
    { querytype := cmdActSet, oid := oid, bufsize := 2, value := le16Bytes value }
  else { querytype := 0, oid := oid, bufsize := 0, value := [] }

/-- `lbs_cmd_802_11_snmp_mib`. `pdata` is the mode, or the number that `pdata_buf` points to. -/
def lbsCmd80211SnmpMib (txretrycount : UInt8) (cmdAction : UInt16) (cmdOid pdata : UInt32) :
    SnmpMib :=
  if cmdOid = oid80211InfrastructureMode then
    { querytype := cmdActSet, oid := desiredBsstypeI, bufsize := 1
      value := [if pdata.toUInt8 = iwModeAdhoc then snmpMibValueAdhoc else snmpMibValueInfra] }
  else if cmdOid = oid80211dEnable then
    if cmdAction = cmdActSet then numberMib dot11dI cmdActSet pdata.toUInt16
    else { querytype := 0, oid := dot11dI, bufsize := 0, value := [] }
  else if cmdOid = oid80211FragmentationThreshold then
    numberMib fragthreshI cmdAction pdata.toUInt16
  else if cmdOid = oid80211RtsThreshold then numberMib rtsthreshI cmdAction pdata.toUInt16
  else if cmdOid = oid80211TxRetrycount then
    numberMib shortRetrylimI cmdAction txretrycount.toUInt16
  else { querytype := 0, oid := 0, bufsize := 0, value := [] }

/-- The call of `lbs_prepare_and_send_command` for an object. -/
def snmpMibRequest (cmdAction : UInt16) (mib : SnmpMib) : Request :=
  { kind := .prepareAndSend true, cmdNo := cmd80211SnmpMib, cmdAction := cmdAction
    content := some (UInt16.ofNat (sizeofSnmpMib + sDsGen), mib.bytes), buffer := none }

end Libertas

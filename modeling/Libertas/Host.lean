import Libertas.ByteOrder

/-!
# Firmware command numbers, actions and event codes

The constants of `host.h` and `defs.h` that the modelled functions compare
against. Command codes are 16-bit; the reply to a command normally carries its
code with bit 15 set, and an association is answered with an older code.
-/

namespace Libertas

/-- `CMD_RET`: the usual reply code of a command. -/
def cmdRet (cmd : UInt16) : UInt16 :=
  0x8000 ||| cmd

/-- The exceptional reply code of an association. -/
def cmdRet80211Associate : UInt16 := 0x8012

def cmdGetHwSpec : UInt16 := 0x0003
def cmd80211Reset : UInt16 := 0x0005
def cmd80211Scan : UInt16 := 0x0006
def cmd80211Authenticate : UInt16 := 0x0011
def cmd80211SnmpMib : UInt16 := 0x0016
def cmdMacRegAccess : UInt16 := 0x0019
def cmdBbpRegAccess : UInt16 := 0x001a
def cmdRfRegAccess : UInt16 := 0x001b
def cmd80211RfTxPower : UInt16 := 0x001e
def cmd80211Rssi : UInt16 := 0x001f
def cmd80211PsMode : UInt16 := 0x0021
def cmd80211Deauthenticate : UInt16 := 0x0024
def cmd80211Reassociate : UInt16 := 0x0025
def cmd80211Disassociate : UInt16 := 0x0026
def cmd80211AdHocStart : UInt16 := 0x002b
def cmd80211AdHocJoin : UInt16 := 0x002c
def cmd80211SetAfc : UInt16 := 0x003c
def cmd80211GetAfc : UInt16 := 0x003d
def cmd80211AdHocStop : UInt16 := 0x0040
def cmd80211LedGpioCtrl : UInt16 := 0x004e
def cmd80211Associate : UInt16 := 0x0050
def cmd80211dDomainInfo : UInt16 := 0x005b
def cmd80211TpcCfg : UInt16 := 0x0072
def cmdGetTsf : UInt16 := 0x0080
def cmdBtAccess : UInt16 := 0x0087
def cmdFwtAccess : UInt16 := 0x0095
def cmd80211MonitorMode : UInt16 := 0x0098
def cmd80211BeaconCtrl : UInt16 := 0x00b0

def cmdSubcmdEnterPs : UInt16 := 0x0030
def cmdSubcmdExitPs : UInt16 := 0x0031

def cmdActGet : UInt16 := 0x0000
def cmdActSet : UInt16 := 0x0001

/-- `RTSTHRESH_I`, `SHORT_RETRYLIM_I` and `FRAGTHRESH_I` of `enum SNMP_MIB_INDEX_e`. -/
def rtsthreshI : UInt16 := 5
def shortRetrylimI : UInt16 := 6
def fragthreshI : UInt16 := 8

def macregIntCodeLinkLostNoScan : UInt32 := 3
def macregIntCodeDeauthenticated : UInt32 := 8
def macregIntCodeDisassociated : UInt32 := 9
def macregIntCodePsAwake : UInt32 := 10
def macregIntCodePsSleep : UInt32 := 11
def macregIntCodeHostAwake : UInt32 := 18
def macregIntCodeMeshAutoStarted : UInt32 := 35

abbrev lbsNumCmdBuffers : Nat := 10
def lbsCmdBufferSize : Nat := 2 * 1024

/-- `S_DS_GEN`, the size of a command header. -/
def sDsGen : Nat := 8

def ethAlen : Nat := 6
def iwEssidMaxSize : Nat := 32
def maxWpaIeLen : Nat := 64

/-- `IW_MODE_ADHOC` and `IW_MODE_INFRA` of the wireless extensions. -/
def iwModeAdhoc : UInt8 := 1
def iwModeInfra : UInt8 := 2

/-- `LBS802_11POWERMODECAM`: power saving is switched off. -/
def lbs80211PowermodeCam : UInt16 := 0

def eTimedOut : Int := 110
def eNoEnt : Int := 2
def eNoBufs : Int := 105

end Libertas

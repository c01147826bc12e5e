import Libertas.Assoc.Associate
import Libertas.Assoc.KeyMaterial
import Libertas.Cmd.Outcome
import Libertas.Radio
import Libertas.Rx.Packet

/-!
# Functions that send one command

The functions of `cmd.c` over `lbs_cmd_with_response` fill a structure on the
stack, send it and take something from the response: for a caller, or for the
private structure. `CmdPriv.send` is what they share; each of them passes its
command and what it does with a response.

What was on the stack before is part of the input: some of the structures are not
cleared.
-/

namespace Libertas

open ByteOrder

/-- The codes of the commands. -/
def cmd80211SetWep : UInt16 := 0x0013
def cmd80211RfChannel : UInt16 := 0x001d
def cmd80211DataRate : UInt16 := 0x0022
def cmd80211EnableRsn : UInt16 := 0x002f
def cmd80211HostSleepCfg : UInt16 := 0x0043
def cmd80211KeyMaterial : UInt16 := 0x005e
def cmd80211SleepParams : UInt16 := 0x0066
def cmd80211InactivityTimeout : UInt16 := 0x0067
def cmd80211RateAdaptRateset : UInt16 := 0x0076

/-- `CMD_ACT_ADD`, `CMD_ACT_REMOVE` and the constants of `CMD_802_11_SET_WEP`. -/
def cmdActAdd : UInt16 := 0x0002
def cmdActRemove : UInt16 := 0x0004
def cmdTypeWep40Bit : UInt8 := 1
def cmdTypeWep104Bit : UInt8 := 2
def cmdWepKeyIndexMask : UInt16 := 0x3fff

/-- `CMD_ENABLE_RSN` and `CMD_DISABLE_RSN`. -/
def cmdEnableRsn : UInt16 := 1
def cmdDisableRsn : UInt16 := 0

/-- `CMD_OPT_802_11_RF_CHANNEL_*` and `CMD_ACT_SET_TX_*`. -/
def cmdOptRfChannelGet : UInt16 := 0
def cmdOptRfChannelSet : UInt16 := 1
def cmdActSetTxAuto : UInt16 := 0
def cmdActSetTxFixRate : UInt16 := 1

/-- The part of `struct lbs_private` that these functions use. -/
structure CmdPriv where
  wolCriteria : UInt32
  wolGpio : UInt8
  wolGap : UInt8
  rates : RateSettings
  ratebitmap : UInt16
  radio : RadioPriv
  assoc : AssocPriv
deriving DecidableEq, Repr

/-- `struct sleep_params`. -/
structure SleepParams where
  spError : UInt16
  spOffset : UInt16
  spStabletime : UInt16
  spCalcontrol : UInt8
  spExtsleepclk : UInt8
  spReserved : UInt16
deriving DecidableEq, Repr

/-- The end of such a function: what it returns, its output parameters, the private structure, and
the command that it sent, if any. -/
structure CmdEnd (α : Type) where
  ret : Int
  out : α
  priv : CmdPriv
  sent : Option Request

/-- Other names for the output parameters. -/
def CmdEnd.map {α β : Type} (f : α → β) (e : CmdEnd α) : CmdEnd β :=
  { ret := e.ret, out := f e.out, priv := e.priv, sent := e.sent }

/-- The `struct cmd_header` of a command on the stack, when its code and size are written. -/
def commandHeader (command size : UInt16) (stack : List UInt8) : List UInt8 :=
  le16Bytes command ++ le16Bytes size ++ slice stack 4 4

/-- The same when only its size is written. -/
def sizeHeader (size : UInt16) (stack : List UInt8) : List UInt8 :=
  slice stack 0 2 ++ le16Bytes size ++ slice stack 4 4

theorem respSize_commandHeader (command size : UInt16) (stack rest : List UInt8) :
    respSize (commandHeader command size stack ++ rest) = size := by
  have read := le16At_append (le16Bytes command) (slice stack 4 4 ++ rest) size
  rw [commandHeader, List.append_assoc]
  exact read

/-- `lbs_data_rate_to_fw_index`. -/
def lbsDataRateToFwIndex (rate : UInt8) : UInt8 :=
  if rate = 0 then 0
  else if rate ∈ fwDataRates then UInt8.ofNat (fwDataRates.idxOf rate)
  else 0

/-- `lbs_rate_to_fw_bitmap`. -/
def lbsRateToFwBitmap (rate : UInt8) (lowerRatesOk : Bool) : UInt16 :=
  let i := (lbsDataRateToFwIndex rate).toUInt16
  if lowerRatesOk then 0x1fef >>> (12 - i) else 1 <<< i

/-- The key type that `lbs_cmd_802_11_set_wep` writes for a key; `none` for an invalid length. -/
def wepKeyType (key : EncKey) : Option UInt8 :=
  if key.len = keyLenWep40 then some cmdTypeWep40Bit
  else if key.len = keyLenWep104 then some cmdTypeWep104Bit
  else if key.len = 0 then some 0
  else none

/-- The bytes of a key in the command. -/
def wepKeyMaterial (key : EncKey) : List UInt8 :=
  overwrite (slice key.key 0 key.len.toNat) (List.replicate 16 0)

namespace CmdPriv

variable (priv : CmdPriv)

/-- The private structure of `lbs_init_adapter`, after `lbs_add_card` has set the wake-up
criteria. -/
def init : CmdPriv :=
  { wolCriteria := 0xffffffff, wolGpio := 0xff, wolGap := 0
    rates := { enablehwauto := 1, curRate := 0 }, ratebitmap := 0, radio := .init
    assoc := .fresh { enable11d := false, regionChannel := [], universalChannel := [] } }

/-- Send a command. When it does not fail, the response gives the output parameters and the new
private structure. -/
def send {α : Type} (cmdNo : UInt16) (cmd : List UInt8) (outcome : CmdOutcome) (out : α)
    (done : List UInt8 → α × CmdPriv) : CmdEnd α :=
  let (ret, resp) := lbsCmdWithResponse cmdNo cmd outcome
  let (out, priv) := if ret = 0 then done resp else (out, priv)
  { ret := ret, out := out, priv := priv, sent := some (withResponseRequest cmdNo cmd) }

/-- A function returns before it sends anything. -/
def unsent (ret : Int) : CmdEnd Unit :=
  { ret := ret, out := (), priv := priv, sent := none }

section Functions

variable (stack : List UInt8) (outcome : CmdOutcome)

/-- `lbs_host_sleep_cfg`. -/
def lbsHostSleepCfg (criteria : UInt32) : CmdEnd Unit :=
  priv.send cmd80211HostSleepCfg
    (sizeHeader 14 stack ++ le32Bytes criteria ++ [priv.wolGpio, priv.wolGap]) outcome ()
    fun _ => ((), { priv with wolCriteria := criteria })

/-- `lbs_cmd_802_11_inactivity_timeout`. It does not return the result of its command. -/
def lbsCmd80211InactivityTimeout (cmdAction timeout : UInt16) : CmdEnd UInt16 :=
  let sent := priv.send cmd80211InactivityTimeout
    (commandHeader cmd80211InactivityTimeout 12 stack ++ le16Bytes cmdAction ++
      le16Bytes (if cmdAction = cmdActSet then timeout else 0)) outcome timeout
    fun cmd => (le16At cmd 10, priv)
  { sent with ret := 0 }

/-- `lbs_cmd_802_11_sleep_params`. It does not return the result of its command. -/
def lbsCmd80211SleepParams (cmdAction : UInt16) (sp : SleepParams) : CmdEnd SleepParams :=
  let fields :=
    if cmdAction = cmdActGet then List.replicate 10 0
    else
      le16Bytes sp.spError ++ le16Bytes sp.spOffset ++ le16Bytes sp.spStabletime ++
        [sp.spCalcontrol, sp.spExtsleepclk] ++ le16Bytes sp.spReserved
  let header := sizeHeader 20 (if cmdAction = cmdActGet then [] else stack)
  let sent := priv.send cmd80211SleepParams (header ++ le16Bytes cmdAction ++ fields) outcome sp
    fun cmd =>
      ({ spError := le16At cmd 10, spOffset := le16At cmd 12, spStabletime := le16At cmd 14
         spCalcontrol := byteAt cmd 16, spExtsleepclk := byteAt cmd 17
         spReserved := le16At cmd 18 }, priv)
  { sent with ret := 0 }

/-- `lbs_cmd_802_11_set_wep`. -/
def lbsCmd80211SetWep (cmdAction : UInt16) (assoc : AssocRequest) : CmdEnd Unit :=
  let command := fun (keyindex : UInt16) (keys : List UInt8) =>
    commandHeader cmd80211SetWep 80 [] ++ le16Bytes cmdAction ++ le16Bytes keyindex ++ keys
  if cmdAction = cmdActAdd then
    match assoc.wepKeys.toList.mapM wepKeyType with
    | none => priv.unsent (-1)
    | some types =>
        priv.send cmd80211SetWep
          (command (assoc.wepTxKeyidx &&& cmdWepKeyIndexMask)
            (types ++ assoc.wepKeys.toList.flatMap wepKeyMaterial)) outcome ()
          fun _ => ((), priv)
  else
    let keyindex :=
      if cmdAction = cmdActRemove then priv.assoc.wepTxKeyidx &&& cmdWepKeyIndexMask else 0
    priv.send cmd80211SetWep (command keyindex (List.replicate 68 0)) outcome ()
      fun _ => ((), priv)

/-- `lbs_cmd_802_11_enable_rsn`. -/
def lbsCmd80211EnableRsn (cmdAction enable : UInt16) : CmdEnd UInt16 :=
  let value :=
    if cmdAction = cmdActGet then 0
    else if enable ≠ 0 then cmdEnableRsn
    else cmdDisableRsn
  priv.send cmd80211EnableRsn
    (sizeHeader 12 stack ++ le16Bytes cmdAction ++ le16Bytes value) outcome enable
    fun cmd => (if cmdAction = cmdActGet then le16At cmd 10 else enable, priv)

/-- `lbs_cmd_802_11_key_material`. The GET form sends the header and the action alone. -/
def lbsCmd80211KeyMaterial (cmdAction : UInt16) (assoc : AssocRequest) : CmdEnd Unit :=
  if cmdAction = cmdActGet then
    priv.send cmd80211KeyMaterial
      (sizeHeader 10 stack ++ le16Bytes cmdAction ++ slice stack 10 keyParamAreaSize) outcome ()
      fun cmd => ((), { priv with assoc := keyLoop (cmd.drop 10) keyParamAreaSize 0 priv.assoc })
  else
    priv.send cmd80211KeyMaterial
      (sizeHeader (keyMaterialSetSize assoc) stack ++ le16Bytes cmdAction ++ keyParamArea assoc)
      outcome () fun _ => ((), priv)

/-- `lbs_cmd_802_11_rate_adapt_rateset`. -/
def lbsCmd80211RateAdaptRateset (cmdAction : UInt16) : CmdEnd Unit :=
  if priv.rates.curRate = 0 ∧ priv.rates.enablehwauto = 0 then priv.unsent (-eInval)
  else
    priv.send cmd80211RateAdaptRateset
      (sizeHeader 14 stack ++ le16Bytes cmdAction ++ le16Bytes priv.rates.enablehwauto ++
        le16Bytes (lbsRateToFwBitmap priv.rates.curRate (priv.rates.enablehwauto ≠ 0)))
      outcome ()
      fun cmd =>
        ((), if cmdAction = cmdActGet then
          { priv with
            ratebitmap := le16At cmd 12
            rates := { priv.rates with enablehwauto := le16At cmd 10 } }
          else priv)

/-- `lbs_set_data_rate`. A rate without an index is not sent, and zero is returned. -/
def lbsSetDataRate (rate : UInt8) : CmdEnd Unit :=
  let command := fun (action : UInt16) (first : UInt8) =>
    sizeHeader 26 [] ++ le16Bytes action ++ [0, 0] ++ first :: List.replicate (maxRates - 1) 0
  let cached := fun cmd =>
    ((), { priv with
      rates := { priv.rates with curRate := lbsFwIndexToDataRate (byteAt cmd 12) } })
  if rate > 0 then
    if lbsDataRateToFwIndex rate = 0 then priv.unsent 0
    else
      priv.send cmd80211DataRate (command cmdActSetTxFixRate (lbsDataRateToFwIndex rate)) outcome
        () cached
  else priv.send cmd80211DataRate (command cmdActSetTxAuto 0) outcome () cached

/-- `struct cmd_ds_802_11_rf_channel`. -/
def rfChannelCmd (action channel : UInt16) : List UInt8 :=
  sizeHeader 48 [] ++ le16Bytes action ++ le16Bytes channel ++ List.replicate 36 0

/-- `curbssparams.channel`. -/
def channel : UInt8 :=
  priv.assoc.curbssparams.channel

/-- `priv->curbssparams.channel = channel`. -/
def setChannel (channel : UInt8) : CmdPriv :=
  { priv with assoc := { priv.assoc with
      curbssparams := { priv.assoc.curbssparams with channel := channel } } }

/-- `lbs_set_channel`. -/
def lbsSetChannel (channel : UInt8) : CmdEnd Unit :=
  priv.send cmd80211RfChannel (rfChannelCmd cmdOptRfChannelSet channel.toUInt16) outcome ()
    fun cmd => ((), priv.setChannel (le16At cmd 10).toUInt8)

/-- `lbs_set_radio_control`. -/
def lbsSetRadioControl : CmdEnd Unit :=
  priv.send cmd80211RadioControl (sizeHeader 12 stack ++ priv.radio.lbsSetRadioControl) outcome ()
    fun _ => ((), priv)

end Functions

end CmdPriv

/-- A call of one of these functions, with what its output parameters hold. -/
inductive WrapperCall
  | hostSleepCfg (criteria : UInt32)
  | inactivityTimeout (cmdAction timeout : UInt16)
  | sleepParams (cmdAction : UInt16) (sp : SleepParams)
  | setWep (cmdAction : UInt16) (assoc : AssocRequest)
  | enableRsn (cmdAction enable : UInt16)
  | keyMaterial (cmdAction : UInt16) (assoc : AssocRequest)
  | rateAdaptRateset (cmdAction : UInt16)
  | setDataRate (rate : UInt8)
  | setChannel (channel : UInt8)
  | setRadioControl

namespace WrapperCall

/-- The call, and its output parameters behind it. -/
def run (priv : CmdPriv) (stack : List UInt8) (outcome : CmdOutcome) :
    WrapperCall → CmdEnd WrapperCall
  | hostSleepCfg criteria =>
      (priv.lbsHostSleepCfg stack outcome criteria).map fun _ => hostSleepCfg criteria
  | inactivityTimeout cmdAction timeout =>
      (priv.lbsCmd80211InactivityTimeout stack outcome cmdAction timeout).map
        (inactivityTimeout cmdAction)
  | sleepParams cmdAction sp =>
      (priv.lbsCmd80211SleepParams stack outcome cmdAction sp).map (sleepParams cmdAction)
  | setWep cmdAction assoc =>
      (priv.lbsCmd80211SetWep outcome cmdAction assoc).map fun _ => setWep cmdAction assoc
  | enableRsn cmdAction enable =>
      (priv.lbsCmd80211EnableRsn stack outcome cmdAction enable).map (enableRsn cmdAction)
  | keyMaterial cmdAction assoc =>
      (priv.lbsCmd80211KeyMaterial stack outcome cmdAction assoc).map
        fun _ => keyMaterial cmdAction assoc
  | rateAdaptRateset cmdAction =>
      (priv.lbsCmd80211RateAdaptRateset stack outcome cmdAction).map
        fun _ => rateAdaptRateset cmdAction
  | setDataRate rate => (priv.lbsSetDataRate outcome rate).map fun _ => setDataRate rate
  | setChannel channel => (priv.lbsSetChannel outcome channel).map fun _ => setChannel channel
  | setRadioControl => (priv.lbsSetRadioControl stack outcome).map fun _ => setRadioControl

/-- The functions that return zero whatever the result of their command is. -/
def ignoresResult : WrapperCall → Bool
  | inactivityTimeout _ _ | sleepParams _ _ => true
  | hostSleepCfg _ | setWep _ _ | enableRsn _ _ | keyMaterial _ _ | rateAdaptRateset _
  | setDataRate _ | setChannel _ | setRadioControl => false

end WrapperCall

/-- The function reports an error, and leaves its output parameters and the private structure as
they were. -/
structure CmdEnd.Reports {α : Type} (e : CmdEnd α) (out : α) (priv : CmdPriv) : Prop where
  ret : e.ret ≠ 0
  out : e.out = out
  priv : e.priv = priv

section Failure

variable {α : Type} {priv : CmdPriv} {stack : List UInt8} {outcome : CmdOutcome} {cmdNo : UInt16}
  {cmd : List UInt8} {out : α} {done : List UInt8 → α × CmdPriv}

/-- A command that fails. -/
theorem CmdPriv.send_of_failed (failed : outcome.ret ≠ 0) :
    priv.send cmdNo cmd outcome out done =
      { ret := outcome.ret, out := out, priv := priv
        sent := some (withResponseRequest cmdNo cmd) } := by
  rw [CmdPriv.send, lbsCmdWithResponse]
  simp only [if_neg failed]

theorem CmdPriv.send_reports (failed : outcome.ret ≠ 0) :
    (priv.send cmdNo cmd outcome out done).Reports out priv := by
  rw [send_of_failed failed]
  exact ⟨failed, rfl, rfl⟩

theorem CmdEnd.Reports.map {β : Type} {e : CmdEnd α} (f : α → β) (reports : e.Reports out priv) :
    (e.map f).Reports (f out) priv :=
  ⟨reports.ret, congrArg f reports.out, reports.priv⟩

namespace CmdPriv

/-! What each function does when its command fails. -/

theorem lbsHostSleepCfg_reports (failed : outcome.ret ≠ 0) (criteria : UInt32) :
    (priv.lbsHostSleepCfg stack outcome criteria).Reports () priv :=
  send_reports failed

theorem lbsCmd80211SetWep_reports (failed : outcome.ret ≠ 0) {cmdAction : UInt16}
    {assoc : AssocRequest} (sent : (priv.lbsCmd80211SetWep outcome cmdAction assoc).sent ≠ none) :
    (priv.lbsCmd80211SetWep outcome cmdAction assoc).Reports () priv := by
  rw [lbsCmd80211SetWep] at sent ⊢
  dsimp only at sent ⊢
  by_cases add : cmdAction = cmdActAdd
  · rw [if_pos add] at sent ⊢
    cases valid : assoc.wepKeys.toList.mapM wepKeyType with
    | none =>
        rw [valid] at sent
        exact absurd rfl sent
    | some types => exact send_reports failed
  · rw [if_neg add]
    exact send_reports failed

theorem lbsCmd80211EnableRsn_reports (failed : outcome.ret ≠ 0) (cmdAction enable : UInt16) :
    (priv.lbsCmd80211EnableRsn stack outcome cmdAction enable).Reports enable priv := by
  rw [lbsCmd80211EnableRsn]
  exact send_reports failed

theorem lbsCmd80211KeyMaterial_reports (failed : outcome.ret ≠ 0) (cmdAction : UInt16)
    (assoc : AssocRequest) :
    (priv.lbsCmd80211KeyMaterial stack outcome cmdAction assoc).Reports () priv := by
  rw [lbsCmd80211KeyMaterial]
  split
  · exact send_reports failed
  · exact send_reports failed

theorem lbsCmd80211RateAdaptRateset_reports (failed : outcome.ret ≠ 0) {cmdAction : UInt16}
    (sent : (priv.lbsCmd80211RateAdaptRateset stack outcome cmdAction).sent ≠ none) :
    (priv.lbsCmd80211RateAdaptRateset stack outcome cmdAction).Reports () priv := by
  rw [lbsCmd80211RateAdaptRateset] at sent ⊢
  by_cases unset : priv.rates.curRate = 0 ∧ priv.rates.enablehwauto = 0
  · rw [if_pos unset] at sent
    exact absurd rfl sent
  · rw [if_neg unset]
    exact send_reports failed

theorem lbsSetDataRate_reports (failed : outcome.ret ≠ 0) {rate : UInt8}
    (sent : (priv.lbsSetDataRate outcome rate).sent ≠ none) :
    (priv.lbsSetDataRate outcome rate).Reports () priv := by
  rw [lbsSetDataRate] at sent ⊢
  dsimp only at sent ⊢
  by_cases fixed : rate > 0
  · rw [if_pos fixed] at sent ⊢
    by_cases unknown : lbsDataRateToFwIndex rate = 0
    · rw [if_pos unknown] at sent
      exact absurd rfl sent
    · rw [if_neg unknown]
      exact send_reports failed
  · rw [if_neg fixed]
    exact send_reports failed

theorem lbsSetChannel_reports (failed : outcome.ret ≠ 0) (channel : UInt8) :
    (priv.lbsSetChannel outcome channel).Reports () priv :=
  send_reports failed

theorem lbsSetRadioControl_reports (failed : outcome.ret ≠ 0) :
    (priv.lbsSetRadioControl stack outcome).Reports () priv :=
  send_reports failed

end CmdPriv

namespace WrapperCall

/-- The functions that return the result of their command report its failure. -/
theorem reports {call : WrapperCall} (failed : outcome.ret ≠ 0)
    (sent : (call.run priv stack outcome).sent ≠ none) (returns : call.ignoresResult = false) :
    (call.run priv stack outcome).Reports call priv := by
  cases call with
  | inactivityTimeout cmdAction timeout => cases returns
  | sleepParams cmdAction sp => cases returns
  | hostSleepCfg criteria =>
      exact (CmdPriv.lbsHostSleepCfg_reports failed criteria).map fun _ => hostSleepCfg criteria
  | setWep cmdAction assoc =>
      exact (CmdPriv.lbsCmd80211SetWep_reports failed sent).map fun _ => setWep cmdAction assoc
  | enableRsn cmdAction enable =>
      exact (CmdPriv.lbsCmd80211EnableRsn_reports failed cmdAction enable).map (enableRsn cmdAction)
  | keyMaterial cmdAction assoc =>
      exact (CmdPriv.lbsCmd80211KeyMaterial_reports failed cmdAction assoc).map
        fun _ => keyMaterial cmdAction assoc
  | rateAdaptRateset cmdAction =>
      exact (CmdPriv.lbsCmd80211RateAdaptRateset_reports failed sent).map
        fun _ => rateAdaptRateset cmdAction
  | setDataRate rate =>
      exact (CmdPriv.lbsSetDataRate_reports failed sent).map fun _ => setDataRate rate
  | setChannel channel =>
      exact (CmdPriv.lbsSetChannel_reports failed channel).map fun _ => setChannel channel
  | setRadioControl =>
      exact (CmdPriv.lbsSetRadioControl_reports failed).map fun _ => setRadioControl

/-- The others return zero. -/
theorem ret_of_ignoresResult {call : WrapperCall} (ignores : call.ignoresResult = true) :
    (call.run priv stack outcome).ret = 0 := by
  cases call with
  | inactivityTimeout cmdAction timeout => rfl
  | sleepParams cmdAction sp => rfl
  | hostSleepCfg _ | setWep _ _ | enableRsn _ _ | keyMaterial _ _ | rateAdaptRateset _
  | setDataRate _ | setChannel _ | setRadioControl => cases ignores

end WrapperCall

end Failure

/-- A function whose command fails reports it and changes nothing, if and only if it is not one of
the two that ignore the result. -/
theorem wrapper_reports_iff (call : WrapperCall) (priv : CmdPriv) (stack : List UInt8)
    (outcome : CmdOutcome) (failed : outcome.ret ≠ 0)
    (sent : (call.run priv stack outcome).sent ≠ none) :
    (call.run priv stack outcome).Reports call priv ↔ call.ignoresResult = false := by
  constructor
  · intro reports
    cases ignores : call.ignoresResult with
    | false => rfl
    | true => exact absurd (call.ret_of_ignoresResult ignores) reports.ret
  · exact WrapperCall.reports failed sent

/-- A command that the firmware refuses. -/
def refusedCommand : CmdOutcome :=
  .answered ⟨[0x1d, 0x80, 8, 0, 1, 0, 1, 0], by decide, by decide⟩

/-- The firmware refuses a channel. -/
theorem wrapper_reports_channel :
    ((WrapperCall.setChannel 14).run .init [] refusedCommand).Reports (.setChannel 14) .init :=
  (wrapper_reports_iff (.setChannel 14) .init [] refusedCommand (by decide) nofun).mpr rfl

/-- The firmware refuses to tell the sleep parameters, and the caller is told that it did. -/
theorem sleep_params_swallowed : ¬ ∀ (call : WrapperCall) (priv : CmdPriv) (stack : List UInt8)
    (outcome : CmdOutcome), outcome.ret ≠ 0 → (call.run priv stack outcome).sent ≠ none →
      (call.run priv stack outcome).Reports call priv := by
  intro reports
  have failed := reports (.sleepParams cmdActGet ⟨0, 0, 0, 0, 0, 0⟩) .init [] refusedCommand
    (by decide) nofun
  exact failed.ret rfl

end Libertas

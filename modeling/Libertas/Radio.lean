import Libertas.Assoc.Setters
import Libertas.Cmd.Prepare

/-!
# Switching the radio

`lbs_set_txpow` switches the radio with `lbs_radio_ioctl`, which writes
`priv->radioon` and then calls `lbs_prepare_and_send_command`. What becomes of a
command that is sent comes with the call.

`completed` is not in the source: the commands that were completed successfully
with their bodies, newest first.
-/

namespace Libertas

/-- `CMD_802_11_RADIO_CONTROL`. -/
def cmd80211RadioControl : UInt16 := 0x001c

/-- `RADIO_ON`, `RADIO_OFF` and `TURN_ON_RF`. -/
def radioOn : UInt8 := 1
def radioOff : UInt8 := 0
def turnOnRf : UInt16 := 1

/-- `CMD_TYPE_*_PREAMBLE` and `SET_*_PREAMBLE`. -/
def cmdTypeAutoPreamble : UInt32 := 1
def cmdTypeShortPreamble : UInt32 := 2
def cmdTypeLongPreamble : UInt32 := 3
def setAutoPreamble : UInt16 := 5
def setShortPreamble : UInt16 := 3
def setLongPreamble : UInt16 := 1

/-- `IW_TXPOW_TYPE` and `IW_TXPOW_MWATT`. -/
def iwTxpowType : UInt16 := 0x00ff
def iwTxpowMwatt : UInt16 := 1

/-- `CMD_ACT_TX_POWER_OPT_SET_LOW`. -/
def actTxPowerOptSetLow : UInt16 := 0x8000

/-- The fields of the private structure that are about the radio. -/
structure RadioPriv where
  radioon : UInt8
  preamble : UInt32
  completed : List (UInt16 × List UInt8)
deriving DecidableEq, Repr

/-- What becomes of a command: what the call returns, and whether the card completed it. -/
structure SendAnswer where
  ret : Int
  completed : Bool
deriving DecidableEq, Repr

/-- `struct iw_param`. -/
structure IwParam where
  value : Int32
  fixed : UInt8
  disabled : UInt8
  flags : UInt16
deriving DecidableEq, Repr

/-- The request of `lbs_radio_ioctl`. -/
def radioIoctlRequest : Request :=
  { kind := .prepareAndSend true, cmdNo := cmd80211RadioControl, cmdAction := cmdActSet
    content := none, buffer := none }

/-- The request of `lbs_set_txpow`, with what `lbs_cmd_802_11_rf_tx_power` writes. -/
def rfTxPowerRequest (dbm : UInt16) : Request :=
  { kind := .prepareAndSend true, cmdNo := cmd80211RfTxPower, cmdAction := actTxPowerOptSetLow
    content := some (12, ByteOrder.le16Bytes cmdActSet ++ ByteOrder.le16Bytes dbm)
    buffer := some (ByteOrder.le16Bytes dbm) }

namespace RadioPriv

variable (priv : RadioPriv)

/-- `lbs_prepare_and_send_command`: a command that is not prepared is not sent. -/
def send (req : Request) (answer : SendAnswer) : Int × RadioPriv :=
  match req.prepare with
  | .failed => (-1, priv)
  | .unsubmitted => (answer.ret, priv)
  | .ready command _ body =>
      (answer.ret,
        if answer.completed then { priv with completed := (command, body) :: priv.completed }
        else priv)

/-- `lbs_radio_ioctl`. -/
def lbsRadioIoctl (option : UInt8) (answer : SendAnswer) : Int × RadioPriv :=
  if priv.radioon ≠ option then { priv with radioon := option }.send radioIoctlRequest answer
  else (0, priv)

/-- `lbs_set_txpow`, with the answers to its two commands. -/
def lbsSetTxpow (vwrq : IwParam) (radio power : SendAnswer) : Int × RadioPriv :=
  if vwrq.disabled ≠ 0 then (0, (priv.lbsRadioIoctl radioOff radio).2)
  else
    let priv := ({ priv with preamble := cmdTypeAutoPreamble }.lbsRadioIoctl radioOn radio).2
    if vwrq.flags &&& iwTxpowType = iwTxpowMwatt then (-eOpNotSupp, priv)
    else
      let dbm := if vwrq.fixed = 0 then 0xffff else UInt16.ofInt vwrq.value.toInt
      priv.send (rfTxPowerRequest dbm) power

/-- The body of the command that `lbs_set_radio_control` sends. -/
def lbsSetRadioControl : List UInt8 :=
  let control :=
    if priv.preamble = cmdTypeShortPreamble then setShortPreamble
    else if priv.preamble = cmdTypeLongPreamble then setLongPreamble
    else setAutoPreamble
  ByteOrder.le16Bytes cmdActSet ++ ByteOrder.le16Bytes
    (if priv.radioon ≠ 0 then control ||| turnOnRf else control &&& ~~~turnOnRf)

end RadioPriv

/-- The state of the radio in the body of a `CMD_802_11_RADIO_CONTROL`. -/
def controlState (body : List UInt8) : Bool :=
  ByteOrder.le16At body 2 &&& turnOnRf ≠ 0

/-- The state of the radio in the last `CMD_802_11_RADIO_CONTROL` that was completed. The radio
is on at the start. -/
def cardRadio (completed : List (UInt16 × List UInt8)) : Bool :=
  match completed.find? (·.1 = cmd80211RadioControl) with
  | none => true
  | some (_, body) => controlState body

/-- The private structure and the card agree about the radio. -/
def RadioAgrees (priv : RadioPriv) : Prop :=
  cardRadio priv.completed = decide (priv.radioon ≠ 0)

instance (priv : RadioPriv) : Decidable (RadioAgrees priv) := by
  unfold RadioAgrees
  infer_instance

section Effects

variable {priv : RadioPriv}

/-- The switch over `cmd_no` has no case for the radio. -/
theorem prepare_radioIoctl : radioIoctlRequest.prepare = .failed := by
  decide

/-- The cached state is written, and no command is sent. -/
theorem lbsRadioIoctl_effect (priv : RadioPriv) (option : UInt8) (answer : SendAnswer) :
    (priv.lbsRadioIoctl option answer).2 = { priv with radioon := option } := by
  rw [RadioPriv.lbsRadioIoctl]
  split
  · rw [RadioPriv.send]
    rw [prepare_radioIoctl]
  · rename_i same
    rw [← not_not.mp same]

/-- Commands other than `CMD_802_11_RADIO_CONTROL` leave the radio alone. -/
theorem send_rfTxPower (priv : RadioPriv) (dbm : UInt16) (answer : SendAnswer) :
    (priv.send (rfTxPowerRequest dbm) answer).2.radioon = priv.radioon ∧
      cardRadio (priv.send (rfTxPowerRequest dbm) answer).2.completed =
        cardRadio priv.completed := by
  have prepared : (rfTxPowerRequest dbm).prepare = .ready cmd80211RfTxPower 12
      (ByteOrder.le16Bytes cmdActSet ++ ByteOrder.le16Bytes dbm) := rfl
  rw [RadioPriv.send]
  rw [prepared]
  dsimp only
  split
  · exact ⟨rfl, rfl⟩
  · exact ⟨rfl, rfl⟩

/-- A call writes the state it was asked for, and tells the card nothing about it. -/
theorem lbsSetTxpow_effect (priv : RadioPriv) (vwrq : IwParam) (radio power : SendAnswer) :
    (priv.lbsSetTxpow vwrq radio power).2.radioon =
        (if vwrq.disabled ≠ 0 then radioOff else radioOn) ∧
      cardRadio (priv.lbsSetTxpow vwrq radio power).2.completed = cardRadio priv.completed := by
  rw [RadioPriv.lbsSetTxpow]
  split
  · rw [lbsRadioIoctl_effect]
    exact ⟨rfl, rfl⟩
  · dsimp only
    rw [lbsRadioIoctl_effect]
    split
    · exact ⟨rfl, rfl⟩
    · exact send_rfTxPower _ _ power

end Effects

/-- A call of `lbs_set_txpow`, with the answers to its commands. -/
structure TxpowCall where
  vwrq : IwParam
  radio : SendAnswer
  power : SendAnswer
deriving DecidableEq, Repr

/-- Calls of `lbs_set_txpow`, one after the other. -/
def RadioPriv.txpows (priv : RadioPriv) (calls : List TxpowCall) : RadioPriv :=
  calls.foldl (fun priv call => (priv.lbsSetTxpow call.vwrq call.radio call.power).2) priv

theorem txpows_append (priv : RadioPriv) (front back : List TxpowCall) :
    priv.txpows (front ++ back) = (priv.txpows front).txpows back :=
  List.foldl_append

/-- No sequence of calls tells the card anything about its radio. -/
theorem cardRadio_txpows (priv : RadioPriv) (calls : List TxpowCall) :
    cardRadio (priv.txpows calls).completed = cardRadio priv.completed := by
  induction calls generalizing priv with
  | nil => rfl
  | cons call rest ih =>
      obtain ⟨_, same⟩ := lbsSetTxpow_effect priv call.vwrq call.radio call.power
      exact (ih _).trans same

/-- After calls that leave the radio on, it is on. -/
theorem radioon_txpows {priv : RadioPriv} (on : priv.radioon = radioOn) {calls : List TxpowCall}
    (enabled : ∀ call ∈ calls, call.vwrq.disabled = 0) :
    (priv.txpows calls).radioon = radioOn := by
  induction calls generalizing priv with
  | nil => exact on
  | cons call rest ih =>
      obtain ⟨written, _⟩ := lbsSetTxpow_effect priv call.vwrq call.radio call.power
      rw [if_neg (not_not.mpr (enabled call List.mem_cons_self))] at written
      exact ih written fun later member => enabled later (List.mem_cons_of_mem _ member)

/-- The private structure and the card agree after each call exactly if no call switches the
radio off. -/
theorem radio_agrees_iff {priv : RadioPriv} (on : priv.radioon = radioOn)
    (start : cardRadio priv.completed = true) (calls : List TxpowCall) :
    (∀ front, front <+: calls → RadioAgrees (priv.txpows front)) ↔
      ∀ call ∈ calls, call.vwrq.disabled = 0 := by
  constructor
  · intro agrees call member
    obtain ⟨front, back, rfl⟩ := List.append_of_mem member
    have agree := agrees (front ++ [call]) ⟨back, by simp⟩
    rw [RadioAgrees] at agree
    rw [cardRadio_txpows, start, txpows_append] at agree
    obtain ⟨written, _⟩ :=
      lbsSetTxpow_effect (priv.txpows front) call.vwrq call.radio call.power
    have stillOn : ((priv.txpows front).txpows [call]).radioon ≠ 0 := of_decide_eq_true agree.symm
    by_contra disabled
    rw [if_pos disabled] at written
    exact stillOn written
  · intro enabled front isPrefix
    have kept := radioon_txpows on fun call member => enabled call (isPrefix.subset member)
    rw [RadioAgrees]
    rw [cardRadio_txpows, start, kept]
    rfl

/-- The power is set to 10 dBm. -/
def tenDbm : TxpowCall :=
  { vwrq := { value := 10, fixed := 1, disabled := 0, flags := 0 }
    radio := { ret := 0, completed := true }, power := { ret := 0, completed := true } }

/-- The radio is switched off, and the card would do so. -/
def switchOff : TxpowCall :=
  { vwrq := { value := 0, fixed := 0, disabled := 1, flags := 0 }
    radio := { ret := 0, completed := true }, power := { ret := 0, completed := true } }

/-- The private structure of `lbs_init_adapter`. -/
def RadioPriv.init : RadioPriv :=
  { radioon := radioOn, preamble := 0, completed := [] }

theorem radio_agrees_tenDbm : (∀ front, front <+: [tenDbm] →
    RadioAgrees (RadioPriv.init.txpows front)) ↔ ∀ call ∈ [tenDbm], call.vwrq.disabled = 0 :=
  radio_agrees_iff rfl rfl [tenDbm]

/-- The radio counts as off, although no command was sent. -/
theorem radio_disagrees : ¬ ∀ calls front, front <+: calls →
    RadioAgrees (RadioPriv.init.txpows front) := by
  intro agrees
  have agree := agrees [switchOff] [switchOff] (List.prefix_refl _)
  revert agree
  decide

end Libertas

import Libertas.Cmd.Channel
import Libertas.Cmd.SnmpMib
import Libertas.Radio
import Libertas.Transition.Cells

/-!
# Thresholds and the retry limit

Two thresholds and the limit of the retries are objects of the card. The ioctls write and
read them with `CMD_802_11_SNMP_MIB`, and the driver keeps no other copy: a getter clears
its field and waits for the handler of the response to fill it.

The ioctls are called one after another, and no wait is interrupted.
-/

namespace Libertas

open ByteOrder Cells

/-- `MRVDRV_RTS_MIN_VALUE` and its companions. -/
def mrvdrvRtsMinValue : Int := 0
def mrvdrvRtsMaxValue : Int := 2347
def mrvdrvFragMinValue : Int := 256
def mrvdrvFragMaxValue : Int := 2346

/-- `TX_RETRY_MIN` and `TX_RETRY_MAX`. -/
def txRetryMin : Int := 0
def txRetryMax : Int := 14

/-- `IW_RETRY_LIMIT`. -/
def iwRetryLimit : UInt16 := 0x1000

/-- A card with objects. -/
structure MibCard (κ : Type) where
  object : κ → UInt16 → UInt16
  /-- The body of a command is executed. The card answers with the body of a response. -/
  execute : κ → List UInt8 → κ × List UInt8

/-- A card stores a number of two bytes that it is told to set, and answers with the number when
it is asked for one. -/
structure MibCard.Keeps {κ : Type} (card : MibCard κ) : Prop where
  set : ∀ c body, le16At body 0 = cmdActSet → le16At body 4 = 2 →
    card.object (card.execute c body).1 =
      write (card.object c) (some (le16At body 2, le16At body 6))
  get : ∀ c body, le16At body 0 = cmdActGet → card.object (card.execute c body).1 = card.object c
  answer : ∀ c body, le16At body 0 = cmdActGet →
    le16At (card.execute c body).2 0 = cmdActGet ∧
      le16At (card.execute c body).2 2 = le16At body 2 ∧
      le16At (card.execute c body).2 6 = card.object c (le16At body 2)

/-- How a command ends. -/
inductive MibEnd
  /-- There is no free node, or the card is gone. -/
  | unsent
  /-- The card reports an error, or there is no answer in time. -/
  | failed (executed : Bool)
  | answered (seqnum : UInt16)
deriving DecidableEq, Repr

/-- The card executes the command. -/
def MibEnd.executed : MibEnd → Bool
  | unsent => false
  | failed executed => executed
  | answered _ => true

/-- The response of the card in its slot. -/
def mibResponse (command size seqnum : UInt16) (answer : List UInt8) : List UInt8 :=
  le16Bytes (cmdRet command) ++ le16Bytes size ++ le16Bytes seqnum ++ le16Bytes 0 ++ answer

/-- The driver and the card. -/
structure MibState (κ : Type) where
  priv : Priv
  card : κ

/-- The thresholds. -/
inductive Threshold
  | rts
  | frag
deriving DecidableEq, Repr

namespace Threshold

def oid : Threshold → UInt32
  | rts => oid80211RtsThreshold
  | frag => oid80211FragmentationThreshold

def object : Threshold → UInt16
  | rts => rtsthreshI
  | frag => fragthreshI

def min : Threshold → Int
  | rts => mrvdrvRtsMinValue
  | frag => mrvdrvFragMinValue

def max : Threshold → Int
  | rts => mrvdrvRtsMaxValue
  | frag => mrvdrvFragMaxValue

/-- The field of the private structure. -/
def field (registers : Registers) : Threshold → UInt32
  | rts => registers.rtsthsd
  | frag => registers.fragthsd

def setField (registers : Registers) (value : UInt32) : Threshold → Registers
  | rts => { registers with rtsthsd := value }
  | frag => { registers with fragthsd := value }

end Threshold

namespace MibState

variable {κ : Type} (card : MibCard κ) (s : MibState κ)

def setRegisters (registers : Registers) : MibState κ :=
  { s with priv := { s.priv with registers := registers } }

/-- `lbs_prepare_and_send_command` for a command that waits, with the card and the main thread. -/
def send (req : Request) (result : MibEnd) : Int × MibState κ :=
  match req.prepare with
  | .ready command size body =>
      match result with
      | .unsent => (-1, s)
      | .failed executed =>
          (-1, if executed then { s with card := (card.execute s.card body).1 } else s)
      | .answered seqnum =>
          (0,
            { priv := (handleCmdResponse s.priv
                (mibResponse command size seqnum (card.execute s.card body).2)).priv
              card := (card.execute s.card body).1 })
  | _ => (-1, s)

/-- The command for an object. -/
def sendMib (cmdAction : UInt16) (cmdOid pdata : UInt32) (result : MibEnd) : Int × MibState κ :=
  s.send card (snmpMibRequest cmdAction
    (lbsCmd80211SnmpMib s.priv.registers.txretrycount cmdAction cmdOid pdata)) result

/-- What `lbs_set_rts` and `lbs_set_frag` share. -/
def setThreshold (threshold : Threshold) (vwrq : IwParam) (result : MibEnd) :
    Int × IwParam × MibState κ :=
  let thr : UInt32 :=
    if vwrq.disabled ≠ 0 then UInt32.ofInt threshold.max else vwrq.value.toUInt32
  if vwrq.disabled = 0 ∧ (thr.toNat < threshold.min ∨ threshold.max < thr.toNat) then
    (-eInval, vwrq, s)
  else
    let (ret, s) := (s.setRegisters (threshold.setField s.priv.registers thr)).sendMib card
      cmdActSet threshold.oid thr result
    (ret, vwrq, s)

/-- What `lbs_get_rts` and `lbs_get_frag` share. -/
def getThreshold (threshold : Threshold) (vwrq : IwParam) (result : MibEnd) :
    Int × IwParam × MibState κ :=
  let (ret, s) := (s.setRegisters (threshold.setField s.priv.registers 0)).sendMib card
    cmdActGet threshold.oid 0 result
  if ret ≠ 0 then (ret, vwrq, s)
  else
    let value := (threshold.field s.priv.registers).toInt32
    (0,
      { vwrq with
        value := value
        disabled := if value.toInt < threshold.min ∨ threshold.max < value.toInt then 1 else 0
        fixed := 1 }, s)

/-- `lbs_set_rts`, `lbs_get_rts`, `lbs_set_frag` and `lbs_get_frag`. -/
def lbsSetRts : IwParam → MibEnd → Int × IwParam × MibState κ := s.setThreshold card .rts
def lbsGetRts : IwParam → MibEnd → Int × IwParam × MibState κ := s.getThreshold card .rts
def lbsSetFrag : IwParam → MibEnd → Int × IwParam × MibState κ := s.setThreshold card .frag
def lbsGetFrag : IwParam → MibEnd → Int × IwParam × MibState κ := s.getThreshold card .frag

/-- `lbs_set_retry`. The builder takes the number of tries from the private structure. -/
def lbsSetRetry (vwrq : IwParam) (result : MibEnd) : Int × IwParam × MibState κ :=
  if vwrq.flags = iwRetryLimit then
    if vwrq.value.toInt < txRetryMin ∨ txRetryMax < vwrq.value.toInt then (-eInval, vwrq, s)
    else
      let tries := UInt8.ofInt (vwrq.value.toInt + 1)
      let (ret, s) := (s.setRegisters { s.priv.registers with txretrycount := tries }).sendMib card
        cmdActSet oid80211TxRetrycount 0 result
      (ret, vwrq, s)
  else (-eOpNotSupp, vwrq, s)

/-- `lbs_get_retry`. -/
def lbsGetRetry (vwrq : IwParam) (result : MibEnd) : Int × IwParam × MibState κ :=
  let (ret, s) := (s.setRegisters { s.priv.registers with txretrycount := 0 }).sendMib card
    cmdActGet oid80211TxRetrycount 0 result
  if ret ≠ 0 then (ret, vwrq, s)
  else
    (0,
      if vwrq.flags = 0 then
        { vwrq with
          disabled := 0
          flags := iwRetryLimit
          value := Int32.ofInt (s.priv.registers.txretrycount.toNat - 1) }
      else { vwrq with disabled := 0 }, s)

end MibState

/-- The ioctls with their parameter. -/
inductive MibIoctl
  | setThreshold (threshold : Threshold) (vwrq : IwParam)
  | getThreshold (threshold : Threshold) (vwrq : IwParam)
  | setRetry (vwrq : IwParam)
  | getRetry (vwrq : IwParam)
deriving DecidableEq, Repr

namespace MibIoctl

/-- The ioctl is called. -/
def run {κ : Type} (card : MibCard κ) (s : MibState κ) (result : MibEnd) :
    MibIoctl → Int × IwParam × MibState κ
  | setThreshold .rts vwrq => s.lbsSetRts card vwrq result
  | setThreshold .frag vwrq => s.lbsSetFrag card vwrq result
  | getThreshold .rts vwrq => s.lbsGetRts card vwrq result
  | getThreshold .frag vwrq => s.lbsGetFrag card vwrq result
  | setRetry vwrq => s.lbsSetRetry card vwrq result
  | getRetry vwrq => s.lbsGetRetry card vwrq result

/-- The object that a setter asks for, with its value. A threshold that is disabled is set to the
largest value, and the retries are counted as tries. -/
def asks : MibIoctl → Option (UInt16 × UInt16)
  | setThreshold threshold vwrq =>
      if vwrq.disabled ≠ 0 then some (threshold.object, UInt16.ofInt threshold.max)
      else if threshold.min ≤ vwrq.value.toInt ∧ vwrq.value.toInt ≤ threshold.max then
        some (threshold.object, UInt16.ofInt vwrq.value.toInt)
      else none
  | setRetry vwrq =>
      if vwrq.flags = iwRetryLimit ∧ txRetryMin ≤ vwrq.value.toInt ∧
          vwrq.value.toInt ≤ txRetryMax then
        some (shortRetrylimI, UInt16.ofInt (vwrq.value.toInt + 1))
      else none
  | getThreshold _ _ | getRetry _ => none

/-- What an ioctl returns for an error of its own. -/
def refusal : MibIoctl → Int
  | setRetry vwrq => if vwrq.flags = iwRetryLimit then -eInval else -eOpNotSupp
  | _ => -eInval

/-- What an ioctl returns and reports when the objects have these values. -/
def report (objects : UInt16 → UInt16) (answered : Bool) : MibIoctl → Int × IwParam
  | getThreshold threshold vwrq =>
      let value : Int := (objects threshold.object).toNat
      if answered then
        (0,
          { vwrq with
            value := Int32.ofInt value
            disabled := if value < threshold.min ∨ threshold.max < value then 1 else 0
            fixed := 1 })
      else (-1, vwrq)
  | getRetry vwrq =>
      if answered then
        (0,
          if vwrq.flags = 0 then
            { vwrq with
              disabled := 0
              flags := iwRetryLimit
              value := Int32.ofInt ((objects shortRetrylimI).toUInt8.toNat - 1) }
          else { vwrq with disabled := 0 })
      else (-1, vwrq)
  | setThreshold threshold vwrq =>
      (if (setThreshold threshold vwrq).asks = none then (setThreshold threshold vwrq).refusal
        else if answered then 0 else -1, vwrq)
  | setRetry vwrq =>
      (if (setRetry vwrq).asks = none then (setRetry vwrq).refusal
        else if answered then 0 else -1, vwrq)

end MibIoctl

/-- The command was answered. -/
def MibEnd.isAnswered : MibEnd → Bool
  | answered _ => true
  | _ => false

/-- One call of an ioctl after another. -/
def MibState.step {κ : Type} (card : MibCard κ) (s : MibState κ) (call : MibIoctl × MibEnd) :
    MibState κ :=
  (call.1.run card s call.2).2.2

/-- What a call stores in the card. -/
def mibEffect (call : MibIoctl × MibEnd) : Option (UInt16 × UInt16) :=
  if call.2.executed then call.1.asks else none

namespace SnmpMib

variable (mib : SnmpMib)

theorem le16At_querytype : le16At mib.bytes 0 = mib.querytype := by
  rw [bytes, List.append_assoc, List.append_assoc]
  exact le16At_le16Bytes _ _

theorem le16At_oid : le16At mib.bytes 2 = mib.oid := by
  have read := le16At_append (le16Bytes mib.querytype)
    (le16Bytes mib.bufsize ++ overwrite mib.value (List.replicate 128 0)) mib.oid
  rwa [← List.append_assoc] at read

theorem le16At_bufsize : le16At mib.bytes 4 = mib.bufsize :=
  le16At_append (le16Bytes mib.querytype ++ le16Bytes mib.oid) _ mib.bufsize

theorem le16At_value {value : UInt16} (stored : mib.value = le16Bytes value) :
    le16At mib.bytes 6 = value := by
  rw [bytes, stored, overwrite, ← List.append_assoc]
  exact le16At_append (le16Bytes mib.querytype ++ le16Bytes mib.oid ++ le16Bytes mib.bufsize) _
    value

end SnmpMib

theorem snmpMibRequest_prepare (cmdAction : UInt16) (mib : SnmpMib) :
    (snmpMibRequest cmdAction mib).prepare =
      .ready cmd80211SnmpMib (UInt16.ofNat (sizeofSnmpMib + sDsGen)) mib.bytes :=
  rfl

section Objects

variable {κ : Type} {card : MibCard κ} {s : MibState κ} {result : MibEnd}
  {cmdAction object value : UInt16} {cmdOid pdata : UInt32}

theorem sendMib_ret :
    (s.sendMib card cmdAction cmdOid pdata result).1 = if result.isAnswered then 0 else -1 := by
  rw [MibState.sendMib, MibState.send, snmpMibRequest_prepare]
  cases result <;> rfl

/-- The card is where the command leaves it, if it gets there. -/
theorem sendMib_card :
    (s.sendMib card cmdAction cmdOid pdata result).2.card =
      if result.executed then
        (card.execute s.card (lbsCmd80211SnmpMib s.priv.registers.txretrycount cmdAction cmdOid
          pdata).bytes).1
      else s.card := by
  rw [MibState.sendMib, MibState.send, snmpMibRequest_prepare]
  cases result with
  | unsent => rfl
  | failed executed => cases executed <;> rfl
  | answered seqnum => rfl

theorem object_sendMib_set (keeps : card.Keeps)
    (built : lbsCmd80211SnmpMib s.priv.registers.txretrycount cmdActSet cmdOid pdata =
      numberMib object cmdActSet value) :
    card.object (s.sendMib card cmdActSet cmdOid pdata result).2.card =
      write (card.object s.card) (if result.executed then some (object, value) else none) := by
  rw [sendMib_card, built]
  cases result.executed with
  | false => rfl
  | true =>
      have stored := keeps.set s.card (numberMib object cmdActSet value).bytes
        (SnmpMib.le16At_querytype _) (SnmpMib.le16At_bufsize _)
      rw [SnmpMib.le16At_oid, SnmpMib.le16At_value (numberMib object cmdActSet value) rfl] at stored
      exact stored

theorem object_sendMib_get (keeps : card.Keeps)
    (built : lbsCmd80211SnmpMib s.priv.registers.txretrycount cmdActGet cmdOid pdata =
      numberMib object cmdActGet value) :
    card.object (s.sendMib card cmdActGet cmdOid pdata result).2.card = card.object s.card := by
  rw [sendMib_card, built]
  cases result.executed with
  | false => rfl
  | true => exact keeps.get _ _ (SnmpMib.le16At_querytype _)

/-- The handler finds the body of the response behind the header. -/
theorem le16At_mibResponse (command size seqnum : UInt16) (answer : List UInt8) (i : Nat) :
    le16At (mibResponse command size seqnum answer) (8 + i) = le16At answer i := by
  have shifted := byteAt_append_right
    (le16Bytes (cmdRet command) ++ le16Bytes size ++ le16Bytes seqnum ++ le16Bytes 0) answer
  have low : byteAt (mibResponse command size seqnum answer) (8 + i) = byteAt answer i := shifted i
  have high : byteAt (mibResponse command size seqnum answer) (8 + i + 1) = byteAt answer (i + 1) :=
    shifted (i + 1)
  rw [le16At, low, high, le16At]

theorem respCommand_mibResponse (command size seqnum : UInt16) (answer : List UInt8) :
    respCommand (mibResponse command size seqnum answer) = cmdRet command := by
  rw [respCommand, mibResponse, List.append_assoc, List.append_assoc, List.append_assoc]
  exact le16At_le16Bytes _ _

theorem handleCmdResponse_snmpMib (priv : Priv) {resp : List UInt8}
    (command : respCommand resp = cmdRet cmd80211SnmpMib) :
    handleCmdResponse priv resp = lbsRet80211SnmpMib priv resp := by
  rw [handleCmdResponse, command]
  rfl

/-- The field of the object that was asked for is filled with it. -/
theorem registers_sendMib_get (keeps : card.Keeps) {seqnum : UInt16}
    (built : lbsCmd80211SnmpMib s.priv.registers.txretrycount cmdActGet cmdOid pdata =
      numberMib object cmdActGet value) :
    (s.sendMib card cmdActGet cmdOid pdata (.answered seqnum)).2.priv.registers =
      if object = fragthreshI then
        { s.priv.registers with fragthsd := (card.object s.card object).toUInt32 }
      else if object = rtsthreshI then
        { s.priv.registers with rtsthsd := (card.object s.card object).toUInt32 }
      else if object = shortRetrylimI then
        { s.priv.registers with txretrycount := (card.object s.card object).toUInt8 }
      else s.priv.registers := by
  obtain ⟨querytype, oid, number⟩ :=
    keeps.answer s.card (numberMib object cmdActGet value).bytes (SnmpMib.le16At_querytype _)
  rw [SnmpMib.le16At_oid] at oid number
  rw [MibState.sendMib, MibState.send, snmpMibRequest_prepare]
  simp only
  rw [built, handleCmdResponse_snmpMib _ (respCommand_mibResponse _ _ _ _), lbsRet80211SnmpMib]
  simp only [Handled.of_priv]
  rw [le16At_mibResponse _ _ _ _ 0, le16At_mibResponse _ _ _ _ 2, le16At_mibResponse _ _ _ _ 6,
    querytype, oid, number, if_neg (by decide)]
  rfl

end Objects

section Numbers

theorem toNat_toUInt32 (value : Int32) : (value.toUInt32.toNat : Int) = value.toInt % 2 ^ 32 := by
  have signed := BitVec.toInt_eq_toNat_cond value.toBitVec
  have small := value.toUInt32.toNat_lt
  rw [Int32.toNat_toBitVec, Int32.toInt_toBitVec] at signed
  split at signed <;> omega

theorem toInt_toInt32 (value : UInt16) : value.toUInt32.toInt32.toInt = value.toNat := by
  have signed := BitVec.toInt_eq_toNat_cond value.toUInt32.toInt32.toBitVec
  have small := value.toNat_lt
  rw [Int32.toNat_toBitVec, Int32.toInt_toBitVec, UInt32.toUInt32_toInt32, UInt16.toNat_toUInt32]
    at signed
  split at signed <;> omega

theorem toInt32_eq_ofInt (value : UInt16) : value.toUInt32.toInt32 = Int32.ofInt value.toNat := by
  rw [← toInt_toInt32, Int32.ofInt_toInt]

/-- A number that passes the unsigned comparisons is between the bounds. -/
theorem threshold_passes_iff (threshold : Threshold) (value : Int32) :
    ¬((value.toUInt32.toNat : Int) < threshold.min ∨
      threshold.max < (value.toUInt32.toNat : Int)) ↔
        threshold.min ≤ value.toInt ∧ value.toInt ≤ threshold.max := by
  have low := Int32.le_toInt value
  have high := Int32.toInt_lt value
  rw [toNat_toUInt32]
  cases threshold <;>
    simp only [Threshold.min, Threshold.max, mrvdrvRtsMinValue, mrvdrvRtsMaxValue,
      mrvdrvFragMinValue, mrvdrvFragMaxValue] <;> omega

theorem toUInt16_toUInt32 (value : Int32) :
    value.toUInt32.toUInt16 = UInt16.ofInt value.toInt := by
  have wrapped := toNat_toUInt32 value
  rw [← UInt16.toNat_inj, toNat_uint16_ofInt, UInt32.toNat_toUInt16]
  omega

end Numbers

section Ioctls

variable {κ : Type} {card : MibCard κ} {s : MibState κ} {result : MibEnd}

theorem lbsCmd80211SnmpMib_threshold (tries : UInt8) (cmdAction : UInt16) (thr : UInt32)
    (threshold : Threshold) :
    lbsCmd80211SnmpMib tries cmdAction threshold.oid thr =
      numberMib threshold.object cmdAction thr.toUInt16 := by
  cases threshold <;> rfl

theorem lbsCmd80211SnmpMib_retry (tries : UInt8) (cmdAction : UInt16) (pdata : UInt32) :
    lbsCmd80211SnmpMib tries cmdAction oid80211TxRetrycount pdata =
      numberMib shortRetrylimI cmdAction tries.toUInt16 :=
  rfl

/-- The command of a setter that gets through the checks. -/
def MibState.sendThreshold (card : MibCard κ) (s : MibState κ) (threshold : Threshold)
    (thr : UInt32) (result : MibEnd) : Int × MibState κ :=
  (s.setRegisters (threshold.setField s.priv.registers thr)).sendMib card cmdActSet threshold.oid
    thr result

/-- A setter of a threshold refuses, or sends the value that it is asked for. -/
theorem setThreshold_cases (threshold : Threshold) (vwrq : IwParam) :
    ((MibIoctl.setThreshold threshold vwrq).asks = none ∧
      s.setThreshold card threshold vwrq result = (-eInval, vwrq, s)) ∨
    ∃ thr : UInt32,
      (MibIoctl.setThreshold threshold vwrq).asks = some (threshold.object, thr.toUInt16) ∧
        s.setThreshold card threshold vwrq result =
          ((s.sendThreshold card threshold thr result).1, vwrq,
            (s.sendThreshold card threshold thr result).2) := by
  rw [MibState.setThreshold, MibIoctl.asks]
  by_cases disabled : vwrq.disabled = 0
  · rw [if_neg (not_not.mpr disabled), if_neg (not_not.mpr disabled)]
    simp only
    by_cases passes : threshold.min ≤ vwrq.value.toInt ∧ vwrq.value.toInt ≤ threshold.max
    · rw [if_pos passes,
        if_neg (fun refused => (threshold_passes_iff threshold vwrq.value).mpr passes refused.2)]
      exact .inr ⟨vwrq.value.toUInt32, by rw [toUInt16_toUInt32], rfl⟩
    · rw [if_neg passes,
        if_pos ⟨disabled, not_not.mp (mt (threshold_passes_iff threshold vwrq.value).mp passes)⟩]
      exact .inl ⟨rfl, rfl⟩
  · rw [if_pos disabled, if_pos disabled]
    simp only
    rw [if_neg (fun refused => disabled refused.1)]
    exact .inr ⟨UInt32.ofInt threshold.max, by cases threshold <;> rfl, rfl⟩

theorem lbsSetRetry_cases (vwrq : IwParam) :
    ((MibIoctl.setRetry vwrq).asks = none ∧
      s.lbsSetRetry card vwrq result = ((MibIoctl.setRetry vwrq).refusal, vwrq, s)) ∨
    ∃ tries : UInt8,
      (MibIoctl.setRetry vwrq).asks = some (shortRetrylimI, tries.toUInt16) ∧
        s.lbsSetRetry card vwrq result =
          let sent := (s.setRegisters { s.priv.registers with txretrycount := tries }).sendMib card
            cmdActSet oid80211TxRetrycount 0 result
          (sent.1, vwrq, sent.2) := by
  rw [MibState.lbsSetRetry, MibIoctl.asks, MibIoctl.refusal]
  by_cases limit : vwrq.flags = iwRetryLimit
  · rw [if_pos limit, if_pos limit]
    by_cases passes : txRetryMin ≤ vwrq.value.toInt ∧ vwrq.value.toInt ≤ txRetryMax
    · rw [if_pos ⟨limit, passes⟩, if_neg (by omega)]
      refine .inr ⟨UInt8.ofInt (vwrq.value.toInt + 1), ?_, rfl⟩
      have low : 0 ≤ vwrq.value.toInt := passes.1
      have high : vwrq.value.toInt ≤ 14 := passes.2
      have same : UInt16.ofInt (vwrq.value.toInt + 1) =
          (UInt8.ofInt (vwrq.value.toInt + 1)).toUInt16 := by
        rw [← UInt16.toNat_inj, toNat_uint16_ofInt, UInt8.toNat_toUInt16, toNat_uint8_ofInt]
        omega
      rw [same]
    · rw [if_neg (fun asked => passes asked.2), if_pos (by omega)]
      exact .inl ⟨rfl, rfl⟩
  · rw [if_neg (fun asked => limit asked.1), if_neg limit, if_neg limit]
    exact .inl ⟨rfl, rfl⟩

theorem run_setThreshold (threshold : Threshold) (vwrq : IwParam) :
    (MibIoctl.setThreshold threshold vwrq).run card s result =
      s.setThreshold card threshold vwrq result := by
  cases threshold <;> rfl

theorem run_getThreshold (threshold : Threshold) (vwrq : IwParam) :
    (MibIoctl.getThreshold threshold vwrq).run card s result =
      s.getThreshold card threshold vwrq result := by
  cases threshold <;> rfl

/-- The state behind a getter is the one behind its command. -/
theorem getThreshold_state (threshold : Threshold) (vwrq : IwParam) :
    (s.getThreshold card threshold vwrq result).2.2 =
      ((s.setRegisters (threshold.setField s.priv.registers 0)).sendMib card cmdActGet
        threshold.oid 0 result).2 := by
  rw [MibState.getThreshold]
  simp only
  split <;> rfl

theorem lbsGetRetry_state (vwrq : IwParam) :
    (s.lbsGetRetry card vwrq result).2.2 =
      ((s.setRegisters { s.priv.registers with txretrycount := 0 }).sendMib card cmdActGet
        oid80211TxRetrycount 0 result).2 := by
  rw [MibState.lbsGetRetry]
  simp only
  split <;> rfl

theorem mibEffect_of_asks {ioctl : MibIoctl} {asked : Option (UInt16 × UInt16)}
    (asks : ioctl.asks = asked) :
    mibEffect (ioctl, result) = if result.executed then asked else none := by
  rw [mibEffect, asks]

/-- What a call does to the objects. -/
theorem object_step (keeps : card.Keeps) (s : MibState κ) (call : MibIoctl × MibEnd) :
    card.object (s.step card call).card = write (card.object s.card) (mibEffect call) := by
  obtain ⟨ioctl, result⟩ := call
  rw [MibState.step]
  cases ioctl with
  | setThreshold threshold vwrq =>
      simp only [run_setThreshold]
      rcases setThreshold_cases (s := s) threshold vwrq with
        ⟨asks, ran⟩ | ⟨thr, asks, ran⟩
      · rw [ran, mibEffect_of_asks asks, ite_self]
        rfl
      · rw [ran, mibEffect_of_asks asks]
        exact object_sendMib_set keeps (lbsCmd80211SnmpMib_threshold _ _ _ _)
  | getThreshold threshold vwrq =>
      simp only [run_getThreshold]
      rw [getThreshold_state, mibEffect_of_asks (rfl : MibIoctl.asks _ = none), ite_self]
      exact object_sendMib_get keeps (lbsCmd80211SnmpMib_threshold _ _ _ _)
  | setRetry vwrq =>
      simp only [MibIoctl.run]
      rcases lbsSetRetry_cases (s := s) vwrq with
        ⟨asks, ran⟩ | ⟨tries, asks, ran⟩
      · rw [ran, mibEffect_of_asks asks, ite_self]
        rfl
      · rw [ran, mibEffect_of_asks asks]
        exact object_sendMib_set keeps (lbsCmd80211SnmpMib_retry _ _ _)
  | getRetry vwrq =>
      simp only [MibIoctl.run]
      rw [lbsGetRetry_state, mibEffect_of_asks (rfl : MibIoctl.asks _ = none), ite_self]
      exact object_sendMib_get keeps (lbsCmd80211SnmpMib_retry _ _ _)

theorem sendMib_unanswered {cmdAction : UInt16} {cmdOid pdata : UInt32}
    (silent : result.isAnswered = false) :
    (s.sendMib card cmdAction cmdOid pdata result).1 = -1 := by
  rw [sendMib_ret, silent]
  rfl

theorem sendMib_answered {cmdAction : UInt16} {cmdOid pdata : UInt32} {seqnum : UInt16} :
    (s.sendMib card cmdAction cmdOid pdata (.answered seqnum)).1 = 0 :=
  sendMib_ret

/-- The field of a threshold is filled with its object. -/
theorem field_sendMib_get (keeps : card.Keeps) (threshold : Threshold) (seqnum : UInt16) :
    threshold.field (s.sendMib card cmdActGet threshold.oid 0 (.answered seqnum)).2.priv.registers =
      (card.object s.card threshold.object).toUInt32 := by
  rw [registers_sendMib_get keeps (lbsCmd80211SnmpMib_threshold _ _ _ _)]
  cases threshold <;> rfl

theorem txretrycount_sendMib_get (keeps : card.Keeps) (seqnum : UInt16) :
    (s.sendMib card cmdActGet oid80211TxRetrycount 0
      (.answered seqnum)).2.priv.registers.txretrycount =
        (card.object s.card shortRetrylimI).toUInt8 := by
  rw [registers_sendMib_get keeps (lbsCmd80211SnmpMib_retry _ _ _)]
  rfl

theorem report_getThreshold (keeps : card.Keeps) (s : MibState κ) (threshold : Threshold)
    (vwrq : IwParam) :
    ((s.getThreshold card threshold vwrq result).1,
        (s.getThreshold card threshold vwrq result).2.1) =
      (MibIoctl.getThreshold threshold vwrq).report (card.object s.card) result.isAnswered := by
  rw [MibState.getThreshold, MibIoctl.report]
  simp only
  cases answered : result.isAnswered with
  | false =>
      rw [sendMib_unanswered answered]
      rfl
  | true =>
      cases result with
      | unsent => cases answered
      | failed executed => cases answered
      | answered seqnum =>
          rw [if_neg (not_not.mpr sendMib_answered), field_sendMib_get keeps, toInt_toInt32,
            toInt32_eq_ofInt]
          rfl

theorem report_lbsGetRetry (keeps : card.Keeps) (s : MibState κ) (vwrq : IwParam) :
    ((s.lbsGetRetry card vwrq result).1, (s.lbsGetRetry card vwrq result).2.1) =
      (MibIoctl.getRetry vwrq).report (card.object s.card) result.isAnswered := by
  rw [MibState.lbsGetRetry, MibIoctl.report]
  simp only
  cases answered : result.isAnswered with
  | false =>
      rw [sendMib_unanswered answered]
      rfl
  | true =>
      cases result with
      | unsent => cases answered
      | failed executed => cases answered
      | answered seqnum =>
          rw [if_neg (not_not.mpr sendMib_answered), txretrycount_sendMib_get keeps]
          rfl

/-- What a single call reports. -/
theorem report_run (keeps : card.Keeps) (s : MibState κ) (ioctl : MibIoctl) (result : MibEnd) :
    ((ioctl.run card s result).1, (ioctl.run card s result).2.1) =
      ioctl.report (card.object s.card) result.isAnswered := by
  cases ioctl with
  | setThreshold threshold vwrq =>
      rw [run_setThreshold, MibIoctl.report]
      rcases setThreshold_cases (s := s) threshold vwrq with ⟨asks, ran⟩ | ⟨thr, asks, ran⟩
      · rw [ran, if_pos asks]
        rfl
      · rw [ran, if_neg (by rw [asks]; exact Option.some_ne_none _), MibState.sendThreshold,
          sendMib_ret]
  | getThreshold threshold vwrq =>
      rw [run_getThreshold]
      exact report_getThreshold keeps s threshold vwrq
  | setRetry vwrq =>
      rw [MibIoctl.run, MibIoctl.report]
      rcases lbsSetRetry_cases (s := s) vwrq with ⟨asks, ran⟩ | ⟨tries, asks, ran⟩
      · rw [ran, if_pos asks]
      · rw [ran, if_neg (by rw [asks]; exact Option.some_ne_none _)]
        simp only
        rw [sendMib_ret]
  | getRetry vwrq => exact report_lbsGetRetry keeps s vwrq

/-- After any calls the objects are what the last setter asked for that the card heard of. -/
theorem object_foldl (keeps : card.Keeps) (s : MibState κ) (calls : List (MibIoctl × MibEnd)) :
    card.object (calls.foldl (MibState.step card) s).card =
      written (card.object s.card) (calls.filterMap mibEffect) :=
  cells_foldl (fun s => card.object s.card) (object_step keeps) s calls

/-- After any calls, whatever became of their commands, an ioctl reports what the last setter that
the card heard of asked for. -/
theorem thresholds_read_back (keeps : card.Keeps) (s : MibState κ)
    (calls : List (MibIoctl × MibEnd)) (ioctl : MibIoctl) (result : MibEnd) :
    let objects := written (card.object s.card) (calls.filterMap mibEffect)
    let ran := ioctl.run card (calls.foldl (MibState.step card) s) result
    (ran.1, ran.2.1) = ioctl.report objects result.isAnswered := by
  intro objects ran
  have held : card.object (calls.foldl (MibState.step card) s).card = objects :=
    object_foldl keeps s calls
  rw [← held]
  exact report_run keeps _ ioctl result

end Ioctls

/-- A card that is its objects. -/
def objectCard : MibCard (UInt16 → UInt16) where
  object c := c
  execute c body :=
    if le16At body 0 = cmdActSet then (write c (some (le16At body 2, le16At body 6)), [])
    else
      (c, le16Bytes cmdActGet ++ le16Bytes (le16At body 2) ++ le16Bytes 2 ++
        le16Bytes (c (le16At body 2)))

theorem objectCard_keeps : objectCard.Keeps where
  set _ _ set _ := congrArg Prod.fst (if_pos set)
  get _ _ get := congrArg Prod.fst (if_neg (by rw [get]; decide))
  answer c body get := by
    have answered : (objectCard.execute c body).2 =
        (numberMib (le16At body 2) cmdActGet 0).bytes.take 4 ++ le16Bytes 2 ++
          le16Bytes (c (le16At body 2)) := congrArg Prod.snd (if_neg (by rw [get]; decide))
    rw [answered]
    exact ⟨le16At_le16Bytes _ _,
      le16At_append (le16Bytes cmdActGet) (le16Bytes 2 ++ le16Bytes _) _, by
        have read := le16At_append (le16Bytes cmdActGet ++ le16Bytes (le16At body 2) ++ le16Bytes 2)
          [] (c (le16At body 2))
        rw [List.append_nil] at read
        exact read⟩

/-- A parameter with a value. -/
def thresholdParam (value : Int32) (disabled : UInt8) : IwParam :=
  { value := value, fixed := 0, disabled := disabled, flags := 0 }

/-- The card stores 500 but the answer is lost, another threshold is disabled, and 3000 is
refused: 500 is read. -/
theorem rts_read_back :
    let calls :=
      [(MibIoctl.setThreshold .rts (thresholdParam 500 0), MibEnd.failed true),
        (.setThreshold .frag (thresholdParam 0 1), .answered 8),
        (.setThreshold .rts (thresholdParam 3000 0), .answered 9)]
    let after := calls.foldl (MibState.step objectCard) { priv := initAdapter, card := fun _ => 0 }
    let ran := (MibIoctl.getThreshold .rts (thresholdParam 0 0)).run objectCard after (.answered 10)
    (ran.1, ran.2.1) = (0, { thresholdParam 500 0 with fixed := 1 }) :=
  (thresholds_read_back objectCard_keeps _ _ _ _).trans (by decide)

end Libertas

import Libertas.Cmd.Prepare

/-!
# The sizes of the built commands

Each case of the switch in `lbs_prepare_and_send_command` fills the size field
of its command. Most sizes are constants; those of an association, of the domain
information and of the LED command are computed, the last one from bytes of the
caller's buffer alone. `builtSize` is the size that a builder leaves behind.
-/

namespace Libertas

/-- What the builders read besides the caller's bytes, as far as their sizes and outcomes depend
on it. -/
structure BuildInput where
  /-- `secinfo.auth_mode` is one that has a wire value. -/
  authModeKnown : Bool
  /-- The number of rates that `get_common_rates` leaves, at most `MAX_RATES`; `none` when it
  fails. -/
  commonRates : Option (Fin 15)
  /-- The commands that the builder sends itself, and the 11d tables, were fine. -/
  nestedOk : Bool
  /-- `bss.ssid_len` of the association request. -/
  ssidLen : UInt8
  /-- `wpa_ie[1]` of the association request, when WPA or WPA2 is enabled. -/
  wpaIeLen : Option UInt8
  /-- `domainreg.nr_subband`. -/
  nrSubband : UInt8
deriving DecidableEq, Repr

/-- The size of the TLVs that `lbs_cmd_80211_associate` appends to the fixed fields: SSID, DS and
CF parameters, rates, and the RSN element. -/
def associateTlvs (input : BuildInput) (nrRates : Nat) : Nat :=
  let rsn := match input.wpaIeLen with
    | none => 0
    | some len => 4 + len.toNat
  (4 + input.ssidLen.toNat) + (4 + 1) + (4 + 6) + (4 + nrRates) + rsn

/-- `lbs_cmd_80211_associate`. -/
def associateSize (input : BuildInput) : Option UInt16 :=
  match input.commonRates with
  | none => none
  | some nrRates =>
      if input.nestedOk then
        some (UInt16.ofNat (13 + associateTlvs input nrRates.val + sDsGen))
      else none

/-- `lbs_cmd_802_11d_domain_info`. -/
def domainInfoSize (cmdAction : UInt16) (input : BuildInput) : UInt16 :=
  if cmdAction = cmdActGet ∨ input.nrSubband = 0 then UInt16.ofNat (2 + sDsGen)
  else UInt16.ofNat (2 + (input.nrSubband.toNat * 3 + 3) + 4 + sDsGen)

/-- `gpio->header.len` of `struct cmd_ds_802_11_led_ctrl`. -/
def gpioLen (data : List UInt8) : UInt16 :=
  ByteOrder.le16At data 6

/-- The size of `CMD_802_11_LED_GPIO_CTRL`, computed modulo 2^16. -/
def ledGpioSize (data : List UInt8) : UInt16 :=
  gpioLen data + 8 + 8

/-- `sizeof` of the structure behind the header, for the builders that use it. -/
def paramsSizes : List (UInt16 × Nat) :=
  [(cmd80211Deauthenticate, 8), (cmd80211AdHocStart, 169), (cmd80211Reset, 2),
    (cmd80211Authenticate, 17), (cmd80211SnmpMib, 134), (cmdMacRegAccess, 8),
    (cmdBbpRegAccess, 8), (cmdRfRegAccess, 8), (cmd80211RfTxPower, 4),
    (cmd80211MonitorMode, 4), (cmd80211AdHocJoin, 93), (cmd80211Rssi, 8),
    (cmd80211AdHocStop, 0), (cmd80211TpcCfg, 7), (cmdBtAccess, 18), (cmdFwtAccess, 54),
    (cmdGetTsf, 8), (cmd80211BeaconCtrl, 6)]

/-- The size field that the builder of a command leaves behind; `none` when it fails. -/
def builtSize (cmdNo cmdAction : UInt16) (input : BuildInput) (data : List UInt8) :
    Option UInt16 :=
  if cmdNo = cmd80211Associate ∨ cmdNo = cmd80211Reassociate then associateSize input
  else if cmdNo = cmd80211dDomainInfo then some (domainInfoSize cmdAction input)
  else if cmdNo = cmd80211LedGpioCtrl then some (ledGpioSize data)
  else if cmdNo = cmd80211Authenticate ∧ input.authModeKnown = false then none
  else if cmdNo = cmd80211AdHocStart ∧ input.nestedOk = false then none
  else if cmdNo = cmd80211AdHocJoin ∧ (input.commonRates = none ∨ input.nestedOk = false) then none
  else (paramsSizes.lookup cmdNo).map fun size => UInt16.ofNat (size + sDsGen)

theorem associateTlvs_le (input : BuildInput) (nrRates : Nat) (few : nrRates < 15) :
    associateTlvs input nrRates ≤ 4 + 255 + 5 + 10 + 18 + 259 := by
  have ssid := input.ssidLen.toNat_lt
  rw [associateTlvs]
  cases wpa : input.wpaIeLen with
  | none =>
      dsimp only
      omega
  | some len =>
      have rsn := len.toNat_lt
      dsimp only
      omega

/-- A size that fits into 16 bits and counts the header is not zero. -/
theorem size_ne_zero {size : Nat} (header : 0 < size) (fits : size < 65536) :
    UInt16.ofNat size ≠ 0 := by
  intro zero
  have same := congrArg UInt16.toNat zero
  rw [UInt16.toNat_ofNat_of_lt' fits] at same
  have none : size = 0 := same
  omega

theorem associateSize_ne_zero {input : BuildInput} : associateSize input ≠ some 0 := by
  rw [associateSize]
  split
  · nofun
  · rename_i nrRates _
    split
    · have bound := associateTlvs_le input nrRates.val nrRates.isLt
      intro zero
      exact size_ne_zero (by unfold sDsGen; omega) (by unfold sDsGen; omega) (Option.some.inj zero)
    · nofun

theorem domainInfoSize_ne_zero {cmdAction : UInt16} {input : BuildInput} :
    domainInfoSize cmdAction input ≠ 0 := by
  have few := input.nrSubband.toNat_lt
  rw [domainInfoSize, sDsGen]
  split <;> exact size_ne_zero (by omega) (by omega)

theorem paramsSizes_le {cmdNo : UInt16} {size : Nat}
    (found : paramsSizes.lookup cmdNo = some size) : size ≤ 169 := by
  have small : ∀ entry ∈ paramsSizes, entry.2 ≤ 169 := by decide
  obtain ⟨before, after, split, _⟩ := List.lookup_eq_some_iff.mp found
  exact small (cmdNo, size) (by rw [split]; simp)

/-- Every builder but that of the LED command leaves a size that counts its header. -/
theorem builtSize_ne_zero {cmdNo cmdAction : UInt16} {input : BuildInput} {data : List UInt8}
    (other : cmdNo ≠ cmd80211LedGpioCtrl) : builtSize cmdNo cmdAction input data ≠ some 0 := by
  rw [builtSize]
  rw [if_neg other]
  split
  · exact associateSize_ne_zero
  split
  · exact fun zero => domainInfoSize_ne_zero (Option.some.inj zero)
  split
  · nofun
  split
  · nofun
  split
  · nofun
  · intro zero
    obtain ⟨size, found, wrapped⟩ := Option.map_eq_some_iff.mp zero
    have bound := paramsSizes_le found
    exact size_ne_zero (by unfold sDsGen; omega) (by unfold sDsGen; omega) wrapped

/-- The size of the LED command wraps to zero for a single value of the length in the caller's
buffer. -/
theorem ledGpioSize_eq_zero {data : List UInt8} : ledGpioSize data = 0 ↔ gpioLen data = 65520 := by
  rw [ledGpioSize]
  constructor
  · intro zero
    have same := congrArg UInt16.toNat zero
    apply UInt16.toNat_inj.mp
    simp only [UInt16.toNat_add, UInt16.reduceToNat] at same ⊢
    have small := (gpioLen data).toNat_lt
    omega
  · intro same
    rw [same]
    rfl

namespace Request

/-- The contents of the request are those that the builder of its command writes. -/
def Built (req : Request) : Prop :=
  ∃ input, req.content.map Prod.fst =
    builtSize req.cmdNo req.cmdAction input (req.buffer.getD [])

/-- The call does not put the node it takes into a queue: `CMD_802_11_SET_AFC` and
`CMD_802_11_GET_AFC` jump over the submission, and an LED command whose computed size is zero is
dropped by `lbs_queue_cmd`. -/
def Leaks (req : Request) : Prop :=
  req.cmdNo = cmd80211SetAfc ∨ req.cmdNo = cmd80211GetAfc ∨
    (req.cmdNo = cmd80211LedGpioCtrl ∧ gpioLen (req.buffer.getD []) = 65520)

instance (req : Request) : Decidable req.Leaks := by
  unfold Leaks
  infer_instance

/-- The switch over `cmd_no` leaves nothing to submit, or nothing that is queued. -/
def Drops (req : Request) : Prop :=
  req.assemble = .unsubmitted ∨ ∃ command body, req.assemble = .ready command 0 body

/-- The switch passes a built command on with the size its builder left. -/
theorem prepare_built {req : Request} {wait : Bool} (kind : req.kind = .prepareAndSend wait)
    (psMode : req.cmdNo ≠ cmd80211PsMode)
    (afc : ¬ (req.cmdNo = cmd80211SetAfc ∨ req.cmdNo = cmd80211GetAfc)) :
    req.Drops ↔ req.cmdNo ∈ builtCommands ∧ req.content.map Prod.fst = some 0 := by
  have assembled : req.assemble = req.prepare := by simp [assemble, kind]
  rw [Drops]
  rw [assembled]
  rw [prepare]
  rw [if_neg psMode, if_neg afc]
  by_cases built : req.cmdNo ∈ builtCommands
  · rw [if_pos built]
    cases content : req.content with
    | none => simp
    | some written =>
        obtain ⟨size, body⟩ := written
        simp [built]
  · rw [if_neg built]
    simp [built]

/-- A call with built contents drops its command exactly when it leaks its node. -/
theorem drops_iff_leaks {req : Request} {wait : Bool} (kind : req.kind = .prepareAndSend wait)
    (built : req.Built) : req.Drops ↔ req.Leaks := by
  have assembled : req.assemble = req.prepare := by simp [assemble, kind]
  by_cases psMode : req.cmdNo = cmd80211PsMode
  · have prepared : req.prepare = .ready cmd80211PsMode 18 (lbsCmd80211PsMode req.cmdAction) := by
      simp [prepare, psMode]
    have numbers : cmd80211PsMode ≠ cmd80211SetAfc ∧ cmd80211PsMode ≠ cmd80211GetAfc ∧
        cmd80211PsMode ≠ cmd80211LedGpioCtrl := by decide
    simp [Drops, assembled, prepared, Leaks, psMode, numbers]
  by_cases afc : req.cmdNo = cmd80211SetAfc ∨ req.cmdNo = cmd80211GetAfc
  · have prepared : req.prepare = .unsubmitted := by simp [prepare, psMode, afc]
    have leaks : req.Leaks := afc.elim .inl fun get => .inr (.inl get)
    simp [Drops, assembled, prepared, leaks]
  have leaks_iff : req.Leaks ↔ req.cmdNo = cmd80211LedGpioCtrl ∧
      gpioLen (req.buffer.getD []) = 65520 := by
    refine ⟨fun leaks => ?_, fun wrapped => .inr (.inr wrapped)⟩
    rcases leaks with set | get | wrapped
    · exact absurd (.inl set) afc
    · exact absurd (.inr get) afc
    · exact wrapped
  obtain ⟨input, size⟩ := built
  rw [leaks_iff, prepare_built kind psMode afc, size]
  by_cases led : req.cmdNo = cmd80211LedGpioCtrl
  · have sized : builtSize req.cmdNo req.cmdAction input (req.buffer.getD []) =
        some (ledGpioSize (req.buffer.getD [])) := by
      rw [led]
      rfl
    have member : cmd80211LedGpioCtrl ∈ builtCommands := by decide
    rw [sized, ← ledGpioSize_eq_zero]
    simp [led, member]
  · simp [led, builtSize_ne_zero led]

end Request

end Libertas

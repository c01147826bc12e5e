import Libertas.Cmd.Wrappers

/-!
# Asking the card for its channel

`lbs_get_channel` returns the channel of the card or the result of a command that
failed; both are integers. `lbs_update_channel` takes every positive one for a
channel.
-/

namespace Libertas

open ByteOrder

/-- `lbs_get_channel`. -/
def lbsGetChannel (outcome : CmdOutcome) : Int :=
  let (ret, cmd) := lbsCmdWithResponse cmd80211RfChannel
    (CmdPriv.rfChannelCmd cmdOptRfChannelGet 0) outcome
  if ret ≠ 0 then ret else (le16At cmd 10).toNat

/-- `lbs_update_channel`. -/
def CmdPriv.lbsUpdateChannel (priv : CmdPriv) (outcome : CmdOutcome) : Int × CmdPriv :=
  let ret := lbsGetChannel outcome
  if ret > 0 then (0, priv.setChannel (UInt8.ofInt ret)) else (ret, priv)

/-- The channel in the response. -/
def CmdOutcome.channel (outcome : CmdOutcome) : UInt16 :=
  le16At outcome.response 10

/-- The channel changes to the one in the response, when the command succeeds, and otherwise an
error is returned and it stays as it was. -/
structure ChannelUpdate (priv : CmdPriv) (outcome : CmdOutcome) : Prop where
  changed : (priv.lbsUpdateChannel outcome).2.channel ≠ priv.channel →
    outcome.Succeeded ∧
      (priv.lbsUpdateChannel outcome).2.channel.toNat = outcome.channel.toNat
  failed : ¬ outcome.Succeeded →
    (priv.lbsUpdateChannel outcome).1 ≠ 0 ∧
      (priv.lbsUpdateChannel outcome).2.channel = priv.channel

/-- The wait is not interrupted, the card reports no error, and the channel in the response fits
into a byte, or its low byte is the old channel. -/
def ChannelClear (channel : UInt8) : CmdOutcome → Prop
  | .removed | .exhausted | .timedOut => True
  | .interrupted => False
  | .answered reply =>
      respResult reply.bytes = 0 ∧
        ((CmdOutcome.answered reply).channel.toNat < 2 ^ 8 ∨
          (CmdOutcome.answered reply).channel.toUInt8 = channel)

section Update

variable {priv : CmdPriv} {outcome : CmdOutcome}

/-! An integer is narrowed. -/

theorem toNat_uint8_ofInt (x : Int) : (UInt8.ofInt x).toNat = (x % 2 ^ 8).toNat := by
  rw [UInt8.ofInt, UInt8.toNat_ofNat']
  omega

theorem toNat_uint16_ofInt (x : Int) : (UInt16.ofInt x).toNat = (x % 2 ^ 16).toNat := by
  rw [UInt16.ofInt, UInt16.toNat_ofNat']
  omega

theorem toNat_uint32_ofInt (x : Int) : (UInt32.ofInt x).toNat = (x % 2 ^ 32).toNat := by
  rw [UInt32.ofInt, UInt32.toNat_ofNat']
  omega

/-- A 16-bit value goes through an integer into a byte. -/
theorem ofInt_toNat (value : UInt16) : UInt8.ofInt (value.toNat : Int) = value.toUInt8 := by
  rw [← UInt8.toNat_inj, toNat_uint8_ofInt, UInt16.toNat_toUInt8]
  omega

theorem lbsGetChannel_of_failed (failed : outcome.ret ≠ 0) : lbsGetChannel outcome = outcome.ret :=
  if_pos failed

theorem lbsGetChannel_of_interrupted : lbsGetChannel .interrupted = 0 :=
  rfl

theorem lbsGetChannel_of_succeeded (succeeded : outcome.Succeeded) :
    lbsGetChannel outcome = outcome.channel.toNat := by
  rw [lbsGetChannel, lbsCmdWithResponse]
  dsimp only
  rw [if_neg (not_not.mpr succeeded.ret_eq_zero), CmdOutcome.channel, le16At, le16At]
  rw [CmdOutcome.byteAt_buffer_of_zero succeeded (by decide) (by decide),
    CmdOutcome.byteAt_buffer_of_zero succeeded (by decide) (by decide)]

theorem lbsUpdateChannel_of_pos (priv : CmdPriv) {ret : Int} (got : lbsGetChannel outcome = ret)
    (positive : 0 < ret) :
    priv.lbsUpdateChannel outcome = (0, priv.setChannel (UInt8.ofInt ret)) := by
  rw [CmdPriv.lbsUpdateChannel, got]
  exact if_pos positive

theorem lbsUpdateChannel_of_not_pos (priv : CmdPriv) {ret : Int}
    (got : lbsGetChannel outcome = ret) (other : ret ≤ 0) :
    priv.lbsUpdateChannel outcome = (ret, priv) := by
  rw [CmdPriv.lbsUpdateChannel, got]
  exact if_neg (Int.not_lt.mpr other)

theorem lbsUpdateChannel_of_neg (priv : CmdPriv) (failed : outcome.ret < 0) :
    priv.lbsUpdateChannel outcome = (outcome.ret, priv) := by
  have got := lbsGetChannel_of_failed (Int.ne_of_lt failed)
  exact lbsUpdateChannel_of_not_pos priv got (Int.le_of_lt failed)

/-- What `lbs_get_channel` returns, unless there is an error of the driver, fits into 16 bits. -/
theorem lbsGetChannel_eq_toNat (known : ¬ outcome.ret < 0) :
    ∃ value : UInt16, lbsGetChannel outcome = value.toNat := by
  by_cases fine : outcome.ret = 0
  · rcases CmdOutcome.ret_eq_zero.mp fine with succeeded | rfl
    · exact ⟨outcome.channel, lbsGetChannel_of_succeeded succeeded⟩
    · exact ⟨0, rfl⟩
  · cases outcome with
    | removed => exact absurd (by decide) known
    | exhausted => exact absurd (by decide) known
    | timedOut => exact absurd (by decide) known
    | interrupted => exact absurd rfl fine
    | answered reply => exact ⟨respResult reply.bytes, lbsGetChannel_of_failed fine⟩

/-- Only an error of the driver is returned. -/
theorem lbsUpdateChannel_ret (priv : CmdPriv) (outcome : CmdOutcome) :
    (priv.lbsUpdateChannel outcome).1 = if outcome.ret < 0 then outcome.ret else 0 := by
  by_cases failed : outcome.ret < 0
  · rw [lbsUpdateChannel_of_neg priv failed, if_pos failed]
  rw [if_neg failed]
  obtain ⟨value, got⟩ := lbsGetChannel_eq_toNat failed
  by_cases zero : value.toNat = 0
  · rw [lbsUpdateChannel_of_not_pos priv got (by omega), zero]
    rfl
  · rw [lbsUpdateChannel_of_pos priv got (by omega)]

/-- An error of the driver is returned. -/
theorem channelUpdate_of_neg (failed : outcome.ret < 0) : ChannelUpdate priv outcome := by
  have update := lbsUpdateChannel_of_neg priv failed
  constructor
  · intro changed
    rw [update] at changed
    exact absurd rfl changed
  · intro _
    rw [update]
    exact ⟨Int.ne_of_lt failed, rfl⟩

/-- An error of the card is taken for a channel. -/
theorem not_channelUpdate_of_error {reply : Reply} (error : respResult reply.bytes ≠ 0) :
    ¬ ChannelUpdate priv (.answered reply) := by
  have positive : 0 < (CmdOutcome.answered reply).ret := by
    have nonzero : (respResult reply.bytes).toNat ≠ 0 := by
      rw [Ne, ← UInt16.toNat_zero, UInt16.toNat_inj]
      exact error
    rw [CmdOutcome.ret]
    omega
  have got := lbsGetChannel_of_failed (Int.ne_of_gt positive)
  have update := lbsUpdateChannel_of_pos priv got positive
  intro holds
  have returned := (holds.failed error).1
  rw [update] at returned
  exact returned rfl

/-- The channel of a response is adopted as it should, if it fits. -/
theorem channelUpdate_iff_of_succeeded (succeeded : outcome.Succeeded) :
    ChannelUpdate priv outcome ↔
      outcome.channel.toNat < 2 ^ 8 ∨ outcome.channel.toUInt8 = priv.channel := by
  have got := lbsGetChannel_of_succeeded succeeded
  by_cases zero : outcome.channel.toNat = 0
  · have update := lbsUpdateChannel_of_not_pos priv got (by omega)
    refine iff_of_true ⟨fun changed => ?_, fun failed => absurd succeeded failed⟩ (.inl (by omega))
    rw [update] at changed
    exact absurd rfl changed
  · have update := lbsUpdateChannel_of_pos priv got (by omega)
    have new : (priv.lbsUpdateChannel outcome).2.channel = outcome.channel.toUInt8 := by
      rw [update]
      exact ofInt_toNat _
    have low : outcome.channel.toUInt8.toNat = outcome.channel.toNat % 2 ^ 8 :=
      UInt16.toNat_toUInt8 _
    constructor
    · intro holds
      by_contra wide
      obtain ⟨long, other⟩ := not_or.mp wide
      have same := (holds.changed (new ▸ other)).2
      rw [new, low] at same
      exact long (same ▸ Nat.mod_lt _ (by decide))
    · intro clear
      refine ⟨fun changed => ⟨succeeded, ?_⟩, fun failed => absurd succeeded failed⟩
      rw [new, low]
      rcases clear with short | same
      · exact Nat.mod_eq_of_lt short
      · exact absurd (new.trans same) changed

end Update

/-- `lbs_update_channel` changes the channel to the one in the response if the command succeeds, and
reports an error otherwise, if and only if the outcome is clear. -/
theorem update_channel_iff (priv : CmdPriv) (outcome : CmdOutcome) :
    ChannelUpdate priv outcome ↔ ChannelClear priv.channel outcome := by
  cases outcome with
  | removed => exact iff_of_true (channelUpdate_of_neg (by decide)) trivial
  | exhausted => exact iff_of_true (channelUpdate_of_neg (by decide)) trivial
  | timedOut => exact iff_of_true (channelUpdate_of_neg (by decide)) trivial
  | interrupted =>
      refine iff_of_false (fun holds => ?_) id
      have returned := (holds.failed id).1
      rw [lbsUpdateChannel_of_not_pos _ lbsGetChannel_of_interrupted (Int.le_refl 0)] at returned
      exact returned rfl
  | answered reply =>
      by_cases fine : respResult reply.bytes = 0
      · have succeeded : (CmdOutcome.answered reply).Succeeded := fine
        rw [channelUpdate_iff_of_succeeded succeeded]
        exact ⟨fun clear => ⟨fine, clear⟩, And.right⟩
      · exact iff_of_false (not_channelUpdate_of_error fine) fun clear => fine clear.1

/-- The card answers with the error 1. -/
theorem channel_of_error : ¬ ∀ (priv : CmdPriv) (outcome : CmdOutcome),
    ChannelUpdate priv outcome := by
  intro holds
  exact ((holds .init refusedCommand).failed (by decide)).1 rfl

end Libertas

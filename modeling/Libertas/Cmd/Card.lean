import Libertas.Cmd.Outcome

/-!
# Commands with a response, and a card that answers them

The firmware is not part of the driver. A `Card` says what it does with the body of a
command; what is known about a particular command is stated where it is used. `call`
joins it to `lbs_cmd_with_response`: a command fails, before or behind the card, or the
card executes it and its answer is copied to the caller.
-/

namespace Libertas

open ByteOrder

/-- A card with its state. It executes the body of a command, and answers with another body. -/
structure Card (κ : Type) where
  execute : κ → UInt16 → List UInt8 → κ × List UInt8

/-- How a call of `lbs_cmd_with_response` ends. -/
inductive CallEnd
  /-- The call fails. The card may have executed the command. -/
  | failed (outcome : CmdOutcome) (error : outcome.ret ≠ 0) (executed : Bool)
  | answered (seqnum : UInt16)

/-- The command gets to the card and is executed. -/
def CallEnd.executed : CallEnd → Bool
  | failed _ _ executed => executed
  | answered _ => true

def CallEnd.isAnswered : CallEnd → Bool
  | failed _ _ _ => false
  | answered _ => true

/-- The codes of commands other than that for the power-save mode. -/
structure OrdinaryCmd where
  code : UInt16
  ordinary : cmdRet code ≠ cmdRet cmd80211PsMode

/-- A response without error. -/
def cardResponse (cmdNo seqnum : UInt16) (answer : List UInt8) : List UInt8 :=
  le16Bytes (cmdRet cmdNo) ++ le16Bytes (UInt16.ofNat (sDsGen + answer.length)) ++
    le16Bytes seqnum ++ le16Bytes 0 ++ answer

section Response

variable (cmdNo seqnum : UInt16) (answer : List UInt8)

theorem respCommand_cardResponse :
    respCommand (cardResponse cmdNo seqnum answer) = cmdRet cmdNo := by
  rw [respCommand, cardResponse, List.append_assoc, List.append_assoc, List.append_assoc]
  exact le16At_le16Bytes _ _

theorem respSize_cardResponse :
    respSize (cardResponse cmdNo seqnum answer) = UInt16.ofNat (sDsGen + answer.length) := by
  rw [respSize, cardResponse, List.append_assoc, List.append_assoc]
  exact le16At_append (le16Bytes (cmdRet cmdNo)) _ _

theorem respResult_cardResponse : respResult (cardResponse cmdNo seqnum answer) = 0 :=
  le16At_append (le16Bytes (cmdRet cmdNo) ++ le16Bytes (UInt16.ofNat (sDsGen + answer.length)) ++
    le16Bytes seqnum) answer 0

/-- The answer is behind the header. -/
theorem byteAt_cardResponse (i : Nat) :
    byteAt (cardResponse cmdNo seqnum answer) (sDsGen + i) = byteAt answer i :=
  byteAt_append_right (le16Bytes (cmdRet cmdNo) ++
    le16Bytes (UInt16.ofNat (sDsGen + answer.length)) ++ le16Bytes seqnum ++ le16Bytes 0) answer i

end Response

/-- The reply of the card. -/
def cardReply (cmdNo : OrdinaryCmd) (seqnum : UInt16) (answer : List UInt8) : Reply where
  bytes := cardResponse cmdNo.code seqnum answer
  accepted := by
    rw [respResult_cardResponse]
    decide
  coded := by
    rw [respCommand_cardResponse]
    exact ⟨cmdRet_coded cmdNo.code, cmdNo.ordinary⟩

theorem byteAt_cardReply {cmdNo : OrdinaryCmd} {seqnum : UInt16} {answer : List UInt8}
    (fits : sDsGen + answer.length < 2 ^ 16) (i : Nat) :
    byteAt (CmdOutcome.answered (cardReply cmdNo seqnum answer)).response (sDsGen + i) =
      byteAt answer i := by
  have size : (respSize (cardReply cmdNo seqnum answer).bytes).toNat = sDsGen + answer.length := by
    rw [cardReply, respSize_cardResponse]
    exact UInt16.toNat_ofNat_of_lt' fits
  rw [CmdOutcome.response, size]
  by_cases inside : i < answer.length
  · rw [byteAt_slice _ (by omega), Nat.zero_add]
    exact byteAt_cardResponse _ _ _ _
  · rw [byteAt, List.getD_eq_default _ _ (by rw [slice_length]; omega), byteAt,
      List.getD_eq_default _ _ (by omega)]

/-- The body of the command that a call sends. -/
def Request.sentBody (req : Request) : List UInt8 :=
  (req.content.getD (0, [])).2

namespace Card

variable {κ : Type} (card : Card κ) (c : κ) (cmdNo : OrdinaryCmd) (req : Request)
  (cmd : List UInt8)

/-- A call, with the card behind it. -/
def send : CallEnd → CmdOutcome × κ
  | .failed outcome _ executed =>
      (outcome, if executed then (card.execute c cmdNo.code req.sentBody).1 else c)
  | .answered seqnum =>
      (.answered (cardReply cmdNo seqnum (card.execute c cmdNo.code req.sentBody).2),
        (card.execute c cmdNo.code req.sentBody).1)

/-- The call for a structure of the caller. -/
def call (result : CallEnd) : CmdOutcome × κ :=
  card.send c cmdNo (withResponseRequest cmdNo.code cmd) result

/-- The card has executed the command of a structure of the caller. -/
def afterCommand : κ × List UInt8 :=
  card.execute c cmdNo.code ((cmd.take (respSize cmd).toNat).drop sDsGen)

variable {card c cmdNo req} {result : CallEnd} {seqnum : UInt16}

theorem send_card :
    (card.send c cmdNo req result).2 =
      if result.executed then (card.execute c cmdNo.code req.sentBody).1 else c := by
  cases result <;> rfl

variable {cmd}

theorem call_card :
    (card.call c cmdNo cmd result).2 =
      if result.executed then (card.afterCommand c cmdNo cmd).1 else c := by
  cases result <;> rfl

theorem send_succeeded : (card.send c cmdNo req (.answered seqnum)).1.Succeeded :=
  respResult_cardResponse _ _ _

theorem call_succeeded : (card.call c cmdNo cmd (.answered seqnum)).1.Succeeded :=
  respResult_cardResponse _ _ _

theorem ret_call_answered : (card.call c cmdNo cmd (.answered seqnum)).1.ret = 0 :=
  call_succeeded.ret_eq_zero

/-- The response shows the answer. -/
theorem byteAt_send (fits : sDsGen + (card.execute c cmdNo.code req.sentBody).2.length < 2 ^ 16)
    (i : Nat) :
    byteAt (card.send c cmdNo req (.answered seqnum)).1.response (sDsGen + i) =
      byteAt (card.execute c cmdNo.code req.sentBody).2 i :=
  byteAt_cardReply fits i

theorem byteAt_response (fits : sDsGen + (card.afterCommand c cmdNo cmd).2.length < 2 ^ 16)
    (i : Nat) :
    byteAt (card.call c cmdNo cmd (.answered seqnum)).1.response (sDsGen + i) =
      byteAt (card.afterCommand c cmdNo cmd).2 i :=
  byteAt_cardReply fits i

end Card

end Libertas

/-
What every call of a session keeps.

A relation carries the session when it also survives the assignments of the
incoming side and the restart of the numbering.  Every step then keeps it,
whatever is received.
-/

import Crocofix.Session.Frame

namespace Crocofix

open Numeral

namespace Session

open Call (Keeps keeps_pure)

structure Assigned (before after : Session) : Prop where
  options : after.options = before.options
  state : after.state = before.state
  outgoing : after.outgoingMsgSeqNum = before.outgoingMsgSeqNum
  history : after.history = before.history
  logon : before.logonReceived = true → after.logonReceived = true

structure Placed (before after : Session) : Prop extends Assigned before after where
  expects : after.expectedTestRequestId = before.expectedTestRequestId
  counter : after.nextTestRequestId = before.nextTestRequestId

/-- What every call needs that does not log the session on. -/
structure Shifts (environment : Environment)
    (relation : Session → Session → Prop) : Prop
    extends Suits environment relation where
  resending : Keeps relation (setState .resending)
  discarded : ∀ received expected,
    Keeps relation (Session.record (.discarded received expected))
  placed : ∀ before after, Placed before after → relation before after
  restarted : Keeps relation restartSeqNums
  resetLogon : Keeps relation (sendLogon environment true)

/-- What every call needs that neither logs the session on nor performs a
resend. -/
structure Turns (environment : Environment)
    (relation : Session → Session → Prop) : Prop
    extends Speaks environment relation where
  resending : Keeps relation (setState .resending)
  discarded : ∀ received expected,
    Keeps relation (Session.record (.discarded received expected))
  placed : ∀ before after, Placed before after → relation before after
  restarted : Keeps relation restartSeqNums
  resetLogon : Keeps relation (sendLogon environment true)

theorem Shifts.turns {environment : Environment}
    {relation : Session → Session → Prop}
    (shifts : Shifts environment relation) : Turns environment relation where
  toSpeaks := shifts.toSuits.speaks
  resending := shifts.resending
  discarded := shifts.discarded
  placed := shifts.placed
  restarted := shifts.restarted
  resetLogon := shifts.resetLogon

structure Carries (environment : Environment)
    (relation : Session → Session → Prop) : Prop
    extends Bears environment relation where
  loggedOn : Keeps relation (setState .loggedOn)
  resending : Keeps relation (setState .resending)
  discarded : ∀ received expected,
    Keeps relation (Session.record (.discarded received expected))
  assigned : ∀ before after, Assigned before after → relation before after
  restarted : Keeps relation restartSeqNums
  resetLogon : Keeps relation (sendLogon environment true)

section Rules

variable {environment : Environment} {relation : Session → Session → Prop}

theorem Turns.assign (turns : Turns environment relation)
    {change : Session → Session}
    (placed : ∀ session, Placed session (change session)) :
    Keeps relation (Call.modify change : Action Unit) := by
  intro session
  exact turns.placed session (change session) (placed session)

variable [Std.Refl relation] [IsTrans Session relation]

theorem Carries.shifts (carries : Carries environment relation) :
    Shifts environment relation where
  toSuits := carries.toBears.suits
  resending := carries.resending
  discarded := carries.discarded
  placed before after same := carries.assigned before after same.toAssigned
  restarted := carries.restarted
  resetLogon := carries.resetLogon

/-! ### Sequence numbers -/

theorem requestResend_keeps (turns : Turns environment relation)
    (receivedMsgSeqNum : UInt32) :
    Keeps relation (requestResend environment receivedMsgSeqNum) := by
  apply turns.toSpeaks.get.bind
  intro session
  apply (turns.toSpeaks.record rfl).bind
  intro _
  apply turns.resending.bind
  intro _
  apply Keeps.bind
  · exact turns.assign fun _ => ⟨⟨rfl, rfl, rfl, rfl, id⟩, rfl, rfl⟩
  · intro _
    apply (turns.toSpeaks.record rfl).bind
    intro _
    exact turns.sent _ _ (Message.usual_make (by simp [Field.ofUInt32])
      (by decide) (by decide) (by decide))

theorem sequenceNumberIsHigh_keeps (turns : Turns environment relation)
    (message : Message) :
    Keeps relation (sequenceNumberIsHigh environment message) := by
  apply (turns.toSpeaks.ofExcept message.MsgSeqNum).bind
  intro msgSeqNum
  apply turns.toSpeaks.get.bind
  intro session
  apply Keeps.ite
  · intro _
    apply (turns.discarded _ _).bind
    intro _
    apply Keeps.bind
    · apply Keeps.ite
      · intro _
        exact turns.assign fun _ => ⟨⟨rfl, rfl, rfl, rfl, id⟩, rfl, rfl⟩
      · intro _
        exact requestResend_keeps turns msgSeqNum
    · intro _
      exact keeps_pure true
  · intro _
    exact keeps_pure false

theorem validateSequenceNumbers_keeps
    (turns : Turns environment relation) (message : Message) :
    Keeps relation (validateSequenceNumbers environment message) := by
  apply (sequenceNumberIsHigh_keeps turns message).bind
  intro high
  apply Keeps.ite
  · intro _
    exact keeps_pure false
  · intro _
    apply (sequenceNumberIsLow_keeps turns.toSpeaks message).bind
    intro low
    exact keeps_pure _

/-! ### Logon -/

theorem processResetLogon_keeps (turns : Turns environment relation)
    (logon : Message) :
    Keeps relation (processResetLogon environment logon) := by
  apply (turns.toSpeaks.ofExcept logon.MsgSeqNum).bind
  intro msgSeqNum
  apply Keeps.ite
  · intro _
    apply (turns.toSpeaks.record rfl).bind
    intro _
    exact keeps_pure false
  · intro _
    apply turns.toSpeaks.get.bind
    intro session
    apply Keeps.ite
    · intro _
      apply turns.tested.bind
      intro _
      exact keeps_pure true
    · intro _
      apply (turns.toSpeaks.record rfl).bind
      intro _
      apply Keeps.bind
      · apply (stopDefibrillator_keeps turns.toSpeaks).bind
        intro _
        exact turns.restarted
      · intro _
        apply turns.resetLogon.bind
        intro _
        apply (sendPostLogonTestRequest_keeps turns.toSpeaks).bind
        intro _
        exact keeps_pure true

theorem processPlainLogon_keeps (turns : Turns environment relation)
    (logon : Message) :
    Keeps relation (processPlainLogon environment logon) := by
  apply (sequenceNumberIsLow_keeps turns.toSpeaks logon).bind
  intro low
  apply Keeps.ite
  · intro _
    exact keeps_pure false
  · intro _
    apply turns.toSpeaks.get.bind
    intro session
    apply Keeps.bind
    · apply Keeps.onlyIf
      intro _
      exact sendLogon_keeps turns.toSpeaks
    · intro _
      apply (sequenceNumberIsHigh_keeps turns logon).bind
      intro high
      apply Keeps.ite
      · intro _
        exact keeps_pure false
      · intro _
        apply (sendPostLogonTestRequest_keeps turns.toSpeaks).bind
        intro _
        exact keeps_pure true

theorem processLogon_keeps (shifts : Shifts environment relation)
    (logon : Message) :
    Keeps relation (processLogon environment logon) := by
  apply (shifts.toSuits.speaks.ofExcept logon.ResetSeqNumFlag).bind
  intro resetSeqNumFlag
  apply (extractHeartbeatInterval_keeps shifts.toSuits.speaks logon).bind
  intro extracted
  apply Keeps.ite
  · intro _
    apply Keeps.bind
    · exact shifts.turns.assign fun _ => ⟨⟨rfl, rfl, rfl, rfl, fun _ => rfl⟩, rfl, rfl⟩
    · intro _
      apply shifts.toSuits.speaks.get.bind
      intro session
      apply Keeps.ite
      · intro _
        exact processNextExpected_keeps shifts.toSuits shifts.resending logon
      · intro _
        apply Keeps.ite
        · intro _
          exact processResetLogon_keeps shifts.turns logon
        · intro _
          exact processPlainLogon_keeps shifts.turns logon
  · intro _
    exact keeps_pure false

/-! ### Every step -/

theorem processGapFill_keeps (turns : Turns environment relation)
    (sequenceReset : Message) (newSeqNo : UInt32) :
    Keeps relation (processGapFill environment sequenceReset newSeqNo) := by
  apply (validateSequenceNumbers_keeps turns sequenceReset).bind
  intro valid
  apply Keeps.ite
  · intro _
    apply turns.toSpeaks.get.bind
    intro session
    apply Keeps.ite
    · intro _
      apply (turns.toSpeaks.record rfl).bind
      intro _
      apply Keeps.bind
      · exact turns.assign fun _ => ⟨⟨rfl, rfl, rfl, rfl, id⟩, rfl, rfl⟩
      · intro _
        apply Keeps.bind
        · exact turns.assign fun _ => ⟨⟨rfl, rfl, rfl, rfl, id⟩, rfl, rfl⟩
        · intro _
          exact completeResend_keeps turns.toSpeaks
    · intro _
      exact reject_keeps turns.toSpeaks sequenceReset _ _
  · intro _
    exact keeps_pure ()

theorem processSequenceReset_keeps (turns : Turns environment relation)
    (sequenceReset : Message) :
    Keeps relation (processSequenceReset environment sequenceReset) := by
  unfold processSequenceReset
  cases sequenceReset.fields.tryGet Tag.NewSeqNo with
  | none => exact reject_keeps turns.toSpeaks sequenceReset _ _
  | some field =>
      apply (turns.toSpeaks.ofExcept sequenceReset.GapFillFlag).bind
      intro gapFill
      cases stoi field.value with
      | error exception => exact reject_keeps turns.toSpeaks sequenceReset _ _
      | ok parsed =>
          apply turns.toSpeaks.get.bind
          intro session
          apply Keeps.ite
          · intro _
            exact reject_keeps turns.toSpeaks sequenceReset _ _
          · intro _
            apply Keeps.ite
            · intro _
              exact processGapFill_keeps turns sequenceReset _
            · intro _
              apply Keeps.bind
              · exact turns.assign fun _ => ⟨⟨rfl, rfl, rfl, rfl, id⟩, rfl, rfl⟩
              · intro _
                apply (turns.toSpeaks.record rfl).bind
                intro _
                exact completeResend_keeps turns.toSpeaks

theorem processNumbered_keeps (shifts : Shifts environment relation)
    (loggedOn : Keeps relation (setState .loggedOn))
    {message : Message}
    (accepted : Keeps relation (Session.record (.accepted message)))
    (msgType : Bytes) :
    Keeps relation (processNumbered environment msgType message) := by
  apply Keeps.bind
  · apply Keeps.ite
    · intro _
      exact processLogon_keeps shifts message
    · intro _
      exact validateSequenceNumbers_keeps shifts.turns message
  · intro proceeds
    apply Keeps.ite
    · intro _
      apply (shifts.toSuits.speaks.ofExcept message.MsgSeqNum).bind
      intro msgSeqNum
      apply accepted.bind
      intro _
      apply Keeps.bind
      · exact shifts.turns.assign fun _ => ⟨⟨rfl, rfl, rfl, rfl, id⟩, rfl, rfl⟩
      · intro _
        exact dispatch_keeps shifts.toSuits loggedOn msgType message
    · intro _
      exact keeps_pure ()

theorem afterReceipt_keeps (shifts : Shifts environment relation)
    (loggedOn : Keeps relation (setState .loggedOn))
    {message : Message}
    (accepted : Keeps relation (Session.record (.accepted message))) :
    Keeps relation (do
      if ← validate environment message then
        let msgType ← Call.ofExcept message.MsgType
        let possDupFlag ← Call.ofExcept message.PossDupFlag
        if msgType = MsgType.SequenceReset then
          processSequenceReset environment message
        else
          let admin ← Call.ofExcept message.isAdmin
          if possDupFlag ∧ admin then
            record (.warning
              (ascii "Ignoring PossDup Admin message with MsgType=" ++ msgType))
          else processNumbered environment msgType message) := by
  apply (validate_keeps shifts.toSuits.speaks message).bind
  intro valid
  apply Keeps.ite
  · intro _
    apply (shifts.toSuits.speaks.ofExcept message.MsgType).bind
    intro msgType
    apply (shifts.toSuits.speaks.ofExcept message.PossDupFlag).bind
    intro possDupFlag
    apply Keeps.ite
    · intro _
      exact processSequenceReset_keeps shifts.turns message
    · intro _
      apply (shifts.toSuits.speaks.ofExcept message.isAdmin).bind
      intro admin
      apply Keeps.ite
      · intro _
        exact shifts.toSuits.speaks.record rfl
      · intro _
        exact processNumbered_keeps shifts loggedOn accepted msgType
  · intro _
    exact keeps_pure ()

structure Admitted (relation : Session → Session → Prop) (message : Message) :
    Prop where
  received : Keeps relation (Session.record (.messageReceived message))
  accepted : Keeps relation (Session.record (.accepted message))

/-- Every input; what is received or sent from outside is asked for. -/
theorem step_keeps (shifts : Shifts environment relation)
    (loggedOn : Keeps relation (setState .loggedOn)) {input : Input}
    (admitted : ∀ message, input = .received message → Admitted relation message)
    (sends : ∀ message options, input = .send message options →
      Keeps relation (send environment message options)) :
    Keeps relation (step environment input) := by
  cases input with
  | «open» => exact open_keeps shifts.toSuits.speaks
  | close => exact close_keeps shifts.toSuits.speaks
  | received message =>
      have both := admitted message rfl
      exact both.received.bind fun _ => afterReceipt_keeps shifts loggedOn both.accepted
  | heartbeatTimer => exact defibrillate_keeps shifts.toSuits.speaks
  | testRequestTimer => exact testRequestTimer_keeps shifts.toSuits.speaks
  | send message options => exact sends message options rfl
  | closed => exact shifts.left

end Rules

end Session

end Crocofix

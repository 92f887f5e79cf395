/-
How a session comes to be logged on.

A Logon that is accepted is never forgotten, and most calls do not lead to the
states in which a session counts as logged on.  The exceptions are a Heartbeat
and a number that is too high, neither of which asks for the Logon.
-/

import Crocofix.Session.Carry
import Crocofix.Session.Disconnected
import Crocofix.Session.Incoming

namespace Crocofix

open Numeral

namespace Session

open Call (Keeps keeps_pure)

def IsOn (session : Session) : Prop :=
  session.state = .loggedOn ∨ session.state = .resending

/-- A Logon is not forgotten, and the session is not on where it was not
before, unless the relation is meant to allow it. -/
structure Stands (freely : Prop) (before after : Session) : Prop where
  learned : before.logonReceived = true → after.logonReceived = true
  entered : after.IsOn → freely ∨ after.state = before.state

section Relation

variable {freely : Prop}

theorem Stands.of_same {before after : Session}
    (state : after.state = before.state)
    (logon : before.logonReceived = true → after.logonReceived = true) :
    Stands freely before after where
  learned := logon
  entered _ := .inr state

theorem Stands.trans {first second third : Session}
    (left : Stands freely first second) (right : Stands freely second third) :
    Stands freely first third where
  learned := right.learned ∘ left.learned
  entered isOn := by
    rcases right.entered isOn with allowed | same
    · exact .inl allowed
    · rw [same]
      apply left.entered
      unfold IsOn at isOn ⊢
      rwa [← same]

instance : Std.Refl (Stands freely) where
  refl _ := .of_same rfl id

instance : IsTrans Session (Stands freely) where
  trans _ _ _ := Stands.trans

theorem setState_stands {state : SessionState}
    (allowed : state = .loggedOn ∨ state = .resending → freely) :
    Keeps (Stands freely) (setState state) := by
  intro session
  by_cases same : session.state = state
  · rw [setState_of_eq same]
    exact Std.Refl.refl session
  · rw [setState_of_ne same]
    exact ⟨id, fun isOn => .inl (allowed isOn)⟩

theorem setState_stands_off {state : SessionState} (notOn : state ≠ .loggedOn)
    (notResending : state ≠ .resending) :
    Keeps (Stands freely) (setState state) := by
  apply setState_stands
  rintro (isOn | resending)
  · exact absurd isOn notOn
  · exact absurd resending notResending

theorem restartSeqNums_stands : Keeps (Stands freely) restartSeqNums := by
  apply (setState_stands_off (by decide) (by decide)).bind
  intro _ session
  exact .of_same rfl id

variable (world : World)

theorem send_stands (message : Message) (options : EncodeOptions) :
    Keeps (Stands freely) (send (world.environment 0) message options) := by
  intro session
  cases read : message.isResetLogon with
  | error exception =>
      unfold send
      rw [read]
      exact Std.Refl.refl session
  | ok resets =>
      obtain ⟨base, outgoing, event, newer, first, -, -, last⟩ :=
        send_plain world options read session
      have restarted : Stands freely session
          (Call.onlyIf resets restartSeqNums session).2 := by
        unfold Call.onlyIf
        split
        · exact restartSeqNums_stands session
        · exact Std.Refl.refl session
      rw [first] at restarted
      rw [last]
      exact restarted.trans (.of_same rfl id)

theorem bears_stands : Bears (world.environment 0) (Stands freely) where
  remark _ _ _ := .of_same rfl id
  upkeep before after same := by
    refine .of_same same.state ?_
    rw [same.logon]
    exact id
  left := setState_stands_off (by decide) (by decide)
  unlogged := setState_stands_off (by decide) (by decide)
  begun := setState_stands_off (by decide) (by decide)
  sent message options _ := send_stands world message options

theorem carries_stands : Carries (world.environment 0) (Stands True) where
  toBears := bears_stands world
  loggedOn := setState_stands fun _ => trivial
  resending := setState_stands fun _ => trivial
  discarded _ _ _ := .of_same rfl id
  assigned _ _ same := .of_same same.state same.logon
  restarted := restartSeqNums_stands
  resetLogon := by
    intro session
    exact send_stands world _ _ session

end Relation

/-! ### What comes before the Logon -/

/-- The message passes the check of the CompIDs and the first message, and its
number is read. -/
def Numbers (session : Session) (message : Message) (number : UInt32) : Prop :=
  session.Validates message ∧ message.MsgSeqNum = .ok number

/-- The Heartbeat answers nothing, or the TestRequest that was sent last. -/
def Answers (session : Session) (heartbeat : Message) : Prop :=
  ∀ testReqID, heartbeat.fields.tryGet Tag.TestReqID = some testReqID →
    ∃ expected, session.expectedTestRequestId = some expected ∧
      testReqID.value = decimal expected.toNat

/-- A message that puts a session on which has received no Logon. -/
inductive Precedes (session : Session) (message : Message) : Prop
  | filled (number : UInt32) (numbers : session.Numbers message number)
      (high : session.incomingMsgSeqNum < number)
      (msgType : message.MsgType = .ok MsgType.SequenceReset)
      (field : Field) (newSeqNo : Int32)
      (present : message.fields.tryGet Tag.NewSeqNo = some field)
      (value : stoi field.value = .ok newSeqNo)
      (forward : session.incomingMsgSeqNum < newSeqNo.toUInt32)
      (gapFill : message.GapFillFlag = .ok true)
  | ahead (number : UInt32) (numbers : session.Numbers message number)
      (high : session.incomingMsgSeqNum < number)
      (numbered : IsNumbered message)
      (notLogon : message.MsgType ≠ .ok MsgType.Logon)
  | answered (numbers : session.Numbers message session.incomingMsgSeqNum)
      (numbered : IsNumbered message)
      (msgType : message.MsgType = .ok MsgType.Heartbeat)
      (waiting : session.state = .loggingOn ∨ session.state = .resetting ∨
        session.state = .resending)
      (answers : session.Answers message)

/-- A step that puts a session on before the Logon. -/
def Skips (session : Session) (input : Input) : Prop :=
  session.logonReceived = false ∧
    ∃ message, input = .received message ∧ session.Precedes message

/-- Where the session is on, a Logon has been accepted. -/
def IsOnByLogon (session : Session) : Prop :=
  session.IsOn → session.logonReceived = true

theorem Precedes.of_history {session : Session} {message : Message}
    {history : List Event} (precedes : Precedes { session with history } message) :
    session.Precedes message := by
  have numbers {number : UInt32}
      (holds : Numbers { session with history } message number) :
      session.Numbers message number :=
    ⟨⟨holds.1.checksum, holds.1.bodyLength, holds.1.beginString,
      holds.1.targetCompID, holds.1.senderCompID, holds.1.first⟩, holds.2⟩
  cases precedes with
  | filled number holds high msgType field newSeqNo present value forward gapFill =>
      exact .filled number (numbers holds) high msgType field newSeqNo present
        value forward gapFill
  | ahead number holds high numbered notLogon =>
      exact .ahead number (numbers holds) high numbered notLogon
  | answered holds numbered msgType waiting answers =>
      exact .answered (numbers holds) numbered msgType waiting answers

/-! ### Calls that wait for the Logon -/

section Calls

variable (world : World) {message : Message} {session : Session}

theorem validateSequenceNumbers_stands
    (notHigh : ∀ number, message.MsgSeqNum = .ok number →
      ¬ session.incomingMsgSeqNum < number) :
    Stands False session
      (validateSequenceNumbers (world.environment 0) message session).2 := by
  have bears := @bears_stands False world
  unfold validateSequenceNumbers
  cases read : message.MsgSeqNum with
  | error exception =>
      unfold sequenceNumberIsHigh
      rw [read]
      exact Std.Refl.refl session
  | ok number =>
      rw [Call.bind_of_ok (sequenceNumberIsHigh_of_not_lt read
        (notHigh number read)), if_neg Bool.false_ne_true]
      apply Call.related_bind (sequenceNumberIsLow_keeps bears.suits.speaks message session)
      intro low after _
      exact Std.Refl.refl after

theorem processGapFill_stands (newSeqNo : UInt32)
    (notHigh : ∀ number, message.MsgSeqNum = .ok number →
      ¬ session.incomingMsgSeqNum < number) :
    Stands False session
      (processGapFill (world.environment 0) message newSeqNo session).2 := by
  have bears := @bears_stands False world
  have assigns {change : Session → Session}
      (assigned : ∀ session, Assigned session (change session)) :
      Keeps (Stands False) (Call.modify change : Action Unit) := by
    intro before
    exact .of_same (assigned before).state (assigned before).logon
  have fills : Keeps (Stands False) (do
      let session ← Call.get
      let performing :=
        if session.options.useNextExpectedMsgSeqNum then
          session.state = .loggingOn
        else session.state = .resending
      if performing then
        record (.information (ascii
          "SeqenceReset (GapFill) received, NewSeqNo = " ++
            decimal newSeqNo.toNat))
        Call.modify fun session =>
          { session with incomingResentMsgSeqNum := newSeqNo }
        setIncomingMsgSeqNum newSeqNo
        completeResend (world.environment 0)
      else
        reject (world.environment 0) message
          (ascii
            "SequenceReset GapFill is not valid while not performing a resend")
          SessionRejectReason.Other) := by
    apply bears.get.bind
    intro between
    apply Keeps.ite
    · intro _
      apply (bears.record rfl).bind
      intro _
      apply Keeps.bind
      · exact assigns fun _ => ⟨rfl, rfl, rfl, rfl, id⟩
      · intro _
        apply Keeps.bind
        · exact assigns fun _ => ⟨rfl, rfl, rfl, rfl, id⟩
        · intro _
          exact completeResend_keeps bears.suits.speaks
    · intro _
      exact reject_keeps bears.suits.speaks message _ _
  unfold processGapFill
  apply Call.related_bind (validateSequenceNumbers_stands world notHigh)
  intro valid after _
  cases valid with
  | true => exact fills after
  | false => exact Std.Refl.refl after

theorem processSequenceReset_stands
    (notHigh : ∀ number field newSeqNo, message.MsgSeqNum = .ok number →
      message.fields.tryGet Tag.NewSeqNo = some field →
      stoi field.value = .ok newSeqNo →
      session.incomingMsgSeqNum < newSeqNo.toUInt32 →
      message.GapFillFlag = .ok true → ¬ session.incomingMsgSeqNum < number) :
    Stands False session
      (processSequenceReset (world.environment 0) message session).2 := by
  have bears := @bears_stands False world
  unfold processSequenceReset
  cases present : message.fields.tryGet Tag.NewSeqNo with
  | none => exact reject_keeps bears.suits.speaks message _ _ session
  | some field =>
      cases flag : message.GapFillFlag with
      | error exception => exact Std.Refl.refl session
      | ok gapFill =>
          simp only
          rw [Call.ofExcept_ok, Call.pure_bind]
          cases value : stoi field.value with
          | error exception => exact reject_keeps bears.suits.speaks message _ _ session
          | ok parsed =>
              simp only
              rw [Call.get_bind]
              by_cases low : parsed.toUInt32 ≤ session.incomingMsgSeqNum
              · rw [if_pos low]
                exact reject_keeps bears.suits.speaks message _ _ session
              · rw [if_neg low]
                cases gapFill with
                | true =>
                    rw [if_pos rfl]
                    apply processGapFill_stands
                    intro number read
                    exact notHigh number field parsed read present value
                      (UInt32.not_le.mp low) flag
                | false =>
                    rw [if_neg Bool.false_ne_true, Call.modify_bind, record_bind]
                    have completed := completeResend_keeps bears.suits.speaks
                      { session with
                        incomingResentMsgSeqNum := parsed.toUInt32
                        history := .information
                          (ascii "SeqenceReset (Reset) received, NewSeqNo = " ++
                            decimal parsed.toUInt32.toNat) :: session.history }
                    exact ⟨completed.learned, completed.entered⟩

theorem processHeartbeat_stands
    (unanswered : (session.state = .loggingOn ∨ session.state = .resetting ∨
      session.state = .resending) → ¬ session.Answers message) :
    Stands False session
      (processHeartbeat (world.environment 0) message session).2 := by
  have bears := @bears_stands False world
  unfold processHeartbeat
  rw [Call.get_bind]
  by_cases waiting : session.state = .loggingOn ∨ session.state = .resetting ∨
      session.state = .resending
  · rw [if_pos waiting]
    have refuses := unanswered waiting
    cases present : message.fields.tryGet Tag.TestReqID with
    | none =>
        exfalso
        apply refuses
        intro testReqID impossible
        rw [present] at impossible
        cases impossible
    | some testReqID =>
        cases expects : session.expectedTestRequestId with
        | none => exact bears.record rfl session
        | some expected =>
            simp only
            by_cases differs : testReqID.value ≠ decimal expected.toNat
            · rw [if_pos differs]
              apply Call.related_bind (bears.record rfl session)
              intro _ after _
              exact close_keeps bears.suits.speaks after
            · exfalso
              apply refuses
              intro other same
              rw [present] at same
              cases same
              exact ⟨expected, expects, not_not.mp differs⟩
  · rw [if_neg waiting]
    exact Std.Refl.refl session

theorem processLogon_stands (logon : Message) (session : Session) :
    (Stands False session
        (processLogon (world.environment 0) logon session).2 ∧
      (processLogon (world.environment 0) logon session).1 ≠ .ok true) ∨
    (processLogon (world.environment 0) logon session).2.logonReceived = true := by
  have bears := @bears_stands False world
  have carries := carries_stands world
  unfold processLogon
  cases flag : logon.ResetSeqNumFlag with
  | error exception =>
      left
      refine ⟨Std.Refl.refl session, ?_⟩
      intro impossible
      cases impossible
  | ok resetSeqNumFlag =>
      rw [Call.ofExcept_ok, Call.pure_bind]
      rcases extractHeartbeatInterval_spec (world.environment 0) logon session with
        ⟨field, interval, -, -, run⟩ | refused
      · right
        rw [Call.bind_of_ok run, if_pos rfl, Call.modify_bind, Call.get_bind]
        have rest : Keeps (Stands True)
            (if session.options.useNextExpectedMsgSeqNum then
              processNextExpected (world.environment 0) logon
            else if resetSeqNumFlag then
              processResetLogon (world.environment 0) logon
            else processPlainLogon (world.environment 0) logon) := by
          apply Keeps.ite
          · intro _
            exact processNextExpected_keeps carries.toBears.suits carries.resending logon
          · intro _
            apply Keeps.ite
            · intro _
              exact processResetLogon_keeps carries.shifts.turns logon
            · intro _
              exact processPlainLogon_keeps carries.shifts.turns logon
        exact (rest _).learned rfl
      · left
        refine ⟨?_, Call.bind_if_ne refused _⟩
        apply Call.related_bind (extractHeartbeatInterval_keeps bears.suits.speaks logon session)
        intro extracted after run
        rw [run] at refused
        cases extracted with
        | true => exact absurd rfl refused
        | false => exact Std.Refl.refl after

theorem dispatch_stands {msgType : Bytes}
    (unanswered : msgType = MsgType.Heartbeat →
      (session.state = .loggingOn ∨ session.state = .resetting ∨
        session.state = .resending) → ¬ session.Answers message) :
    Stands False session
      (dispatch (world.environment 0) msgType message session).2 := by
  by_cases isHeartbeat : msgType = MsgType.Heartbeat
  · unfold dispatch
    rw [if_pos isHeartbeat]
    exact processHeartbeat_stands world (unanswered isHeartbeat)
  · exact dispatch_keeps_of_ne (bears_stands world).suits isHeartbeat message session

theorem afterCheck_stands (msgType : Bytes) (proceeds : Bool) :
    Keeps (Stands True) (if proceeds then do
        let msgSeqNum ← Call.ofExcept message.MsgSeqNum
        record (.accepted message)
        setIncomingMsgSeqNum (msgSeqNum + 1)
        dispatch (world.environment 0) msgType message
      else pure ()) := by
  have carries := carries_stands world
  have marked : Keeps (Stands True) (record (.accepted message)) :=
    fun _ => .of_same rfl id
  apply Keeps.ite
  · intro _
    apply (carries.toBears.ofExcept _).bind
    intro msgSeqNum
    apply marked.bind
    intro _
    apply Keeps.bind
    · exact carries.shifts.turns.assign fun _ => ⟨⟨rfl, rfl, rfl, rfl, id⟩, rfl, rfl⟩
    · intro _
      exact dispatch_keeps carries.toBears.suits carries.loggedOn msgType message
  · intro _
    exact keeps_pure ()

theorem processNumbered_stands {msgType : Bytes}
    (notHigh : msgType ≠ MsgType.Logon →
      ∀ number, message.MsgSeqNum = .ok number →
        ¬ session.incomingMsgSeqNum < number)
    (unanswered : msgType = MsgType.Heartbeat →
      message.MsgSeqNum = .ok session.incomingMsgSeqNum →
      (session.state = .loggingOn ∨ session.state = .resetting ∨
        session.state = .resending) → ¬ session.Answers message) :
    Stands False session
        (processNumbered (world.environment 0) msgType message session).2 ∨
      (processNumbered (world.environment 0) msgType message
        session).2.logonReceived = true := by
  have rest := @afterCheck_stands world message msgType
  unfold processNumbered checkNumber
  by_cases isLogon : msgType = MsgType.Logon
  · rw [if_pos isLogon]
    rcases processLogon_stands world message session with ⟨stands, fails⟩ | known
    · left
      apply Call.related_bind stands
      intro proceeds after run
      rw [run] at fails
      cases proceeds with
      | true => exact absurd rfl fails
      | false => exact Std.Refl.refl after
    · right
      rw [Call.bind_apply]
      revert known
      generalize processLogon (world.environment 0) message session = called
      intro known
      rcases called with ⟨exception | proceeds, after⟩
      · exact known
      · exact (rest proceeds after).learned known
  · left
    rw [if_neg isLogon]
    rcases validateSequenceNumbers_spec world message session with
      ⟨run, expected⟩ | ⟨fails, -⟩
    · rw [Call.bind_of_ok run, if_pos rfl]
      cases read : message.MsgSeqNum with
      | error exception => exact Std.Refl.refl session
      | ok number =>
          rw [Call.ofExcept_ok, Call.pure_bind, record_bind]
          have dispatched := @dispatch_stands world message
            { session with
              incomingMsgSeqNum := number + 1
              history := .accepted message :: session.history } msgType (by
                intro isHeartbeat
                rw [expected number read] at read
                exact unanswered isHeartbeat read)
          exact ⟨dispatched.learned, dispatched.entered⟩
    · apply Call.related_bind (validateSequenceNumbers_stands world
        (notHigh isLogon))
      intro proceeds after run
      rw [run] at fails
      cases proceeds with
      | true => exact absurd rfl fails
      | false => exact Std.Refl.refl after

theorem onMessageRead_stands (waits : ¬ session.Precedes message) :
    Stands False session
        (onMessageRead (world.environment 0) message session).2 ∨
      (onMessageRead (world.environment 0) message
        session).2.logonReceived = true := by
  have bears := @bears_stands False world
  unfold onMessageRead
  rw [record_bind]
  have heard : Stands False session
      { session with history := .messageReceived message :: session.history } :=
    .of_same rfl id
  have toldWaits : ¬ Precedes
      { session with history := .messageReceived message :: session.history }
      message := by
    intro precedes
    exact waits precedes.of_history
  revert heard toldWaits
  generalize
    ({ session with history := .messageReceived message :: session.history } :
      Session) = told
  intro heard toldWaits
  suffices stands : ∀ after : Session, Stands False told after ∨
      after.logonReceived = true → Stands False session after ∨
        after.logonReceived = true by
    apply stands
    rcases validate_decides (world.environment 0) message told with
      ⟨validates, run⟩ | ⟨-, fails⟩
    · rw [Call.bind_of_ok run, if_pos rfl]
      cases typed : message.MsgType with
      | error exception => exact .inl (Std.Refl.refl told)
      | ok msgType =>
          cases flag : message.PossDupFlag with
          | error exception => exact .inl (Std.Refl.refl told)
          | ok possDupFlag =>
              have admin : message.isAdmin =
                  .ok (Message.adminTypes.contains msgType) := by
                unfold Message.isAdmin
                rw [typed]
                rfl
              rw [Call.ofExcept_ok, Call.pure_bind, Call.ofExcept_ok,
                Call.pure_bind]
              by_cases resets : msgType = MsgType.SequenceReset
              · left
                rw [if_pos resets]
                rw [resets] at typed
                apply processSequenceReset_stands
                intro number field newSeqNo read present value forward gapFill high
                exact toldWaits (.filled number ⟨validates, read⟩ high typed field
                  newSeqNo present value forward gapFill)
              · rw [if_neg resets, admin, Call.ofExcept_ok, Call.pure_bind]
                by_cases repeated :
                    possDupFlag ∧ Message.adminTypes.contains msgType
                · left
                  rw [if_pos repeated]
                  exact bears.record rfl told
                · rw [if_neg repeated]
                  have numbered : IsNumbered message :=
                    ⟨msgType, possDupFlag, typed, flag, resets, repeated⟩
                  apply processNumbered_stands
                  · intro notLogon number read high
                    refine toldWaits (.ahead number ⟨validates, read⟩ high
                      numbered ?_)
                    rw [typed]
                    intro same
                    injection same with equal
                    exact notLogon equal
                  · intro isHeartbeat read waiting answers
                    rw [isHeartbeat] at typed
                    exact toldWaits (.answered ⟨validates, read⟩ numbered typed
                      waiting answers)
    · left
      apply Call.related_bind (validate_keeps bears.suits.speaks message told)
      intro passed after run
      rw [run] at fails
      cases passed with
      | true => exact absurd rfl fails
      | false => exact Std.Refl.refl after
  intro after stands
  rcases stands with stands | known
  · exact .inl (heard.trans stands)
  · exact .inr known

end Calls

/-! ### Every run -/

variable (world : World)

theorem step_isOnByLogon {session : Session} {input : Input}
    (waits : ¬ Skips session input) (before : session.IsOnByLogon) :
    (step (world.environment 0) input session).2.IsOnByLogon := by
  intro isOn
  have carries := carries_stands world
  have bears := @bears_stands False world
  cases known : session.logonReceived with
  | true =>
      have kept : Keeps (Stands True) (step (world.environment 0) input) :=
        step_keeps carries.shifts carries.loggedOn
          (fun _ _ => ⟨fun _ => .of_same rfl id, fun _ => .of_same rfl id⟩)
          fun message options _ => send_stands world message options
      exact (kept session).learned known
  | false =>
      have stands : Stands False session
            (step (world.environment 0) input session).2 ∨
          (step (world.environment 0) input session).2.logonReceived = true := by
        cases input with
        | «open» => exact .inl (open_keeps bears.suits.speaks session)
        | close => exact .inl (close_keeps bears.suits.speaks session)
        | received message =>
            apply onMessageRead_stands
            intro precedes
            exact waits ⟨known, message, rfl, precedes⟩
        | heartbeatTimer => exact .inl (defibrillate_keeps bears.suits.speaks session)
        | testRequestTimer => exact .inl (testRequestTimer_keeps bears.suits.speaks session)
        | send message options => exact .inl (send_stands world message options session)
        | closed => exact .inl (bears.left session)
      rcases stands with stands | learned
      · rcases stands.entered isOn with impossible | same
        · exact False.elim impossible
        · have wasOn : session.IsOn := by
            unfold IsOn at isOn ⊢
            rwa [← same]
          rw [before wasOn] at known
          cases known
      · exact learned

/-- In a run none of whose steps skips the Logon, a session that is logged on
or resending has received one. -/
theorem run_isOnByLogon (options : SessionOptions) (incoming outgoing : UInt32)
    {inputs : List Input}
    (waits : ∀ moment ∈ trace (world.environment 0) inputs
      (create options incoming outgoing), ¬ Skips moment.1 moment.2) :
    (∀ moment ∈ trace (world.environment 0) inputs
        (create options incoming outgoing), moment.1.IsOnByLogon) ∧
      (run (world.environment 0) inputs
        (create options incoming outgoing)).IsOnByLogon := by
  have initially : (create options incoming outgoing).IsOnByLogon := by
    rintro (impossible | impossible)
    · cases impossible
    · cases impossible
  revert waits initially
  generalize create options incoming outgoing = session
  intro waits initially
  induction inputs generalizing session with
  | nil =>
      refine ⟨?_, initially⟩
      intro moment member
      cases member
  | cons input rest ih =>
      have first := step_isOnByLogon world
        (waits (session, input) List.mem_cons_self) initially
      obtain ⟨reached, last⟩ := ih _
        (fun moment member => waits moment (List.mem_cons_of_mem _ member)) first
      refine ⟨?_, last⟩
      intro moment member
      rcases List.mem_cons.mp member with here | later
      · rw [here]
        exact initially
      · exact reached moment later

/-! ### Sessions that are on without a Logon -/

def earlyReject : Message where
  fields :=
    [⟨Tag.BeginString, ascii "FIX.4.4"⟩, ⟨Tag.BodyLength, ascii "50"⟩,
      ⟨Tag.MsgType, MsgType.Reject⟩, ⟨Tag.SenderCompID, ascii "I"⟩,
      ⟨Tag.TargetCompID, ascii "A"⟩, ⟨Tag.MsgSeqNum, ascii "5"⟩,
      ⟨Tag.SendingTime, ascii "20260101-00:00:00.000"⟩,
      ⟨Tag.RefSeqNum, ascii "1"⟩, ⟨Tag.CheckSum, ascii "022"⟩]
  decodeChecksum := 22
  decodeChecksumValid := true

/-- A Heartbeat logs the initiator on, and a Reject with a high number makes
the acceptor ask for a resend. -/
theorem on_without_logon :
    (run (World.plain.environment 0) [.open, .received firstHeartbeat]
        (create initiatorOptions 1 1)).state = .loggedOn ∧
      ¬ (run (World.plain.environment 0) [.open, .received firstHeartbeat]
        (create initiatorOptions 1 1)).IsOnByLogon ∧
    (run (World.plain.environment 0) [.open, .received earlyReject]
        (create { announcingAcceptor.options with
          useNextExpectedMsgSeqNum := false } 1 1)).state = .resending ∧
      ¬ (run (World.plain.environment 0) [.open, .received earlyReject]
        (create { announcingAcceptor.options with
          useNextExpectedMsgSeqNum := false } 1 1)).IsOnByLogon := by
  refine ⟨by decide, ?_, by decide, ?_⟩
  · intro byLogon
    exact absurd (byLogon (.inl (by decide))) (by decide)
  · intro byLogon
    exact absurd (byLogon (.inr (by decide))) (by decide)

theorem run_isOnByLogon_confirmed :
    (run (World.plain.environment 0)
      [.open, .received confirmingLogon, .received fifthHeartbeat]
      (create initiatorOptions 1 1)).state = .resending ∧
    (run (World.plain.environment 0)
      [.open, .received confirmingLogon, .received fifthHeartbeat]
      (create initiatorOptions 1 1)).IsOnByLogon := by
  refine ⟨by decide, (run_isOnByLogon World.plain initiatorOptions 1 1 ?_).2⟩
  have isLogon : confirmingLogon.MsgType = .ok MsgType.Logon := by decide
  intro moment member
  rcases List.mem_cons.mp member with rfl | member
  · rintro ⟨-, message, impossible, -⟩
    cases impossible
  rcases List.mem_cons.mp member with rfl | member
  · rintro ⟨-, message, received, precedes⟩
    cases received
    cases precedes with
    | filled _ _ _ msgType =>
        rw [isLogon] at msgType
        exact absurd msgType (by decide)
    | ahead _ _ _ _ notLogon => exact notLogon isLogon
    | answered _ _ msgType =>
        rw [isLogon] at msgType
        exact absurd msgType (by decide)
  · rw [List.mem_singleton.mp member]
    rintro ⟨unknown, -⟩
    exact absurd unknown (by decide)

end Session

end Crocofix

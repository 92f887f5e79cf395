/-
Sessions whose writer takes every message.

Sending then always returns, and a message that meets the conditions for
moving the incoming number does move it.
-/

import Crocofix.Session.Outcome

namespace Crocofix

open Numeral

namespace Session

open Call (Yields yields_pure)

section

variable {environment : Environment} {message : Message} {session : Session}

theorem sequenceNumberIsHigh_of_not_lt {number : UInt32}
    (read : message.MsgSeqNum = .ok number)
    (notHigh : ¬ session.incomingMsgSeqNum < number) :
    sequenceNumberIsHigh environment message session = (.ok false, session) := by
  unfold sequenceNumberIsHigh
  rw [read, Call.ofExcept_ok, Call.pure_bind, Call.get_bind, if_neg notHigh]
  rfl

theorem sequenceNumberIsLow_of_not_lt {number : UInt32}
    (read : message.MsgSeqNum = .ok number)
    (notLow : ¬ number < session.incomingMsgSeqNum) :
    sequenceNumberIsLow environment message session = (.ok false, session) := by
  unfold sequenceNumberIsLow
  rw [read, Call.ofExcept_ok, Call.pure_bind, Call.get_bind, if_neg notLow]
  rfl

theorem sequenceNumberIsHigh_expected
    (read : message.MsgSeqNum = .ok session.incomingMsgSeqNum) :
    sequenceNumberIsHigh environment message session = (.ok false, session) :=
  sequenceNumberIsHigh_of_not_lt read (UInt32.lt_irrefl _)

theorem sequenceNumberIsLow_expected
    (read : message.MsgSeqNum = .ok session.incomingMsgSeqNum) :
    sequenceNumberIsLow environment message session = (.ok false, session) :=
  sequenceNumberIsLow_of_not_lt read (UInt32.lt_irrefl _)

theorem validateSequenceNumbers_expected
    (read : message.MsgSeqNum = .ok session.incomingMsgSeqNum) :
    validateSequenceNumbers environment message session = (.ok true, session) := by
  unfold validateSequenceNumbers
  rw [Call.bind_of_ok (sequenceNumberIsHigh_expected read),
    if_neg Bool.false_ne_true,
    Call.bind_of_ok (sequenceNumberIsLow_expected read)]
  rfl

end

theorem setState_yields (state : SessionState) : Yields (setState state) () := by
  intro session
  by_cases same : session.state = state
  · rw [setState_of_eq same]
  · rw [setState_of_ne same]

section Accepting

variable {world : World} (accepts : world.Accepts)

include accepts

theorem handOver_yields (message : Message) (options : EncodeOptions)
    (fields : FieldCollection) :
    Yields (handOver (world.environment 0) message options fields) () := by
  apply Yields.of_start
  intro session
  exact congrArg Prod.fst (Call.bind_of_ok (accepts.accept _ options session) _)

theorem send_yields {message : Message} {resets : Bool}
    (read : message.isResetLogon = .ok resets) (options : EncodeOptions) :
    Yields (send (world.environment 0) message options) () := by
  unfold send
  rw [read, Call.ofExcept_ok, Call.pure_bind]
  have restarted : Yields restartSeqNums () :=
    (setState_yields .resetting).bind fun _ => rfl
  apply restarted.onlyIf.bind
  apply Yields.of_start
  intro session
  have numbered : ∃ fields after,
      number options (session.addressed options message.fields) session =
        (.ok fields, after) := by
    unfold number
    split
    · exact ⟨_, _, rfl⟩
    · exact ⟨_, _, rfl⟩
  obtain ⟨fields, after, run⟩ := numbered
  rw [Call.bind_of_ok run]
  exact handOver_yields accepts message options fields after

theorem sendLogon_yields :
    Yields (sendLogon (world.environment 0) false) () := by
  apply Yields.of_start
  intro session
  exact send_yields accepts (sendLogon_usual session).resets .standard session

theorem performResend_yields (first last : UInt32) :
    Yields (performResend (world.environment 0) first last) () := by
  apply Yields.of_start
  intro session
  have ordinary := Message.ordinary_make
    (show ∀ field ∈ [Field.ofUInt32 Tag.MsgSeqNum first,
      .ofBool Tag.GapFillFlag true, .ofBool Tag.PossDupFlag true,
      .ofUInt32 Tag.NewSeqNo session.outgoingMsgSeqNum],
      field.tag ≠ Tag.MsgType by simp [Field.ofUInt32, Field.ofBool])
    (show MsgType.SequenceReset ≠ MsgType.Logon by decide)
  exact send_yields accepts ordinary.resets _ session

theorem sendTestRequest_yields :
    Yields (sendTestRequest (world.environment 0)) () := by
  intro session
  have allocated : allocateTestRequestId session =
      (.ok session.nextTestRequestId,
        { session with nextTestRequestId := session.nextTestRequestId + 1 }) := rfl
  have ordinary := Message.ordinary_make
    (show ∀ field ∈ [Field.ofUInt32 Tag.TestReqID session.nextTestRequestId],
      field.tag ≠ Tag.MsgType by simp [Field.ofUInt32])
    (show MsgType.TestRequest ≠ MsgType.Logon by decide)
  unfold sendTestRequest
  rw [Call.bind_of_ok allocated, Call.modify_bind]
  exact send_yields accepts ordinary.resets .standard _

theorem sendPostLogonTestRequest_yields :
    Yields (sendPostLogonTestRequest (world.environment 0)) () := by
  apply Yields.of_start
  intro session
  split
  · rfl
  · exact sendTestRequest_yields accepts session

theorem processNextExpected_yields {logon : Message} {field : Field}
    {parsed : Int32} {session : Session}
    (present : logon.fields.tryGet Tag.NextExpectedMsgSeqNum = some field)
    (value : stoi field.value = .ok parsed)
    (low : parsed.toUInt32 ≤ session.outgoingMsgSeqNum) :
    (processNextExpected (world.environment 0) logon session).1 = .ok true := by
  unfold processNextExpected
  rw [present]
  simp only
  rw [value]
  simp only [Call.get_bind]
  rw [if_neg (UInt32.not_lt.mpr low)]
  refine Yields.bind (Yields.onlyIf ?_) (Yields.bind
    (sendLogon_yields accepts).onlyIf
    ((sendPostLogonTestRequest_yields accepts).bind_pure true)) session
  exact Yields.modify_bind ((setState_yields .resending).bind
    (performResend_yields accepts _ _))

theorem processPlainLogon_yields {logon : Message} {session : Session}
    (read : logon.MsgSeqNum = .ok session.incomingMsgSeqNum) :
    (processPlainLogon (world.environment 0) logon session).1 = .ok true := by
  unfold processPlainLogon
  rw [Call.bind_of_ok (sequenceNumberIsLow_expected read),
    if_neg Bool.false_ne_true, Call.get_bind]
  have answered : Yields (Call.onlyIf
      (session.options.logonBehaviour = .acceptor)
      (sendLogon (world.environment 0) false)) () :=
    (sendLogon_yields accepts).onlyIf
  have untouched : Untouched session (Call.onlyIf
      (session.options.logonBehaviour = .acceptor)
      (sendLogon (world.environment 0) false) session).2 := by
    unfold Call.onlyIf
    split
    · exact sendLogon_untouched world session
    · exact .refl session
  have returned := answered session
  rw [Call.bind_apply]
  revert returned untouched
  generalize Call.onlyIf (session.options.logonBehaviour = .acceptor)
    (sendLogon (world.environment 0) false) session = called
  intro untouched returned
  rcases called with ⟨result, middle⟩
  cases returned
  rw [← untouched.incoming] at read
  simp only
  rw [Call.bind_of_ok (sequenceNumberIsHigh_expected read),
    if_neg Bool.false_ne_true]
  exact (sendPostLogonTestRequest_yields accepts).bind_pure true middle

theorem processLogon_yields {logon : Message} {number : UInt32}
    {session : Session} (read : logon.MsgSeqNum = .ok number)
    (flag : logon.ResetSeqNumFlag = .ok false)
    (accepted : session.AcceptsLogon logon number) :
    (processLogon (world.environment 0) logon session).1 = .ok true := by
  obtain ⟨field, interval, present, value⟩ := accepted.heartBtInt
  rw [processLogon_of_read flag present value]
  cases expects : session.options.useNextExpectedMsgSeqNum with
  | true =>
      obtain ⟨next, parsed, nextPresent, nextValue, low⟩ :=
        accepted.nextExpected expects
      rw [if_pos rfl]
      exact processNextExpected_yields accepts nextPresent nextValue low
  | false =>
      have expected := accepted.number expects
      rw [if_neg Bool.false_ne_true, if_neg Bool.false_ne_true]
      rw [expected] at read
      exact processPlainLogon_yields accepts read

theorem checkNumber_yields {message : Message} {msgType : Bytes} {number : UInt32}
    {session : Session} (typed : message.MsgType = .ok msgType)
    (takes : session.Takes message number)
    (ordinary : message.isResetLogon = .ok false) :
    (checkNumber (world.environment 0) msgType message session).1 = .ok true := by
  rcases takes.expected with ⟨resets, -⟩ | ⟨-, accepted, expected⟩
  · rw [ordinary] at resets
    cases resets
  · unfold checkNumber
    by_cases isLogon : msgType = MsgType.Logon
    · rw [isLogon] at typed
      have flag : message.ResetSeqNumFlag = .ok false := by
        unfold Message.isResetLogon at ordinary
        rw [typed] at ordinary
        exact ordinary
      rw [if_pos isLogon]
      exact processLogon_yields accepts takes.read flag (accepted typed)
    · rw [if_neg isLogon]
      have same : number = session.incomingMsgSeqNum := by
        apply expected
        rw [typed]
        intro equal
        injection equal with equal
        exact isLogon equal
      have read := takes.read
      rw [same] at read
      rw [validateSequenceNumbers_expected read]

theorem onMessageRead_takes {message : Message} {number : UInt32}
    {session : Session} (takes : session.Takes message number)
    (ordinary : message.isResetLogon = .ok false) :
    ∃ middle, Steady session middle ∧
      Steady
        { middle with
          incomingMsgSeqNum := number + 1
          history := .accepted message :: middle.history }
        (onMessageRead (world.environment 0) message session).2 := by
  obtain ⟨told, toldEq⟩ : ∃ told : Session, told =
    { session with history := .messageReceived message :: session.history } :=
      ⟨_, rfl⟩
  have noticed : Untouched session told := by
    rw [toldEq]
    exact untouched_of_notice session rfl
  have told_takes : told.Takes message number := by
    rw [toldEq]
    exact @Takes.of_history
      { session with history := .messageReceived message :: session.history }
      message number session.history takes
  obtain ⟨msgType, possDupFlag, typed, repeated, notReset, notRepeated⟩ :=
    takes.numbered
  have admin : message.isAdmin = .ok (Message.adminTypes.contains msgType) := by
    unfold Message.isAdmin
    rw [typed]
    rfl
  unfold onMessageRead
  rw [record_bind, ← toldEq]
  rcases validate_decides (world.environment 0) message told with
    ⟨-, run⟩ | ⟨fails, -⟩
  · rw [Call.bind_of_ok run, if_pos rfl, typed, Call.ofExcept_ok, Call.pure_bind,
      repeated, Call.ofExcept_ok, Call.pure_bind, if_neg notReset, admin,
      Call.ofExcept_ok, Call.pure_bind, if_neg notRepeated]
    have checked := checkNumber_checked world typed told
    have returned := checkNumber_yields accepts typed told_takes ordinary
    unfold processNumbered
    rw [Call.bind_apply]
    revert checked returned
    generalize checkNumber (world.environment 0) msgType message told = called
    intro checked returned
    rcases called with ⟨result, middle⟩
    cases returned
    cases checked with
    | stopped fails steady => exact absurd rfl fails
    | discarded fails middle number untouched discards => exact absurd rfl fails
    | restarted resets restarts =>
        rw [ordinary] at resets
        cases resets
    | passed steady admits =>
        refine ⟨middle, noticed.steady.trans steady, ?_⟩
        simp only [if_true]
        rw [takes.read, Call.ofExcept_ok, Call.pure_bind, record_bind]
        exact dispatch_keeps (tolerates_steady world).bears.suits
          (tolerates_steady world).loggedOn msgType message _
  · exact absurd told_takes.validates fails

end Accepting

end Session

end Crocofix

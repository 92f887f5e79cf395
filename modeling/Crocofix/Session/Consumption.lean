/-
Whether a message that has the expected number is consumed.

The number moves in two places only: behind the comparison of the numbers, and
where a gap fill is followed.  Every return before these leaves the session
waiting for a number that it has already seen.
-/

import Crocofix.Session.SequenceReset

namespace Crocofix

open Numeral

def Message.HasInterval (logon : Message) : Prop :=
  ∃ field interval, logon.fields.tryGet Tag.HeartBtInt = some field ∧
    stoi field.value = .ok interval

namespace Session

open Call (Keeps Total Ends Preserves)

/-! ### The condition -/

section Conditions

variable (orchestration : OrchestrationFieldCollection) (session : Session)
  (message : Message)

structure IsFollowed : Prop where
  typed : message.MsgType = .ok MsgType.SequenceReset
  flag : Succeeds message.PossDupFlag
  gapFill : message.GapFillFlag = .ok true
  names : ∃ field parsed, message.fields.tryGet Tag.NewSeqNo = some field ∧
    stoi field.value = .ok parsed ∧
    session.incomingMsgSeqNum < parsed.toUInt32
  filling : session.Filling

/-- A Logon with the expected number that `process_logon` lets through. -/
structure LetsThrough : Prop where
  flag : Succeeds message.ResetSeqNumFlag
  interval : message.HasInterval
  announces : session.options.useNextExpectedMsgSeqNum = true →
    session.Announces message
  first : session.options.useNextExpectedMsgSeqNum = false →
    message.ResetSeqNumFlag = .ok true → session.incomingMsgSeqNum = 1

/-- A message with the expected number that makes the session close. -/
inductive Closes : Prop
  | loggedOut (typed : message.MsgType = .ok MsgType.Logout)
  | answered (typed : message.MsgType = .ok MsgType.Heartbeat)
      (waiting : session.state = .loggingOn ∨ session.state = .resetting ∨
        session.state = .resending)
      (testReqID : Field) (expected : UInt32)
      (present : message.fields.tryGet Tag.TestReqID = some testReqID)
      (expects : session.expectedTestRequestId = some expected)
      (wrong : testReqID.value ≠ decimal expected.toNat)
  | unread (typed : message.MsgType = .ok MsgType.Logon)
      (flag : Succeeds message.ResetSeqNumFlag) (interval : ¬ message.HasInterval)
      (reason : Succeeds (orchestration.isFieldDefined Tag.SessionRejectReason))
  | unannounced (typed : message.MsgType = .ok MsgType.Logon)
      (flag : Succeeds message.ResetSeqNumFlag) (interval : message.HasInterval)
      (expects : session.options.useNextExpectedMsgSeqNum = true)
      (refuses : ¬ session.Announces message)

/-- A Logon on which the session resends, whatever its state. -/
structure Resumes : Prop where
  typed : message.MsgType = .ok MsgType.Logon
  numbered : IsNumbered message
  expects : session.options.useNextExpectedMsgSeqNum = true
  through : session.LetsThrough message
  behind : ∀ field parsed,
    message.fields.tryGet Tag.NextExpectedMsgSeqNum = some field →
    stoi field.value = .ok parsed →
    parsed.toUInt32 + 1 < session.outgoingMsgSeqNum

/-- The message does not come to one of the early returns, or the session is
disconnected after it. -/
inductive Settles : Prop
  | followed (followed : session.IsFollowed message)
  | advanced (numbered : IsNumbered message)
      (through : message.MsgType = .ok MsgType.Logon → session.LetsThrough message)
      (room : session.incomingMsgSeqNum + 1 ≠ 0)
  | closed (numbered : IsNumbered message)
      (closes : Closes orchestration session message)
  | gone (disconnected : session.state = .disconnected)
      (kept : ¬ session.Resumes message)

end Conditions

/-- The message with the expected number is consumed, unless the session is
disconnected. -/
def Consumed (before after : Session) : Prop :=
  after.state = .disconnected ∨ before.incomingMsgSeqNum < after.incomingMsgSeqNum

/-! ### Calls that close the session -/

theorem Untouched.preserves {before after : Session}
    (untouched : Untouched before after) (state : SessionState) :
    Preserves (fun session => session.state = state) before after := by
  intro same
  exact untouched.state.trans same

theorem setState_ends (state : SessionState) :
    Ends (fun session => session.state = state) (setState state) where
  left session := by
    by_cases same : session.state = state
    · rw [setState_of_eq same]
      exact same
    · rw [setState_of_ne same]

theorem close_ends : Ends (fun session => session.state = .disconnected) close where
  left _ := (setState_ends .disconnected).left _

section Accepting

variable {world : World} (accepts : world.Accepts)

include accepts

theorem sendLogout_ends (text : Bytes) :
    Ends (fun session => session.state = .disconnected)
      (sendLogout (world.environment 0) text) := by
  apply (total_send_make accepts (by simp) (by decide) .standard).ends
  intro _
  apply Ends.of_start
  intro session
  apply Total.ends
  · apply Total.onlyIf
    apply total_stopDefibrillator.bind
    intro _
    exact total_setState .connected
  · intro _
    exact close_ends

theorem logoutWithError_ends (text : Bytes) :
    Ends (fun session => session.state = .disconnected)
      (logoutWithError (world.environment 0) text) := by
  apply (total_record _).ends
  intro _
  apply (sendLogout_ends accepts text).bind
  intro _
  exact Call.keeps_pure false

/-- A Logon that cannot be rejected is left alone, and the session is closed
on any other. -/
theorem rejectAndLogout_ends (logon : Message) (text reason : Bytes)
    (session : Session) :
    (Rejectable world.orchestration logon →
      (rejectAndLogout (world.environment 0) logon text reason
        session).2.state = .disconnected) ∧
    (¬ Rejectable world.orchestration logon →
      Untouched session
        (rejectAndLogout (world.environment 0) logon text reason session).2) := by
  have returns := sendReject_returns_iff accepts logon text reason
    { session with history := .error text :: session.history }
  have rejected := sendReject_untouched world logon text (some reason)
    { session with history := .error text :: session.history }
  have closes : Ends (fun session => session.state = .disconnected) (do
      sendLogout (world.environment 0) text
      pure false : Action Bool) := by
    apply (sendLogout_ends accepts text).bind
    intro _
    exact Call.keeps_pure false
  unfold rejectAndLogout
  rw [record_bind, Call.bind_apply]
  unfold Call.Returns at returns
  revert returns rejected
  generalize sendReject (world.environment 0) logon text (some reason) _ = called
  intro returns rejected
  rcases called with ⟨exception | value, after⟩
  · constructor
    · intro rejectable
      obtain ⟨_, impossible⟩ := returns.mpr rejectable
      cases impossible
    · intro _
      exact (untouched_of_notice session rfl).trans rejected
  · constructor
    · intro _
      exact closes.left after
    · intro fails
      exact absurd (returns.mp ⟨value, rfl⟩) fails

end Accepting

/-! ### Messages other than Logons -/

section Numbered

variable (world : World) {message : Message} {session : Session}

def counted (session : Session) (message : Message) : Session :=
  { session with
    incomingMsgSeqNum := session.incomingMsgSeqNum + 1
    history := .accepted message :: session.history }

theorem processNumbered_expected (environment : Environment) {msgType : Bytes}
    (notLogon : msgType ≠ MsgType.Logon)
    (read : message.MsgSeqNum = .ok session.incomingMsgSeqNum) :
    processNumbered environment msgType message session =
      dispatch environment msgType message (session.counted message) := by
  unfold processNumbered checkNumber
  rw [if_neg notLogon, Call.bind_of_ok (validateSequenceNumbers_expected read),
    if_pos rfl, read]
  rfl

theorem dispatch_incoming (msgType : Bytes) (message : Message) (session : Session) :
    (dispatch (world.environment 0) msgType message session).2.incomingMsgSeqNum =
      session.incomingMsgSeqNum :=
  (dispatch_keeps (tolerates_calm world).bears.suits (tolerates_calm world).loggedOn
    msgType message session).incoming

theorem processHeartbeat_closes (environment : Environment)
    (waiting : session.state = .loggingOn ∨ session.state = .resetting ∨
      session.state = .resending)
    {testReqID : Field} {expected : UInt32}
    (present : message.fields.tryGet Tag.TestReqID = some testReqID)
    (expects : session.expectedTestRequestId = some expected)
    (wrong : testReqID.value ≠ decimal expected.toNat) :
    (processHeartbeat environment message session).2.state = .disconnected := by
  unfold processHeartbeat
  rw [Call.get_bind, if_pos waiting, present]
  simp only
  rw [expects]
  simp only
  rw [if_pos wrong, record_bind]
  exact close_ends.left _

theorem processHeartbeat_disconnected_iff (environment : Environment)
    (kept : (session.state = .loggingOn ∨ session.state = .resetting ∨
        session.state = .resending) →
      ∀ testReqID expected, message.fields.tryGet Tag.TestReqID = some testReqID →
        session.expectedTestRequestId = some expected →
        testReqID.value = decimal expected.toNat) :
    (processHeartbeat environment message session).2.state = .disconnected ↔
      session.state = .disconnected := by
  unfold processHeartbeat
  rw [Call.get_bind]
  by_cases waiting : session.state = .loggingOn ∨ session.state = .resetting ∨
      session.state = .resending
  · rw [if_pos waiting]
    have connected : session.state ≠ .disconnected := by
      rintro gone
      rw [gone] at waiting
      simp at waiting
    have logsOn : (logOn environment session).2.state = .loggedOn := by
      have ends : Ends (fun session => session.state = .loggedOn)
          (logOn environment) := by
        apply (setState_ends .loggedOn).bind
        intro _ after
        exact (startDefibrillator_untouched environment after).preserves .loggedOn
      exact ends.left session
    have entered : (logOn environment session).2.state = .disconnected ↔
        session.state = .disconnected := by
      rw [logsOn]
      exact iff_of_false (by decide) connected
    cases present : message.fields.tryGet Tag.TestReqID with
    | none => exact entered
    | some testReqID =>
        cases expects : session.expectedTestRequestId with
        | none => exact Iff.rfl
        | some expected =>
            simp only
            rw [if_neg (not_not.mpr (kept waiting testReqID expected present expects))]
            exact entered
  · rw [if_neg waiting]
    exact Iff.rfl

/-- What a message other than a Logon leaves, once it has moved the number. -/
theorem dispatch_disconnected {msgType : Bytes}
    (typed : message.MsgType = .ok msgType) (notLogon : msgType ≠ MsgType.Logon)
    (orchestration : OrchestrationFieldCollection) :
    (Closes orchestration session message →
      (dispatch (world.environment 0) msgType message session).2.state =
        .disconnected) ∧
    (¬ Closes orchestration session message →
      ((dispatch (world.environment 0) msgType message session).2.state =
          .disconnected ↔ session.state = .disconnected)) := by
  have isType {other : Bytes} (otherTyped : message.MsgType = .ok other) :
      msgType = other := by
    rw [typed] at otherTyped
    injection otherTyped
  unfold dispatch
  constructor
  · intro closes
    cases closes with
    | loggedOut loggedOut =>
        rw [isType loggedOut, if_neg (by decide), if_neg (by decide),
          if_neg (by decide), if_pos rfl]
        exact close_ends.left _
    | answered answered waiting testReqID expected present expects wrong =>
        rw [isType answered, if_pos rfl]
        exact processHeartbeat_closes _ waiting present expects wrong
    | unread unread => exact absurd (isType unread) notLogon
    | unannounced unannounced => exact absurd (isType unannounced) notLogon
  · intro kept
    by_cases isHeartbeat : msgType = MsgType.Heartbeat
    · rw [if_pos isHeartbeat]
      apply processHeartbeat_disconnected_iff
      intro waiting testReqID expected present expects
      rw [isHeartbeat] at typed
      by_contra wrong
      exact kept (.answered typed waiting testReqID expected present expects wrong)
    · rw [if_neg isHeartbeat]
      by_cases isTestRequest : msgType = MsgType.TestRequest
      · rw [if_pos isTestRequest, (processTestRequest_untouched world message _).state]
      · rw [if_neg isTestRequest]
        by_cases isResendRequest : msgType = MsgType.ResendRequest
        · rw [if_pos isResendRequest,
            (processResendRequest_untouched world message _).state]
        · rw [if_neg isResendRequest, if_neg]
          · exact Iff.rfl
          · intro isLogout
            rw [isLogout] at typed
            exact kept (.loggedOut typed)

theorem closes_moved_iff (orchestration : OrchestrationFieldCollection)
    (session : Session) (message : Message) (number : UInt32)
    (history : List Event) :
    Closes orchestration
        { session with incomingMsgSeqNum := number, history } message ↔
      Closes orchestration session message := by
  constructor
  · intro closes
    cases closes with
    | loggedOut typed => exact .loggedOut typed
    | answered typed waiting testReqID expected present expects wrong =>
        exact .answered typed waiting testReqID expected present expects wrong
    | unread typed flag interval reason => exact .unread typed flag interval reason
    | unannounced typed flag interval expects refuses =>
        exact .unannounced typed flag interval expects refuses
  · intro closes
    cases closes with
    | loggedOut typed => exact .loggedOut typed
    | answered typed waiting testReqID expected present expects wrong =>
        exact .answered typed waiting testReqID expected present expects wrong
    | unread typed flag interval reason => exact .unread typed flag interval reason
    | unannounced typed flag interval expects refuses =>
        exact .unannounced typed flag interval expects refuses

theorem onMessageRead_dispatches (environment : Environment) {msgType : Bytes}
    (validates : session.Validates message)
    (typed : message.MsgType = .ok msgType) (notLogon : msgType ≠ MsgType.Logon)
    (numbered : IsNumbered message)
    (read : message.MsgSeqNum = .ok session.incomingMsgSeqNum) :
    onMessageRead environment message session =
      dispatch environment msgType message
        ((session.told message).counted message) := by
  rw [onMessageRead_numbered environment validates typed numbered]
  exact processNumbered_expected environment notLogon read

theorem onMessageRead_other (validates : session.Validates message)
    (numbered : IsNumbered message)
    (notLogon : message.MsgType ≠ .ok MsgType.Logon)
    (read : message.MsgSeqNum = .ok session.incomingMsgSeqNum)
    (orchestration : OrchestrationFieldCollection) :
    (onMessageRead (world.environment 0) message session).2.incomingMsgSeqNum =
        session.incomingMsgSeqNum + 1 ∧
    (Closes orchestration session message →
      (onMessageRead (world.environment 0) message session).2.state =
        .disconnected) ∧
    (¬ Closes orchestration session message →
      ((onMessageRead (world.environment 0) message session).2.state =
          .disconnected ↔ session.state = .disconnected)) := by
  obtain ⟨msgType, possDupFlag, typed, rest⟩ := numbered
  have other : msgType ≠ MsgType.Logon := by
    rintro rfl
    exact notLogon typed
  rw [onMessageRead_dispatches _ validates typed other
    ⟨msgType, possDupFlag, typed, rest⟩ read]
  have same := closes_moved_iff orchestration session message
    (session.incomingMsgSeqNum + 1)
    (.accepted message :: .messageReceived message :: session.history)
  rw [← same]
  exact ⟨dispatch_incoming world msgType message _,
    dispatch_disconnected world typed other orchestration⟩

end Numbered

/-! ### Logons -/

section Logons

variable {world : World} {logon : Message} {session : Session}

/-- Where the peer has missed messages the session resends, and otherwise its
state stays. -/
theorem processNextExpected_state {field : Field} {parsed : Int32}
    (present : logon.fields.tryGet Tag.NextExpectedMsgSeqNum = some field)
    (value : stoi field.value = .ok parsed)
    (low : parsed.toUInt32 ≤ session.outgoingMsgSeqNum) :
    (parsed.toUInt32 + 1 < session.outgoingMsgSeqNum →
      (processNextExpected (world.environment 0) logon session).2.state =
        .resending) ∧
    (¬ parsed.toUInt32 + 1 < session.outgoingMsgSeqNum →
      Untouched session
        (processNextExpected (world.environment 0) logon session).2) := by
  have answers : Keeps Untouched (do
      Call.onlyIf (session.options.logonBehaviour = .acceptor)
        (sendLogon (world.environment 0) false)
      sendPostLogonTestRequest (world.environment 0)
      pure true : Action Bool) := by
    apply Keeps.bind
    · apply Keeps.onlyIf
      intro _
      exact sendLogon_untouched world
    · intro _
      apply (sendPostLogonTestRequest_untouched world).bind
      intro _
      exact Call.keeps_pure true
  unfold processNextExpected
  rw [present]
  simp only
  rw [value]
  simp only
  rw [Call.get_bind, if_neg (UInt32.not_lt.mpr low)]
  constructor
  · intro behind
    rw [Call.onlyIf, if_pos behind]
    refine @Ends.left Exception Session Bool
      (fun session => session.state = .resending) _ ?_ session
    apply Ends.bind
    · apply (total_record _).ends
      intro _
      apply (setState_ends .resending).bind
      intro _ between
      exact (performResend_untouched world _ _ between).preserves .resending
    · intro _ between
      exact (answers between).preserves .resending
  · intro level
    rw [Call.onlyIf, if_neg level]
    exact answers session

theorem processPlainLogon_untouched
    (read : logon.MsgSeqNum = .ok session.incomingMsgSeqNum) :
    Untouched session
      (processPlainLogon (world.environment 0) logon session).2 := by
  unfold processPlainLogon
  rw [Call.bind_of_ok (sequenceNumberIsLow_expected read),
    if_neg Bool.false_ne_true, Call.get_bind]
  have answered : Keeps Untouched (Call.onlyIf
      (session.options.logonBehaviour = .acceptor)
      (sendLogon (world.environment 0) false)) := by
    apply Keeps.onlyIf
    intro _
    exact sendLogon_untouched world
  apply Call.related_bind (answered session)
  intro _ between run
  have same := answered session
  rw [run] at same
  rw [← same.incoming] at read
  rw [Call.bind_of_ok (sequenceNumberIsHigh_expected read),
    if_neg Bool.false_ne_true]
  refine Keeps.bind (sendPostLogonTestRequest_untouched world) ?_ between
  intro _
  exact Call.keeps_pure true

theorem processResetLogon_refuses {number : UInt32} (environment : Environment)
    (read : logon.MsgSeqNum = .ok number) (other : number ≠ 1) :
    (processResetLogon environment logon session).1 = .ok false ∧
      Untouched session (processResetLogon environment logon session).2 := by
  unfold processResetLogon
  rw [read, Call.ofExcept_ok, Call.pure_bind, if_pos other]
  exact ⟨rfl, untouched_of_notice session rfl⟩

theorem processResetLogon_yields (accepts : world.Accepts)
    (read : logon.MsgSeqNum = .ok 1) :
    (processResetLogon (world.environment 0) logon session).1 = .ok true := by
  have yields := (total_sendPostLogonTestRequest accepts).bind_pure true
  unfold processResetLogon
  rw [read, Call.ofExcept_ok, Call.pure_bind, if_neg (not_not.mpr rfl),
    Call.get_bind]
  split
  · exact (sendTestRequest_yields accepts).bind_pure true session
  · refine Call.Yields.bind (total_record _).yields ?_ session
    refine Call.Yields.bind total_reset.yields ?_
    exact Call.Yields.bind (total_sendLogon accepts true).yields yields

def acquainted (session : Session) (interval : UInt32) : Session :=
  { session with
    options := { session.options with heartbeatInterval := interval }
    logonReceived := true }

theorem acquainted_untouched (session : Session) (interval : UInt32) :
    Untouched session (session.acquainted interval) :=
  Bookkeeping.untouched ⟨rfl, rfl, rfl, rfl, rfl, rfl, rfl⟩

theorem processLogon_of_interval {environment : Environment} {flag : Bool}
    (flagged : logon.ResetSeqNumFlag = .ok flag) (interval : logon.HasInterval) :
    ∃ seconds, processLogon environment logon session =
      (if session.options.useNextExpectedMsgSeqNum then
        processNextExpected environment logon
      else if flag then processResetLogon environment logon
      else processPlainLogon environment logon) (session.acquainted seconds) := by
  obtain ⟨field, seconds, present, value⟩ := interval
  exact ⟨seconds.toUInt32, processLogon_of_read flagged present value⟩

theorem processLogon_through (accepts : world.Accepts)
    (read : logon.MsgSeqNum = .ok session.incomingMsgSeqNum)
    (through : session.LetsThrough logon) :
    (processLogon (world.environment 0) logon session).1 = .ok true := by
  obtain ⟨flag, flagged⟩ := through.flag
  obtain ⟨seconds, run⟩ := @processLogon_of_interval logon session
    (world.environment 0) flag flagged through.interval
  rw [run]
  cases expects : session.options.useNextExpectedMsgSeqNum with
  | true =>
      obtain ⟨field, parsed, present, value, low⟩ := through.announces expects
      rw [if_pos rfl]
      exact processNextExpected_yields accepts present value low
  | false =>
      rw [if_neg Bool.false_ne_true]
      cases flag with
      | true =>
          rw [through.first expects flagged] at read
          exact processResetLogon_yields accepts read
      | false => exact processPlainLogon_yields accepts read

/-- Where the number cannot be increased, only a Logon on which the session
resends changes the state. -/
theorem processLogon_through_disconnected_iff
    (read : logon.MsgSeqNum = .ok session.incomingMsgSeqNum)
    (full : session.incomingMsgSeqNum + 1 = 0)
    (typed : logon.MsgType = .ok MsgType.Logon) (numbered : IsNumbered logon)
    (through : session.LetsThrough logon) :
    (processLogon (world.environment 0) logon session).2.state = .disconnected ↔
      session.state = .disconnected ∧ ¬ session.Resumes logon := by
  obtain ⟨flag, flagged⟩ := through.flag
  obtain ⟨seconds, run⟩ := @processLogon_of_interval logon session
    (world.environment 0) flag flagged through.interval
  have learned := acquainted_untouched session seconds
  rw [run]
  cases expects : session.options.useNextExpectedMsgSeqNum with
  | true =>
      obtain ⟨field, parsed, present, value, low⟩ := through.announces expects
      obtain ⟨resends, level⟩ := @processNextExpected_state world logon
        (session.acquainted seconds) field parsed present value low
      rw [if_pos rfl]
      by_cases behind : parsed.toUInt32 + 1 < session.outgoingMsgSeqNum
      · have resumes : session.Resumes logon := by
          refine ⟨typed, numbered, expects, through, ?_⟩
          intro other otherParsed otherPresent otherValue
          rw [present] at otherPresent
          injection otherPresent with same
          rw [← same, value] at otherValue
          injection otherValue with equal
          rwa [← equal]
        rw [resends behind]
        exact iff_of_false (by decide) fun holds => holds.2 resumes
      · have still : ¬ session.Resumes logon := by
          intro resumes
          exact behind (resumes.behind field parsed present value)
        rw [(learned.trans (level behind)).state]
        exact ⟨fun gone => ⟨gone, still⟩, fun holds => holds.1⟩
  | false =>
      have still : ¬ session.Resumes logon := by
        intro resumes
        rw [resumes.expects] at expects
        cases expects
      have untouched : Untouched (session.acquainted seconds)
          ((if flag then processResetLogon (world.environment 0) logon
            else processPlainLogon (world.environment 0) logon)
            (session.acquainted seconds)).2 := by
        cases flag with
        | true =>
            have first := through.first expects flagged
            rw [first] at full
            exact absurd full (by decide)
        | false => exact processPlainLogon_untouched read
      rw [if_neg Bool.false_ne_true, (learned.trans untouched).state]
      exact ⟨fun gone => ⟨gone, still⟩, fun holds => holds.1⟩

theorem closes_logon_iff (orchestration : OrchestrationFieldCollection)
    (typed : logon.MsgType = .ok MsgType.Logon) :
    Closes orchestration session logon ↔ Succeeds logon.ResetSeqNumFlag ∧
      (¬ logon.HasInterval ∧
          Succeeds (orchestration.isFieldDefined Tag.SessionRejectReason) ∨
        logon.HasInterval ∧ session.options.useNextExpectedMsgSeqNum = true ∧
          ¬ session.Announces logon) := by
  constructor
  · intro closes
    cases closes with
    | loggedOut loggedOut =>
        rw [typed] at loggedOut
        exact absurd loggedOut (by decide)
    | answered answered =>
        rw [typed] at answered
        exact absurd answered (by decide)
    | unread _ flag interval reason => exact ⟨flag, .inl ⟨interval, reason⟩⟩
    | unannounced _ flag interval expects refuses =>
        exact ⟨flag, .inr ⟨interval, expects, refuses⟩⟩
  · rintro ⟨flag, ⟨interval, reason⟩ | ⟨interval, expects, refuses⟩⟩
    · exact .unread typed flag interval reason
    · exact .unannounced typed flag interval expects refuses

/-- A Logon that is not let through closes the session or changes nothing. -/
theorem processLogon_refused (accepts : world.Accepts)
    (read : logon.MsgSeqNum = .ok session.incomingMsgSeqNum)
    (typed : logon.MsgType = .ok MsgType.Logon)
    (refused : ¬ session.LetsThrough logon) :
    (processLogon (world.environment 0) logon session).1 ≠ .ok true ∧
    (Closes world.orchestration session logon →
      (processLogon (world.environment 0) logon session).2.state =
        .disconnected) ∧
    (¬ Closes world.orchestration session logon →
      Untouched session (processLogon (world.environment 0) logon session).2) := by
  rw [closes_logon_iff world.orchestration typed]
  cases flagged : logon.ResetSeqNumFlag with
  | error exception =>
      have thrown : processLogon (world.environment 0) logon session =
          (.error exception, session) := by
        unfold processLogon
        rw [flagged]
        rfl
      rw [thrown]
      refine ⟨by simp, ?_, fun _ => .refl session⟩
      rintro ⟨⟨_, impossible⟩, -⟩
      cases impossible
  | ok flag =>
      by_cases interval : logon.HasInterval
      · obtain ⟨seconds, run⟩ := @processLogon_of_interval logon session
          (world.environment 0) flag flagged interval
        rw [run]
        cases expects : session.options.useNextExpectedMsgSeqNum with
        | true =>
            have refuses : ¬ session.Announces logon := by
              intro announces
              refine refused ⟨⟨flag, flagged⟩, interval, fun _ => announces, ?_⟩
              intro off
              rw [expects] at off
              cases off
            obtain ⟨text, answer⟩ := @processNextExpected_of_unannounced
              (world.environment 0) logon (session.acquainted seconds) refuses
            rw [if_pos rfl, answer]
            refine ⟨logoutWithError_ne _ text _, ?_, ?_⟩
            · intro _
              exact (logoutWithError_ends accepts text).left _
            · intro kept
              exact absurd ⟨⟨flag, rfl⟩, .inr ⟨interval, rfl, refuses⟩⟩ kept
        | false =>
            have misnumbered : flag = true ∧ session.incomingMsgSeqNum ≠ 1 := by
              by_contra fits
              refine refused ⟨⟨flag, flagged⟩, interval, ?_, ?_⟩
              · intro on
                rw [expects] at on
                cases on
              · intro _ resets
                rw [flagged] at resets
                injection resets with isSet
                by_contra other
                exact fits ⟨isSet, other⟩
            obtain ⟨isSet, other⟩ := misnumbered
            obtain ⟨stopped, untouched⟩ := @processResetLogon_refuses logon
              (session.acquainted seconds) session.incomingMsgSeqNum
              (world.environment 0) read other
            rw [if_neg Bool.false_ne_true, if_pos isSet]
            refine ⟨by rw [stopped]; simp, ?_, ?_⟩
            · rintro ⟨-, ⟨unread, -⟩ | ⟨-, impossible, -⟩⟩
              · exact absurd interval unread
              · cases impossible
            · intro _
              exact (acquainted_untouched session seconds).trans untouched
      · have unread : ∀ field, logon.fields.tryGet Tag.HeartBtInt = some field →
            ∃ exception, stoi field.value = .error exception := by
          intro field present
          cases value : stoi field.value with
          | error exception => exact ⟨exception, rfl⟩
          | ok seconds => exact absurd ⟨field, seconds, present, value⟩ interval
        obtain ⟨text, reason, stopped, same⟩ := @processLogon_refuses_unread
          (world.environment 0) logon flag flagged unread session
        obtain ⟨closing, keeping⟩ := rejectAndLogout_ends accepts logon text reason
          session
        rw [same]
        refine ⟨stopped, ?_, ?_⟩
        · rintro ⟨-, ⟨-, explains⟩ | ⟨isRead, -⟩⟩
          · exact closing ⟨⟨_, read⟩, explains⟩
          · exact absurd isRead interval
        · intro kept
          apply keeping
          intro rejectable
          exact kept ⟨⟨flag, rfl⟩, .inl ⟨interval, rejectable.reason⟩⟩

theorem letsThrough_told_iff (message : Message) :
    (session.told message).LetsThrough logon ↔ session.LetsThrough logon :=
  ⟨fun through => ⟨through.flag, through.interval, through.announces, through.first⟩,
    fun through =>
      ⟨through.flag, through.interval, through.announces, through.first⟩⟩

theorem resumes_told_iff (message : Message) :
    (session.told message).Resumes logon ↔ session.Resumes logon := by
  constructor
  · intro resumes
    exact ⟨resumes.typed, resumes.numbered, resumes.expects,
      (letsThrough_told_iff message).mp resumes.through, resumes.behind⟩
  · intro resumes
    exact ⟨resumes.typed, resumes.numbered, resumes.expects,
      (letsThrough_told_iff message).mpr resumes.through, resumes.behind⟩

theorem onMessageRead_letsThrough (accepts : world.Accepts)
    (validates : session.Validates logon)
    (typed : logon.MsgType = .ok MsgType.Logon) (numbered : IsNumbered logon)
    (read : logon.MsgSeqNum = .ok session.incomingMsgSeqNum)
    (through : session.LetsThrough logon) :
    (onMessageRead (world.environment 0) logon session).2.incomingMsgSeqNum =
        session.incomingMsgSeqNum + 1 ∧
      (session.incomingMsgSeqNum + 1 = 0 →
        ((onMessageRead (world.environment 0) logon session).2.state =
            .disconnected ↔
          session.state = .disconnected ∧ ¬ session.Resumes logon)) := by
  have passed := @processLogon_through world logon (session.told logon) accepts read
    ((letsThrough_told_iff logon).mpr through)
  have state := @processLogon_through_disconnected_iff world logon
    (session.told logon) read
  rw [onMessageRead_numbered _ validates typed numbered]
  unfold processNumbered checkNumber
  rw [if_pos rfl, Call.bind_apply]
  revert passed state
  generalize processLogon (world.environment 0) logon (session.told logon) = called
  intro passed state
  rcases called with ⟨_, after⟩
  cases passed
  simp only [if_true]
  rw [read]
  refine ⟨rfl, ?_⟩
  intro full
  have same := state full typed numbered ((letsThrough_told_iff logon).mpr through)
  rw [resumes_told_iff] at same
  exact same

theorem onMessageRead_not_letsThrough (accepts : world.Accepts)
    (validates : session.Validates logon)
    (typed : logon.MsgType = .ok MsgType.Logon) (numbered : IsNumbered logon)
    (read : logon.MsgSeqNum = .ok session.incomingMsgSeqNum)
    (refused : ¬ session.LetsThrough logon) :
    (Closes world.orchestration session logon →
      (onMessageRead (world.environment 0) logon session).2.state =
        .disconnected) ∧
    (¬ Closes world.orchestration session logon →
      Untouched session (onMessageRead (world.environment 0) logon session).2) := by
  have same := closes_moved_iff world.orchestration session logon
    session.incomingMsgSeqNum (.messageReceived logon :: session.history)
  obtain ⟨fails, closing, keeping⟩ := @processLogon_refused world logon
    (session.told logon) accepts read typed
    fun through => refused ((letsThrough_told_iff logon).mp through)
  rw [onMessageRead_numbered _ validates typed numbered]
  unfold processNumbered checkNumber
  rw [if_pos rfl, Call.bind_if_snd_of_ne fails _ (), ← same]
  refine ⟨closing, ?_⟩
  intro kept
  exact (untouched_of_notice session rfl).trans (keeping kept)

end Logons

/-! ### Every message -/

/-- A message that is valid, is allowed as the first one, and has the expected
number. -/
structure InSequence (session : Session) (message : Message) : Prop where
  validates : session.Validates message
  read : message.MsgSeqNum = .ok session.incomingMsgSeqNum

section Every

variable {world : World} {message : Message} {session : Session}

/-- What is neither numbered nor a gap fill that counts changes nothing. -/
theorem onMessageRead_unconsumed (sequence : session.InSequence message)
    (unnumbered : ¬ IsNumbered message) (idle : ¬ session.IsFollowed message) :
    Untouched session (onMessageRead (world.environment 0) message session).2 := by
  have heard : Untouched session (session.told message) :=
    untouched_of_notice session rfl
  cases onMessageRead_reading (world.environment 0) session message with
  | refused invalid => exact absurd sequence.validates invalid
  | unread _ _ _ _ same =>
      rw [same]
      exact heard
  | repeated _ _ _ _ _ same =>
      rw [same]
      exact heard.trans (untouched_of_notice _ rfl)
  | numbered _ _ _ numbered => exact absurd numbered unnumbered
  | reset _ typed possDupFlag flag _ same =>
      rw [same]
      apply heard.trans
      by_cases fills : message.GapFillFlag = .ok true ∧
          ∃ field parsed, message.fields.tryGet Tag.NewSeqNo = some field ∧
            stoi field.value = .ok parsed ∧
            session.incomingMsgSeqNum < parsed.toUInt32
      · obtain ⟨gapFill, field, parsed, present, value, forward⟩ := fills
        have refused := (@processSequenceReset_of_gapFill message
          (session.told message) parsed.toUInt32 (world.environment 0)
          gapFill sequence.read ⟨field, parsed, present, value, rfl⟩ forward).2
        rw [refused]
        · exact reject_untouched world message _ _ _
        · intro filling
          exact idle ⟨typed, ⟨possDupFlag, flag⟩, gapFill,
            ⟨field, parsed, present, value, forward⟩, filling⟩
      · apply processSequenceReset_untouched
        intro gapFill field parsed present value forward
        exact fills ⟨gapFill, field, parsed, present, value, forward⟩

theorem onMessageRead_followed (validates : session.Validates message)
    (read : message.MsgSeqNum = .ok session.incomingMsgSeqNum)
    (followed : session.IsFollowed message) :
    session.incomingMsgSeqNum <
      (onMessageRead (world.environment 0) message session).2.incomingMsgSeqNum := by
  obtain ⟨possDupFlag, flag⟩ := followed.flag
  obtain ⟨field, parsed, present, value, forward⟩ := followed.names
  have fills := (@processSequenceReset_of_gapFill message (session.told message)
    parsed.toUInt32 (world.environment 0) followed.gapFill read
    ⟨field, parsed, present, value, rfl⟩ forward).1 followed.filling
  rw [onMessageRead_sequenceReset _ validates followed.typed flag, fills,
    (completeResend_untouched world _).incoming]
  exact forward

theorem not_isFollowed_of_isNumbered (numbered : IsNumbered message)
    (session : Session) : ¬ session.IsFollowed message := by
  intro followed
  obtain ⟨msgType, possDupFlag, typed, -, notReset, -⟩ := numbered
  rw [followed.typed] at typed
  injection typed with same
  exact notReset same.symm

theorem lt_add_one_iff (number : UInt32) : number < number + 1 ↔ number + 1 ≠ 0 := by
  rw [UInt32.lt_iff_toNat_lt, Ne, ← UInt32.toNat_inj, UInt32.toNat_add]
  have bound := number.toNat_lt
  have one : (1 : UInt32).toNat = 1 := rfl
  have zero : (0 : UInt32).toNat = 0 := rfl
  omega

/-- A message in sequence is consumed, or the session disconnected, exactly
where the message does not come to one of the early returns. -/
theorem onMessageRead_consumed_iff (accepts : world.Accepts)
    (sequence : session.InSequence message) :
    Consumed session (onMessageRead (world.environment 0) message session).2 ↔
      Settles world.orchestration session message := by
  have validates := sequence.validates
  have read := sequence.read
  unfold Consumed
  by_cases numbered : IsNumbered message
  · have notFollowed := not_isFollowed_of_isNumbered numbered session
    by_cases isLogon : message.MsgType = .ok MsgType.Logon
    · by_cases through : session.LetsThrough message
      · obtain ⟨moved, state⟩ := onMessageRead_letsThrough accepts validates isLogon
          numbered read through
        rw [moved, lt_add_one_iff]
        by_cases full : session.incomingMsgSeqNum + 1 = 0
        · rw [state full]
          constructor
          · rintro (⟨gone, still⟩ | room)
            · exact .gone gone still
            · exact absurd full room
          · intro settles
            cases settles with
            | followed followed => exact absurd followed notFollowed
            | advanced _ _ room => exact absurd full room
            | closed _ closes =>
                rcases ((closes_logon_iff _ isLogon).mp closes).2 with
                  ⟨unread, -⟩ | ⟨-, expects, refuses⟩
                · exact absurd through.interval unread
                · exact absurd (through.announces expects) refuses
            | gone disconnected kept => exact .inl ⟨disconnected, kept⟩
        · exact iff_of_true (.inr full) (.advanced numbered (fun _ => through) full)
      · obtain ⟨closing, keeping⟩ := onMessageRead_not_letsThrough accepts validates
          isLogon numbered read through
        by_cases closes : Closes world.orchestration session message
        · exact iff_of_true (.inl (closing closes)) (.closed numbered closes)
        · rw [(keeping closes).state, (keeping closes).incoming]
          constructor
          · rintro (gone | impossible)
            · refine .gone gone ?_
              intro resumes
              exact through resumes.through
            · exact absurd impossible (UInt32.lt_irrefl _)
          · intro settles
            cases settles with
            | followed followed => exact absurd followed notFollowed
            | advanced _ passes _ => exact absurd (passes isLogon) through
            | closed _ isClosed => exact absurd isClosed closes
            | gone disconnected _ => exact .inl disconnected
    · obtain ⟨moved, closing, keeping⟩ := onMessageRead_other world validates numbered
        isLogon read world.orchestration
      rw [moved, lt_add_one_iff]
      by_cases closes : Closes world.orchestration session message
      · exact iff_of_true (.inl (closing closes)) (.closed numbered closes)
      · rw [keeping closes]
        constructor
        · rintro (gone | room)
          · refine .gone gone ?_
            intro resumes
            exact isLogon resumes.typed
          · refine .advanced numbered ?_ room
            intro typed
            exact absurd typed isLogon
        · intro settles
          cases settles with
          | followed followed => exact absurd followed notFollowed
          | advanced _ _ room => exact .inr room
          | closed _ isClosed => exact absurd isClosed closes
          | gone disconnected _ => exact .inl disconnected
  · by_cases followed : session.IsFollowed message
    · exact iff_of_true (.inr (onMessageRead_followed validates read followed))
        (.followed followed)
    · have untouched := @onMessageRead_unconsumed world message session sequence
        numbered followed
      rw [untouched.state, untouched.incoming]
      constructor
      · rintro (gone | impossible)
        · refine .gone gone ?_
          intro resumes
          exact numbered resumes.numbered
        · exact absurd impossible (UInt32.lt_irrefl _)
      · intro settles
        cases settles with
        | followed isFollowed => exact absurd isFollowed followed
        | advanced isNumbered => exact absurd isNumbered numbered
        | closed isNumbered => exact absurd isNumbered numbered
        | gone disconnected => exact .inl disconnected

/-- In every run, of the messages in sequence those are consumed that do not
come to an early return. -/
theorem in_sequence_consumed_iff (accepts : world.Accepts) (inputs : List Input)
    (start : Session) :
    ∀ moment ∈ trace (world.environment 0) inputs start,
      ∀ message, moment.2 = .received message → moment.1.InSequence message →
        (Consumed moment.1 (step (world.environment 0) moment.2 moment.1).2 ↔
          Settles world.orchestration moment.1 message) := by
  rintro ⟨session, input⟩ - message received sequence
  change input = .received message at received
  rw [received]
  exact onMessageRead_consumed_iff accepts sequence

end Every

def resentReject : Message :=
  toInitiator MsgType.Reject (ascii "55") (ascii "1")
    [⟨Tag.PossDupFlag, ascii "Y"⟩, ⟨Tag.RefSeqNum, ascii "1"⟩] 21 (ascii "021")

/-- The Reject that is sent again is ignored, and the next message makes the
session ask for it. -/
theorem resentReject_unconsumed :
    opened.InSequence resentReject ∧
      ¬ Consumed opened
        (step (World.plain.environment 0) (.received resentReject) opened).2 ∧
      ∃ event ∈ (run (World.plain.environment 0)
          [.received resentReject, .received fifthHeartbeat] opened).history,
        event.RequestsResend 1 5 := by
  refine ⟨⟨validates_of_validate (World.plain.environment 0) (by decide),
    by decide⟩, ?_, ?_⟩
  · rintro (gone | forward)
    · exact absurd gone (by decide)
    · exact absurd forward (by decide)
  · refine ⟨_, List.mem_cons_of_mem _ List.mem_cons_self, ?_⟩
    exact ⟨by decide, by decide, by decide⟩

theorem in_sequence_consumed_iff_heartbeat :
    Consumed opened
      (step (World.plain.environment 0) (.received firstHeartbeat) opened).2 := by
  have accepts : World.plain.Accepts := fun _ _ _ => rfl
  have sequence : opened.InSequence firstHeartbeat :=
    ⟨validates_of_validate (World.plain.environment 0) (by decide), by decide⟩
  refine (in_sequence_consumed_iff accepts [.received firstHeartbeat] opened
    (opened, .received firstHeartbeat) List.mem_cons_self firstHeartbeat rfl
    sequence).mpr (.advanced ?_ ?_ (by decide))
  · exact ⟨MsgType.Heartbeat, false, by decide, by decide, by decide, by decide⟩
  · intro isLogon
    exact absurd isLogon (by decide)

end Session

end Crocofix

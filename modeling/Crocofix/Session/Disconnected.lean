/-
What a disconnected session still does.

The heartbeat timer looks at the state before it sends.  The message handler
and the timer for the TestRequest do not, so a message that is read after the
session is closed counts, is answered, and can even bring the session back.
-/

import Crocofix.Session.Escape

namespace Crocofix

open Numeral

/-- The writer was handed a message, whether it took it or not. -/
def Event.isHandedOver : Event → Bool
  | .written _ _ | .refused _ _ _ => true
  | _ => false

namespace Session

open Call (Keeps keeps_pure)

def handedOver (session : Session) : List Event :=
  session.history.filter Event.isHandedOver

/-- Nothing that a peer could notice has changed. -/
structure Rests (before after : Session) : Prop where
  state : after.state = before.state
  incoming : after.incomingMsgSeqNum = before.incomingMsgSeqNum
  outgoing : after.outgoingMsgSeqNum = before.outgoingMsgSeqNum
  handed : after.handedOver = before.handedOver

instance : Std.Refl Rests where
  refl _ := ⟨rfl, rfl, rfl, rfl⟩

theorem Rests.trans {first second third : Session} (left : Rests first second)
    (right : Rests second third) : Rests first third where
  state := right.state.trans left.state
  incoming := right.incoming.trans left.incoming
  outgoing := right.outgoing.trans left.outgoing
  handed := right.handed.trans left.handed

instance : IsTrans Session Rests where
  trans _ _ _ := Rests.trans

/-- The inputs that come to a session by themselves. -/
def Input.isEvent : Input → Bool
  | .received _ | .heartbeatTimer | .testRequestTimer | .closed => true
  | .open | .close | .send _ _ => false

/-! ### What a disconnected session overlooks -/

section Conditions

variable (orchestration : OrchestrationFieldCollection) (session : Session)
  (message : Message)

def OverlooksSequenceReset : Prop :=
  match message.fields.tryGet Tag.NewSeqNo with
  | none => ¬ Rejectable orchestration message
  | some field =>
      ∀ gapFill, message.GapFillFlag = .ok gapFill →
        match stoi field.value with
        | .error _ => ¬ Rejectable orchestration message
        | .ok newSeqNo =>
            if newSeqNo.toUInt32 ≤ session.incomingMsgSeqNum then
              ¬ Rejectable orchestration message
            else
              gapFill = true → ∀ number, message.MsgSeqNum = .ok number →
                number = session.incomingMsgSeqNum ∧
                  ¬ Rejectable orchestration message

/-- An initiator answers a Logon by a TestRequest, which it can put off. -/
def PutsOff : Prop :=
  session.options.logonBehaviour = .initiator ∧
    session.options.testRequestDelay ≠ 0 ∧
    (∃ field parsed, message.fields.tryGet Tag.NextExpectedMsgSeqNum = some field ∧
      stoi field.value = .ok parsed ∧
      parsed.toUInt32 ≤ session.outgoingMsgSeqNum ∧
      ¬ parsed.toUInt32 + 1 < session.outgoingMsgSeqNum) ∧
    ∀ number, message.MsgSeqNum = .ok number →
      number + 1 = session.incomingMsgSeqNum

def OverlooksLogon : Prop :=
  ∀ flag, message.ResetSeqNumFlag = .ok flag →
    match (message.fields.tryGet Tag.HeartBtInt).map fun field =>
        stoi field.value with
    | some (.ok _) =>
        if session.options.useNextExpectedMsgSeqNum then session.PutsOff message
        else
          ∀ number, message.MsgSeqNum = .ok number → flag = true ∧ number ≠ 1
    | _ => ¬ Rejectable orchestration message

def OverlooksType (msgType : Bytes) (possDupFlag : Bool) : Prop :=
  if msgType = MsgType.SequenceReset then
    OverlooksSequenceReset orchestration session message
  else if possDupFlag ∧ Message.adminTypes.contains msgType then True
  else if msgType = MsgType.Logon then
    OverlooksLogon orchestration session message
  else ¬ Succeeds message.MsgSeqNum

/-- The message comes to an exception before anything is done about it, or it
is of a kind that has no effect. -/
inductive Overlooks : Prop
  | refused (forged : ¬ session.Genuine message)
      (unanswerable : ¬ Rejectable orchestration message)
  | early (genuine : session.Genuine message)
      (early : ¬ session.AllowsFirst message)
      (unanswerable : Succeeds message.MsgType →
        ¬ Rejectable orchestration message)
  | handled (genuine : session.Genuine message)
      (first : session.AllowsFirst message)
      (overlooks : ∀ msgType possDupFlag, message.MsgType = .ok msgType →
        message.PossDupFlag = .ok possDupFlag →
        OverlooksType orchestration session message msgType possDupFlag)

end Conditions

/-- The condition under which an event leaves a disconnected session alone. -/
def Disregards (orchestration : OrchestrationFieldCollection) (session : Session) :
    Input → Prop
  | .received message => Overlooks orchestration session message
  | .testRequestTimer => False
  | _ => True

/-! ### Calls that change nothing -/

theorem rests_of_notice (session : Session) {event : Event}
    (silent : event.isHandedOver = false) :
    Rests session { session with history := event :: session.history } where
  state := rfl
  incoming := rfl
  outgoing := rfl
  handed := by
    unfold handedOver
    rw [List.filter_cons, if_neg]
    rw [silent]
    exact Bool.false_ne_true

theorem record_rests {event : Event} (silent : event.isHandedOver = false) :
    Keeps Rests (record event) := by
  intro session
  exact rests_of_notice session silent

theorem ofExcept_rests {α : Type} (result : Except Exception α) :
    Keeps Rests (Call.ofExcept result : Action α) :=
  Call.keeps_ofExcept result

section Refusals

variable {environment : Environment} {message : Message}
  (unanswerable : ¬ Rejectable environment.orchestration message)

include unanswerable

/-- A message that cannot be rejected costs an exception and nothing else. -/
theorem sendReject_throws (text reason : Bytes) (session : Session) :
    ∃ exception, sendReject environment message text (some reason) session =
      (.error exception, session) := by
  unfold sendReject
  cases read : message.MsgSeqNum with
  | error exception => exact ⟨exception, rfl⟩
  | ok number =>
      cases found : environment.orchestration.isFieldDefined
          Tag.SessionRejectReason with
      | error exception =>
          refine ⟨exception, ?_⟩
          simp only [Call.ofExcept_ok, Call.pure_bind, Call.ofExcept_error,
            Call.raise_bind]
          rfl
      | ok defined => exact absurd ⟨⟨number, read⟩, ⟨defined, found⟩⟩ unanswerable

theorem sendReject_rests {α : Type} (text reason : Bytes)
    (next : Unit → Action α) :
    Keeps Rests (record (.error text) >>= fun _ =>
      sendReject environment message text (some reason) >>= next) := by
  apply (record_rests rfl).bind
  intro _ session
  obtain ⟨exception, thrown⟩ := sendReject_throws unanswerable text reason session
  rw [Call.bind_of_error thrown]
  exact Std.Refl.refl session

theorem rejectAndClose_rests (text reason : Bytes) :
    Keeps Rests (rejectAndClose environment message text reason) :=
  sendReject_rests unanswerable text reason _

theorem rejectAndLogout_rests (text reason : Bytes) :
    Keeps Rests (rejectAndLogout environment message text reason) :=
  sendReject_rests unanswerable text reason _

theorem reject_rests (text reason : Bytes) :
    Keeps Rests (reject environment message text reason) := by
  unfold reject
  apply (record_rests rfl).bind
  intro _ session
  obtain ⟨exception, thrown⟩ := sendReject_throws unanswerable text reason session
  rw [thrown]
  exact Std.Refl.refl session

theorem validateChecksum_rests :
    Keeps Rests (validateChecksum environment message) := by
  unfold validateChecksum
  cases message.fields.tryGet Tag.CheckSum with
  | none => exact rejectAndClose_rests unanswerable _ _
  | some received =>
      simp only
      apply (ofExcept_rests _).bind
      intro checksum
      apply (ofExcept_rests _).bind
      intro calculated
      apply Keeps.ite
      · intro _
        exact rejectAndClose_rests unanswerable _ _
      · intro _
        exact keeps_pure true

theorem validateBodyLength_rests :
    Keeps Rests (validateBodyLength environment message) := by
  unfold validateBodyLength
  cases message.fields.tryGet Tag.BodyLength with
  | none => exact rejectAndClose_rests unanswerable _ _
  | some received =>
      apply Keeps.ite
      · intro _
        exact rejectAndClose_rests unanswerable _ _
      · intro _
        exact keeps_pure true

theorem validateBeginString_rests :
    Keeps Rests (validateBeginString environment message) := by
  apply Keeps.of_start
  intro session
  cases message.fields.tryGet Tag.BeginString with
  | none => exact rejectAndClose_rests unanswerable _ _ session
  | some received =>
      apply Keeps.ite
      · intro _
        exact rejectAndClose_rests unanswerable _ _
      · intro _
        exact keeps_pure true

theorem validateCompID_rests (tag : Int32) (name : String) (expected : Bytes) :
    Keeps Rests (validateCompID environment message tag name expected) := by
  apply Keeps.ite
  · intro _
    exact rejectAndClose_rests unanswerable _ _
  · intro _
    exact keeps_pure true

theorem validateCompIDs_rests :
    Keeps Rests (validateCompIDs environment message) := by
  apply Keeps.of_start
  intro session
  apply Keeps.bind
  · exact validateCompID_rests unanswerable _ _ _
  · intro target
    apply Keeps.ite
    · intro _
      exact validateCompID_rests unanswerable _ _ _
    · intro _
      exact keeps_pure false

theorem validateFirstMessage_rests :
    Keeps Rests (validateFirstMessage environment message) := by
  apply Keeps.of_start
  intro session
  apply Keeps.ite
  · intro _
    exact keeps_pure true
  · intro _
    apply (ofExcept_rests _).bind
    intro msgType
    apply Keeps.ite
    · intro _
      exact keeps_pure true
    · intro _
      exact sendReject_rests unanswerable _ _ _

theorem validate_rests : Keeps Rests (validate environment message) := by
  have both {check next : Action Bool} (first : Keeps Rests check)
      (second : Keeps Rests next) :
      Keeps Rests (do if ← check then next else pure false) := by
    apply first.bind
    intro passed
    apply Keeps.ite
    · intro _
      exact second
    · intro _
      exact keeps_pure false
  exact both (validateChecksum_rests unanswerable)
    (both (validateBodyLength_rests unanswerable)
      (both (validateBeginString_rests unanswerable)
        (both (validateCompIDs_rests unanswerable)
          (validateFirstMessage_rests unanswerable))))

end Refusals

/-! ### Handlers in a disconnected session -/

section Handlers

variable {environment : Environment} {message : Message} {session : Session}

theorem completeResend_of_ne (idle : session.state ≠ .resending) :
    completeResend environment session = (.ok (), session) := by
  unfold completeResend
  rw [Call.get_bind, if_neg (fun both => idle both.1)]
  rfl

theorem validateSequenceNumbers_throws {exception : Exception}
    (unread : message.MsgSeqNum = .error exception) :
    validateSequenceNumbers environment message session =
      (.error exception, session) := by
  unfold validateSequenceNumbers sequenceNumberIsHigh
  rw [unread]
  rfl

theorem processGapFill_rests (disconnected : session.state = .disconnected)
    (newSeqNo : UInt32)
    (overlooks : ∀ number, message.MsgSeqNum = .ok number →
      number = session.incomingMsgSeqNum ∧
        ¬ Rejectable environment.orchestration message) :
    Rests session (processGapFill environment message newSeqNo session).2 := by
  unfold processGapFill
  cases read : message.MsgSeqNum with
  | error exception =>
      rw [Call.bind_of_error (validateSequenceNumbers_throws read)]
      exact Std.Refl.refl session
  | ok number =>
      obtain ⟨expected, unanswerable⟩ := overlooks number read
      rw [expected] at read
      rw [Call.bind_of_ok (validateSequenceNumbers_expected read), if_pos rfl,
        Call.get_bind, if_neg]
      · exact reject_rests unanswerable _ _ session
      · rw [disconnected]
        split
        · decide
        · decide

theorem processSequenceReset_rests (disconnected : session.state = .disconnected)
    (overlooks : OverlooksSequenceReset environment.orchestration session
      message) :
    Rests session (processSequenceReset environment message session).2 := by
  unfold OverlooksSequenceReset at overlooks
  unfold processSequenceReset
  cases present : message.fields.tryGet Tag.NewSeqNo with
  | none =>
      rw [present] at overlooks
      exact reject_rests overlooks _ _ session
  | some field =>
      rw [present] at overlooks
      cases flag : message.GapFillFlag with
      | error exception => exact Std.Refl.refl session
      | ok gapFill =>
          have condition := overlooks gapFill flag
          simp only
          rw [Call.ofExcept_ok, Call.pure_bind]
          cases value : stoi field.value with
          | error exception =>
              rw [value] at condition
              exact reject_rests condition _ _ session
          | ok parsed =>
              simp only [value] at condition ⊢
              rw [Call.get_bind]
              by_cases low : parsed.toUInt32 ≤ session.incomingMsgSeqNum
              · rw [if_pos low] at condition ⊢
                exact reject_rests condition _ _ session
              · rw [if_neg low] at condition ⊢
                cases gapFill with
                | true =>
                    exact processGapFill_rests disconnected _ (condition rfl)
                | false =>
                    rw [if_neg Bool.false_ne_true, Call.modify_bind, record_bind,
                      completeResend_of_ne]
                    · exact ⟨rfl, rfl, rfl, (rests_of_notice session rfl).handed⟩
                    · rw [disconnected]
                      decide

theorem processNextExpected_rests (putsOff : session.PutsOff message) :
    Rests session (processNextExpected environment message session).2 := by
  obtain ⟨initiator, delayed, ⟨field, parsed, present, value, low, near⟩, -⟩ :=
    putsOff
  have notAcceptor : ¬ session.options.logonBehaviour = .acceptor := by
    rw [initiator]
    decide
  unfold processNextExpected
  rw [present]
  simp only
  rw [value]
  simp only
  rw [Call.get_bind, if_neg (UInt32.not_lt.mpr low)]
  unfold Call.onlyIf
  rw [if_neg near, Call.pure_bind, if_neg notAcceptor, Call.pure_bind]
  apply Call.related_bind
  · unfold sendPostLogonTestRequest
    rw [Call.get_bind, if_pos delayed, record_bind]
    exact ⟨rfl, rfl, rfl, (rests_of_notice session rfl).handed⟩
  · intro _ after _
    exact Std.Refl.refl after

theorem comparesLogon_rests {flag : Bool}
    (overlooks : ∀ number, message.MsgSeqNum = .ok number →
      flag = true ∧ number ≠ 1) :
    Rests session ((if flag then processResetLogon environment message
      else processPlainLogon environment message) session).2 ∧
    ((if flag then processResetLogon environment message
      else processPlainLogon environment message) session).1 ≠ .ok true := by
  cases flag with
  | true =>
      rw [if_pos rfl]
      unfold processResetLogon
      cases read : message.MsgSeqNum with
      | error exception =>
          refine ⟨Std.Refl.refl session, ?_⟩
          intro impossible
          cases impossible
      | ok number =>
          rw [Call.ofExcept_ok, Call.pure_bind, if_pos (overlooks number read).2,
            record_bind]
          refine ⟨rests_of_notice session rfl, ?_⟩
          intro impossible
          cases impossible
  | false =>
      rw [if_neg Bool.false_ne_true]
      unfold processPlainLogon sequenceNumberIsLow
      cases read : message.MsgSeqNum with
      | error exception =>
          refine ⟨Std.Refl.refl session, ?_⟩
          intro impossible
          cases impossible
      | ok number => exact absurd (overlooks number read).1 Bool.false_ne_true

theorem processLogon_rests
    (overlooks : OverlooksLogon environment.orchestration session message) :
    Rests session (processLogon environment message session).2 ∧
      ((processLogon environment message session).1 = .ok true →
        ∀ number, message.MsgSeqNum = .ok number →
          number + 1 = session.incomingMsgSeqNum) := by
  cases flagged : message.ResetSeqNumFlag with
  | error exception =>
      unfold processLogon
      rw [flagged]
      refine ⟨Std.Refl.refl session, ?_⟩
      intro impossible
      cases impossible
  | ok flag =>
      have refused (unread : ∀ field,
          message.fields.tryGet Tag.HeartBtInt = some field →
            ∃ exception, stoi field.value = .error exception)
          (unanswerable : ¬ Rejectable environment.orchestration message) :
          Rests session (processLogon environment message session).2 ∧
            (processLogon environment message session).1 ≠ .ok true := by
        obtain ⟨text, reason, stopped, same⟩ :=
          processLogon_refuses_unread flagged unread session
        rw [same]
        exact ⟨rejectAndLogout_rests unanswerable text reason session, stopped⟩
      have condition := overlooks flag flagged
      cases present : message.fields.tryGet Tag.HeartBtInt with
      | none =>
          simp only [present, Option.map_none] at condition
          have unread : ∀ field,
              message.fields.tryGet Tag.HeartBtInt = some field →
                ∃ exception, stoi field.value = .error exception := by
            intro other same
            rw [present] at same
            cases same
          obtain ⟨rests, fails⟩ := refused unread condition
          exact ⟨rests, fun passed => absurd passed fails⟩
      | some field =>
          cases value : stoi field.value with
          | error exception =>
              simp only [present, Option.map_some, value] at condition
              have unread : ∀ field,
                  message.fields.tryGet Tag.HeartBtInt = some field →
                    ∃ exception, stoi field.value = .error exception := by
                intro other same
                rw [present] at same
                cases same
                exact ⟨exception, value⟩
              obtain ⟨rests, fails⟩ := refused unread condition
              exact ⟨rests, fun passed => absurd passed fails⟩
          | ok interval =>
              simp only [present, Option.map_some, value] at condition
              rw [processLogon_of_read flagged present value]
              cases expects : session.options.useNextExpectedMsgSeqNum with
              | true =>
                  rw [if_pos expects] at condition
                  rw [if_pos rfl]
                  obtain ⟨initiator, delayed, announced, repeats⟩ := condition
                  refine ⟨?_, fun _ => repeats⟩
                  have rests := @processNextExpected_rests environment message
                    { session with
                      options :=
                        { session.options with
                          heartbeatInterval := interval.toUInt32 }
                      logonReceived := true }
                    ⟨initiator, delayed, announced, repeats⟩
                  exact ⟨rests.state, rests.incoming, rests.outgoing, rests.handed⟩
              | false =>
                  rw [if_neg (by rw [expects]; exact Bool.false_ne_true)] at condition
                  rw [if_neg Bool.false_ne_true]
                  obtain ⟨rests, fails⟩ := @comparesLogon_rests environment message
                    { session with
                      options :=
                        { session.options with
                          heartbeatInterval := interval.toUInt32 }
                      logonReceived := true } flag condition
                  exact ⟨⟨rests.state, rests.incoming, rests.outgoing,
                    rests.handed⟩, fun passed => absurd passed fails⟩

theorem processNumbered_rests {msgType : Bytes}
    (overlooks : if msgType = MsgType.Logon then
        OverlooksLogon environment.orchestration session message
      else ¬ Succeeds message.MsgSeqNum) :
    Rests session (processNumbered environment msgType message session).2 := by
  unfold processNumbered checkNumber
  by_cases isLogon : msgType = MsgType.Logon
  · rw [if_pos isLogon] at overlooks ⊢
    obtain ⟨rests, repeats⟩ := @processLogon_rests environment message session
      overlooks
    apply Call.related_bind rests
    intro proceeds after run
    rw [run] at rests repeats
    cases proceeds with
    | false => exact Std.Refl.refl after
    | true =>
        rw [if_pos rfl]
        cases read : message.MsgSeqNum with
        | error exception => exact Std.Refl.refl after
        | ok number =>
            have counted : number + 1 = after.incomingMsgSeqNum :=
              (repeats rfl number read).trans rests.incoming.symm
            rw [Call.ofExcept_ok, Call.pure_bind, record_bind, isLogon, counted]
            exact rests_of_notice after rfl
  · rw [if_neg isLogon] at overlooks ⊢
    cases read : message.MsgSeqNum with
    | ok number => exact absurd ⟨number, read⟩ overlooks
    | error exception =>
        rw [Call.bind_of_error (validateSequenceNumbers_throws read)]
        exact Std.Refl.refl session

theorem afterValidate_rests (disconnected : session.state = .disconnected)
    (overlooks : ∀ msgType possDupFlag, message.MsgType = .ok msgType →
      message.PossDupFlag = .ok possDupFlag →
        OverlooksType environment.orchestration session message msgType
          possDupFlag) :
    Rests session ((do
      let msgType ← Call.ofExcept message.MsgType
      let possDupFlag ← Call.ofExcept message.PossDupFlag
      if msgType = MsgType.SequenceReset then
        processSequenceReset environment message
      else
        let admin ← Call.ofExcept message.isAdmin
        if possDupFlag ∧ admin then
          record (.warning
            (ascii "Ignoring PossDup Admin message with MsgType=" ++ msgType))
        else processNumbered environment msgType message : Action Unit)
      session).2 := by
  cases typed : message.MsgType with
  | error exception => exact Std.Refl.refl session
  | ok msgType =>
      cases flag : message.PossDupFlag with
      | error exception => exact Std.Refl.refl session
      | ok possDupFlag =>
          have condition := overlooks msgType possDupFlag typed flag
          have admin : message.isAdmin =
              .ok (Message.adminTypes.contains msgType) := by
            unfold Message.isAdmin
            rw [typed]
            rfl
          unfold OverlooksType at condition
          rw [Call.ofExcept_ok, Call.pure_bind, Call.ofExcept_ok, Call.pure_bind]
          by_cases resets : msgType = MsgType.SequenceReset
          · rw [if_pos resets] at condition ⊢
            exact processSequenceReset_rests disconnected condition
          · rw [if_neg resets] at condition ⊢
            rw [admin, Call.ofExcept_ok, Call.pure_bind]
            by_cases repeated : possDupFlag ∧ Message.adminTypes.contains msgType
            · rw [if_pos repeated]
              exact rests_of_notice session rfl
            · rw [if_neg repeated] at condition ⊢
              exact processNumbered_rests condition

theorem validateFirstMessage_untyped_rests
    (untyped : ¬ Succeeds message.MsgType) :
    Keeps Rests (validateFirstMessage environment message) := by
  apply Keeps.of_start
  intro session
  apply Keeps.ite
  · intro _
    exact keeps_pure true
  · intro _
    cases typed : message.MsgType with
    | error exception => exact Call.keeps_raise exception
    | ok msgType => exact absurd ⟨msgType, typed⟩ untyped

end Handlers

/-! ### Every event -/

theorem Genuine.of_history {session : Session} {message : Message}
    {history : List Event} (genuine : session.Genuine message) :
    Genuine { session with history } message :=
  ⟨genuine.checksum, genuine.bodyLength, genuine.beginString,
    genuine.targetCompID, genuine.senderCompID⟩

theorem Overlooks.of_history {orchestration : OrchestrationFieldCollection}
    {session : Session} {message : Message} {history : List Event}
    (overlooks : Overlooks orchestration session message) :
    Overlooks orchestration { session with history } message := by
  cases overlooks with
  | refused forged unanswerable =>
      refine .refused ?_ unanswerable
      intro genuine
      exact forged (@Genuine.of_history { session with history } message
        session.history genuine)
  | early genuine early unanswerable =>
      exact .early genuine.of_history early unanswerable
  | handled genuine first overlooks =>
      exact .handled genuine.of_history first overlooks

variable (world : World)

theorem onMessageRead_rests {message : Message} {session : Session}
    (disconnected : session.state = .disconnected)
    (overlooks : Overlooks world.orchestration session message) :
    Rests session (onMessageRead (world.environment 0) message session).2 := by
  have heard := rests_of_notice session (show
    Event.isHandedOver (.messageReceived message) = false from rfl)
  have toldOverlooks := @Overlooks.of_history world.orchestration session message
    (.messageReceived message :: session.history) overlooks
  unfold onMessageRead
  rw [record_bind]
  apply heard.trans
  generalize toldEq :
    { session with history := .messageReceived message :: session.history } = told
  rw [toldEq] at toldOverlooks
  have toldDisconnected : told.state = .disconnected := by
    rw [← toldEq]
    exact disconnected
  have stops (stopped : (validate (world.environment 0) message told).1 ≠ .ok true)
      (rests : Rests told (validate (world.environment 0) message told).2)
      (next : Action Unit) :
      Rests told ((do if ← validate (world.environment 0) message then next)
        told).2 := by
    apply Call.related_bind rests
    intro passed after run
    rw [run] at stopped
    cases passed with
    | true => exact absurd rfl stopped
    | false => exact Std.Refl.refl after
  cases toldOverlooks with
  | refused forged unanswerable =>
      rcases validate_decides (world.environment 0) message told with
        ⟨holds, -⟩ | ⟨-, stopped⟩
      · exact absurd holds.genuine forged
      · exact stops stopped (validate_rests unanswerable told) _
  | early genuine early unanswerable =>
      rcases validate_decides (world.environment 0) message told with
        ⟨holds, -⟩ | ⟨-, stopped⟩
      · exact absurd holds.first early
      · refine stops stopped ?_ _
        by_cases typed : Succeeds message.MsgType
        · exact validate_rests (unanswerable typed) told
        · rw [validate_of_genuine genuine]
          exact validateFirstMessage_untyped_rests typed told
  | handled genuine first overlooks =>
      rcases validate_decides (world.environment 0) message told with
        ⟨-, run⟩ | ⟨fails, -⟩
      · rw [Call.bind_of_ok run, if_pos rfl]
        exact afterValidate_rests toldDisconnected overlooks
      · exact absurd (genuine.validates first) fails

theorem step_rests {input : Input} {session : Session}
    (disconnected : session.state = .disconnected) (event : input.isEvent)
    (disregards : Disregards world.orchestration session input) :
    Rests session (step (world.environment 0) input session).2 := by
  cases input with
  | «open» => cases event
  | close => cases event
  | send message options => cases event
  | received message => exact onMessageRead_rests world disconnected disregards
  | heartbeatTimer =>
      change Rests session (defibrillate (world.environment 0) session).2
      unfold defibrillate
      rw [Call.get_bind, if_neg]
      · exact Std.Refl.refl session
      · rw [disconnected]
        decide
  | testRequestTimer => exact False.elim disregards
  | closed =>
      change Rests session (setState .disconnected session).2
      rw [setState_of_eq disconnected]
      exact Std.Refl.refl session

/-- A disconnected session to which only events come that it disregards stays
as it is and hands no message to its writer. -/
theorem disconnected_rests {inputs : List Input} {session : Session}
    (disconnected : session.state = .disconnected)
    (events : ∀ input ∈ inputs, input.isEvent)
    (disregards : ∀ moment ∈ trace (world.environment 0) inputs session,
      Disregards world.orchestration moment.1 moment.2) :
    (∀ moment ∈ trace (world.environment 0) inputs session,
      Rests session moment.1) ∧
    Rests session (run (world.environment 0) inputs session) := by
  induction inputs generalizing session with
  | nil =>
      refine ⟨?_, Std.Refl.refl session⟩
      intro moment member
      cases member
  | cons input rest ih =>
      have first := step_rests world disconnected
        (events input List.mem_cons_self)
        (disregards (session, input) List.mem_cons_self)
      obtain ⟨reached, last⟩ := ih (first.state.trans disconnected)
        (fun other member => events other (List.mem_cons_of_mem _ member))
        fun moment member => disregards moment (List.mem_cons_of_mem _ member)
      refine ⟨?_, first.trans last⟩
      intro moment member
      rcases List.mem_cons.mp member with here | later
      · rw [here]
        exact Std.Refl.refl session
      · exact first.trans (reached moment later)

/-! ### A closed session that comes back -/

def fifthHeartbeat : Message :=
  heartbeatWith (ascii "45") [⟨Tag.MsgSeqNum, ascii "5"⟩] 63 (ascii "063")

def confirmingLogon : Message where
  fields :=
    [⟨Tag.BeginString, ascii "FIX.4.4"⟩, ⟨Tag.BodyLength, ascii "57"⟩,
      ⟨Tag.MsgType, MsgType.Logon⟩, ⟨Tag.SenderCompID, ascii "A"⟩,
      ⟨Tag.TargetCompID, ascii "I"⟩, ⟨Tag.MsgSeqNum, ascii "1"⟩,
      ⟨Tag.SendingTime, ascii "20260101-00:00:00.000"⟩,
      ⟨Tag.EncryptMethod, EncryptMethod.None⟩, ⟨Tag.HeartBtInt, ascii "30"⟩,
      ⟨Tag.CheckSum, ascii "104"⟩]
  decodeChecksum := 104
  decodeChecksumValid := true

def closedInitiator : Session :=
  run (World.plain.environment 0) [.open, .received confirmingLogon, .close]
    (create initiatorOptions 1 1)

/-- The Heartbeat that is left in the buffer takes the closed session to the
resending state, and the timer makes it send a TestRequest. -/
theorem closed_initiator_returns :
    closedInitiator.state = .disconnected ∧
      closedInitiator.testRequestTimerToken.isSome ∧
    (step (World.plain.environment 0) (.received fifthHeartbeat)
      closedInitiator).2.state = .resending ∧
    (step (World.plain.environment 0) .testRequestTimer
      closedInitiator).2.outgoingMsgSeqNum = 3 ∧
    ¬ Rests closedInitiator (step (World.plain.environment 0)
      (.received fifthHeartbeat) closedInitiator).2 ∧
    ¬ Rests closedInitiator (step (World.plain.environment 0)
      .testRequestTimer closedInitiator).2 := by
  refine ⟨by decide, by decide, by decide, by decide, ?_, ?_⟩
  · intro rests
    exact absurd rests.state (by decide)
  · intro rests
    exact absurd rests.outgoing (by decide)

/-- A Heartbeat without a number and a timer that looks at the state. -/
theorem disconnected_rests_heartbeat :
    Rests closedInitiator (run (World.plain.environment 0)
      [.received unnumberedHeartbeat, .heartbeatTimer] closedInitiator) := by
  have genuine : closedInitiator.Genuine unnumberedHeartbeat := by
    rcases validate_decides (World.plain.environment 0) unnumberedHeartbeat
      closedInitiator with ⟨holds, -⟩ | ⟨-, fails⟩
    · exact holds.genuine
    · exact absurd (by decide) fails
  have overlooked : Overlooks World.plain.orchestration closedInitiator
      unnumberedHeartbeat := by
    refine .handled genuine (.inl (.inl rfl)) ?_
    intro msgType possDupFlag typed flag
    have isHeartbeat : unnumberedHeartbeat.MsgType = .ok MsgType.Heartbeat := by
      decide
    have notRepeated : unnumberedHeartbeat.PossDupFlag = .ok false := by decide
    have unnumbered : unnumberedHeartbeat.MsgSeqNum = .error ⟨.runtimeError,
      ascii "message does not have a MsgSeqNum field"⟩ := by decide
    rw [isHeartbeat] at typed
    rw [notRepeated] at flag
    cases typed
    cases flag
    rw [OverlooksType, if_neg (by decide), if_neg (by decide),
      if_neg (by decide)]
    rintro ⟨number, read⟩
    rw [unnumbered] at read
    cases read
  refine (disconnected_rests World.plain (by decide) (by decide) ?_).2
  intro moment member
  rcases List.mem_cons.mp member with rfl | later
  · exact overlooked
  · rw [List.mem_singleton.mp later]
    trivial

end Session

end Crocofix

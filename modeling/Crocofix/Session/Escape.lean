/-
Which messages make `on_message_read` throw.

The writer takes every message here, so an exception comes from the message
itself: from an accessor that a handler calls unguarded, or from the Reject
that is to refer to the number of a message without one.
-/

import Crocofix.Decode
import Crocofix.Session.Accepting

namespace Crocofix

open Numeral

def Succeeds {α : Type} (result : Except Exception α) : Prop :=
  ∃ value, result = .ok value

/-- A call of `decode` completes the message. -/
def Message.Delivered (message : Message) : Prop :=
  ∃ dictionary before buffer consumed,
    Message.decode dictionary before buffer = (.ok ⟨consumed, true⟩, message)

/-- What a Reject for the message needs: a number to refer to, and a dictionary
that can be asked for the reason. -/
structure Rejectable (orchestration : OrchestrationFieldCollection)
    (message : Message) : Prop where
  number : Succeeds message.MsgSeqNum
  reason : Succeeds (orchestration.isFieldDefined Tag.SessionRejectReason)

theorem Message.Delivered.checksum {message : Message}
    (delivered : message.Delivered) :
    message.decodeChecksumValid = true ∧ message.decodeChecksum.toNat < 1000 := by
  obtain ⟨dictionary, before, buffer, consumed, decoded⟩ := delivered
  unfold Message.decode at decoded
  split at decoded
  · cases decoded
  · next complete cursor looped =>
      injection decoded with result left
      injection result with outcome
      injection outcome with _ isComplete
      rw [isComplete] at left
      rw [← left]
      refine ⟨rfl, ?_⟩
      simp only [if_true, UInt32.toNat_mod]
      exact (Nat.mod_lt _ (by decide)).trans (by decide)

namespace Session

open Call (Returns Total)

/-- The message passes the checks that look at the message alone. -/
structure Genuine (session : Session) (message : Message) : Prop where
  checksum : message.HasChecksum
  bodyLength : message.HasBodyLength
  beginString : (message.fields.tryGet Tag.BeginString).map Field.value =
    some session.options.beginString
  targetCompID : (message.fields.tryGet Tag.TargetCompID).map Field.value =
    some session.options.senderCompID
  senderCompID : (message.fields.tryGet Tag.SenderCompID).map Field.value =
    some session.options.targetCompID

section Conditions

variable (orchestration : OrchestrationFieldCollection) (session : Session)
  (message : Message)

/-- A gap fill counts in the state in which the peer may be resending. -/
def Filling : Prop :=
  if session.options.useNextExpectedMsgSeqNum then session.state = .loggingOn
  else session.state = .resending

def ManagesSequenceReset : Prop :=
  match message.fields.tryGet Tag.NewSeqNo with
  | none => Rejectable orchestration message
  | some field =>
      ∃ gapFill, message.GapFillFlag = .ok gapFill ∧
        match stoi field.value with
        | .error _ => Rejectable orchestration message
        | .ok newSeqNo =>
            if newSeqNo.toUInt32 ≤ session.incomingMsgSeqNum then
              Rejectable orchestration message
            else
              gapFill = true →
                Succeeds message.MsgSeqNum ∧
                  (message.MsgSeqNum = .ok session.incomingMsgSeqNum →
                    ¬ session.Filling → Rejectable orchestration message)

/-- The Logon carries a number that the session accepts as expected next. -/
def Announces : Prop :=
  ∃ field parsed, message.fields.tryGet Tag.NextExpectedMsgSeqNum = some field ∧
    stoi field.value = .ok parsed ∧ parsed.toUInt32 ≤ session.outgoingMsgSeqNum

def ManagesLogon : Prop :=
  Succeeds message.ResetSeqNumFlag ∧
    match (message.fields.tryGet Tag.HeartBtInt).map fun field =>
        stoi field.value with
    | some (.ok _) =>
        (session.options.useNextExpectedMsgSeqNum = true →
          session.Announces message) → Succeeds message.MsgSeqNum
    | _ => Rejectable orchestration message

def ManagesTestRequest : Prop :=
  message.fields.tryGet Tag.TestReqID = none → Rejectable orchestration message

def ManagesResendRequest : Prop :=
  match message.fields.tryGet Tag.BeginSeqNo, message.fields.tryGet Tag.EndSeqNo with
  | some beginSeqNo, some endSeqNo =>
      Succeeds (stoi beginSeqNo.value) ∧ Succeeds (stoi endSeqNo.value)
  | _, _ => Rejectable orchestration message

def ManagesDispatch (msgType : Bytes) : Prop :=
  if msgType = MsgType.TestRequest then
    ManagesTestRequest orchestration message
  else if msgType = MsgType.ResendRequest then
    ManagesResendRequest orchestration message
  else True

def ManagesType (msgType : Bytes) (possDupFlag : Bool) : Prop :=
  if msgType = MsgType.SequenceReset then
    ManagesSequenceReset orchestration session message
  else if possDupFlag ∧ Message.adminTypes.contains msgType then True
  else if msgType = MsgType.Logon then ManagesLogon orchestration session message
  else
    Succeeds message.MsgSeqNum ∧
      (message.MsgSeqNum = .ok session.incomingMsgSeqNum →
        ManagesDispatch orchestration message msgType)

/-- Whatever is read of the message on its way can be read. -/
inductive Manageable : Prop
  | refused (forged : ¬ session.Genuine message)
      (rejectable : Rejectable orchestration message)
  | early (genuine : session.Genuine message)
      (early : ¬ session.AllowsFirst message)
      (typed : Succeeds message.MsgType)
      (rejectable : Rejectable orchestration message)
  | handled (genuine : session.Genuine message)
      (first : session.AllowsFirst message) (msgType : Bytes)
      (possDupFlag : Bool) (typed : message.MsgType = .ok msgType)
      (flag : message.PossDupFlag = .ok possDupFlag)
      (manages : ManagesType orchestration session message msgType possDupFlag)

end Conditions

theorem Genuine.validates {session : Session} {message : Message}
    (genuine : session.Genuine message) (first : session.AllowsFirst message) :
    session.Validates message where
  checksum := genuine.checksum
  bodyLength := genuine.bodyLength
  beginString := genuine.beginString
  targetCompID := genuine.targetCompID
  senderCompID := genuine.senderCompID
  first := first

theorem Validates.genuine {session : Session} {message : Message}
    (validates : session.Validates message) : session.Genuine message where
  checksum := validates.checksum
  bodyLength := validates.bodyLength
  beginString := validates.beginString
  targetCompID := validates.targetCompID
  senderCompID := validates.senderCompID

theorem Manageable.of_history {orchestration : OrchestrationFieldCollection}
    {session : Session} {message : Message} {history : List Event}
    (manageable : Manageable orchestration session message) :
    Manageable orchestration { session with history } message := by
  have genuine (holds : Genuine { session with history } message) :
      session.Genuine message :=
    ⟨holds.checksum, holds.bodyLength, holds.beginString, holds.targetCompID,
      holds.senderCompID⟩
  have kept (holds : session.Genuine message) :
      Genuine { session with history } message :=
    ⟨holds.checksum, holds.bodyLength, holds.beginString, holds.targetCompID,
      holds.senderCompID⟩
  cases manageable with
  | refused forged rejectable =>
      exact .refused (fun holds => forged (genuine holds)) rejectable
  | early holds early typed rejectable =>
      exact .early (kept holds) early typed rejectable
  | handled holds first msgType possDupFlag typed flag manages =>
      exact .handled (kept holds) first msgType possDupFlag typed flag manages

theorem manageable_history_iff {orchestration : OrchestrationFieldCollection}
    {session : Session} {message : Message} {history : List Event} :
    Manageable orchestration { session with history } message ↔
      Manageable orchestration session message := by
  constructor
  · intro manageable
    have restored := @Manageable.of_history orchestration
      { session with history } message session.history manageable
    exact restored
  · exact Manageable.of_history

/-! ### Calls that always return -/

theorem total_record (event : Event) : Total (record event) := by
  intro session
  exact ⟨(), rfl⟩

theorem total_setState (state : SessionState) : Total (setState state) :=
  (setState_yields state).total

theorem total_close : Total close := by
  apply (total_record _).bind
  intro _
  apply (total_record _).bind
  intro _
  exact total_setState .disconnected

theorem total_stopDefibrillator : Total stopDefibrillator := by
  apply Total.of_start
  intro session
  cases session.heartbeatTimerToken with
  | none => exact Call.total_pure ()
  | some token =>
      apply (total_record _).bind
      intro _
      exact Call.total_modify _

theorem total_startDefibrillator (environment : Environment) :
    Total (startDefibrillator environment) := by
  apply total_stopDefibrillator.bind
  intro _
  apply Total.of_start
  intro session
  apply Total.ite
  · intro _
    exact Call.total_pure ()
  · intro _
    apply (total_record _).bind
    intro _
    exact Call.total_modify _

theorem total_stopTestRequestTimer : Total stopTestRequestTimer := by
  apply Total.of_start
  intro session
  cases session.testRequestTimerToken with
  | none => exact Call.total_pure ()
  | some token =>
      apply (total_record _).bind
      intro _
      exact Call.total_modify _

theorem total_restartSeqNums : Total restartSeqNums := by
  apply (total_setState _).bind
  intro _
  apply Total.bind
  · apply (Call.total_modify _).bind
    intro _
    exact total_record _
  · intro _
    exact Call.total_modify _

theorem total_reset : Total reset := by
  apply total_stopDefibrillator.bind
  intro _
  exact total_restartSeqNums

theorem total_processHeartbeat (environment : Environment) (message : Message) :
    Total (processHeartbeat environment message) := by
  have logsOn : Total (logOn environment) := by
    apply (total_setState _).bind
    intro _
    exact total_startDefibrillator _
  apply Total.of_start
  intro session
  apply Total.ite
  · intro _
    cases message.fields.tryGet Tag.TestReqID with
    | none => exact logsOn
    | some testReqID =>
        cases session.expectedTestRequestId with
        | none => exact total_record _
        | some expected =>
            apply Total.ite
            · intro _
              apply (total_record _).bind
              intro _
              exact total_close
            · intro _
              exact logsOn
  · intro _
    exact Call.total_pure ()

/-! ### The interval of a Logon -/

theorem extractHeartbeatInterval_of_unread {environment : Environment}
    {logon : Message}
    (unread : ∀ field, logon.fields.tryGet Tag.HeartBtInt = some field →
      ∃ exception, stoi field.value = .error exception) :
    ∃ text reason, extractHeartbeatInterval environment logon =
      rejectAndLogout environment logon text reason := by
  unfold extractHeartbeatInterval
  cases present : logon.fields.tryGet Tag.HeartBtInt with
  | none => exact ⟨_, _, rfl⟩
  | some field =>
      obtain ⟨exception, value⟩ := unread field present
      simp only
      rw [value]
      exact ⟨_, _, rfl⟩

/-- Without an interval, `process_logon` is left in the state of the refusal. -/
theorem processLogon_refuses_unread {environment : Environment} {logon : Message}
    {flag : Bool} (flagged : logon.ResetSeqNumFlag = .ok flag)
    (unread : ∀ field, logon.fields.tryGet Tag.HeartBtInt = some field →
      ∃ exception, stoi field.value = .error exception) (session : Session) :
    ∃ text reason, (processLogon environment logon session).1 ≠ .ok true ∧
      (processLogon environment logon session).2 =
        (rejectAndLogout environment logon text reason session).2 := by
  obtain ⟨text, reason, refuses⟩ := @extractHeartbeatInterval_of_unread environment
    logon unread
  have fails := rejectAndLogout_ne environment logon text reason session
  refine ⟨text, reason, ?_⟩
  unfold processLogon
  rw [flagged, Call.ofExcept_ok, Call.pure_bind, refuses]
  exact ⟨Call.bind_if_ne fails _, Call.bind_if_snd_of_ne fails _ false⟩

theorem processNextExpected_of_unannounced (environment : Environment)
    {logon : Message} {session : Session} (refuses : ¬ session.Announces logon) :
    ∃ text, processNextExpected environment logon session =
      logoutWithError environment text session := by
  unfold processNextExpected
  unfold Announces at refuses
  cases present : logon.fields.tryGet Tag.NextExpectedMsgSeqNum with
  | none => exact ⟨_, rfl⟩
  | some field =>
      cases value : stoi field.value with
      | error exception =>
          simp only [value]
          exact ⟨_, rfl⟩
      | ok parsed =>
          simp only [value]
          rw [Call.get_bind, if_pos]
          · exact ⟨_, rfl⟩
          · apply UInt32.not_le.mp
            intro low
            exact refuses ⟨field, parsed, present, value, low⟩

/-! ### Checks that refuse by rejecting -/

/-- A check that returns true where the condition holds, and otherwise returns
exactly if the message can be rejected. -/
def Refuses (orchestration : OrchestrationFieldCollection) (message : Message)
    (check : Action Bool) (condition : Session → Prop) : Prop :=
  Decides check condition ∧ ∀ session, ¬ condition session →
    (Returns check session ↔ Rejectable orchestration message)

theorem Refuses.before {orchestration : OrchestrationFieldCollection}
    {message : Message} {check next : Action Bool}
    {condition : Session → Prop} {session : Session}
    (refuses : Refuses orchestration message check condition)
    (rest : condition session →
      (Returns next session ↔ Rejectable orchestration message)) :
    Returns (do if ← check then next else pure false) session ↔
      Rejectable orchestration message := by
  rcases refuses.1 session with ⟨holds, run⟩ | ⟨fails, stopped⟩
  · rw [Call.returns_bind_of_ok run, if_pos rfl]
    exact rest holds
  · rw [Call.returns_if_of_ne stopped]
    exact refuses.2 session fails

theorem Refuses.both {orchestration : OrchestrationFieldCollection}
    {message : Message} {check next : Action Bool}
    {first second : Session → Prop}
    (refuses : Refuses orchestration message check first)
    (refusesNext : Refuses orchestration message next second) :
    Refuses orchestration message (do if ← check then next else pure false)
      fun session => first session ∧ second session := by
  refine ⟨refuses.1.both refusesNext.1, ?_⟩
  intro session fails
  apply refuses.before
  intro holds
  exact refusesNext.2 session fun also => fails ⟨holds, also⟩

section Accepting

variable {world : World} (accepts : world.Accepts)

include accepts

theorem total_send_make {msgType : Bytes} {fields : List Field}
    (untyped : ∀ field ∈ fields, field.tag ≠ Tag.MsgType)
    (notLogon : msgType ≠ MsgType.Logon) (options : EncodeOptions) :
    Total (send (world.environment 0)
      (Message.make true (⟨Tag.MsgType, msgType⟩ :: fields)) options) :=
  (send_yields accepts (Message.ordinary_make untyped notLogon).resets
    options).total

theorem total_sendLogon (resetSeqNumFlag : Bool) :
    Total (sendLogon (world.environment 0) resetSeqNumFlag) := by
  cases resetSeqNumFlag with
  | false => exact (sendLogon_yields accepts).total
  | true =>
      apply Total.of_start
      intro session
      apply (send_yields accepts _ .standard).total
      · exact true
      · cases session.options.useNextExpectedMsgSeqNum with
        | false => rfl
        | true => rfl

theorem total_sendLogout (text : Bytes) :
    Total (sendLogout (world.environment 0) text) := by
  apply (total_send_make accepts (by simp) (by decide) .standard).bind
  intro _
  apply Total.of_start
  intro session
  apply Total.bind
  · apply Total.onlyIf
    apply total_stopDefibrillator.bind
    intro _
    exact total_setState .connected
  · intro _
    exact total_close

theorem total_sendPostLogonTestRequest :
    Total (sendPostLogonTestRequest (world.environment 0)) :=
  (sendPostLogonTestRequest_yields accepts).total

theorem total_requestResend (number : UInt32) :
    Total (requestResend (world.environment 0) number) := by
  apply Total.of_start
  intro session
  apply (total_record _).bind
  intro _
  apply (total_setState _).bind
  intro _
  apply (Call.total_modify _).bind
  intro _
  apply (total_record _).bind
  intro _
  exact total_send_make accepts (by simp [Field.ofUInt32]) (by decide) .standard

theorem total_logoutWithError (text : Bytes) :
    Total (logoutWithError (world.environment 0) text) := by
  apply (total_record _).bind
  intro _
  apply (total_sendLogout accepts text).bind
  intro _
  exact Call.total_pure false

theorem sequenceNumberIsHigh_of_lt {message : Message} {number : UInt32}
    {session : Session} (read : message.MsgSeqNum = .ok number)
    (high : session.incomingMsgSeqNum < number) :
    (sequenceNumberIsHigh (world.environment 0) message session).1 =
      .ok true := by
  unfold sequenceNumberIsHigh
  rw [read, Call.ofExcept_ok, Call.pure_bind, Call.get_bind, if_pos high,
    record_bind]
  apply Call.Total.bind_pure
  unfold recover
  apply Total.ite
  · intro _
    exact Call.total_modify _
  · intro _
    exact total_requestResend accepts number

theorem sequenceNumberIsLow_of_lt {message : Message} {number : UInt32}
    {session : Session} (read : message.MsgSeqNum = .ok number)
    (low : number < session.incomingMsgSeqNum) :
    (sequenceNumberIsLow (world.environment 0) message session).1 =
      .ok true := by
  unfold sequenceNumberIsLow
  rw [read, Call.ofExcept_ok, Call.pure_bind, Call.get_bind, if_pos low,
    record_bind]
  exact (total_sendLogout accepts _).bind_pure true _

/-- A number other than the expected one is dealt with, but not let through. -/
theorem validateSequenceNumbers_unexpected {message : Message} {number : UInt32}
    {session : Session} (read : message.MsgSeqNum = .ok number)
    (unexpected : number ≠ session.incomingMsgSeqNum) :
    (validateSequenceNumbers (world.environment 0) message session).1 =
      .ok false := by
  unfold validateSequenceNumbers
  by_cases high : session.incomingMsgSeqNum < number
  · exact Call.bind_fst (sequenceNumberIsHigh_of_lt accepts read high)
      fun _ => rfl
  · have low : number < session.incomingMsgSeqNum :=
      UInt32.lt_of_le_of_ne (UInt32.not_lt.mp high) unexpected
    rw [Call.bind_of_ok (sequenceNumberIsHigh_of_not_lt read high),
      if_neg Bool.false_ne_true]
    exact Call.bind_fst (sequenceNumberIsLow_of_lt accepts read low) fun _ => rfl

theorem total_sequenceNumberIsHigh {message : Message} {number : UInt32}
    (read : message.MsgSeqNum = .ok number) :
    Total (sequenceNumberIsHigh (world.environment 0) message) := by
  intro session
  by_cases high : session.incomingMsgSeqNum < number
  · exact ⟨true, sequenceNumberIsHigh_of_lt accepts read high⟩
  · exact ⟨false, congrArg Prod.fst (sequenceNumberIsHigh_of_not_lt read high)⟩

theorem total_sequenceNumberIsLow {message : Message} {number : UInt32}
    (read : message.MsgSeqNum = .ok number) :
    Total (sequenceNumberIsLow (world.environment 0) message) := by
  intro session
  by_cases low : number < session.incomingMsgSeqNum
  · exact ⟨true, sequenceNumberIsLow_of_lt accepts read low⟩
  · exact ⟨false, congrArg Prod.fst (sequenceNumberIsLow_of_not_lt read low)⟩

theorem total_completeResend : Total (completeResend (world.environment 0)) := by
  apply Total.of_start
  intro session
  apply Total.ite
  · intro _
    apply (total_record _).bind
    intro _
    apply (sendTestRequest_yields accepts).total.bind
    intro _
    exact total_startDefibrillator _
  · intro _
    exact Call.total_pure ()

/-! ### Rejecting a message -/

theorem sendReject_returns_iff (message : Message) (text reason : Bytes)
    (session : Session) :
    Returns (sendReject (world.environment 0) message text (some reason)) session ↔
      Rejectable world.orchestration message := by
  have sends {added : List Field} (defined : Bool)
      (untyped : ∀ field ∈ added, field.tag ≠ Tag.MsgType) :
      Total (if defined then
        send (world.environment 0)
          { Message.make true (⟨Tag.MsgType, MsgType.Reject⟩ :: added) with
            fields := (Message.make true
              (⟨Tag.MsgType, MsgType.Reject⟩ :: added)).fields.putOrAppend
                ⟨Tag.SessionRejectReason, reason⟩ } .standard
        else send (world.environment 0)
          (Message.make true (⟨Tag.MsgType, MsgType.Reject⟩ :: added)) .standard) := by
    have ordinary : (Message.make true
        (⟨Tag.MsgType, MsgType.Reject⟩ :: added)).Ordinary :=
      Message.ordinary_make untyped (by decide)
    apply Total.ite
    · intro _
      exact (send_yields accepts
        (ordinary.putOrAppend (by simp) (by simp)).resets .standard).total
    · intro _
      exact (send_yields accepts ordinary.resets .standard).total
  unfold sendReject
  rw [Call.returns_ofExcept_bind]
  constructor
  · rintro ⟨number, read, rest⟩
    obtain ⟨defined, found, -⟩ := (Call.returns_ofExcept_bind _ _ _).mp rest
    exact ⟨⟨number, read⟩, ⟨defined, found⟩⟩
  · rintro ⟨⟨number, read⟩, ⟨defined, found⟩⟩
    refine ⟨number, read, ?_⟩
    apply (Call.returns_ofExcept_bind _ _ _).mpr
    refine ⟨defined, found, ?_⟩
    exact sends defined (by simp [Field.ofUInt32]) session

theorem reject_returns_iff (message : Message) (text reason : Bytes)
    (session : Session) :
    Returns (reject (world.environment 0) message text reason) session ↔
      Rejectable world.orchestration message := by
  unfold reject
  rw [Call.returns_bind_of_ok (record_apply _ session)]
  exact sendReject_returns_iff accepts message text reason _

theorem rejectAndClose_returns_iff (message : Message) (text reason : Bytes)
    (session : Session) :
    Returns (rejectAndClose (world.environment 0) message text reason) session ↔
      Rejectable world.orchestration message := by
  unfold rejectAndClose
  rw [Call.returns_bind_of_ok (record_apply _ session), Call.returns_bind_iff]
  · exact sendReject_returns_iff accepts message text reason _
  · intro _
    exact total_close.bind fun _ => Call.total_pure false

theorem rejectAndLogout_returns_iff (message : Message) (text reason : Bytes)
    (session : Session) :
    Returns (rejectAndLogout (world.environment 0) message text reason) session ↔
      Rejectable world.orchestration message := by
  unfold rejectAndLogout
  rw [Call.returns_bind_of_ok (record_apply _ session), Call.returns_bind_iff]
  · exact sendReject_returns_iff accepts message text reason _
  · intro _
    exact (total_sendLogout accepts text).bind fun _ => Call.total_pure false

/-! ### The validators -/

theorem validateChecksum_refuses {message : Message}
    (valid : message.decodeChecksumValid = true)
    (small : message.decodeChecksum.toNat < 1000) :
    Refuses world.orchestration message
      (validateChecksum (world.environment 0) message)
      fun _ => message.HasChecksum := by
  refine ⟨validateChecksum_decides _ message, ?_⟩
  intro session fails
  have calculated : message.calculateChecksum = .ok message.decodeChecksum :=
    if_pos valid
  have formatted := Checksum.formatChecksum_of_lt small
  unfold validateChecksum
  cases present : message.fields.tryGet Tag.CheckSum with
  | none => exact rejectAndClose_returns_iff accepts message _ _ session
  | some received =>
      simp only
      rw [calculated, Call.ofExcept_ok, Call.pure_bind, formatted,
        Call.ofExcept_ok, Call.pure_bind, if_pos]
      · exact rejectAndClose_returns_iff accepts message _ _ session
      · intro same
        apply fails
        refine ⟨received, _, present, calculated, ?_⟩
        rw [formatted, same]

theorem validateBodyLength_refuses (message : Message) :
    Refuses world.orchestration message
      (validateBodyLength (world.environment 0) message)
      fun _ => message.HasBodyLength := by
  refine ⟨validateBodyLength_decides _ message, ?_⟩
  intro session fails
  unfold validateBodyLength
  cases present : message.fields.tryGet Tag.BodyLength with
  | none => exact rejectAndClose_returns_iff accepts message _ _ session
  | some received =>
      simp only
      rw [if_pos]
      · exact rejectAndClose_returns_iff accepts message _ _ session
      · intro same
        apply fails
        unfold Message.HasBodyLength
        rw [present, Option.map_some, same]

theorem validateBeginString_refuses (message : Message) :
    Refuses world.orchestration message
      (validateBeginString (world.environment 0) message) fun session =>
        (message.fields.tryGet Tag.BeginString).map Field.value =
          some session.options.beginString := by
  refine ⟨validateBeginString_decides _ message, ?_⟩
  intro session fails
  unfold validateBeginString
  rw [Call.returns_bind_of_ok (Call.get_apply session)]
  cases present : message.fields.tryGet Tag.BeginString with
  | none => exact rejectAndClose_returns_iff accepts message _ _ session
  | some received =>
      simp only
      rw [if_pos]
      · exact rejectAndClose_returns_iff accepts message _ _ session
      · intro same
        apply fails
        rw [present, Option.map_some, same]

theorem validateCompID_refuses (message : Message) (tag : Int32) (name : String)
    (expected : Bytes) :
    Refuses world.orchestration message
      (validateCompID (world.environment 0) message tag name expected) fun _ =>
        (message.fields.tryGet tag).map Field.value = some expected := by
  refine ⟨validateCompID_decides _ message tag name expected, ?_⟩
  intro session fails
  unfold validateCompID
  simp only
  rw [if_pos fails]
  exact rejectAndClose_returns_iff accepts message _ _ session

theorem validateCompIDs_refuses (message : Message) :
    Refuses world.orchestration message
      (validateCompIDs (world.environment 0) message) fun session =>
        (message.fields.tryGet Tag.TargetCompID).map Field.value =
            some session.options.senderCompID ∧
          (message.fields.tryGet Tag.SenderCompID).map Field.value =
            some session.options.targetCompID := by
  refine ⟨validateCompIDs_decides _ message, ?_⟩
  intro session fails
  unfold validateCompIDs
  rw [Call.returns_bind_of_ok (Call.get_apply session)]
  exact ((validateCompID_refuses accepts message _ _ _).both
    (validateCompID_refuses accepts message _ _ _)).2 session fails

theorem validateFirstMessage_returns_iff {message : Message} {session : Session}
    (early : ¬ session.AllowsFirst message) :
    Returns (validateFirstMessage (world.environment 0) message) session ↔
      Succeeds message.MsgType ∧ Rejectable world.orchestration message := by
  unfold AllowsFirst at early
  obtain ⟨unknown, other⟩ := not_or.mp early
  unfold validateFirstMessage
  rw [Call.returns_bind_of_ok (Call.get_apply session), if_neg unknown,
    Call.returns_ofExcept_bind]
  have rejects (msgType : Bytes) (typed : message.MsgType = .ok msgType) :
      Returns (if msgType = MsgType.Logon ∨ msgType = MsgType.Reject ∨
          msgType = MsgType.Logout then pure true
        else do
          let text := ascii "First message is not a Logon"
          record (.error text)
          sendReject (world.environment 0) message text
            (some SessionRejectReason.Other)
          sendLogout (world.environment 0) text
          pure false) session ↔ Rejectable world.orchestration message := by
    rw [if_neg (fun listed => other ⟨msgType, typed, listed⟩)]
    rw [Call.returns_bind_of_ok (record_apply _ session), Call.returns_bind_iff]
    · exact sendReject_returns_iff accepts message _ _ _
    · intro _
      exact (total_sendLogout accepts _).bind fun _ => Call.total_pure false
  constructor
  · rintro ⟨msgType, typed, returns⟩
    exact ⟨⟨msgType, typed⟩, (rejects msgType typed).mp returns⟩
  · rintro ⟨⟨msgType, typed⟩, rejectable⟩
    exact ⟨msgType, typed, (rejects msgType typed).mpr rejectable⟩

theorem validate_returns_of_not_genuine {message : Message} {session : Session}
    (delivered : message.Delivered) (forged : ¬ session.Genuine message) :
    Returns (validate (world.environment 0) message) session ↔
      Rejectable world.orchestration message := by
  obtain ⟨valid, small⟩ := delivered.checksum
  apply (validateChecksum_refuses accepts valid small).before
  intro checksum
  apply (validateBodyLength_refuses accepts message).before
  intro bodyLength
  apply (validateBeginString_refuses accepts message).before
  intro beginString
  apply (validateCompIDs_refuses accepts message).before
  rintro ⟨target, sender⟩
  exact absurd ⟨checksum, bodyLength, beginString, target, sender⟩ forged

omit accepts in
theorem validate_of_genuine {message : Message} {session : Session}
    (genuine : session.Genuine message) :
    validate (world.environment 0) message session =
      validateFirstMessage (world.environment 0) message session := by
  have passes {check next : Action Bool} {condition : Session → Prop}
      (decides : Decides check condition) (holds : condition session) :
      (do if ← check then next else pure false) session = next session := by
    rcases decides session with ⟨-, run⟩ | ⟨fails, -⟩
    · rw [Call.bind_of_ok run, if_pos rfl]
    · exact absurd holds fails
  unfold validate
  rw [passes (validateChecksum_decides _ message) genuine.checksum,
    passes (validateBodyLength_decides _ message) genuine.bodyLength,
    passes (validateBeginString_decides _ message) genuine.beginString,
    passes (validateCompIDs_decides _ message)
      ⟨genuine.targetCompID, genuine.senderCompID⟩]

/-! ### The handlers -/

theorem processGapFill_returns_iff (message : Message) (newSeqNo : UInt32)
    (session : Session) :
    Returns (processGapFill (world.environment 0) message newSeqNo) session ↔
      Succeeds message.MsgSeqNum ∧
        (message.MsgSeqNum = .ok session.incomingMsgSeqNum →
          ¬ session.Filling → Rejectable world.orchestration message) := by
  unfold processGapFill
  cases read : message.MsgSeqNum with
  | error exception =>
      have thrown : validateSequenceNumbers (world.environment 0) message session =
          (.error exception, session) := by
        unfold validateSequenceNumbers sequenceNumberIsHigh
        rw [read]
        rfl
      constructor
      · rintro ⟨_, impossible⟩
        rw [Call.bind_of_error thrown] at impossible
        cases impossible
      · rintro ⟨⟨_, impossible⟩, -⟩
        cases impossible
  | ok number =>
      by_cases expected : number = session.incomingMsgSeqNum
      · rw [expected] at read ⊢
        rw [Call.returns_bind_of_ok (validateSequenceNumbers_expected read),
          if_pos rfl, Call.returns_bind_of_ok (Call.get_apply session)]
        by_cases filling : session.Filling
        · have performing := filling
          unfold Filling at performing
          rw [if_pos performing]
          apply iff_of_true
          · apply Total.bind (total_record _)
            intro _
            apply Total.bind (Call.total_modify _)
            intro _
            apply Total.bind (Call.total_modify _)
            intro _
            exact total_completeResend accepts
          · exact ⟨⟨_, rfl⟩, fun _ idle => absurd filling idle⟩
        · have idle := filling
          unfold Filling at idle
          rw [if_neg idle, reject_returns_iff accepts]
          constructor
          · intro rejectable
            exact ⟨⟨_, rfl⟩, fun _ _ => rejectable⟩
          · rintro ⟨-, rejects⟩
            exact rejects rfl filling
      · have stopped := validateSequenceNumbers_unexpected accepts read expected
        apply iff_of_true
        · exact ⟨(), Call.bind_fst stopped fun _ => rfl⟩
        · refine ⟨⟨number, rfl⟩, ?_⟩
          intro same
          injection same with equal
          exact absurd equal expected

theorem processSequenceReset_returns_iff (message : Message) (session : Session) :
    Returns (processSequenceReset (world.environment 0) message) session ↔
      ManagesSequenceReset world.orchestration session message := by
  unfold processSequenceReset ManagesSequenceReset
  cases message.fields.tryGet Tag.NewSeqNo with
  | none => exact reject_returns_iff accepts message _ _ session
  | some field =>
      simp only
      rw [Call.returns_ofExcept_bind]
      apply exists_congr
      intro gapFill
      apply and_congr_right
      intro _
      cases stoi field.value with
      | error exception => exact reject_returns_iff accepts message _ _ session
      | ok parsed =>
          simp only
          rw [Call.returns_bind_of_ok (Call.get_apply session)]
          by_cases low : parsed.toUInt32 ≤ session.incomingMsgSeqNum
          · rw [if_pos low, if_pos low]
            exact reject_returns_iff accepts message _ _ session
          · rw [if_neg low, if_neg low]
            cases gapFill with
            | true =>
                rw [if_pos rfl, processGapFill_returns_iff accepts]
                exact ⟨fun manages _ => manages, fun manages => manages rfl⟩
            | false =>
                rw [if_neg Bool.false_ne_true]
                apply iff_of_true
                · apply Total.bind (Call.total_modify _)
                  intro _
                  apply (total_record _).bind
                  intro _
                  exact total_completeResend accepts
                · intro impossible
                  cases impossible

theorem total_performResend (first last : UInt32) :
    Total (performResend (world.environment 0) first last) :=
  (performResend_yields accepts first last).total

theorem processResendRequest_returns_iff (message : Message) (session : Session) :
    Returns (processResendRequest (world.environment 0) message) session ↔
      ManagesResendRequest world.orchestration message := by
  apply total_stopTestRequestTimer.returns_bind_iff
  intro _ after
  unfold ManagesResendRequest
  cases message.fields.tryGet Tag.BeginSeqNo with
  | none => exact reject_returns_iff accepts message _ _ after
  | some beginSeqNo =>
      cases message.fields.tryGet Tag.EndSeqNo with
      | none => exact reject_returns_iff accepts message _ _ after
      | some endSeqNo =>
          simp only
          rw [Call.returns_ofExcept_bind]
          have resends (first last : Int32) : Total (do
              record (.information
                (ascii "Performing resend from BeginSeqNo = " ++
                  decimal first.toUInt32.toNat ++ ascii " to EndSeqNo " ++
                  decimal last.toUInt32.toNat))
              let session ← Call.get
              performResend (world.environment 0) first.toUInt32
                (endOfRange session.options.beginString last.toUInt32)
              sendPostLogonTestRequest (world.environment 0)) := by
            apply (total_record _).bind
            intro _
            apply Total.of_start
            intro between
            apply (total_performResend accepts _ _).bind
            intro _
            exact total_sendPostLogonTestRequest accepts
          constructor
          · rintro ⟨first, readFirst, rest⟩
            obtain ⟨last, readLast, -⟩ := (Call.returns_ofExcept_bind _ _ _).mp rest
            exact ⟨⟨first, readFirst⟩, ⟨last, readLast⟩⟩
          · rintro ⟨⟨first, readFirst⟩, ⟨last, readLast⟩⟩
            refine ⟨first, readFirst, ?_⟩
            apply (Call.returns_ofExcept_bind _ _ _).mpr
            exact ⟨last, readLast, resends first last after⟩

theorem processTestRequest_returns_iff (message : Message) (session : Session) :
    Returns (processTestRequest (world.environment 0) message) session ↔
      ManagesTestRequest world.orchestration message := by
  unfold processTestRequest ManagesTestRequest
  cases message.fields.tryGet Tag.TestReqID with
  | none =>
      simp only
      rw [Call.returns_bind_iff (fun _ => total_record _),
        sendReject_returns_iff accepts]
      exact ⟨fun rejectable _ => rejectable, fun rejects => rejects trivial⟩
  | some testReqID =>
      apply iff_of_true
      · exact total_send_make accepts (by simp) (by decide) .standard session
      · intro impossible
        cases impossible

theorem dispatch_returns_iff (msgType : Bytes) (message : Message)
    (session : Session) :
    Returns (dispatch (world.environment 0) msgType message) session ↔
      ManagesDispatch world.orchestration message msgType := by
  unfold dispatch ManagesDispatch
  by_cases isHeartbeat : msgType = MsgType.Heartbeat
  · rw [if_pos isHeartbeat, isHeartbeat, if_neg (by decide), if_neg (by decide)]
    exact iff_of_true (total_processHeartbeat _ message session) trivial
  · rw [if_neg isHeartbeat]
    by_cases isTestRequest : msgType = MsgType.TestRequest
    · rw [if_pos isTestRequest, if_pos isTestRequest]
      exact processTestRequest_returns_iff accepts message session
    · rw [if_neg isTestRequest, if_neg isTestRequest]
      by_cases isResendRequest : msgType = MsgType.ResendRequest
      · rw [if_pos isResendRequest, if_pos isResendRequest]
        exact processResendRequest_returns_iff accepts message session
      · rw [if_neg isResendRequest, if_neg isResendRequest]
        apply iff_of_true
        · apply Total.ite
          · intro _
            apply (total_record _).bind
            intro _
            exact total_close
          · intro _
            exact Call.total_pure ()
        · trivial

theorem total_processNextExpected (logon : Message) :
    Total (processNextExpected (world.environment 0) logon) := by
  unfold processNextExpected
  cases logon.fields.tryGet Tag.NextExpectedMsgSeqNum with
  | none => exact total_logoutWithError accepts _
  | some field =>
      simp only
      cases stoi field.value with
      | error exception => exact total_logoutWithError accepts _
      | ok parsed =>
          apply Total.of_start
          intro session
          apply Total.ite
          · intro _
            exact total_logoutWithError accepts _
          · intro _
            apply Total.bind
            · apply Total.onlyIf
              apply (total_record _).bind
              intro _
              apply (total_setState _).bind
              intro _
              exact total_performResend accepts _ _
            · intro _
              apply (total_sendLogon accepts false).onlyIf.bind
              intro _
              apply (total_sendPostLogonTestRequest accepts).bind
              intro _
              exact Call.total_pure true

theorem processNextExpected_returns_false {logon : Message} {session : Session}
    (refuses : ¬ session.Announces logon) :
    (processNextExpected (world.environment 0) logon session).1 = .ok false := by
  obtain ⟨text, run⟩ := processNextExpected_of_unannounced (world.environment 0)
    refuses
  rw [run]
  unfold logoutWithError
  rw [record_bind]
  exact (total_sendLogout accepts text).bind_pure false _

theorem total_processPlainLogon {logon : Message} {number : UInt32}
    (read : logon.MsgSeqNum = .ok number) :
    Total (processPlainLogon (world.environment 0) logon) := by
  apply (total_sequenceNumberIsLow accepts read).bind
  intro low
  apply Total.ite
  · intro _
    exact Call.total_pure false
  · intro _
    apply Total.of_start
    intro session
    apply (total_sendLogon accepts false).onlyIf.bind
    intro _
    apply (total_sequenceNumberIsHigh accepts read).bind
    intro high
    apply Total.ite
    · intro _
      exact Call.total_pure false
    · intro _
      apply (total_sendPostLogonTestRequest accepts).bind
      intro _
      exact Call.total_pure true

theorem total_processResetLogon {logon : Message} {number : UInt32}
    (read : logon.MsgSeqNum = .ok number) :
    Total (processResetLogon (world.environment 0) logon) := by
  unfold processResetLogon
  rw [read, Call.ofExcept_ok, Call.pure_bind]
  apply Total.ite
  · intro _
    apply (total_record _).bind
    intro _
    exact Call.total_pure false
  · intro _
    apply Total.of_start
    intro session
    apply Total.ite
    · intro _
      apply (sendTestRequest_yields accepts).total.bind
      intro _
      exact Call.total_pure true
    · intro _
      apply (total_record _).bind
      intro _
      apply total_reset.bind
      intro _
      apply (total_sendLogon accepts true).bind
      intro _
      apply (total_sendPostLogonTestRequest accepts).bind
      intro _
      exact Call.total_pure true

/-! ### Logon -/

section Logon

variable {logon : Message} {session : Session}

theorem processLogon_of_unread
    (unread : ∀ field, logon.fields.tryGet Tag.HeartBtInt = some field →
      ∃ exception, stoi field.value = .error exception) {flag : Bool}
    (flagged : logon.ResetSeqNumFlag = .ok flag) :
    (processLogon (world.environment 0) logon session).1 ≠ .ok true ∧
      (Returns (processLogon (world.environment 0) logon) session ↔
        Rejectable world.orchestration logon) := by
  obtain ⟨text, reason, refuses⟩ := @extractHeartbeatInterval_of_unread
    (world.environment 0) logon unread
  have fails := rejectAndLogout_ne (world.environment 0) logon text reason session
  unfold processLogon
  rw [flagged, Call.ofExcept_ok, Call.pure_bind, refuses,
    Call.returns_if_of_ne fails]
  exact ⟨Call.bind_if_ne fails _,
    rejectAndLogout_returns_iff accepts logon text reason session⟩

theorem total_afterLogon {number : UInt32} (read : logon.MsgSeqNum = .ok number)
    (proceeds : Bool) :
    Total (if proceeds then do
        let msgSeqNum ← Call.ofExcept logon.MsgSeqNum
        record (.accepted logon)
        setIncomingMsgSeqNum (msgSeqNum + 1)
        dispatch (world.environment 0) MsgType.Logon logon
      else pure ()) := by
  apply Total.ite
  · intro _
    rw [read, Call.ofExcept_ok, Call.pure_bind]
    apply (total_record _).bind
    intro _
    apply Total.bind (Call.total_modify _)
    intro _ session
    exact (dispatch_returns_iff accepts MsgType.Logon logon session).mpr trivial
  · intro _
    exact Call.total_pure ()

/-- Of a Logon without a readable number, the branch for the next expected
number can still be left without an exception. -/
theorem processNumbered_logon_of_unnumbered {field : Field} {interval : Int32}
    {flag : Bool} {exception : Exception}
    (flagged : logon.ResetSeqNumFlag = .ok flag)
    (present : logon.fields.tryGet Tag.HeartBtInt = some field)
    (value : stoi field.value = .ok interval)
    (unnumbered : logon.MsgSeqNum = .error exception) :
    Returns (processNumbered (world.environment 0) MsgType.Logon logon) session ↔
      session.options.useNextExpectedMsgSeqNum = true ∧
        ¬ session.Announces logon := by
  have run := @processLogon_of_read (world.environment 0) logon session field
    interval flag flagged present value
  unfold processNumbered checkNumber
  rw [if_pos rfl]
  cases expects : session.options.useNextExpectedMsgSeqNum with
  | true =>
      rw [expects, if_pos rfl] at run
      by_cases announces : session.Announces logon
      · obtain ⟨next, parsed, nextPresent, nextValue, low⟩ := announces
        have passes : (processLogon (world.environment 0) logon session).1 =
            .ok true := by
          rw [run]
          exact processNextExpected_yields accepts nextPresent nextValue low
        have throws (proceeds : Bool) (passed : proceeds = true) (after : Session) :
            Returns (if proceeds then do
                let msgSeqNum ← Call.ofExcept logon.MsgSeqNum
                record (.accepted logon)
                setIncomingMsgSeqNum (msgSeqNum + 1)
                dispatch (world.environment 0) MsgType.Logon logon
              else pure ()) after ↔ False := by
          rw [if_pos passed, unnumbered]
          constructor
          · rintro ⟨_, impossible⟩
            cases impossible
          · exact False.elim
        rw [Call.returns_bind_of_fst passes (throws true rfl)]
        constructor
        · exact False.elim
        · rintro ⟨-, refuses⟩
          exact refuses ⟨next, parsed, nextPresent, nextValue, low⟩
      · have stops : (processLogon (world.environment 0) logon session).1 =
            .ok false := by
          rw [run]
          exact processNextExpected_returns_false accepts announces
        apply iff_of_true
        · exact ⟨(), Call.bind_fst stops fun _ => rfl⟩
        · exact ⟨rfl, announces⟩
  | false =>
      rw [expects, if_neg Bool.false_ne_true] at run
      have thrown : (processLogon (world.environment 0) logon session).1 =
          .error exception := by
        rw [run]
        cases flag with
        | true =>
            rw [if_pos rfl]
            unfold processResetLogon
            rw [unnumbered]
            rfl
        | false =>
            rw [if_neg Bool.false_ne_true]
            unfold processPlainLogon sequenceNumberIsLow
            rw [unnumbered]
            rfl
      constructor
      · rintro ⟨_, returned⟩
        rw [Call.bind_fst_of_error thrown] at returned
        cases returned
      · rintro ⟨impossible, -⟩
        cases impossible

theorem processNumbered_logon_returns_iff :
    Returns (processNumbered (world.environment 0) MsgType.Logon logon) session ↔
      ManagesLogon world.orchestration session logon := by
  unfold ManagesLogon
  cases flagged : logon.ResetSeqNumFlag with
  | error exception =>
      constructor
      · rintro ⟨_, returned⟩
        unfold processNumbered checkNumber processLogon at returned
        rw [if_pos rfl, flagged] at returned
        cases returned
      · rintro ⟨⟨_, impossible⟩, -⟩
        cases impossible
  | ok flag =>
      have unread (refusesAll : ∀ field,
          logon.fields.tryGet Tag.HeartBtInt = some field →
            ∃ exception, stoi field.value = .error exception) :
          Returns (processNumbered (world.environment 0) MsgType.Logon logon)
            session ↔ Rejectable world.orchestration logon := by
        obtain ⟨fails, returns⟩ := @processLogon_of_unread world accepts logon
          session refusesAll flag flagged
        unfold processNumbered checkNumber
        rw [if_pos rfl, ← returns]
        exact Call.returns_if_of_ne fails _ ()
      cases present : logon.fields.tryGet Tag.HeartBtInt with
      | none =>
          simp only [Option.map_none]
          rw [unread]
          · exact ⟨fun rejectable => ⟨⟨flag, rfl⟩, rejectable⟩, And.right⟩
          · intro field impossible
            rw [present] at impossible
            cases impossible
      | some field =>
          cases value : stoi field.value with
          | error exception =>
              simp only [Option.map_some, value]
              rw [unread]
              · exact ⟨fun rejectable => ⟨⟨flag, rfl⟩, rejectable⟩, And.right⟩
              · intro other same
                rw [present] at same
                cases same
                exact ⟨exception, value⟩
          | ok interval =>
              simp only [Option.map_some, value]
              cases read : logon.MsgSeqNum with
              | error exception =>
                  rw [processNumbered_logon_of_unnumbered accepts flagged present
                    value read]
                  constructor
                  · rintro ⟨expects, refuses⟩
                    exact ⟨⟨flag, rfl⟩, fun announces =>
                      absurd (announces expects) refuses⟩
                  · rintro ⟨-, numbered⟩
                    by_contra other
                    have announces : session.options.useNextExpectedMsgSeqNum =
                        true → session.Announces logon := by
                      intro expects
                      by_contra refuses
                      exact other ⟨expects, refuses⟩
                    obtain ⟨_, impossible⟩ := numbered announces
                    cases impossible
              | ok number =>
                  apply iff_of_true
                  · unfold processNumbered
                    apply (Call.returns_bind_iff
                      (total_afterLogon accepts read) session).mpr
                    unfold Returns checkNumber
                    rw [if_pos rfl, processLogon_of_read flagged present value]
                    split
                    · exact total_processNextExpected accepts logon _
                    · split
                      · exact total_processResetLogon accepts read _
                      · exact total_processPlainLogon accepts read _
                  · exact ⟨⟨flag, rfl⟩, fun _ => ⟨number, rfl⟩⟩

end Logon

/-! ### Every message -/

theorem processNumbered_returns_iff {msgType : Bytes}
    (notLogon : msgType ≠ MsgType.Logon) (message : Message) (session : Session) :
    Returns (processNumbered (world.environment 0) msgType message) session ↔
      Succeeds message.MsgSeqNum ∧
        (message.MsgSeqNum = .ok session.incomingMsgSeqNum →
          ManagesDispatch world.orchestration message msgType) := by
  unfold processNumbered checkNumber
  rw [if_neg notLogon]
  cases read : message.MsgSeqNum with
  | error exception =>
      have thrown : (validateSequenceNumbers (world.environment 0) message
          session).1 = .error exception := by
        unfold validateSequenceNumbers sequenceNumberIsHigh
        rw [read]
        rfl
      constructor
      · rintro ⟨_, returned⟩
        rw [Call.bind_fst_of_error thrown] at returned
        cases returned
      · rintro ⟨⟨_, impossible⟩, -⟩
        cases impossible
  | ok number =>
      by_cases expected : number = session.incomingMsgSeqNum
      · rw [expected] at read ⊢
        rw [Call.returns_bind_of_ok (validateSequenceNumbers_expected read),
          if_pos rfl, Call.ofExcept_ok, Call.pure_bind]
        have moves : Returns (do
            record (.accepted message)
            setIncomingMsgSeqNum (session.incomingMsgSeqNum + 1)
            dispatch (world.environment 0) msgType message) session ↔
              ManagesDispatch world.orchestration message msgType := by
          apply (total_record _).returns_bind_iff
          intro _
          apply Total.returns_bind_iff (Call.total_modify _)
          intro _ after
          exact dispatch_returns_iff accepts msgType message after
        rw [moves]
        exact ⟨fun manages => ⟨⟨_, rfl⟩, fun _ => manages⟩,
          fun manages => manages.2 rfl⟩
      · have stopped := validateSequenceNumbers_unexpected accepts read expected
        apply iff_of_true
        · exact ⟨(), Call.bind_fst stopped fun _ => rfl⟩
        · refine ⟨⟨number, rfl⟩, ?_⟩
          intro same
          injection same with equal
          exact absurd equal expected

theorem afterValidate_returns_iff (message : Message) (session : Session) :
    Returns (do
      let msgType ← Call.ofExcept message.MsgType
      let possDupFlag ← Call.ofExcept message.PossDupFlag
      if msgType = MsgType.SequenceReset then
        processSequenceReset (world.environment 0) message
      else
        let admin ← Call.ofExcept message.isAdmin
        if possDupFlag ∧ admin then
          record (.warning
            (ascii "Ignoring PossDup Admin message with MsgType=" ++ msgType))
        else processNumbered (world.environment 0) msgType message) session ↔
      ∃ msgType possDupFlag, message.MsgType = .ok msgType ∧
        message.PossDupFlag = .ok possDupFlag ∧
        ManagesType world.orchestration session message msgType possDupFlag := by
  have manages (msgType : Bytes) (typed : message.MsgType = .ok msgType)
      (possDupFlag : Bool) :
      Returns (if msgType = MsgType.SequenceReset then
          processSequenceReset (world.environment 0) message
        else do
          let admin ← Call.ofExcept message.isAdmin
          if possDupFlag ∧ admin then
            record (.warning
              (ascii "Ignoring PossDup Admin message with MsgType=" ++ msgType))
          else processNumbered (world.environment 0) msgType message) session ↔
        ManagesType world.orchestration session message msgType possDupFlag := by
    have admin : message.isAdmin = .ok (Message.adminTypes.contains msgType) := by
      unfold Message.isAdmin
      rw [typed]
      rfl
    unfold ManagesType
    by_cases resets : msgType = MsgType.SequenceReset
    · rw [if_pos resets, if_pos resets]
      exact processSequenceReset_returns_iff accepts message session
    · rw [if_neg resets, if_neg resets, admin, Call.ofExcept_ok, Call.pure_bind]
      by_cases repeated : possDupFlag ∧ Message.adminTypes.contains msgType
      · rw [if_pos repeated, if_pos repeated]
        exact iff_of_true (total_record _ session) trivial
      · rw [if_neg repeated, if_neg repeated]
        by_cases isLogon : msgType = MsgType.Logon
        · rw [if_pos isLogon, isLogon]
          exact processNumbered_logon_returns_iff accepts
        · rw [if_neg isLogon]
          exact processNumbered_returns_iff accepts isLogon message session
  rw [Call.returns_ofExcept_bind]
  constructor
  · rintro ⟨msgType, typed, rest⟩
    obtain ⟨possDupFlag, flag, returns⟩ := (Call.returns_ofExcept_bind _ _ _).mp rest
    exact ⟨msgType, possDupFlag, typed, flag,
      (manages msgType typed possDupFlag).mp returns⟩
  · rintro ⟨msgType, possDupFlag, typed, flag, managed⟩
    refine ⟨msgType, typed, ?_⟩
    apply (Call.returns_ofExcept_bind _ _ _).mpr
    exact ⟨possDupFlag, flag, (manages msgType typed possDupFlag).mpr managed⟩

/-- `on_message_read` returns from a message that the decoder delivers exactly
where it can read all that it reads of the message without a guard. -/
theorem onMessageRead_returns_iff {message : Message}
    (delivered : message.Delivered) (session : Session) :
    Returns (onMessageRead (world.environment 0) message) session ↔
      Manageable world.orchestration session message := by
  unfold onMessageRead
  rw [Call.returns_bind_of_ok (record_apply _ session)]
  generalize toldEq :
    { session with history := .messageReceived message :: session.history } = told
  have manageable : Manageable world.orchestration told message ↔
      Manageable world.orchestration session message := by
    rw [← toldEq]
    exact manageable_history_iff
  rw [← manageable]
  by_cases genuine : told.Genuine message
  · by_cases first : told.AllowsFirst message
    · have passes : validate (world.environment 0) message told = (.ok true, told) := by
        rcases validate_decides (world.environment 0) message told with
          ⟨-, run⟩ | ⟨fails, -⟩
        · exact run
        · exact absurd (genuine.validates first) fails
      rw [Call.returns_bind_of_ok passes, if_pos rfl,
        afterValidate_returns_iff accepts]
      constructor
      · rintro ⟨msgType, possDupFlag, typed, flag, manages⟩
        exact .handled genuine first msgType possDupFlag typed flag manages
      · intro managed
        cases managed with
        | refused forged rejectable => exact absurd genuine forged
        | early _ early typed rejectable => exact absurd first early
        | handled _ _ msgType possDupFlag typed flag manages =>
            exact ⟨msgType, possDupFlag, typed, flag, manages⟩
    · have stopped : (validate (world.environment 0) message told).1 ≠ .ok true := by
        rcases validate_decides (world.environment 0) message told with
          ⟨holds, -⟩ | ⟨-, stops⟩
        · exact absurd holds.first first
        · exact stops
      have last : Returns (validate (world.environment 0) message) told ↔
          Returns (validateFirstMessage (world.environment 0) message) told := by
        unfold Returns
        rw [validate_of_genuine genuine]
      rw [Call.returns_if_of_ne stopped, last,
        validateFirstMessage_returns_iff accepts first]
      constructor
      · rintro ⟨typed, rejectable⟩
        exact .early genuine first typed rejectable
      · intro managed
        cases managed with
        | refused forged rejectable => exact absurd genuine forged
        | early _ _ typed rejectable => exact ⟨typed, rejectable⟩
        | handled _ allowed msgType possDupFlag typed flag manages =>
            exact absurd allowed first
  · have stopped : (validate (world.environment 0) message told).1 ≠ .ok true := by
      rcases validate_decides (world.environment 0) message told with
        ⟨holds, -⟩ | ⟨-, stops⟩
      · exact absurd holds.genuine genuine
      · exact stops
    rw [Call.returns_if_of_ne stopped,
      validate_returns_of_not_genuine accepts delivered genuine]
    constructor
    · intro rejectable
      exact .refused genuine rejectable
    · intro managed
      cases managed with
      | refused _ rejectable => exact rejectable
      | early isGenuine _ _ _ => exact absurd isGenuine genuine
      | handled isGenuine _ _ _ _ _ _ => exact absurd isGenuine genuine

end Accepting

/-! ### A message without a number -/

def heartbeatWith (bodyLength : Bytes) (number : List Field) (checksum : UInt32)
    (trailer : Bytes) : Message where
  fields :=
    [⟨Tag.BeginString, ascii "FIX.4.4"⟩, ⟨Tag.BodyLength, bodyLength⟩,
      ⟨Tag.MsgType, MsgType.Heartbeat⟩, ⟨Tag.SenderCompID, ascii "A"⟩,
      ⟨Tag.TargetCompID, ascii "I"⟩] ++ number ++
      [⟨Tag.SendingTime, ascii "20260101-00:00:00.000"⟩, ⟨Tag.CheckSum, trailer⟩]
  decodeChecksum := checksum
  decodeChecksumValid := true

def unnumberedHeartbeat : Message :=
  heartbeatWith (ascii "40") [] 96 (ascii "096")

def firstHeartbeat : Message :=
  heartbeatWith (ascii "45") [⟨Tag.MsgSeqNum, ascii "1"⟩] 59 (ascii "059")

def opened : Session :=
  run (World.plain.environment 0) [.open] (create initiatorOptions 1 1)

theorem delivered_unnumberedHeartbeat : unnumberedHeartbeat.Delivered := by
  refine ⟨.excerpt, .empty, List.flatMap (· ++ [1])
    [ascii "8=FIX.4.4", ascii "9=40", ascii "35=0", ascii "49=A", ascii "56=I",
      ascii "52=20260101-00:00:00.000", ascii "10=096"], 62, ?_⟩
  decide +kernel

theorem delivered_firstHeartbeat : firstHeartbeat.Delivered := by
  refine ⟨.excerpt, .empty, List.flatMap (· ++ [1])
    [ascii "8=FIX.4.4", ascii "9=45", ascii "35=0", ascii "49=A", ascii "56=I",
      ascii "34=1", ascii "52=20260101-00:00:00.000", ascii "10=059"], 67, ?_⟩
  decide +kernel

/-- The Heartbeat passes the validators, and the exception for its missing
number leaves `on_message_read`. -/
theorem unnumbered_escapes :
    unnumberedHeartbeat.Delivered ∧
      (validate (World.plain.environment 0) unnumberedHeartbeat opened).1 =
        .ok true ∧
      (onMessageRead (World.plain.environment 0) unnumberedHeartbeat opened).1 =
        .error ⟨.runtimeError, ascii "message does not have a MsgSeqNum field"⟩ := by
  refine ⟨delivered_unnumberedHeartbeat, ?_, ?_⟩
  · decide
  · decide

theorem onMessageRead_returns_iff_heartbeat :
    Returns (onMessageRead (World.plain.environment 0) firstHeartbeat) opened ∧
      Manageable World.plain.orchestration opened firstHeartbeat ∧
      ¬ Manageable World.plain.orchestration opened unnumberedHeartbeat := by
  have accepts : World.plain.Accepts := fun _ _ _ => rfl
  have returns : Returns (onMessageRead (World.plain.environment 0)
      firstHeartbeat) opened := ⟨(), by decide⟩
  have throws : (onMessageRead (World.plain.environment 0) unnumberedHeartbeat
      opened).1 = .error ⟨.runtimeError,
        ascii "message does not have a MsgSeqNum field"⟩ := by decide
  refine ⟨returns, ?_, ?_⟩
  · exact (onMessageRead_returns_iff accepts delivered_firstHeartbeat
      opened).mp returns
  · intro manageable
    obtain ⟨_, returned⟩ := (onMessageRead_returns_iff accepts
      delivered_unnumberedHeartbeat opened).mpr manageable
    rw [throws] at returned
    cases returned

end Session

end Crocofix

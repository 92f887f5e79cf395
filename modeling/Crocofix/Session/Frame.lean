/-
What the parts of a session that do not assign the sequence numbers keep.

A relation between sessions tolerates the environment when it survives the
session's notices, its bookkeeping and the sending of its own messages.  Every
call below keeps such a relation, so each result about the numbers only has to
deal with the calls that assign them.
-/

import Crocofix.Session.Receive

namespace Crocofix

open Numeral

/-- The event says something to the outside and nothing about messages on the
wire or sequence numbers. -/
def Event.isNotice : Event → Bool
  | .error _ | .warning _ | .information _ | .messageReceived _
  | .readerOpened | .readerClosed | .writerClosed
  | .scheduledRelative _ _ | .scheduledRepeating _ _ | .cancelled _ => true
  | _ => false

def Event.isRemark : Event → Bool
  | .messageReceived _ => false
  | event => event.isNotice

theorem Event.isNotice_of_isRemark {event : Event} (isRemark : event.isRemark) :
    event.isNotice := by
  cases event with
  | messageReceived message => rfl
  | _ => exact isRemark

/-- A message of the kind that the session makes itself: it has a place for its
sequence number, and it does not reset the sequence numbers. -/
structure Message.Ordinary (message : Message) : Prop where
  numbered : (message.fields.tryGet Tag.MsgSeqNum).isSome
  resets : message.isResetLogon = .ok false

/-! ### The session's own messages are ordinary -/

namespace Message

theorem tryGet_foldl_putOrAppend (fields : FieldCollection)
    {added : List Field} {tag : Int32}
    (absent : ∀ field ∈ added, field.tag ≠ tag) :
    (added.foldl FieldCollection.putOrAppend fields).tryGet tag =
      fields.tryGet tag := by
  induction added generalizing fields with
  | nil => rfl
  | cons field added ih =>
      rw [List.foldl_cons,
        ih _ fun other member => absent other (List.mem_cons_of_mem _ member),
        FieldCollection.tryGet_putOrAppend,
        if_neg (absent field List.mem_cons_self)]

theorem isSome_tryGet_foldl_putOrAppend (fields : FieldCollection)
    (added : List Field) {tag : Int32} (present : (fields.tryGet tag).isSome) :
    ((added.foldl FieldCollection.putOrAppend fields).tryGet tag).isSome := by
  induction added generalizing fields with
  | nil => exact present
  | cons field added ih =>
      rw [List.foldl_cons]
      apply ih
      rw [FieldCollection.tryGet_putOrAppend]
      split
      · rfl
      · exact present

theorem msgType_make {msgType : Bytes} {fields : List Field}
    (untyped : ∀ field ∈ fields, field.tag ≠ Tag.MsgType) :
    (Message.make true (⟨Tag.MsgType, msgType⟩ :: fields)).MsgType =
      .ok msgType := by
  have typed : (Message.make true
      (⟨Tag.MsgType, msgType⟩ :: fields)).fields.tryGet Tag.MsgType =
        some ⟨Tag.MsgType, msgType⟩ := by
    change FieldCollection.tryGet (List.foldl _ _ _) _ = _
    rw [List.foldl_cons, tryGet_foldl_putOrAppend _ untyped,
      FieldCollection.tryGet_putOrAppend, if_pos rfl]
  exact (Message.requireField_eq_ok_iff _ _ "MsgType" _).mpr ⟨_, typed, rfl⟩

theorem msgType_putOrAppend (message : Message) {field : Field}
    (untyped : field.tag ≠ Tag.MsgType) :
    Message.MsgType { message with fields := message.fields.putOrAppend field } =
      message.MsgType := by
  simp only [Message.MsgType, Message.requireField,
    FieldCollection.tryGet_putOrAppend, if_neg untyped]

theorem ordinary_make {msgType : Bytes} {fields : List Field}
    (untyped : ∀ field ∈ fields, field.tag ≠ Tag.MsgType)
    (notLogon : msgType ≠ Crocofix.MsgType.Logon) :
    (Message.make true (⟨Tag.MsgType, msgType⟩ :: fields)).Ordinary where
  numbered := isSome_tryGet_foldl_putOrAppend Message.header _ rfl
  resets := by
    unfold Message.isResetLogon
    rw [msgType_make untyped]
    exact if_neg notLogon

theorem Ordinary.putOrAppend {message : Message}
    (ordinary : message.Ordinary) {field : Field}
    (untyped : field.tag ≠ Tag.MsgType) (unflagged : field.tag ≠ Tag.ResetSeqNumFlag) :
    Message.Ordinary
      { message with fields := message.fields.putOrAppend field } where
  numbered := by
    rw [FieldCollection.tryGet_putOrAppend]
    split
    · rfl
    · exact ordinary.numbered
  resets := by
    have flag : Message.ResetSeqNumFlag
        { message with fields := message.fields.putOrAppend field } =
          message.ResetSeqNumFlag := by
      simp only [Message.ResetSeqNumFlag, FieldCollection.getBool,
        FieldCollection.tryGet_putOrAppend, if_neg unflagged]
    rw [← ordinary.resets]
    unfold Message.isResetLogon
    rw [msgType_putOrAppend message untyped, flag]

structure Plain (message : Message) : Prop extends Ordinary message where
  untested : message.MsgType ≠ .ok Crocofix.MsgType.TestRequest

theorem plain_make {msgType : Bytes} {fields : List Field}
    (untyped : ∀ field ∈ fields, field.tag ≠ Tag.MsgType)
    (notLogon : msgType ≠ Crocofix.MsgType.Logon)
    (notTest : msgType ≠ Crocofix.MsgType.TestRequest) :
    (Message.make true (⟨Tag.MsgType, msgType⟩ :: fields)).Plain where
  toOrdinary := ordinary_make untyped notLogon
  untested := by
    rw [msgType_make untyped]
    intro same
    injection same with equal
    exact notTest equal

theorem Plain.putOrAppend {message : Message} (plain : message.Plain)
    {field : Field} (untyped : field.tag ≠ Tag.MsgType)
    (unflagged : field.tag ≠ Tag.ResetSeqNumFlag) :
    Message.Plain
      { message with fields := message.fields.putOrAppend field } where
  toOrdinary := plain.toOrdinary.putOrAppend untyped unflagged
  untested := by
    rw [msgType_putOrAppend message untyped]
    exact plain.untested

structure Usual (message : Message) : Prop extends Plain message where
  unreset : message.MsgType ≠ .ok Crocofix.MsgType.SequenceReset

theorem usual_make {msgType : Bytes} {fields : List Field}
    (untyped : ∀ field ∈ fields, field.tag ≠ Tag.MsgType)
    (notLogon : msgType ≠ Crocofix.MsgType.Logon)
    (notTest : msgType ≠ Crocofix.MsgType.TestRequest)
    (notReset : msgType ≠ Crocofix.MsgType.SequenceReset) :
    (Message.make true (⟨Tag.MsgType, msgType⟩ :: fields)).Usual where
  toPlain := plain_make untyped notLogon notTest
  unreset := by
    rw [msgType_make untyped]
    intro same
    injection same with equal
    exact notReset equal

theorem Usual.putOrAppend {message : Message} (usual : message.Usual)
    {field : Field} (untyped : field.tag ≠ Tag.MsgType)
    (unflagged : field.tag ≠ Tag.ResetSeqNumFlag) :
    Message.Usual
      { message with fields := message.fields.putOrAppend field } where
  toPlain := usual.toPlain.putOrAppend untyped unflagged
  unreset := by
    rw [msgType_putOrAppend message untyped]
    exact usual.unreset

end Message

namespace Session

open Call (Keeps keeps_pure keeps_raise keeps_ofExcept)

/-- Only the fields that no result about sequence numbers mentions differ. -/
structure Bookkeeping (before after : Session) : Prop where
  options : after.options =
    { before.options with heartbeatInterval := after.options.heartbeatInterval }
  state : after.state = before.state
  incoming : after.incomingMsgSeqNum = before.incomingMsgSeqNum
  outgoing : after.outgoingMsgSeqNum = before.outgoingMsgSeqNum
  resent : after.incomingResentMsgSeqNum = before.incomingResentMsgSeqNum
  target : after.incomingTargetMsgSeqNum = before.incomingTargetMsgSeqNum
  history : after.history = before.history

structure Tolerates (environment : Environment)
    (relation : Session → Session → Prop) : Prop where
  notice : ∀ session event, event.isNotice →
    relation session { session with history := event :: session.history }
  bookkeeping : ∀ before after, Bookkeeping before after → relation before after
  entered : ∀ state, state ≠ .resending → Keeps relation (setState state)
  sent : ∀ message options, message.Ordinary →
    Keeps relation (send environment message options)

/-- Nothing but the timers, the ids of the TestRequests and the interval
differs. -/
structure Upkeep (before after : Session) : Prop extends
    Bookkeeping before after where
  logon : after.logonReceived = before.logonReceived

/-- What most calls need of a relation that they are to keep. -/
structure Bears (environment : Environment)
    (relation : Session → Session → Prop) : Prop where
  remark : ∀ session event, event.isRemark →
    relation session { session with history := event :: session.history }
  upkeep : ∀ before after, Upkeep before after → relation before after
  left : Keeps relation (setState .disconnected)
  unlogged : Keeps relation (setState .connected)
  begun : Keeps relation (setState .loggingOn)
  sent : ∀ message options, message.Ordinary →
    Keeps relation (send environment message options)

structure Timed (before after : Session) : Prop extends Upkeep before after where
  expects : after.expectedTestRequestId = before.expectedTestRequestId
  counter : after.nextTestRequestId = before.nextTestRequestId

/-- The least that most calls need of a relation: it may tell a TestRequest, with
its id, from the other messages. -/
structure Suits (environment : Environment)
    (relation : Session → Session → Prop) : Prop where
  remark : ∀ session event, event.isRemark →
    relation session { session with history := event :: session.history }
  timed : ∀ before after, Timed before after → relation before after
  left : Keeps relation (setState .disconnected)
  unlogged : Keeps relation (setState .connected)
  begun : Keeps relation (setState .loggingOn)
  sent : ∀ message options, message.Plain →
    Keeps relation (send environment message options)
  tested : Keeps relation (sendTestRequest environment)

structure Speaks (environment : Environment)
    (relation : Session → Session → Prop) : Prop where
  remark : ∀ session event, event.isRemark →
    relation session { session with history := event :: session.history }
  timed : ∀ before after, Timed before after → relation before after
  left : Keeps relation (setState .disconnected)
  unlogged : Keeps relation (setState .connected)
  begun : Keeps relation (setState .loggingOn)
  sent : ∀ message options, message.Usual →
    Keeps relation (send environment message options)
  tested : Keeps relation (sendTestRequest environment)

theorem Suits.speaks {environment : Environment}
    {relation : Session → Session → Prop}
    (suits : Suits environment relation) : Speaks environment relation where
  remark := suits.remark
  timed := suits.timed
  left := suits.left
  unlogged := suits.unlogged
  begun := suits.begun
  sent message options usual := suits.sent message options usual.toPlain
  tested := suits.tested

theorem Tolerates.bears {environment : Environment}
    {relation : Session → Session → Prop}
    (tolerates : Tolerates environment relation) : Bears environment relation where
  remark session event isRemark :=
    tolerates.notice session event (Event.isNotice_of_isRemark isRemark)
  upkeep before after same :=
    tolerates.bookkeeping before after same.toBookkeeping
  left := tolerates.entered .disconnected (by decide)
  unlogged := tolerates.entered .connected (by decide)
  begun := tolerates.entered .loggingOn (by decide)
  sent := tolerates.sent

theorem Tolerates.loggedOn {environment : Environment}
    {relation : Session → Session → Prop}
    (tolerates : Tolerates environment relation) :
    Keeps relation (setState .loggedOn) :=
  tolerates.entered .loggedOn (by decide)

/-! ### Parts of a call -/

section Rules

variable {environment : Environment} {relation : Session → Session → Prop}

theorem Bears.record (bears : Bears environment relation)
    {event : Event} (isRemark : event.isRemark) :
    Keeps relation (Session.record event) := by
  intro session
  exact bears.remark session event isRemark

theorem Bears.modify (bears : Bears environment relation)
    {change : Session → Session}
    (kept : ∀ session, Upkeep session (change session)) :
    Keeps relation (Call.modify change : Action Unit) := by
  intro session
  exact bears.upkeep session (change session) (kept session)

theorem Speaks.record (speaks : Speaks environment relation)
    {event : Event} (isRemark : event.isRemark) :
    Keeps relation (Session.record event) := by
  intro session
  exact speaks.remark session event isRemark

theorem Speaks.modify (speaks : Speaks environment relation)
    {change : Session → Session}
    (kept : ∀ session, Timed session (change session)) :
    Keeps relation (Call.modify change : Action Unit) := by
  intro session
  exact speaks.timed session (change session) (kept session)

theorem close_keeps [IsTrans Session relation]
    (speaks : Speaks environment relation) :
    Keeps relation close := by
  unfold close
  apply (speaks.record rfl).bind
  intro _
  apply (speaks.record rfl).bind
  intro _
  exact speaks.left

variable [Std.Refl relation]

theorem Bears.get (_bears : Bears environment relation) :
    Keeps relation (Call.get : Action Session) := by
  intro session
  exact Std.Refl.refl session

theorem Bears.ofExcept {α : Type}
    (_bears : Bears environment relation)
    (result : Except Exception α) :
    Keeps relation (Call.ofExcept result : Action α) :=
  keeps_ofExcept result

theorem Speaks.get (_speaks : Speaks environment relation) :
    Keeps relation (Call.get : Action Session) := by
  intro session
  exact Std.Refl.refl session

theorem Speaks.ofExcept {α : Type}
    (_speaks : Speaks environment relation)
    (result : Except Exception α) :
    Keeps relation (Call.ofExcept result : Action α) :=
  keeps_ofExcept result

variable [IsTrans Session relation]

theorem allocateTestRequestId_keeps (bears : Bears environment relation) :
    Keeps relation allocateTestRequestId := by
  unfold allocateTestRequestId
  apply bears.get.bind
  intro session
  have counted : ∀ session : Session, Upkeep session
      { session with nextTestRequestId := session.nextTestRequestId + 1 } :=
    fun session => ⟨⟨rfl, rfl, rfl, rfl, rfl, rfl, rfl⟩, rfl⟩
  apply (bears.modify counted).bind
  intro _
  exact keeps_pure _

theorem sendTestRequest_keeps (bears : Bears environment relation) :
    Keeps relation (sendTestRequest environment) := by
  unfold sendTestRequest
  apply (allocateTestRequestId_keeps bears).bind
  intro id
  have remembered : ∀ session : Session, Upkeep session
      { session with expectedTestRequestId := some id } :=
    fun session => ⟨⟨rfl, rfl, rfl, rfl, rfl, rfl, rfl⟩, rfl⟩
  apply (bears.modify remembered).bind
  intro _
  exact bears.sent _ _ (Message.ordinary_make (by simp [Field.ofUInt32])
    (by decide))

theorem Bears.suits (bears : Bears environment relation) :
    Suits environment relation where
  remark := bears.remark
  timed before after same := bears.upkeep before after same.toUpkeep
  left := bears.left
  unlogged := bears.unlogged
  begun := bears.begun
  sent message options plain := bears.sent message options plain.toOrdinary
  tested := sendTestRequest_keeps bears

/-! ### Calls that only tell, remember and send -/

theorem stopDefibrillator_keeps (speaks : Speaks environment relation) :
    Keeps relation stopDefibrillator := by
  unfold stopDefibrillator
  apply speaks.get.bind
  intro session
  cases session.heartbeatTimerToken with
  | none => exact keeps_pure ()
  | some token =>
      apply (speaks.record rfl).bind
      intro _
      exact speaks.modify fun _ =>
        ⟨⟨⟨rfl, rfl, rfl, rfl, rfl, rfl, rfl⟩, rfl⟩, rfl, rfl⟩

/-- Stopping the heartbeat timer succeeds and records its cancellation at most. -/
theorem stopDefibrillator_spec (session : Session) :
    ∃ stopped, stopDefibrillator session = (.ok (), stopped) ∧
      stopped.options = session.options ∧
      stopped.history =
        session.heartbeatTimerToken.toList.map Event.cancelled ++ session.history := by
  unfold stopDefibrillator
  rw [Call.get_bind]
  cases session.heartbeatTimerToken with
  | none => exact ⟨session, rfl, rfl, rfl⟩
  | some token => exact ⟨_, rfl, rfl, rfl⟩

theorem startDefibrillator_keeps (speaks : Speaks environment relation) :
    Keeps relation (startDefibrillator environment) := by
  unfold startDefibrillator
  apply (stopDefibrillator_keeps speaks).bind
  intro _
  apply speaks.get.bind
  intro session
  split
  · exact keeps_pure ()
  · apply (speaks.record rfl).bind
    intro _
    exact speaks.modify fun _ =>
      ⟨⟨⟨rfl, rfl, rfl, rfl, rfl, rfl, rfl⟩, rfl⟩, rfl, rfl⟩

theorem stopTestRequestTimer_keeps (speaks : Speaks environment relation) :
    Keeps relation stopTestRequestTimer := by
  unfold stopTestRequestTimer
  apply speaks.get.bind
  intro session
  cases session.testRequestTimerToken with
  | none => exact keeps_pure ()
  | some token =>
      apply (speaks.record rfl).bind
      intro _
      exact speaks.modify fun _ =>
        ⟨⟨⟨rfl, rfl, rfl, rfl, rfl, rfl, rfl⟩, rfl⟩, rfl, rfl⟩

theorem sendPostLogonTestRequest_keeps
    (speaks : Speaks environment relation) :
    Keeps relation (sendPostLogonTestRequest environment) := by
  unfold sendPostLogonTestRequest
  apply speaks.get.bind
  intro session
  split
  · apply (speaks.record rfl).bind
    intro _
    exact speaks.modify fun _ =>
      ⟨⟨⟨rfl, rfl, rfl, rfl, rfl, rfl, rfl⟩, rfl⟩, rfl, rfl⟩
  · exact speaks.tested

theorem sendLogon_usual (session : Session) :
    Message.Usual
      { Message.make true
          [⟨Tag.MsgType, MsgType.Logon⟩,
            ⟨Tag.EncryptMethod, EncryptMethod.None⟩,
            .ofUInt32 Tag.HeartBtInt session.options.heartbeatInterval] with
        fields :=
          if session.options.useNextExpectedMsgSeqNum then
            (Message.make true
              [⟨Tag.MsgType, MsgType.Logon⟩,
                ⟨Tag.EncryptMethod, EncryptMethod.None⟩,
                .ofUInt32 Tag.HeartBtInt
                  session.options.heartbeatInterval]).fields.putOrAppend
              (.ofUInt32 Tag.NextExpectedMsgSeqNum session.incomingMsgSeqNum)
          else
            (Message.make true
              [⟨Tag.MsgType, MsgType.Logon⟩,
                ⟨Tag.EncryptMethod, EncryptMethod.None⟩,
                .ofUInt32 Tag.HeartBtInt
                  session.options.heartbeatInterval]).fields } := by
  have usual : (Message.make true
      [⟨Tag.MsgType, MsgType.Logon⟩, ⟨Tag.EncryptMethod, EncryptMethod.None⟩,
        .ofUInt32 Tag.HeartBtInt session.options.heartbeatInterval]).Usual := by
    have typed := @Message.msgType_make MsgType.Logon
      [⟨Tag.EncryptMethod, EncryptMethod.None⟩,
        .ofUInt32 Tag.HeartBtInt session.options.heartbeatInterval]
      (by simp [Field.ofUInt32])
    refine ⟨⟨⟨rfl, rfl⟩, ?_⟩, ?_⟩
    · rw [typed]
      decide
    · rw [typed]
      decide
  split
  · exact usual.putOrAppend (by simp [Field.ofUInt32]) (by simp [Field.ofUInt32])
  · exact usual

theorem sendLogon_keeps (speaks : Speaks environment relation) :
    Keeps relation (sendLogon environment false) := by
  unfold sendLogon
  apply speaks.get.bind
  intro session
  exact speaks.sent _ _ (sendLogon_usual session)

theorem sendLogout_keeps (speaks : Speaks environment relation)
    (text : Bytes) : Keeps relation (sendLogout environment text) := by
  unfold sendLogout
  have usual : (Message.make true
      [⟨Tag.MsgType, MsgType.Logout⟩, ⟨Tag.Text, text⟩]).Usual :=
    Message.usual_make (by simp) (by decide) (by decide) (by decide)
  apply (speaks.sent _ _ usual).bind
  intro _
  apply speaks.get.bind
  intro session
  apply Keeps.bind
  · apply Keeps.onlyIf
    intro _
    apply (stopDefibrillator_keeps speaks).bind
    intro _
    exact speaks.unlogged
  · intro _
    exact close_keeps speaks

theorem sendReject_keeps (speaks : Speaks environment relation)
    (message : Message) (text : Bytes) (reason : Option Bytes) :
    Keeps relation (sendReject environment message text reason) := by
  unfold sendReject
  apply (speaks.ofExcept message.MsgSeqNum).bind
  intro refSeqNum
  have usual : (Message.make true
      [⟨Tag.MsgType, MsgType.Reject⟩, .ofUInt32 Tag.RefSeqNum refSeqNum,
        ⟨Tag.Text, text⟩]).Usual :=
    Message.usual_make (by simp [Field.ofUInt32]) (by decide) (by decide)
      (by decide)
  cases reason with
  | none => exact speaks.sent _ _ usual
  | some value =>
      apply (speaks.ofExcept _).bind
      intro defined
      split
      · exact speaks.sent _ _ (usual.putOrAppend (by simp) (by simp))
      · exact speaks.sent _ _ usual

theorem performResend_keeps (suits : Suits environment relation)
    (beginMsgSeqNum endMsgSeqNum : UInt32) :
    Keeps relation (performResend environment beginMsgSeqNum endMsgSeqNum) := by
  unfold performResend sendGapFill
  apply suits.speaks.get.bind
  intro session
  exact suits.sent _ _ (Message.plain_make
    (by simp [Field.ofUInt32, Field.ofBool]) (by decide) (by decide))

theorem logon_keeps (speaks : Speaks environment relation) :
    Keeps relation (logon environment) := by
  unfold logon
  apply speaks.get.bind
  intro session
  split
  · exact keeps_raise _
  · apply (speaks.begun).bind
    intro _
    split
    · exact sendLogon_keeps speaks
    · exact keeps_pure ()

theorem open_keeps (speaks : Speaks environment relation) :
    Keeps relation («open» environment) := by
  unfold «open»
  apply (speaks.record rfl).bind
  intro _
  exact logon_keeps speaks

theorem defibrillate_keeps (speaks : Speaks environment relation) :
    Keeps relation (defibrillate environment) := by
  unfold defibrillate
  apply speaks.get.bind
  intro session
  split
  · exact speaks.sent _ _ (Message.usual_make (by simp) (by decide) (by decide) (by decide))
  · exact keeps_pure ()

/-! ### The validators -/

theorem rejectAndClose_keeps (speaks : Speaks environment relation)
    (message : Message) (text reason : Bytes) :
    Keeps relation (rejectAndClose environment message text reason) := by
  unfold rejectAndClose
  apply (speaks.record rfl).bind
  intro _
  apply (sendReject_keeps speaks message text (some reason)).bind
  intro _
  apply (close_keeps speaks).bind
  intro _
  exact keeps_pure false

theorem validateChecksum_keeps (speaks : Speaks environment relation)
    (message : Message) : Keeps relation (validateChecksum environment message) := by
  unfold validateChecksum
  cases message.fields.tryGet Tag.CheckSum with
  | none => exact rejectAndClose_keeps speaks message _ _
  | some received =>
      apply (speaks.ofExcept _).bind
      intro checksum
      apply (speaks.ofExcept _).bind
      intro calculated
      split
      · exact rejectAndClose_keeps speaks message _ _
      · exact keeps_pure true

theorem validateBodyLength_keeps (speaks : Speaks environment relation)
    (message : Message) :
    Keeps relation (validateBodyLength environment message) := by
  unfold validateBodyLength
  cases message.fields.tryGet Tag.BodyLength with
  | none => exact rejectAndClose_keeps speaks message _ _
  | some received =>
      apply Keeps.ite
      · intro _
        exact rejectAndClose_keeps speaks message _ _
      · intro _
        exact keeps_pure true

theorem validateBeginString_keeps (speaks : Speaks environment relation)
    (message : Message) :
    Keeps relation (validateBeginString environment message) := by
  unfold validateBeginString
  apply speaks.get.bind
  intro session
  cases message.fields.tryGet Tag.BeginString with
  | none => exact rejectAndClose_keeps speaks message _ _
  | some received =>
      apply Keeps.ite
      · intro _
        exact rejectAndClose_keeps speaks message _ _
      · intro _
        exact keeps_pure true

theorem validateCompID_keeps (speaks : Speaks environment relation)
    (message : Message) (tag : Int32) (name : String) (expected : Bytes) :
    Keeps relation (validateCompID environment message tag name expected) := by
  unfold validateCompID
  apply Keeps.ite
  · intro _
    exact rejectAndClose_keeps speaks message _ _
  · intro _
    exact keeps_pure true

theorem validateCompIDs_keeps (speaks : Speaks environment relation)
    (message : Message) : Keeps relation (validateCompIDs environment message) := by
  unfold validateCompIDs
  apply speaks.get.bind
  intro session
  apply (validateCompID_keeps speaks message _ _ _).bind
  intro target
  split
  · exact validateCompID_keeps speaks message _ _ _
  · exact keeps_pure false

theorem validateFirstMessage_keeps (speaks : Speaks environment relation)
    (message : Message) :
    Keeps relation (validateFirstMessage environment message) := by
  unfold validateFirstMessage
  apply speaks.get.bind
  intro session
  split
  · exact keeps_pure true
  · apply (speaks.ofExcept _).bind
    intro msgType
    split
    · exact keeps_pure true
    · apply (speaks.record rfl).bind
      intro _
      apply (sendReject_keeps speaks message _ _).bind
      intro _
      apply (sendLogout_keeps speaks _).bind
      intro _
      exact keeps_pure false

theorem validate_keeps (speaks : Speaks environment relation)
    (message : Message) : Keeps relation (validate environment message) := by
  unfold validate
  apply (validateChecksum_keeps speaks message).bind
  intro checksum
  split
  · apply (validateBodyLength_keeps speaks message).bind
    intro bodyLength
    split
    · apply (validateBeginString_keeps speaks message).bind
      intro beginString
      split
      · apply (validateCompIDs_keeps speaks message).bind
        intro compIDs
        split
        · exact validateFirstMessage_keeps speaks message
        · exact keeps_pure false
      · exact keeps_pure false
    · exact keeps_pure false
  · exact keeps_pure false

/-! ### The handlers -/

theorem sequenceNumberIsLow_keeps (speaks : Speaks environment relation)
    (message : Message) :
    Keeps relation (sequenceNumberIsLow environment message) := by
  unfold sequenceNumberIsLow
  apply (speaks.ofExcept _).bind
  intro msgSeqNum
  apply speaks.get.bind
  intro session
  split
  · apply (speaks.record rfl).bind
    intro _
    apply (sendLogout_keeps speaks _).bind
    intro _
    exact keeps_pure true
  · exact keeps_pure false

theorem rejectAndLogout_keeps (speaks : Speaks environment relation)
    (logon : Message) (text reason : Bytes) :
    Keeps relation (rejectAndLogout environment logon text reason) := by
  unfold rejectAndLogout
  apply (speaks.record rfl).bind
  intro _
  apply (sendReject_keeps speaks logon text _).bind
  intro _
  apply (sendLogout_keeps speaks text).bind
  intro _
  exact keeps_pure false

theorem extractHeartbeatInterval_keeps
    (speaks : Speaks environment relation) (logon : Message) :
    Keeps relation (extractHeartbeatInterval environment logon) := by
  unfold extractHeartbeatInterval
  cases logon.fields.tryGet Tag.HeartBtInt with
  | none => exact rejectAndLogout_keeps speaks logon _ _
  | some heartBtInt =>
      simp only
      cases stoi heartBtInt.value with
      | error exception => exact rejectAndLogout_keeps speaks logon _ _
      | ok interval =>
          have assigned : ∀ session : Session, Timed session
              { session with
                options :=
                  { session.options with
                    heartbeatInterval := interval.toUInt32 } } :=
            fun session => ⟨⟨⟨rfl, rfl, rfl, rfl, rfl, rfl, rfl⟩, rfl⟩, rfl, rfl⟩
          apply (speaks.modify assigned).bind
          intro _
          exact keeps_pure true

theorem logoutWithError_keeps (speaks : Speaks environment relation)
    (text : Bytes) : Keeps relation (logoutWithError environment text) := by
  unfold logoutWithError
  apply (speaks.record rfl).bind
  intro _
  apply (sendLogout_keeps speaks text).bind
  intro _
  exact keeps_pure false

/-- Performing a resend enters the recovery state, which the relation has to
allow. -/
theorem processNextExpected_keeps (suits : Suits environment relation)
    (entered : Keeps relation (setState .resending)) (logon : Message) :
    Keeps relation (processNextExpected environment logon) := by
  unfold processNextExpected
  cases logon.fields.tryGet Tag.NextExpectedMsgSeqNum with
  | none => exact logoutWithError_keeps suits.speaks _
  | some field =>
      simp only
      cases stoi field.value with
      | error exception => exact logoutWithError_keeps suits.speaks _
      | ok parsed =>
          apply suits.speaks.get.bind
          intro session
          apply Keeps.ite
          · intro _
            exact logoutWithError_keeps suits.speaks _
          · intro _
            apply Keeps.bind
            · apply Keeps.onlyIf
              intro _
              apply (suits.speaks.record rfl).bind
              intro _
              apply entered.bind
              intro _
              exact performResend_keeps suits _ _
            · intro _
              apply Keeps.bind
              · apply Keeps.onlyIf
                intro _
                exact sendLogon_keeps suits.speaks
              · intro _
                apply (sendPostLogonTestRequest_keeps suits.speaks).bind
                intro _
                exact keeps_pure true

theorem reject_keeps (speaks : Speaks environment relation)
    (message : Message) (text reason : Bytes) :
    Keeps relation (reject environment message text reason) := by
  unfold reject
  apply (speaks.record rfl).bind
  intro _
  exact sendReject_keeps speaks message text _

theorem processTestRequest_keeps (speaks : Speaks environment relation)
    (testRequest : Message) :
    Keeps relation (processTestRequest environment testRequest) := by
  unfold processTestRequest
  cases testRequest.fields.tryGet Tag.TestReqID with
  | none =>
      apply (sendReject_keeps speaks testRequest _ _).bind
      intro _
      exact speaks.record rfl
  | some testReqID =>
      exact speaks.sent _ _ (Message.usual_make (by simp) (by decide) (by decide) (by decide))

theorem logOn_keeps (speaks : Speaks environment relation)
    (entered : Keeps relation (setState .loggedOn)) :
    Keeps relation (logOn environment) := by
  unfold logOn
  apply entered.bind
  intro _
  exact startDefibrillator_keeps speaks

theorem processHeartbeat_keeps (speaks : Speaks environment relation)
    (entered : Keeps relation (setState .loggedOn)) (heartbeat : Message) :
    Keeps relation (processHeartbeat environment heartbeat) := by
  unfold processHeartbeat
  apply speaks.get.bind
  intro session
  split
  · cases heartbeat.fields.tryGet Tag.TestReqID with
    | none => exact logOn_keeps speaks entered
    | some testReqID =>
        cases session.expectedTestRequestId with
        | none => exact speaks.record rfl
        | some expected =>
            apply Keeps.ite
            · intro _
              apply (speaks.record rfl).bind
              intro _
              exact close_keeps speaks
            · intro _
              exact logOn_keeps speaks entered
  · exact keeps_pure ()

theorem completeResend_keeps (speaks : Speaks environment relation) :
    Keeps relation (completeResend environment) := by
  unfold completeResend
  apply speaks.get.bind
  intro session
  split
  · apply (speaks.record rfl).bind
    intro _
    apply speaks.tested.bind
    intro _
    exact startDefibrillator_keeps speaks
  · exact keeps_pure ()

theorem processResendRequest_keeps (suits : Suits environment relation)
    (resendRequest : Message) :
    Keeps relation (processResendRequest environment resendRequest) := by
  unfold processResendRequest
  apply (stopTestRequestTimer_keeps suits.speaks).bind
  intro _
  cases resendRequest.fields.tryGet Tag.BeginSeqNo with
  | none => exact reject_keeps suits.speaks resendRequest _ _
  | some beginSeqNo =>
      cases resendRequest.fields.tryGet Tag.EndSeqNo with
      | none => exact reject_keeps suits.speaks resendRequest _ _
      | some endSeqNo =>
          apply (suits.speaks.ofExcept _).bind
          intro first
          apply (suits.speaks.ofExcept _).bind
          intro last
          apply (suits.speaks.record rfl).bind
          intro _
          apply suits.speaks.get.bind
          intro session
          apply (performResend_keeps suits _ _).bind
          intro _
          exact sendPostLogonTestRequest_keeps suits.speaks

/-- Of the types that are dispatched, only a Heartbeat can log the session on. -/
theorem dispatch_keeps_of_ne (suits : Suits environment relation) {msgType : Bytes}
    (notHeartbeat : msgType ≠ MsgType.Heartbeat) (message : Message) :
    Keeps relation (dispatch environment msgType message) := by
  unfold dispatch
  rw [if_neg notHeartbeat]
  split
  · exact processTestRequest_keeps suits.speaks message
  · split
    · exact processResendRequest_keeps suits message
    · split
      · apply (suits.speaks.record rfl).bind
        intro _
        exact close_keeps suits.speaks
      · exact keeps_pure ()

theorem dispatch_keeps (suits : Suits environment relation)
    (entered : Keeps relation (setState .loggedOn)) (msgType : Bytes)
    (message : Message) :
    Keeps relation (dispatch environment msgType message) := by
  by_cases isHeartbeat : msgType = MsgType.Heartbeat
  · unfold dispatch
    rw [if_pos isHeartbeat]
    exact processHeartbeat_keeps suits.speaks entered message
  · exact dispatch_keeps_of_ne suits isHeartbeat message

omit [Std.Refl relation] in
theorem testRequestTimer_keeps (speaks : Speaks environment relation) :
    Keeps relation (step environment .testRequestTimer) := by
  have fired : ∀ session : Session, Timed session
      { session with testRequestTimerToken := none } :=
    fun session => ⟨⟨⟨rfl, rfl, rfl, rfl, rfl, rfl, rfl⟩, rfl⟩, rfl, rfl⟩
  apply (speaks.modify fired).bind
  intro _
  exact speaks.tested

end Rules

end Session

end Crocofix

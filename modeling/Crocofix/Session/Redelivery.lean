/-
Messages that a logged on session receives again.

A resend may overlap with what has been processed before.  The messages of the
session layer that come again are ignored, whereas the number of an application
message is compared and ends the session.
-/

import Crocofix.Session.Handed
import Crocofix.Session.LoggedOn

namespace Crocofix

open Numeral

namespace Session

open Call (Keeps)

/-! ### The first message -/

structure Remembers (before after : Session) : Prop where
  learned : before.logonReceived = true → after.logonReceived = true
  behaviour : after.options.logonBehaviour = before.options.logonBehaviour

instance : Std.Refl Remembers where
  refl _ := ⟨id, rfl⟩

instance : IsTrans Session Remembers where
  trans _ _ _ first second :=
    ⟨second.learned ∘ first.learned, second.behaviour.trans first.behaviour⟩

def Introduced (session : Session) : Prop :=
  session.state = .loggedOn →
    session.options.logonBehaviour = .initiator ∨ session.logonReceived = true

section Introduction

variable (world : World)

theorem setState_remembers (state : SessionState) :
    Keeps Remembers (setState state) := by
  intro session
  by_cases same : session.state = state
  · rw [setState_of_eq same]
    exact Std.Refl.refl session
  · rw [setState_of_ne same]
    exact ⟨id, rfl⟩

theorem restartSeqNums_remembers : Keeps Remembers restartSeqNums := by
  apply (setState_remembers .resetting).bind
  intro _ session
  exact ⟨id, rfl⟩

theorem send_remembers (message : Message) (options : EncodeOptions) :
    Keeps Remembers (send (world.environment 0) message options) := by
  intro session
  cases read : message.isResetLogon with
  | error exception =>
      unfold send
      rw [read]
      exact Std.Refl.refl session
  | ok resets =>
      obtain ⟨base, sent, first, -, handing⟩ := send_handing world options read session
      have restarted : Keeps Remembers (Call.onlyIf resets restartSeqNums) := by
        apply Keeps.onlyIf
        intro _
        exact restartSeqNums_remembers
      have started := restarted session
      rw [first] at started
      rw [handing.after]
      exact ⟨started.learned, started.behaviour⟩

theorem carries_remembers : Carries (world.environment 0) Remembers where
  remark _ _ _ := ⟨id, rfl⟩
  upkeep _ _ same := by
    refine ⟨fun known => same.logon.trans known, ?_⟩
    rw [same.options]
  left := setState_remembers .disconnected
  unlogged := setState_remembers .connected
  begun := setState_remembers .loggingOn
  sent message options _ := send_remembers world message options
  loggedOn := setState_remembers .loggedOn
  resending := setState_remembers .resending
  discarded _ _ _ := ⟨id, rfl⟩
  assigned _ _ same := by
    refine ⟨same.logon, ?_⟩
    rw [same.options]
  restarted := restartSeqNums_remembers
  resetLogon := by
    intro session
    exact send_remembers world _ _ session

theorem step_remembers (input : Input) :
    Keeps Remembers (step (world.environment 0) input) := by
  have carries := carries_remembers world
  apply step_keeps carries.shifts carries.loggedOn
  · intro message _
    exact ⟨fun _ => ⟨id, rfl⟩, fun _ => ⟨id, rfl⟩⟩
  · intro message options _
    exact send_remembers world message options

/-- Only a Heartbeat logs a session on, and to an acceptor that has received no
Logon it would be the first message. -/
theorem step_introduced {session : Session} (introduced : session.Introduced)
    (input : Input) : (step (world.environment 0) input session).2.Introduced := by
  have remembers := step_remembers world input session
  have carried (known : session.options.logonBehaviour = .initiator ∨
      session.logonReceived = true) :
      (step (world.environment 0) input session).2.options.logonBehaviour =
          .initiator ∨
        (step (world.environment 0) input session).2.logonReceived = true := by
    rw [remembers.behaviour]
    exact known.imp_right remembers.learned
  intro loggedOn
  by_cases already : session.state = .loggedOn
  · exact carried (introduced already)
  · by_cases logs : ∃ message, input = .received message ∧ session.LogsOn message
    · obtain ⟨message, -, logsOn⟩ := logs
      rcases logsOn.sequence.validates.first with known | ⟨msgType, typed, listed⟩
      · exact carried known
      · rw [logsOn.typed] at typed
        cases typed
        exact absurd listed (by decide)
    · have off := @step_off world session input (fun message received logsOn =>
        logs ⟨message, received, logsOn⟩) already
      exact absurd loggedOn off

theorem run_introduced (options : SessionOptions) (incoming outgoing : UInt32)
    (inputs : List Input) :
    (run (world.environment 0) inputs
      (create options incoming outgoing)).Introduced := by
  have initially : (create options incoming outgoing).Introduced := by
    intro impossible
    cases impossible
  have kept : ∀ input ∈ inputs, Keeps (Call.Preserves Introduced)
      (step (world.environment 0) input) :=
    fun input _ _ introduced => step_introduced world introduced input
  exact run_keeps kept _ initially

end Introduction

/-! ### Messages that come again -/

/-- A message marked as a possible duplicate that passes the checks and is
numbered below what the session expects. -/
structure Redelivered (session : Session) (message : Message) : Prop where
  notReset : message.MsgType ≠ .ok MsgType.SequenceReset
  flag : message.PossDupFlag = .ok true
  checksum : message.HasChecksum
  bodyLength : message.HasBodyLength
  beginString : (message.fields.tryGet Tag.BeginString).map Field.value =
    some session.options.beginString
  targetCompID : (message.fields.tryGet Tag.TargetCompID).map Field.value =
    some session.options.senderCompID
  senderCompID : (message.fields.tryGet Tag.SenderCompID).map Field.value =
    some session.options.targetCompID
  low : ∃ number, message.MsgSeqNum = .ok number ∧ number < session.incomingMsgSeqNum

/-- Neither the state nor the numbers change, and no Logout is sent. -/
structure Harmless (before after : Session) : Prop where
  state : after.state = before.state
  incoming : after.incomingMsgSeqNum = before.incomingMsgSeqNum
  outgoing : after.outgoingMsgSeqNum = before.outgoingMsgSeqNum
  stays : ∀ sent ∈ handedIn (newEvents before after),
    sent.MsgType ≠ .ok MsgType.Logout

section Again

variable (world : World) {session : Session} {message : Message}

theorem Redelivered.validates (redelivered : session.Redelivered message)
    (introduced : session.Introduced) (loggedOn : session.state = .loggedOn) :
    session.Validates message where
  checksum := redelivered.checksum
  bodyLength := redelivered.bodyLength
  beginString := redelivered.beginString
  targetCompID := redelivered.targetCompID
  senderCompID := redelivered.senderCompID
  first := .inl (introduced loggedOn)

theorem harmless_of_notice {after : Session} {newer : List Event}
    (same : after = { session with history := newer ++ session.history })
    (silent : handedIn newer = []) : Harmless session after := by
  rw [same]
  refine ⟨rfl, rfl, rfl, ?_⟩
  rw [newEvents_eq rfl, silent]
  intro sent member
  cases member

theorem sendLogout_hands (text : Bytes) (session : Session) :
    ∃ sent rest, sent.MsgType = .ok MsgType.Logout ∧
      Hands session (sendLogout (world.environment 0) text session).2
        (sent :: rest) := by
  have usual : (Message.make true
      [⟨Tag.MsgType, MsgType.Logout⟩, ⟨Tag.Text, text⟩]).Usual :=
    Message.usual_make (by simp) (by decide) (by decide) (by decide)
  obtain ⟨sent, given, handing⟩ := send_ordinary world .standard usual.resets session
  have typed : sent.MsgType = .ok MsgType.Logout := by
    rw [given.msgType]
    exact Message.msgType_make (by simp)
  have speaks := speaks_grows world
  have closes : Keeps (Adds fun _ => True) (do
      let session ← Call.get
      Call.onlyIf (session.state = .loggedOn) do
        stopDefibrillator
        setState .connected
      close : Action Unit) := by
    apply speaks.get.bind
    intro before
    apply Keeps.bind
    · apply Keeps.onlyIf
      intro _
      apply (stopDefibrillator_keeps speaks).bind
      intro _
      exact speaks.unlogged
    · intro _
      exact close_keeps speaks
  obtain ⟨rest, hands⟩ := handing.hands.bind fun _ => closes
  exact ⟨sent, rest, typed, hands⟩

theorem sequenceNumberIsLow_logsOut {number : UInt32}
    (read : message.MsgSeqNum = .ok number)
    (low : number < session.incomingMsgSeqNum) :
    ∃ sent rest, sent.MsgType = .ok MsgType.Logout ∧
      Hands session (sequenceNumberIsLow (world.environment 0) message session).2
        (sent :: rest) := by
  obtain ⟨text, textEq⟩ : ∃ text, text = ascii "MsgSeqNum too low, expecting " ++
    decimal session.incomingMsgSeqNum.toNat ++ ascii " but received " ++
      decimal number.toNat := ⟨_, rfl⟩
  obtain ⟨sent, rest, typed, hands⟩ := sendLogout_hands world text
    { session with history := .error text :: session.history }
  have told : Hands session
      { session with history := .error text :: session.history } [] :=
    .of_notice rfl rfl
  obtain ⟨more, whole⟩ := (told.trans hands).bind fun _ => Call.keeps_pure true
  refine ⟨sent, rest ++ more, typed, ?_⟩
  unfold sequenceNumberIsLow
  rw [read, Call.ofExcept_ok, Call.pure_bind, Call.get_bind, if_pos low, ← textEq]
  exact whole

/-- The number of an application message is compared although it comes again. -/
theorem redelivered_logsOut (validates : session.Validates message)
    (application : message.IsApplication) (flag : message.PossDupFlag = .ok true)
    {number : UInt32} (read : message.MsgSeqNum = .ok number)
    (low : number < session.incomingMsgSeqNum) :
    ∃ sent ∈ handedIn (newEvents session
        (onMessageRead (world.environment 0) message session).2),
      sent.MsgType = .ok MsgType.Logout := by
  obtain ⟨msgType, typed, other⟩ : ∃ msgType, message.MsgType = .ok msgType ∧
      Message.adminTypes.contains msgType = false := by
    unfold Message.IsApplication Message.isAdmin at application
    cases typed : message.MsgType with
    | error exception =>
        rw [typed] at application
        cases application
    | ok msgType =>
        rw [typed] at application
        injection application with other
        exact ⟨msgType, rfl, other⟩
  have listed {admin : Bytes} (member : Message.adminTypes.contains admin = true) :
      msgType ≠ admin := by
    rintro rfl
    rw [member] at other
    cases other
  have numbered : IsNumbered message := by
    refine ⟨msgType, true, typed, flag, listed (by decide), ?_⟩
    rw [other]
    exact fun impossible => Bool.noConfusion impossible.2
  have high := @sequenceNumberIsHigh_of_not_lt (world.environment 0) message
    (session.told message) number read (UInt32.not_lt.mpr (UInt32.le_of_lt low))
  have fails : (validateSequenceNumbers (world.environment 0) message
      (session.told message)).1 ≠ .ok true := by
    rcases validateSequenceNumbers_spec world message (session.told message) with
      ⟨-, expected⟩ | ⟨fails, -⟩
    · have same := expected number read
      rw [same] at low
      exact absurd low (UInt32.lt_irrefl _)
    · exact fails
  obtain ⟨sent, rest, logout, hands⟩ := @sequenceNumberIsLow_logsOut world
    (session.told message) message number read low
  have heard : Hands session (session.told message) [] := .of_notice rfl rfl
  obtain ⟨more, whole⟩ := (heard.trans hands).bind fun isLow => Call.keeps_pure (!isLow)
  refine ⟨sent, ?_, logout⟩
  rw [onMessageRead_numbered _ validates typed numbered]
  unfold processNumbered checkNumber
  rw [if_neg (listed (by decide)), Call.bind_if_snd_of_ne fails _ ()]
  unfold validateSequenceNumbers
  rw [Call.bind_of_ok high, if_neg Bool.false_ne_true, whole.newEvents]
  exact List.mem_append_left _ List.mem_cons_self

theorem redelivered_harmless (validates : session.Validates message)
    (notReset : message.MsgType ≠ .ok MsgType.SequenceReset)
    (flag : message.PossDupFlag = .ok true) (admin : ¬ message.IsApplication) :
    Harmless session (onMessageRead (world.environment 0) message session).2 := by
  cases onMessageRead_reading (world.environment 0) session message with
  | refused invalid _ => exact absurd validates invalid
  | unread _ _ _ _ same =>
      rw [same]
      exact @harmless_of_notice session _ [.messageReceived message] rfl rfl
  | reset _ typed _ _ _ _ => exact absurd typed notReset
  | repeated _ msgType _ _ _ same =>
      rw [same]
      exact @harmless_of_notice session _ [.warning _, .messageReceived message] rfl rfl
  | numbered _ msgType typed numbered _ =>
      obtain ⟨otherType, possDupFlag, otherTyped, otherFlag, -, notRepeated⟩ := numbered
      rw [flag] at otherFlag
      cases otherFlag
      have application : message.IsApplication := by
        unfold Message.IsApplication Message.isAdmin
        rw [otherTyped]
        have unlisted : Message.adminTypes.contains otherType = false :=
          Bool.eq_false_iff.mpr fun listed => notRepeated ⟨rfl, listed⟩
        exact congrArg Except.ok unlisted
      exact absurd application admin

end Again

/-- In every state that a session reaches logged on, a message that comes again is
harmless if and only if it belongs to the session layer. -/
theorem redelivery_harmless_iff (world : World) (options : SessionOptions)
    (incoming outgoing : UInt32) {inputs : List Input} {session : Session}
    (reached : run (world.environment 0) inputs (create options incoming outgoing) =
      session)
    (loggedOn : session.state = .loggedOn) {message : Message}
    (redelivered : session.Redelivered message) :
    Harmless session (step (world.environment 0) (.received message) session).2 ↔
      ¬ message.IsApplication := by
  have introduced := run_introduced world options incoming outgoing inputs
  rw [reached] at introduced
  have validates := redelivered.validates introduced loggedOn
  change Harmless session (onMessageRead (world.environment 0) message session).2 ↔ _
  constructor
  · intro harmless application
    obtain ⟨number, read, low⟩ := redelivered.low
    obtain ⟨sent, member, logout⟩ := redelivered_logsOut world validates application
      redelivered.flag read low
    exact harmless.stays sent member logout
  · exact redelivered_harmless world validates redelivered.notReset redelivered.flag

def loggedOnInputs : List Input :=
  [.open, .received confirmingLogon,
    .received (toInitiator MsgType.Heartbeat (ascii "45") (ascii "2") [] 60
      (ascii "060"))]

def loggedOnInitiator : Session :=
  run (World.plain.environment 0) loggedOnInputs (create initiatorOptions 1 1)

def resentOrder : Message :=
  toInitiator (ascii "D") (ascii "55") (ascii "1")
    [⟨Tag.PossDupFlag, ascii "Y"⟩, ⟨Tag.ClOrdID, ascii "X"⟩] 70 (ascii "070")

theorem loggedOnInitiator_redelivered :
    loggedOnInitiator.Redelivered resentOrder where
  notReset := by decide
  flag := by decide
  checksum := ⟨_, 70, rfl, by decide, by decide⟩
  bodyLength := by decide
  beginString := by decide
  targetCompID := by decide
  senderCompID := by decide
  low := ⟨1, by decide, by decide⟩

/-- The session sends a Logout and is disconnected. -/
theorem resent_order_logs_out :
    loggedOnInitiator.state = .loggedOn ∧
      loggedOnInitiator.Redelivered resentOrder ∧
      (step (World.plain.environment 0) (.received resentOrder)
        loggedOnInitiator).2.state = .disconnected ∧
      (handedIn (newEvents loggedOnInitiator (step (World.plain.environment 0)
        (.received resentOrder) loggedOnInitiator).2)).map Message.MsgType =
        [.ok MsgType.Logout] ∧
      ¬ Harmless loggedOnInitiator (step (World.plain.environment 0)
        (.received resentOrder) loggedOnInitiator).2 := by
  refine ⟨by decide, loggedOnInitiator_redelivered, by decide, by decide, ?_⟩
  intro harmless
  exact absurd harmless.state (by decide)

theorem redelivery_harmless_iff_reject :
    Harmless loggedOnInitiator (step (World.plain.environment 0)
      (.received resentReject) loggedOnInitiator).2 := by
  have redelivered : loggedOnInitiator.Redelivered resentReject :=
    { notReset := by decide
      flag := by decide
      checksum := ⟨_, 21, rfl, by decide, by decide⟩
      bodyLength := by decide
      beginString := by decide
      targetCompID := by decide
      senderCompID := by decide
      low := ⟨1, by decide, by decide⟩ }
  exact (redelivery_harmless_iff World.plain initiatorOptions 1 1
    (show run (World.plain.environment 0) loggedOnInputs _ = loggedOnInitiator from rfl)
    (by decide) redelivered).mpr (by decide)

end Session

end Crocofix

/-
What a session does with a SequenceReset.

In reset mode the number that is named moves only the progress of a recovery,
and a gap fill moves both numbers, but in one state only.
-/

import Crocofix.Session.Receipt

namespace Crocofix

open Numeral

def Event.Carries (msgType : Bytes) : Event → Prop
  | .written message _ | .refused message _ _ => message.MsgType = .ok msgType
  | _ => False

theorem Event.Hands.msgType {message : Message} {event : Event} {msgType : Bytes}
    (hands : event.Hands message) (carries : event.Carries msgType) :
    message.MsgType = .ok msgType := by
  have same (sent : Message) (kept : ∀ tag, tag ∉ headerTags →
      sent.fields.tryGet tag = message.fields.tryGet tag) :
      sent.MsgType = message.MsgType := by
    simp only [Message.MsgType, Message.requireField, kept Tag.MsgType (by decide)]
  cases event with
  | written sent options => exact (same sent hands).symm.trans carries
  | refused sent options exception => exact (same sent hands).symm.trans carries
  | _ => cases carries

theorem Event.Hands.carries {message : Message} {event : Event}
    {msgType other : Bytes} (hands : event.Hands message)
    (typed : message.MsgType = .ok msgType) (carries : event.Carries other) :
    other = msgType := by
  have read := hands.msgType carries
  rw [typed] at read
  injection read with same
  exact same.symm

namespace Session

open Call (Keeps)

/-! ### Calls that leave the incoming side alone -/

instance : Std.Refl Untouched where
  refl := Untouched.refl

instance : IsTrans Session Untouched where
  trans _ _ _ := Untouched.trans

theorem record_untouched {event : Event} (isNotice : event.isNotice) :
    Keeps Untouched (record event) := by
  intro session
  exact untouched_of_notice session isNotice

theorem modify_untouched {change : Session → Session}
    (kept : ∀ session, Bookkeeping session (change session)) :
    Keeps Untouched (Call.modify change : Action Unit) := by
  intro session
  exact (kept session).untouched

theorem get_untouched : Keeps Untouched (Call.get : Action Session) := by
  intro session
  exact .refl session

theorem ofExcept_untouched {α : Type} (result : Except Exception α) :
    Keeps Untouched (Call.ofExcept result : Action α) :=
  Call.keeps_ofExcept result

theorem stopDefibrillator_untouched : Keeps Untouched stopDefibrillator := by
  apply get_untouched.bind
  intro session
  cases session.heartbeatTimerToken with
  | none => exact Call.keeps_pure ()
  | some token =>
      apply (record_untouched rfl).bind
      intro _
      exact modify_untouched fun _ => ⟨rfl, rfl, rfl, rfl, rfl, rfl, rfl⟩

theorem startDefibrillator_untouched (environment : Environment) :
    Keeps Untouched (startDefibrillator environment) := by
  apply stopDefibrillator_untouched.bind
  intro _
  apply get_untouched.bind
  intro session
  apply Keeps.ite
  · intro _
    exact Call.keeps_pure ()
  · intro _
    apply (record_untouched rfl).bind
    intro _
    exact modify_untouched fun _ => ⟨rfl, rfl, rfl, rfl, rfl, rfl, rfl⟩

theorem stopTestRequestTimer_untouched :
    Keeps Untouched stopTestRequestTimer := by
  apply get_untouched.bind
  intro session
  cases session.testRequestTimerToken with
  | none => exact Call.keeps_pure ()
  | some token =>
      apply (record_untouched rfl).bind
      intro _
      exact modify_untouched fun _ => ⟨rfl, rfl, rfl, rfl, rfl, rfl, rfl⟩

section Sending

variable (world : World)

theorem sendReject_untouched (message : Message) (text : Bytes)
    (reason : Option Bytes) :
    Keeps Untouched
      (sendReject (world.environment 0) message text reason) := by
  unfold sendReject
  apply (ofExcept_untouched message.MsgSeqNum).bind
  intro refSeqNum
  have ordinary : (Message.make true
      [⟨Tag.MsgType, MsgType.Reject⟩, .ofUInt32 Tag.RefSeqNum refSeqNum,
        ⟨Tag.Text, text⟩]).Ordinary :=
    Message.ordinary_make (by simp [Field.ofUInt32]) (by decide)
  cases reason with
  | none => exact send_untouched world .standard ordinary.resets
  | some value =>
      apply (ofExcept_untouched _).bind
      intro defined
      apply Keeps.ite
      · intro _
        exact send_untouched world .standard
          (ordinary.putOrAppend (by simp) (by simp)).resets
      · intro _
        exact send_untouched world .standard ordinary.resets

theorem reject_untouched (message : Message) (text reason : Bytes) :
    Keeps Untouched (reject (world.environment 0) message text reason) := by
  apply (record_untouched rfl).bind
  intro _
  exact sendReject_untouched world message text (some reason)

theorem sendTestRequest_untouched :
    Keeps Untouched (sendTestRequest (world.environment 0)) := by
  apply Keeps.bind
  · apply get_untouched.bind
    intro session
    apply Keeps.bind
    · exact modify_untouched fun _ => ⟨rfl, rfl, rfl, rfl, rfl, rfl, rfl⟩
    · intro _
      exact Call.keeps_pure _
  · intro id
    apply Keeps.bind
    · exact modify_untouched fun _ => ⟨rfl, rfl, rfl, rfl, rfl, rfl, rfl⟩
    · intro _
      exact send_untouched world .standard (Message.ordinary_make
        (by simp [Field.ofUInt32]) (by decide)).resets

theorem sendPostLogonTestRequest_untouched :
    Keeps Untouched (sendPostLogonTestRequest (world.environment 0)) := by
  apply get_untouched.bind
  intro session
  apply Keeps.ite
  · intro _
    apply (record_untouched rfl).bind
    intro _
    exact modify_untouched fun _ => ⟨rfl, rfl, rfl, rfl, rfl, rfl, rfl⟩
  · intro _
    exact sendTestRequest_untouched world

theorem performResend_untouched (first last : UInt32) :
    Keeps Untouched (performResend (world.environment 0) first last) := by
  apply get_untouched.bind
  intro session
  exact send_untouched world _ (Message.ordinary_make
    (by simp [Field.ofUInt32, Field.ofBool]) (by decide)).resets

theorem completeResend_untouched :
    Keeps Untouched (completeResend (world.environment 0)) := by
  apply get_untouched.bind
  intro session
  apply Keeps.ite
  · intro _
    apply (record_untouched rfl).bind
    intro _
    apply (sendTestRequest_untouched world).bind
    intro _
    exact startDefibrillator_untouched _
  · intro _
    exact Call.keeps_pure ()

theorem processTestRequest_untouched (testRequest : Message) :
    Keeps Untouched
      (processTestRequest (world.environment 0) testRequest) := by
  unfold processTestRequest
  cases testRequest.fields.tryGet Tag.TestReqID with
  | none =>
      apply (sendReject_untouched world testRequest _ _).bind
      intro _
      exact record_untouched rfl
  | some testReqID =>
      exact send_untouched world .standard
        (Message.ordinary_make (by simp) (by decide)).resets

theorem processResendRequest_untouched (resendRequest : Message) :
    Keeps Untouched
      (processResendRequest (world.environment 0) resendRequest) := by
  apply stopTestRequestTimer_untouched.bind
  intro _
  cases resendRequest.fields.tryGet Tag.BeginSeqNo with
  | none => exact reject_untouched world resendRequest _ _
  | some beginSeqNo =>
      cases resendRequest.fields.tryGet Tag.EndSeqNo with
      | none => exact reject_untouched world resendRequest _ _
      | some endSeqNo =>
          apply (ofExcept_untouched _).bind
          intro first
          apply (ofExcept_untouched _).bind
          intro last
          apply (record_untouched rfl).bind
          intro _
          apply get_untouched.bind
          intro session
          apply (performResend_untouched world _ _).bind
          intro _
          exact sendPostLogonTestRequest_untouched world

end Sending

/-! ### What follows on the validators -/

section Validated

variable (environment : Environment) {message : Message} {session : Session}

theorem validates_of_validate
    (passes : (validate environment message session).1 = .ok true) :
    session.Validates message := by
  rcases validate_decides environment message session with
    ⟨validates, -⟩ | ⟨-, fails⟩
  · exact validates
  · exact absurd passes fails

theorem onMessageRead_sequenceReset (validates : session.Validates message)
    (typed : message.MsgType = .ok MsgType.SequenceReset) {possDupFlag : Bool}
    (flag : message.PossDupFlag = .ok possDupFlag) :
    onMessageRead environment message session =
      processSequenceReset environment message (session.told message) := by
  cases onMessageRead_reading environment session message with
  | refused invalid => exact absurd validates invalid
  | unread _ _ _ unread =>
      rw [typed, flag] at unread
      rcases unread with impossible | impossible
      · cases impossible
      · cases impossible
  | reset _ _ _ _ _ same => exact same
  | repeated _ _ otherTyped notReset =>
      rw [typed] at otherTyped
      injection otherTyped with same
      exact absurd same.symm notReset
  | numbered _ _ _ numbered =>
      obtain ⟨_, _, otherTyped, -, notReset, -⟩ := numbered
      rw [typed] at otherTyped
      injection otherTyped with same
      exact absurd same.symm notReset

theorem onMessageRead_numbered (validates : session.Validates message)
    {msgType : Bytes} (typed : message.MsgType = .ok msgType)
    (numbered : IsNumbered message) :
    onMessageRead environment message session =
      processNumbered environment msgType message (session.told message) := by
  cases onMessageRead_reading environment session message with
  | refused invalid => exact absurd validates invalid
  | unread _ _ unnumbered => exact absurd numbered unnumbered
  | reset _ _ _ _ unnumbered => exact absurd numbered unnumbered
  | repeated _ _ _ _ unnumbered => exact absurd numbered unnumbered
  | numbered _ otherType otherTyped _ same =>
      rw [typed] at otherTyped
      injection otherTyped with equal
      rw [equal]
      exact same

theorem onMessageRead_incoming_of_unread (validates : session.Validates message)
    {exception : Exception} (flag : message.PossDupFlag = .error exception) :
    (onMessageRead environment message session).2.incomingMsgSeqNum =
      session.incomingMsgSeqNum := by
  cases onMessageRead_reading environment session message with
  | refused invalid => exact absurd validates invalid
  | unread _ _ _ _ same =>
      rw [same]
      rfl
  | reset _ _ _ otherFlag =>
      rw [flag] at otherFlag
      cases otherFlag
  | repeated _ _ _ _ _ same =>
      rw [same]
      rfl
  | numbered _ _ _ numbered =>
      obtain ⟨_, _, -, otherFlag, -⟩ := numbered
      rw [flag] at otherFlag
      cases otherFlag

end Validated

/-- A SequenceReset in reset mode that names a number to go on with. -/
structure GoesOn (session : Session) (message : Message) (newSeqNo : UInt32) :
    Prop where
  typed : message.MsgType = .ok MsgType.SequenceReset
  mode : message.GapFillFlag ≠ .ok true
  names : ∃ field parsed, message.fields.tryGet Tag.NewSeqNo = some field ∧
    stoi field.value = .ok parsed ∧ parsed.toUInt32 = newSeqNo
  forward : session.incomingMsgSeqNum < newSeqNo

/-- The message passes the checks that come before its number, and its number
is compared. -/
structure Compared (session : Session) (message : Message) (number : UInt32) :
    Prop where
  validates : session.Validates message
  numbered : IsNumbered message
  notLogon : message.MsgType ≠ .ok MsgType.Logon
  read : message.MsgSeqNum = .ok number

section SequenceReset

variable (world : World) {message : Message} {session : Session}

/-! ### Reset mode -/

theorem processSequenceReset_untouched
    (idle : message.GapFillFlag = .ok true → ∀ field parsed,
      message.fields.tryGet Tag.NewSeqNo = some field →
      stoi field.value = .ok parsed →
      ¬ session.incomingMsgSeqNum < parsed.toUInt32) :
    Untouched session
      (processSequenceReset (world.environment 0) message session).2 := by
  unfold processSequenceReset
  cases present : message.fields.tryGet Tag.NewSeqNo with
  | none => exact reject_untouched world message _ _ session
  | some field =>
      cases read : message.GapFillFlag with
      | error exception => exact .refl session
      | ok gapFill =>
          simp only [Call.ofExcept_ok, Call.pure_bind]
          cases value : stoi field.value with
          | error exception => exact reject_untouched world message _ _ session
          | ok newSeqNo =>
              simp only
              rw [Call.get_bind]
              by_cases low : newSeqNo.toUInt32 ≤ session.incomingMsgSeqNum
              · rw [if_pos low]
                exact reject_untouched world message _ _ session
              · rw [if_neg low]
                cases gapFill with
                | true =>
                    exact absurd (UInt32.not_le.mp low)
                      (idle read field newSeqNo present value)
                | false =>
                    rw [if_neg Bool.false_ne_true, Call.modify_bind, record_bind]
                    have moved : Untouched session
                        { session with
                          incomingResentMsgSeqNum := newSeqNo.toUInt32 } :=
                      ⟨⟨rfl, rfl, .refl session.history⟩, rfl, rfl⟩
                    exact (moved.trans (untouched_of_notice _ rfl)).trans
                      (completeResend_untouched world _)

theorem onMessageRead_incoming_of_reset
    (typed : message.MsgType = .ok MsgType.SequenceReset)
    (mode : message.GapFillFlag ≠ .ok true) :
    (onMessageRead (world.environment 0) message session).2.incomingMsgSeqNum =
      session.incomingMsgSeqNum := by
  have bears := (tolerates_calm world).bears
  cases onMessageRead_reading (world.environment 0) session message with
  | refused _ same =>
      rw [same]
      exact (validate_keeps bears.suits.speaks message (session.told message)).incoming
  | unread _ _ _ _ same =>
      rw [same]
      rfl
  | reset _ _ _ _ _ same =>
      rw [same]
      exact (processSequenceReset_untouched world
        fun gapFill => absurd gapFill mode).incoming
  | repeated _ _ _ _ _ same =>
      rw [same]
      rfl
  | numbered _ _ _ numbered =>
      obtain ⟨_, _, otherTyped, -, notReset, -⟩ := numbered
      rw [typed] at otherTyped
      injection otherTyped with equal
      exact absurd equal.symm notReset

/-! ### Numbers that are too high -/

theorem validateSequenceNumbers_discards {number : UInt32}
    (read : message.MsgSeqNum = .ok number)
    (high : session.incomingMsgSeqNum < number) :
    (validateSequenceNumbers (world.environment 0) message session).1 ≠ .ok true ∧
      Discards number session
        (validateSequenceNumbers (world.environment 0) message session).2 := by
  obtain ⟨isHigh, discards⟩ := sequenceNumberIsHigh_discards world read high
  unfold validateSequenceNumbers
  rw [Call.bind_apply]
  revert isHigh discards
  generalize sequenceNumberIsHigh (world.environment 0) message session = called
  intro isHigh discards
  rcases called with ⟨exception | high, after⟩
  · exact ⟨by simp, discards⟩
  · cases high with
    | false => exact absurd rfl isHigh
    | true => exact ⟨by simp, discards⟩

theorem Discards.marked {number : UInt32} {before after : Session}
    (discards : Discards number before after) :
    ∃ newer, after.history =
      newer ++ .discarded number before.incomingMsgSeqNum :: before.history := by
  cases discards with
  | requested idle high incoming target nextExpected history =>
      obtain ⟨newer, request, between, grown, -⟩ := history
      refine ⟨newer ++ request :: between, ?_⟩
      rw [grown]
      simp
  | extended recovering high same =>
      rw [same]
      exact ⟨[], rfl⟩

theorem onMessageRead_discards {number : UInt32}
    (validates : session.Validates message) (numbered : IsNumbered message)
    (notLogon : message.MsgType ≠ .ok MsgType.Logon)
    (read : message.MsgSeqNum = .ok number)
    (high : session.incomingMsgSeqNum < number) :
    Discards number (session.told message)
      (onMessageRead (world.environment 0) message session).2 := by
  obtain ⟨msgType, possDupFlag, typed, rest⟩ := numbered
  have other : msgType ≠ MsgType.Logon := by
    rintro rfl
    exact notLogon typed
  obtain ⟨fails, discards⟩ := @validateSequenceNumbers_discards world message
    (session.told message) number read high
  rw [onMessageRead_numbered _ validates typed ⟨msgType, possDupFlag, typed, rest⟩]
  unfold processNumbered checkNumber
  rw [if_neg other, Call.bind_if_snd_of_ne fails _ ()]
  exact discards

/-- In no run does a SequenceReset in reset mode move the incoming number, so
the message with the number that it names is dropped as too high. -/
theorem reset_never_goes_on (inputs : List Input) (start : Session) :
    ∀ moment ∈ trace (world.environment 0) inputs start,
      ∀ message newSeqNo, moment.2 = .received message →
        moment.1.GoesOn message newSeqNo →
        (step (world.environment 0) moment.2 moment.1).2.incomingMsgSeqNum ≠
            newSeqNo ∧
          ∀ next,
            (step (world.environment 0) moment.2 moment.1).2.Compared next newSeqNo →
            .discarded newSeqNo moment.1.incomingMsgSeqNum ∈
              newEvents (step (world.environment 0) moment.2 moment.1).2
                (run (world.environment 0) [moment.2, .received next] moment.1) := by
  rintro ⟨session, input⟩ - message newSeqNo received goesOn
  change input = .received message at received
  change session.GoesOn message newSeqNo at goesOn
  have stays : (step (world.environment 0) input session).2.incomingMsgSeqNum =
      session.incomingMsgSeqNum := by
    rw [received]
    exact onMessageRead_incoming_of_reset world goesOn.typed goesOn.mode
  have forward := goesOn.forward
  constructor
  · change (step (world.environment 0) input session).2.incomingMsgSeqNum ≠ newSeqNo
    rw [stays]
    exact UInt32.ne_of_lt forward
  · intro next compared
    change Compared (step (world.environment 0) input session).2 next newSeqNo
      at compared
    rw [← stays] at forward
    obtain ⟨newer, grown⟩ := (onMessageRead_discards world compared.validates
      compared.numbered compared.notLogon compared.read forward).marked
    change Event.discarded newSeqNo session.incomingMsgSeqNum ∈
      newEvents (step (world.environment 0) input session).2
        (onMessageRead (world.environment 0) next
          (step (world.environment 0) input session).2).2
    rw [@newEvents_eq _ _ (newer ++ [.discarded newSeqNo _, .messageReceived next])
      (by rw [grown, List.append_assoc]; rfl), ← stays]
    simp [told]

end SequenceReset

def toInitiator (msgType bodyLength number : Bytes) (added : List Field)
    (checksum : UInt32) (trailer : Bytes) : Message where
  fields :=
    [⟨Tag.BeginString, ascii "FIX.4.4"⟩, ⟨Tag.BodyLength, bodyLength⟩,
      ⟨Tag.MsgType, msgType⟩, ⟨Tag.SenderCompID, ascii "A"⟩,
      ⟨Tag.TargetCompID, ascii "I"⟩, ⟨Tag.MsgSeqNum, number⟩,
      ⟨Tag.SendingTime, ascii "20260101-00:00:00.000"⟩] ++ added ++
      [⟨Tag.CheckSum, trailer⟩]
  decodeChecksum := checksum
  decodeChecksumValid := true

def toTenth : Message :=
  toInitiator MsgType.SequenceReset (ascii "51") (ascii "1")
    [⟨Tag.NewSeqNo, ascii "10"⟩] 68 (ascii "068")

def tenthHeartbeat : Message :=
  toInitiator MsgType.Heartbeat (ascii "46") (ascii "10") [] 108 (ascii "108")

/-- The initiator is to go on with number 10, still expects number 1, and asks
for a resend when number 10 comes. -/
theorem opened_not_at_ten :
    opened.GoesOn toTenth 10 ∧
      opened.Validates toTenth ∧
      (run (World.plain.environment 0) [.received toTenth] opened).incomingMsgSeqNum =
        1 ∧
      ∃ event ∈ (run (World.plain.environment 0)
          [.received toTenth, .received tenthHeartbeat] opened).history,
        event.RequestsResend 1 10 := by
  refine ⟨⟨by decide, by decide, ⟨_, 10, rfl, by decide, by decide⟩, by decide⟩,
    validates_of_validate (World.plain.environment 0) (by decide), by decide, ?_⟩
  refine ⟨_, List.mem_cons_of_mem _ List.mem_cons_self, ?_⟩
  exact ⟨by decide, by decide, by decide⟩

theorem reset_never_goes_on_opened :
    (step (World.plain.environment 0) (.received toTenth)
        opened).2.incomingMsgSeqNum ≠ 10 ∧
      .discarded 10 1 ∈ newEvents
        (step (World.plain.environment 0) (.received toTenth) opened).2
        (run (World.plain.environment 0)
          [.received toTenth, .received tenthHeartbeat] opened) := by
  have goesOn : opened.GoesOn toTenth 10 :=
    ⟨by decide, by decide, ⟨_, 10, rfl, by decide, by decide⟩, by decide⟩
  have compared : (step (World.plain.environment 0) (.received toTenth)
      opened).2.Compared tenthHeartbeat 10 :=
    ⟨validates_of_validate (World.plain.environment 0) (by decide),
      ⟨MsgType.Heartbeat, false, by decide, by decide, by decide, by decide⟩,
      by decide, by decide⟩
  obtain ⟨stays, drops⟩ := reset_never_goes_on World.plain [.received toTenth] opened
    (opened, .received toTenth) List.mem_cons_self toTenth 10 rfl goesOn
  exact ⟨stays, drops tenthHeartbeat compared⟩

/-! ### Gap fills -/

/-- Whether the session follows a gap fill, and says nothing against it. -/
def Follows (before after : Session) (newSeqNo : UInt32) : Prop :=
  after.incomingMsgSeqNum = newSeqNo ∧
    ∀ event ∈ newEvents before after, ¬ event.Carries MsgType.Reject

/-- A gap fill for the number that the session expects and has asked for. -/
structure FillsRequested (session : Session) (message : Message)
    (newSeqNo : UInt32) : Prop where
  validates : session.Validates message
  typed : message.MsgType = .ok MsgType.SequenceReset
  gapFill : message.GapFillFlag = .ok true
  read : message.MsgSeqNum = .ok session.incomingMsgSeqNum
  names : ∃ field parsed, message.fields.tryGet Tag.NewSeqNo = some field ∧
    stoi field.value = .ok parsed ∧ parsed.toUInt32 = newSeqNo
  forward : session.incomingMsgSeqNum < newSeqNo
  requested : ∃ event ∈ session.history, ∃ last,
    event.RequestsResend session.incomingMsgSeqNum last

section GapFill

variable {message : Message} {session : Session} {newSeqNo : UInt32}

theorem processSequenceReset_of_gapFill (environment : Environment)
    (gapFill : message.GapFillFlag = .ok true)
    (read : message.MsgSeqNum = .ok session.incomingMsgSeqNum)
    (names : ∃ field parsed, message.fields.tryGet Tag.NewSeqNo = some field ∧
      stoi field.value = .ok parsed ∧ parsed.toUInt32 = newSeqNo)
    (forward : session.incomingMsgSeqNum < newSeqNo) :
    (session.Filling →
      processSequenceReset environment message session =
        completeResend environment
          { session with
            incomingResentMsgSeqNum := newSeqNo
            incomingMsgSeqNum := newSeqNo
            history :=
              .information (ascii "SeqenceReset (GapFill) received, NewSeqNo = " ++
                decimal newSeqNo.toNat) :: session.history }) ∧
    (¬ session.Filling →
      processSequenceReset environment message session =
        reject environment message
          (ascii "SequenceReset GapFill is not valid while not performing a resend")
          SessionRejectReason.Other session) := by
  obtain ⟨field, parsed, present, value, same⟩ := names
  have run : processSequenceReset environment message session =
      processGapFill environment message newSeqNo session := by
    unfold processSequenceReset
    rw [present]
    simp only
    rw [gapFill, Call.ofExcept_ok, Call.pure_bind, value]
    simp only
    rw [same, Call.get_bind, if_neg (UInt32.not_le.mpr forward), if_pos trivial]
  rw [run]
  unfold processGapFill
  rw [Call.bind_of_ok (validateSequenceNumbers_expected read), if_pos rfl,
    Call.get_bind]
  unfold Filling
  constructor
  · intro filling
    simp only [if_pos filling]
    rfl
  · intro idle
    simp only [if_neg idle]

variable (world : World)

theorem Adds.newEvents {permitted : Event → Prop} {before after : Session}
    (adds : Adds permitted before after) :
    ∀ event ∈ newEvents before after, permitted event := by
  obtain ⟨newer, grown, permits⟩ := adds
  rw [newEvents_eq grown]
  exact permits

theorem setState_avoids {avoided : Bytes} (state : SessionState) :
    Keeps (Adds fun event => ¬ event.Carries avoided) (setState state) := by
  intro before
  by_cases same : before.state = state
  · rw [setState_of_eq same]
    exact Std.Refl.refl before
  · rw [setState_of_ne same]
    exact .cons id rfl

theorem restartSeqNums_avoids {avoided : Bytes} :
    Keeps (Adds fun event => ¬ event.Carries avoided) restartSeqNums := by
  apply (setState_avoids .resetting).bind
  intro _ before
  exact .cons id rfl

theorem send_avoids {sent : Message} {avoided : Bytes} {resets : Bool}
    (other : sent.MsgType ≠ .ok avoided) (read : sent.isResetLogon = .ok resets)
    (options : EncodeOptions) :
    Keeps (Adds fun event => ¬ event.Carries avoided)
      (send (world.environment 0) sent options) := by
  intro before
  obtain ⟨base, outgoing, event, newer, first, ⟨hands, -⟩, told, last⟩ :=
    send_hands world options read before
  have restarted : Keeps (Adds fun event => ¬ event.Carries avoided)
      (Call.onlyIf resets restartSeqNums) := by
    apply Keeps.onlyIf
    intro _
    exact restartSeqNums_avoids
  have started := restarted before
  rw [first] at started
  apply IsTrans.trans _ _ _ started
  rw [last]
  refine ⟨newer ++ [event], by simp, ?_⟩
  intro later member
  rcases List.mem_append.mp member with new | handed
  · obtain ⟨left, rfl⟩ := told later new
    exact id
  · rw [List.mem_singleton.mp handed]
    intro carries
    exact other (hands.msgType carries)

theorem record_avoids {avoided : Bytes} {event : Event} (isNotice : event.isNotice) :
    Keeps (Adds fun event => ¬ event.Carries avoided) (record event) := by
  intro before
  refine .cons ?_ rfl
  cases event with
  | written sent options => cases isNotice
  | refused sent options exception => cases isNotice
  | _ => exact id

theorem sendTestRequest_avoids {avoided : Bytes}
    (other : avoided ≠ MsgType.TestRequest) :
    Keeps (Adds fun event => ¬ event.Carries avoided)
      (sendTestRequest (world.environment 0)) := by
  intro before
  have typed := @Message.msgType_make MsgType.TestRequest
    [.ofUInt32 Tag.TestReqID before.nextTestRequestId] (by simp [Field.ofUInt32])
  have distinct : (Message.make true [⟨Tag.MsgType, MsgType.TestRequest⟩,
      .ofUInt32 Tag.TestReqID before.nextTestRequestId]).MsgType ≠ .ok avoided := by
    rw [typed]
    intro same
    injection same with equal
    exact other equal.symm
  exact send_avoids world distinct (Message.ordinary_make (by simp [Field.ofUInt32])
    (by decide)).resets .standard
    { before with
      nextTestRequestId := before.nextTestRequestId + 1
      expectedTestRequestId := some before.nextTestRequestId }

theorem startDefibrillator_avoids {avoided : Bytes} (environment : Environment) :
    Keeps (Adds fun event => ¬ event.Carries avoided)
      (startDefibrillator environment) := by
  have stops : Keeps (Adds fun event => ¬ event.Carries avoided)
      stopDefibrillator := by
    apply Keeps.of_start
    intro before
    cases before.heartbeatTimerToken with
    | none => exact Std.Refl.refl before
    | some token => exact record_avoids rfl before
  apply stops.bind
  intro _
  apply Keeps.of_start
  intro before
  split
  · exact Std.Refl.refl before
  · exact record_avoids rfl before

theorem completeResend_avoids {avoided : Bytes}
    (other : avoided ≠ MsgType.TestRequest) :
    Keeps (Adds fun event => ¬ event.Carries avoided)
      (completeResend (world.environment 0)) := by
  apply Keeps.of_start
  intro before
  split
  · refine Keeps.bind (record_avoids rfl) ?_ before
    intro _
    apply (sendTestRequest_avoids world other).bind
    intro _
    exact startDefibrillator_avoids _
  · exact Std.Refl.refl before

/-- The session follows a gap fill that it has asked for in one state only. -/
theorem onMessageRead_follows_iff (fills : session.FillsRequested message newSeqNo) :
    Follows session (onMessageRead (world.environment 0) message session).2 newSeqNo ↔
      Succeeds message.PossDupFlag ∧ session.Filling := by
  have forward := fills.forward
  cases flag : message.PossDupFlag with
  | error exception =>
      apply iff_of_false
      · rintro ⟨moved, -⟩
        rw [onMessageRead_incoming_of_unread _ fills.validates flag] at moved
        exact UInt32.ne_of_lt forward moved
      · rintro ⟨⟨_, impossible⟩, -⟩
        cases impossible
  | ok possDupFlag =>
      rw [onMessageRead_sequenceReset _ fills.validates fills.typed flag]
      obtain ⟨followed, refused⟩ := @processSequenceReset_of_gapFill message
        (session.told message) newSeqNo (world.environment 0) fills.gapFill
        fills.read fills.names forward
      by_cases filling : session.Filling
      · rw [followed filling]
        refine iff_of_true ⟨?_, ?_⟩ ⟨⟨possDupFlag, rfl⟩, filling⟩
        · exact (completeResend_untouched world _).incoming
        · have heard : Adds (fun event => ¬ event.Carries MsgType.Reject) session
              (session.told message) := .cons id rfl
          have filled : Adds (fun event => ¬ event.Carries MsgType.Reject)
              (session.told message)
              { session.told message with
                incomingResentMsgSeqNum := newSeqNo
                incomingMsgSeqNum := newSeqNo
                history :=
                  .information (ascii "SeqenceReset (GapFill) received, NewSeqNo = " ++
                    decimal newSeqNo.toNat) :: (session.told message).history } :=
            .cons id rfl
          have completed := completeResend_avoids world
            (show MsgType.Reject ≠ MsgType.TestRequest by decide)
            { session.told message with
              incomingResentMsgSeqNum := newSeqNo
              incomingMsgSeqNum := newSeqNo
              history :=
                .information (ascii "SeqenceReset (GapFill) received, NewSeqNo = " ++
                  decimal newSeqNo.toNat) :: (session.told message).history }
          exact Adds.newEvents (IsTrans.trans _ _ _ heard
            (IsTrans.trans _ _ _ filled completed))
      · rw [refused filling]
        apply iff_of_false
        · rintro ⟨moved, -⟩
          rw [(reject_untouched world message _ _ _).incoming] at moved
          exact UInt32.ne_of_lt forward moved
        · rintro ⟨-, holds⟩
          exact filling holds

/-- In every run, a gap fill that the session has asked for is followed exactly
where the state is the one that the option demands. -/
theorem requested_gapFill_follows_iff (inputs : List Input) (start : Session) :
    ∀ moment ∈ trace (world.environment 0) inputs start,
      ∀ message newSeqNo, moment.2 = .received message →
        moment.1.FillsRequested message newSeqNo →
        (Follows moment.1 (step (world.environment 0) moment.2 moment.1).2 newSeqNo ↔
          Succeeds message.PossDupFlag ∧ moment.1.Filling) := by
  rintro ⟨session, input⟩ - message newSeqNo received fills
  change input = .received message at received
  rw [received]
  exact onMessageRead_follows_iff world fills

end GapFill

def requesting (announces : Bool) : Session :=
  run (World.plain.environment 0) [.open, .received fifthHeartbeat]
    (create { initiatorOptions with useNextExpectedMsgSeqNum := announces } 1 1)

def fillsToSixth : Message :=
  toInitiator MsgType.SequenceReset (ascii "56") (ascii "1")
    [⟨Tag.GapFillFlag, ascii "Y"⟩, ⟨Tag.NewSeqNo, ascii "6"⟩] 75 (ascii "075")

theorem requesting_fillsRequested (announces : Bool) :
    (requesting announces).FillsRequested fillsToSixth 6 := by
  cases announces with
  | false =>
      exact ⟨validates_of_validate (World.plain.environment 0) (by decide),
        by decide, by decide, by decide, ⟨_, 6, rfl, by decide, by decide⟩, by decide,
        ⟨_, List.mem_cons_of_mem _ List.mem_cons_self, 5, by decide, by decide,
          by decide⟩⟩
  | true =>
      exact ⟨validates_of_validate (World.plain.environment 0) (by decide),
        by decide, by decide, by decide, ⟨_, 6, rfl, by decide, by decide⟩, by decide,
        ⟨_, List.mem_cons_of_mem _ List.mem_cons_self, 5, by decide, by decide,
          by decide⟩⟩

/-- With the option, the state in which the session asks for the messages is not
the one in which it takes a gap fill. -/
theorem announcing_refuses_requested :
    (requesting true).FillsRequested fillsToSixth 6 ∧
      (requesting true).state = .resending ∧
      (step (World.plain.environment 0) (.received fillsToSixth)
        (requesting true)).2.incomingMsgSeqNum = 1 ∧
      ¬ Follows (requesting true) (step (World.plain.environment 0)
        (.received fillsToSixth) (requesting true)).2 6 := by
  refine ⟨requesting_fillsRequested true, by decide, by decide, ?_⟩
  rintro ⟨moved, -⟩
  exact absurd moved (by decide)

theorem requested_gapFill_follows_iff_requesting :
    Follows (requesting false) (step (World.plain.environment 0)
        (.received fillsToSixth) (requesting false)).2 6 := by
  have follows := requested_gapFill_follows_iff World.plain [.received fillsToSixth]
    (requesting false) (requesting false, .received fillsToSixth) List.mem_cons_self
    fillsToSixth 6 rfl (requesting_fillsRequested false)
  refine follows.mpr ⟨⟨false, by decide⟩, ?_⟩
  change (requesting false).state = .resending
  decide

end Session

end Crocofix

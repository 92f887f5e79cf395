/-
The relations in which a step can leave the incoming side of a session.

Apart from the steps that change nothing that matters here, a step discards a
message whose number is too high, fills a gap, accepts a message, or restarts
the sequence numbers.
-/

import Crocofix.Session.Validate
import Crocofix.Session.World

namespace Crocofix

open Numeral

/-- The writer was handed a Logon that resets the sequence numbers, whether it
took it or not. -/
def Event.restarts : Event → Bool
  | .written message _ | .refused message _ _ =>
      decide (message.isResetLogon = .ok true)
  | _ => false

/-- The event marks no change of the incoming number and drops no message. -/
def Event.isQuiet : Event → Bool
  | .discarded _ _ | .accepted _ => false
  | event => !event.restarts

def Event.RequestsResend (first last : UInt32) : Event → Prop
  | .written message _ | .refused message _ _ =>
      message.MsgType = .ok MsgType.ResendRequest ∧
        (message.fields.tryGet Tag.BeginSeqNo).map Field.value =
          some (decimal first.toNat) ∧
        (message.fields.tryGet Tag.EndSeqNo).map Field.value =
          some (decimal last.toNat)
  | _ => False

def headerTags : List Int32 :=
  [Tag.BeginString, Tag.SenderCompID, Tag.TargetCompID, Tag.MsgSeqNum,
    Tag.SendingTime, Tag.CheckSum]

/-- The writer was handed the message, with the header that `send` gave it. -/
def Event.Hands (message : Message) : Event → Prop
  | .written sent _ | .refused sent _ _ =>
      ∀ tag, tag ∉ headerTags →
        sent.fields.tryGet tag = message.fields.tryGet tag
  | _ => False

theorem Message.isResetLogon_of_tryGet {message sent : Message}
    (same : ∀ tag, tag ∉ headerTags →
      sent.fields.tryGet tag = message.fields.tryGet tag) :
    sent.isResetLogon = message.isResetLogon := by
  have msgType := same Tag.MsgType (by decide)
  have flag := same Tag.ResetSeqNumFlag (by decide)
  simp only [Message.isResetLogon, Message.MsgType, Message.requireField,
    Message.ResetSeqNumFlag, FieldCollection.getBool, msgType, flag]

theorem Event.Hands.restarts {message : Message} {event : Event}
    (hands : event.Hands message) :
    event.restarts = decide (message.isResetLogon = .ok true) := by
  cases event with
  | written sent options =>
      rw [Event.restarts, Message.isResetLogon_of_tryGet hands]
  | refused sent options exception =>
      rw [Event.restarts, Message.isResetLogon_of_tryGet hands]
  | _ => cases hands

theorem Event.Hands.isQuiet {message : Message} {event : Event}
    (hands : event.Hands message) (ordinary : message.isResetLogon = .ok false) :
    event.isQuiet := by
  have restarts := hands.restarts
  rw [ordinary] at restarts
  cases event with
  | written sent options =>
      simp only [Event.isQuiet, restarts]
      rfl
  | refused sent options exception =>
      simp only [Event.isQuiet, restarts]
      rfl
  | _ => cases hands

theorem Event.Hands.not_discarded {message : Message} {event : Event}
    (hands : event.Hands message) (received expected : UInt32) :
    Event.discarded received expected ≠ event := by
  rintro rfl
  exact hands

theorem Event.Hands.requestsResend {message : Message} {event : Event}
    {first last : UInt32} (hands : event.Hands message)
    (msgType : message.MsgType = .ok MsgType.ResendRequest)
    (beginSeqNo : (message.fields.tryGet Tag.BeginSeqNo).map Field.value =
      some (decimal first.toNat))
    (endSeqNo : (message.fields.tryGet Tag.EndSeqNo).map Field.value =
      some (decimal last.toNat)) : event.RequestsResend first last := by
  have same (sent : Message) (kept : ∀ tag, tag ∉ headerTags →
      sent.fields.tryGet tag = message.fields.tryGet tag) :
      sent.MsgType = .ok MsgType.ResendRequest ∧
        (sent.fields.tryGet Tag.BeginSeqNo).map Field.value =
          some (decimal first.toNat) ∧
        (sent.fields.tryGet Tag.EndSeqNo).map Field.value =
          some (decimal last.toNat) := by
    rw [kept Tag.BeginSeqNo (by decide), kept Tag.EndSeqNo (by decide)]
    refine ⟨?_, beginSeqNo, endSeqNo⟩
    rw [← msgType]
    simp only [Message.MsgType, Message.requireField, kept Tag.MsgType (by decide)]
  cases event with
  | written sent options => exact same sent hands
  | refused sent options exception => exact same sent hands
  | _ => cases hands

theorem Event.isQuiet_of_isNotice {event : Event} (isNotice : event.isNotice) :
    event.isQuiet := by
  cases event with
  | written message options => cases isNotice
  | refused message options exception => cases isNotice
  | discarded received expected => cases isNotice
  | accepted message => cases isNotice
  | _ => rfl

namespace Session

open Call (Keeps keeps_pure)

/-! ### Steps that leave the incoming side alone -/

/-- New events, none of which marks a change of the incoming number. -/
def Quietly (before after : List Event) : Prop :=
  ∃ newer, after = newer ++ before ∧ ∀ event ∈ newer, event.isQuiet

theorem Quietly.refl (history : List Event) : Quietly history history := by
  refine ⟨[], rfl, ?_⟩
  intro event member
  cases member

theorem Quietly.trans {first second third : List Event}
    (left : Quietly first second) (right : Quietly second third) :
    Quietly first third := by
  obtain ⟨newer, rfl, quiet⟩ := left
  obtain ⟨newest, rfl, quieter⟩ := right
  refine ⟨newest ++ newer, (List.append_assoc _ _ _).symm, ?_⟩
  intro event member
  rcases List.mem_append.mp member with late | early
  · exact quieter event late
  · exact quiet event early

theorem Quietly.cons {event : Event} (quiet : event.isQuiet)
    (history : List Event) : Quietly history (event :: history) := by
  refine ⟨[event], rfl, ?_⟩
  intro other member
  rw [List.mem_singleton.mp member]
  exact quiet

/-- The incoming number stays, and no message is dropped or accepted. -/
structure Calm (before after : Session) : Prop where
  incoming : after.incomingMsgSeqNum = before.incomingMsgSeqNum
  nextExpected : after.options.useNextExpectedMsgSeqNum =
    before.options.useNextExpectedMsgSeqNum
  history : Quietly before.history after.history

/-- The state may change, but without NextExpectedMsgSeqNum a recovery is not
entered. -/
structure Steady (before after : Session) : Prop extends Calm before after where
  state : before.options.useNextExpectedMsgSeqNum = false →
    after.state = .resending → before.state = .resending

structure Untouched (before after : Session) : Prop
    extends Calm before after where
  target : after.incomingTargetMsgSeqNum = before.incomingTargetMsgSeqNum
  state : after.state = before.state

theorem Untouched.steady {before after : Session}
    (untouched : Untouched before after) : Steady before after where
  toCalm := untouched.toCalm
  state := by
    intro _ resending
    rw [← untouched.state]
    exact resending

/-- Where the peer announces what it expects, recoveries are entered in other
ways. -/
theorem Calm.steady {before after : Session} (calm : Calm before after)
    (expects : before.options.useNextExpectedMsgSeqNum = true) :
    Steady before after where
  toCalm := calm
  state := by
    intro off
    rw [expects] at off
    cases off

instance : Std.Refl Calm where
  refl session := ⟨rfl, rfl, .refl session.history⟩

instance : IsTrans Session Calm where
  trans _ _ _ left right :=
    { incoming := right.incoming.trans left.incoming
      nextExpected := right.nextExpected.trans left.nextExpected
      history := left.history.trans right.history }

instance : Std.Refl Steady where
  refl session := ⟨Std.Refl.refl session, fun _ => id⟩

theorem Steady.trans {first second third : Session}
    (left : Steady first second) (right : Steady second third) :
    Steady first third where
  toCalm := IsTrans.trans _ _ _ left.toCalm right.toCalm
  state := fun off resending =>
    left.state off (right.state (left.nextExpected.trans off) resending)

instance : IsTrans Session Steady where
  trans _ _ _ := Steady.trans

theorem Untouched.refl (session : Session) : Untouched session session :=
  ⟨⟨rfl, rfl, .refl session.history⟩, rfl, rfl⟩

theorem Untouched.trans {first second third : Session}
    (left : Untouched first second) (right : Untouched second third) :
    Untouched first third where
  toCalm := IsTrans.trans _ _ _ left.toCalm right.toCalm
  target := right.target.trans left.target
  state := right.state.trans left.state

theorem Bookkeeping.untouched {before after : Session}
    (same : Bookkeeping before after) : Untouched before after where
  incoming := same.incoming
  target := same.target
  nextExpected := by rw [same.options]
  state := same.state
  history := by
    rw [same.history]
    exact .refl before.history

theorem untouched_of_notice (session : Session) {event : Event}
    (isNotice : event.isNotice) :
    Untouched session { session with history := event :: session.history } where
  incoming := rfl
  target := rfl
  nextExpected := rfl
  state := rfl
  history := .cons (Event.isQuiet_of_isNotice isNotice) session.history

theorem setState_calm (state : SessionState) : Keeps Calm (setState state) := by
  intro session
  by_cases same : session.state = state
  · rw [setState_of_eq same]
    exact Std.Refl.refl session
  · rw [setState_of_ne same]
    exact ⟨rfl, rfl, .cons rfl session.history⟩

theorem setState_steady {state : SessionState} (other : state ≠ .resending) :
    Keeps Steady (setState state) := by
  intro session
  refine ⟨setState_calm state session, ?_⟩
  intro _ resending
  by_cases same : session.state = state
  · rw [setState_of_eq same] at resending
    exact resending
  · rw [setState_of_ne same] at resending
    exact absurd resending other

/-! ### Steps that change the incoming side -/

/-- A message is dropped because its number is too high: either the session
asks for the missing ones, or it is recovering already and extends its target. -/
inductive Discards (number : UInt32) (before after : Session) : Prop
  | requested (idle : before.state ≠ .resending)
      (high : before.incomingMsgSeqNum < number)
      (incoming : after.incomingMsgSeqNum = before.incomingMsgSeqNum)
      (target : after.incomingTargetMsgSeqNum = number)
      (nextExpected : after.options.useNextExpectedMsgSeqNum =
        before.options.useNextExpectedMsgSeqNum)
      (history : ∃ newer request between, after.history =
          newer ++ request :: (between ++
            .discarded number before.incomingMsgSeqNum :: before.history) ∧
        request.RequestsResend before.incomingMsgSeqNum number ∧
        request.isQuiet ∧ (∀ event ∈ newer, event.isQuiet) ∧
        ∀ event ∈ between, event.isQuiet)
  | extended (recovering : before.state = .resending)
      (high : before.incomingMsgSeqNum < number)
      (same : after =
        { before with
          incomingTargetMsgSeqNum := max before.incomingTargetMsgSeqNum number
          history :=
            .discarded number before.incomingMsgSeqNum :: before.history })

structure Restarts (before after : Session) : Prop where
  nextExpected : after.options.useNextExpectedMsgSeqNum =
    before.options.useNextExpectedMsgSeqNum
  state : before.options.useNextExpectedMsgSeqNum = false →
    after.state ≠ .resending
  history : ∃ newer, after.history = newer ++ before.history ∧
    (∃ event ∈ newer, event.restarts) ∧
    ∀ received expected, Event.discarded received expected ∉ newer

theorem Quietly.not_discarded {newer : List Event}
    (quiet : ∀ event ∈ newer, event.isQuiet) (received expected : UInt32) :
    Event.discarded received expected ∉ newer := by
  intro member
  cases quiet _ member

theorem Restarts.of_quietly {before middle after : Session}
    (nextExpected : middle.options.useNextExpectedMsgSeqNum =
      before.options.useNextExpectedMsgSeqNum)
    (quietly : Quietly before.history middle.history)
    (restarts : Restarts middle after) : Restarts before after where
  nextExpected := restarts.nextExpected.trans nextExpected
  state off := restarts.state (nextExpected.trans off)
  history := by
    obtain ⟨early, earlyEq, earlyQuiet⟩ := quietly
    obtain ⟨newer, newerEq, ⟨event, member, restarted⟩, kept⟩ := restarts.history
    refine ⟨newer ++ early, ?_, ⟨event, ?_, restarted⟩, ?_⟩
    · rw [newerEq, earlyEq, List.append_assoc]
    · exact List.mem_append_left early member
    · intro received expected inside
      rcases List.mem_append.mp inside with late | first
      · exact kept received expected late
      · exact Quietly.not_discarded earlyQuiet received expected first

theorem Restarts.steady {before middle after : Session}
    (restarts : Restarts before middle) (steady : Steady middle after) :
    Restarts before after where
  nextExpected := steady.nextExpected.trans restarts.nextExpected
  state off resending := restarts.state off
    (steady.state (restarts.nextExpected.trans off) resending)
  history := by
    obtain ⟨newer, newerEq, ⟨event, member, restarted⟩, kept⟩ := restarts.history
    obtain ⟨late, lateEq, lateQuiet⟩ := steady.history
    refine ⟨late ++ newer, ?_, ⟨event, ?_, restarted⟩, ?_⟩
    · rw [lateEq, newerEq, List.append_assoc]
    · exact List.mem_append_right late member
    · intro received expected inside
      rcases List.mem_append.mp inside with last | first
      · exact Quietly.not_discarded lateQuiet received expected last
      · exact kept received expected first

theorem Restarts.accepting {before middle : Session}
    (restarts : Restarts before middle) (message : Message) (number : UInt32) :
    Restarts before
      { middle with
        incomingMsgSeqNum := number + 1
        history := .accepted message :: middle.history } where
  nextExpected := restarts.nextExpected
  state := restarts.state
  history := by
    obtain ⟨newer, newerEq, ⟨event, member, restarted⟩, kept⟩ := restarts.history
    refine ⟨.accepted message :: newer, ?_,
      ⟨event, List.mem_cons_of_mem _ member, restarted⟩, ?_⟩
    · simp [newerEq]
    · intro received expected inside
      rcases List.mem_cons.mp inside with impossible | old
      · cases impossible
      · exact kept received expected old

/-- Why a message may move the incoming number: it confirms a reset, it has the
expected number, or it is a Logon whose number is not compared. -/
def Admits (session : Session) (message : Message) (number : UInt32) : Prop :=
  message.isResetLogon = .ok true ∧ session.state = .resetting ∨
    message.isResetLogon = .ok false ∧ number = session.incomingMsgSeqNum ∨
    session.options.useNextExpectedMsgSeqNum = true ∧
      message.MsgType = .ok MsgType.Logon

/-- What the comparison of a message's number comes to: the result and the
session afterwards. -/
inductive Checked (message : Message) (before : Session) :
    Except Exception Bool × Session → Prop
  | stopped {result : Except Exception Bool} {after : Session}
      (fails : result ≠ .ok true) (steady : Steady before after) :
      Checked message before (result, after)
  | discarded {result : Except Exception Bool} {after : Session}
      (fails : result ≠ .ok true) (middle : Session) (number : UInt32)
      (untouched : Untouched before middle)
      (discards : Discards number middle after) :
      Checked message before (result, after)
  | restarted {result : Except Exception Bool} {after : Session}
      (resets : message.isResetLogon = .ok true)
      (restarts : Restarts before after) :
      Checked message before (result, after)
  | passed {after : Session} (steady : Steady before after)
      (admits : ∀ number, message.MsgSeqNum = .ok number →
        Admits before message number) :
      Checked message before (.ok true, after)

theorem Checked.of_untouched {message : Message} {before middle : Session}
    {checked : Except Exception Bool × Session}
    (untouched : Untouched before middle)
    (rest : Checked message middle checked) : Checked message before checked := by
  cases rest with
  | stopped fails steady => exact .stopped fails (untouched.steady.trans steady)
  | discarded fails last number middleUntouched discards =>
      exact .discarded fails last number (untouched.trans middleUntouched) discards
  | restarted resets restarts =>
      exact .restarted resets (restarts.of_quietly untouched.nextExpected untouched.history)
  | passed steady admits =>
      refine .passed (untouched.steady.trans steady) ?_
      intro number read
      have admitted := admits number read
      unfold Admits at *
      rwa [untouched.incoming, untouched.nextExpected, untouched.state] at admitted

/-- A message that `on_message_read` neither handles as a SequenceReset nor
ignores as a repetition. -/
def IsNumbered (message : Message) : Prop :=
  ∃ msgType possDupFlag, message.MsgType = .ok msgType ∧
    message.PossDupFlag = .ok possDupFlag ∧ msgType ≠ MsgType.SequenceReset ∧
    ¬ (possDupFlag = true ∧ Message.adminTypes.contains msgType = true)

def told (session : Session) (message : Message) : Session :=
  { session with history := .messageReceived message :: session.history }

theorem validates_told_iff {session : Session} {message : Message}
    (other : Message) :
    (session.told other).Validates message ↔ session.Validates message :=
  ⟨fun validates =>
      ⟨validates.checksum, validates.bodyLength, validates.beginString,
        validates.targetCompID, validates.senderCompID, validates.first⟩,
    fun validates =>
      ⟨validates.checksum, validates.bodyLength, validates.beginString,
        validates.targetCompID, validates.senderCompID, validates.first⟩⟩

/-- The ways that a message can take through `on_message_read`. -/
inductive Reading (environment : Environment) (session : Session)
    (message : Message) (called : Except Exception Unit × Session) : Prop
  | refused (invalid : ¬ session.Validates message)
      (same : called.2 = (validate environment message (session.told message)).2)
  | unread (validates : session.Validates message) (exception : Exception)
      (unnumbered : ¬ IsNumbered message)
      (unread : message.MsgType = .error exception ∨
        message.PossDupFlag = .error exception)
      (same : called = (.error exception, session.told message))
  | reset (validates : session.Validates message)
      (typed : message.MsgType = .ok MsgType.SequenceReset) (possDupFlag : Bool)
      (flag : message.PossDupFlag = .ok possDupFlag)
      (unnumbered : ¬ IsNumbered message)
      (same : called =
        processSequenceReset environment message (session.told message))
  | repeated (validates : session.Validates message) (msgType : Bytes)
      (typed : message.MsgType = .ok msgType)
      (notReset : msgType ≠ MsgType.SequenceReset)
      (unnumbered : ¬ IsNumbered message)
      (same : called = record (.warning (ascii
        "Ignoring PossDup Admin message with MsgType=" ++ msgType))
          (session.told message))
  | numbered (validates : session.Validates message) (msgType : Bytes)
      (typed : message.MsgType = .ok msgType) (numbered : IsNumbered message)
      (same : called =
        processNumbered environment msgType message (session.told message))

theorem onMessageRead_reading (environment : Environment) (session : Session)
    (message : Message) :
    Reading environment session message
      (onMessageRead environment message session) := by
  have run : onMessageRead environment message session = (do
      if ← validate environment message then
        let msgType ← Call.ofExcept message.MsgType
        let possDupFlag ← Call.ofExcept message.PossDupFlag
        if msgType = MsgType.SequenceReset then
          processSequenceReset environment message
        else
          let admin ← Call.ofExcept message.isAdmin
          if possDupFlag ∧ admin then
            record (.warning
              (ascii "Ignoring PossDup Admin message with MsgType=" ++ msgType))
          else processNumbered environment msgType message : Action Unit)
      (session.told message) := rfl
  rw [run]
  rcases validate_decides environment message (session.told message) with
    ⟨toldValidates, passed⟩ | ⟨invalid, stopped⟩
  · have validates := (validates_told_iff message).mp toldValidates
    rw [Call.bind_of_ok passed, if_pos rfl]
    cases typed : message.MsgType with
    | error exception =>
        refine .unread validates exception ?_ (.inl typed) rfl
        rintro ⟨_, _, otherTyped, -⟩
        rw [typed] at otherTyped
        cases otherTyped
    | ok msgType =>
        rw [Call.ofExcept_ok, Call.pure_bind]
        cases flag : message.PossDupFlag with
        | error exception =>
            refine .unread validates exception ?_ (.inr flag) rfl
            rintro ⟨_, _, -, otherFlag, -⟩
            rw [flag] at otherFlag
            cases otherFlag
        | ok possDupFlag =>
            rw [Call.ofExcept_ok, Call.pure_bind]
            by_cases resets : msgType = MsgType.SequenceReset
            · rw [if_pos resets]
              rw [resets] at typed
              refine .reset validates typed possDupFlag flag ?_ rfl
              rintro ⟨_, _, otherTyped, -, notReset, -⟩
              rw [typed] at otherTyped
              cases otherTyped
              exact notReset rfl
            · have admin : message.isAdmin =
                  .ok (Message.adminTypes.contains msgType) := by
                unfold Message.isAdmin
                rw [typed]
                rfl
              rw [if_neg resets, admin, Call.ofExcept_ok, Call.pure_bind]
              by_cases repeated : possDupFlag ∧ Message.adminTypes.contains msgType
              · rw [if_pos repeated]
                refine .repeated validates msgType typed resets ?_ rfl
                rintro ⟨_, _, otherTyped, otherFlag, -, notRepeated⟩
                rw [typed] at otherTyped
                rw [flag] at otherFlag
                cases otherTyped
                cases otherFlag
                exact notRepeated repeated
              · rw [if_neg repeated]
                exact .numbered validates msgType typed
                  ⟨msgType, possDupFlag, typed, flag, resets, repeated⟩ rfl
  · refine .refused ?_ (Call.bind_if_snd_of_ne stopped _ ())
    intro validates
    exact invalid ((validates_told_iff message).mpr validates)

structure AcceptsLogon (session : Session) (logon : Message) (number : UInt32) :
    Prop where
  heartBtInt : ∃ field interval, logon.fields.tryGet Tag.HeartBtInt = some field ∧
    stoi field.value = .ok interval
  number : session.options.useNextExpectedMsgSeqNum = false →
    number = session.incomingMsgSeqNum
  nextExpected : session.options.useNextExpectedMsgSeqNum = true →
    ∃ field parsed, logon.fields.tryGet Tag.NextExpectedMsgSeqNum = some field ∧
      stoi field.value = .ok parsed ∧
      parsed.toUInt32 ≤ session.outgoingMsgSeqNum

/-- The conditions under which a message moves the incoming number past its
own.  Where a Logon announces the next expected number, its own number is not
among them. -/
structure Takes (session : Session) (message : Message) (number : UInt32) :
    Prop where
  validates : session.Validates message
  read : message.MsgSeqNum = .ok number
  numbered : IsNumbered message
  expected : message.isResetLogon = .ok true ∧
      (session.options.useNextExpectedMsgSeqNum = false →
        session.state = .resetting) ∨
    message.isResetLogon = .ok false ∧
      (message.MsgType = .ok MsgType.Logon →
        session.AcceptsLogon message number) ∧
      (message.MsgType ≠ .ok MsgType.Logon →
        number = session.incomingMsgSeqNum)

theorem Takes.of_history {session : Session} {message : Message}
    {number : UInt32} {history : List Event}
    (takes : Takes { session with history } message number) :
    Takes session message number where
  validates :=
    { checksum := takes.validates.checksum
      bodyLength := takes.validates.bodyLength
      beginString := takes.validates.beginString
      targetCompID := takes.validates.targetCompID
      senderCompID := takes.validates.senderCompID
      first := takes.validates.first }
  read := takes.read
  numbered := takes.numbered
  expected := by
    rcases takes.expected with resets | ⟨ordinary, accepts, expected⟩
    · exact .inl resets
    · refine .inr ⟨ordinary, ?_, expected⟩
      intro isLogon
      have accepted := accepts isLogon
      exact ⟨accepted.heartBtInt, accepted.number, accepted.nextExpected⟩

/-- Everything that a step can do to the incoming side of a session. -/
inductive Outcome (input : Input) (before after : Session) : Prop
  | steady (steady : Steady before after)
  | discarded (middle : Session) (number : UInt32)
      (untouched : Untouched before middle)
      (discards : Discards number middle after)
  | filled (middle : Session) (number : UInt32) (first : Steady before middle)
      (greater : before.incomingMsgSeqNum < number)
      (last : Steady
        { middle with
          incomingResentMsgSeqNum := number
          incomingMsgSeqNum := number } after)
  | accepted (message : Message) (number : UInt32) (middle : Session)
      (received : input = .received message)
      (takes : before.Takes message number)
      (first : Steady before middle)
      (last : Steady
        { middle with
          incomingMsgSeqNum := number + 1
          history := .accepted message :: middle.history } after)
  | restarted
      (resets : ∀ message, input = .received message →
        message.isResetLogon = .ok true)
      (restarts : Restarts before after)

theorem Outcome.of_notice {input : Input} {before after : Session} {event : Event}
    (isNotice : event.isNotice)
    (rest : Outcome input
      { before with history := event :: before.history } after) :
    Outcome input before after := by
  have untouched := untouched_of_notice before isNotice
  cases rest with
  | steady steady => exact .steady (untouched.steady.trans steady)
  | discarded last number later discards =>
      exact .discarded last number (untouched.trans later) discards
  | filled last number first greater rest =>
      exact .filled last number (untouched.steady.trans first) greater rest
  | accepted message number last received takes first rest =>
      exact .accepted message number last received takes.of_history
        (untouched.steady.trans first) rest
  | restarted resets restarts =>
      exact .restarted resets
        (restarts.of_quietly untouched.nextExpected untouched.history)

end Session

end Crocofix

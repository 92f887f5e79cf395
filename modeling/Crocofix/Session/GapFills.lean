/-
The gap fills that a session sends.

A gap fill answers a ResendRequest, or a Logon that announces a number below the
next one.  It goes from the number that the peer asked for, whatever that is, to
the next outgoing number.
-/

import Crocofix.Session.Handed
import Crocofix.Session.LoggedOn

namespace Crocofix

open Numeral

namespace Message

structure IsGapFill (message : Message) : Prop where
  typed : message.MsgType = .ok MsgType.SequenceReset
  gapFill : message.GapFillFlag = .ok true

structure FillsGap (message : Message) (first next : UInt32) : Prop
    extends IsGapFill message where
  number : (message.fields.tryGet Tag.MsgSeqNum).map Field.value =
    some (decimal first.toNat)
  newSeqNo : (message.fields.tryGet Tag.NewSeqNo).map Field.value =
    some (decimal next.toNat)

/-- A gap fill whose numbers are read back and in order, up to the next outgoing
number of the sender. -/
def AcceptableFill (outgoing : UInt32) (message : Message) : Prop :=
  ∃ first next, message.FillsGap first next ∧ message.MsgSeqNum = .ok first ∧
    readNumber (decimal next.toNat) = .ok next ∧ first < next ∧ next ≤ outgoing

theorem FillsGap.MsgSeqNum {message : Message} {first next : UInt32}
    (fills : message.FillsGap first next) :
    message.MsgSeqNum = readNumber (decimal first.toNat) := by
  obtain ⟨field, found, value⟩ := Option.map_eq_some_iff.mp fills.number
  have read := (Message.requireField_eq_ok_iff message Tag.MsgSeqNum "MsgSeqNum"
    (decimal first.toNat)).mpr ⟨field, found, value⟩
  unfold Message.MsgSeqNum
  rw [read]
  rfl

/-- A gap fill that starts below the next outgoing number is acceptable as long
as that number is read back. -/
theorem FillsGap.acceptable_iff {message : Message} {first outgoing : UInt32}
    (fills : message.FillsGap first outgoing) :
    message.AcceptableFill outgoing ↔ first < outgoing ∧ outgoing < 2147483648 := by
  constructor
  · rintro ⟨otherFirst, otherNext, other, -, read, less, -⟩
    have firsts := fills.number.symm.trans other.number
    have nexts := fills.newSeqNo.symm.trans other.newSeqNo
    injection firsts with firstTexts
    injection nexts with nextTexts
    have sameFirst := UInt32.toNat_inj.mp (decimal_injective firstTexts)
    have sameNext := UInt32.toNat_inj.mp (decimal_injective nextTexts)
    rw [← sameFirst, ← sameNext] at less
    rw [← sameNext] at read
    exact ⟨less, (Session.readNumber_decimal_iff outgoing).mp read⟩
  · rintro ⟨less, small⟩
    have firstSmall : first < 2147483648 := UInt32.lt_trans less small
    refine ⟨first, outgoing, fills, ?_, ?_, less, UInt32.le_refl outgoing⟩
    · rw [fills.MsgSeqNum]
      exact (Session.readNumber_decimal_iff first).mpr firstSmall
    · exact (Session.readNumber_decimal_iff outgoing).mpr small

end Message

namespace Session

open Call (Keeps)

/-! ### Calls that fill no gap -/

abbrev Unfilled : Session → Session → Prop :=
  Adds fun event => ¬ event.Carries MsgType.SequenceReset

section Unresends

variable (world : World)

theorem turns_unfilled : Turns (world.environment 0) Unfilled where
  remark session event isRemark :=
    record_avoids (Event.isNotice_of_isRemark isRemark) session
  timed _ _ same := .of_same same.history
  left := setState_avoids .disconnected
  unlogged := setState_avoids .connected
  begun := setState_avoids .loggingOn
  sent _ options usual := send_avoids world usual.unreset usual.resets options
  tested := sendTestRequest_avoids world (by decide)
  resending := setState_avoids .resending
  discarded _ _ _ := .cons id rfl
  placed _ _ same := .of_same same.history
  restarted := restartSeqNums_avoids
  resetLogon := by
    intro session
    have typed (fields : FieldCollection) (present : fields.tryGet Tag.MsgType =
        some ⟨Tag.MsgType, MsgType.Logon⟩) (message : Message)
        (same : message.fields = fields) :
        message.MsgType ≠ .ok MsgType.SequenceReset := by
      rw [← same] at present
      have read := (Message.requireField_eq_ok_iff message Tag.MsgType "MsgType"
        MsgType.Logon).mpr ⟨_, present, rfl⟩
      intro impossible
      have both := read.symm.trans impossible
      injection both with equal
      exact absurd equal (by decide)
    unfold sendLogon
    rw [Call.get_bind]
    cases session.options.useNextExpectedMsgSeqNum with
    | false => exact send_avoids world (typed _ rfl _ rfl) rfl .standard session
    | true => exact send_avoids world (typed _ rfl _ rfl) rfl .standard session

theorem setState_unfilled (state : SessionState) : Keeps Unfilled (setState state) :=
  setState_avoids state

/-- Of the messages that are dispatched, only a ResendRequest is answered with a
gap fill. -/
theorem dispatch_unfilled {msgType : Bytes} (notResend : msgType ≠ MsgType.ResendRequest)
    (message : Message) :
    Keeps Unfilled (dispatch (world.environment 0) msgType message) := by
  have speaks := (turns_unfilled world).toSpeaks
  unfold dispatch
  apply Keeps.ite
  · intro _
    exact processHeartbeat_keeps speaks (setState_unfilled .loggedOn) message
  · intro _
    apply Keeps.ite
    · intro _
      exact processTestRequest_keeps speaks message
    · intro _
      rw [if_neg notResend]
      apply Keeps.ite
      · intro _
        apply (speaks.record rfl).bind
        intro _
        exact close_keeps speaks
      · intro _
        exact Call.keeps_pure ()

end Unresends

theorem Unfilled.not_isGapFill {before after : Session} (unfilled : Unfilled before after)
    {sent : Message} (member : sent ∈ handedIn (newEvents before after)) :
    ¬ sent.IsGapFill := by
  obtain ⟨event, new, handed⟩ := mem_handedIn.mp member
  have avoids := Adds.newEvents unfilled event new
  intro isGapFill
  cases event with
  | written message options =>
      injection handed with same
      rw [same] at avoids
      exact avoids isGapFill.typed
  | refused message options exception =>
      injection handed with same
      rw [same] at avoids
      exact avoids isGapFill.typed
  | _ => cases handed

/-! ### Calls that fill a gap -/

structure Resends (before after : Session) (first next : UInt32) : Prop where
  filled : ∃ newer event older sent,
    after.history = newer ++ event :: older ++ before.history ∧
      event.handed = some sent ∧ sent.FillsGap first next ∧
      (∀ other ∈ newer, ¬ other.Carries MsgType.SequenceReset) ∧
      ∀ other ∈ older, ¬ other.Carries MsgType.SequenceReset

section Fills

variable {first next : UInt32}

theorem Unfilled.resends {before between after : Session}
    (unfilled : Unfilled before between) (resends : Resends between after first next) :
    Resends before after first next := by
  obtain ⟨early, earlyEq, earlyAvoids⟩ := unfilled
  obtain ⟨newer, event, older, sent, grown, handed, fills, newerAvoids, olderAvoids⟩ :=
    resends.filled
  refine ⟨newer, event, older ++ early, sent, ?_, handed, fills, newerAvoids, ?_⟩
  · rw [grown, earlyEq]
    simp
  · intro other member
    rcases List.mem_append.mp member with old | earlier
    · exact olderAvoids other old
    · exact earlyAvoids other earlier

theorem Resends.adds {before between after : Session}
    (resends : Resends before between first next) (unfilled : Unfilled between after) :
    Resends before after first next := by
  obtain ⟨late, lateEq, lateAvoids⟩ := unfilled
  obtain ⟨newer, event, older, sent, grown, handed, fills, newerAvoids, olderAvoids⟩ :=
    resends.filled
  refine ⟨late ++ newer, event, older, sent, ?_, handed, fills, ?_, olderAvoids⟩
  · rw [lateEq, grown]
    simp
  · intro other member
    rcases List.mem_append.mp member with later | new
    · exact lateAvoids other later
    · exact newerAvoids other new

theorem Resends.bind {α β : Type} {call : Action α} {rest : α → Action β}
    {start session : Session} (resends : Resends start (call session).2 first next)
    (kept : ∀ value, Keeps Unfilled (rest value)) :
    Resends start ((call >>= rest) session).2 first next := by
  rw [Call.bind_apply]
  revert resends
  generalize call session = called
  intro resends
  rcases called with ⟨exception | value, after⟩
  · exact resends
  · exact resends.adds (kept value after)

theorem Resends.exists {before after : Session}
    (resends : Resends before after first next) :
    ∃ sent ∈ handedIn (newEvents before after), sent.FillsGap first next := by
  obtain ⟨newer, event, older, sent, grown, handed, fills, -⟩ := resends.filled
  refine ⟨sent, mem_handedIn.mpr ⟨event, ?_, handed⟩, fills⟩
  rw [newEvents_eq grown]
  simp

theorem Resends.unique {before after : Session}
    (resends : Resends before after first next) {sent : Message}
    (member : sent ∈ handedIn (newEvents before after))
    (isGapFill : sent.IsGapFill) : sent.FillsGap first next := by
  obtain ⟨newer, event, older, fill, grown, handed, fills, newerAvoids, olderAvoids⟩ :=
    resends.filled
  obtain ⟨other, new, otherHanded⟩ := mem_handedIn.mp member
  have carries : other.Carries MsgType.SequenceReset := by
    cases other with
    | written message options =>
        injection otherHanded with same
        rw [← same] at isGapFill
        exact isGapFill.typed
    | refused message options exception =>
        injection otherHanded with same
        rw [← same] at isGapFill
        exact isGapFill.typed
    | _ => cases otherHanded
  rw [newEvents_eq grown] at new
  rcases List.mem_append.mp new with late | rest
  · exact absurd carries (newerAvoids other late)
  · rcases List.mem_cons.mp rest with rfl | old
    · rw [handed] at otherHanded
      injection otherHanded with same
      rw [← same]
      exact fills
    · exact absurd carries (olderAvoids other old)

variable (world : World)

theorem performResend_handing (last : UInt32) (session : Session) :
    ∃ sent, sent.FillsGap first session.outgoingMsgSeqNum ∧
      Handing session sent { EncodeOptions.standard with setMsgSeqNum := false }
        (performResend (world.environment 0) first last session) := by
  obtain ⟨fill, fillEq⟩ : ∃ fill : Message, fill = Message.make true
      [⟨Tag.MsgType, MsgType.SequenceReset⟩, .ofUInt32 Tag.MsgSeqNum first,
        .ofBool Tag.GapFillFlag true, .ofBool Tag.PossDupFlag true,
        .ofUInt32 Tag.NewSeqNo session.outgoingMsgSeqNum] := ⟨_, rfl⟩
  have ordinary : fill.isResetLogon = .ok false := by
    rw [fillEq]
    exact (Message.ordinary_make (by simp [Field.ofUInt32, Field.ofBool])
      (by decide)).resets
  obtain ⟨sent, given, handing⟩ := send_ordinary world
    { EncodeOptions.standard with setMsgSeqNum := false } ordinary session
  refine ⟨sent, ⟨⟨?_, ?_⟩, ?_, ?_⟩, ?_⟩
  · rw [given.msgType, fillEq]
    exact Message.msgType_make (by simp [Field.ofUInt32, Field.ofBool])
  · unfold Message.GapFillFlag FieldCollection.getBool
    rw [given.kept Tag.GapFillFlag (by decide), fillEq]
    rfl
  · rw [given.number, fillEq]
    rfl
  · rw [given.kept Tag.NewSeqNo (by decide), fillEq]
    rfl
  · unfold performResend sendGapFill
    rw [Call.get_bind, ← fillEq]
    exact handing

theorem Resends.told {α : Type} {event : Event} {rest : Unit → Action α}
    {session : Session} (isRemark : event.isRemark)
    (resends : ∀ told : Session, told.outgoingMsgSeqNum = session.outgoingMsgSeqNum →
      Resends told (rest () told).2 first session.outgoingMsgSeqNum) :
    Resends session ((record event >>= rest) session).2 first
      session.outgoingMsgSeqNum := by
  have unfilled : Unfilled session { session with history := event :: session.history } :=
    record_avoids (Event.isNotice_of_isRemark isRemark) session
  exact unfilled.resends (resends _ rfl)

theorem performResend_fills (last : UInt32) (session : Session) :
    Resends session (performResend (world.environment 0) first last session).2 first
      session.outgoingMsgSeqNum where
  filled := by
    obtain ⟨sent, fills, handing⟩ := @performResend_handing first world last session
    revert handing
    generalize performResend (world.environment 0) first last session = called
    intro handing
    cases handing with
    | taken left =>
        refine ⟨[.messageSent left], .written sent _, [], sent, rfl, rfl, fills, ?_, ?_⟩
        · intro other member
          rw [List.mem_singleton.mp member]
          exact id
        · intro other member
          cases member
    | refused exception =>
        refine ⟨[], .refused sent _ exception, [], sent, rfl, rfl, fills, ?_, ?_⟩
        · intro other member
          cases member
        · intro other member
          cases member

end Fills

/-! ### The handlers that resend -/

section Handlers

variable (world : World) {message : Message} {first last : UInt32}

theorem stopTestRequestTimer_left (session : Session) :
    ∃ after, stopTestRequestTimer session = (.ok (), after) ∧
      after.outgoingMsgSeqNum = session.outgoingMsgSeqNum := by
  unfold stopTestRequestTimer
  rw [Call.get_bind]
  cases session.testRequestTimerToken with
  | none => exact ⟨session, rfl, rfl⟩
  | some token => exact ⟨_, rfl, rfl⟩

theorem useRange_resends (last : UInt32) (session : Session) :
    Resends session (useRange (world.environment 0) first last session).2 first
      session.outgoingMsgSeqNum := by
  have speaks := (turns_unfilled world).toSpeaks
  unfold useRange
  apply Resends.told rfl
  intro told outgoing
  rw [Call.get_bind, ← outgoing]
  apply (performResend_fills world _ told).bind
  intro _
  exact sendPostLogonTestRequest_keeps speaks

theorem processResendRequest_resends {beginSeqNo endSeqNo : Field}
    (begins : message.fields.tryGet Tag.BeginSeqNo = some beginSeqNo)
    (ends : message.fields.tryGet Tag.EndSeqNo = some endSeqNo)
    (readFirst : readNumber beginSeqNo.value = .ok first)
    (readLast : readNumber endSeqNo.value = .ok last) (session : Session) :
    Resends session (processResendRequest (world.environment 0) message session).2
      first session.outgoingMsgSeqNum := by
  have speaks := (turns_unfilled world).toSpeaks
  obtain ⟨stopped, run, outgoing⟩ := stopTestRequestTimer_left session
  have unfilled := stopTestRequestTimer_keeps speaks session
  rw [run] at unfilled
  rw [(readsNumbers (world.environment 0)).range message beginSeqNo endSeqNo begins
    ends, Call.bind_of_ok run, readFirst, readLast]
  rw [Call.ofExcept_ok, Call.pure_bind, Call.ofExcept_ok, Call.pure_bind, ← outgoing]
  exact unfilled.resends (useRange_resends world last stopped)

/-- Where an end of the range is missing or unreadable, nothing is resent. -/
theorem processResendRequest_unfilled
    (unread : ∀ beginSeqNo endSeqNo first last,
      message.fields.tryGet Tag.BeginSeqNo = some beginSeqNo →
      message.fields.tryGet Tag.EndSeqNo = some endSeqNo →
      readNumber beginSeqNo.value = .ok first →
        readNumber endSeqNo.value ≠ .ok last) :
    Keeps Unfilled (processResendRequest (world.environment 0) message) := by
  have speaks := (turns_unfilled world).toSpeaks
  cases begins : message.fields.tryGet Tag.BeginSeqNo with
  | none =>
      unfold processResendRequest
      rw [begins]
      apply (stopTestRequestTimer_keeps speaks).bind
      intro _
      exact reject_keeps speaks message _ _
  | some beginSeqNo =>
      cases ends : message.fields.tryGet Tag.EndSeqNo with
      | none =>
          unfold processResendRequest
          rw [begins, ends]
          apply (stopTestRequestTimer_keeps speaks).bind
          intro _
          exact reject_keeps speaks message _ _
      | some endSeqNo =>
          rw [(readsNumbers (world.environment 0)).range message beginSeqNo endSeqNo
            begins ends]
          apply (stopTestRequestTimer_keeps speaks).bind
          intro _
          cases readFirst : readNumber beginSeqNo.value with
          | error exception => exact Call.keeps_raise exception
          | ok first =>
              cases readLast : readNumber endSeqNo.value with
              | error exception => exact Call.keeps_raise exception
              | ok last =>
                  exact absurd readLast
                    (unread beginSeqNo endSeqNo first last begins ends readFirst)

theorem greeting_unfilled (session : Session) :
    Keeps Unfilled (do
      Call.onlyIf (session.options.logonBehaviour = .acceptor)
        (sendLogon (world.environment 0) false)
      sendPostLogonTestRequest (world.environment 0)
      pure true : Action Bool) := by
  have speaks := (turns_unfilled world).toSpeaks
  apply Keeps.bind
  · apply Keeps.onlyIf
    intro _
    exact sendLogon_keeps speaks
  · intro _
    apply (sendPostLogonTestRequest_keeps speaks).bind
    intro _
    exact Call.keeps_pure true

theorem useNextExpected_resends {session : Session}
    (known : first ≤ session.outgoingMsgSeqNum)
    (behind : first + 1 < session.outgoingMsgSeqNum) :
    Resends session (useNextExpected (world.environment 0) first session).2 first
      session.outgoingMsgSeqNum := by
  unfold useNextExpected
  rw [Call.get_bind, if_neg (UInt32.not_lt.mpr known), Call.onlyIf, if_pos behind]
  refine Resends.bind ?_ fun _ => greeting_unfilled world session
  apply Resends.told rfl
  intro told outgoing
  have entered := setState_unfilled .resending told
  by_cases same : told.state = .resending
  · rw [Call.bind_of_ok (setState_of_eq same), ← outgoing]
    exact performResend_fills world _ told
  · rw [setState_of_ne same] at entered
    rw [Call.bind_of_ok (setState_of_ne same), ← outgoing]
    exact entered.resends (performResend_fills world _ _)

theorem useNextExpected_unfilled {session : Session}
    (level : first ≤ session.outgoingMsgSeqNum →
      ¬ first + 1 < session.outgoingMsgSeqNum) :
    Unfilled session (useNextExpected (world.environment 0) first session).2 := by
  have speaks := (turns_unfilled world).toSpeaks
  unfold useNextExpected
  rw [Call.get_bind]
  by_cases high : session.outgoingMsgSeqNum < first
  · rw [if_pos high]
    exact logoutWithError_keeps speaks _ session
  · rw [if_neg high, Call.onlyIf, if_neg (level (UInt32.not_lt.mp high))]
    exact greeting_unfilled world session session

end Handlers

/-! ### Steps -/

/-- The number from which a session is made to resend: by a ResendRequest in
sequence, or by a Logon that announces a number below the last one sent. -/
inductive FillsFrom (session : Session) (message : Message) : UInt32 → Prop
  | asked {first last : UInt32} {beginSeqNo endSeqNo : Field}
      (sequence : session.InSequence message) (numbered : IsNumbered message)
      (typed : message.MsgType = .ok MsgType.ResendRequest)
      (begins : message.fields.tryGet Tag.BeginSeqNo = some beginSeqNo)
      (ends : message.fields.tryGet Tag.EndSeqNo = some endSeqNo)
      (readFirst : readNumber beginSeqNo.value = .ok first)
      (readLast : readNumber endSeqNo.value = .ok last) :
      FillsFrom session message first
  | announced {first : UInt32} {heartBtInt field : Field} {interval : Int32}
      {flag : Bool} (validates : session.Validates message)
      (numbered : IsNumbered message) (typed : message.MsgType = .ok MsgType.Logon)
      (flagged : message.ResetSeqNumFlag = .ok flag)
      (beats : message.fields.tryGet Tag.HeartBtInt = some heartBtInt)
      (readInterval : stoi heartBtInt.value = .ok interval)
      (expects : session.options.useNextExpectedMsgSeqNum = true)
      (announces : message.fields.tryGet Tag.NextExpectedMsgSeqNum = some field)
      (readNext : readNumber field.value = .ok first)
      (known : first ≤ session.outgoingMsgSeqNum)
      (behind : first + 1 < session.outgoingMsgSeqNum) :
      FillsFrom session message first

section Steps

variable (world : World) {session : Session} {message : Message}

def welcomed (session : Session) (interval : Int32) : Session :=
  { session with
    options := { session.options with heartbeatInterval := interval.toUInt32 }
    logonReceived := true }

theorem processLogon_expects {environment : Environment} {logon : Message}
    {heartBtInt : Field} {interval : Int32} {flag : Bool}
    (flagged : logon.ResetSeqNumFlag = .ok flag)
    (beats : logon.fields.tryGet Tag.HeartBtInt = some heartBtInt)
    (readInterval : stoi heartBtInt.value = .ok interval)
    (expects : session.options.useNextExpectedMsgSeqNum = true) :
    processLogon environment logon session =
      processNextExpected environment logon (session.welcomed interval) := by
  rw [processLogon_of_read flagged beats readInterval, if_pos expects]
  rfl

theorem onMessageRead_resends {first : UInt32}
    (fillsFrom : FillsFrom session message first) :
    Resends session (onMessageRead (world.environment 0) message session).2 first
      session.outgoingMsgSeqNum := by
  have heard : Unfilled session (session.told message) := .cons id rfl
  cases fillsFrom with
  | asked sequence numbered typed begins ends readFirst readLast =>
      rw [onMessageRead_dispatches _ sequence.validates typed (by decide) numbered
        sequence.read]
      have counted : Unfilled session ((session.told message).counted message) :=
        IsTrans.trans _ _ _ heard (.cons id rfl)
      exact counted.resends
        (processResendRequest_resends world begins ends readFirst readLast _)
  | @announced _ field interval _ validates numbered typed flagged beats readInterval
      expects announces readNext known behind =>
      rw [onMessageRead_numbered _ validates typed numbered]
      unfold processNumbered checkNumber
      rw [if_pos rfl]
      have resends : Resends session
          (processLogon (world.environment 0) message (session.told message)).2 first
          session.outgoingMsgSeqNum := by
        have run := @processLogon_expects (session.told message)
          (world.environment 0) message _ interval _ flagged beats readInterval expects
        rw [run, (readsNumbers (world.environment 0)).nextExpected message field
          announces, readNext]
        have welcomed : Unfilled session ((session.told message).welcomed interval) :=
          IsTrans.trans _ _ _ heard (.of_same rfl)
        exact welcomed.resends (useNextExpected_resends world known behind)
      apply resends.bind
      intro proceeds
      apply Keeps.ite
      · intro _
        apply ((turns_unfilled world).toSpeaks.ofExcept message.MsgSeqNum).bind
        intro number before
        exact .cons id rfl
      · intro _
        exact Call.keeps_pure ()

theorem processLogon_unfilled
    (level : ∀ heartBtInt interval field first flag,
      message.ResetSeqNumFlag = .ok flag →
      message.fields.tryGet Tag.HeartBtInt = some heartBtInt →
      stoi heartBtInt.value = .ok interval →
      session.options.useNextExpectedMsgSeqNum = true →
      message.fields.tryGet Tag.NextExpectedMsgSeqNum = some field →
      readNumber field.value = .ok first → first ≤ session.outgoingMsgSeqNum →
        ¬ first + 1 < session.outgoingMsgSeqNum) :
    Unfilled session (processLogon (world.environment 0) message session).2 := by
  have turns := turns_unfilled world
  have speaks := turns.toSpeaks
  cases flagged : message.ResetSeqNumFlag with
  | error exception =>
      unfold processLogon
      rw [flagged]
      exact Std.Refl.refl session
  | ok flag =>
      rcases extractHeartbeatInterval_spec (world.environment 0) message session with
        ⟨heartBtInt, interval, beats, readInterval, run⟩ | refused
      · have welcomed : Unfilled session (session.welcomed interval) := .of_same rfl
        by_cases expects : session.options.useNextExpectedMsgSeqNum
        · rw [processLogon_expects flagged beats readInterval expects]
          apply IsTrans.trans _ _ _ welcomed
          cases announces : message.fields.tryGet Tag.NextExpectedMsgSeqNum with
          | none =>
              unfold processNextExpected
              rw [announces]
              exact logoutWithError_keeps speaks _ _
          | some field =>
              rw [(readsNumbers (world.environment 0)).nextExpected message field
                announces]
              cases readNext : readNumber field.value with
              | error exception => exact logoutWithError_keeps speaks _ _
              | ok first =>
                  exact useNextExpected_unfilled world fun known =>
                    level heartBtInt interval field first flag flagged beats readInterval
                      expects announces readNext known
        · unfold processLogon
          rw [flagged, Call.ofExcept_ok, Call.pure_bind, Call.bind_of_ok run,
            if_pos rfl, Call.modify_bind, Call.get_bind, if_neg expects]
          apply IsTrans.trans _ _ _ welcomed
          have rest : Keeps Unfilled
              (if flag = true then processResetLogon (world.environment 0) message
              else processPlainLogon (world.environment 0) message) := by
            apply Keeps.ite
            · intro _
              exact processResetLogon_keeps turns message
            · intro _
              exact processPlainLogon_keeps turns message
          exact rest _
      · unfold processLogon
        rw [flagged, Call.ofExcept_ok, Call.pure_bind,
          Call.bind_if_snd_of_ne refused _ false]
        exact extractHeartbeatInterval_keeps speaks message session

theorem processNumbered_unfilled {msgType : Bytes}
    (checked : msgType = MsgType.Logon →
      Unfilled session (processLogon (world.environment 0) message session).2)
    (unasked : msgType = MsgType.ResendRequest →
      message.MsgSeqNum = .ok session.incomingMsgSeqNum →
        Keeps Unfilled (processResendRequest (world.environment 0) message)) :
    Unfilled session
      (processNumbered (world.environment 0) msgType message session).2 := by
  have turns := turns_unfilled world
  have marked : Keeps Unfilled (record (.accepted message)) := fun _ => .cons id rfl
  by_cases isResend : msgType = MsgType.ResendRequest
  · have notLogon : msgType ≠ MsgType.Logon := by
      rw [isResend]
      decide
    rcases validateSequenceNumbers_spec world message session with
      ⟨run, expected⟩ | ⟨fails, -⟩
    · cases read : message.MsgSeqNum with
      | error exception =>
          unfold processNumbered checkNumber
          rw [if_neg notLogon, Call.bind_of_ok run, if_pos rfl, read]
          exact Std.Refl.refl session
      | ok number =>
          rw [expected number read] at read
          rw [processNumbered_expected _ notLogon read, isResend]
          have counted : Unfilled session (session.counted message) := .cons id rfl
          exact IsTrans.trans _ _ _ counted (unasked isResend read _)
    · unfold processNumbered checkNumber
      rw [if_neg notLogon, Call.bind_if_snd_of_ne fails _ ()]
      exact validateSequenceNumbers_keeps turns message session
  · have check : Unfilled session
        (checkNumber (world.environment 0) msgType message session).2 := by
      unfold checkNumber
      split
      · next isLogon => exact checked isLogon
      · exact validateSequenceNumbers_keeps turns message session
    apply Call.related_bind check
    intro proceeds between _
    have rest : Keeps Unfilled (if proceeds = true then (do
        let msgSeqNum ← Call.ofExcept message.MsgSeqNum
        record (.accepted message)
        setIncomingMsgSeqNum (msgSeqNum + 1)
        dispatch (world.environment 0) msgType message : Action Unit)
        else pure ()) := by
      apply Keeps.ite
      · intro _
        apply (turns.toSpeaks.ofExcept message.MsgSeqNum).bind
        intro msgSeqNum
        apply marked.bind
        intro _
        apply Keeps.bind
        · exact turns.assign fun _ => ⟨⟨rfl, rfl, rfl, rfl, id⟩, rfl, rfl⟩
        · intro _
          exact dispatch_unfilled world isResend message
      · intro _
        exact Call.keeps_pure ()
    exact rest between

theorem onMessageRead_unfilled (unasked : ∀ first, ¬ FillsFrom session message first) :
    Unfilled session (onMessageRead (world.environment 0) message session).2 := by
  have turns := turns_unfilled world
  have heard : Unfilled session (session.told message) := .cons id rfl
  apply IsTrans.trans _ _ _ heard
  cases onMessageRead_reading (world.environment 0) session message with
  | refused _ same =>
      rw [same]
      exact validate_keeps turns.toSpeaks message _
  | unread _ _ _ _ same =>
      rw [same]
      exact Std.Refl.refl _
  | reset _ _ _ _ _ same =>
      rw [same]
      exact processSequenceReset_keeps turns message _
  | repeated _ _ _ _ _ same =>
      rw [same]
      exact .cons id rfl
  | numbered validates msgType typed numbered same =>
      rw [same]
      apply processNumbered_unfilled
      · intro isLogon
        rw [isLogon] at typed
        apply processLogon_unfilled
        intro heartBtInt interval field first flag flagged beats readInterval expects
          announces readNext known behind
        exact unasked first (.announced validates numbered typed flagged beats
          readInterval expects announces readNext known behind)
      · intro isResend read
        rw [isResend] at typed
        apply processResendRequest_unfilled
        intro beginSeqNo endSeqNo first last begins ends readFirst readLast
        exact unasked first (.asked ⟨validates, read⟩ numbered typed begins ends
          readFirst readLast)

end Steps

/-! ### Gap fills that the peer can accept -/

/-- The gap fills of a step are acceptable, and a ResendRequest that asks for no
number below the next one is not answered with one. -/
structure FillsAcceptably (before after : Session) (message : Message) : Prop where
  acceptable : ∀ sent ∈ handedIn (newEvents before after), sent.IsGapFill →
    sent.AcceptableFill before.outgoingMsgSeqNum
  beyond : message.MsgType = .ok MsgType.ResendRequest →
    (∀ field first, message.fields.tryGet Tag.BeginSeqNo = some field →
      readNumber field.value = .ok first → before.outgoingMsgSeqNum ≤ first) →
    ∀ sent ∈ handedIn (newEvents before after), ¬ sent.IsGapFill

theorem step_fillsAcceptably_iff (world : World) (session : Session)
    (message : Message) :
    FillsAcceptably session
        (step (world.environment 0) (.received message) session).2 message ↔
      ∀ first, FillsFrom session message first →
        first < session.outgoingMsgSeqNum ∧
          session.outgoingMsgSeqNum < 2147483648 := by
  change FillsAcceptably session
    (onMessageRead (world.environment 0) message session).2 message ↔ _
  constructor
  · intro acceptably first fillsFrom
    obtain ⟨sent, member, fills⟩ := (onMessageRead_resends world fillsFrom).exists
    exact fills.acceptable_iff.mp
      (acceptably.acceptable sent member fills.toIsGapFill)
  · intro below
    by_cases asked : ∃ first, FillsFrom session message first
    · obtain ⟨first, fillsFrom⟩ := asked
      have resends := onMessageRead_resends world fillsFrom
      constructor
      · intro sent member isGapFill
        exact (resends.unique member isGapFill).acceptable_iff.mpr
          (below first fillsFrom)
      · intro typed beyond
        have less := (below first fillsFrom).1
        cases fillsFrom with
        | asked sequence numbered otherTyped begins ends readFirst readLast =>
            exact absurd less (UInt32.not_lt.mpr (beyond _ _ begins readFirst))
        | announced validates numbered otherTyped =>
            rw [typed] at otherTyped
            cases otherTyped
    · have unfilled := onMessageRead_unfilled world fun first fillsFrom =>
        asked ⟨first, fillsFrom⟩
      constructor
      · intro sent member isGapFill
        exact absurd isGapFill (Unfilled.not_isGapFill unfilled member)
      · intro _ _ sent member
        exact Unfilled.not_isGapFill unfilled member

/-- In every run, the gap fills of a step are acceptable if and only if the
number that the session is made to resend from is below the next one, and that
one below 2^31. -/
theorem gap_fills_acceptable_iff (world : World) (inputs : List Input)
    (start : Session) :
    ∀ moment ∈ trace (world.environment 0) inputs start, ∀ message,
      moment.2 = .received message →
        (FillsAcceptably moment.1 (step (world.environment 0) moment.2 moment.1).2
            message ↔
          ∀ first, FillsFrom moment.1 message first →
            first < moment.1.outgoingMsgSeqNum ∧
              moment.1.outgoingMsgSeqNum < 2147483648) := by
  intro moment _ message received
  rw [received]
  exact step_fillsAcceptably_iff world moment.1 message

def resendRequestFrom (beginSeqNo : Bytes) (checksum : UInt32) (trailer : Bytes) :
    Message :=
  toInitiator MsgType.ResendRequest (ascii "54") (ascii "1")
    [⟨Tag.BeginSeqNo, beginSeqNo⟩, ⟨Tag.EndSeqNo, ascii "0"⟩] checksum trailer

def requestFromFifth : Message :=
  resendRequestFrom (ascii "5") 188 (ascii "188")

def requestFromFirst : Message :=
  resendRequestFrom (ascii "1") 184 (ascii "184")

def greetingInitiator : Session :=
  run (World.plain.environment 0) [.open] (create initiatorOptions 1 1)

/-- The session, whose next number is 2, fills the gap from 5 to 2. -/
theorem fills_backwards :
    greetingInitiator.outgoingMsgSeqNum = 2 ∧
      (handedIn (newEvents greetingInitiator (step (World.plain.environment 0)
        (.received requestFromFifth) greetingInitiator).2)).map
          (fun sent => (sent.MsgType, sent.MsgSeqNum,
            (sent.fields.tryGet Tag.NewSeqNo).map Field.value)) =
        [(.ok MsgType.SequenceReset, .ok 5, some (ascii "2"))] ∧
      ¬ FillsAcceptably greetingInitiator (step (World.plain.environment 0)
        (.received requestFromFifth) greetingInitiator).2 requestFromFifth := by
  refine ⟨by decide, by decide, ?_⟩
  intro acceptably
  have filled : ∃ sent ∈ handedIn (newEvents greetingInitiator
      (step (World.plain.environment 0) (.received requestFromFifth)
        greetingInitiator).2),
      sent.MsgType = .ok MsgType.SequenceReset ∧ sent.GapFillFlag = .ok true := by
    decide
  obtain ⟨sent, member, typed, gapFill⟩ := filled
  refine acceptably.beyond (by decide) ?_ sent member ⟨typed, gapFill⟩
  intro field first begins read
  cases begins
  cases read
  decide

theorem gap_fills_acceptable_iff_first :
    (handedIn (newEvents greetingInitiator (step (World.plain.environment 0)
        (.received requestFromFirst) greetingInitiator).2)).map
          (fun sent => (sent.MsgType, sent.MsgSeqNum,
            (sent.fields.tryGet Tag.NewSeqNo).map Field.value)) =
        [(.ok MsgType.SequenceReset, .ok 1, some (ascii "2"))] ∧
      FillsAcceptably greetingInitiator (step (World.plain.environment 0)
        (.received requestFromFirst) greetingInitiator).2 requestFromFirst := by
  refine ⟨by decide, ?_⟩
  refine (gap_fills_acceptable_iff World.plain [.received requestFromFirst]
    greetingInitiator (_, .received requestFromFirst) List.mem_cons_self
    requestFromFirst rfl).mpr ?_
  intro first fillsFrom
  cases fillsFrom with
  | asked sequence numbered typed begins ends readFirst readLast =>
      cases begins
      cases readFirst
      exact ⟨by decide, by decide⟩
  | announced validates numbered typed =>
      cases typed

/-! ### Gap fills before the Logon of an acceptor -/

section Accounting

variable (world : World) {logon : Message} {session after : Session}

theorem sendLogon_handing (session : Session) :
    ∃ sent, sent.MsgType = .ok MsgType.Logon ∧
      Handing session sent .standard
        (sendLogon (world.environment 0) false session) := by
  have usual := sendLogon_usual session
  obtain ⟨sent, given, handing⟩ := send_ordinary world .standard usual.resets session
  refine ⟨sent, ?_, handing⟩
  rw [given.msgType]
  cases session.options.useNextExpectedMsgSeqNum with
  | false => rfl
  | true => rfl

theorem sendTestRequest_handing (session : Session) :
    ∃ sent, sent.MsgType = .ok MsgType.TestRequest ∧
      Handing
        { session with
          nextTestRequestId := session.nextTestRequestId + 1
          expectedTestRequestId := some session.nextTestRequestId }
        sent .standard (sendTestRequest (world.environment 0) session) := by
  have ordinary := Message.ordinary_make
    (show ∀ field ∈ [Field.ofUInt32 Tag.TestReqID session.nextTestRequestId],
      field.tag ≠ Tag.MsgType by simp [Field.ofUInt32])
    (show MsgType.TestRequest ≠ MsgType.Logon by decide)
  obtain ⟨sent, given, handing⟩ := send_ordinary world .standard ordinary.resets
    { session with
      nextTestRequestId := session.nextTestRequestId + 1
      expectedTestRequestId := some session.nextTestRequestId }
  refine ⟨sent, ?_, handing⟩
  rw [given.msgType]
  exact Message.msgType_make (by simp [Field.ofUInt32])

theorem sendPostLogonTestRequest_hands (session : Session) :
    ∃ rest, Hands session
        (sendPostLogonTestRequest (world.environment 0) session).2 rest ∧
      ∀ sent ∈ rest, sent.MsgType = .ok MsgType.TestRequest := by
  unfold sendPostLogonTestRequest
  rw [Call.get_bind]
  split
  · exact ⟨[], .of_notice rfl rfl, fun sent member => by cases member⟩
  · obtain ⟨sent, typed, handing⟩ := sendTestRequest_handing world session
    refine ⟨[sent], ?_, ?_⟩
    · obtain ⟨newer, grown, same⟩ := handing.hands
      exact ⟨newer, grown, same⟩
    · intro other member
      rw [List.mem_singleton.mp member]
      exact typed

theorem warnedResend_hands (text : Bytes) (first last : UInt32) (session : Session) :
    ∃ sent, sent.FillsGap first session.outgoingMsgSeqNum ∧
      Hands session
        ((do
          record (.warning text)
          setState .resending
          performResend (world.environment 0) first last : Action Unit) session).2
        [sent] := by
  rw [record_bind]
  obtain ⟨warned, warnedEq⟩ : ∃ warned : Session, warned =
      { session with history := .warning text :: session.history } := ⟨_, rfl⟩
  have told : Hands session warned [] := by
    rw [warnedEq]
    exact .of_notice rfl rfl
  have outgoing : warned.outgoingMsgSeqNum = session.outgoingMsgSeqNum := by
    rw [warnedEq]
  rw [← warnedEq, ← outgoing]
  by_cases same : warned.state = .resending
  · rw [Call.bind_of_ok (setState_of_eq same)]
    obtain ⟨sent, fills, handing⟩ := @performResend_handing first world last warned
    exact ⟨sent, fills, told.trans handing.hands⟩
  · have entered := setState_hands .resending warned
    rw [setState_of_ne same] at entered
    rw [Call.bind_of_ok (setState_of_ne same)]
    obtain ⟨sent, fills, handing⟩ := @performResend_handing first world last
      { warned with
        state := .resending
        history := .stateChanged warned.state .resending :: warned.history }
    exact ⟨sent, fills, told.trans (entered.trans handing.hands)⟩

inductive FilledBefore (first next : UInt32) : List Message → Prop
  | filled {fill : Message} (behind : first + 1 < next)
      (fills : fill.FillsGap first next) : FilledBefore first next [fill]
  | level (level : ¬ first + 1 < next) : FilledBefore first next []

/-- An acceptor that takes a Logon sends the gap fill, its own Logon and at most
a TestRequest. -/
theorem useNextExpected_hands {first : UInt32}
    (acceptor : session.options.logonBehaviour = .acceptor)
    (passed : useNextExpected (world.environment 0) first session =
      (.ok true, after)) :
    first ≤ session.outgoingMsgSeqNum ∧ ∃ fills own rest,
      Hands session after (fills ++ own :: rest) ∧
      FilledBefore first session.outgoingMsgSeqNum fills ∧
      own.MsgType = .ok MsgType.Logon ∧
      ∀ sent ∈ rest, sent.MsgType = .ok MsgType.TestRequest := by
  unfold useNextExpected at passed
  rw [Call.get_bind] at passed
  by_cases high : session.outgoingMsgSeqNum < first
  · rw [if_pos high] at passed
    have refused := logoutWithError_ne (world.environment 0)
      (ascii "NextExpectedMsgSeqNum too " ++ ascii "high" ++ ascii ", expecting " ++
        decimal session.outgoingMsgSeqNum.toNat ++ ascii " but received " ++
          decimal first.toNat) session
    rw [passed] at refused
    exact absurd rfl refused
  · rw [if_neg high] at passed
    refine ⟨UInt32.not_lt.mp high, ?_⟩
    obtain ⟨_, filled, resent, answered⟩ := Call.bind_returns passed
    obtain ⟨fills, fillsHands, filledBefore⟩ : ∃ fills, Hands session filled fills ∧
        FilledBefore first session.outgoingMsgSeqNum fills := by
      by_cases behind : first + 1 < session.outgoingMsgSeqNum
      · rw [Call.onlyIf, if_pos behind] at resent
        obtain ⟨sent, fillsGap, hands⟩ := warnedResend_hands world
          (ascii "NextExpectedMsgSeqNum too " ++ ascii "low" ++ ascii ", expecting " ++
            decimal session.outgoingMsgSeqNum.toNat ++ ascii " but received " ++
              decimal first.toNat ++ ascii " - performing resend")
          first session.outgoingMsgSeqNum session
        rw [resent] at hands
        exact ⟨[sent], hands, .filled behind fillsGap⟩
      · rw [Call.onlyIf, if_neg behind] at resent
        cases resent
        exact ⟨[], .of_same rfl, .level behind⟩
    obtain ⟨_, greeted, greeting, tested⟩ := Call.bind_returns answered
    rw [Call.onlyIf, if_pos acceptor] at greeting
    obtain ⟨_, done, testing, finished⟩ := Call.bind_returns tested
    cases finished
    obtain ⟨own, typed, handing⟩ := sendLogon_handing world filled
    have ownHands := handing.hands
    rw [greeting] at ownHands
    obtain ⟨rest, restHands, tests⟩ := sendPostLogonTestRequest_hands world greeted
    rw [testing] at restHands
    refine ⟨fills, own, rest, ?_, filledBefore, typed, tests⟩
    exact fillsHands.trans (ownHands.trans restHands)

/-- Where the peer has not seen all numbers, the first message that goes to it is
the gap fill over those that it misses, and the next one the Logon.  Otherwise
there is no gap fill. -/
structure AccountsFor (first next : UInt32) (handed : List Message) : Prop where
  behind : first < next → ∃ fill own rest, handed = fill :: own :: rest ∧
    fill.FillsGap first next ∧ own.MsgType = .ok MsgType.Logon
  level : first = next → ∀ sent ∈ handed, ¬ sent.IsGapFill

theorem not_isGapFill_of_typed {sent : Message} {msgType : Bytes}
    (typed : sent.MsgType = .ok msgType) (other : msgType ≠ MsgType.SequenceReset) :
    ¬ sent.IsGapFill := by
  intro isGapFill
  have both := typed.symm.trans isGapFill.typed
  injection both with same
  exact other same

theorem accountsFor_iff {first next : UInt32} {fills rest : List Message}
    {own : Message} (known : first ≤ next) (filledBefore : FilledBefore first next fills)
    (typed : own.MsgType = .ok MsgType.Logon)
    (tests : ∀ sent ∈ rest, sent.MsgType = .ok MsgType.TestRequest) :
    AccountsFor first next (fills ++ own :: rest) ↔
      first.toNat + 1 ≠ next.toNat ∧ first ≠ 4294967295 := by
  have successor : first ≠ 4294967295 → (first + 1).toNat = first.toNat + 1 := by
    intro other
    have bound := first.toNat_lt
    have distinct : first.toNat ≠ 4294967295 := fun same =>
      other (UInt32.toNat_inj.mp same)
    rw [UInt32.toNat_add]
    change (first.toNat + 1) % 4294967296 = _
    omega
  have bound : first.toNat ≤ next.toNat := known
  cases filledBefore with
  | filled behind fillsGap =>
      constructor
      · intro accounts
        have notLevel : first ≠ next := fun same =>
          accounts.level same _ List.mem_cons_self fillsGap.toIsGapFill
        have less : first.toNat ≠ next.toNat := fun same =>
          notLevel (UInt32.toNat_inj.mp same)
        have notMax : first ≠ 4294967295 := by
          rintro rfl
          have top := next.toNat_lt
          change 4294967295 ≤ next.toNat at bound
          change 4294967295 ≠ next.toNat at less
          omega
        have past : (first + 1).toNat < next.toNat := behind
        rw [successor notMax] at past
        exact ⟨by omega, notMax⟩
      · rintro ⟨apart, notMax⟩
        have past : (first + 1).toNat < next.toNat := behind
        rw [successor notMax] at past
        refine ⟨fun _ => ⟨_, own, rest, rfl, fillsGap, typed⟩, ?_⟩
        rintro rfl
        omega
  | level level =>
      constructor
      · intro accounts
        have notLess : ¬ first < next := by
          intro less
          obtain ⟨fill, _, _, same, fillsGap, -⟩ := accounts.behind less
          injection same with first _
          rw [← first] at fillsGap
          exact not_isGapFill_of_typed typed (by decide) fillsGap.toIsGapFill
        have same : first.toNat = next.toNat := by
          have above : ¬ first.toNat < next.toNat := notLess
          omega
        refine ⟨by omega, ?_⟩
        rintro rfl
        apply level
        rw [← UInt32.toNat_inj.mp same]
        decide
      · rintro ⟨apart, notMax⟩
        have notPast : ¬ (first + 1).toNat < next.toNat := level
        rw [successor notMax] at notPast
        refine ⟨?_, ?_⟩
        · intro less
          have below : first.toNat < next.toNat := less
          omega
        · intro _ sent member
          rcases List.mem_cons.mp member with rfl | later
          · exact not_isGapFill_of_typed typed (by decide)
          · exact not_isGapFill_of_typed (tests sent later) (by decide)

/-- An acceptor that takes a Logon accounts for the numbers from the announced
one on if and only if the announced number is neither the last one that it has
sent nor the greatest of all. -/
theorem accepted_logon_accounts_iff {field : Field} {first : UInt32}
    (acceptor : session.options.logonBehaviour = .acceptor)
    (expects : session.options.useNextExpectedMsgSeqNum = true)
    (typed : logon.MsgType = .ok MsgType.Logon)
    (announces : logon.fields.tryGet Tag.NextExpectedMsgSeqNum = some field)
    (readNext : readNumber field.value = .ok first)
    (accepted : Event.accepted logon ∈ newEvents session
      (step (world.environment 0) (.received logon) session).2) :
    AccountsFor first session.outgoingMsgSeqNum (handedIn (newEvents session
        (step (world.environment 0) (.received logon) session).2)) ↔
      first.toNat + 1 ≠ session.outgoingMsgSeqNum.toNat ∧ first ≠ 4294967295 := by
  obtain ⟨-, -, number, between, -, processed, stepped⟩ :=
    processLogon_of_accepted typed accepted
  have returned : (processLogon (world.environment 0) logon
      (session.told logon)).1 = .ok true := by rw [processed]
  obtain ⟨⟨flag, flagged⟩, ⟨heartBtInt, interval, beats, readInterval⟩, -⟩ :=
    processLogon_accepts returned
  have run := @processLogon_expects (session.told logon) (world.environment 0) logon
    heartBtInt interval flag flagged beats readInterval expects
  rw [run, (readsNumbers (world.environment 0)).nextExpected logon field announces,
    readNext] at processed
  obtain ⟨known, fills, own, rest, hands, filledBefore, ownTyped, tests⟩ :=
    @useNextExpected_hands world ((session.told logon).welcomed interval) between
      first acceptor processed
  have heard : Hands session ((session.told logon).welcomed interval) [] :=
    .of_notice rfl rfl
  have marked : Hands between { between with
      incomingMsgSeqNum := number + 1
      history := .accepted logon :: between.history } [] := .of_notice rfl rfl
  have whole := heard.trans (hands.trans marked)
  rw [List.nil_append, List.append_nil] at whole
  rw [stepped, whole.newEvents]
  exact accountsFor_iff known filledBefore ownTyped tests

end Accounting

def resumingAcceptor : Session :=
  run (World.plain.environment 0) [.open] { announcingAcceptor with outgoingMsgSeqNum := 5 }

def expectingLogon (next : Bytes) (checksum : UInt32) (trailer : Bytes) : Message where
  fields :=
    [⟨Tag.BeginString, ascii "FIX.4.4"⟩, ⟨Tag.BodyLength, ascii "63"⟩,
      ⟨Tag.MsgType, MsgType.Logon⟩, ⟨Tag.SenderCompID, ascii "I"⟩,
      ⟨Tag.TargetCompID, ascii "A"⟩, ⟨Tag.MsgSeqNum, ascii "1"⟩,
      ⟨Tag.SendingTime, ascii "20260101-00:00:00.000"⟩,
      ⟨Tag.EncryptMethod, EncryptMethod.None⟩, ⟨Tag.HeartBtInt, ascii "30"⟩,
      ⟨Tag.NextExpectedMsgSeqNum, next⟩, ⟨Tag.CheckSum, trailer⟩]
  decodeChecksum := checksum
  decodeChecksumValid := true

def missesFourth : Message := expectingLogon (ascii "4") 127 (ascii "127")

def missesThird : Message := expectingLogon (ascii "3") 126 (ascii "126")

/-- The number 4 is missing at the peer, and the acceptor sends its Logon with the
number 5 alone. -/
theorem last_number_unaccounted :
    Event.accepted missesFourth ∈ newEvents resumingAcceptor
        (step (World.plain.environment 0) (.received missesFourth)
          resumingAcceptor).2 ∧
      resumingAcceptor.outgoingMsgSeqNum = 5 ∧
      (handedIn (newEvents resumingAcceptor (step (World.plain.environment 0)
        (.received missesFourth) resumingAcceptor).2)).map
          (fun sent => (sent.MsgType, sent.MsgSeqNum)) =
        [(.ok MsgType.Logon, .ok 5)] ∧
      ¬ AccountsFor 4 5 (handedIn (newEvents resumingAcceptor
        (step (World.plain.environment 0) (.received missesFourth)
          resumingAcceptor).2)) := by
  have single : (handedIn (newEvents resumingAcceptor (step (World.plain.environment 0)
      (.received missesFourth) resumingAcceptor).2)).length = 1 := by decide
  refine ⟨by decide, by decide, by decide, ?_⟩
  intro accounts
  obtain ⟨fill, own, rest, same, -⟩ := accounts.behind (by decide)
  rw [same] at single
  cases single

theorem accepted_logon_accounts_iff_third :
    AccountsFor 3 resumingAcceptor.outgoingMsgSeqNum (handedIn (newEvents
      resumingAcceptor (step (World.plain.environment 0) (.received missesThird)
        resumingAcceptor).2)) := by
  have announces : missesThird.fields.tryGet Tag.NextExpectedMsgSeqNum =
      some ⟨Tag.NextExpectedMsgSeqNum, ascii "3"⟩ := rfl
  have readNext : readNumber (ascii "3") = .ok 3 := rfl
  exact (@accepted_logon_accounts_iff World.plain missesThird resumingAcceptor _ 3
    rfl rfl rfl announces readNext (by decide)).mpr (by decide)

end Session

end Crocofix

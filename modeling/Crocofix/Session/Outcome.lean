/-
What each call does to the incoming side of a session.

The writer accepts or refuses a message and does not call the session back.
Every step then has one of the outcomes.
-/

import Crocofix.Session.Effect

namespace Crocofix

open Numeral

namespace Session

open Call (Keeps)

/-! ### Sending in a world without nesting -/

section Plain

variable (world : World)

/-- What `handOver` hands to the writer is its last event, or the last but one
when the writer takes it. -/
theorem handOver_plain (message : Message) (options : EncodeOptions)
    (fields : FieldCollection) (session : Session) :
    ∃ sent event newer, (∀ tag, Tag.SendingTime ≠ tag → Tag.CheckSum ≠ tag →
        sent.fields.tryGet tag = fields.tryGet tag) ∧
      (event = .written sent options ∨
        ¬ world.Accepts ∧ ∃ exception, event = .refused sent options exception) ∧
      (∀ later ∈ newer, ∃ left, later = Event.messageSent left) ∧
      (handOver (world.environment 0) message options fields session).2 =
        { session with history := newer ++ event :: session.history } := by
  obtain ⟨sent, sentEq⟩ : ∃ sent : Message, sent =
      { message with
        fields := stamped (world.timestampString session.options.timestampFormat
          session) options fields } := ⟨_, rfl⟩
  have kept : ∀ tag, Tag.SendingTime ≠ tag → Tag.CheckSum ≠ tag →
      sent.fields.tryGet tag = fields.tryGet tag := by
    intro tag notTime notChecksum
    rw [sentEq]
    exact tryGet_stamped _ options fields notTime notChecksum
  have run : handOver (world.environment 0) message options fields session =
      (world.accept sent options >>= fun left => record (.messageSent left))
        session := by
    rw [sentEq]
    rfl
  rw [run]
  unfold World.accept
  cases answer : world.refusal session sent options with
  | some exception =>
      refine ⟨sent, .refused sent options exception, [], kept,
        .inr ⟨?_, exception, rfl⟩, ?_, ?_⟩
      · intro accepts
        rw [accepts] at answer
        cases answer
      · intro later member
        cases member
      · rw [Call.bind_apply, Call.get_bind, answer]
        rfl
  | none =>
      refine ⟨sent, .written sent options,
        [.messageSent (world.encoded sent options)], kept, .inl rfl, ?_, ?_⟩
      · intro later member
        exact ⟨_, List.mem_singleton.mp member⟩
      · rw [Call.bind_apply, Call.get_bind, answer]
        rfl

theorem restartSeqNums_spec (session : Session) :
    ∃ newer, (∀ event ∈ newer, Event.isQuiet event) ∧
      restartSeqNums session =
        (.ok (), { session with
          state := .resetting
          outgoingMsgSeqNum := 1
          incomingMsgSeqNum := 1
          history := newer ++ session.history }) := by
  unfold restartSeqNums
  by_cases same : session.state = .resetting
  · refine ⟨[.outgoingSet 1], ?_, ?_⟩
    · intro event member
      rw [List.mem_singleton.mp member]
      rfl
    · rw [Call.bind_of_ok (setState_of_eq same), ← same]
      rfl
  · refine ⟨[.outgoingSet 1, .stateChanged session.state .resetting], ?_, ?_⟩
    · intro event member
      simp only [List.mem_cons, List.not_mem_nil, or_false] at member
      rcases member with rfl | rfl
      · rfl
      · rfl
    · rw [Call.bind_of_ok (setState_of_ne same)]
      rfl

/-- The message is handed over once, and nothing but its dispatch is told
afterwards. -/
theorem send_hands {message : Message} (options : EncodeOptions) {resets : Bool}
    (read : message.isResetLogon = .ok resets) (session : Session) :
    ∃ base outgoing event newer,
      Call.onlyIf resets restartSeqNums session = (.ok (), base) ∧
      (Event.Hands message event ∧
        (world.Accepts → ∃ sent, event = .written sent options)) ∧
      (∀ later ∈ newer, ∃ left, later = Event.messageSent left) ∧
      (send (world.environment 0) message options session).2 =
        { base with
          outgoingMsgSeqNum := outgoing
          history := newer ++ event :: base.history } := by
  have restarted : ∃ base, Call.onlyIf resets restartSeqNums session =
      (.ok (), base) := by
    obtain ⟨newer, -, restarted⟩ := restartSeqNums_spec session
    unfold Call.onlyIf
    split
    · exact ⟨_, restarted⟩
    · exact ⟨session, rfl⟩
  obtain ⟨base, first⟩ := restarted
  have addressedSame : ∀ tag, tag ∉ headerTags →
      (base.addressed options message.fields).tryGet tag =
        message.fields.tryGet tag := by
    intro tag absent
    simp only [headerTags, List.mem_cons, not_or] at absent
    obtain ⟨notBegin, notSender, notTarget, -⟩ := absent
    exact tryGet_addressed base options message.fields (Ne.symm notBegin)
      (Ne.symm notSender) (Ne.symm notTarget)
  have allocated : ∃ numbered outgoing,
      number options (base.addressed options message.fields) base =
        (.ok numbered, { base with outgoingMsgSeqNum := outgoing }) ∧
      ∀ tag, tag ∉ headerTags →
        numbered.tryGet tag = message.fields.tryGet tag := by
    unfold number
    split
    · refine ⟨_, base.outgoingMsgSeqNum + 1, rfl, ?_⟩
      intro tag absent
      have notNumber : Tag.MsgSeqNum ≠ tag := by
        rintro rfl
        exact absent (by decide)
      rw [FieldCollection.tryGet_put, Field.ofUInt32, if_neg notNumber]
      exact addressedSame tag absent
    · exact ⟨_, base.outgoingMsgSeqNum, rfl, addressedSame⟩
  obtain ⟨numbered, outgoing, second, numberedSame⟩ := allocated
  obtain ⟨sent, event, newer, sentSame, handed, told, last⟩ :=
    handOver_plain world message options numbered
      { base with outgoingMsgSeqNum := outgoing }
  have hands : ∀ tag, tag ∉ headerTags →
      sent.fields.tryGet tag = message.fields.tryGet tag := by
    intro tag absent
    have present := absent
    simp only [headerTags, List.mem_cons, not_or] at present
    obtain ⟨-, -, -, -, notTime, notChecksum, -⟩ := present
    rw [sentSame tag (Ne.symm notTime) (Ne.symm notChecksum)]
    exact numberedSame tag absent
  refine ⟨base, outgoing, event, newer, first, ?_, told, ?_⟩
  · rcases handed with rfl | ⟨refuses, exception, rfl⟩
    · exact ⟨hands, fun _ => ⟨sent, rfl⟩⟩
    · exact ⟨hands, fun accepts => absurd accepts refuses⟩
  · unfold send
    rw [read, Call.ofExcept_ok, Call.pure_bind, Call.bind_of_ok first,
      Call.get_bind, Call.bind_of_ok second]
    exact last

/-- Only the outgoing number and the history differ from the session in which
the message is handed over. -/
theorem send_plain {message : Message} (options : EncodeOptions) {resets : Bool}
    (read : message.isResetLogon = .ok resets) (session : Session) :
    ∃ base outgoing event newer,
      Call.onlyIf resets restartSeqNums session = (.ok (), base) ∧
      Event.Hands message event ∧
      (∀ later ∈ newer, Event.isQuiet later) ∧
      (send (world.environment 0) message options session).2 =
        { base with
          outgoingMsgSeqNum := outgoing
          history := newer ++ event :: base.history } := by
  obtain ⟨base, outgoing, event, newer, first, ⟨hands, -⟩, told, last⟩ :=
    send_hands world options read session
  refine ⟨base, outgoing, event, newer, first, hands, ?_, last⟩
  intro later member
  obtain ⟨left, rfl⟩ := told later member
  rfl

theorem send_untouched {message : Message} (options : EncodeOptions)
    (ordinary : message.isResetLogon = .ok false) (session : Session) :
    Untouched session
      (send (world.environment 0) message options session).2 := by
  obtain ⟨base, outgoing, event, newer, first, hands, quiet, last⟩ :=
    send_plain world options ordinary session
  injection first with _ same
  rw [last, ← same]
  refine ⟨⟨rfl, rfl, newer ++ [event], ?_, ?_⟩, rfl, rfl⟩
  · simp
  · intro later member
    rcases List.mem_append.mp member with new | handed
    · exact quiet later new
    · rw [List.mem_singleton.mp handed]
      exact hands.isQuiet ordinary

theorem tolerates_calm : Tolerates (world.environment 0) Calm where
  notice session _ isNotice := (untouched_of_notice session isNotice).toCalm
  bookkeeping _ _ same := same.untouched.toCalm
  entered state _ := setState_calm state
  sent _ options ordinary session :=
    (send_untouched world options ordinary.resets session).toCalm

theorem tolerates_steady : Tolerates (world.environment 0) Steady where
  notice session _ isNotice := (untouched_of_notice session isNotice).steady
  bookkeeping _ _ same := same.untouched.steady
  entered _ other := setState_steady other
  sent _ options ordinary session :=
    (send_untouched world options ordinary.resets session).steady

/-! ### Sequence numbers -/

theorem requestResend_discards {number : UInt32} {session : Session}
    (idle : session.state ≠ .resending)
    (high : session.incomingMsgSeqNum < number) :
    Discards number session (requestResend (world.environment 0) number
      { session with
        history := .discarded number session.incomingMsgSeqNum ::
          session.history }).2 := by
  obtain ⟨first, firstEq⟩ : ∃ event, event = Event.information
    (ascii "Recoverable message sequence error, expected " ++
      decimal session.incomingMsgSeqNum.toNat ++ ascii " received " ++
      decimal number.toNat ++ ascii " - initiating recovery") := ⟨_, rfl⟩
  obtain ⟨second, secondEq⟩ : ∃ event, event = Event.information
    (ascii "Requesting resend, BeginSeqNo " ++
      decimal session.incomingMsgSeqNum.toNat ++ ascii " EndSeqNo " ++
      decimal number.toNat) := ⟨_, rfl⟩
  obtain ⟨request, requestEq⟩ : ∃ message, message = Message.make true
    [⟨Tag.MsgType, MsgType.ResendRequest⟩,
      .ofUInt32 Tag.BeginSeqNo session.incomingMsgSeqNum,
      .ofUInt32 Tag.EndSeqNo number] := ⟨_, rfl⟩
  have ordinary : request.isResetLogon = .ok false := by
    rw [requestEq]
    exact (Message.ordinary_make (by simp [Field.ofUInt32]) (by decide)).resets
  have run : requestResend (world.environment 0) number
      { session with
        history := .discarded number session.incomingMsgSeqNum ::
          session.history } =
      send (world.environment 0) request .standard
        { session with
          state := .resending
          incomingResentMsgSeqNum := session.incomingMsgSeqNum
          incomingTargetMsgSeqNum := number
          history := second :: .stateChanged session.state .resending :: first ::
            .discarded number session.incomingMsgSeqNum :: session.history } := by
    have entered := setState_of_ne
      (show ({ session with
        history := first :: .discarded number session.incomingMsgSeqNum ::
          session.history } : Session).state ≠ .resending from idle)
    rw [firstEq] at entered ⊢
    rw [requestEq, secondEq]
    unfold requestResend
    rw [Call.get_bind, record_bind, Call.bind_of_ok entered]
    rfl
  obtain ⟨base, outgoing, event, newer, start, hands, quiet, last⟩ :=
    send_plain world .standard ordinary _
  rw [run, last]
  injection start with _ same
  rw [← same]
  refine .requested idle high rfl rfl rfl ⟨newer, event,
    [second, .stateChanged session.state .resending, first], rfl, ?_,
    hands.isQuiet ordinary, quiet, ?_⟩
  · rw [requestEq] at hands
    exact hands.requestsResend rfl rfl rfl
  · intro between member
    simp only [List.mem_cons, List.not_mem_nil, or_false] at member
    rcases member with rfl | rfl | rfl
    · rw [secondEq]
      rfl
    · rfl
    · rw [firstEq]
      rfl

theorem sequenceNumberIsHigh_discards {message : Message} {number : UInt32}
    {session : Session} (read : message.MsgSeqNum = .ok number)
    (high : session.incomingMsgSeqNum < number) :
    (sequenceNumberIsHigh (world.environment 0) message session).1 ≠ .ok false ∧
      Discards number session
        (sequenceNumberIsHigh (world.environment 0) message session).2 := by
  unfold sequenceNumberIsHigh
  rw [read, Call.ofExcept_ok, Call.pure_bind, Call.get_bind, if_pos high,
    record_bind]
  refine ⟨Call.bind_pure_ne _ true _ (by decide), ?_⟩
  by_cases recovering : session.state = .resending
  · rw [recover, if_pos recovering]
    exact .extended recovering high rfl
  · have discards := requestResend_discards world recovering high
    rw [recover, if_neg recovering, Call.bind_apply]
    revert discards
    generalize requestResend (world.environment 0) number _ = called
    intro discards
    rcases called with ⟨exception | _, after⟩
    · exact discards
    · exact discards

theorem sequenceNumberIsHigh_spec (message : Message) (session : Session) :
    (∃ exception, message.MsgSeqNum = .error exception ∧
      sequenceNumberIsHigh (world.environment 0) message session =
        (.error exception, session)) ∨
    (∃ number, message.MsgSeqNum = .ok number ∧
      number ≤ session.incomingMsgSeqNum ∧
      sequenceNumberIsHigh (world.environment 0) message session =
        (.ok false, session)) ∨
    (sequenceNumberIsHigh (world.environment 0) message session).1 ≠ .ok false ∧
      ∃ number, Discards number session
        (sequenceNumberIsHigh (world.environment 0) message session).2 := by
  cases read : message.MsgSeqNum with
  | error exception =>
      left
      unfold sequenceNumberIsHigh
      rw [read]
      exact ⟨exception, rfl, rfl⟩
  | ok number =>
      by_cases high : session.incomingMsgSeqNum < number
      · obtain ⟨isHigh, discards⟩ := sequenceNumberIsHigh_discards world read high
        exact .inr (.inr ⟨isHigh, number, discards⟩)
      · right
        left
        unfold sequenceNumberIsHigh
        rw [read, Call.ofExcept_ok, Call.pure_bind, Call.get_bind, if_neg high]
        exact ⟨number, rfl, UInt32.not_lt.mp high, rfl⟩

theorem sequenceNumberIsLow_spec (message : Message) (session : Session) :
    (∃ exception, message.MsgSeqNum = .error exception ∧
      sequenceNumberIsLow (world.environment 0) message session =
        (.error exception, session)) ∨
    (∃ number, message.MsgSeqNum = .ok number ∧
      session.incomingMsgSeqNum ≤ number ∧
      sequenceNumberIsLow (world.environment 0) message session =
        (.ok false, session)) ∨
    (sequenceNumberIsLow (world.environment 0) message session).1 ≠ .ok false := by
  unfold sequenceNumberIsLow
  cases read : message.MsgSeqNum with
  | error exception => exact .inl ⟨exception, rfl, rfl⟩
  | ok number =>
      rw [Call.ofExcept_ok, Call.pure_bind, Call.get_bind]
      by_cases low : number < session.incomingMsgSeqNum
      · rw [if_pos low, record_bind]
        exact .inr (.inr (Call.bind_pure_ne _ true _ (by decide)))
      · rw [if_neg low]
        exact .inr (.inl ⟨number, rfl, UInt32.not_lt.mp low, rfl⟩)

/-- A message that passes both comparisons has exactly the expected number, and
the comparisons change nothing. -/
theorem validateSequenceNumbers_spec (message : Message) (session : Session) :
    (validateSequenceNumbers (world.environment 0) message session =
        (.ok true, session) ∧
      ∀ number, message.MsgSeqNum = .ok number →
        number = session.incomingMsgSeqNum) ∨
    (validateSequenceNumbers (world.environment 0) message session).1 ≠ .ok true ∧
      (Steady session
          (validateSequenceNumbers (world.environment 0) message session).2 ∨
        ∃ number, Discards number session
          (validateSequenceNumbers (world.environment 0) message session).2) := by
  unfold validateSequenceNumbers
  rcases sequenceNumberIsHigh_spec world message session with
    ⟨exception, -, run⟩ | ⟨number, read, notHigh, run⟩ | ⟨isHigh, number, discards⟩
  · right
    rw [Call.bind_of_error run]
    exact ⟨by simp, .inl (Std.Refl.refl session)⟩
  · rw [Call.bind_of_ok run, if_neg Bool.false_ne_true]
    rcases sequenceNumberIsLow_spec world message session with
      ⟨exception, -, lowRun⟩ | ⟨again, readAgain, notLow, lowRun⟩ | isLow
    · right
      rw [Call.bind_of_error lowRun]
      exact ⟨by simp, .inl (Std.Refl.refl session)⟩
    · left
      rw [Call.bind_of_ok lowRun]
      refine ⟨rfl, ?_⟩
      intro other otherRead
      rw [read] at otherRead readAgain
      injection otherRead with sameOther
      injection readAgain with sameAgain
      rw [← sameOther]
      rw [← sameAgain] at notLow
      exact UInt32.le_antisymm notHigh notLow
    · right
      have steady := sequenceNumberIsLow_keeps (tolerates_steady world).bears.suits.speaks message
        session
      rw [Call.bind_apply]
      revert isLow steady
      generalize sequenceNumberIsLow (world.environment 0) message session = called
      intro isLow steady
      rcases called with ⟨exception | low, after⟩
      · exact ⟨by simp, .inl steady⟩
      · cases low with
        | false => exact absurd rfl isLow
        | true => exact ⟨by simp, .inl steady⟩
  · right
    rw [Call.bind_apply]
    revert isHigh discards
    generalize sequenceNumberIsHigh (world.environment 0) message session = called
    intro isHigh discards
    rcases called with ⟨exception | high, after⟩
    · exact ⟨by simp, .inr ⟨number, discards⟩⟩
    · cases high with
      | false => exact absurd rfl isHigh
      | true => exact ⟨by simp, .inr ⟨number, discards⟩⟩

theorem validateSequenceNumbers_checked {message : Message}
    (ordinary : message.isResetLogon = .ok false) (session : Session) :
    Checked message session
      (validateSequenceNumbers (world.environment 0) message session) := by
  rcases validateSequenceNumbers_spec world message session with
    ⟨run, expected⟩ | ⟨fails, steady | ⟨number, discards⟩⟩
  · rw [run]
    exact .passed (Std.Refl.refl session) fun number read =>
      .inr (.inl ⟨ordinary, expected number read⟩)
  · exact .stopped fails steady
  · exact .discarded fails session number (.refl session) discards

/-! ### Logons -/

/-- A message that resets the sequence numbers restarts them before it is
handed to the writer. -/
theorem send_restarts {message : Message} (options : EncodeOptions)
    (resets : message.isResetLogon = .ok true) (session : Session) :
    Restarts session (send (world.environment 0) message options session).2 := by
  obtain ⟨base, outgoing, event, newer, first, hands, quiet, last⟩ :=
    send_plain world options resets session
  obtain ⟨early, earlyQuiet, restarted⟩ := restartSeqNums_spec session
  rw [Call.onlyIf, if_pos rfl, restarted] at first
  injection first with _ same
  rw [last, ← same]
  refine ⟨rfl, ?_, newer ++ event :: early, ?_, ⟨event, ?_, ?_⟩, ?_⟩
  · intro _ impossible
    cases impossible
  · simp
  · simp
  · rw [hands.restarts, resets]
    rfl
  · intro received expected member
    rcases List.mem_append.mp member with late | rest
    · exact Quietly.not_discarded quiet received expected late
    · rcases List.mem_cons.mp rest with here | old
      · exact hands.not_discarded received expected here
      · exact Quietly.not_discarded earlyQuiet received expected old

theorem sendLogon_restarts (session : Session) :
    Restarts session (sendLogon (world.environment 0) true session).2 := by
  apply send_restarts
  cases expects : session.options.useNextExpectedMsgSeqNum with
  | false => rfl
  | true => rfl

theorem reset_spec (session : Session) :
    ∃ after, reset session = (.ok (), after) ∧
      after.options.useNextExpectedMsgSeqNum =
        session.options.useNextExpectedMsgSeqNum ∧
      Quietly session.history after.history := by
  obtain ⟨between, first, -⟩ := stopDefibrillator_spec session
  have calm : Calm session between := by
    have kept := stopDefibrillator_keeps (tolerates_calm World.plain).bears.suits.speaks session
    rwa [first] at kept
  obtain ⟨newer, quiet, second⟩ := restartSeqNums_spec between
  exact ⟨_, (Call.bind_of_ok first _).trans second, calm.nextExpected,
    calm.history.trans ⟨newer, rfl, quiet⟩⟩

theorem processResetLogon_checked {logon : Message}
    (resets : logon.isResetLogon = .ok true) (session : Session) :
    Checked logon session
      (processResetLogon (world.environment 0) logon session) := by
  have tolerates := tolerates_steady world
  unfold processResetLogon
  cases read : logon.MsgSeqNum with
  | error exception => exact .stopped (by simp) (Std.Refl.refl session)
  | ok msgSeqNum =>
      rw [Call.ofExcept_ok, Call.pure_bind]
      split
      · exact .stopped (by simp) (untouched_of_notice session rfl).steady
      · rw [Call.get_bind]
        split
        · next resetting =>
          have steady := sendTestRequest_keeps tolerates.bears session
          rw [Call.bind_apply]
          revert steady
          generalize sendTestRequest (world.environment 0) session = called
          intro steady
          rcases called with ⟨exception | _, after⟩
          · exact .stopped (by simp) steady
          · exact .passed steady fun _ _ => .inl ⟨resets, resetting⟩
        · rw [record_bind]
          obtain ⟨noticing, noticingEq⟩ : ∃ noticing : Session, noticing =
              { session with
                history := .information (ascii
                  "Logon message received with ResetSeqNumFlag - resetting sequence numbers")
                  :: session.history } := ⟨_, rfl⟩
          have noticed : Untouched session noticing := by
            rw [noticingEq]
            exact untouched_of_notice session rfl
          rw [← noticingEq]
          obtain ⟨after, run, expects, quietly⟩ := reset_spec noticing
          have restarts := (sendLogon_restarts world after).of_quietly
            (expects.trans noticed.nextExpected) (noticed.history.trans quietly)
          rw [Call.bind_of_ok run, Call.bind_apply]
          revert restarts
          generalize sendLogon (world.environment 0) true after = called
          intro restarts
          rcases called with ⟨exception | _, sent⟩
          · exact .restarted resets restarts
          · have steady := sendPostLogonTestRequest_keeps tolerates.bears.suits.speaks sent
            simp only
            rw [Call.bind_apply]
            revert steady
            generalize sendPostLogonTestRequest (world.environment 0) sent = asked
            intro steady
            rcases asked with ⟨exception | _, last⟩
            · exact .restarted resets (restarts.steady steady)
            · exact .restarted resets (restarts.steady steady)

theorem sendPostLogonTestRequest_checked {logon : Message} {session : Session}
    (admits : ∀ number, logon.MsgSeqNum = .ok number →
      Admits session logon number) :
    Checked logon session ((do
      sendPostLogonTestRequest (world.environment 0)
      pure true : Action Bool) session) := by
  have steady := sendPostLogonTestRequest_keeps (tolerates_steady world).bears.suits.speaks session
  rw [Call.bind_apply]
  revert steady
  generalize sendPostLogonTestRequest (world.environment 0) session = called
  intro steady
  rcases called with ⟨exception | _, after⟩
  · exact .stopped (by simp) steady
  · exact .passed steady admits

theorem sendLogon_untouched (session : Session) :
    Untouched session (sendLogon (world.environment 0) false session).2 :=
  send_untouched world .standard (sendLogon_usual session).resets session

theorem processPlainLogon_checked {logon : Message}
    (ordinary : logon.isResetLogon = .ok false) (session : Session) :
    Checked logon session
      (processPlainLogon (world.environment 0) logon session) := by
  unfold processPlainLogon
  rcases sequenceNumberIsLow_spec world logon session with
    ⟨exception, -, run⟩ | ⟨number, read, notLow, run⟩ | isLow
  · rw [Call.bind_of_error run]
    exact .stopped (by simp) (Std.Refl.refl session)
  · rw [Call.bind_of_ok run, if_neg Bool.false_ne_true, Call.get_bind]
    have untouched : Untouched session (Call.onlyIf
        (session.options.logonBehaviour = .acceptor)
        (sendLogon (world.environment 0) false) session).2 := by
      unfold Call.onlyIf
      split
      · exact sendLogon_untouched world session
      · exact .refl session
    rw [Call.bind_apply]
    revert untouched
    generalize Call.onlyIf (session.options.logonBehaviour = .acceptor)
      (sendLogon (world.environment 0) false) session = answered
    intro untouched
    rcases answered with ⟨exception | _, middle⟩
    · exact .stopped (by simp) untouched.steady
    · apply Checked.of_untouched untouched
      simp only at untouched
      rcases sequenceNumberIsHigh_spec world logon middle with
        ⟨exception, -, highRun⟩ | ⟨again, readAgain, notHigh, highRun⟩ |
          ⟨isHigh, high, discards⟩
      · simp only
        rw [Call.bind_of_error highRun]
        exact .stopped (by simp) (Std.Refl.refl middle)
      · simp only
        rw [Call.bind_of_ok highRun, if_neg Bool.false_ne_true]
        apply sendPostLogonTestRequest_checked
        intro other otherRead
        rw [read] at otherRead readAgain
        injection otherRead with sameOther
        injection readAgain with sameAgain
        rw [← sameOther]
        rw [← sameAgain] at notHigh
        rw [← untouched.incoming] at notLow
        exact .inr (.inl ⟨ordinary, UInt32.le_antisymm notHigh notLow⟩)
      · simp only
        rw [Call.bind_apply]
        revert isHigh discards
        generalize sequenceNumberIsHigh (world.environment 0) logon middle = called
        intro isHigh discards
        rcases called with ⟨exception | isTrue, after⟩
        · exact .discarded (by simp) middle high (.refl middle) discards
        · cases isTrue with
          | false => exact absurd rfl isHigh
          | true => exact .discarded (by simp) middle high (.refl middle) discards
  · have steady := sequenceNumberIsLow_keeps (tolerates_steady world).bears.suits.speaks logon session
    rw [Call.bind_apply]
    revert isLow steady
    generalize sequenceNumberIsLow (world.environment 0) logon session = called
    intro isLow steady
    rcases called with ⟨exception | low, after⟩
    · exact .stopped (by simp) steady
    · cases low with
      | false => exact absurd rfl isLow
      | true => exact .stopped (by simp) steady

theorem processNextExpected_checked {logon : Message} {session : Session}
    (expects : session.options.useNextExpectedMsgSeqNum = true)
    (msgType : logon.MsgType = .ok MsgType.Logon) :
    Checked logon session
      (processNextExpected (world.environment 0) logon session) := by
  have calm := processNextExpected_keeps (tolerates_calm world).bears.suits
    (setState_calm .resending) logon session
  revert calm
  generalize processNextExpected (world.environment 0) logon session = called
  intro calm
  rcases called with ⟨exception | passed, after⟩
  · exact .stopped (by simp) (calm.steady expects)
  · cases passed with
    | false => exact .stopped (by simp) (calm.steady expects)
    | true =>
        exact .passed (calm.steady expects) fun _ _ => .inr (.inr ⟨expects, msgType⟩)

theorem rejectAndLogout_ne (environment : Environment) (logon : Message)
    (text reason : Bytes) (session : Session) :
    (rejectAndLogout environment logon text reason session).1 ≠ .ok true := by
  unfold rejectAndLogout
  rw [record_bind, Call.bind_apply]
  generalize sendReject environment logon text (some reason) _ = called
  rcases called with ⟨exception | _, between⟩
  · simp
  · exact Call.bind_pure_ne _ false between (by decide)

theorem extractHeartbeatInterval_of_read (environment : Environment)
    {logon : Message} (session : Session) {field : Field} {interval : Int32}
    (present : logon.fields.tryGet Tag.HeartBtInt = some field)
    (value : stoi field.value = .ok interval) :
    extractHeartbeatInterval environment logon session =
      (.ok true, { session with
        options :=
          { session.options with heartbeatInterval := interval.toUInt32 } }) := by
  unfold extractHeartbeatInterval
  rw [present]
  simp only
  rw [value]
  rfl

/-- With the interval read, the rest of `process_logon` is one of its branches. -/
theorem processLogon_of_read {environment : Environment} {logon : Message}
    {session : Session} {field : Field} {interval : Int32} {flag : Bool}
    (flagged : logon.ResetSeqNumFlag = .ok flag)
    (present : logon.fields.tryGet Tag.HeartBtInt = some field)
    (value : stoi field.value = .ok interval) :
    processLogon environment logon session =
      (if session.options.useNextExpectedMsgSeqNum then
        processNextExpected environment logon
      else if flag then processResetLogon environment logon
      else processPlainLogon environment logon)
        { session with
          options :=
            { session.options with heartbeatInterval := interval.toUInt32 }
          logonReceived := true } := by
  have run := extractHeartbeatInterval_of_read environment session present value
  unfold processLogon
  rw [flagged, Call.ofExcept_ok, Call.pure_bind, Call.bind_of_ok run, if_pos rfl]
  rfl

theorem extractHeartbeatInterval_spec (environment : Environment)
    (logon : Message) (session : Session) :
    (∃ field interval, logon.fields.tryGet Tag.HeartBtInt = some field ∧
      stoi field.value = .ok interval ∧
      extractHeartbeatInterval environment logon session =
        (.ok true, { session with
          options :=
            { session.options with heartbeatInterval := interval.toUInt32 } })) ∨
      (extractHeartbeatInterval environment logon session).1 ≠ .ok true := by
  cases present : logon.fields.tryGet Tag.HeartBtInt with
  | none =>
      right
      unfold extractHeartbeatInterval
      rw [present]
      exact rejectAndLogout_ne environment logon _ _ session
  | some heartBtInt =>
      cases value : stoi heartBtInt.value with
      | ok interval =>
          left
          exact ⟨heartBtInt, interval, rfl, value,
            extractHeartbeatInterval_of_read environment session present value⟩
      | error exception =>
          right
          unfold extractHeartbeatInterval
          rw [present]
          simp only [value]
          exact rejectAndLogout_ne environment logon _ _ session

theorem processLogon_checked {logon : Message}
    (msgType : logon.MsgType = .ok MsgType.Logon) (session : Session) :
    Checked logon session (processLogon (world.environment 0) logon session) := by
  unfold processLogon
  cases flag : logon.ResetSeqNumFlag with
  | error exception => exact .stopped (by simp) (Std.Refl.refl session)
  | ok resetSeqNumFlag =>
      rw [Call.ofExcept_ok, Call.pure_bind]
      rcases extractHeartbeatInterval_spec (world.environment 0) logon session with
        ⟨field, interval, -, -, run⟩ | refused
      · rw [Call.bind_of_ok run, if_pos rfl, Call.modify_bind, Call.get_bind]
        have remembered : Untouched session
            { session with
              options :=
                { session.options with heartbeatInterval := interval.toUInt32 }
              logonReceived := true } :=
          Bookkeeping.untouched ⟨rfl, rfl, rfl, rfl, rfl, rfl, rfl⟩
        apply Checked.of_untouched remembered
        split
        · next expects => exact processNextExpected_checked world expects msgType
        · have resets : logon.isResetLogon = .ok resetSeqNumFlag := by
            unfold Message.isResetLogon
            rw [msgType]
            exact flag
          cases resetSeqNumFlag with
          | true => exact processResetLogon_checked world resets _
          | false => exact processPlainLogon_checked world resets _
      · have steady := extractHeartbeatInterval_keeps (tolerates_steady world).bears.suits.speaks logon
          session
        rw [Call.bind_apply]
        revert refused steady
        generalize extractHeartbeatInterval (world.environment 0) logon session =
          called
        intro refused steady
        rcases called with ⟨exception | extracted, after⟩
        · exact .stopped (by simp) steady
        · cases extracted with
          | false => exact .stopped (by simp) steady
          | true => exact absurd rfl refused

/-! ### Logons that are accepted -/

theorem logoutWithError_ne (environment : Environment) (text : Bytes)
    (session : Session) :
    (logoutWithError environment text session).1 ≠ .ok true := by
  unfold logoutWithError
  rw [record_bind]
  exact Call.bind_pure_ne _ false _ (by decide)

theorem processNextExpected_accepts {environment : Environment} {logon : Message}
    {session : Session}
    (passed : (processNextExpected environment logon session).1 = .ok true) :
    ∃ field parsed, logon.fields.tryGet Tag.NextExpectedMsgSeqNum = some field ∧
      stoi field.value = .ok parsed ∧
      parsed.toUInt32 ≤ session.outgoingMsgSeqNum := by
  unfold processNextExpected at passed
  cases present : logon.fields.tryGet Tag.NextExpectedMsgSeqNum with
  | none =>
      rw [present] at passed
      exact absurd passed (logoutWithError_ne environment _ session)
  | some field =>
      rw [present] at passed
      simp only at passed
      cases value : stoi field.value with
      | error exception =>
          rw [value] at passed
          exact absurd passed (logoutWithError_ne environment _ session)
      | ok parsed =>
          rw [value] at passed
          simp only [Call.get_bind] at passed
          by_cases high : session.outgoingMsgSeqNum < parsed.toUInt32
          · rw [if_pos high] at passed
            exact absurd passed (logoutWithError_ne environment _ session)
          · exact ⟨field, parsed, rfl, value, UInt32.not_lt.mp high⟩

theorem processLogon_accepts {environment : Environment} {logon : Message}
    {session : Session}
    (passed : (processLogon environment logon session).1 = .ok true) :
    (∃ flag, logon.ResetSeqNumFlag = .ok flag) ∧
    (∃ field interval, logon.fields.tryGet Tag.HeartBtInt = some field ∧
      stoi field.value = .ok interval) ∧
    (session.options.useNextExpectedMsgSeqNum = true →
      ∃ field parsed, logon.fields.tryGet Tag.NextExpectedMsgSeqNum = some field ∧
        stoi field.value = .ok parsed ∧
        parsed.toUInt32 ≤ session.outgoingMsgSeqNum) := by
  unfold processLogon at passed
  cases flag : logon.ResetSeqNumFlag with
  | error exception =>
      rw [flag] at passed
      cases passed
  | ok resetSeqNumFlag =>
      rw [flag, Call.ofExcept_ok, Call.pure_bind] at passed
      refine ⟨⟨resetSeqNumFlag, rfl⟩, ?_⟩
      rcases extractHeartbeatInterval_spec environment logon session with
        ⟨field, interval, present, value, run⟩ | refused
      · refine ⟨⟨field, interval, present, value⟩, ?_⟩
        intro expects
        rw [Call.bind_of_ok run, if_pos rfl, Call.modify_bind, Call.get_bind,
          if_pos expects] at passed
        have accepted := processNextExpected_accepts passed
        exact accepted
      · exact absurd passed (Call.bind_if_ne refused _)

/-! ### Steps -/

theorem processGapFill_outcome (input : Input) (sequenceReset : Message)
    {number : UInt32} {session : Session}
    (greater : session.incomingMsgSeqNum < number) :
    Outcome input session
      (processGapFill (world.environment 0) sequenceReset number session).2 := by
  have tolerates := tolerates_steady world
  unfold processGapFill
  rcases validateSequenceNumbers_spec world sequenceReset session with
    ⟨run, -⟩ | ⟨fails, other⟩
  · rw [Call.bind_of_ok run, if_pos rfl, Call.get_bind]
    by_cases performing :
      if session.options.useNextExpectedMsgSeqNum then session.state = .loggingOn
      else session.state = .resending
    · simp only [if_pos performing]
      exact .filled _ number (untouched_of_notice session rfl).steady greater
        (completeResend_keeps tolerates.bears.suits.speaks _)
    · simp only [if_neg performing]
      exact .steady (reject_keeps tolerates.bears.suits.speaks sequenceReset _ _ session)
  · have outcome : Outcome input session
        (validateSequenceNumbers (world.environment 0) sequenceReset session).2 := by
      rcases other with steady | ⟨high, discards⟩
      · exact .steady steady
      · exact .discarded session high (.refl session) discards
    rw [Call.bind_apply]
    revert fails outcome
    generalize validateSequenceNumbers (world.environment 0) sequenceReset session =
      called
    intro fails outcome
    rcases called with ⟨exception | valid, after⟩
    · exact outcome
    · cases valid with
      | false => exact outcome
      | true => exact absurd rfl fails

theorem processSequenceReset_outcome (input : Input) (sequenceReset : Message)
    (session : Session) :
    Outcome input session
      (processSequenceReset (world.environment 0) sequenceReset session).2 := by
  have tolerates := tolerates_steady world
  unfold processSequenceReset
  cases sequenceReset.fields.tryGet Tag.NewSeqNo with
  | none => exact .steady (reject_keeps tolerates.bears.suits.speaks sequenceReset _ _ session)
  | some field =>
      simp only
      cases sequenceReset.GapFillFlag with
      | error exception => exact .steady (Std.Refl.refl session)
      | ok gapFill =>
          rw [Call.ofExcept_ok, Call.pure_bind]
          cases stoi field.value with
          | error exception =>
              exact .steady (reject_keeps tolerates.bears.suits.speaks sequenceReset _ _ session)
          | ok parsed =>
              simp only
              rw [Call.get_bind]
              by_cases notGreater : parsed.toUInt32 ≤ session.incomingMsgSeqNum
              · rw [if_pos notGreater]
                exact .steady (reject_keeps tolerates.bears.suits.speaks sequenceReset _ _ session)
              · rw [if_neg notGreater]
                cases gapFill with
                | true =>
                    rw [if_pos rfl]
                    exact processGapFill_outcome world input sequenceReset
                      (UInt32.not_le.mp notGreater)
                | false =>
                    rw [if_neg Bool.false_ne_true, Call.modify_bind, record_bind]
                    have first : Steady session
                        { session with
                          incomingResentMsgSeqNum := parsed.toUInt32 } :=
                      ⟨⟨rfl, rfl, .refl session.history⟩, fun _ => id⟩
                    exact .steady ((first.trans
                      (untouched_of_notice _ rfl).steady).trans
                        (completeResend_keeps tolerates.bears.suits.speaks _))

theorem Checked.outcome {message : Message} {before after : Session}
    {result : Except Exception Bool}
    (checked : Checked message before (result, after)) (fails : result ≠ .ok true) :
    Outcome (.received message) before after := by
  cases checked with
  | stopped _ steady => exact .steady steady
  | discarded _ middle number untouched discards =>
      exact .discarded middle number untouched discards
  | restarted resets restarts =>
      refine .restarted ?_ restarts
      rintro other ⟨⟩
      exact resets
  | passed => exact absurd rfl fails

theorem checkNumber_checked {message : Message} {msgType : Bytes}
    (typed : message.MsgType = .ok msgType) (session : Session) :
    Checked message session
      (checkNumber (world.environment 0) msgType message session) := by
  unfold checkNumber
  split
  · next logon =>
      rw [logon] at typed
      exact processLogon_checked world typed session
  · next other =>
      apply validateSequenceNumbers_checked
      unfold Message.isResetLogon
      rw [typed]
      exact if_neg other

theorem expects_of_checkNumber {message : Message} {msgType : Bytes}
    {number : UInt32} {session : Session}
    (typed : message.MsgType = .ok msgType)
    (passed : (checkNumber (world.environment 0) msgType message session).1 =
      .ok true) (admits : Admits session message number) :
    message.isResetLogon = .ok true ∧
        (session.options.useNextExpectedMsgSeqNum = false →
          session.state = .resetting) ∨
      message.isResetLogon = .ok false ∧
        (message.MsgType = .ok MsgType.Logon →
          session.AcceptsLogon message number) ∧
        (message.MsgType ≠ .ok MsgType.Logon →
          number = session.incomingMsgSeqNum) := by
  unfold checkNumber at passed
  by_cases isLogon : msgType = MsgType.Logon
  · rw [if_pos isLogon] at passed
    rw [isLogon] at typed
    obtain ⟨⟨flag, read⟩, heartBtInt, nextExpected⟩ := processLogon_accepts passed
    have resets : message.isResetLogon = .ok flag := by
      unfold Message.isResetLogon
      rw [typed]
      exact read
    unfold Admits at admits
    rw [resets] at admits ⊢
    cases flag with
    | true =>
        refine .inl ⟨rfl, ?_⟩
        intro off
        rcases admits with ⟨-, resetting⟩ | ⟨impossible, -⟩ | ⟨expects, -⟩
        · exact resetting
        · cases impossible
        · rw [off] at expects
          cases expects
    | false =>
        refine .inr ⟨rfl, ?_, fun other => absurd typed other⟩
        intro _
        refine ⟨heartBtInt, ?_, nextExpected⟩
        intro off
        rcases admits with ⟨impossible, -⟩ | ⟨-, same⟩ | ⟨expects, -⟩
        · cases impossible
        · exact same
        · rw [off] at expects
          cases expects
  · have resets : message.isResetLogon = .ok false := by
      unfold Message.isResetLogon
      rw [typed]
      exact if_neg isLogon
    have notLogon : message.MsgType ≠ .ok MsgType.Logon := by
      rw [typed]
      intro same
      injection same with equal
      exact isLogon equal
    refine .inr ⟨resets, fun isLogon => absurd isLogon notLogon, ?_⟩
    intro _
    rcases admits with ⟨reset, -⟩ | ⟨-, same⟩ | ⟨-, logon⟩
    · rw [resets] at reset
      cases reset
    · exact same
    · exact absurd logon notLogon

theorem processNumbered_outcome {message : Message} {msgType : Bytes}
    {session : Session} (typed : message.MsgType = .ok msgType)
    (validates : session.Validates message) (numbered : IsNumbered message) :
    Outcome (.received message) session
      (processNumbered (world.environment 0) msgType message session).2 := by
  have tolerates := tolerates_steady world
  have checked := checkNumber_checked world typed session
  have expects (number : UInt32) := @expects_of_checkNumber world message msgType
    number session typed
  unfold processNumbered
  rw [Call.bind_apply]
  revert checked expects
  generalize checkNumber (world.environment 0) msgType message session = called
  intro checked expects
  rcases called with ⟨exception | proceeds, middle⟩
  · exact checked.outcome (by simp)
  cases proceeds with
  | false => exact checked.outcome (by simp)
  | true =>
      simp only [if_true]
      cases read : message.MsgSeqNum with
      | error exception =>
          cases checked with
          | stopped fails _ => exact absurd rfl fails
          | discarded fails _ _ _ _ => exact absurd rfl fails
          | restarted resets restarts =>
              refine .restarted ?_ restarts
              rintro other ⟨⟩
              exact resets
          | passed steady _ => exact .steady steady
      | ok number =>
          have dispatched := dispatch_keeps tolerates.bears.suits tolerates.loggedOn msgType message
            { middle with
              incomingMsgSeqNum := number + 1
              history := .accepted message :: middle.history }
          rw [Call.ofExcept_ok, Call.pure_bind, record_bind]
          cases checked with
          | stopped fails _ => exact absurd rfl fails
          | discarded fails _ _ _ _ => exact absurd rfl fails
          | restarted resets restarts =>
              refine .restarted ?_ ((restarts.accepting message number).steady dispatched)
              rintro other ⟨⟩
              exact resets
          | passed steady admits =>
              exact .accepted message number middle rfl
                ⟨validates, read, numbered, expects number rfl (admits number read)⟩
                steady dispatched

theorem onMessageRead_outcome (message : Message) (session : Session) :
    Outcome (.received message) session
      (onMessageRead (world.environment 0) message session).2 := by
  obtain ⟨told, toldEq⟩ : ∃ told : Session, told =
    { session with history := .messageReceived message :: session.history } :=
      ⟨_, rfl⟩
  have isNotice : (Event.messageReceived message).isNotice := rfl
  apply Outcome.of_notice isNotice
  unfold onMessageRead
  rw [record_bind, ← toldEq]
  rcases validate_decides (world.environment 0) message told with
    ⟨validates, run⟩ | ⟨-, stopped⟩
  · rw [Call.bind_of_ok run, if_pos rfl]
    cases typed : message.MsgType with
    | error exception => exact .steady (Std.Refl.refl told)
    | ok msgType =>
        rw [Call.ofExcept_ok, Call.pure_bind]
        cases repeated : message.PossDupFlag with
        | error exception => exact .steady (Std.Refl.refl told)
        | ok possDupFlag =>
            rw [Call.ofExcept_ok, Call.pure_bind]
            split
            · exact processSequenceReset_outcome world _ message told
            · next notReset =>
              have admin : message.isAdmin =
                  .ok (Message.adminTypes.contains msgType) := by
                unfold Message.isAdmin
                rw [typed]
                rfl
              rw [admin, Call.ofExcept_ok, Call.pure_bind]
              split
              · exact .steady (untouched_of_notice told rfl).steady
              · next notRepeated =>
                exact processNumbered_outcome world typed validates
                  ⟨msgType, possDupFlag, typed, repeated, notReset, notRepeated⟩
  · have steady := validate_keeps (tolerates_steady world).bears.suits.speaks message told
    rw [Call.bind_apply]
    revert stopped steady
    generalize validate (world.environment 0) message told = called
    intro stopped steady
    rcases called with ⟨exception | valid, after⟩
    · exact .steady steady
    · cases valid with
      | false => exact .steady steady
      | true => exact absurd rfl stopped

theorem step_outcome (input : Input) (session : Session) :
    Outcome input session (step (world.environment 0) input session).2 := by
  have tolerates := tolerates_steady world
  cases input with
  | «open» => exact .steady (open_keeps tolerates.bears.suits.speaks session)
  | close => exact .steady (close_keeps tolerates.bears.suits.speaks session)
  | received message => exact onMessageRead_outcome world message session
  | heartbeatTimer => exact .steady (defibrillate_keeps tolerates.bears.suits.speaks session)
  | testRequestTimer => exact .steady (testRequestTimer_keeps tolerates.bears.suits.speaks session)
  | send message options =>
      cases read : message.isResetLogon with
      | error exception =>
          have run : send (world.environment 0) message options session =
              (.error exception, session) := by
            unfold send
            rw [read]
            rfl
          have same : (step (world.environment 0) (.send message options) session).2 =
              session := congrArg Prod.snd run
          rw [same]
          exact .steady (Std.Refl.refl session)
      | ok resets =>
          cases resets with
          | false => exact .steady (send_untouched world options read session).steady
          | true =>
              refine .restarted ?_ (send_restarts world options read session)
              rintro other ⟨⟩
  | closed => exact .steady (setState_steady (by decide) session)

end Plain

end Session

end Crocofix

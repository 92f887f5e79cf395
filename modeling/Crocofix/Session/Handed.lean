/-
The messages that a session hands to its writer, one by one.

`send` gives a message the header and the next number and hands it over.  The
writer takes it, or refuses it and the call throws.
-/

import Crocofix.Session.Numerals
import Crocofix.Session.Receipt

namespace Crocofix

open Numeral

/-- The message that the writer was handed, whether it took it or not. -/
def Event.handed : Event → Option Message
  | .written message _ | .refused message _ _ => some message
  | _ => none

def handedIn (events : List Event) : List Message :=
  events.reverse.filterMap Event.handed

theorem handedIn_append (later earlier : List Event) :
    handedIn (later ++ earlier) = handedIn earlier ++ handedIn later := by
  unfold handedIn
  rw [List.reverse_append, List.filterMap_append]

theorem mem_handedIn {events : List Event} {message : Message} :
    message ∈ handedIn events ↔ ∃ event ∈ events, event.handed = some message := by
  unfold handedIn
  rw [List.mem_filterMap]
  simp only [List.mem_reverse]

namespace Session

open Call (Keeps)

/-- The message that is handed over for a message, from the session in which it
is numbered. -/
structure Given (session : Session) (options : EncodeOptions)
    (message sent : Message) : Prop where
  kept : ∀ tag, tag ∉ headerTags →
    sent.fields.tryGet tag = message.fields.tryGet tag
  number : sent.fields.tryGet Tag.MsgSeqNum =
    if options.setMsgSeqNum then
      (message.fields.tryGet Tag.MsgSeqNum).map fun _ =>
        Field.ofUInt32 Tag.MsgSeqNum session.outgoingMsgSeqNum
    else message.fields.tryGet Tag.MsgSeqNum

theorem Given.msgType {session : Session} {options : EncodeOptions}
    {message sent : Message} (given : Given session options message sent) :
    sent.MsgType = message.MsgType := by
  simp only [Message.MsgType, Message.requireField,
    given.kept Tag.MsgType (by decide)]

def allotted (session : Session) (options : EncodeOptions) : Session :=
  { session with
    outgoingMsgSeqNum :=
      if options.setMsgSeqNum then session.outgoingMsgSeqNum + 1
      else session.outgoingMsgSeqNum }

inductive Handing (session : Session) (sent : Message) (options : EncodeOptions) :
    Except Exception Unit × Session → Prop
  | taken (left : Message) : Handing session sent options
      (.ok (), { session.allotted options with
        history := .messageSent left :: .written sent options :: session.history })
  | refused (exception : Exception) : Handing session sent options
      (.error exception, { session.allotted options with
        history := .refused sent options exception :: session.history })

section Sending

variable (world : World)

theorem handOver_handing (message : Message) (options : EncodeOptions)
    (fields : FieldCollection) (session : Session) :
    ∃ timestamp, let sent := { message with fields := stamped timestamp options fields }
      (∃ left, handOver (world.environment 0) message options fields session =
        (.ok (), { session with
          history := .messageSent left :: .written sent options ::
            session.history })) ∨
      ∃ exception, handOver (world.environment 0) message options fields session =
        (.error exception, { session with
          history := .refused sent options exception :: session.history }) := by
  obtain ⟨timestamp, timestampEq⟩ : ∃ timestamp, timestamp =
      world.timestampString session.options.timestampFormat session := ⟨_, rfl⟩
  refine ⟨timestamp, ?_⟩
  have run : handOver (world.environment 0) message options fields session =
      (world.accept { message with fields := stamped timestamp options fields }
        options >>= fun left => record (.messageSent left)) session := by
    rw [timestampEq]
    rfl
  simp only
  rw [run]
  unfold World.accept
  rw [Call.bind_apply, Call.get_bind]
  cases world.refusal session
      { message with fields := stamped timestamp options fields } options with
  | some exception => exact .inr ⟨exception, rfl⟩
  | none => exact .inl ⟨_, rfl⟩

/-- A message is handed over from the session itself, or from the session that
has restarted its numbering. -/
theorem send_handing {message : Message} (options : EncodeOptions) {resets : Bool}
    (read : message.isResetLogon = .ok resets) (session : Session) :
    ∃ base sent, Call.onlyIf resets restartSeqNums session = (.ok (), base) ∧
      Given base options message sent ∧
      Handing base sent options
        (send (world.environment 0) message options session) := by
  have restarted : ∃ base, Call.onlyIf resets restartSeqNums session =
      (.ok (), base) := by
    obtain ⟨newer, -, restarted⟩ := restartSeqNums_spec session
    unfold Call.onlyIf
    split
    · exact ⟨_, restarted⟩
    · exact ⟨session, rfl⟩
  obtain ⟨base, first⟩ := restarted
  obtain ⟨numbered, second, third⟩ : ∃ numbered,
      number options (base.addressed options message.fields) base =
        (.ok numbered, base.allotted options) ∧
      numbered = if options.setMsgSeqNum then
          (base.addressed options message.fields).put
            (Field.ofUInt32 Tag.MsgSeqNum base.outgoingMsgSeqNum)
        else base.addressed options message.fields := by
    unfold number allotted
    cases options.setMsgSeqNum with
    | true => exact ⟨_, rfl, rfl⟩
    | false => exact ⟨_, rfl, rfl⟩
  obtain ⟨timestamp, handed⟩ := handOver_handing world message options numbered
    (base.allotted options)
  have run : send (world.environment 0) message options session =
      handOver (world.environment 0) message options numbered
        (base.allotted options) := by
    unfold send
    rw [read, Call.ofExcept_ok, Call.pure_bind, Call.bind_of_ok first,
      Call.get_bind, Call.bind_of_ok second]
  refine ⟨base, { message with fields := stamped timestamp options numbered }, first,
    ⟨?_, ?_⟩, ?_⟩
  · intro tag absent
    simp only [headerTags, List.mem_cons, not_or] at absent
    obtain ⟨notBegin, notSender, notTarget, notNumber, notTime, notChecksum, -⟩ :=
      absent
    have same : numbered.tryGet tag =
        (base.addressed options message.fields).tryGet tag := by
      rw [third]
      split
      · rw [FieldCollection.tryGet_put, Field.ofUInt32, if_neg (Ne.symm notNumber)]
      · rfl
    rw [tryGet_stamped _ _ _ (Ne.symm notTime) (Ne.symm notChecksum), same,
      tryGet_addressed _ _ _ (Ne.symm notBegin) (Ne.symm notSender)
        (Ne.symm notTarget)]
  · have place := tryGet_addressed base options message.fields
      (show Tag.BeginString ≠ Tag.MsgSeqNum by decide) (by decide) (by decide)
    have own : (Field.ofUInt32 Tag.MsgSeqNum base.outgoingMsgSeqNum).tag =
        Tag.MsgSeqNum := rfl
    rw [tryGet_stamped _ _ _ (by decide) (by decide), third]
    split
    · rw [FieldCollection.tryGet_put, if_pos own, place]
    · exact place
  · rw [run]
    rcases handed with ⟨left, taken⟩ | ⟨exception, refused⟩
    · rw [taken]
      exact .taken left
    · rw [refused]
      exact .refused exception

theorem send_ordinary {message : Message} (options : EncodeOptions)
    (ordinary : message.isResetLogon = .ok false) (session : Session) :
    ∃ sent, Given session options message sent ∧
      Handing session sent options
        (send (world.environment 0) message options session) := by
  obtain ⟨base, sent, first, given, handing⟩ :=
    send_handing world options ordinary session
  injection first with _ same
  rw [← same] at given handing
  exact ⟨sent, given, handing⟩

end Sending

/-! ### What a call hands over -/

/-- The messages that are handed over on the way from one session to another. -/
def Hands (before after : Session) (messages : List Message) : Prop :=
  ∃ newer, after.history = newer ++ before.history ∧ handedIn newer = messages

theorem Hands.of_same {before after : Session}
    (same : after.history = before.history) : Hands before after [] :=
  ⟨[], same, rfl⟩

theorem Hands.of_notice {before after : Session} {event : Event}
    (isNotice : event.handed = none)
    (grown : after.history = event :: before.history) : Hands before after [] := by
  refine ⟨[event], grown, ?_⟩
  unfold handedIn
  rw [List.reverse_singleton, List.filterMap_cons, isNotice]
  rfl

theorem Hands.trans {first second third : Session} {early late : List Message}
    (started : Hands first second early) (ended : Hands second third late) :
    Hands first third (early ++ late) := by
  obtain ⟨older, olderEq, rfl⟩ := started
  obtain ⟨newer, newerEq, rfl⟩ := ended
  refine ⟨newer ++ older, ?_, handedIn_append newer older⟩
  rw [newerEq, olderEq, List.append_assoc]

theorem Hands.newEvents {before after : Session} {messages : List Message}
    (hands : Hands before after messages) :
    handedIn (newEvents before after) = messages := by
  obtain ⟨newer, grown, same⟩ := hands
  rw [newEvents_eq grown, same]

theorem Handing.hands {session : Session} {sent : Message} {options : EncodeOptions}
    {outcome : Except Exception Unit × Session}
    (handing : Handing session sent options outcome) :
    Hands session outcome.2 [sent] := by
  cases handing with
  | taken left => exact ⟨[.messageSent left, .written sent options], rfl, rfl⟩
  | refused exception => exact ⟨[.refused sent options exception], rfl, rfl⟩

theorem Handing.after {session : Session} {sent : Message} {options : EncodeOptions}
    {outcome : Except Exception Unit × Session}
    (handing : Handing session sent options outcome) :
    outcome.2 = { session.allotted options with history := outcome.2.history } := by
  cases handing with
  | taken left => rfl
  | refused exception => rfl

theorem setState_hands (state : SessionState) (session : Session) :
    Hands session (setState state session).2 [] := by
  by_cases same : session.state = state
  · rw [setState_of_eq same]
    exact .of_same rfl
  · rw [setState_of_ne same]
    exact .of_notice rfl rfl

theorem Hands.bind {α β : Type} {call : Action α} {rest : α → Action β}
    {start session : Session} {messages : List Message}
    (hands : Hands start (call session).2 messages)
    (grows : ∀ value, Keeps (Adds fun _ => True) (rest value)) :
    ∃ more, Hands start ((call >>= rest) session).2 (messages ++ more) := by
  rw [Call.bind_apply]
  revert hands
  generalize call session = called
  intro hands
  rcases called with ⟨exception | value, after⟩
  · refine ⟨[], ?_⟩
    rw [List.append_nil]
    exact hands
  · obtain ⟨newer, grown, -⟩ := grows value after
    exact ⟨handedIn newer, hands.trans ⟨newer, grown, rfl⟩⟩

theorem speaks_grows (world : World) :
    Speaks (world.environment 0) (Adds fun _ => True) :=
  (carries_adds (fun _ _ => trivial) world).shifts.toSuits.speaks

/-! ### Logons that are accepted -/

section Accepted

variable {world : World} {session : Session} {logon : Message}

theorem adds_other (message : Message) :
    Carries (world.environment 0) (Adds fun event => event ≠ .accepted message) := by
  apply carries_adds
  intro event ordinary
  cases event with
  | accepted other => cases ordinary
  | _ =>
      intro impossible
      cases impossible

theorem processLogon_of_accepted (typed : logon.MsgType = .ok MsgType.Logon)
    (member : Event.accepted logon ∈ newEvents session
      (step (world.environment 0) (.received logon) session).2) :
    session.Validates logon ∧ IsNumbered logon ∧ ∃ number between,
      logon.MsgSeqNum = .ok number ∧
      processLogon (world.environment 0) logon (session.told logon) =
        (.ok true, between) ∧
      step (world.environment 0) (.received logon) session =
        (.ok (), { between with
          incomingMsgSeqNum := number + 1
          history := .accepted logon :: between.history }) := by
  have heard : Adds (fun event => event ≠ .accepted logon) session
      (session.told logon) := .cons (by simp) rfl
  have absurdly {conclusion : Prop} (adds : Adds (fun event => event ≠ .accepted logon)
      (session.told logon)
      (onMessageRead (world.environment 0) logon session).2) : conclusion :=
    absurd rfl (newEvents_adds (IsTrans.trans _ _ _ heard adds) _ member)
  have turns := (@adds_other world logon).shifts.turns
  change _ ∧ _ ∧ ∃ number between, _ ∧ _ ∧
    onMessageRead (world.environment 0) logon session = _
  cases onMessageRead_reading (world.environment 0) session logon with
  | refused _ same =>
      apply absurdly
      rw [same]
      exact validate_keeps turns.toSpeaks logon _
  | unread _ _ _ _ same =>
      apply absurdly
      rw [same]
      exact Std.Refl.refl _
  | reset _ otherTyped _ _ _ _ =>
      rw [typed] at otherTyped
      cases otherTyped
  | repeated _ _ _ _ _ same =>
      apply absurdly
      rw [same]
      exact .cons (by simp) rfl
  | numbered validates msgType otherTyped numbered same =>
      rw [typed] at otherTyped
      cases otherTyped
      refine ⟨validates, numbered, ?_⟩
      have run : processNumbered (world.environment 0) MsgType.Logon logon
          (session.told logon) = (do
            if ← processLogon (world.environment 0) logon then
              let msgSeqNum ← Call.ofExcept logon.MsgSeqNum
              record (.accepted logon)
              setIncomingMsgSeqNum (msgSeqNum + 1)
              dispatch (world.environment 0) MsgType.Logon logon : Action Unit)
          (session.told logon) := by
        unfold processNumbered checkNumber
        rw [if_pos rfl]
      have kept := processLogon_keeps (@adds_other world logon).shifts logon
        (session.told logon)
      rw [same, run] at absurdly ⊢
      cases result : processLogon (world.environment 0) logon (session.told logon) with
      | mk outcome between =>
          rw [result] at kept
          rw [Call.bind_apply, result] at absurdly ⊢
          cases outcome with
          | error exception => exact absurdly kept
          | ok passed =>
              cases passed with
              | false => exact absurdly kept
              | true =>
                  cases read : logon.MsgSeqNum with
                  | error exception =>
                      rw [read] at absurdly
                      exact absurdly kept
                  | ok number => exact ⟨number, between, rfl, rfl, rfl⟩

end Accepted

end Session

end Crocofix

/-
The TestRequests of a session and the answers of its peer.

The session remembers the id of the TestRequest that it sent last, and the peer
answers them in the order in which they were sent.  A Heartbeat is refused when
the one that it answers has been followed by another.
-/

import Crocofix.Session.LoggedOn

namespace Crocofix

open Numeral

def Event.asks : Event → Option Bytes
  | .written message _ =>
      if message.MsgType = .ok MsgType.TestRequest then
        (message.fields.tryGet Tag.TestReqID).map Field.value
      else none
  | _ => none

def Message.answers (message : Message) : Option Bytes :=
  if message.MsgType = .ok MsgType.Heartbeat then
    (message.fields.tryGet Tag.TestReqID).map Field.value
  else none

theorem Message.answers_eq_some_iff (message : Message) (id : Bytes) :
    message.answers = some id ↔ message.MsgType = .ok MsgType.Heartbeat ∧
      ∃ testReqID, message.fields.tryGet Tag.TestReqID = some testReqID ∧
        testReqID.value = id := by
  unfold Message.answers
  split
  case isTrue typed => simp [typed]
  case isFalse other => simp [other]

theorem Event.asks_eq_none {event : Event}
    (untested : ¬ event.Carries MsgType.TestRequest) : event.asks = none := by
  cases event with
  | written message options => exact if_neg untested
  | _ => rfl

theorem Event.asks_of_isRemark {event : Event} (isRemark : event.isRemark) :
    event.asks = none := by
  cases event with
  | written message options => cases isRemark
  | _ => rfl

namespace Session

open Call (Keeps)

def asked (before after : Session) : List Bytes :=
  (newEvents before after).filterMap Event.asks

/-- The id that the answer to the latest TestRequest is to have. -/
def awaited (session : Session) : Option Bytes :=
  session.expectedTestRequestId.map fun expected => decimal expected.toNat

/-! ### What is sent and what is expected -/

structure Asks (before after : Session) : Prop where
  grown : ∃ newer, after.history = newer ++ before.history ∧
    after.awaited = (newer.filterMap Event.asks).head?.or before.awaited

instance : Std.Refl Asks where
  refl _ := ⟨⟨[], rfl, rfl⟩⟩

instance : IsTrans Session Asks where
  trans _ _ _ first second := by
    obtain ⟨older, before, expected⟩ := first.grown
    obtain ⟨newer, after, expects⟩ := second.grown
    refine ⟨⟨newer ++ older, ?_, ?_⟩⟩
    · rw [after, before, List.append_assoc]
    · rw [expects, expected, List.filterMap_append, List.head?_append,
        Option.or_assoc]

theorem Asks.awaited {before after : Session} (asks : Asks before after) :
    after.awaited = (asked before after).head?.or before.awaited := by
  obtain ⟨newer, grown, expects⟩ := asks.grown
  unfold asked
  rw [newEvents_eq grown, expects]

theorem Asks.of_silent {before after : Session} {newer : List Event}
    (grown : after.history = newer ++ before.history)
    (silent : ∀ event ∈ newer, event.asks = none)
    (same : after.expectedTestRequestId = before.expectedTestRequestId) :
    Asks before after where
  grown := by
    refine ⟨newer, grown, ?_⟩
    rw [List.filterMap_eq_nil_iff.mpr silent]
    unfold Session.awaited
    rw [same]
    rfl

theorem setState_asks (state : SessionState) : Keeps Asks (setState state) := by
  intro session
  by_cases same : session.state = state
  · rw [setState_of_eq same]
    exact Std.Refl.refl session
  · rw [setState_of_ne same]
    apply @Asks.of_silent session _ [.stateChanged session.state state] rfl
    · intro event member
      rw [List.mem_singleton.mp member]
      rfl
    · rfl

theorem restartSeqNums_asks : Keeps Asks restartSeqNums := by
  apply (setState_asks .resetting).bind
  intro _
  apply Keeps.bind
  · intro session
    apply @Asks.of_silent session _ [.outgoingSet 1] rfl
    · intro event member
      rw [List.mem_singleton.mp member]
      rfl
    · rfl
  · intro _ session
    exact @Asks.of_silent session _ [] rfl (fun _ impossible => by cases impossible) rfl

section Sending

variable (world : World)

theorem send_grows (message : Message) (options : EncodeOptions)
    (session : Session) :
    (send (world.environment 0) message options session).2 = session ∨
      ∃ base outgoing event newer,
        Asks session base ∧ Event.Hands message event ∧
        base.expectedTestRequestId = session.expectedTestRequestId ∧
        (world.Accepts → ∃ sent, event = .written sent options) ∧
        (∀ later ∈ newer, Event.asks later = none) ∧
        (send (world.environment 0) message options session).2 =
          { base with
            outgoingMsgSeqNum := outgoing
            history := newer ++ event :: base.history } := by
  cases read : message.isResetLogon with
  | error exception =>
      unfold send
      rw [read]
      exact .inl rfl
  | ok resets =>
      obtain ⟨base, outgoing, event, newer, first, ⟨hands, written⟩, told, last⟩ :=
        send_hands world options read session
      have restarted : Asks session
          (Call.onlyIf resets restartSeqNums session).2 := by
        unfold Call.onlyIf
        split
        · exact restartSeqNums_asks session
        · exact Std.Refl.refl session
      have kept : (Call.onlyIf resets restartSeqNums
          session).2.expectedTestRequestId = session.expectedTestRequestId := by
        unfold Call.onlyIf
        split
        · obtain ⟨_, -, run⟩ := restartSeqNums_spec session
          rw [run]
        · rfl
      rw [first] at restarted kept
      refine .inr ⟨base, outgoing, event, newer, restarted, hands, kept, written,
        ?_, last⟩
      intro later member
      obtain ⟨left, rfl⟩ := told later member
      rfl

/-- The application may send what it likes; the session goes on expecting what
it expected. -/
theorem send_awaited (message : Message) (options : EncodeOptions)
    (session : Session) :
    (send (world.environment 0) message options session).2.awaited =
      session.awaited := by
  rcases send_grows world message options session with same | sent
  · rw [same]
  · obtain ⟨base, outgoing, event, newer, -, -, kept, -, -, last⟩ := sent
    unfold awaited
    rw [last, kept]

theorem send_asks {message : Message}
    (untested : message.MsgType ≠ .ok MsgType.TestRequest)
    (options : EncodeOptions) :
    Keeps Asks (send (world.environment 0) message options) := by
  intro session
  rcases send_grows world message options session with same | sent
  · rw [same]
    exact Std.Refl.refl session
  · obtain ⟨base, outgoing, event, newer, restarted, hands, -, -, silent, last⟩ :=
      sent
    rw [last]
    refine IsTrans.trans _ _ _ restarted ?_
    apply @Asks.of_silent base _ (newer ++ [event]) (by simp)
    · intro later member
      rcases List.mem_append.mp member with new | handed
      · exact silent later new
      · rw [List.mem_singleton.mp handed]
        apply Event.asks_eq_none
        intro carries
        exact untested (hands.msgType carries)
    · rfl

theorem sendLogon_asks (resetSeqNumFlag : Bool) :
    Keeps Asks (sendLogon (world.environment 0) resetSeqNumFlag) := by
  have untested {message : Message} (typed : message.MsgType = .ok MsgType.Logon) :
      message.MsgType ≠ .ok MsgType.TestRequest := by
    rw [typed]
    decide
  intro session
  apply send_asks world
  apply untested
  cases expects : session.options.useNextExpectedMsgSeqNum with
  | false =>
      cases resetSeqNumFlag with
      | false => rfl
      | true => rfl
  | true =>
      cases resetSeqNumFlag with
      | false => rfl
      | true => rfl

variable {world}

theorem sendTestRequest_asks (accepts : world.Accepts) :
    Keeps Asks (sendTestRequest (world.environment 0)) := by
  intro session
  let next : Session :=
    { session with
      nextTestRequestId := session.nextTestRequestId + 1
      expectedTestRequestId := some session.nextTestRequestId }
  let id := decimal session.nextTestRequestId.toNat
  let testRequest := Message.make true
    [⟨Tag.MsgType, MsgType.TestRequest⟩,
      .ofUInt32 Tag.TestReqID session.nextTestRequestId]
  have ordinary : testRequest.Ordinary :=
    Message.ordinary_make (by simp [Field.ofUInt32]) (by decide)
  have typed : testRequest.MsgType = .ok MsgType.TestRequest :=
    Message.msgType_make (by simp [Field.ofUInt32])
  have carried : testRequest.fields.tryGet Tag.TestReqID =
      some ⟨Tag.TestReqID, id⟩ := rfl
  obtain ⟨base, outgoing, event, newer, first, ⟨hands, written⟩, told, last⟩ :=
    send_hands world .standard ordinary.resets next
  injection first with _ same
  obtain ⟨sent, rfl⟩ := written accepts
  have asks : (Event.written sent .standard).asks = some id := by
    have sentType : sent.MsgType = .ok MsgType.TestRequest := by
      rw [← typed]
      simp only [Message.MsgType, Message.requireField,
        hands Tag.MsgType (by decide)]
    change (if sent.MsgType = .ok MsgType.TestRequest then
      (sent.fields.tryGet Tag.TestReqID).map Field.value else none) = some id
    rw [if_pos sentType, hands Tag.TestReqID (by decide), carried]
    rfl
  have silent : newer.filterMap Event.asks = [] := by
    apply List.filterMap_eq_nil_iff.mpr
    intro later member
    obtain ⟨left, rfl⟩ := told later member
    rfl
  change Asks session (send (world.environment 0) testRequest .standard next).2
  rw [last, ← same]
  refine ⟨⟨newer ++ [.written sent .standard], by simp [next], ?_⟩⟩
  rw [List.filterMap_append, silent, List.nil_append,
    List.filterMap_cons_some asks]
  rfl

theorem shifts_asks (accepts : world.Accepts) :
    Shifts (world.environment 0) Asks where
  remark session event isRemark := by
    apply @Asks.of_silent session _ [event] rfl
    · intro other member
      rw [List.mem_singleton.mp member]
      exact Event.asks_of_isRemark isRemark
    · rfl
  timed before after same := by
    apply @Asks.of_silent before after [] same.history
    · intro _ impossible
      cases impossible
    · exact same.expects
  left := setState_asks .disconnected
  unlogged := setState_asks .connected
  begun := setState_asks .loggingOn
  sent message options plain := send_asks world plain.untested options
  tested := sendTestRequest_asks accepts
  resending := setState_asks .resending
  discarded received expected session := by
    apply @Asks.of_silent session _ [.discarded received expected] rfl
    · intro other member
      rw [List.mem_singleton.mp member]
      rfl
    · rfl
  placed before after same := by
    apply @Asks.of_silent before after [] same.history
    · intro _ impossible
      cases impossible
    · exact same.expects
  restarted := restartSeqNums_asks
  resetLogon := sendLogon_asks world true

end Sending

/-! ### The dialogue -/

/-- How the session and its peer stand: the ids that the peer has not answered,
the oldest first, and the latest id that the session itself has asked for. -/
structure Dialogue where
  pending : List Bytes
  latest : Option Bytes
deriving DecidableEq, Repr

def Input.answers : Input → Option Bytes
  | .received message => message.answers
  | _ => none

def Input.isSend : Input → Bool
  | .send _ _ => true
  | _ => false

/-- An answer is to the oldest TestRequest that is pending. -/
def Dialogue.after (dialogue : Dialogue) (input : Input) (asked : List Bytes) :
    Dialogue where
  pending :=
    (if input.answers.isSome then dialogue.pending.tail else dialogue.pending) ++
      asked.reverse
  latest :=
    if input.isSend then dialogue.latest else asked.head?.or dialogue.latest

/-- A session in a run, with the dialogue so far and the input that it meets. -/
structure Moment where
  dialogue : Dialogue
  session : Session
  input : Input

def moments (environment : Environment) :
    List Input → Dialogue → Session → List Moment
  | [], _, _ => []
  | input :: rest, dialogue, session =>
      let after := (step environment input session).2
      ⟨dialogue, session, input⟩ ::
        moments environment rest (dialogue.after input (asked session after)) after

def Moment.left (environment : Environment) (moment : Moment) : Session :=
  (step environment moment.input moment.session).2

/-- The peer sends valid messages in sequence, and answers in order. -/
structure Moment.Obliging (moment : Moment) : Prop where
  sequence : ∀ message, moment.input = .received message →
    moment.session.InSequence message
  answers : ∀ id, moment.input.answers = some id →
    moment.dialogue.pending.head? = some id

structure ClosedByHeartbeat (before : Session) (input : Input) (after : Session) :
    Prop where
  heartbeat : ∃ message, input = .received message ∧
    message.MsgType = .ok MsgType.Heartbeat
  connected : before.state ≠ .disconnected
  closed : after.state = .disconnected

/-- While the session waits, a numbered Heartbeat answers the oldest TestRequest
that is pending, and that is not the one that the session has sent last. -/
structure Moment.Overtaken (moment : Moment) : Prop where
  numbered : ∃ message, moment.input = .received message ∧ IsNumbered message
  answers : moment.input.answers.isSome
  waiting : moment.session.state = .loggingOn ∨ moment.session.state = .resetting ∨
    moment.session.state = .resending
  overtaken : ∃ latest, moment.dialogue.latest = some latest ∧
    moment.dialogue.pending.head? ≠ some latest

section Moments

variable {world : World}

theorem step_awaited (accepts : world.Accepts) (input : Input) (session : Session) :
    (step (world.environment 0) input session).2.awaited =
      if input.isSend then session.awaited
      else (asked session (step (world.environment 0) input session).2).head?.or
        session.awaited := by
  cases sends : input.isSend with
  | true =>
      rw [if_pos rfl]
      cases input with
      | send message options => exact send_awaited world message options session
      | _ => cases sends
  | false =>
      rw [if_neg Bool.false_ne_true]
      have kept : Keeps Asks (step (world.environment 0) input) := by
        apply step_keeps (shifts_asks accepts) (setState_asks .loggedOn)
        · intro message _
          constructor
          · intro session
            apply @Asks.of_silent session _ [.messageReceived message] rfl
            · intro event member
              rw [List.mem_singleton.mp member]
              rfl
            · rfl
          · intro session
            apply @Asks.of_silent session _ [.accepted message] rfl
            · intro event member
              rw [List.mem_singleton.mp member]
              rfl
            · rfl
        · rintro message options rfl
          cases sends
      exact (kept session).awaited

theorem moments_awaited (accepts : world.Accepts) {inputs : List Input}
    {dialogue : Dialogue} {session : Session}
    (tracks : dialogue.latest = session.awaited) :
    ∀ moment ∈ moments (world.environment 0) inputs dialogue session,
      moment.dialogue.latest = moment.session.awaited := by
  induction inputs generalizing dialogue session with
  | nil =>
      intro moment member
      cases member
  | cons input rest ih =>
      intro moment member
      rcases List.mem_cons.mp member with here | later
      · rw [here]
        exact tracks
      · apply ih _ moment later
        rw [step_awaited accepts, ← tracks]
        rfl

theorem latest_of_expects {dialogue : Dialogue} {session : Session}
    {expected : UInt32} (tracks : dialogue.latest = session.awaited)
    (expects : session.expectedTestRequestId = some expected) :
    dialogue.latest = some (decimal expected.toNat) := by
  rw [tracks]
  unfold awaited
  rw [expects]
  rfl

theorem Moment.overtaken_of_closed {moment : Moment}
    (tracks : moment.dialogue.latest = moment.session.awaited)
    (obliging : moment.Obliging)
    (closes : ClosedByHeartbeat moment.session moment.input
      (moment.left (world.environment 0))) : moment.Overtaken := by
  rcases moment with ⟨dialogue, session, input⟩
  obtain ⟨⟨message, received, typed⟩, connected, closed⟩ := closes
  change input = .received message at received
  subst received
  change (onMessageRead (world.environment 0) message session).2.state =
    .disconnected at closed
  have sequence := obliging.sequence message rfl
  by_cases numbered : IsNumbered message
  · obtain ⟨-, -, kept⟩ := @onMessageRead_other world message session
      sequence.validates numbered (by rw [typed]; decide) sequence.read
      world.orchestration
    by_cases closes : Closes world.orchestration session message
    · cases closes with
      | loggedOut other =>
          rw [typed] at other
          exact absurd other (by decide)
      | answered _ waiting testReqID expected present expects wrong =>
          have answers : message.answers = some testReqID.value :=
            (Message.answers_eq_some_iff message _).mpr
              ⟨typed, testReqID, present, rfl⟩
          have first := obliging.answers testReqID.value answers
          have last := latest_of_expects tracks expects
          refine ⟨⟨message, rfl, numbered⟩, ?_, waiting, _, last, ?_⟩
          · exact Option.isSome_of_eq_some answers
          · change dialogue.pending.head? = some testReqID.value at first
            change dialogue.pending.head? ≠ _
            rw [first]
            intro same
            injection same with equal
            exact wrong equal
      | unread other =>
          rw [typed] at other
          exact absurd other (by decide)
      | unannounced other =>
          rw [typed] at other
          exact absurd other (by decide)
    · exact absurd ((kept closes).mp closed) connected
  · have idle : ¬ session.IsFollowed message := by
      intro followed
      have other := followed.typed
      rw [typed] at other
      exact absurd other (by decide)
    have same := @onMessageRead_unconsumed world message session sequence numbered
      idle
    rw [same.state] at closed
    exact absurd closed connected

theorem Moment.closed_of_overtaken {moment : Moment}
    (tracks : moment.dialogue.latest = moment.session.awaited)
    (obliging : moment.Obliging) (overtaken : moment.Overtaken) :
    ClosedByHeartbeat moment.session moment.input
      (moment.left (world.environment 0)) := by
  rcases moment with ⟨dialogue, session, input⟩
  obtain ⟨⟨message, received, numbered⟩, answers, waiting, latest, asked, other⟩ :=
    overtaken
  change input = .received message at received
  subst received
  change message.answers.isSome at answers
  have sequence := obliging.sequence message rfl
  obtain ⟨id, answered⟩ := Option.isSome_iff_exists.mp answers
  have first := obliging.answers id answered
  obtain ⟨typed, testReqID, present, same⟩ :=
    (Message.answers_eq_some_iff message id).mp answered
  change dialogue.latest = some latest at asked
  change dialogue.pending.head? = some id at first
  change dialogue.pending.head? ≠ some latest at other
  cases expects : session.expectedTestRequestId with
  | none =>
      change dialogue.latest = session.awaited at tracks
      unfold awaited at tracks
      rw [asked, expects] at tracks
      cases tracks
  | some expected =>
      rw [latest_of_expects tracks expects] at asked
      injection asked with equal
      have wrong : testReqID.value ≠ decimal expected.toNat := by
        rw [same, equal]
        intro overtakes
        exact other (first.trans (congrArg some overtakes))
      obtain ⟨-, closing, -⟩ := @onMessageRead_other world message session
        sequence.validates numbered (by rw [typed]; decide) sequence.read
        world.orchestration
      refine ⟨⟨message, rfl, typed⟩, ?_, ?_⟩
      · intro gone
        change session.state = .disconnected at gone
        change session.state = .loggingOn ∨ session.state = .resetting ∨
          session.state = .resending at waiting
        rw [gone] at waiting
        simp at waiting
      · exact closing (.answered typed waiting testReqID expected present expects
          wrong)

/-- The Heartbeat closes the session if and only if the TestRequest that it
answers has been overtaken. -/
theorem Moment.closed_iff {moment : Moment}
    (tracks : moment.dialogue.latest = moment.session.awaited)
    (obliging : moment.Obliging) :
    ClosedByHeartbeat moment.session moment.input
        (moment.left (world.environment 0)) ↔ moment.Overtaken := by
  constructor
  · exact Moment.overtaken_of_closed tracks obliging
  · exact Moment.closed_of_overtaken tracks obliging

/-- In every run with a peer that answers in order, from a new session on, a Heartbeat
closes the session only where the TestRequest that it answers has been overtaken. -/
theorem answers_keep_open_iff (accepts : world.Accepts) (inputs : List Input)
    (options : SessionOptions) (incoming outgoing : UInt32)
    (obliging : ∀ moment ∈ moments (world.environment 0) inputs ⟨[], none⟩
      (create options incoming outgoing), moment.Obliging) :
    ∀ moment ∈ moments (world.environment 0) inputs ⟨[], none⟩
        (create options incoming outgoing),
      ¬ ClosedByHeartbeat moment.session moment.input
          (moment.left (world.environment 0)) ↔ ¬ moment.Overtaken := by
  intro moment member
  have tracks := moments_awaited accepts rfl moment member
  exact not_congr (Moment.closed_iff tracks (obliging moment member))

end Moments

def secondResendRequest : Message :=
  toInitiator MsgType.ResendRequest (ascii "54") (ascii "2")
    [⟨Tag.BeginSeqNo, ascii "1"⟩, ⟨Tag.EndSeqNo, ascii "0"⟩] 185 (ascii "185")

def thirdAnswer : Message :=
  toInitiator MsgType.Heartbeat (ascii "51") (ascii "3")
    [⟨Tag.TestReqID, ascii "0"⟩] 60 (ascii "060")

def secondAnswer : Message :=
  toInitiator MsgType.Heartbeat (ascii "51") (ascii "2")
    [⟨Tag.TestReqID, ascii "0"⟩] 59 (ascii "059")

def promptMoments (inputs : List Input) : List Moment :=
  moments (World.plain.environment 0) inputs ⟨[], none⟩
    (create { initiatorOptions with testRequestDelay := 0 } 1 1)

theorem Moment.obliging_open (dialogue : Dialogue) (session : Session) :
    Moment.Obliging ⟨dialogue, session, .open⟩ where
  sequence _ impossible := by cases impossible
  answers _ impossible := by cases impossible

theorem Moment.obliging_received {dialogue : Dialogue} {session : Session}
    {message : Message}
    (valid : (validate (World.plain.environment 0) message session).1 = .ok true)
    (read : message.MsgSeqNum = .ok session.incomingMsgSeqNum)
    (answers : message.answers.isSome → dialogue.pending.head? = message.answers) :
    Moment.Obliging ⟨dialogue, session, .received message⟩ where
  sequence other received := by
    injection received with same
    rw [← same]
    exact ⟨validates_of_validate (World.plain.environment 0) valid, read⟩
  answers id answered := by
    change message.answers = some id at answered
    exact (answers (Option.isSome_of_eq_some answered)).trans answered

theorem forall_moments_cons {environment : Environment} {input : Input}
    {rest : List Input} {dialogue : Dialogue} {session : Session}
    {holds : Moment → Prop} (here : holds ⟨dialogue, session, input⟩)
    (later : ∀ moment ∈ moments environment rest
      (dialogue.after input
        (asked session (step environment input session).2))
      (step environment input session).2, holds moment) :
    ∀ moment ∈ moments environment (input :: rest) dialogue session,
      holds moment :=
  List.forall_mem_cons.mpr ⟨here, later⟩

/-- The Logon and the ResendRequest are each followed by a TestRequest, and the
peer, which has answered neither yet, answers the first. -/
theorem first_answer_closes :
    (∀ moment ∈ promptMoments [.open, .received confirmingLogon,
        .received secondResendRequest, .received thirdAnswer], moment.Obliging) ∧
      ∃ moment ∈ promptMoments [.open, .received confirmingLogon,
          .received secondResendRequest, .received thirdAnswer],
        moment.dialogue = ⟨[ascii "0", ascii "1"], some (ascii "1")⟩ ∧
        ClosedByHeartbeat moment.session moment.input
          (moment.left (World.plain.environment 0)) := by
  constructor
  · apply forall_moments_cons (Moment.obliging_open _ _)
    apply forall_moments_cons
      (Moment.obliging_received (by decide) (by decide) (by decide))
    apply forall_moments_cons
      (Moment.obliging_received (by decide) (by decide) (by decide))
    apply forall_moments_cons
      (Moment.obliging_received (by decide) (by decide) (by decide))
    exact List.forall_mem_nil _
  · refine ⟨_, List.mem_cons_of_mem _ (List.mem_cons_of_mem _
      (List.mem_cons_of_mem _ List.mem_cons_self)), by decide, ?_⟩
    exact ⟨⟨thirdAnswer, rfl, by decide⟩, by decide, by decide⟩

theorem answers_keep_open_iff_prompt :
    ∃ moment ∈ promptMoments [.open, .received confirmingLogon,
        .received secondAnswer],
      moment.input = .received secondAnswer ∧
        (¬ ClosedByHeartbeat moment.session moment.input
          (moment.left (World.plain.environment 0)) ↔ ¬ moment.Overtaken) := by
  refine ⟨_, List.mem_cons_of_mem _ (List.mem_cons_of_mem _ List.mem_cons_self),
    rfl, ?_⟩
  apply @answers_keep_open_iff World.plain (fun _ _ _ => rfl)
    [.open, .received confirmingLogon, .received secondAnswer]
    { initiatorOptions with testRequestDelay := 0 } 1 1
  · apply forall_moments_cons (Moment.obliging_open _ _)
    apply forall_moments_cons
      (Moment.obliging_received (by decide) (by decide) (by decide))
    apply forall_moments_cons
      (Moment.obliging_received (by decide) (by decide) (by decide))
    exact List.forall_mem_nil _
  · exact List.mem_cons_of_mem _ (List.mem_cons_of_mem _ List.mem_cons_self)

end Session

end Crocofix

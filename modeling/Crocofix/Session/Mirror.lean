/-
Messages that present packets, and the sending calls of a session.

Where the writer takes every message, a call of a session does what the
reaction of the same name does on the session's counterpart.
-/

import Crocofix.Carried
import Crocofix.Session.Effect
import Crocofix.Session.Peer

namespace Crocofix

open Numeral

/-! ### What a message says -/

def Payload.msgType : Payload → Bytes
  | .logon _ _ _ => MsgType.Logon
  | .heartbeat _ => MsgType.Heartbeat
  | .testRequest _ => MsgType.TestRequest
  | .resendRequest _ _ => MsgType.ResendRequest
  | .gapFill _ => MsgType.SequenceReset
  | .reject => MsgType.Reject
  | .application => []

/-- An application message has any type that is not one of the session layer. -/
def Payload.Named (msgType : Bytes) : Payload → Prop
  | .application => msgType ∉ Message.adminTypes
  | payload => msgType = payload.msgType

def Message.valueOf (message : Message) (tag : Int32) : Option Bytes :=
  (message.fields.tryGet tag).map Field.value

def Payload.Fills (message : Message) : Payload → Prop
  | .logon resets heartBtInt nextExpected =>
      message.ResetSeqNumFlag = .ok resets ∧
        message.valueOf Tag.HeartBtInt = some (decimal heartBtInt.toNat) ∧
        message.valueOf Tag.NextExpectedMsgSeqNum = nextExpected.map decimal
  | .heartbeat testReqID =>
      message.valueOf Tag.TestReqID = testReqID.map fun id => decimal id.toNat
  | .testRequest testReqID =>
      message.valueOf Tag.TestReqID = some (decimal testReqID.toNat)
  | .resendRequest beginSeqNo endSeqNo =>
      message.valueOf Tag.BeginSeqNo = some (decimal beginSeqNo) ∧
        message.valueOf Tag.EndSeqNo = some (decimal endSeqNo)
  | .gapFill newSeqNo =>
      message.GapFillFlag = .ok true ∧
        message.valueOf Tag.NewSeqNo = some (decimal newSeqNo)
  | .reject => True
  | .application => True

structure Payload.Describes (payload : Payload) (message : Message) : Prop where
  types : ∃ msgType, message.MsgType = .ok msgType ∧ payload.Named msgType
  possDup : message.PossDupFlag = .ok payload.isGapFill
  fills : payload.Fills message

structure Identity where
  beginString : Bytes
  senderCompID : Bytes
  targetCompID : Bytes
deriving DecidableEq, Repr

def SessionOptions.identity (options : SessionOptions) : Identity where
  beginString := options.beginString
  senderCompID := options.senderCompID
  targetCompID := options.targetCompID

/-- The message is the packet, as it arrives from the sender. -/
structure Presents (sender : Identity) (message : Message) (packet : Packet) :
    Prop where
  checksum : message.HasChecksum
  bodyLength : message.HasBodyLength
  beginString : message.valueOf Tag.BeginString = some sender.beginString
  senderCompID : message.valueOf Tag.SenderCompID = some sender.senderCompID
  targetCompID : message.valueOf Tag.TargetCompID = some sender.targetCompID
  number : message.valueOf Tag.MsgSeqNum = some (decimal packet.number)
  readable : packet.readable
  describes : packet.payload.Describes message

theorem Payload.Describes.of_tryGet {payload : Payload} {message sent : Message}
    (describes : payload.Describes message)
    (same : ∀ tag, tag ∉ headerTags → tag ≠ Tag.BodyLength →
      sent.fields.tryGet tag = message.fields.tryGet tag) :
    payload.Describes sent := by
  have value (tag : Int32) (other : tag ∉ headerTags)
      (notBody : tag ≠ Tag.BodyLength) :
      sent.valueOf tag = message.valueOf tag := by
    unfold Message.valueOf
    rw [same tag other notBody]
  have flag (tag : Int32) (other : tag ∉ headerTags)
      (notBody : tag ≠ Tag.BodyLength) :
      sent.fields.getBool tag = message.fields.getBool tag := by
    unfold FieldCollection.getBool
    rw [same tag other notBody]
  have type : sent.MsgType = message.MsgType := by
    unfold Message.MsgType Message.requireField
    rw [same Tag.MsgType (by decide) (by decide)]
  have resets := flag Tag.ResetSeqNumFlag (by decide) (by decide)
  have fillsGap := flag Tag.GapFillFlag (by decide) (by decide)
  have heartBtInt := value Tag.HeartBtInt (by decide) (by decide)
  have next := value Tag.NextExpectedMsgSeqNum (by decide) (by decide)
  have testReqID := value Tag.TestReqID (by decide) (by decide)
  have first := value Tag.BeginSeqNo (by decide) (by decide)
  have last := value Tag.EndSeqNo (by decide) (by decide)
  have newSeqNo := value Tag.NewSeqNo (by decide) (by decide)
  obtain ⟨types, possDup, fills⟩ := describes
  refine ⟨?_, ?_, ?_⟩
  · rw [type]
    exact types
  · exact (flag Tag.PossDupFlag (by decide) (by decide)).trans possDup
  · unfold Payload.Fills at fills ⊢
    unfold Message.ResetSeqNumFlag Message.GapFillFlag at fills ⊢
    rw [resets, fillsGap, heartBtInt, next, testReqID, first, last, newSeqNo]
    exact fills

/-! ### What is sent presents what was meant -/

def Message.HasHeader (message : Message) : Prop :=
  ∀ tag ∈ [Tag.BeginString, Tag.BodyLength, Tag.SenderCompID, Tag.TargetCompID,
    Tag.MsgSeqNum], (message.fields.tryGet tag).isSome

instance (message : Message) : Decidable message.HasHeader :=
  List.decidableBAll _ _

theorem Message.hasHeader_make (fields : List Field) :
    (Message.make true fields).HasHeader := by
  intro tag member
  apply isSome_tryGet_foldl_putOrAppend
  simp only [List.mem_cons, List.not_mem_nil, or_false] at member
  rcases member with rfl | rfl | rfl | rfl | rfl <;> rfl

namespace Session

section Sent

variable {message : Message} {options : EncodeOptions} {fields : FieldCollection}
  {session : Session} {payload : Payload} {number : Nat}

theorem tryGet_addressed_header (session : Session) (sets : options.setBeginString)
    (header : message.HasHeader) :
    ((session.addressed options message.fields).tryGet Tag.BeginString).map
        Field.value = some session.options.beginString ∧
      ((session.addressed options message.fields).tryGet Tag.SenderCompID).map
        Field.value = some session.options.senderCompID ∧
      ((session.addressed options message.fields).tryGet Tag.TargetCompID).map
        Field.value = some session.options.targetCompID := by
  obtain ⟨first, beginString⟩ := Option.isSome_iff_exists.mp
    (header Tag.BeginString (by decide))
  obtain ⟨second, sender⟩ := Option.isSome_iff_exists.mp
    (header Tag.SenderCompID (by decide))
  obtain ⟨third, target⟩ := Option.isSome_iff_exists.mp
    (header Tag.TargetCompID (by decide))
  simp only [Tag.BeginString, Tag.SenderCompID, Tag.TargetCompID]
    at beginString sender target
  unfold addressed
  rw [if_pos sets]
  simp [FieldCollection.tryGet_put, beginString, sender, target]

/-- A message with the fields that `send` leaves in it arrives as the packet
with its number. -/
theorem presents_handed (sets : options.setChecksum ∧ options.setBodyLength ∧
      options.setBeginString)
    (header : message.HasHeader) (describes : payload.Describes message)
    (readable : Packet.readable ⟨number, payload⟩) (timestamp : Bytes)
    (same : ∀ tag, tag ≠ Tag.MsgSeqNum → fields.tryGet tag =
      (session.addressed options message.fields).tryGet tag)
    (numbered : (fields.tryGet Tag.MsgSeqNum).map Field.value =
      some (decimal number)) :
    Presents session.options.identity
      (Message.carried
        { message with fields := stamped timestamp options fields } options)
      ⟨number, payload⟩ := by
  obtain ⟨setsChecksum, setsBodyLength, setsBeginString⟩ := sets
  obtain ⟨beginString, sender, target⟩ := tryGet_addressed_header session
    setsBeginString header
  have stampedCheckSum : ((stamped timestamp options fields).tryGet
      Tag.CheckSum).isSome := by
    unfold stamped
    rw [if_pos setsChecksum, FieldCollection.tryGet_putOrAppend]
    rfl
  have body : ((stamped timestamp options fields).tryGet Tag.BodyLength).isSome := by
    rw [tryGet_stamped _ _ _ (by decide) (by decide), same _ (by decide),
      tryGet_addressed _ _ _ (by decide) (by decide) (by decide)]
    exact header Tag.BodyLength (by decide)
  have arrives (tag : Int32) (notBody : Tag.BodyLength ≠ tag)
      (notCheckSum : Tag.CheckSum ≠ tag) (notTime : Tag.SendingTime ≠ tag) :
      (Message.carried { message with fields := stamped timestamp options fields }
        options).fields.tryGet tag = fields.tryGet tag := by
    rw [Message.tryGet_carried _ _ notBody notCheckSum,
      tryGet_stamped _ _ _ notTime notCheckSum]
  refine ⟨Message.hasChecksum_carried setsChecksum stampedCheckSum,
    Message.hasBodyLength_carried setsBodyLength body, ?_, ?_, ?_, ?_, readable, ?_⟩
  · unfold Message.valueOf
    rw [arrives _ (by decide) (by decide) (by decide), same _ (by decide)]
    exact beginString
  · unfold Message.valueOf
    rw [arrives _ (by decide) (by decide) (by decide), same _ (by decide)]
    exact sender
  · unfold Message.valueOf
    rw [arrives _ (by decide) (by decide) (by decide), same _ (by decide)]
    exact target
  · unfold Message.valueOf
    rw [arrives _ (by decide) (by decide) (by decide)]
    exact numbered
  · apply describes.of_tryGet
    intro tag other notBody
    have differs (known : Int32) (listed : known ∈ headerTags) : known ≠ tag := by
      intro equal
      exact other (equal ▸ listed)
    rw [arrives tag notBody.symm (differs _ (by decide)) (differs _ (by decide)),
      same tag (differs _ (by decide)).symm,
      tryGet_addressed _ _ _ (differs _ (by decide)) (differs _ (by decide))
        (differs _ (by decide))]

end Sent

/-! ### What is seen of a session -/

def carriedBy : Event → Option Message
  | .written message options => some (message.carried options)
  | _ => none

def carriedIn (events : List Event) : List Message :=
  events.reverse.filterMap carriedBy

theorem carriedIn_append (later earlier : List Event) :
    carriedIn (later ++ earlier) = carriedIn earlier ++ carriedIn later := by
  unfold carriedIn
  rw [List.reverse_append, List.filterMap_append]

theorem carriedIn_eq_nil {events : List Event}
    (unsent : ∀ event ∈ events, carriedBy event = none) : carriedIn events = [] :=
  List.filterMap_eq_nil_iff.mpr fun event member =>
    unsent event (List.mem_reverse.mp member)

structure Sends (before after : Session) (packets : List Packet) : Prop where
  identity : after.options.identity = before.options.identity
  history : ∃ newer, after.history = newer ++ before.history ∧
    List.Forall₂ (Presents before.options.identity) (carriedIn newer) packets

theorem Sends.of_unsent {before after : Session} {newer : List Event}
    (identity : after.options.identity = before.options.identity)
    (history : after.history = newer ++ before.history)
    (unsent : ∀ event ∈ newer, carriedBy event = none) : Sends before after [] where
  identity := identity
  history := ⟨newer, history, by rw [carriedIn_eq_nil unsent]; exact .nil⟩

theorem Sends.append {first second third : Session} {early late : List Packet}
    (started : Sends first second early) (ended : Sends second third late) :
    Sends first third (early ++ late) where
  identity := ended.identity.trans started.identity
  history := by
    obtain ⟨older, olderEq, olderSent⟩ := started.history
    obtain ⟨newer, newerEq, newerSent⟩ := ended.history
    rw [started.identity] at newerSent
    refine ⟨newer ++ older, ?_, ?_⟩
    · rw [newerEq, olderEq, List.append_assoc]
    · rw [carriedIn_append]
      exact List.rel_append olderSent newerSent

def observation : Observation Session Peer Packet where
  view := peer
  sends := Sends
  silent session := .of_unsent rfl rfl (by simp : ∀ event ∈ [], carriedBy event = none)
  append := Sends.append

abbrev Refines {α : Type} (call : Action α) (reply : Peer.Reply α)
    (session : Session) : Prop :=
  observation.Refines call reply session

variable {α : Type} {session : Session}

theorem refines_record {event : Event} {next : Unit → Action α}
    {reply : Peer.Reply α} (unsent : carriedBy event = none)
    (rest : Refines (next ()) reply
      { session with history := event :: session.history }) :
    Refines (record event >>= next) reply session := by
  apply Observation.Refines.after_silent (record_apply event session) rfl _ rest
  exact Sends.of_unsent rfl (List.singleton_append).symm
    fun other member => (List.mem_singleton.mp member) ▸ unsent

theorem record_refines {event : Event} (unsent : carriedBy event = none)
    (session : Session) : Refines (record event) (pure ()) session := by
  have rest : Refines (pure ()) (pure ())
      { session with history := event :: session.history } :=
    Observation.refines_pure () _
  exact refines_record unsent rest

theorem refines_modify {change : Session → Session} {modelled : Peer → Peer}
    (seen : (change session).peer = modelled session.peer)
    (identity : (change session).options.identity = session.options.identity)
    (history : (change session).history = session.history) :
    Refines (Call.modify change) (Reaction.modify modelled) session :=
  Observation.Refines.of_change rfl seen
    (Sends.of_unsent identity (history.trans (List.nil_append _).symm)
      (by simp : ∀ event ∈ [], carriedBy event = none))

theorem setState_refines (state : SessionState) (session : Session) :
    Refines (setState state) (Peer.setState state) session := by
  by_cases same : session.state = state
  · apply Observation.Refines.of_change (setState_of_eq same)
    · rw [← same]
      rfl
    · exact observation.silent session
  · apply Observation.Refines.of_change (setState_of_ne same)
    · rfl
    exact Sends.of_unsent rfl (List.singleton_append).symm
      fun other member => (List.mem_singleton.mp member) ▸ rfl

theorem restartSeqNums_refines (session : Session) :
    Refines restartSeqNums Peer.restart session := by
  obtain ⟨newer, unsent, run⟩ : ∃ newer : List Event,
      (∀ event ∈ newer, carriedBy event = none) ∧
      restartSeqNums session = (.ok (), { session with
        state := .resetting
        outgoingMsgSeqNum := 1
        incomingMsgSeqNum := 1
        history := newer ++ session.history }) := by
    unfold restartSeqNums
    by_cases same : session.state = .resetting
    · refine ⟨[.outgoingSet 1], by simp [carriedBy], ?_⟩
      rw [Call.bind_of_ok (setState_of_eq same), ← same]
      rfl
    · refine ⟨[.outgoingSet 1, .stateChanged session.state .resetting],
        by simp [carriedBy], ?_⟩
      rw [Call.bind_of_ok (setState_of_ne same)]
      rfl
  apply Observation.Refines.of_change run
  · rfl
  · exact Sends.of_unsent rfl rfl unsent

theorem refines_unseen {call next : Action Unit} {reply : Peer.Reply Unit}
    (unseen : Refines call (pure ()) session)
    (rest : ∀ after, Refines next reply after) :
    Refines (call >>= fun _ => next) reply session := by
  have both := unseen.bind fun _ => rest
  rw [Reaction.pure_bind] at both
  exact both

theorem stopDefibrillator_refines (session : Session) :
    Refines stopDefibrillator (pure ()) session := by
  intro value next sent reacts
  cases reacts
  unfold stopDefibrillator
  rw [Call.get_bind]
  cases session.heartbeatTimerToken with
  | none => exact ⟨session, rfl, rfl, observation.silent session⟩
  | some token =>
      refine ⟨_, rfl, rfl, ?_⟩
      exact Sends.of_unsent rfl (List.singleton_append).symm
        fun other member => (List.mem_singleton.mp member) ▸ rfl

theorem startDefibrillator_refines (environment : Environment) (session : Session) :
    Refines (startDefibrillator environment) (pure ()) session := by
  apply refines_unseen (stopDefibrillator_refines session)
  intro middle value next sent reacts
  cases reacts
  rw [Call.get_bind]
  split
  · exact ⟨middle, rfl, rfl, observation.silent middle⟩
  · refine ⟨_, rfl, rfl, ?_⟩
    exact Sends.of_unsent rfl (List.singleton_append).symm
      fun other member => (List.mem_singleton.mp member) ▸ rfl

theorem stopTestRequestTimer_refines (session : Session) :
    Refines stopTestRequestTimer (pure ()) session := by
  intro value next sent reacts
  cases reacts
  unfold stopTestRequestTimer
  rw [Call.get_bind]
  cases session.testRequestTimerToken with
  | none => exact ⟨session, rfl, rfl, observation.silent session⟩
  | some token =>
      refine ⟨_, rfl, rfl, ?_⟩
      exact Sends.of_unsent rfl (List.singleton_append).symm
        fun other member => (List.mem_singleton.mp member) ▸ rfl

/-! ### Sending -/

theorem isResetLogon_of_describes {message : Message} {payload : Payload}
    (describes : payload.Describes message) :
    message.isResetLogon = .ok payload.resets := by
  obtain ⟨⟨msgType, typed, named⟩, -, fills⟩ := describes
  unfold Message.isResetLogon
  rw [typed]
  cases payload with
  | logon resets heartBtInt nextExpected =>
      rw [(named : msgType = MsgType.Logon)]
      exact fills.1
  | application =>
      apply if_neg
      intro same
      exact named (same ▸ by decide)
  | heartbeat _ | testRequest _ | resendRequest _ _ | gapFill _ | reject =>
      rw [named]
      rfl

section Accepting

variable {world : World} (accepts : world.Accepts)

include accepts

theorem handOver_accepted (message : Message) (options : EncodeOptions)
    (fields : FieldCollection) (session : Session) :
    ∃ timestamp left, handOver (world.environment 0) message options fields session =
      (.ok (), { session with
        history := .messageSent left ::
          .written { message with fields := stamped timestamp options fields }
            options :: session.history }) := by
  refine ⟨world.timestampString session.options.timestampFormat session,
    world.encoded
      { message with
        fields := stamped
          (world.timestampString session.options.timestampFormat session) options
          fields } options, ?_⟩
  unfold handOver
  rw [Call.get_bind]
  exact Call.bind_of_ok (accepts.accept _ options session) _

theorem handOver_refines {message : Message} {options : EncodeOptions}
    {fields : FieldCollection} {packet : Packet} {session : Session}
    (presents : packet.readable → ∀ timestamp, Presents session.options.identity
      (Message.carried { message with fields := stamped timestamp options fields }
        options) packet) :
    Refines (handOver (world.environment 0) message options fields)
      (Peer.transmit packet) session := by
  intro value next sent reacts
  unfold Peer.transmit at reacts
  split at reacts
  · next readable =>
      cases reacts
      obtain ⟨timestamp, left, run⟩ :=
        handOver_accepted accepts message options fields session
      refine ⟨_, run, rfl, rfl, [.messageSent left, .written _ options], rfl, ?_⟩
      exact .cons (presents readable timestamp) .nil
  · cases reacts

theorem send_refines {message : Message} {payload : Payload}
    (header : message.HasHeader) (describes : payload.Describes message)
    (session : Session) :
    Refines (send (world.environment 0) message .standard) (Peer.send payload)
      session := by
  unfold send
  rw [isResetLogon_of_describes describes, Call.ofExcept_ok, Call.pure_bind]
  apply Observation.Refines.bind (Observation.Refines.onlyIf Iff.rfl
    fun _ => restartSeqNums_refines session)
  intro _ base
  apply Observation.Refines.of_start
  intro value next sent reacts
  rw [Reaction.modify_bind] at reacts
  obtain ⟨numbered, numberedEq⟩ : ∃ numbered : FieldCollection, numbered =
      (base.addressed .standard message.fields).put
        (.ofUInt32 Tag.MsgSeqNum base.outgoingMsgSeqNum) := ⟨_, rfl⟩
  obtain ⟨middle, middleEq⟩ : ∃ middle : Session, middle =
      { base with outgoingMsgSeqNum := base.outgoingMsgSeqNum + 1 } := ⟨_, rfl⟩
  have run : number .standard (base.addressed .standard message.fields) base =
      (.ok numbered, middle) := by
    rw [numberedEq, middleEq]
    rfl
  have presents : Packet.readable ⟨base.peer.outgoing, payload⟩ → ∀ timestamp,
      Presents middle.options.identity
        (Message.carried
          { message with fields := stamped timestamp .standard numbered } .standard)
        ⟨base.peer.outgoing, payload⟩ := by
    intro readable timestamp
    apply presents_handed ⟨rfl, rfl, rfl⟩ header describes readable timestamp
    · intro tag other
      rw [numberedEq, middleEq]
      exact (FieldCollection.tryGet_put _ _ tag).trans (if_neg other.symm)
    · obtain ⟨old, found⟩ := Option.isSome_iff_exists.mp
        (header Tag.MsgSeqNum (by decide))
      have here : numbered.tryGet Tag.MsgSeqNum =
          some (.ofUInt32 Tag.MsgSeqNum base.outgoingMsgSeqNum) := by
        rw [numberedEq]
        refine (FieldCollection.tryGet_put _ _ _).trans ((if_pos rfl).trans ?_)
        rw [tryGet_addressed _ _ _ (by decide) (by decide) (by decide), found]
        rfl
      rw [here]
      rfl
  have small : base.outgoingMsgSeqNum.toNat < 2147483648 := by
    unfold Peer.transmit at reacts
    split at reacts
    · next readable =>
        unfold Packet.readable at readable
        exact of_decide_eq_true (Bool.and_eq_true_iff.mp readable).1
    · cases reacts
  have stepped : middle.peer =
      { base.peer with outgoing := base.peer.outgoing + 1 } := by
    have counted : (base.outgoingMsgSeqNum + 1).toNat =
        base.outgoingMsgSeqNum.toNat + 1 := by
      rw [UInt32.toNat_add]
      exact Nat.mod_eq_of_lt (by simp; omega)
    rw [middleEq]
    simp only [peer, counted]
  have transmits : Peer.transmit ⟨base.peer.outgoing, payload⟩
      (observation.view middle) = some (value, next, sent) := by
    change Peer.transmit _ middle.peer = _
    rw [stepped]
    exact reacts
  obtain ⟨after, handed, same, sends⟩ :=
    handOver_refines accepts presents value next sent transmits
  rw [Call.bind_of_ok run]
  refine ⟨after, handed, same, ?_⟩
  have silent : Sends base middle [] := by
    rw [middleEq]
    exact .of_unsent rfl rfl (by simp : ∀ event ∈ [], carriedBy event = none)
  exact silent.append sends

/-! ### The session's own messages -/

theorem sendLogon_refines (resets : Bool) (session : Session) :
    Refines (sendLogon (world.environment 0) resets) (Peer.sendLogon resets)
      session := by
  unfold sendLogon Peer.sendLogon
  apply Observation.Refines.of_start
  apply send_refines accepts
  · intro tag member
    have header := Message.hasHeader_make
      [⟨Tag.MsgType, MsgType.Logon⟩, ⟨Tag.EncryptMethod, EncryptMethod.None⟩,
        .ofUInt32 Tag.HeartBtInt session.options.heartbeatInterval] tag member
    have kept (fields : FieldCollection) (field : Field)
        (present : (fields.tryGet tag).isSome) :
        ((fields.putOrAppend field).tryGet tag).isSome :=
      Message.isSome_tryGet_foldl_putOrAppend fields [field] present
    simp only
    split
    · apply kept
      split
      · exact kept _ _ header
      · exact header
    · split
      · exact kept _ _ header
      · exact header
  · change Payload.Describes (.logon resets session.options.heartbeatInterval
      (if session.options.useNextExpectedMsgSeqNum then
        some session.incomingMsgSeqNum.toNat else none)) _
    cases session.options.useNextExpectedMsgSeqNum with
    | false =>
        cases resets with
        | false => exact ⟨⟨_, rfl, rfl⟩, rfl, rfl, rfl, rfl⟩
        | true => exact ⟨⟨_, rfl, rfl⟩, rfl, rfl, rfl, rfl⟩
    | true =>
        cases resets with
        | false => exact ⟨⟨_, rfl, rfl⟩, rfl, rfl, rfl, rfl⟩
        | true => exact ⟨⟨_, rfl, rfl⟩, rfl, rfl, rfl, rfl⟩

theorem sendTestRequest_refines (session : Session) :
    Refines (sendTestRequest (world.environment 0)) Peer.sendTestRequest
      session := by
  intro value next sent reacts
  unfold Peer.sendTestRequest at reacts
  rw [Reaction.get_bind, Reaction.modify_bind] at reacts
  have allocated : allocateTestRequestId session =
      (.ok session.nextTestRequestId,
        { session with nextTestRequestId := session.nextTestRequestId + 1 }) := rfl
  unfold sendTestRequest
  rw [Call.bind_of_ok allocated, Call.modify_bind]
  have describes : Payload.Describes (.testRequest session.nextTestRequestId)
      (Message.make true
        [⟨Tag.MsgType, MsgType.TestRequest⟩,
          .ofUInt32 Tag.TestReqID session.nextTestRequestId]) :=
    ⟨⟨_, rfl, rfl⟩, rfl, rfl⟩
  obtain ⟨after, run, same, sends⟩ := send_refines accepts
    (Message.hasHeader_make _) describes
    { session with
      nextTestRequestId := session.nextTestRequestId + 1
      expectedTestRequestId := some session.nextTestRequestId }
    value next sent reacts
  exact ⟨after, run, same, sends.identity, sends.history⟩

theorem sendPostLogonTestRequest_refines (session : Session) :
    Refines (sendPostLogonTestRequest (world.environment 0))
      Peer.sendPostLogonTestRequest session := by
  unfold sendPostLogonTestRequest Peer.sendPostLogonTestRequest
  apply Observation.Refines.of_start
  apply Observation.Refines.ite Iff.rfl
  · intro _
    exact Observation.refines_undefined _ session
  · intro _
    exact sendTestRequest_refines accepts session

theorem performResend_refines (beginSeqNo last : UInt32) (session : Session) :
    Refines (performResend (world.environment 0) beginSeqNo last)
      (Peer.performResend beginSeqNo.toNat) session := by
  unfold performResend sendGapFill Peer.performResend
  apply Observation.Refines.of_start
  obtain ⟨options, optionsEq⟩ : ∃ options : EncodeOptions,
      options = { EncodeOptions.standard with setMsgSeqNum := false } := ⟨_, rfl⟩
  obtain ⟨message, messageEq⟩ : ∃ message : Message, message =
      Message.make true
        [⟨Tag.MsgType, MsgType.SequenceReset⟩,
          .ofUInt32 Tag.MsgSeqNum beginSeqNo, .ofBool Tag.GapFillFlag true,
          .ofBool Tag.PossDupFlag true,
          .ofUInt32 Tag.NewSeqNo session.outgoingMsgSeqNum] := ⟨_, rfl⟩
  have describes : Payload.Describes (.gapFill session.outgoingMsgSeqNum.toNat)
      message := by
    rw [messageEq]
    exact ⟨⟨_, rfl, rfl⟩, rfl, rfl, rfl⟩
  have header : message.HasHeader := by
    rw [messageEq]
    exact Message.hasHeader_make _
  have numeral : message.fields.tryGet Tag.MsgSeqNum =
      some (.ofUInt32 Tag.MsgSeqNum beginSeqNo) := by
    rw [messageEq]
    rfl
  have handed : send (world.environment 0) message options session =
      handOver (world.environment 0) message options
        (session.addressed options message.fields) session := by
    unfold send
    rw [isResetLogon_of_describes describes, Call.ofExcept_ok, Call.pure_bind,
      optionsEq]
    rfl
  intro value next sent reacts
  rw [← messageEq, ← optionsEq, handed]
  apply handOver_refines accepts _ value next sent reacts
  intro readable timestamp
  rw [optionsEq]
  apply presents_handed ⟨rfl, rfl, rfl⟩ header describes readable timestamp
  · intro tag other
    rfl
  · rw [tryGet_addressed _ _ _ (by decide) (by decide) (by decide), numeral]
    rfl

theorem requestResend_refines (received : UInt32) (session : Session) :
    Refines (requestResend (world.environment 0) received)
      (Peer.requestResend received.toNat) session := by
  unfold requestResend Peer.requestResend
  apply Observation.Refines.of_start
  apply refines_record rfl
  have describes : Payload.Describes
      (.resendRequest session.incomingMsgSeqNum.toNat received.toNat)
      (Message.make true
        [⟨Tag.MsgType, MsgType.ResendRequest⟩,
          .ofUInt32 Tag.BeginSeqNo session.incomingMsgSeqNum,
          .ofUInt32 Tag.EndSeqNo received]) := ⟨⟨_, rfl, rfl⟩, rfl, rfl, rfl⟩
  apply (setState_refines .resending _).bind
  intro _ resending
  apply (refines_modify rfl rfl rfl).bind
  intro _ targeted
  apply refines_record rfl
  exact send_refines accepts (Message.hasHeader_make _) describes _

theorem sendReject_refines
    (explains : world.Explains) {message : Message} {number : UInt32}
    (read : message.MsgSeqNum = .ok number) (text reason : Bytes) (session : Session) :
    Refines (sendReject (world.environment 0) message text (some reason))
      (Peer.send .reject) session := by
  obtain ⟨defined, known⟩ := explains
  have environment : (world.environment 0).orchestration = world.orchestration := rfl
  unfold sendReject
  rw [read, Call.ofExcept_ok, Call.pure_bind]
  simp only [environment, known, Call.ofExcept_ok, Call.pure_bind]
  split
  · apply send_refines accepts
    · intro tag member
      exact Message.isSome_tryGet_foldl_putOrAppend _ [_]
        (Message.hasHeader_make _ tag member)
    · exact ⟨⟨_, rfl, rfl⟩, rfl, trivial⟩
  · apply send_refines accepts (Message.hasHeader_make _)
    exact ⟨⟨_, rfl, rfl⟩, rfl, trivial⟩

/-! ### Inputs that are no message -/

theorem defibrillate_refines (session : Session) :
    Refines (defibrillate (world.environment 0)) Peer.defibrillate session := by
  unfold defibrillate Peer.defibrillate
  apply Observation.Refines.of_start
  apply Observation.Refines.onlyIf Iff.rfl
  intro _
  apply send_refines accepts (Message.hasHeader_make _)
  exact ⟨⟨_, rfl, rfl⟩, rfl, rfl⟩

theorem open_refines (session : Session) :
    Refines («open» (world.environment 0)) Peer.open session := by
  unfold «open» logon Peer.open
  apply refines_record rfl
  apply Observation.Refines.of_start
  apply Observation.Refines.ite Iff.rfl
  · intro _
    exact Observation.refines_undefined _ _
  · intro _
    apply (setState_refines .loggingOn _).bind
    intro _ begun
    apply Observation.Refines.onlyIf Iff.rfl
    intro _
    exact sendLogon_refines accepts false begun

end Accepting

end Session

end Crocofix

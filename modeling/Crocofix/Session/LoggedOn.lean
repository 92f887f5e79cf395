/-
What takes a session to the state in which it is logged on.

Only a Heartbeat does, and it is looked at for its TestReqID alone.  How far a
recovery has come is not asked.
-/

import Crocofix.Session.Consumption
import Crocofix.Session.Standing

namespace Crocofix

open Numeral

namespace Session

open Call (Keeps Preserves)

def IsOff (session : Session) : Prop := session.state ≠ .loggedOn

/-- A Heartbeat in sequence that answers nothing, or the TestRequest that was
sent last, while the session waits for one. -/
structure LogsOn (session : Session) (message : Message) : Prop where
  sequence : session.InSequence message
  numbered : IsNumbered message
  typed : message.MsgType = .ok MsgType.Heartbeat
  waiting : session.state = .loggingOn ∨ session.state = .resetting ∨
    session.state = .resending
  answers : session.Answers message

/-! ### Calls that do not log the session on -/

theorem setState_off {state : SessionState} (other : state ≠ .loggedOn) :
    Keeps (Preserves IsOff) (setState state) := by
  intro session off
  by_cases same : session.state = state
  · rw [setState_of_eq same]
    exact off
  · rw [setState_of_ne same]
    exact other

theorem preserves_off_of_same {before after : Session}
    (same : after.state = before.state) : Preserves IsOff before after := by
  intro off
  unfold IsOff
  rwa [same]

variable (world : World)

theorem restartSeqNums_off : Keeps (Preserves IsOff) restartSeqNums := by
  apply (setState_off (by decide)).bind
  intro _ session
  exact preserves_off_of_same rfl

theorem send_off (message : Message) (options : EncodeOptions) :
    Keeps (Preserves IsOff) (send (world.environment 0) message options) := by
  intro session
  cases read : message.isResetLogon with
  | error exception =>
      unfold send
      rw [read]
      exact id
  | ok resets =>
      obtain ⟨base, outgoing, event, newer, first, -, -, last⟩ :=
        send_plain world options read session
      have restarted : Preserves IsOff session
          (Call.onlyIf resets restartSeqNums session).2 := by
        unfold Call.onlyIf
        split
        · exact restartSeqNums_off session
        · exact id
      rw [first] at restarted
      rw [last]
      intro off
      exact preserves_off_of_same rfl (restarted off)

theorem shifts_off : Shifts (world.environment 0) (Preserves IsOff) where
  remark _ _ _ := preserves_off_of_same rfl
  timed _ _ same := preserves_off_of_same same.state
  left := setState_off (by decide)
  unlogged := setState_off (by decide)
  begun := setState_off (by decide)
  sent message options _ := send_off world message options
  tested := by
    intro session
    exact preserves_off_of_same (sendTestRequest_untouched world session).state
  resending := setState_off (by decide)
  discarded _ _ _ := preserves_off_of_same rfl
  placed _ _ same := preserves_off_of_same same.state
  restarted := restartSeqNums_off
  resetLogon := by
    intro session
    exact send_off world _ _ session

/-! ### Heartbeats -/

section Heartbeats

variable {message : Message} {session : Session}

theorem processHeartbeat_logOn (environment : Environment)
    (waiting : session.state = .loggingOn ∨ session.state = .resetting ∨
      session.state = .resending)
    (answers : session.Answers message) :
    processHeartbeat environment message session = logOn environment session := by
  unfold processHeartbeat
  rw [Call.get_bind, if_pos waiting]
  cases present : message.fields.tryGet Tag.TestReqID with
  | none => rfl
  | some testReqID =>
      obtain ⟨expected, expects, same⟩ := answers testReqID present
      rw [expects]
      simp only
      rw [if_neg (not_not.mpr same)]

theorem processHeartbeat_off
    (ignored : (session.state = .loggingOn ∨ session.state = .resetting ∨
      session.state = .resending) → ¬ session.Answers message) :
    Preserves IsOff session
      (processHeartbeat (world.environment 0) message session).2 := by
  unfold processHeartbeat
  rw [Call.get_bind]
  by_cases waiting : session.state = .loggingOn ∨ session.state = .resetting ∨
      session.state = .resending
  · rw [if_pos waiting]
    cases present : message.fields.tryGet Tag.TestReqID with
    | none =>
        have answers : session.Answers message := by
          intro testReqID impossible
          rw [present] at impossible
          cases impossible
        exact absurd answers (ignored waiting)
    | some testReqID =>
        cases expects : session.expectedTestRequestId with
        | none => exact preserves_off_of_same rfl
        | some expected =>
            simp only
            by_cases wrong : testReqID.value ≠ decimal expected.toNat
            · rw [if_pos wrong, record_bind]
              intro off
              exact close_keeps (shifts_off world).toSuits.speaks _ off
            · have answers : session.Answers message := by
                intro other otherPresent
                rw [present] at otherPresent
                injection otherPresent with same
                rw [← same]
                exact ⟨expected, expects, not_not.mp wrong⟩
              exact absurd answers (ignored waiting)
  · rw [if_neg waiting]
    exact id

theorem logOn_left (environment : Environment) (session : Session) :
    (logOn environment session).2.state = .loggedOn ∧
      (logOn environment session).2.incomingMsgSeqNum =
        session.incomingMsgSeqNum ∧
      (logOn environment session).2.incomingTargetMsgSeqNum =
        session.incomingTargetMsgSeqNum := by
  have entered : (setState .loggedOn session).2.incomingMsgSeqNum =
        session.incomingMsgSeqNum ∧
      (setState .loggedOn session).2.incomingTargetMsgSeqNum =
        session.incomingTargetMsgSeqNum := by
    by_cases same : session.state = .loggedOn
    · rw [setState_of_eq same]
      exact ⟨rfl, rfl⟩
    · rw [setState_of_ne same]
      exact ⟨rfl, rfl⟩
  have started := startDefibrillator_untouched environment
    (setState .loggedOn session).2
  have returned : (setState .loggedOn session).1 = .ok () :=
    setState_yields .loggedOn session
  have run : logOn environment session =
      startDefibrillator environment (setState .loggedOn session).2 := by
    unfold logOn
    rw [Call.bind_apply]
    revert returned
    generalize setState .loggedOn session = called
    intro returned
    rcases called with ⟨_, after⟩
    cases returned
    rfl
  rw [run, started.state, started.incoming, started.target]
  exact ⟨(setState_ends .loggedOn).left session, entered⟩

theorem onMessageRead_logsOn (logsOn : session.LogsOn message) :
    (onMessageRead (world.environment 0) message session).2.state = .loggedOn ∧
      (onMessageRead (world.environment 0) message session).2.incomingMsgSeqNum =
        session.incomingMsgSeqNum + 1 ∧
      (onMessageRead (world.environment 0) message
          session).2.incomingTargetMsgSeqNum = session.incomingTargetMsgSeqNum := by
  have answered := @processHeartbeat_logOn message
    ((session.told message).counted message) (world.environment 0) logsOn.waiting
    logsOn.answers
  rw [onMessageRead_dispatches _ logsOn.sequence.validates logsOn.typed (by decide)
    logsOn.numbered logsOn.sequence.read, dispatch, if_pos rfl, answered]
  exact logOn_left _ _

/-! ### Every step -/

theorem processNumbered_off {msgType : Bytes}
    (waits : msgType = MsgType.Heartbeat →
      message.MsgSeqNum = .ok session.incomingMsgSeqNum →
      (session.state = .loggingOn ∨ session.state = .resetting ∨
        session.state = .resending) → ¬ session.Answers message) :
    Preserves IsOff session
      (processNumbered (world.environment 0) msgType message session).2 := by
  have shifts := shifts_off world
  have marked : Keeps (Preserves IsOff) (record (.accepted message)) :=
    fun _ => preserves_off_of_same rfl
  by_cases isHeartbeat : msgType = MsgType.Heartbeat
  · have notLogon : msgType ≠ MsgType.Logon := by
      rw [isHeartbeat]
      decide
    rcases validateSequenceNumbers_spec world message session with
      ⟨run, expected⟩ | ⟨fails, -⟩
    · cases read : message.MsgSeqNum with
      | error exception =>
          unfold processNumbered checkNumber
          rw [if_neg notLogon, Call.bind_of_ok run, if_pos rfl, read]
          exact id
      | ok number =>
          rw [expected number read] at read
          rw [processNumbered_expected _ notLogon read, dispatch, if_pos isHeartbeat]
          have counted := @processHeartbeat_off world message
            (session.counted message) (waits isHeartbeat read)
          exact counted
    · unfold processNumbered checkNumber
      rw [if_neg notLogon, Call.bind_if_snd_of_ne fails _ ()]
      exact validateSequenceNumbers_keeps shifts.turns message session
  · have kept : Keeps (Preserves IsOff)
        (processNumbered (world.environment 0) msgType message) := by
      apply Keeps.bind
      · apply Keeps.ite
        · intro _
          exact processLogon_keeps shifts message
        · intro _
          exact validateSequenceNumbers_keeps shifts.turns message
      · intro proceeds
        apply Keeps.ite
        · intro _
          apply (shifts.toSuits.speaks.ofExcept message.MsgSeqNum).bind
          intro msgSeqNum
          apply marked.bind
          intro _
          apply Keeps.bind
          · exact shifts.turns.assign fun _ => ⟨⟨rfl, rfl, rfl, rfl, id⟩, rfl, rfl⟩
          · intro _
            exact dispatch_keeps_of_ne shifts.toSuits isHeartbeat message
        · intro _
          exact Call.keeps_pure ()
    exact kept session

theorem onMessageRead_off (waits : ¬ session.LogsOn message) :
    Preserves IsOff session
      (onMessageRead (world.environment 0) message session).2 := by
  have shifts := shifts_off world
  cases onMessageRead_reading (world.environment 0) session message with
  | refused _ same =>
      rw [same]
      exact validate_keeps shifts.toSuits.speaks message (session.told message)
  | unread _ _ _ _ same =>
      rw [same]
      exact id
  | reset _ _ _ _ _ same =>
      rw [same]
      exact processSequenceReset_keeps shifts.turns message (session.told message)
  | repeated _ _ _ _ _ same =>
      rw [same]
      exact id
  | numbered validates msgType typed numbered same =>
      rw [same]
      have kept := @processNumbered_off world message (session.told message) msgType
      apply kept
      intro isHeartbeat read waiting answers
      rw [isHeartbeat] at typed
      exact waits ⟨⟨validates, read⟩, numbered, typed, waiting, answers⟩

end Heartbeats

/-! ### Every run -/

/-- A session that was resending is logged on only when it has come to the
highest number of the recovery. -/
def LogsOnRecovered (before after : Session) : Prop :=
  before.state = .resending → after.state = .loggedOn →
    after.incomingTargetMsgSeqNum ≤ after.incomingMsgSeqNum

/-- A Heartbeat logs the session on while numbers up to the target of the
recovery are missing behind it. -/
def LogsOnEarly (session : Session) (input : Input) : Prop :=
  session.state = .resending ∧
    session.incomingMsgSeqNum + 1 < session.incomingTargetMsgSeqNum ∧
    ∃ message, input = .received message ∧ session.LogsOn message

theorem step_off {session : Session} {input : Input}
    (waits : ∀ message, input = .received message → ¬ session.LogsOn message) :
    Preserves IsOff session (step (world.environment 0) input session).2 := by
  have suits := (shifts_off world).toSuits
  cases input with
  | «open» => exact open_keeps suits.speaks session
  | close => exact close_keeps suits.speaks session
  | received message => exact onMessageRead_off world (waits message rfl)
  | heartbeatTimer => exact defibrillate_keeps suits.speaks session
  | testRequestTimer => exact testRequestTimer_keeps suits.speaks session
  | send message options => exact send_off world message options session
  | closed => exact suits.left session

theorem step_logsOnRecovered_iff (session : Session) (input : Input) :
    LogsOnRecovered session (step (world.environment 0) input session).2 ↔
      ¬ session.LogsOnEarly input := by
  by_cases logs : ∃ message, input = .received message ∧ session.LogsOn message
  · obtain ⟨message, rfl, logsOn⟩ := logs
    obtain ⟨entered, moved, target⟩ := onMessageRead_logsOn world logsOn
    change LogsOnRecovered session (onMessageRead (world.environment 0) message
      session).2 ↔ _
    unfold LogsOnRecovered
    rw [entered, moved, target]
    constructor
    · rintro recovered ⟨resending, early, -⟩
      exact absurd (recovered resending rfl) (UInt32.not_le.mpr early)
    · intro late resending _
      apply UInt32.not_lt.mp
      intro early
      exact late ⟨resending, early, message, rfl, logsOn⟩
  · have off := @step_off world session input fun message received logsOn =>
      logs ⟨message, received, logsOn⟩
    apply iff_of_true
    · intro resending entered
      have wasOff : session.IsOff := by
        unfold IsOff
        rw [resending]
        decide
      exact absurd entered (off wasOff)
    · rintro ⟨-, -, early⟩
      exact logs early

/-- In every run, the steps that log a session on before it has recovered are
those in which such a Heartbeat comes. -/
theorem logs_on_recovered_iff (inputs : List Input) (start : Session) :
    ∀ moment ∈ trace (world.environment 0) inputs start,
      LogsOnRecovered moment.1 (step (world.environment 0) moment.2 moment.1).2 ↔
        ¬ moment.1.LogsOnEarly moment.2 := by
  intro moment _
  exact step_logsOnRecovered_iff world moment.1 moment.2

/-- Numbers 2 to 5 are missing when the first Heartbeat logs the session on. -/
theorem requesting_logs_on_early :
    (requesting false).state = .resending ∧
      (requesting false).incomingTargetMsgSeqNum = 5 ∧
      (step (World.plain.environment 0) (.received firstHeartbeat)
        (requesting false)).2.state = .loggedOn ∧
      (step (World.plain.environment 0) (.received firstHeartbeat)
        (requesting false)).2.incomingMsgSeqNum = 2 ∧
      ¬ LogsOnRecovered (requesting false) (step (World.plain.environment 0)
        (.received firstHeartbeat) (requesting false)).2 := by
  refine ⟨by decide, by decide, by decide, by decide, ?_⟩
  intro recovered
  exact absurd (recovered (by decide) (by decide)) (by decide)

def answeringHeartbeat : Message :=
  toInitiator MsgType.Heartbeat (ascii "51") (ascii "6")
    [⟨Tag.TestReqID, ascii "0"⟩] 63 (ascii "063")

theorem logs_on_recovered_iff_filled :
    (run (World.plain.environment 0)
        [.received fillsToSixth, .received answeringHeartbeat]
        (requesting false)).state = .loggedOn ∧
      LogsOnRecovered
        (run (World.plain.environment 0) [.received fillsToSixth] (requesting false))
        (run (World.plain.environment 0)
          [.received fillsToSixth, .received answeringHeartbeat]
          (requesting false)) := by
  refine ⟨by decide, ?_⟩
  have late : ¬ (run (World.plain.environment 0) [.received fillsToSixth]
      (requesting false)).LogsOnEarly (.received answeringHeartbeat) := by
    rintro ⟨-, early, -⟩
    exact absurd early (by decide)
  exact (logs_on_recovered_iff World.plain
    [.received fillsToSixth, .received answeringHeartbeat] (requesting false)
    (_, .received answeringHeartbeat)
    (List.mem_cons_of_mem _ List.mem_cons_self)).mpr late

end Session

end Crocofix

/-
What a session has asked for when it drops a message.

A message whose number is too high is dropped.  Outside a recovery the session
asks for everything up to that message; during a recovery it raises its target
instead, so the request that started the recovery may end below the message.
-/

import Crocofix.Session.Incoming

namespace Crocofix

open Numeral

theorem Event.not_restarts_of_isQuiet {event : Event} (quiet : event.isQuiet) :
    event.restarts = false := by
  cases event with
  | written message options => simpa [Event.isQuiet] using quiet
  | refused message options exception => simpa [Event.isQuiet] using quiet
  | _ => rfl

def Event.requestedEnd : Event → Option Bytes
  | .written message _ | .refused message _ _ =>
      if message.MsgType = .ok MsgType.ResendRequest then
        (message.fields.tryGet Tag.EndSeqNo).map Field.value
      else none
  | _ => none

theorem Event.RequestsResend.requestedEnd {event : Event} {first last : UInt32}
    (requests : event.RequestsResend first last) :
    event.requestedEnd = some (decimal last.toNat) := by
  cases event with
  | written message options =>
      exact (if_pos requests.1).trans requests.2.2
  | refused message options exception =>
      exact (if_pos requests.1).trans requests.2.2
  | _ => cases requests

namespace Session

/-! ### The events since the last reset -/

def sinceReset (history : List Event) : List Event :=
  history.takeWhile fun event => !event.restarts

theorem sinceReset_append {newer : List Event}
    (kept : ∀ event ∈ newer, event.restarts = false) (history : List Event) :
    sinceReset (newer ++ history) = newer ++ sinceReset history := by
  apply List.takeWhile_append_of_pos
  intro event member
  rw [kept event member]
  rfl

theorem Quietly.mem_sinceReset {before after : List Event} {event : Event}
    (quietly : Quietly before after) (member : event ∈ sinceReset before) :
    event ∈ sinceReset after := by
  obtain ⟨newer, rfl, quiet⟩ := quietly
  rw [sinceReset_append fun other inside =>
    Event.not_restarts_of_isQuiet (quiet other inside)]
  exact List.mem_append_right newer member

/-- A session that waits for missing messages has asked for them from a number
on that is not above the expected one.  Where the peer announces what it
expects, the same state also means that the session resends messages itself. -/
def Recovers (session : Session) : Prop :=
  session.options.useNextExpectedMsgSeqNum = false →
    session.state = .resending →
      ∃ event ∈ sinceReset session.history, ∃ first last,
        event.RequestsResend first last ∧ first ≤ session.incomingMsgSeqNum

theorem Steady.recovers {before after : Session} (steady : Steady before after)
    (recovers : Recovers before) : Recovers after := by
  intro off resending
  have offBefore := steady.nextExpected.symm.trans off
  obtain ⟨event, member, first, last, requests, low⟩ :=
    recovers offBefore (steady.state offBefore resending)
  refine ⟨event, steady.history.mem_sinceReset member, first, last, requests, ?_⟩
  rw [steady.incoming]
  exact low

theorem Discards.recovers {number : UInt32} {before after : Session}
    (discards : Discards number before after) (recovers : Recovers before) :
    Recovers after := by
  intro off _
  cases discards with
  | requested idle high incoming target nextExpected history =>
      obtain ⟨newer, request, between, grown, requests, quiet, newerQuiet, -⟩ :=
        history
      refine ⟨request, ?_, _, _, requests, UInt32.le_of_eq incoming.symm⟩
      rw [grown, sinceReset_append fun event member =>
        Event.not_restarts_of_isQuiet (newerQuiet event member)]
      apply List.mem_append_right
      unfold sinceReset
      rw [List.takeWhile_cons_of_pos]
      · exact List.mem_cons_self
      · rw [Event.not_restarts_of_isQuiet quiet]
        rfl
  | extended recovering high same =>
      rw [same] at off ⊢
      obtain ⟨event, member, first, last, requests, low⟩ :=
        recovers off recovering
      refine ⟨event, ?_, first, last, requests, low⟩
      exact List.mem_cons_of_mem _ member

variable (world : World)

/-! ### Every step -/

theorem step_nextExpected (session : Session) (input : Input) :
    (step (world.environment 0) input session).2.options.useNextExpectedMsgSeqNum =
      session.options.useNextExpectedMsgSeqNum := by
  cases step_outcome world input session with
  | steady steady => exact steady.nextExpected
  | discarded middle number untouched discards =>
      rw [← untouched.nextExpected]
      cases discards with
      | requested idle high incoming target nextExpected history =>
          exact nextExpected
      | extended recovering high same => rw [same]
  | filled middle number first greater last =>
      exact last.nextExpected.trans first.nextExpected
  | accepted message number middle received takes first last =>
      exact last.nextExpected.trans first.nextExpected
  | restarted resets restarts => exact restarts.nextExpected

theorem step_recovers {session : Session} {input : Input}
    (forward : ¬ Rewinds session input) (recovers : Recovers session) :
    Recovers (step (world.environment 0) input session).2 := by
  cases step_outcome world input session with
  | steady steady => exact steady.recovers recovers
  | discarded middle number untouched discards =>
      exact discards.recovers (untouched.steady.recovers recovers)
  | filled middle number first greater last =>
      apply last.recovers
      intro off resending
      obtain ⟨event, member, begins, ends, requests, low⟩ :=
        first.recovers recovers off resending
      refine ⟨event, member, begins, ends, requests, ?_⟩
      rw [first.incoming] at low
      exact UInt32.le_trans low (UInt32.le_of_lt greater)
  | accepted message number middle received takes first last =>
      apply last.recovers
      intro off resending
      obtain ⟨event, member, begins, ends, requests, low⟩ :=
        first.recovers recovers off resending
      refine ⟨event, List.mem_cons_of_mem _ member, begins, ends, requests, ?_⟩
      rw [first.incoming] at low
      rcases takes.expected with ⟨resets, resetting⟩ | ⟨ordinary, -, -⟩
      · -- A Logon confirms a reset while the session is no longer recovering.
        have offBefore := first.nextExpected.symm.trans off
        have recovering := first.state offBefore resending
        rw [resetting offBefore] at recovering
        cases recovering
      · by_cases below : number + 1 < session.incomingMsgSeqNum
        · exact absurd ⟨message, number, received, takes, ordinary, below⟩ forward
        · exact UInt32.le_trans low (UInt32.not_lt.mp below)
  | restarted resets restarts =>
      intro off resending
      exact absurd resending (restarts.state (restarts.nextExpected.symm.trans off))

theorem step_discarded {session : Session} {input : Input}
    {received expected : UInt32}
    (dropped : .discarded received expected ∈
      newEvents session (step (world.environment 0) input session).2) :
    ∃ middle, Untouched session middle ∧ expected = session.incomingMsgSeqNum ∧
      Discards received middle (step (world.environment 0) input session).2 := by
  have notQuiet {newer : List Event} (quiet : ∀ event ∈ newer, event.isQuiet)
      (member : Event.discarded received expected ∈ newer) : False :=
    Quietly.not_discarded quiet received expected member
  cases step_outcome world input session with
  | steady steady =>
      obtain ⟨newer, grown, quiet⟩ := steady.history
      rw [newEvents_eq grown] at dropped
      exact (notQuiet quiet dropped).elim
  | discarded middle number untouched discards =>
      obtain ⟨early, earlyEq, earlyQuiet⟩ := untouched.history
      have named : Event.discarded received expected =
          .discarded number middle.incomingMsgSeqNum := by
        cases discards with
        | requested idle high incoming target nextExpected history =>
            obtain ⟨newer, request, between, grown, -, quiet, newerQuiet,
              betweenQuiet⟩ := history
            have whole : (step (world.environment 0) input session).2.history =
                (newer ++ request :: (between ++
                  .discarded number middle.incomingMsgSeqNum :: early)) ++
                    session.history := by
              rw [grown, earlyEq]
              simp
            rw [newEvents_eq whole] at dropped
            rcases List.mem_append.mp dropped with inside | rest
            · exact (notQuiet newerQuiet inside).elim
            · rcases List.mem_cons.mp rest with here | rest
              · rw [← here] at quiet
                cases quiet
              · rcases List.mem_append.mp rest with inside | rest
                · exact (notQuiet betweenQuiet inside).elim
                · rcases List.mem_cons.mp rest with here | inside
                  · exact here
                  · exact (notQuiet earlyQuiet inside).elim
        | extended recovering high same =>
            have whole : (step (world.environment 0) input session).2.history =
                (.discarded number middle.incomingMsgSeqNum :: early) ++
                  session.history := by
              rw [same]
              simp [earlyEq]
            rw [newEvents_eq whole] at dropped
            rcases List.mem_cons.mp dropped with here | inside
            · exact here
            · exact (notQuiet earlyQuiet inside).elim
      injection named with sameNumber sameExpected
      rw [← sameNumber] at discards
      exact ⟨middle, untouched, sameExpected.trans untouched.incoming, discards⟩
  | filled middle number first greater last =>
      obtain ⟨early, earlyEq, earlyQuiet⟩ := first.history
      obtain ⟨late, lateEq, lateQuiet⟩ := last.history
      have whole : (step (world.environment 0) input session).2.history =
          (late ++ early) ++ session.history := by
        rw [lateEq]
        simp [earlyEq]
      rw [newEvents_eq whole] at dropped
      rcases List.mem_append.mp dropped with inside | inside
      · exact (notQuiet lateQuiet inside).elim
      · exact (notQuiet earlyQuiet inside).elim
  | accepted message number middle came takes first last =>
      obtain ⟨early, earlyEq, earlyQuiet⟩ := first.history
      obtain ⟨late, lateEq, lateQuiet⟩ := last.history
      have whole : (step (world.environment 0) input session).2.history =
          (late ++ .accepted message :: early) ++ session.history := by
        rw [lateEq]
        simp [earlyEq]
      rw [newEvents_eq whole] at dropped
      rcases List.mem_append.mp dropped with inside | rest
      · exact (notQuiet lateQuiet inside).elim
      · rcases List.mem_cons.mp rest with impossible | inside
        · cases impossible
        · exact (notQuiet earlyQuiet inside).elim
  | restarted resets restarts =>
      obtain ⟨newer, grown, -, kept⟩ := restarts.history
      rw [newEvents_eq grown] at dropped
      exact absurd dropped (kept received expected)

/-! ### Every run -/

theorem recovers_create (options : SessionOptions) (incoming outgoing : UInt32) :
    Recovers (create options incoming outgoing) := by
  intro _ resending
  cases resending


/-- Whenever a message is dropped, its number is above the expected one.  A
session that is not recovering asks for the messages from the expected one up to
the dropped one.  A session that is recovering raises its target to the dropped
one, and where it resends nothing itself, a request since the last reset begins
at or below the expected number. -/
theorem discarded_is_targeted (options : SessionOptions)
    (incoming outgoing : UInt32) (inputs : List Input) :
    ∀ moment ∈ trace (world.environment 0) inputs
        (create options incoming outgoing),
      ∀ received expected, .discarded received expected ∈ newEvents moment.1
          (step (world.environment 0) moment.2 moment.1).2 →
        expected = moment.1.incomingMsgSeqNum ∧ expected < received ∧
        (moment.1.state ≠ .resending →
          (step (world.environment 0) moment.2
            moment.1).2.incomingTargetMsgSeqNum = received ∧
          ∃ event ∈ newEvents moment.1
              (step (world.environment 0) moment.2 moment.1).2,
            event.RequestsResend expected received) ∧
        (moment.1.state = .resending →
          received ≤ (step (world.environment 0) moment.2
            moment.1).2.incomingTargetMsgSeqNum ∧
          (options.useNextExpectedMsgSeqNum = false →
            (∀ other ∈ trace (world.environment 0) inputs
              (create options incoming outgoing), ¬ Rewinds other.1 other.2) →
            ∃ event ∈ sinceReset moment.1.history, ∃ first last,
              event.RequestsResend first last ∧ first ≤ expected)) := by
  intro moment member received expected dropped
  obtain ⟨middle, untouched, sameExpected, discards⟩ :=
    step_discarded world dropped
  refine ⟨sameExpected, ?_, ?_, ?_⟩
  · rw [sameExpected, ← untouched.incoming]
    cases discards with
    | requested idle high incoming target nextExpected history => exact high
    | extended recovering high same => exact high
  · intro idle
    cases discards with
    | requested _ high incoming target nextExpected history =>
        refine ⟨target, ?_⟩
        obtain ⟨newer, request, between, grown, requests, -⟩ := history
        obtain ⟨early, earlyEq, -⟩ := untouched.history
        have whole :
            (step (world.environment 0) moment.2 moment.1).2.history =
              (newer ++ request :: (between ++
                .discarded received middle.incomingMsgSeqNum :: early)) ++
                  moment.1.history := by
          rw [grown, earlyEq]
          simp
        rw [newEvents_eq whole, sameExpected, ← untouched.incoming]
        exact ⟨request, by simp, requests⟩
    | extended recovering high same =>
        rw [untouched.state] at recovering
        exact absurd recovering idle
  · intro recovering
    constructor
    · cases discards with
      | requested idle _ _ _ _ _ =>
          rw [untouched.state] at idle
          exact absurd recovering idle
      | extended _ high same =>
          rw [same]
          change received ≤ if middle.incomingTargetMsgSeqNum ≤ received then
            received else middle.incomingTargetMsgSeqNum
          split
          · exact UInt32.le_refl received
          · next above => exact UInt32.le_of_lt (UInt32.not_le.mp above)
    · intro off forward
      have kept := @trace_invariant (world.environment 0)
        (fun session => session.options.useNextExpectedMsgSeqNum = false)
        inputs (create options incoming outgoing) off
        (fun other _ holds =>
          (step_nextExpected world other.1 other.2).trans holds)
        moment member
      have recovers := trace_invariant (recovers_create options incoming outgoing)
        (fun other inside => step_recovers world (forward other inside))
        moment member
      rw [sameExpected]
      exact recovers kept recovering

/-! ### Messages that are dropped and were not asked for -/

def numberedHeartbeat (number : Bytes) (checksum : UInt32) (trailer : Bytes) :
    Message where
  fields :=
    [⟨Tag.BeginString, ascii "FIX.4.4"⟩, ⟨Tag.BodyLength, ascii "45"⟩,
      ⟨Tag.MsgType, MsgType.Heartbeat⟩, ⟨Tag.SenderCompID, ascii "I"⟩,
      ⟨Tag.TargetCompID, ascii "A"⟩, ⟨Tag.MsgSeqNum, number⟩,
      ⟨Tag.SendingTime, ascii "20260101-00:00:00.000"⟩, ⟨Tag.CheckSum, trailer⟩]
  decodeChecksum := checksum
  decodeChecksumValid := true

def askingAcceptor : Session :=
  run (World.plain.environment 0)
    [.open, .received (announcingLogon (ascii "5") 128 (ascii "128"))]
    (create
      { announcingAcceptor.options with useNextExpectedMsgSeqNum := false } 1 1)

def resendingAcceptor : Session :=
  run (World.plain.environment 0)
    [.open, .received (announcingLogon (ascii "1") 124 (ascii "124"))]
    (create announcingAcceptor.options 1 5)

/-- An acceptor drops message 7 after it has asked for 1 to 5 only.  Another one, which
resends messages itself, drops message 9 and has asked for nothing. -/
theorem discarded_but_not_requested :
    (Event.discarded 7 1 ∈ newEvents askingAcceptor
        (step (World.plain.environment 0)
          (.received (numberedHeartbeat (ascii "7") 65 (ascii "065")))
          askingAcceptor).2 ∧
      ¬ ∃ event ∈ (step (World.plain.environment 0)
          (.received (numberedHeartbeat (ascii "7") 65 (ascii "065")))
          askingAcceptor).2.history,
        ∃ first last, event.RequestsResend first last ∧ first ≤ 1 ∧ 7 ≤ last) ∧
    Event.discarded 9 2 ∈ newEvents resendingAcceptor
        (step (World.plain.environment 0)
          (.received (numberedHeartbeat (ascii "9") 67 (ascii "067")))
          resendingAcceptor).2 ∧
      ¬ ∃ event ∈ (step (World.plain.environment 0)
          (.received (numberedHeartbeat (ascii "9") 67 (ascii "067")))
          resendingAcceptor).2.history,
        ∃ first last, event.RequestsResend first last := by
  refine ⟨⟨by decide, ?_⟩, by decide, ?_⟩
  · have ends : ∀ event ∈ (step (World.plain.environment 0)
        (.received (numberedHeartbeat (ascii "7") 65 (ascii "065")))
        askingAcceptor).2.history,
        event.requestedEnd = none ∨ event.requestedEnd = some (decimal 5) := by
      decide
    rintro ⟨event, member, first, last, requests, -, high⟩
    have value := ends event member
    rw [requests.requestedEnd] at value
    rcases value with impossible | same
    · cases impossible
    · injection same with same
      rw [show last = 5 from UInt32.toNat_inj.mp (decimal_injective same)] at high
      exact absurd high (by decide)
  · have none_requested : ∀ event ∈ (step (World.plain.environment 0)
        (.received (numberedHeartbeat (ascii "9") 67 (ascii "067")))
        resendingAcceptor).2.history, event.requestedEnd = none := by decide
    rintro ⟨event, member, first, last, requests⟩
    have value := none_requested event member
    rw [requests.requestedEnd] at value
    cases value

theorem discarded_is_targeted_heartbeat :
    7 ≤ (step (World.plain.environment 0)
        (.received (numberedHeartbeat (ascii "7") 65 (ascii "065")))
        askingAcceptor).2.incomingTargetMsgSeqNum ∧
      ∃ event ∈ sinceReset askingAcceptor.history, ∃ first last,
        event.RequestsResend first last ∧ first ≤ 1 := by
  have ahead : ∀ moment ∈ trace (World.plain.environment 0)
      [.open, .received (announcingLogon (ascii "5") 128 (ascii "128")),
        .received (numberedHeartbeat (ascii "7") 65 (ascii "065"))]
      (create { announcingAcceptor.options with useNextExpectedMsgSeqNum := false }
        1 1), moment.1.Ahead moment.2 := by decide
  have targeted := discarded_is_targeted World.plain
    { announcingAcceptor.options with useNextExpectedMsgSeqNum := false } 1 1
    [.open, .received (announcingLogon (ascii "5") 128 (ascii "128")),
      .received (numberedHeartbeat (ascii "7") 65 (ascii "065"))]
    (askingAcceptor, .received (numberedHeartbeat (ascii "7") 65 (ascii "065")))
    (List.mem_cons_of_mem _ (List.mem_cons_of_mem _ List.mem_cons_self)) 7 1
    (by decide)
  obtain ⟨-, -, -, recovering⟩ := targeted
  obtain ⟨high, requested⟩ := recovering (by decide)
  refine ⟨high, requested rfl ?_⟩
  intro moment member
  exact not_rewinds_of_ahead (ahead moment member)

end Session

end Crocofix

/-
The incoming number never decreases, but for a step that sends or accepts a
Logon that resets the sequence numbers.

The exception that the source misses: where the peer announces the number that
it expects next, the number of a Logon is assigned without being compared.
-/

import Crocofix.Session.Accepting

namespace Crocofix

open Numeral

/-- The event sends or accepts a Logon that resets the sequence numbers. -/
def Event.resets : Event → Bool
  | .accepted message => decide (message.isResetLogon = .ok true)
  | event => event.restarts

theorem Event.resets_of_restarts {event : Event} (restarts : event.restarts) :
    event.resets := by
  cases event with
  | accepted message => cases restarts
  | _ => exact restarts

theorem Event.not_resets_of_isQuiet {event : Event} (quiet : event.isQuiet) :
    event.resets = false := by
  cases event with
  | accepted message => cases quiet
  | written sent options => simpa [Event.isQuiet, Event.resets] using quiet
  | refused sent options exception =>
      simpa [Event.isQuiet, Event.resets] using quiet
  | _ => rfl

namespace Session

def newEvents (before after : Session) : List Event :=
  after.history.take (after.history.length - before.history.length)

theorem newEvents_eq {before after : Session} {newer : List Event}
    (grown : after.history = newer ++ before.history) :
    newEvents before after = newer := by
  simp [newEvents, grown]

def KeepsIncoming (before after : Session) : Prop :=
  before.incomingMsgSeqNum ≤ after.incomingMsgSeqNum ∨
    ∃ event ∈ newEvents before after, event.resets

instance (before after : Session) : Decidable (KeepsIncoming before after) :=
  inferInstanceAs (Decidable (_ ∨ _))

/-- The session takes a message that resets nothing, and the number after it
is below the expected one. -/
def Rewinds (session : Session) (input : Input) : Prop :=
  ∃ message number, input = .received message ∧
    session.Takes message number ∧ message.isResetLogon = .ok false ∧
    number + 1 < session.incomingMsgSeqNum

/-- A message numbered at least as the one before the expected one. -/
def Ahead (session : Session) : Input → Bool
  | .received message =>
      match message.MsgSeqNum with
      | .ok number => decide (session.incomingMsgSeqNum ≤ number + 1)
      | .error _ => true
  | _ => true

theorem not_rewinds_of_ahead {session : Session} {input : Input}
    (ahead : session.Ahead input) : ¬ Rewinds session input := by
  rintro ⟨message, number, rfl, takes, -, low⟩
  simp only [Ahead, takes.read] at ahead
  exact absurd low (UInt32.not_lt.mpr (of_decide_eq_true ahead))

theorem Steady.keepsIncoming {before after : Session}
    (steady : Steady before after) : KeepsIncoming before after :=
  .inl (UInt32.le_of_eq steady.incoming.symm)

variable (world : World)

/-! ### Every step -/

theorem step_keepsIncoming {session : Session} {input : Input}
    (forward : ¬ Rewinds session input) :
    KeepsIncoming session (step (world.environment 0) input session).2 := by
  cases step_outcome world input session with
  | steady steady => exact steady.keepsIncoming
  | discarded middle number untouched discards =>
      left
      rw [← untouched.incoming]
      cases discards with
      | requested idle high incoming target nextExpected history =>
          exact UInt32.le_of_eq incoming.symm
      | extended recovering high same =>
          rw [same]
          exact UInt32.le_refl _
  | filled middle number first greater last =>
      left
      rw [last.incoming]
      exact UInt32.le_of_lt greater
  | accepted message number middle received takes first last =>
      rcases takes.expected with ⟨resets, -⟩ | ⟨ordinary, -, -⟩
      · right
        obtain ⟨early, earlyEq, -⟩ := first.history
        obtain ⟨late, lateEq, -⟩ := last.history
        have grown : (step (world.environment 0) input session).2.history =
            (late ++ .accepted message :: early) ++ session.history := by
          rw [lateEq]
          simp [earlyEq]
        rw [newEvents_eq grown]
        refine ⟨.accepted message, by simp, ?_⟩
        exact decide_eq_true resets
      · left
        by_cases low : number + 1 < session.incomingMsgSeqNum
        · exact absurd ⟨message, number, received, takes, ordinary, low⟩ forward
        · rw [last.incoming]
          exact UInt32.not_lt.mp low
  | restarted resets restarts =>
      right
      obtain ⟨newer, grown, ⟨event, member, restarted⟩, -⟩ := restarts.history
      rw [newEvents_eq grown]
      exact ⟨event, member, Event.resets_of_restarts restarted⟩

theorem not_keepsIncoming_of_rewinds {session : Session} {input : Input}
    (accepts : world.Accepts) (rewinds : Rewinds session input) :
    ¬ KeepsIncoming session (step (world.environment 0) input session).2 := by
  obtain ⟨message, number, rfl, takes, ordinary, low⟩ := rewinds
  obtain ⟨middle, first, last⟩ := onMessageRead_takes accepts takes ordinary
  obtain ⟨early, earlyEq, earlyQuiet⟩ := first.history
  obtain ⟨late, lateEq, lateQuiet⟩ := last.history
  have grown : (step (world.environment 0) (.received message) session).2.history =
      (late ++ .accepted message :: early) ++ session.history := by
    change (onMessageRead (world.environment 0) message session).2.history = _
    rw [lateEq]
    simp [earlyEq]
  have moved : (step (world.environment 0) (.received message)
      session).2.incomingMsgSeqNum = number + 1 := last.incoming
  rintro (forward | ⟨event, member, resets⟩)
  · rw [moved] at forward
    exact absurd low (UInt32.not_lt.mpr forward)
  · rw [newEvents_eq grown] at member
    rcases List.mem_append.mp member with new | old
    · rw [Event.not_resets_of_isQuiet (lateQuiet event new)] at resets
      cases resets
    · rcases List.mem_cons.mp old with here | old
      · rw [here] at resets
        have flagged := of_decide_eq_true resets
        rw [ordinary] at flagged
        cases flagged
      · rw [Event.not_resets_of_isQuiet (earlyQuiet event old)] at resets
        cases resets

/-! ### Every run -/

theorem step_extends (session : Session) (input : Input) :
    ∃ newer, (step (world.environment 0) input session).2.history =
      newer ++ session.history := by
  cases step_outcome world input session with
  | steady steady =>
      obtain ⟨newer, grown, -⟩ := steady.history
      exact ⟨newer, grown⟩
  | discarded middle number untouched discards =>
      obtain ⟨early, earlyEq, -⟩ := untouched.history
      cases discards with
      | requested idle high incoming target nextExpected history =>
          obtain ⟨newer, request, between, grown, -⟩ := history
          refine ⟨newer ++ request :: (between ++
            .discarded number middle.incomingMsgSeqNum :: early), ?_⟩
          rw [grown]
          simp [earlyEq]
      | extended recovering high same =>
          refine ⟨.discarded number middle.incomingMsgSeqNum :: early, ?_⟩
          rw [same]
          simp [earlyEq]
  | filled middle number first greater last =>
      obtain ⟨early, earlyEq, -⟩ := first.history
      obtain ⟨late, lateEq, -⟩ := last.history
      refine ⟨late ++ early, ?_⟩
      rw [lateEq]
      simp [earlyEq]
  | accepted message number middle received takes first last =>
      obtain ⟨early, earlyEq, -⟩ := first.history
      obtain ⟨late, lateEq, -⟩ := last.history
      refine ⟨late ++ .accepted message :: early, ?_⟩
      rw [lateEq]
      simp [earlyEq]
  | restarted resets restarts =>
      obtain ⟨newer, grown, -⟩ := restarts.history
      exact ⟨newer, grown⟩

theorem KeepsIncoming.trans {first second third : Session}
    (left : KeepsIncoming first second) (right : KeepsIncoming second third)
    (started : ∃ newer, second.history = newer ++ first.history)
    (grown : ∃ newer, third.history = newer ++ second.history) :
    KeepsIncoming first third := by
  obtain ⟨early, earlyEq⟩ := started
  obtain ⟨late, lateEq⟩ := grown
  have both : third.history = (late ++ early) ++ first.history := by
    rw [lateEq, earlyEq, List.append_assoc]
  unfold KeepsIncoming at *
  rw [newEvents_eq earlyEq] at left
  rw [newEvents_eq lateEq] at right
  rw [newEvents_eq both]
  rcases left with low | ⟨event, member, resets⟩
  · rcases right with high | ⟨event, member, resets⟩
    · exact .inl (UInt32.le_trans low high)
    · exact .inr ⟨event, List.mem_append_left early member, resets⟩
  · exact .inr ⟨event, List.mem_append_right late member, resets⟩

theorem run_extends (inputs : List Input) (session : Session) :
    ∃ newer, (run (world.environment 0) inputs session).history =
      newer ++ session.history := by
  induction inputs generalizing session with
  | nil => exact ⟨[], rfl⟩
  | cons input rest ih =>
      obtain ⟨early, earlyEq⟩ := step_extends world session input
      obtain ⟨late, lateEq⟩ := ih (step (world.environment 0) input session).2
      refine ⟨late ++ early, ?_⟩
      rw [List.append_assoc, ← earlyEq, ← lateEq]
      rfl

theorem run_keepsIncoming {inputs : List Input} {session : Session}
    (kept : ∀ moment ∈ trace (world.environment 0) inputs session,
      KeepsIncoming moment.1 (step (world.environment 0) moment.2 moment.1).2) :
    KeepsIncoming session (run (world.environment 0) inputs session) := by
  induction inputs generalizing session with
  | nil => exact .inl (UInt32.le_refl _)
  | cons input rest ih =>
      have first := kept (session, input) List.mem_cons_self
      have others := ih fun moment member =>
        kept moment (List.mem_cons_of_mem _ member)
      exact first.trans others (step_extends world session input)
        (run_extends world rest _)

/-- In a run none of whose steps rewinds, no step and no part of the run
decreases the incoming number without a reset.  Where every write is taken, a
run that does so has a step that rewinds. -/
theorem incoming_never_decreases (inputs : List Input) (session : Session) :
    ((∀ moment ∈ trace (world.environment 0) inputs session,
        ¬ Rewinds moment.1 moment.2) →
      (∀ moment ∈ trace (world.environment 0) inputs session,
        KeepsIncoming moment.1 (step (world.environment 0) moment.2 moment.1).2) ∧
      KeepsIncoming session (run (world.environment 0) inputs session)) ∧
    (world.Accepts →
      (∀ moment ∈ trace (world.environment 0) inputs session,
        KeepsIncoming moment.1 (step (world.environment 0) moment.2 moment.1).2) →
      ∀ moment ∈ trace (world.environment 0) inputs session,
        ¬ Rewinds moment.1 moment.2) := by
  constructor
  · intro forward
    have kept : ∀ moment ∈ trace (world.environment 0) inputs session,
        KeepsIncoming moment.1
          (step (world.environment 0) moment.2 moment.1).2 :=
      fun moment member => step_keepsIncoming world (forward moment member)
    exact ⟨kept, run_keepsIncoming world kept⟩
  · intro accepts kept moment member rewinds
    exact not_keepsIncoming_of_rewinds world accepts rewinds (kept moment member)

/-! ### A Logon with a lower number -/

def announcingAcceptor : Session :=
  create
    { initiatorOptions with
      logonBehaviour := .acceptor
      senderCompID := ascii "A"
      targetCompID := ascii "I"
      useNextExpectedMsgSeqNum := true } 1 1

def announcingLogon (number : Bytes) (checksum : UInt32) (trailer : Bytes) :
    Message where
  fields :=
    [⟨Tag.BeginString, ascii "FIX.4.4"⟩, ⟨Tag.BodyLength, ascii "63"⟩,
      ⟨Tag.MsgType, MsgType.Logon⟩, ⟨Tag.SenderCompID, ascii "I"⟩,
      ⟨Tag.TargetCompID, ascii "A"⟩, ⟨Tag.MsgSeqNum, number⟩,
      ⟨Tag.SendingTime, ascii "20260101-00:00:00.000"⟩,
      ⟨Tag.EncryptMethod, EncryptMethod.None⟩, ⟨Tag.HeartBtInt, ascii "30"⟩,
      ⟨Tag.NextExpectedMsgSeqNum, ascii "1"⟩, ⟨Tag.CheckSum, trailer⟩]
  decodeChecksum := checksum
  decodeChecksumValid := true

def twoLogons : List Input :=
  [.open, .received (announcingLogon (ascii "5") 128 (ascii "128")),
    .received (announcingLogon (ascii "2") 125 (ascii "125"))]

theorem lower_logon_rewinds :
    (run (World.plain.environment 0) (twoLogons.take 2)
      announcingAcceptor).incomingMsgSeqNum = 6 ∧
    (run (World.plain.environment 0) twoLogons
      announcingAcceptor).incomingMsgSeqNum = 3 ∧
    ¬ ∀ moment ∈ trace (World.plain.environment 0) twoLogons announcingAcceptor,
      KeepsIncoming moment.1
        (step (World.plain.environment 0) moment.2 moment.1).2 := by
  refine ⟨?_, ?_, ?_⟩
  · decide
  · decide
  · decide

def oneLogon : List Input :=
  [.open, .received (announcingLogon (ascii "5") 128 (ascii "128")),
    .heartbeatTimer]

theorem incoming_never_decreases_oneLogon :
    ∀ moment ∈ trace (World.plain.environment 0) oneLogon announcingAcceptor,
      KeepsIncoming moment.1
        (step (World.plain.environment 0) moment.2 moment.1).2 := by
  apply ((incoming_never_decreases World.plain oneLogon announcingAcceptor).1 _).1
  have ahead : ∀ moment ∈ trace (World.plain.environment 0) oneLogon
      announcingAcceptor, moment.1.Ahead moment.2 := by decide
  intro moment member
  exact not_rewinds_of_ahead (ahead moment member)

end Session

end Crocofix

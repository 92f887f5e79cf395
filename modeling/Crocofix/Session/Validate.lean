/-
The conditions that the validators check.

A check that passes leaves the session as it was, whatever surrounds the
session, and a check that does not pass never lets the message through.
-/

import Crocofix.Session.Receive

namespace Crocofix

open Numeral

namespace Message

def HasChecksum (message : Message) : Prop :=
  ∃ received checksum, message.fields.tryGet Tag.CheckSum = some received ∧
    message.calculateChecksum = .ok checksum ∧
    Checksum.formatChecksum checksum = .ok received.value

def HasBodyLength (message : Message) : Prop :=
  (message.fields.tryGet Tag.BodyLength).map Field.value =
    some (decimal message.calculateBodyLength.toNat)

instance (message : Message) : Decidable message.HasBodyLength :=
  inferInstanceAs (Decidable (_ = _))

end Message

namespace Session

/-- A message that the session accepts as the first one it receives. -/
def AllowsFirst (session : Session) (message : Message) : Prop :=
  (session.options.logonBehaviour = .initiator ∨ session.logonReceived) ∨
    ∃ msgType, message.MsgType = .ok msgType ∧
      (msgType = MsgType.Logon ∨ msgType = MsgType.Reject ∨
        msgType = MsgType.Logout)

structure Validates (session : Session) (message : Message) : Prop where
  checksum : message.HasChecksum
  bodyLength : message.HasBodyLength
  beginString : (message.fields.tryGet Tag.BeginString).map Field.value =
    some session.options.beginString
  targetCompID : (message.fields.tryGet Tag.TargetCompID).map Field.value =
    some session.options.senderCompID
  senderCompID : (message.fields.tryGet Tag.SenderCompID).map Field.value =
    some session.options.targetCompID
  first : session.AllowsFirst message

/-- The check returns true exactly where the condition holds. -/
def Decides (check : Action Bool) (condition : Session → Prop) : Prop :=
  ∀ session, condition session ∧ check session = (.ok true, session) ∨
    ¬ condition session ∧ (check session).1 ≠ .ok true

theorem Decides.both {check next : Action Bool} {first second : Session → Prop}
    (decides : Decides check first) (decidesNext : Decides next second) :
    Decides (do if ← check then next else pure false)
      fun session => first session ∧ second session := by
  intro session
  rcases decides session with ⟨holds, run⟩ | ⟨fails, stopped⟩
  · rw [Call.bind_of_ok run, if_pos rfl]
    rcases decidesNext session with ⟨also, nextRun⟩ | ⟨nextFails, nextStopped⟩
    · exact .inl ⟨⟨holds, also⟩, nextRun⟩
    · exact .inr ⟨fun both => nextFails both.2, nextStopped⟩
  · exact .inr ⟨fun both => fails both.1, Call.bind_if_ne stopped next⟩

variable (environment : Environment)

theorem rejectAndClose_ne (message : Message) (text reason : Bytes)
    (session : Session) :
    (rejectAndClose environment message text reason session).1 ≠ .ok true := by
  unfold rejectAndClose
  rw [record_bind, Call.bind_apply]
  generalize sendReject environment message text (some reason) _ = called
  rcases called with ⟨exception | _, after⟩
  · simp
  · exact Call.bind_pure_ne close false after (by decide)

theorem validateChecksum_decides (message : Message) :
    Decides (validateChecksum environment message)
      fun _ => message.HasChecksum := by
  intro session
  unfold validateChecksum
  cases present : message.fields.tryGet Tag.CheckSum with
  | none =>
      refine .inr ⟨?_, rejectAndClose_ne environment message _ _ session⟩
      rintro ⟨received, checksum, read, -⟩
      rw [present] at read
      cases read
  | some received =>
      cases calculated : message.calculateChecksum with
      | error exception =>
          refine .inr ⟨?_, by simp⟩
          rintro ⟨_, checksum, -, calculates, -⟩
          rw [calculated] at calculates
          cases calculates
      | ok checksum =>
          simp only [Call.ofExcept_ok, Call.pure_bind]
          cases formatted : Checksum.formatChecksum checksum with
          | error exception =>
              refine .inr ⟨?_, by simp⟩
              rintro ⟨_, other, -, calculates, formats⟩
              rw [calculated] at calculates
              cases calculates
              rw [formatted] at formats
              cases formats
          | ok expected =>
              simp only [Call.ofExcept_ok, Call.pure_bind]
              by_cases same : received.value = expected
              · rw [if_neg (not_not.mpr same)]
                refine .inl ⟨⟨received, checksum, present, calculated, ?_⟩, rfl⟩
                rw [same]
                exact formatted
              · rw [if_pos same]
                refine .inr ⟨?_, rejectAndClose_ne environment message _ _ session⟩
                rintro ⟨other, again, read, calculates, formats⟩
                rw [present] at read
                rw [calculated] at calculates
                cases read
                cases calculates
                rw [formatted] at formats
                injection formats with equal
                exact same equal.symm

theorem validateBodyLength_decides (message : Message) :
    Decides (validateBodyLength environment message)
      fun _ => message.HasBodyLength := by
  intro session
  unfold validateBodyLength Message.HasBodyLength
  cases message.fields.tryGet Tag.BodyLength with
  | none =>
      exact .inr ⟨by simp, rejectAndClose_ne environment message _ _ session⟩
  | some received =>
      simp only [Option.map_some, Option.some.injEq]
      by_cases same : received.value = decimal message.calculateBodyLength.toNat
      · rw [if_neg (not_not.mpr same)]
        exact .inl ⟨same, rfl⟩
      · rw [if_pos same]
        exact .inr ⟨same, rejectAndClose_ne environment message _ _ session⟩

theorem validateBeginString_decides (message : Message) :
    Decides (validateBeginString environment message) fun session =>
      (message.fields.tryGet Tag.BeginString).map Field.value =
        some session.options.beginString := by
  intro session
  unfold validateBeginString
  rw [Call.get_bind]
  cases message.fields.tryGet Tag.BeginString with
  | none =>
      exact .inr ⟨by simp, rejectAndClose_ne environment message _ _ session⟩
  | some received =>
      simp only [Option.map_some, Option.some.injEq]
      by_cases same : received.value = session.options.beginString
      · rw [if_neg (not_not.mpr same)]
        exact .inl ⟨same, rfl⟩
      · rw [if_pos same]
        exact .inr ⟨same, rejectAndClose_ne environment message _ _ session⟩

theorem validateCompID_decides (message : Message) (tag : Int32) (name : String)
    (expected : Bytes) :
    Decides (validateCompID environment message tag name expected) fun _ =>
      (message.fields.tryGet tag).map Field.value = some expected := by
  intro session
  by_cases same : (message.fields.tryGet tag).map Field.value = some expected
  · refine .inl ⟨same, ?_⟩
    simp only [validateCompID, ne_eq, same, not_true, if_false]
    rfl
  · refine .inr ⟨same, ?_⟩
    simp only [validateCompID, ne_eq, same, not_false_eq_true, if_true]
    exact rejectAndClose_ne environment message _ _ session

theorem validateCompIDs_decides (message : Message) :
    Decides (validateCompIDs environment message) fun session =>
      (message.fields.tryGet Tag.TargetCompID).map Field.value =
          some session.options.senderCompID ∧
        (message.fields.tryGet Tag.SenderCompID).map Field.value =
          some session.options.targetCompID := by
  intro session
  unfold validateCompIDs
  rw [Call.get_bind]
  exact (validateCompID_decides environment message _ _ _).both
    (validateCompID_decides environment message _ _ _) session

theorem validateFirstMessage_decides (message : Message) :
    Decides (validateFirstMessage environment message) fun session =>
      session.AllowsFirst message := by
  intro session
  unfold validateFirstMessage AllowsFirst
  rw [Call.get_bind]
  by_cases known : session.options.logonBehaviour = .initiator ∨
      session.logonReceived
  · rw [if_pos known]
    exact .inl ⟨.inl known, rfl⟩
  · rw [if_neg known]
    cases message.MsgType with
    | error exception =>
        refine .inr ⟨?_, by simp⟩
        rintro (holds | ⟨msgType, read, -⟩)
        · exact known holds
        · cases read
    | ok msgType =>
        rw [Call.ofExcept_ok, Call.pure_bind]
        by_cases allowed : msgType = MsgType.Logon ∨ msgType = MsgType.Reject ∨
            msgType = MsgType.Logout
        · rw [if_pos allowed]
          exact .inl ⟨.inr ⟨msgType, rfl, allowed⟩, rfl⟩
        · rw [if_neg allowed]
          refine .inr ⟨?_, ?_⟩
          · rintro (holds | ⟨other, read, listed⟩)
            · exact known holds
            · injection read with same
              rw [← same] at listed
              exact allowed listed
          · rw [record_bind, Call.bind_apply]
            generalize sendReject environment message _ _ _ = called
            rcases called with ⟨exception | _, after⟩
            · simp
            · exact Call.bind_pure_ne _ false after (by decide)

theorem validate_decides (message : Message) :
    Decides (validate environment message) fun session =>
      session.Validates message := by
  intro session
  have checks := (validateChecksum_decides environment message).both
    ((validateBodyLength_decides environment message).both
      ((validateBeginString_decides environment message).both
        ((validateCompIDs_decides environment message).both
          (validateFirstMessage_decides environment message))))
  rcases checks session with
    ⟨⟨checksum, bodyLength, beginString, ⟨target, sender⟩, first⟩, run⟩ |
      ⟨fails, stopped⟩
  · exact .inl ⟨⟨checksum, bodyLength, beginString, target, sender, first⟩, run⟩
  · refine .inr ⟨?_, stopped⟩
    intro holds
    exact fails ⟨holds.checksum, holds.bodyLength, holds.beginString,
      ⟨holds.targetCompID, holds.senderCompID⟩, holds.first⟩

end Session

end Crocofix

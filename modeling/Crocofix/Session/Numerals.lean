/-
The numbers that a session takes from the texts of a peer.

All of them are read by `stoi` and converted to an unsigned number, the sequence
numbers in five places and the HeartBtInt in one.  What stands around the digits
of a text is ignored, and a minus sign gives a number above 2^31.
-/

import Crocofix.Session.SequenceReset

namespace Crocofix

open Numeral

/-- The number that a session uses for a text. -/
def readNumber (text : Bytes) : Except Exception UInt32 := do
  let number ← stoi text
  pure number.toUInt32

/-- The period of the repeating timer that the event starts, in milliseconds. -/
def Event.period : Event → Option Nat
  | .scheduledRepeating milliseconds _ => some milliseconds.toNat
  | _ => none

namespace Session

/-! ### What follows once a number is read -/

section Uses

variable (environment : Environment)

/-- `process_sequence_reset` with the NewSeqNo. -/
def useNewSeqNo (sequenceReset : Message) (gapFill : Bool) (newSeqNo : UInt32) :
    Action Unit := do
  let session ← Call.get
  if newSeqNo ≤ session.incomingMsgSeqNum then
    reject environment sequenceReset
      (ascii "NewSeqNo is not greater than expected MsgSeqNum = " ++
        decimal session.incomingMsgSeqNum.toNat)
      SessionRejectReason.ValueIsIncorrect
  else if gapFill then processGapFill environment sequenceReset newSeqNo
  else
    Call.modify fun session =>
      { session with incomingResentMsgSeqNum := newSeqNo }
    record (.information
      (ascii "SeqenceReset (Reset) received, NewSeqNo = " ++
        decimal newSeqNo.toNat))
    completeResend environment

def useRange (first last : UInt32) : Action Unit := do
  record (.information
    (ascii "Performing resend from BeginSeqNo = " ++ decimal first.toNat ++
      ascii " to EndSeqNo " ++ decimal last.toNat))
  let session ← Call.get
  performResend environment first (endOfRange session.options.beginString last)
  sendPostLogonTestRequest environment

def useNextExpected (nextExpected : UInt32) : Action Bool := do
  let session ← Call.get
  let comparison (problem : String) : Bytes :=
    ascii "NextExpectedMsgSeqNum too " ++ ascii problem ++
      ascii ", expecting " ++ decimal session.outgoingMsgSeqNum.toNat ++
      ascii " but received " ++ decimal nextExpected.toNat
  if session.outgoingMsgSeqNum < nextExpected then
    logoutWithError environment (comparison "high")
  else
    Call.onlyIf (nextExpected + 1 < session.outgoingMsgSeqNum) do
      record (.warning (comparison "low" ++ ascii " - performing resend"))
      setState .resending
      performResend environment nextExpected session.outgoingMsgSeqNum
    Call.onlyIf (session.options.logonBehaviour = .acceptor)
      (sendLogon environment false)
    sendPostLogonTestRequest environment
    pure true

/-- All sequence numbers that a session takes from a message are read in one
way. -/
structure ReadsNumbers (read : Bytes → Except Exception UInt32) : Prop where
  msgSeqNum : ∀ message : Message,
    message.MsgSeqNum = message.requireField Tag.MsgSeqNum "MsgSeqNum" >>= read
  newSeqNo : ∀ (sequenceReset : Message) (field : Field),
    sequenceReset.fields.tryGet Tag.NewSeqNo = some field →
    processSequenceReset environment sequenceReset = do
      let gapFill ← Call.ofExcept sequenceReset.GapFillFlag
      match read field.value with
      | .error _ =>
          reject environment sequenceReset
            (field.value ++ ascii " is not a valid value for NewSeqNo")
            SessionRejectReason.ValueIsIncorrect
      | .ok number => useNewSeqNo environment sequenceReset gapFill number
  range : ∀ (resendRequest : Message) (beginSeqNo endSeqNo : Field),
    resendRequest.fields.tryGet Tag.BeginSeqNo = some beginSeqNo →
    resendRequest.fields.tryGet Tag.EndSeqNo = some endSeqNo →
    processResendRequest environment resendRequest = do
      stopTestRequestTimer
      let first ← Call.ofExcept (read beginSeqNo.value)
      let last ← Call.ofExcept (read endSeqNo.value)
      useRange environment first last
  nextExpected : ∀ (logon : Message) (field : Field),
    logon.fields.tryGet Tag.NextExpectedMsgSeqNum = some field →
    processNextExpected environment logon =
      match read field.value with
      | .error _ =>
          logoutWithError environment (field.value ++
            ascii " is not a valid value for NextExpectedMsgSeqNum")
      | .ok number => useNextExpected environment number

theorem readsNumbers : ReadsNumbers environment readNumber where
  msgSeqNum _ := rfl
  newSeqNo := by
    intro sequenceReset field present
    unfold processSequenceReset readNumber
    rw [present]
    simp only
    cases stoi field.value with
    | error exception => rfl
    | ok parsed => rfl
  range := by
    intro resendRequest beginSeqNo endSeqNo first last
    unfold processResendRequest readNumber
    rw [first, last]
    simp only
    cases stoi beginSeqNo.value with
    | error exception => rfl
    | ok parsed =>
        cases stoi endSeqNo.value with
        | error exception => rfl
        | ok parsedEnd => rfl
  nextExpected := by
    intro logon field present
    unfold processNextExpected readNumber
    rw [present]
    simp only
    cases stoi field.value with
    | error exception => rfl
    | ok parsed => rfl

end Uses

/-! ### Sequence numbers -/

theorem readNumber_decimal_iff (number : UInt32) :
    readNumber (decimal number.toNat) = .ok number ↔ number < 2147483648 := by
  constructor
  · intro read
    apply UInt32.not_le.mp
    intro large
    have bound : ¬ number.toNat < 2147483648 := Nat.not_lt.mpr large
    unfold readNumber at read
    rw [stoi_decimal, if_neg bound] at read
    cases read
  · intro small
    unfold readNumber
    rw [stoi_decimal_uint32 number small]
    rfl

theorem stoi_of_readNumber {text : Bytes} {number : UInt32}
    (read : readNumber text = .ok number) :
    ∃ parsed, stoi text = .ok parsed ∧ number = parsed.toUInt32 := by
  unfold readNumber at read
  cases value : stoi text with
  | error exception =>
      rw [value] at read
      cases read
  | ok parsed =>
      rw [value] at read
      injection read with same
      exact ⟨parsed, rfl, same.symm⟩

def numberedWith (message : Message) (number : UInt32) : Message :=
  { message with fields := message.fields.put (Field.ofUInt32 Tag.MsgSeqNum number) }

theorem MsgSeqNum_numberedWith {message : Message}
    (place : (message.fields.tryGet Tag.MsgSeqNum).isSome) (number : UInt32) :
    (numberedWith message number).MsgSeqNum = readNumber (decimal number.toNat) := by
  obtain ⟨old, found⟩ := Option.isSome_iff_exists.mp place
  have own : (Field.ofUInt32 Tag.MsgSeqNum number).tag = Tag.MsgSeqNum := rfl
  have written : (numberedWith message number).fields.tryGet Tag.MsgSeqNum =
      some (Field.ofUInt32 Tag.MsgSeqNum number) := by
    change FieldCollection.tryGet (FieldCollection.put _ _) _ = _
    rw [FieldCollection.tryGet_put, if_pos own, found]
    rfl
  have value := (Message.requireField_eq_ok_iff (numberedWith message number)
    Tag.MsgSeqNum "MsgSeqNum" (decimal number.toNat)).mpr ⟨_, written, rfl⟩
  unfold Message.MsgSeqNum
  rw [value]
  rfl

/-- A session reads all sequence numbers in one way.  A number that is written
is read back if and only if it is below 2^31, and a text that is accepted is the
numeral of the number that is used if and only if nothing stands around its
digits. -/
theorem numbers_survive_iff (environment : Environment) :
    ReadsNumbers environment readNumber ∧
      (∀ (message : Message) (number : UInt32),
        (message.fields.tryGet Tag.MsgSeqNum).isSome →
          ((numberedWith message number).MsgSeqNum = .ok number ↔
            number < 2147483648)) ∧
      ∀ (text : Bytes) (number : UInt32), readNumber text = .ok number →
        (Denotes text number.toNat ↔ Bare text) := by
  refine ⟨readsNumbers environment, ?_, ?_⟩
  · intro message number place
    rw [MsgSeqNum_numberedWith place]
    exact readNumber_decimal_iff number
  · intro text number read
    obtain ⟨parsed, value, rfl⟩ := stoi_of_readNumber read
    exact denotes_iff_bare value

/-- The number 7, and the least one that does not survive. -/
theorem numbers_survive_iff_seventh :
    (numberedWith tenthHeartbeat 7).MsgSeqNum = .ok 7 ∧
      (numberedWith tenthHeartbeat 2147483648).MsgSeqNum ≠ .ok 2147483648 ∧
      Denotes (ascii "7") 7 ∧ tenthHeartbeat.MsgSeqNum = readNumber (ascii "10") := by
  obtain ⟨reads, survives, denotes⟩ := numbers_survive_iff (World.plain.environment 0)
  have place : (tenthHeartbeat.fields.tryGet Tag.MsgSeqNum).isSome := rfl
  refine ⟨(survives _ 7 place).mpr (by decide), ?_, ?_, reads.msgSeqNum tenthHeartbeat⟩
  · exact fun kept => absurd ((survives _ _ place).mp kept) (by decide)
  · exact (denotes (ascii "7") 7 rfl).mpr ⟨rfl, rfl, rfl⟩

def negativeHeartbeat : Message :=
  toInitiator MsgType.Heartbeat (ascii "46") (ascii "-1") [] 105 (ascii "105")

/-- The number 2^31 that `set` has written is not read back, and "-1" is taken
for 4294967295, which the session asks its peer to resend up to. -/
theorem negative_number_used :
    (numberedWith negativeHeartbeat 2147483648).MsgSeqNum =
        .error ⟨.outOfRange, ascii "stoi"⟩ ∧
      readNumber (ascii "-1") = .ok 4294967295 ∧
      ¬ Denotes (ascii "-1") 4294967295 ∧
      readNumber (ascii " 7x") = .ok 7 ∧
      ¬ Denotes (ascii " 7x") 7 ∧
      negativeHeartbeat.MsgSeqNum = .ok 4294967295 ∧
      (run (World.plain.environment 0) [.open, .received negativeHeartbeat]
        (create initiatorOptions 1 1)).incomingTargetMsgSeqNum = 4294967295 := by
  have signed : ¬ Denotes (ascii "-1") 4294967295 := by
    intro denotes
    exact absurd (denotes.digits 45 (by decide)) (by decide)
  have surrounded : ¬ Denotes (ascii " 7x") 7 := by
    intro denotes
    exact absurd (denotes.digits 32 (by decide)) (by decide)
  exact ⟨by decide, by decide, signed, by decide, surrounded, by decide, by decide⟩

/-! ### The heartbeat interval -/

section Interval

/-- The timer that `start_defibrillator` starts, and no other, repeats. -/
theorem startDefibrillator_periods (environment : Environment) (session : Session) :
    (newEvents session (startDefibrillator environment session).2).filterMap
        Event.period =
      if session.options.heartbeatInterval = 0 then []
      else [(session.options.heartbeatInterval * 1000).toNat] := by
  obtain ⟨between, run, options, grown⟩ := stopDefibrillator_spec session
  have quiet : (session.heartbeatTimerToken.toList.map Event.cancelled).filterMap
      Event.period = [] := by
    cases session.heartbeatTimerToken with
    | none => rfl
    | some token => rfl
  unfold startDefibrillator
  rw [Call.bind_of_ok run, Call.get_bind, options]
  by_cases none : session.options.heartbeatInterval = 0
  · rw [if_pos none, if_pos none]
    change (newEvents session between).filterMap Event.period = []
    rw [newEvents_eq grown]
    exact quiet
  · rw [if_neg none, if_neg none]
    simp only [record_bind, Call.modify_apply]
    rw [@newEvents_eq session _ (.scheduledRepeating _ _ :: _)
      (congrArg (List.cons _) grown), List.filterMap_cons, quiet]
    rfl

/-- The heartbeat timer of every session with the interval repeats after that
many seconds, and there is none where they are 0. -/
def Beats (interval : UInt32) (seconds : Nat) : Prop :=
  ∀ environment session, session.options.heartbeatInterval = interval →
    (newEvents session (startDefibrillator environment session).2).filterMap
        Event.period =
      if seconds = 0 then [] else [1000 * seconds]

theorem beats_iff (interval : UInt32) :
    Beats interval interval.toNat ↔ 1000 * interval.toNat < 4294967296 := by
  have zero : interval = 0 ↔ interval.toNat = 0 := by
    rw [← UInt32.toNat_inj]
    rfl
  have product : (interval * 1000).toNat = 1000 * interval.toNat % 4294967296 := by
    rw [UInt32.toNat_mul, Nat.mul_comm]
    rfl
  constructor
  · intro beats
    have started := beats (World.plain.environment 0)
      (create { initiatorOptions with heartbeatInterval := interval } 1 1) rfl
    rw [startDefibrillator_periods] at started
    by_cases none : interval.toNat = 0
    · omega
    · have some : interval ≠ 0 := fun same => none (zero.mp same)
      rw [if_neg none] at started
      change (if interval = 0 then [] else [(interval * 1000).toNat]) = _ at started
      rw [if_neg some, product] at started
      injection started with same
      omega
  · intro small environment session same
    rw [startDefibrillator_periods, same, product, Nat.mod_eq_of_lt small]
    simp only [zero]

/-- The heartbeat timer repeats after the seconds that the text of a Logon
stands for, if and only if nothing stands around the digits of the text and the
milliseconds are below 2^32. -/
theorem heartbeat_interval_exact_iff {environment : Environment} {logon : Message}
    {field : Field} {session after : Session}
    (present : logon.fields.tryGet Tag.HeartBtInt = some field)
    (accepted : extractHeartbeatInterval environment logon session =
      (.ok true, after)) :
    (∃ seconds, Denotes field.value seconds ∧
        Beats after.options.heartbeatInterval seconds) ↔
      Bare field.value ∧ 1000 * digitsValue field.value < 4294967296 := by
  rcases extractHeartbeatInterval_spec environment logon session with
    ⟨_, parsed, same, value, run⟩ | refused
  · rw [present] at same
    cases same
    rw [run] at accepted
    injection accepted with _ left
    rw [← left]
    change (∃ seconds, Denotes field.value seconds ∧
      Beats parsed.toUInt32 seconds) ↔ _
    constructor
    · rintro ⟨seconds, denotes, beats⟩
      have bare := (bare_iff_digits _).mpr denotes.digits
      have used := (denotes_iff_bare value).mpr bare
      rw [← denotes.value, used.value] at beats
      rw [used.value]
      exact ⟨bare, (beats_iff _).mp beats⟩
    · rintro ⟨bare, small⟩
      have used := (denotes_iff_bare value).mpr bare
      rw [used.value] at small
      exact ⟨_, used, (beats_iff _).mpr small⟩
  · rw [accepted] at refused
    exact absurd rfl refused

def logonEvery (heartBtInt bodyLength : Bytes) (checksum : UInt32)
    (trailer : Bytes) : Message :=
  toInitiator MsgType.Logon bodyLength (ascii "1")
    [⟨Tag.EncryptMethod, ascii "0"⟩, ⟨Tag.HeartBtInt, heartBtInt⟩] checksum trailer

theorem heartbeat_interval_exact_iff_thirty :
    ∃ seconds, Denotes (ascii "30") seconds ∧
      Beats (extractHeartbeatInterval (World.plain.environment 0)
        (logonEvery (ascii "30") (ascii "57") 104 (ascii "104"))
        (create initiatorOptions 1 1)).2.options.heartbeatInterval seconds :=
  (@heartbeat_interval_exact_iff (World.plain.environment 0)
    (logonEvery (ascii "30") (ascii "57") 104 (ascii "104"))
    ⟨Tag.HeartBtInt, ascii "30"⟩ (create initiatorOptions 1 1) _ rfl rfl).mpr
      ⟨⟨rfl, rfl, rfl⟩, by decide⟩

def rareLogon : Message :=
  logonEvery (ascii "4294968") (ascii "62") 123 (ascii "123")

/-- The session is logged on and sends a Heartbeat every 704 milliseconds. -/
theorem heartbeat_interval_wraps :
    (newEvents
        (run (World.plain.environment 0) [.open, .received rareLogon]
          (create initiatorOptions 1 1))
        (run (World.plain.environment 0)
          [.open, .received rareLogon,
            .received (toInitiator MsgType.Heartbeat (ascii "45") (ascii "2") []
              60 (ascii "060"))]
          (create initiatorOptions 1 1))).filterMap Event.period = [704] ∧
      (run (World.plain.environment 0) [.open, .received rareLogon]
        (create initiatorOptions 1 1)).options.heartbeatInterval = 4294968 ∧
      ¬ ∃ seconds, Denotes (ascii "4294968") seconds ∧ Beats 4294968 seconds := by
  refine ⟨by decide, by decide, ?_⟩
  rintro ⟨seconds, denotes, beats⟩
  rw [← denotes.value] at beats
  have small := (beats_iff 4294968).mp beats
  exact absurd small (by decide)

end Interval

end Session

end Crocofix

/-
What a session does with a message is what its counterpart does with the
packet that the message presents.
-/

import Crocofix.Session.Mirror

namespace Crocofix

open Numeral

/-! ### Reading a message that presents a packet -/

theorem stoi_decimal_of_fitsWire {value : Nat} (fits : fitsWire value) :
    ∃ parsed, stoi (decimal value) = .ok parsed ∧ parsed.toUInt32.toNat = value := by
  have small : value < 2147483648 := of_decide_eq_true fits
  refine ⟨Int32.ofNat value, by rw [stoi_decimal, if_pos small], ?_⟩
  have bits : (Int32.ofNat value).toUInt32 = UInt32.ofNat value := rfl
  rw [bits, UInt32.toNat_ofNat']
  exact Nat.mod_eq_of_lt (by omega)

theorem toNat_max (left right : UInt32) :
    (max left right).toNat = max left.toNat right.toNat := by
  by_cases le : left ≤ right
  · have wider := UInt32.le_iff_toNat_le.mp le
    rw [Nat.max_eq_right wider]
    exact congrArg UInt32.toNat (if_pos le)
  · have wider := UInt32.lt_iff_toNat_lt.mp (UInt32.not_le.mp le)
    rw [Nat.max_eq_left (Nat.le_of_lt wider)]
    exact congrArg UInt32.toNat (if_neg le)

theorem tryGet_of_valueOf {message : Message} {tag : Int32} {value : Bytes}
    (found : message.valueOf tag = some value) :
    ∃ field, message.fields.tryGet tag = some field ∧ field.value = value :=
  Option.map_eq_some_iff.mp found

def Identity.mirrored (identity : Identity) : Identity where
  beginString := identity.beginString
  senderCompID := identity.targetCompID
  targetCompID := identity.senderCompID

namespace Presents

variable {sender : Identity} {message : Message} {packet : Packet}

theorem fits (presents : Presents sender message packet) : fitsWire packet.number := by
  have readable := presents.readable
  unfold Packet.readable at readable
  exact (Bool.and_eq_true_iff.mp readable).1

theorem msgSeqNum (presents : Presents sender message packet) :
    ∃ number, message.MsgSeqNum = .ok number ∧ number.toNat = packet.number := by
  obtain ⟨parsed, reads, value⟩ := stoi_decimal_of_fitsWire presents.fits
  obtain ⟨field, found, same⟩ := tryGet_of_valueOf presents.number
  refine ⟨parsed.toUInt32, ?_, value⟩
  have required := (Message.requireField_eq_ok_iff message Tag.MsgSeqNum "MsgSeqNum"
    (decimal packet.number)).mpr ⟨field, found, same⟩
  unfold Message.MsgSeqNum
  rw [required]
  change (do
    let number ← stoi (decimal packet.number)
    pure number.toUInt32) = _
  rw [reads]
  rfl

end Presents

namespace Session

open Observation (refines_pure refines_undefined)

/-- The number of the message, where only the incoming number matters. -/
theorem sequenceNumberIsLow_refines {environment : Environment} {message : Message}
    {number : UInt32} (read : message.MsgSeqNum = .ok number) (session : Session) :
    Refines (sequenceNumberIsLow environment message)
      (Peer.sequenceNumberIsLow number.toNat) session := by
  unfold sequenceNumberIsLow Peer.sequenceNumberIsLow
  rw [read, Call.ofExcept_ok, Call.pure_bind]
  apply Observation.Refines.of_start
  apply Observation.Refines.ite UInt32.lt_iff_toNat_lt
  · intro _
    exact refines_undefined _ session
  · intro _
    exact refines_pure false session

theorem validates_of_presents {message : Message} {packet : Packet}
    {session : Session}
    (presents : Presents session.options.identity.mirrored message packet)
    (admits : session.peer.admits packet.payload) : session.Validates message where
  checksum := presents.checksum
  bodyLength := presents.bodyLength
  beginString := presents.beginString
  targetCompID := presents.targetCompID
  senderCompID := presents.senderCompID
  first := by
    obtain ⟨msgType, typed, named⟩ := presents.describes.types
    unfold Peer.admits at admits
    simp only [Bool.or_eq_true, decide_eq_true_eq] at admits
    rcases admits with ((initiator | received) | logon) | rejects
    · exact .inl (.inl initiator)
    · exact .inl (.inr received)
    · right
      refine ⟨msgType, typed, .inl ?_⟩
      cases shape : packet.payload with
      | logon _ _ _ =>
          rw [shape] at named
          exact named
      | _ =>
          rw [shape] at logon
          cases logon
    · right
      rw [rejects] at named
      exact ⟨msgType, typed, .inr (.inl named)⟩

section Accepting

variable {world : World} (accepts : world.Accepts)

include accepts

theorem recover_refines (number : UInt32) (session : Session) :
    Refines (recover (world.environment 0) number session)
      (Peer.recover number.toNat) session := by
  unfold recover Peer.recover
  apply Observation.Refines.of_read
  apply Observation.Refines.ite Iff.rfl
  · intro _
    refine refines_modify ?_ rfl rfl
    unfold peer
    simp only [toNat_max]
  · intro _
    exact requestResend_refines accepts number session

theorem sequenceNumberIsHigh_refines {message : Message} {number : UInt32}
    (read : message.MsgSeqNum = .ok number) (session : Session) :
    Refines (sequenceNumberIsHigh (world.environment 0) message)
      (Peer.sequenceNumberIsHigh number.toNat) session := by
  unfold sequenceNumberIsHigh Peer.sequenceNumberIsHigh
  rw [read, Call.ofExcept_ok, Call.pure_bind]
  apply Observation.Refines.of_start
  apply Observation.Refines.ite UInt32.lt_iff_toNat_lt
  · intro _
    apply refines_record rfl
    apply (recover_refines accepts number _).bind
    intro _ after
    exact refines_pure true after
  · intro _
    exact refines_pure false session

theorem validateSequenceNumbers_refines {message : Message} {number : UInt32}
    (read : message.MsgSeqNum = .ok number) (session : Session) :
    Refines (validateSequenceNumbers (world.environment 0) message)
      (Peer.validateSequenceNumbers number.toNat) session := by
  unfold validateSequenceNumbers Peer.validateSequenceNumbers
  apply (sequenceNumberIsHigh_refines accepts read session).bind
  intro high middle
  apply Observation.Refines.ite Iff.rfl
  · intro _
    exact refines_pure false middle
  · intro _
    apply (sequenceNumberIsLow_refines read middle).bind
    intro low after
    exact refines_pure (!low) after

/-! ### Logon -/

theorem processNextExpected_refines {logon : Message} {nextExpected : Option Nat}
    (fills : logon.valueOf Tag.NextExpectedMsgSeqNum = nextExpected.map decimal)
    (readable : nextExpected.all fitsWire) (session : Session) :
    Refines (processNextExpected (world.environment 0) logon)
      (Peer.processNextExpected nextExpected) session := by
  cases nextExpected with
  | none => exact refines_undefined _ session
  | some expected =>
      obtain ⟨field, found, value⟩ := tryGet_of_valueOf fills
      obtain ⟨parsed, reads, same⟩ := stoi_decimal_of_fitsWire readable
      unfold processNextExpected Peer.processNextExpected
      rw [found]
      simp only [value, reads]
      apply Observation.Refines.of_start
      have tooHigh : session.outgoingMsgSeqNum < parsed.toUInt32 ↔
          (observation.view session).outgoing < expected := by
        rw [UInt32.lt_iff_toNat_lt, same]
        rfl
      apply Observation.Refines.ite tooHigh
      · intro _
        exact refines_undefined _ session
      · intro notHigh
        have tooLow : parsed.toUInt32 + 1 < session.outgoingMsgSeqNum ↔
            expected + 1 < (observation.view session).outgoing := by
          have small : expected < 2147483648 := of_decide_eq_true readable
          rw [UInt32.lt_iff_toNat_lt, UInt32.toNat_add, same]
          have within : (expected + (1 : UInt32).toNat) % 2 ^ 32 = expected + 1 :=
            Nat.mod_eq_of_lt (by simp; omega)
          rw [within]
          rfl
        apply Observation.Refines.bind
        · apply Observation.Refines.onlyIf tooLow
          intro _
          apply refines_record rfl
          apply (setState_refines .resending _).bind
          intro _ resending
          rw [← same]
          exact performResend_refines accepts parsed.toUInt32 _ resending
        · intro _ resent
          apply Observation.Refines.bind
          · apply Observation.Refines.onlyIf Iff.rfl
            intro _
            exact sendLogon_refines accepts false resent
          · intro _ answered
            apply (sendPostLogonTestRequest_refines accepts answered).bind
            intro _ after
            exact refines_pure true after

theorem processResetLogon_refines {logon : Message} {number : UInt32}
    (read : logon.MsgSeqNum = .ok number) (session : Session) :
    Refines (processResetLogon (world.environment 0) logon)
      (Peer.processResetLogon number.toNat) session := by
  have first : number ≠ 1 ↔ number.toNat ≠ 1 := by
    rw [ne_eq, ← UInt32.toNat_inj]
    rfl
  unfold processResetLogon Peer.processResetLogon
  rw [read, Call.ofExcept_ok, Call.pure_bind]
  apply Observation.Refines.ite first
  · intro _
    apply refines_record rfl
    exact refines_pure false _
  · intro _
    apply Observation.Refines.of_start
    apply Observation.Refines.ite Iff.rfl
    · intro _
      apply (sendTestRequest_refines accepts session).bind
      intro _ after
      exact refines_pure true after
    · intro _
      apply refines_record rfl
      have restarts (before : Session) : Refines reset Peer.restart before :=
        refines_unseen (stopDefibrillator_refines before) restartSeqNums_refines
      apply (restarts _).bind
      intro _ restarted
      apply (sendLogon_refines accepts true restarted).bind
      intro _ answered
      apply (sendPostLogonTestRequest_refines accepts answered).bind
      intro _ after
      exact refines_pure true after

theorem processPlainLogon_refines {logon : Message} {number : UInt32}
    (read : logon.MsgSeqNum = .ok number) (session : Session) :
    Refines (processPlainLogon (world.environment 0) logon)
      (Peer.processPlainLogon number.toNat) session := by
  unfold processPlainLogon Peer.processPlainLogon
  apply (sequenceNumberIsLow_refines read session).bind
  intro low checked
  apply Observation.Refines.ite Iff.rfl
  · intro _
    exact refines_pure false checked
  · intro _
    apply Observation.Refines.of_start
    apply Observation.Refines.bind
    · apply Observation.Refines.onlyIf Iff.rfl
      intro _
      exact sendLogon_refines accepts false checked
    · intro _ answered
      apply (sequenceNumberIsHigh_refines accepts read answered).bind
      intro high compared
      apply Observation.Refines.ite Iff.rfl
      · intro _
        exact refines_pure false compared
      · intro _
        apply (sendPostLogonTestRequest_refines accepts compared).bind
        intro _ after
        exact refines_pure true after

theorem processLogon_refines {logon : Message} {number heartBtInt : UInt32}
    {resets : Bool} {nextExpected : Option Nat}
    (read : logon.MsgSeqNum = .ok number)
    (fills : (Payload.logon resets heartBtInt nextExpected).Fills logon)
    (readable : (Payload.logon resets heartBtInt nextExpected).readable)
    (session : Session) :
    Refines (processLogon (world.environment 0) logon)
      (Peer.processLogon number.toNat resets heartBtInt nextExpected) session := by
  obtain ⟨flag, interval, next⟩ := fills
  obtain ⟨small, nextSmall⟩ := Bool.and_eq_true_iff.mp readable
  obtain ⟨field, found, value⟩ := tryGet_of_valueOf interval
  obtain ⟨parsed, reads, same⟩ := stoi_decimal_of_fitsWire small
  have period : parsed.toUInt32 = heartBtInt := UInt32.toNat_inj.mp same
  have extracted : Refines (extractHeartbeatInterval (world.environment 0) logon)
      (Peer.extractHeartbeatInterval heartBtInt) session := by
    unfold extractHeartbeatInterval Peer.extractHeartbeatInterval
    rw [found]
    simp only [value, reads, period]
    apply Observation.Refines.bind (refines_modify rfl rfl rfl)
    intro _ set
    exact refines_pure true set
  unfold processLogon Peer.processLogon
  rw [flag, Call.ofExcept_ok, Call.pure_bind]
  apply extracted.bind
  intro reading set
  apply Observation.Refines.ite Iff.rfl
  · intro _
    apply (refines_modify rfl rfl rfl).bind
    intro _ noted
    apply Observation.Refines.of_start
    apply Observation.Refines.ite Iff.rfl
    · intro _
      exact processNextExpected_refines accepts next nextSmall noted
    · intro _
      apply Observation.Refines.ite Iff.rfl
      · intro _
        exact processResetLogon_refines accepts read noted
      · intro _
        exact processPlainLogon_refines accepts read noted
  · intro _
    exact refines_pure false set

/-! ### The other message types -/

omit accepts in
theorem logOn_refines (environment : Environment) (session : Session) :
    Refines (logOn environment) Peer.logOn session :=
  (setState_refines .loggedOn session).before_silent
    (startDefibrillator_refines environment)

omit accepts in
theorem processHeartbeat_refines (environment : Environment) {heartbeat : Message}
    {testReqID : Option UInt32}
    (fills : (Payload.heartbeat testReqID).Fills heartbeat) (session : Session) :
    Refines (processHeartbeat environment heartbeat)
      (Peer.processHeartbeat testReqID) session := by
  unfold processHeartbeat Peer.processHeartbeat
  apply Observation.Refines.of_start
  apply Observation.Refines.ite Iff.rfl
  · intro _
    cases testReqID with
    | none =>
        have absent : heartbeat.fields.tryGet Tag.TestReqID = none :=
          Option.map_eq_none_iff.mp fills
        rw [absent]
        exact logOn_refines environment session
    | some received =>
        obtain ⟨field, found, value⟩ := tryGet_of_valueOf fills
        have expects : session.expectedTestRequestId =
            (observation.view session).expectedTestRequestId := rfl
        rw [found, expects]
        cases (observation.view session).expectedTestRequestId with
        | none =>
            exact record_refines rfl session
        | some expected =>
            have differs : field.value ≠ decimal expected.toNat ↔
                received ≠ expected := by
              rw [value, ne_eq, ne_eq, decimal_injective.eq_iff, UInt32.toNat_inj]
            apply Observation.Refines.ite differs
            · intro _
              exact refines_undefined _ session
            · intro _
              exact logOn_refines environment session
  · intro _
    exact refines_pure () session

theorem processTestRequest_refines {testRequest : Message} {testReqID : UInt32}
    (fills : (Payload.testRequest testReqID).Fills testRequest) (session : Session) :
    Refines (processTestRequest (world.environment 0) testRequest)
      (Peer.send (.heartbeat (some testReqID))) session := by
  obtain ⟨field, found, value⟩ := tryGet_of_valueOf fills
  unfold processTestRequest
  rw [found]
  apply send_refines accepts (Message.hasHeader_make _)
  refine ⟨⟨_, rfl, rfl⟩, rfl, ?_⟩
  exact congrArg some value

theorem completeResend_refines (session : Session) :
    Refines (completeResend (world.environment 0)) Peer.completeResend session := by
  unfold completeResend Peer.completeResend
  apply Observation.Refines.of_start
  have reached : session.incomingTargetMsgSeqNum ≤ session.incomingResentMsgSeqNum ↔
      (observation.view session).target ≤ (observation.view session).resent :=
    UInt32.le_iff_toNat_le
  apply Observation.Refines.ite (and_congr Iff.rfl reached)
  · intro _
    apply refines_record rfl
    exact (sendTestRequest_refines accepts _).before_silent
      (startDefibrillator_refines _)
  · intro _
    exact refines_pure () session

theorem processResendRequest_refines {resendRequest : Message}
    {beginSeqNo endSeqNo : Nat}
    (fills : (Payload.resendRequest beginSeqNo endSeqNo).Fills resendRequest)
    (readable : (Payload.resendRequest beginSeqNo endSeqNo).readable)
    (session : Session) :
    Refines (processResendRequest (world.environment 0) resendRequest)
      (Peer.processResendRequest beginSeqNo) session := by
  obtain ⟨first, last⟩ := fills
  obtain ⟨firstSmall, lastSmall⟩ := Bool.and_eq_true_iff.mp readable
  obtain ⟨firstField, firstFound, firstValue⟩ := tryGet_of_valueOf first
  obtain ⟨lastField, lastFound, lastValue⟩ := tryGet_of_valueOf last
  obtain ⟨firstParsed, firstReads, same⟩ := stoi_decimal_of_fitsWire firstSmall
  obtain ⟨lastParsed, lastReads, -⟩ := stoi_decimal_of_fitsWire lastSmall
  unfold processResendRequest Peer.processResendRequest
  apply refines_unseen (stopTestRequestTimer_refines session)
  intro stopped
  rw [firstFound, lastFound]
  simp only [firstValue, lastValue, firstReads, lastReads, Call.ofExcept_ok,
    Call.pure_bind]
  apply refines_record rfl
  apply Observation.Refines.of_get
  rw [← same]
  apply (performResend_refines accepts _ _ _).bind
  intro _ resent
  exact sendPostLogonTestRequest_refines accepts resent

theorem reject_refines
    (explains : world.Explains) {message : Message} {number : UInt32}
    (read : message.MsgSeqNum = .ok number) (text reason : Bytes) (session : Session) :
    Refines (reject (world.environment 0) message text reason) (Peer.send .reject)
      session := by
  unfold reject
  apply refines_record rfl
  exact sendReject_refines accepts explains read text reason _

theorem processGapFill_refines
    (explains : world.Explains) {sequenceReset : Message} {number newSeqNo : UInt32}
    (read : sequenceReset.MsgSeqNum = .ok number) (session : Session) :
    Refines (processGapFill (world.environment 0) sequenceReset newSeqNo)
      (Peer.processGapFill number.toNat newSeqNo.toNat) session := by
  unfold processGapFill Peer.processGapFill
  apply (validateSequenceNumbers_refines accepts read session).bind
  intro valid checked
  apply Observation.Refines.ite Iff.rfl
  · intro _
    apply Observation.Refines.of_start
    apply Observation.Refines.ite Iff.rfl
    · intro _
      apply refines_record rfl
      apply (refines_modify rfl rfl rfl).bind
      intro _ resent
      apply Observation.Refines.bind (refines_modify rfl rfl rfl)
      intro _ filled
      exact completeResend_refines accepts filled
    · intro _
      exact reject_refines accepts explains read _ _ checked
  · intro _
    exact refines_pure () checked

theorem processSequenceReset_refines
    (explains : world.Explains) {sequenceReset : Message} {number : UInt32} {newSeqNo : Nat}
    (read : sequenceReset.MsgSeqNum = .ok number)
    (fills : (Payload.gapFill newSeqNo).Fills sequenceReset)
    (readable : (Payload.gapFill newSeqNo).readable) (session : Session) :
    Refines (processSequenceReset (world.environment 0) sequenceReset)
      (Peer.processSequenceReset number.toNat newSeqNo) session := by
  obtain ⟨flag, numeral⟩ := fills
  obtain ⟨field, found, value⟩ := tryGet_of_valueOf numeral
  obtain ⟨parsed, reads, same⟩ := stoi_decimal_of_fitsWire readable
  unfold processSequenceReset Peer.processSequenceReset
  rw [found, flag]
  simp only [value, reads, Call.ofExcept_ok, Call.pure_bind]
  apply Observation.Refines.of_start
  have low : parsed.toUInt32 ≤ session.incomingMsgSeqNum ↔
      newSeqNo ≤ (observation.view session).incoming := by
    rw [UInt32.le_iff_toNat_le, same]
    rfl
  apply Observation.Refines.ite low
  · intro _
    exact reject_refines accepts explains read _ _ session
  · intro _
    rw [if_pos trivial, ← same]
    exact processGapFill_refines accepts explains read session

/-! ### The message handler -/

theorem checkNumber_refines {message : Message} {msgType : Bytes} {number : UInt32}
    {payload : Payload} (named : payload.Named msgType)
    (read : message.MsgSeqNum = .ok number) (fills : payload.Fills message)
    (readable : payload.readable) (session : Session) :
    Refines (checkNumber (world.environment 0) msgType message)
      (Peer.checkNumber number.toNat payload) session := by
  unfold checkNumber
  cases payload with
  | logon resets heartBtInt nextExpected =>
      obtain rfl : msgType = MsgType.Logon := named
      rw [if_pos rfl]
      exact processLogon_refines accepts read fills readable session
  | application =>
      have other : msgType ≠ MsgType.Logon := fun same => named (same ▸ by decide)
      rw [if_neg other]
      exact validateSequenceNumbers_refines accepts read session
  | heartbeat _ | testRequest _ | resendRequest _ _ | gapFill _ | reject =>
      have other : msgType ≠ MsgType.Logon := by
        rw [named]
        dsimp only [Payload.msgType]
        decide
      rw [if_neg other]
      exact validateSequenceNumbers_refines accepts read session

omit accepts in
theorem dispatch_of_other (environment : Environment) (message : Message)
    {msgType : Bytes} (other : msgType ∉ [MsgType.Heartbeat, MsgType.TestRequest,
      MsgType.ResendRequest, MsgType.Logout]) :
    dispatch environment msgType message = pure () := by
  have differs (type : Bytes) (listed : type ∈ [MsgType.Heartbeat,
      MsgType.TestRequest, MsgType.ResendRequest, MsgType.Logout]) :
      msgType ≠ type := fun same => other (same ▸ listed)
  unfold dispatch
  rw [if_neg (differs _ (by simp)), if_neg (differs _ (by simp)),
    if_neg (differs _ (by simp)), if_neg (differs _ (by simp))]

theorem dispatch_refines {message : Message} {msgType : Bytes} {payload : Payload}
    (named : payload.Named msgType) (fills : payload.Fills message)
    (readable : payload.readable) (session : Session) :
    Refines (dispatch (world.environment 0) msgType message)
      (Peer.dispatch payload) session := by
  cases payload with
  | heartbeat testReqID =>
      obtain rfl : msgType = MsgType.Heartbeat := named
      exact processHeartbeat_refines _ fills session
  | testRequest testReqID =>
      obtain rfl : msgType = MsgType.TestRequest := named
      exact processTestRequest_refines accepts fills session
  | resendRequest beginSeqNo endSeqNo =>
      obtain rfl : msgType = MsgType.ResendRequest := named
      exact processResendRequest_refines accepts fills readable session
  | application =>
      have other : msgType ∉ [MsgType.Heartbeat, MsgType.TestRequest,
          MsgType.ResendRequest, MsgType.Logout] := by
        have admin : ∀ type ∈ [MsgType.Heartbeat, MsgType.TestRequest,
            MsgType.ResendRequest, MsgType.Logout], type ∈ Message.adminTypes := by
          decide
        intro member
        exact named (admin msgType member)
      rw [dispatch_of_other _ message other]
      exact refines_pure () session
  | logon _ _ _ | gapFill _ | reject =>
      have other : msgType ∉ [MsgType.Heartbeat, MsgType.TestRequest,
          MsgType.ResendRequest, MsgType.Logout] := by
        rw [named]
        dsimp only [Payload.msgType]
        decide
      rw [dispatch_of_other _ message other]
      exact refines_pure () session

theorem processNumbered_refines {message : Message} {msgType : Bytes}
    {number : UInt32} {payload : Payload} (named : payload.Named msgType)
    (read : message.MsgSeqNum = .ok number) (small : fitsWire number.toNat)
    (fills : payload.Fills message) (readable : payload.readable)
    (session : Session) :
    Refines (processNumbered (world.environment 0) msgType message)
      (Peer.processNumbered number.toNat payload) session := by
  unfold processNumbered Peer.processNumbered
  apply (checkNumber_refines accepts named read fills readable session).bind
  intro proceeds checked
  apply Observation.Refines.ite Iff.rfl
  · intro _
    rw [read, Call.ofExcept_ok, Call.pure_bind]
    apply refines_record rfl
    have below : number.toNat < 2147483648 := of_decide_eq_true small
    have moved : (number + 1).toNat = number.toNat + 1 := by
      rw [UInt32.toNat_add]
      exact Nat.mod_eq_of_lt (by simp; omega)
    apply Observation.Refines.bind
    · refine refines_modify ?_ rfl rfl
      unfold peer
      simp only [moved]
    · intro _ taken
      exact dispatch_refines accepts named fills readable taken
  · intro _
    exact refines_pure () checked

theorem validated_refines {message : Message} {msgType : Bytes} {number : UInt32}
    {payload : Payload} (typed : message.MsgType = .ok msgType)
    (named : payload.Named msgType) (read : message.MsgSeqNum = .ok number)
    (fills : payload.Fills message) (readable : Packet.readable ⟨number.toNat, payload⟩)
    (explains : payload.isGapFill → world.Explains) (session : Session) :
    Refines
      (if msgType = MsgType.SequenceReset then
        processSequenceReset (world.environment 0) message
      else do
        let admin ← Call.ofExcept message.isAdmin
        if payload.isGapFill ∧ admin then
          record (.warning
            (ascii "Ignoring PossDup Admin message with MsgType=" ++ msgType))
        else processNumbered (world.environment 0) msgType message)
      (Peer.process number.toNat payload) session := by
  obtain ⟨small, within⟩ := Bool.and_eq_true_iff.mp readable
  have admin : message.isAdmin = .ok (Message.adminTypes.contains msgType) := by
    unfold Message.isAdmin
    rw [typed]
    rfl
  have numbered := processNumbered_refines accepts named read small fills within
    session
  rw [admin, Call.ofExcept_ok, Call.pure_bind]
  cases payload with
  | gapFill newSeqNo =>
      obtain rfl : msgType = MsgType.SequenceReset := named
      rw [if_pos rfl]
      exact processSequenceReset_refines accepts (explains rfl) read fills within session
  | application =>
      have other : msgType ≠ MsgType.SequenceReset :=
        fun same => named (same ▸ by decide)
      rw [if_neg other, if_neg fun both => Bool.false_ne_true both.1]
      exact numbered
  | logon _ _ _ | heartbeat _ | testRequest _ | resendRequest _ _ | reject =>
      have other : msgType ≠ MsgType.SequenceReset := by
        rw [named]
        dsimp only [Payload.msgType]
        decide
      rw [if_neg other, if_neg fun both => Bool.false_ne_true both.1]
      exact numbered

theorem onMessageRead_refines {message : Message} {packet : Packet}
    {session : Session}
    (presents : Presents session.options.identity.mirrored message packet)
    (explains : packet.payload.isGapFill → world.Explains) :
    Refines (onMessageRead (world.environment 0) message) (Peer.receive packet)
      session := by
  obtain ⟨number, read, same⟩ := presents.msgSeqNum
  obtain ⟨msgType, typed, named⟩ := presents.describes.types
  unfold onMessageRead Peer.receive
  apply refines_record rfl
  apply Observation.Refines.of_read
  split
  · next admits =>
      have validated : validate (world.environment 0) message
          { session with history := .messageReceived message :: session.history } =
          (.ok true,
            { session with
              history := .messageReceived message :: session.history }) := by
        rcases validate_decides (world.environment 0) message
            { session with
              history := .messageReceived message :: session.history } with
          ⟨-, run⟩ | ⟨fails, -⟩
        · exact run
        · exact (fails (validates_of_presents presents admits)).elim
      apply Observation.Refines.after_silent validated rfl (observation.silent _)
      rw [if_pos rfl, typed, Call.ofExcept_ok, Call.pure_bind,
        presents.describes.possDup, Call.ofExcept_ok, Call.pure_bind]
      have readable := presents.readable
      rcases packet with ⟨_, payload⟩
      cases same
      exact validated_refines accepts typed named read presents.describes.fills
        readable explains _
  · exact Observation.refines_undefined _ _

end Accepting

end Session

end Crocofix

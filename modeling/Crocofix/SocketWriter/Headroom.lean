/-
The room that is left above the high water mark.

A call of `write` that leaves the pending buffer above the mark waits until the
buffer has been emptied.  The handlers that run while it waits may write as well,
and they find the buffer above the mark.
-/

import Crocofix.EncodeSize
import Crocofix.SocketWriter

namespace Crocofix

open Numeral

namespace SocketWriter

def headroom : Nat := bufferSize - bufferHighWaterMark

/-- No message that is encoded in the headroom, into whatever buffer, is refused
by `write`. -/
def HasHeadroom (writer : SocketWriter) : Prop :=
  ∀ message options capacity size,
    (message.encode capacity options).1 = .ok size → 0 < size → size ≤ headroom →
      ∀ exception, (writer.write message options).1 ≠ .threw exception

/-! ### What a call finds -/

theorem write_of_fits {writer : SocketWriter} {message : Message}
    {options : EncodeOptions} {capacity size : Nat}
    (encoded : (message.encode capacity options).1 = .ok size) (positive : 0 < size)
    (fits : size ≤ bufferSize - writer.pending.offset) (exception : Exception) :
    (writer.write message options).1 ≠ .threw exception := by
  have room : ¬ bufferSize ≤ writer.pending.offset := by omega
  have accepts := Encode.not_refuses_of_ok encoded positive
  have here := Encode.loop_returns accepts (bufferSize - writer.pending.offset)
  have there := Encode.loop_returns accepts capacity
  have same : size = Encode.encodedLength options.setChecksum
      (message.withBodyLength options) := by
    have again : Except.ok size = _ := encoded.symm.trans there
    injection again with again
    split at again
    · exact again
    · omega
  rw [← same, if_pos fits] at here
  unfold write
  rw [if_neg room]
  cases called : message.encode (bufferSize - writer.pending.offset) options with
  | mk result rest =>
      have stored : result = .ok size := by
        have first : (message.encode (bufferSize - writer.pending.offset)
            options).1 = .ok size := here
        rw [called] at first
        exact first
      rw [stored]
      simp only [if_neg (Nat.ne_of_gt positive)]
      split
      · intro impossible
        cases impossible
      · intro impossible
        cases impossible

theorem write_of_full {writer : SocketWriter} {text : Bytes}
    (full : bufferSize - writer.pending.offset < (Encode.wire ⟨58, text⟩).length) :
    ∃ exception, (writer.write (textMessage text) .none).1 = .threw exception := by
  unfold write
  by_cases ended : bufferSize ≤ writer.pending.offset
  · rw [if_pos ended]
    exact ⟨_, rfl⟩
  · rw [if_neg ended]
    obtain ⟨touched, stored⟩ := @Encode.encodeField_of_lt
      (bufferSize - writer.pending.offset) [] ⟨58, text⟩ full
    have encoded : (textMessage text).encode (bufferSize - writer.pending.offset)
        .none = (.ok 0, textMessage text, touched) := by
      simp [Message.encode, Message.withBodyLength, EncodeOptions.none, textMessage,
        Encode.loop, stored]
    rw [encoded]
    exact ⟨_, rfl⟩

theorem exists_text_of_headroom :
    ∃ text : Bytes, (Encode.wire ⟨58, text⟩).length = headroom := by
  refine ⟨List.replicate 688 65, ?_⟩
  have digits : (decimalInt (58 : Int32).toInt).length = 2 := by decide
  rw [Encode.wire_length, digits]
  simp only [List.length_replicate]
  rfl

theorem hasHeadroom_iff (writer : SocketWriter) :
    HasHeadroom writer ↔ writer.pending.offset ≤ bufferHighWaterMark := by
  constructor
  · intro roomy
    by_contra above
    obtain ⟨text, length⟩ := exists_text_of_headroom
    have full : bufferSize - writer.pending.offset <
        (Encode.wire ⟨58, text⟩).length := by
      rw [length]
      unfold headroom bufferSize
      unfold bufferHighWaterMark at above ⊢
      omega
    obtain ⟨exception, refused⟩ := write_of_full full
    have encoded : ((textMessage text).encode headroom .none).1 =
        .ok headroom := by
      rw [encode_textMessage (Nat.le_of_eq length), length]
    exact roomy _ _ _ _ encoded (by decide) (Nat.le_refl _) exception refused
  · intro below message options capacity size encoded positive small
    apply write_of_fits encoded positive
    unfold headroom at small
    omega

/-! ### Every run -/

def Call.Pending (call : Call) : Prop :=
  call.status = .waiting ∨ call.status = .interrupted

/-- The pending buffer is above the mark only while a call waits, or after the
exception of a handler has ended a wait. -/
def AboveWhilePending (system : System) : Prop :=
  bufferHighWaterMark < system.writer.pending.offset →
    ∃ call ∈ system.calls, call.Pending

def MustWait (writer : SocketWriter) : Prop :=
  bufferHighWaterMark < writer.pending.offset ∧ 0 < writer.active.offset

theorem mustWait_of_write (writer : SocketWriter) (message : Message)
    (options : EncodeOptions) (encoding : Bytes) :
    ((writer.write message options).1 = .returned encoding →
        ¬ MustWait (writer.write message options).2.2) ∧
      ((writer.write message options).1 = .waits encoding →
        MustWait (writer.write message options).2.2) := by
  unfold write
  by_cases full : bufferSize ≤ writer.pending.offset
  · rw [if_pos full]
    exact ⟨nofun, nofun⟩
  · rw [if_neg full]
    generalize message.encode (bufferSize - writer.pending.offset) options = encoded
    rcases encoded with ⟨result, after, written⟩
    cases result with
    | error exception => exact ⟨nofun, nofun⟩
    | ok size =>
        by_cases zero : size = 0
        · simp only [if_pos zero]
          exact ⟨nofun, nofun⟩
        · simp only [if_neg zero]
          split
          · next waits => exact ⟨nofun, fun _ => waits⟩
          · next settled => exact ⟨fun _ => settled, nofun⟩

/-- Something is pending only behind an asynchronous write, so such a call leaves
the pending buffer at or below the mark. -/
theorem below_of_returned {writer : SocketWriter} {encodings encoding : Bytes}
    {message : Message} {options : EncodeOptions}
    (invariant : Invariant writer encodings)
    (outcome : (writer.write message options).1 = .returned encoding) :
    (writer.write message options).2.2.pending.offset ≤ bufferHighWaterMark := by
  have queued := invariant.queued (.inl outcome)
  have settled := (mustWait_of_write writer message options encoding).1 outcome
  by_contra above
  apply settled
  refine ⟨Nat.not_le.mp above, ?_⟩
  by_contra idle
  have empty := queued.moving (Nat.eq_zero_of_not_pos idle)
  omega

theorem pending_of_threw {writer : SocketWriter} {message : Message}
    {options : EncodeOptions} {exception : Exception}
    (outcome : (writer.write message options).1 = .threw exception) :
    (writer.write message options).2.2.pending.offset = writer.pending.offset := by
  rcases write_cases writer message options with
    ⟨other, after, same⟩ | ⟨other, after, written, within, same⟩ |
    ⟨other, after, written, queued, some, within, same⟩
  · rw [same]
  · rw [same, pending_stored]
    rfl
  · rw [same] at outcome
    rcases queued with rfl | rfl
    · cases outcome
    · cases outcome

theorem pending_complete_le {writer after : SocketWriter} {index : Nat}
    (distinct : writer.activeBuffer ≠ writer.pendingBuffer)
    (completion : writer.complete index = some after) :
    after.pending.offset ≤ writer.pending.offset := by
  unfold complete at completion
  split at completion
  · cases completion
  · next transfer found =>
    injection completion with completion
    rw [← completion]
    generalize taken : ({ writer with
      outstanding := writer.outstanding.eraseIdx index
      transferred := writer.transferred ++
        (writer.bufferOf transfer.name).buffer.take transfer.size } :
          SocketWriter) = changed
    have kept : changed.pending = writer.pending ∧
        changed.activeBuffer ≠ changed.pendingBuffer := by
      rw [← taken]
      exact ⟨rfl, distinct⟩
    have pending : changed.emptyActive.pending = changed.pending := by
      simp [SocketWriter.pending, emptyActive, kept.2.symm]
    have active : changed.emptyActive.active.offset = 0 := by
      simp [SocketWriter.active, emptyActive]
    unfold handleCompletion
    split
    · unfold flushPendingWrites
      rw [if_neg (by omega)]
      change changed.emptyActive.active.offset ≤ _
      rw [active]
      exact Nat.zero_le _
    · rw [pending, kept.1]

theorem step_above {before after : System} (step : Step before after)
    (invariant : Invariant before.writer before.encodings)
    (above : AboveWhilePending before) : AboveWhilePending after := by
  cases step with
  | threw outcome =>
      intro high
      apply above
      rw [← pending_of_threw outcome]
      exact high
  | returned outcome =>
      intro high
      exact absurd high (Nat.not_lt.mpr (below_of_returned invariant outcome))
  | waits outcome =>
      intro _
      exact ⟨_, List.mem_append_right _ (List.mem_singleton_self _), .inl rfl⟩
  | completed completion =>
      intro high
      apply above
      exact Nat.lt_of_lt_of_le high (pending_complete_le invariant.distinct completion)
  | resumed idle innermost =>
      -- The wait ends when nothing is active, and then nothing is pending.
      intro high
      have empty := invariant.moving idle
      simp only at high empty
      omega
  | interrupted innermost =>
      intro _
      exact ⟨_, List.mem_append_right _ List.mem_cons_self, .inr rfl⟩

theorem reachable_above {system : System} (reachable : Reachable system) :
    AboveWhilePending system := by
  induction reachable with
  | refl =>
      intro high
      exact absurd high (by decide)
  | tail reached step ih => exact step_above step (reachable_invariant reached) ih

/-- In every state that calls, completions and handlers lead to, whatever message
that is encoded in the headroom can be written exactly if the pending buffer is
not above the mark.  It is above the mark only while a call waits, or after the
exception of a handler has ended a wait. -/
theorem headroom_iff {system : System} (reachable : Reachable system) :
    (HasHeadroom system.writer ↔
        system.writer.pending.offset ≤ bufferHighWaterMark) ∧
      (¬ HasHeadroom system.writer → ∃ call ∈ system.calls, call.Pending) := by
  refine ⟨hasHeadroom_iff system.writer, ?_⟩
  intro crowded
  apply reachable_above reachable
  rw [hasHeadroom_iff] at crowded
  exact Nat.not_le.mp crowded

theorem exists_waits : ∃ text,
    (afterShort.write (textMessage text) .none).1 = .waits (Encode.wire ⟨58, text⟩) := by
  obtain ⟨text, length⟩ : ∃ text : Bytes, text.length = 7600 :=
    ⟨List.replicate 7600 65, List.length_replicate⟩
  have size : (Encode.wire ⟨58, text⟩).length = 7604 := by
    have digits : (decimalInt (58 : Int32).toInt).length = 2 := by decide
    rw [Encode.wire_length, digits, length]
  refine ⟨text, write_waits text (by decide +kernel) (by decide +kernel)
    (by decide +kernel) ?_ ?_⟩
  · rw [size]
    decide
  · rw [size]
    decide

/-- Below the mark with one message in flight and another one pending, and above it
while a long message waits. -/
theorem headroom_waiting :
    HasHeadroom afterQueued ∧
      ∃ system, Reachable system ∧ ¬ HasHeadroom system.writer ∧
        ∃ call ∈ system.calls, call.Pending := by
  obtain ⟨text, outcome⟩ := exists_waits
  have waiting := reachable_short.tail (.waits outcome)
  have crowded : ¬ HasHeadroom
      (afterShort.write (textMessage text) EncodeOptions.none).2.2 := by
    rw [(headroom_iff waiting).1, Nat.not_le]
    exact ((mustWait_of_write _ _ _ _).2 outcome).1
  exact ⟨(headroom_iff reachable_queued).1.mpr (by decide +kernel),
    _, waiting, crowded, (headroom_iff waiting).2 crowded⟩

/-! ### A message that is written during a wait -/

/-- While a call waits, a handler that it runs cannot write a message of the size of the
headroom. -/
theorem nested_write_is_refused :
    ∃ system, Reachable system ∧ (∃ call ∈ system.calls, call.status = .waiting) ∧
      ¬ HasHeadroom system.writer := by
  obtain ⟨text, outcome⟩ := exists_waits
  refine ⟨_, reachable_short.tail (.waits outcome),
    ⟨_, List.mem_append_right _ (List.mem_singleton_self _), rfl⟩, ?_⟩
  rw [hasHeadroom_iff, Nat.not_le]
  exact ((mustWait_of_write _ _ _ _).2 outcome).1

end SocketWriter

end Crocofix

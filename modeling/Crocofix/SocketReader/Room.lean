/-
The room that the reader offers to the socket.

The buffer has a fixed size, and what decoding leaves over stays in it.  Once
what is left over fills the buffer, the reader asks for nothing at all, and
nothing that arrives can change that.
-/

import Crocofix.SocketReader

namespace Crocofix

open Numeral

namespace SocketReader

variable {dictionary : OrchestrationFieldCollection}

/-! ### A stream that is decoded -/

theorem decodeStream_of_sound {fuel : Nat} {input : Bytes}
    (enough : input.length < fuel)
    (sound : (Decode.stream dictionary Message.empty.progress input).fault = none) :
    ∃ messages, Message.decodeStream dictionary fuel input =
      .ok (messages, (Decode.stream dictionary Message.empty.progress input).rest) := by
  induction fuel generalizing input with
  | zero => omega
  | succ fuel ih =>
      unfold Message.decodeStream
      rcases Decode.decode_stream dictionary Message.empty input with
        ⟨consumed, after, called, bounded, same⟩ |
        ⟨consumed, unit, called, positive, bounded, same⟩ | ⟨-, fails⟩
      · simp only [called, same]
        exact ⟨[], rfl⟩
      · rw [same] at sound
        have shorter : (input.drop consumed).length < fuel := by
          rw [List.length_drop]
          omega
        obtain ⟨messages, later⟩ := ih shorter sound
        simp only [called, later, same]
        exact ⟨unit.message :: messages, rfl⟩
      · exact absurd sound fails

theorem sound_iff_decodeAll {input : Bytes} :
    (Decode.stream dictionary Message.empty.progress input).fault = none ↔
      ∃ messages, Message.decodeAll dictionary input =
        .ok (messages,
          (Decode.stream dictionary Message.empty.progress input).rest) := by
  constructor
  · exact decodeStream_of_sound (Nat.lt_succ_self _)
  · rintro ⟨messages, decoded⟩
    exact (Decode.stream_of_decodeStream (Nat.lt_succ_self _) decoded).1

theorem decodeLoop_sound {fuel : Nat} {reader after : SocketReader}
    (enough : reader.unread.length < fuel)
    (looped : reader.decodeLoop dictionary fuel = (.ok (), after)) :
    (Decode.stream dictionary reader.message.progress reader.unread).fault =
      none := by
  induction fuel generalizing reader with
  | zero => omega
  | succ fuel ih =>
      unfold decodeLoop at looped
      rcases Decode.decode_stream dictionary reader.message reader.unread with
        ⟨consumed, left, called, within, same⟩ |
        ⟨consumed, unit, called, positive, within, same⟩ |
        ⟨⟨fault, left, called⟩, -⟩
      · rw [same]
      · simp only [called] at looped
        have shorter : (reader.advance consumed unit.message).dispatch.unread.length <
            fuel := by
          rw [unread_dispatch, unread_advance, List.length_drop]
          omega
        have later := ih shorter looped
        rw [unread_dispatch, unread_advance] at later
        rw [same]
        exact later
      · simp [called] at looped

theorem Reading.sound_of_read {received bytes : Bytes} {reader after : SocketReader}
    (reading : Reading dictionary received reader)
    (receivedSound :
      (Decode.stream dictionary Message.empty.progress received).fault = none)
    (fits : bytes.length ≤ reader.offered)
    (read : reader.read dictionary bytes = (.ok (), after)) :
    (Decode.stream dictionary Message.empty.progress
      (received ++ bytes)).fault = none := by
  have roomy := reading.makeRoom
  unfold offered at fits
  unfold SocketReader.read completed at read
  generalize reader.makeRoom = ready at roomy fits read
  have room : ready.writeOffset + bytes.length ≤ bufferSize := by
    have bounded := roomy.bounded
    omega
  have unread := unread_transfer roomy.size roomy.ordered room
  have sound := decodeLoop_sound (Nat.lt_succ_self _) read
  rw [unread, roomy.unread] at sound
  rw [Decode.stream_append bytes receivedSound, ← roomy.progress]
  exact sound

/-- As long as every handler returns, the reader stands where decoding what it
has received stands. -/
theorem Reading.of_reads {received : Bytes} {reader last : SocketReader}
    {chunks : List Bytes} (reading : Reading dictionary received reader)
    (sound : (Decode.stream dictionary Message.empty.progress received).fault = none)
    (reads : Reads dictionary reader chunks last) :
    Reading dictionary (received ++ chunks.flatten) last ∧
      (Decode.stream dictionary Message.empty.progress
        (received ++ chunks.flatten)).fault = none := by
  induction reads generalizing received with
  | done reader => simpa using And.intro reading sound
  | more nonempty fits read rest ih =>
      rw [List.flatten_cons, ← List.append_assoc]
      have soundNext := reading.sound_of_read sound fits read
      obtain ⟨after, again, next⟩ := reading.read fits soundNext
      rw [read] at again
      injection again with _ same
      subst same
      exact ih next soundNext

theorem initial_of_reads {reader : SocketReader} {chunks : List Bytes}
    (reads : Reads dictionary initial chunks reader) :
    Reading dictionary chunks.flatten reader ∧
      (Decode.stream dictionary Message.empty.progress chunks.flatten).fault =
        none := by
  have reached := initial_reading.of_reads (by rw [Decode.stream_nil]) reads
  rwa [List.nil_append] at reached

/-! ### The room -/

/-- Nothing is offered if and only if what is left over fills the buffer. -/
theorem Reading.offered_pos_iff {received : Bytes} {reader : SocketReader}
    (reading : Reading dictionary received reader) :
    0 < reader.offered ↔
      (Decode.stream dictionary Message.empty.progress received).rest.length <
        bufferSize := by
  constructor
  · intro offers
    by_contra full
    have length := unread_length reading.size reading.bounded
    rw [reading.unread] at length
    have bounded := reading.bounded
    have ordered := reading.ordered
    have filled : reader.writeOffset = bufferSize := by omega
    have start : reader.readOffset = 0 := by omega
    have none : reader.offered = 0 := by
      unfold offered SocketReader.makeRoom
      rw [if_pos filled]
      simp only
      omega
    omega
  · intro small
    by_contra none
    have full := reading.unread_of_full (Nat.eq_zero_of_not_pos none)
    omega

theorem Reads.snoc {reader last next : SocketReader} {chunks : List Bytes}
    {chunk : Bytes} (reads : Reads dictionary reader chunks last)
    (nonempty : 1 ≤ chunk.length) (fits : chunk.length ≤ last.offered)
    (read : last.read dictionary chunk = (.ok (), next)) :
    Reads dictionary reader (chunks ++ [chunk]) next := by
  induction reads with
  | done reader => exact .more nonempty fits read (.done next)
  | more nonemptyFirst fitsFirst readFirst rest ih =>
      exact .more nonemptyFirst fitsFirst readFirst (ih fits read)

/-- Byte by byte, a stream is read to its end or up to where nothing is
offered any more. -/
theorem reads_bytewise {front : Bytes}
    (sound : (Decode.stream dictionary Message.empty.progress front).fault = none) :
    ∃ chunks reader, chunks.flatten <+: front ∧
      Reads dictionary initial chunks reader ∧
      (chunks.flatten = front ∨ reader.offered = 0) := by
  induction front using List.reverseRecOn with
  | nil => exact ⟨[], initial, List.prefix_rfl, .done initial, .inl rfl⟩
  | append_singleton front byte ih =>
      obtain ⟨chunks, reader, isPrefix, reads, ended⟩ :=
        ih (Decode.stream_sound_of_append sound)
      by_cases full : reader.offered = 0
      · exact ⟨chunks, reader, isPrefix.trans (List.prefix_append _ _), reads,
          .inr full⟩
      · have whole := ended.resolve_right full
        obtain ⟨reading, -⟩ := initial_of_reads reads
        rw [whole] at reading
        have fits : [byte].length ≤ reader.offered := Nat.pos_of_ne_zero full
        obtain ⟨next, read, -⟩ := reading.read fits sound
        have flat : (chunks ++ [[byte]]).flatten = front ++ [byte] := by
          rw [List.flatten_append, whole]
          rfl
        refine ⟨chunks ++ [[byte]], next, ?_, reads.snoc (Nat.le_refl 1) fits read,
          .inl flat⟩
        simp only [flat, List.prefix_rfl]

/-- However a stream is cut into reads, the reader always offers room for one
byte, as long as its handlers return, if and only if every part of the stream
from its start on that is decoded leaves less than a whole buffer over. -/
theorem reads_offered_iff (dictionary : OrchestrationFieldCollection)
    (stream : Bytes) :
    (∀ chunks reader, chunks.flatten <+: stream →
        Reads dictionary initial chunks reader → 0 < reader.offered) ↔
      ∀ front messages rest, front <+: stream →
        Message.decodeAll dictionary front = .ok (messages, rest) →
          rest.length < bufferSize := by
  constructor
  · intro offers front messages rest isPrefix decoded
    obtain ⟨sound, -, left⟩ :=
      Decode.stream_of_decodeStream (Nat.lt_succ_self _) decoded
    obtain ⟨chunks, reader, isFront, reads, ended⟩ := reads_bytewise sound
    have room := offers chunks reader (isFront.trans isPrefix) reads
    have whole := ended.resolve_right (Nat.ne_of_gt room)
    obtain ⟨reading, -⟩ := initial_of_reads reads
    rw [whole] at reading
    rw [← left]
    exact reading.offered_pos_iff.mp room
  · intro small chunks reader isPrefix reads
    obtain ⟨reading, sound⟩ := initial_of_reads reads
    obtain ⟨messages, decoded⟩ := sound_iff_decodeAll.mp sound
    exact reading.offered_pos_iff.mpr (small _ messages _ isPrefix decoded)

theorem stream_of_not_mem (dictionary : OrchestrationFieldCollection)
    (progress : Decode.Progress) {input : Bytes}
    (absent : Decode.valueSeparator ∉ input) :
    Decode.stream dictionary progress input = ⟨[], progress, input, none⟩ := by
  have waits : (Decode.scanner dictionary).step progress input = .wait := by
    have read : Decode.readTag dictionary input = none := by
      simp only [Decode.readTag, List.idxOf_eq_length absent, if_true]
    simp only [Decode.scanner, Decode.scanField, Decode.negativeLength, read,
      Decode.nextField, Bool.false_eq_true, if_false]
  have run := (Decode.scanner dictionary).run_wait waits
  unfold Decode.stream
  rw [Scan.Scanner.drain_waiting _ _ (by rw [run]), run]
  rfl

def longTag : Bytes := List.replicate bufferSize 120

/-- A buffer full of bytes without a '=' arrives in one read, and the next one asks
for nothing. -/
theorem longTag_offers_nothing :
    ∃ reader, Reads .excerpt initial [longTag] reader ∧ reader.offered = 0 := by
  have absent : Decode.valueSeparator ∉ longTag := by
    intro member
    cases List.eq_of_mem_replicate member
  have left := stream_of_not_mem .excerpt Message.empty.progress absent
  have length : longTag.length = bufferSize := List.length_replicate
  have fits : longTag.length ≤ initial.offered := Nat.le_of_eq length
  have sound : (Decode.stream .excerpt Message.empty.progress
      ([] ++ longTag)).fault = none := by
    rw [List.nil_append, left]
  obtain ⟨reader, read, reading⟩ := initial_reading.read fits sound
  refine ⟨reader, .more ?_ fits read (.done reader), ?_⟩
  · rw [length]
    decide
  · rw [List.nil_append] at reading
    by_contra offers
    have small := reading.offered_pos_iff.mp (Nat.pos_of_ne_zero offers)
    rw [left] at small
    exact absurd length (Nat.ne_of_lt small)

end SocketReader

end Crocofix

/-
Streams that were put together from whole messages.
-/

import Crocofix.SocketReader.Index
import Crocofix.Library.Frame

namespace Crocofix

open Numeral

namespace Decode

/-- The bytes are one whole message, which is decoded to the given one. -/
def IsWhole (dictionary : OrchestrationFieldCollection) (piece : Bytes)
    (message : Message) : Prop :=
  Message.empty.decode dictionary piece = (.ok ⟨piece.length, true⟩, message)

instance (dictionary : OrchestrationFieldCollection) (piece : Bytes) (message : Message) :
    Decidable (IsWhole dictionary piece message) :=
  inferInstanceAs (Decidable (_ = _))

variable {dictionary : OrchestrationFieldCollection}

theorem IsWhole.frames {piece : Bytes} {message : Message}
    (whole : IsWhole dictionary piece message) :
    ∃ unit : Progress, unit.message = message ∧
      (scanner dictionary).Frames Message.empty.progress piece unit := by
  unfold IsWhole at whole
  rcases decode_stream dictionary Message.empty piece with
    ⟨consumed, after, called, -, -⟩ | ⟨consumed, unit, called, -, -, same⟩ |
    ⟨⟨fault, after, called⟩, -⟩
  · rw [whole] at called
    cases called
  · rw [whole] at called
    injection called with result message
    injection result with result
    injection result with consumed
    rw [← consumed, List.drop_length, stream_nil] at same
    exact ⟨unit, message.symm, same⟩
  · rw [whole] at called
    cases called

theorem IsWhole.decode_append {piece : Bytes} {message : Message}
    (whole : IsWhole dictionary piece message) (more : Bytes) :
    Message.empty.decode dictionary (piece ++ more) =
      (.ok ⟨piece.length, true⟩, message) := by
  have agrees := decode_agrees dictionary Message.empty piece
  have behind := decode_agrees dictionary Message.empty (piece ++ more)
  unfold IsWhole at whole
  rw [whole] at agrees
  cases ending : ((scanner dictionary).run Message.empty.progress piece).ending with
  | waiting =>
      have waits := (agrees.waiting ending).1
      injection waits with same
      injection same with _ complete
      cases complete
  | failed stop =>
      obtain ⟨fault, failed, -⟩ := agrees.failed stop ending
      cases failed
  | finished =>
      rw [(scanner dictionary).run_append_of_ended _ _ more (by rw [ending]; simp)] at behind
      obtain ⟨result, after⟩ := behind.finished ending
      obtain ⟨same, message⟩ := agrees.finished ending
      exact Prod.ext (result.trans same.symm) (after.trans message.symm)

theorem exists_units {pieces : List Bytes} {messages : List Message}
    (whole : List.Forall₂ (IsWhole dictionary) pieces messages) :
    ∃ units : List Progress, units.map Progress.message = messages ∧
      List.Forall₂ ((scanner dictionary).Frames Message.empty.progress) pieces units := by
  induction whole with
  | nil => exact ⟨[], rfl, .nil⟩
  | cons first rest ih =>
      obtain ⟨unit, message, frame⟩ := first.frames
      obtain ⟨units, same, frames⟩ := ih
      exact ⟨unit :: units, by rw [List.map_cons, message, same], .cons frame frames⟩

/-- What decoding the front of a stream of whole messages comes to: the first messages,
and what is left over of the next one. -/
structure Front (dictionary : OrchestrationFieldCollection) (pieces : List Bytes)
    (messages : List Message) (front : Bytes) (count : Nat) : Prop where
  sound : (stream dictionary Message.empty.progress front).fault = none
  found : (stream dictionary Message.empty.progress front).units.map Progress.message =
    messages.take count
  within : (pieces.take count).flatten <+: front
  rest : (stream dictionary Message.empty.progress front).rest.length +
    (pieces.take count).flatten.length ≤ front.length
  next : count < pieces.length → front.length < (pieces.take (count + 1)).flatten.length
  all : front = pieces.flatten → pieces.length ≤ count

theorem exists_front {pieces : List Bytes} {messages : List Message}
    (whole : List.Forall₂ (IsWhole dictionary) pieces messages) {front : Bytes}
    (isFront : front <+: pieces.flatten) :
    ∃ count, Front dictionary pieces messages front count := by
  obtain ⟨units, same, frames⟩ := exists_units whole
  obtain ⟨first, within, sound⟩ := Scan.Scanner.drain_front
    (SocketReader.scanner_leaves dictionary) frames isFront
  change (stream dictionary Message.empty.progress front).units <+: units at first
  change (pieces.take (stream dictionary Message.empty.progress front).units.length).flatten
    <+: front at within
  have lengths := frames.length_eq
  refine ⟨(stream dictionary Message.empty.progress front).units.length, sound, ?_, within,
    Scan.Scanner.drain_rest_le (List.forall₂_take _ frames) within, ?_, ?_⟩
  · rw [← same, ← List.map_take]
    exact congrArg _ (List.prefix_iff_eq_take.mp first)
  · intro more
    by_contra long
    generalize counted : (stream dictionary Message.empty.progress front).units.length =
      count at more long
    have part : (pieces.take (count + 1)).flatten <+: pieces.flatten := by
      refine ⟨(pieces.drop (count + 1)).flatten, ?_⟩
      rw [← List.flatten_append, List.take_append_drop]
    have held := List.prefix_of_prefix_length_le part isFront (Nat.not_lt.mp long)
    have further := (Scan.Scanner.units_prefix (List.forall₂_take (count + 1) frames)
      held).length_le
    change _ ≤ (stream dictionary Message.empty.progress front).units.length at further
    rw [List.length_take] at further
    omega
  · rintro rfl
    have drained := Scan.Scanner.drain_frames frames
    change stream dictionary Message.empty.progress pieces.flatten = _ at drained
    rw [drained, lengths]

end Decode

end Crocofix

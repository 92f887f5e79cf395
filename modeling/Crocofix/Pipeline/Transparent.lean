/-
A script that changes nothing.

Between two peers that write their messages the way the encoder does, a pipeline whose
script leaves the messages alone cannot be noticed: the bytes that come out are a front
of those that went in.
-/

import Crocofix.Pipeline.Quiet
import Crocofix.PassThrough
import Crocofix.SocketReader.Framed

namespace Crocofix

open Numeral

namespace Pipeline

variable {options : Options} {direction : Direction}

/-- One message in the form in which the encoder writes it, with a checksum and a body
length that are right. -/
structure Canonical (dictionary : OrchestrationFieldCollection) (piece : Bytes)
    (message : Message) : Prop where
  decoded : Decode.IsWhole dictionary piece message
  checksum : message.HasChecksum
  bodyLength : message.HasBodyLength
  tags : Encode.IsCanonical message.fields piece
  nonnegative : Checksum.NonnegativeRemainder (Encode.beforeCheckSum piece)

theorem Canonical.encoding {dictionary : OrchestrationFieldCollection} {piece : Bytes}
    {message : Message} (canonical : Canonical dictionary piece message) :
    message.encoding .standard = piece := by
  obtain ⟨front, last, spells, sum⟩ := Encode.decode_spelled canonical.decoded
  obtain ⟨result, written⟩ := Encode.reproduces_of_canonical spells
    (Encode.value_of_hasChecksum spells sum canonical.checksum) canonical.bodyLength
    (Nat.le_refl piece.length) canonical.tags canonical.nonnegative
  have positive : 0 < piece.length := by
    rw [spells.bytes]
    simp [Encode.Spelled.bytes]
  obtain ⟨stored, -⟩ := Encode.encode_of_stored result positive
  rw [← written, stored]

theorem encoding_of_passed {relay : Relay}
    (passes : ∀ function ∈ options.script direction, ∀ message,
      function message = .edited message)
    (scripted : ∀ handled ∈ relay.handled,
      ∃ function ∈ options.script direction, function handled.message = handled.scripted) :
    relay.handled.flatMap Handled.encoding =
      (relay.handled.map Handled.message).flatMap (·.encoding .standard) := by
  rw [List.flatMap_map]
  apply List.flatMap_congr
  intro handled member
  obtain ⟨function, inScript, result⟩ := scripted handled member
  rw [passes function inScript] at result
  unfold Handled.scripted at result
  unfold Handled.encoding
  split at result
  · cases result
  · next edited present =>
      injection result with same
      rw [same]

theorem flatMap_encoding {dictionary : OrchestrationFieldCollection} {pieces : List Bytes}
    {messages : List Message}
    (canonical : List.Forall₂ (Canonical dictionary) pieces messages) :
    messages.flatMap (·.encoding .standard) = pieces.flatten := by
  induction canonical with
  | nil => rfl
  | cons first rest ih => rw [List.flatMap_cons, List.flatten_cons, first.encoding, ih]

/-- Where a peer writes canonical messages, what has been sent to the other one is the
first bytes of what was received, up to the end of a message, and all of them once
whole messages were received and no handler is running. -/
theorem transparent {pipeline : Pipeline} (reachable : Reachable options pipeline)
    (direction : Direction)
    (passes : ∀ function ∈ options.script direction, ∀ message,
      function message = .edited message)
    {pieces : List Bytes} {messages : List Message}
    (canonical : List.Forall₂ (Canonical options.dictionary) pieces messages)
    (received : (pipeline.relay direction).received <+: pieces.flatten) :
    ∃ count,
      (pipeline.relay direction).writer.transferred ++
          (pipeline.relay direction).writer.active.contents ++
          (pipeline.relay direction).writer.pending.contents =
        (pieces.take count).flatten ∧
      (pieces.take count).flatten <+: (pipeline.relay direction).received ∧
      ((∀ handler ∈ pipeline.handlers, handler.1 ≠ direction) →
        (pipeline.relay direction).received = pieces.flatten →
        pieces.take count = pieces) := by
  have whole : List.Forall₂ (Decode.IsWhole options.dictionary) pieces messages :=
    canonical.imp fun _ _ => Canonical.decoded
  obtain ⟨found, front⟩ := Decode.exists_front whole received
  obtain ⟨first, all, scripted, bytes⟩ := relayed reachable direction
  have lengths := canonical.length_eq
  rw [front.found] at first
  have size := first.length_le
  rw [List.length_map, List.length_take] at size
  have taken : (pipeline.relay direction).handled.map Handled.message =
      messages.take (pipeline.relay direction).handled.length := by
    have same := List.prefix_iff_eq_take.mp (first.trans (List.take_prefix _ _))
    rwa [List.length_map] at same
  refine ⟨(pipeline.relay direction).handled.length, ?_, ?_, ?_⟩
  · rw [bytes, encoding_of_passed passes scripted, taken]
    exact flatMap_encoding (List.forall₂_take _ canonical)
  · refine List.IsPrefix.trans ?_ front.within
    obtain ⟨more, split⟩ := List.take_prefix (pipeline.relay direction).handled.length
      (pieces.take found)
    rw [List.take_take, Nat.min_eq_left (by omega)] at split
    rw [← split, List.flatten_append]
    exact List.prefix_append _ _
  · intro asked received
    obtain ⟨rest, decoded⟩ := all asked
    obtain ⟨-, same, -⟩ := Decode.stream_of_decodeStream (Nat.lt_succ_self _) decoded
    rw [front.found] at same
    have count := congrArg List.length same
    rw [List.length_map, List.length_take] at count
    have every := front.all received
    exact List.take_of_length_le (by omega)

theorem transparent_heartbeat :
    ∃ pipeline count, Reachable passing pipeline ∧
      (pipeline.relay .initiatorRead).received = Encode.heartbeatBytes ∧
      (pipeline.relay .initiatorRead).writer.transferred ++
          (pipeline.relay .initiatorRead).writer.active.contents ++
          (pipeline.relay .initiatorRead).writer.pending.contents =
        ([Encode.heartbeatBytes].take count).flatten := by
  have reachable := @reachable_firstRead Encode.heartbeatBytes passing
    ⟨by decide +kernel, .inl (by decide)⟩
  have canonical : Canonical .excerpt Encode.heartbeatBytes Encode.decodedHeartbeat :=
    { decoded := by decide +kernel
      checksum := ⟨⟨Tag.CheckSum, ascii "163"⟩, 163, by decide, by decide, by decide⟩
      bodyLength := by decide
      tags := by decide
      nonnegative := by decide }
  have received : ((firstRead Encode.heartbeatBytes).relay .initiatorRead).received =
      Encode.heartbeatBytes := rfl
  obtain ⟨count, same, -⟩ := transparent reachable .initiatorRead
    (fun function member message => by rw [Set.mem_singleton_iff.mp member])
    (.cons canonical .nil) (by rw [received]; exact ⟨[], by simp⟩)
  exact ⟨_, count, reachable, received, same⟩

end Pipeline

end Crocofix

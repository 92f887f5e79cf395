/-
A writer and the reader at the other end of its connection.

The writer queues encodings in two buffers, the connection delivers the bytes in pieces
of any size, and the reader decodes what it has.  Seen from outside this is a queue of
messages: what is written comes out in the same order, each message once, as the
encoder and the decoder carry it.
-/

import Crocofix.Carried
import Crocofix.Session.Delivery
import Crocofix.Library.Run
import Crocofix.SocketReader.Framed
import Crocofix.SocketWriter.Queued

namespace Crocofix

open Numeral

/-- The calls of `write` at one end, the reader at the other, the messages that were
queued and the bytes that have arrived. -/
structure Link where
  system : SocketWriter.System
  reader : SocketReader
  sent : List Message
  arrived : Bytes

namespace Link

/-- The bytes that the socket has been given: a write that is in progress may have been
delivered in part. -/
def onWire (link : Link) : Bytes :=
  link.system.writer.transferred ++ link.system.writer.active.contents

def initial : Link := ⟨⟨.initial, []⟩, .initial, [], []⟩

structure Arrives (link : Link) (chunk : Bytes) : Prop where
  nonempty : 1 ≤ chunk.length
  fits : chunk.length ≤ link.reader.offered
  wired : link.arrived ++ chunk <+: link.onWire

/-- Writes of well-formed messages, whatever else the writer does, and reads. -/
inductive Step (dictionary : OrchestrationFieldCollection) : Link → Link → Prop
  | queued {link : Link} {message : Message} {encoding : Bytes}
      {status : SocketWriter.CallStatus}
      (wellFormed : Encode.WellFormed dictionary message.fields)
      (fits : Encode.DataFits dictionary message.fields)
      (outcome : (link.system.writer.write message .standard).1 = .returned encoding ∧
          status = .returned ∨
        (link.system.writer.write message .standard).1 = .waits encoding ∧
          status = .waiting) :
      Step dictionary link
        { link with
          system := ⟨(link.system.writer.write message .standard).2.2,
            link.system.calls ++ [⟨encoding, status⟩]⟩
          sent := link.sent ++ [message] }
  /-- Refused calls, completions, and the ends of waits. -/
  | other {link : Link} {system : SocketWriter.System}
      (step : SocketWriter.Step link.system system)
      (same : system.calls.map SocketWriter.Call.encoding =
        link.system.calls.map SocketWriter.Call.encoding) :
      Step dictionary link { link with system }
  | read {link : Link} {chunk : Bytes} {reader : SocketReader}
      (arrives : Arrives link chunk)
      (read : link.reader.read dictionary chunk = (.ok (), reader)) :
      Step dictionary link { link with reader, arrived := link.arrived ++ chunk }

def Reachable (dictionary : OrchestrationFieldCollection) (link : Link) : Prop :=
  ∃ count, Run (Step dictionary) count initial link

/-! ### What holds of every link -/

variable {dictionary : OrchestrationFieldCollection}

structure Carries (dictionary : OrchestrationFieldCollection) (message : Message) : Prop
    where
  short : (message.encoding .standard).length ≤ SocketWriter.bufferSize
  whole : Decode.IsWhole dictionary (message.encoding .standard) (message.carried .standard)

def pieces (link : Link) : List Bytes := link.sent.map (·.encoding .standard)

def carried (link : Link) : List Message := link.sent.map (·.carried .standard)

structure Sound (dictionary : OrchestrationFieldCollection) (link : Link) : Prop where
  carries : ∀ message ∈ link.sent, Carries dictionary message
  calls : link.system.calls.map SocketWriter.Call.encoding = link.pieces
  written : SocketWriter.Invariant link.system.writer link.pieces.flatten
  reading : SocketReader.Reading dictionary link.arrived link.reader
  arrived : link.arrived <+: link.pieces.flatten

theorem initial_sound : Sound dictionary initial where
  carries := fun _ member => by cases member
  calls := rfl
  written := SocketWriter.initial_invariant
  reading := SocketReader.initial_reading
  arrived := List.prefix_rfl

theorem whole_of_carries {messages : List Message}
    (carries : ∀ message ∈ messages, Carries dictionary message) :
    List.Forall₂ (Decode.IsWhole dictionary) (messages.map (·.encoding .standard))
      (messages.map (·.carried .standard)) := by
  rw [List.forall₂_map_left_iff, List.forall₂_map_right_iff, List.forall₂_same]
  exact fun message member => (carries message member).whole

theorem Sound.front {link : Link} (sound : Sound dictionary link) :
    ∃ count, Decode.Front dictionary link.pieces link.carried link.arrived count :=
  Decode.exists_front (whole_of_carries sound.carries) sound.arrived

theorem carries_of_write {writer : SocketWriter} {message : Message} {encoding : Bytes}
    (bodyDefined : dictionary.Defines Tag.BodyLength false)
    (checksumDefined : dictionary.Defines Tag.CheckSum false)
    (wellFormed : Encode.WellFormed dictionary message.fields)
    (fits : Encode.DataFits dictionary message.fields)
    (outcome : (writer.write message .standard).1 = .returned encoding ∨
      (writer.write message .standard).1 = .waits encoding) :
    Carries dictionary message := by
  obtain ⟨size, returned, positive, -⟩ := SocketWriter.encoded_of_write outcome
  obtain ⟨stored, length⟩ := Encode.encode_of_stored returned positive
  obtain ⟨-, within⟩ := Encode.size_of_stored returned positive
  have decoded := Message.decode_eq_carried bodyDefined checksumDefined wellFormed fits
    stored positive
  rw [← length, List.take_length] at decoded
  refine ⟨?_, decoded⟩
  omega

theorem onWire_front {link : Link} (sound : Sound dictionary link) :
    link.onWire <+: link.pieces.flatten := by
  rw [← sound.written.bytes]
  exact List.prefix_append _ _

theorem Sound.step {link after : Link}
    (bodyDefined : dictionary.Defines Tag.BodyLength false)
    (checksumDefined : dictionary.Defines Tag.CheckSum false)
    (sound : Sound dictionary link) (step : Step dictionary link after) :
    Sound dictionary after := by
  cases step with
  | @queued message encoding status wellFormed fits outcome =>
      have stored : (link.system.writer.write message .standard).1 = .returned encoding ∨
          (link.system.writer.write message .standard).1 = .waits encoding :=
        outcome.imp And.left And.left
      have bytes := SocketWriter.encoding_of_write stored
      have more : ({ link with
          system := ⟨(link.system.writer.write message .standard).2.2,
            link.system.calls ++ [⟨encoding, status⟩]⟩
          sent := link.sent ++ [message] } : Link).pieces = link.pieces ++ [encoding] := by
        simp [pieces, bytes]
      refine ⟨?_, ?_, ?_, sound.reading, ?_⟩
      · intro other member
        rcases List.mem_append.mp member with earlier | last
        · exact sound.carries other earlier
        · rw [List.mem_singleton.mp last]
          exact carries_of_write bodyDefined checksumDefined wellFormed fits stored
      · rw [more, List.map_append, sound.calls]
        rfl
      · have queued := sound.written.queued stored
        rw [more, List.flatten_append, List.flatten_singleton]
        exact queued
      · rw [more, List.flatten_append]
        exact sound.arrived.trans (List.prefix_append _ _)
  | @other system step same =>
      have written := SocketWriter.step_invariant step
        (by rw [SocketWriter.System.encodings, sound.calls]; exact sound.written)
      rw [SocketWriter.System.encodings, same, sound.calls] at written
      exact ⟨sound.carries, same.trans sound.calls, written, sound.reading, sound.arrived⟩
  | @read chunk reader arrives read =>
      obtain ⟨count, front⟩ := sound.front
      have further := sound.reading.sound_of_read front.sound arrives.fits read
      obtain ⟨after, again, reading⟩ := sound.reading.read arrives.fits further
      rw [read] at again
      injection again with _ same
      subst same
      exact ⟨sound.carries, sound.calls, sound.written, reading,
        arrives.wired.trans (onWire_front sound)⟩

theorem Reachable.sound {link : Link}
    (bodyDefined : dictionary.Defines Tag.BodyLength false)
    (checksumDefined : dictionary.Defines Tag.CheckSum false)
    (reachable : Reachable dictionary link) : Sound dictionary link := by
  obtain ⟨count, run⟩ := reachable
  exact run.keeps (fun _ _ sound step => sound.step bodyDefined checksumDefined step)
    initial_sound

/-! ### A queue of messages -/

theorem Sound.rest_lt {link : Link} (sound : Sound dictionary link) :
    (Decode.stream dictionary Message.empty.progress link.arrived).rest.length <
      SocketReader.bufferSize := by
  obtain ⟨count, front⟩ := sound.front
  have rest := front.rest
  by_cases more : count < link.pieces.length
  · have next := front.next more
    obtain ⟨message, member, same⟩ :=
      List.mem_map.mp (List.getElem_mem more)
    have short := (sound.carries message member).short
    rw [List.take_succ_eq_append_getElem more, List.flatten_append, List.length_append,
      List.flatten_singleton, ← same] at next
    change _ ≤ SocketReader.bufferSize at short
    omega
  · have whole : link.pieces.take count = link.pieces :=
      List.take_of_length_le (Nat.not_lt.mp more)
    have all := sound.arrived.length_le
    rw [whole] at rest
    have positive : 0 < SocketReader.bufferSize := by decide
    omega

/-- However calls of `write`, completions, waits and reads of any size follow each
other, what is dispatched is what was queued, in the same order and each message once,
as it is carried.  Nothing that can arrive is refused or finds the buffer full, and as
long as a message is missing more bytes can arrive or a write can complete. -/
theorem fifo {link : Link} (bodyDefined : dictionary.Defines Tag.BodyLength false)
    (checksumDefined : dictionary.Defines Tag.CheckSum false)
    (reachable : Reachable dictionary link) :
    link.reader.dispatched <+: link.carried ∧
    (∀ chunk, Arrives link chunk →
      ∃ reader, link.reader.read dictionary chunk = (.ok (), reader)) ∧
    0 < link.reader.offered ∧
    (link.reader.dispatched = link.carried ∨ (∃ chunk, Arrives link chunk) ∨
      ∃ index writer, link.system.writer.complete index = some writer) := by
  have sound := reachable.sound bodyDefined checksumDefined
  obtain ⟨count, front⟩ := sound.front
  have dispatched := sound.reading.dispatched
  rw [front.found] at dispatched
  have offers := sound.reading.offered_pos_iff.mpr sound.rest_lt
  refine ⟨?_, ?_, offers, ?_⟩
  · rw [dispatched]
    exact List.take_prefix _ _
  · intro chunk arrives
    have stays : link.arrived ++ chunk <+: link.pieces.flatten :=
      arrives.wired.trans (onWire_front sound)
    obtain ⟨more, further⟩ :=
      Decode.exists_front (whole_of_carries sound.carries) stays
    obtain ⟨reader, read, -⟩ := sound.reading.read arrives.fits further.sound
    exact ⟨reader, read⟩
  · by_cases busy : 0 < link.system.writer.active.offset
    · exact .inr (.inr (sound.written.exists_complete busy))
    · -- Nothing is active or pending, so that all bytes are on the wire.
      have idle : link.system.writer.active.offset = 0 := Nat.eq_zero_of_not_pos busy
      have empty := sound.written.moving idle
      have bytes := sound.written.bytes
      rw [WriteBuffer.contents, WriteBuffer.contents, empty, List.take_zero,
        List.append_nil] at bytes
      obtain ⟨missing, whole⟩ := sound.arrived
      cases missing with
      | nil =>
          left
          rw [List.append_nil] at whole
          have every := front.all whole
          rw [dispatched]
          apply List.take_of_length_le
          simpa [pieces, carried] using every
      | cons byte missing =>
          refine .inr (.inl ⟨[byte], Nat.le_refl 1, offers, ?_⟩)
          change _ <+: _ ++ _
          rw [WriteBuffer.contents, bytes, ← whole]
          exact ⟨missing, by simp⟩

theorem write_rawData :
    (SocketWriter.initial.write (Session.rawDataMessage [1]) .standard).1 =
      .returned ((Session.rawDataMessage [1]).encoding .standard) := by
  decide +kernel

def afterRawData : Link where
  system := ⟨(SocketWriter.initial.write (Session.rawDataMessage [1]) .standard).2.2,
    [⟨(Session.rawDataMessage [1]).encoding .standard, .returned⟩]⟩
  reader := .initial
  sent := [Session.rawDataMessage [1]]
  arrived := []

theorem fifo_rawData :
    ∃ reader, afterRawData.reader.read .excerpt
      ((Session.rawDataMessage [1]).encoding .standard) = (.ok (), reader) := by
  have reachable : Reachable .excerpt afterRawData :=
    ⟨1, .single (.queued (Session.wellFormed_rawDataMessage [1])
      (Session.dataFits_rawDataMessage (by decide)) (.inl ⟨write_rawData, rfl⟩))⟩
  obtain ⟨-, reads, -⟩ := fifo Session.excerpt_bodyLength Session.excerpt_checkSum reachable
  refine reads _ ⟨by decide +kernel, by decide +kernel, ?_⟩
  have wired : afterRawData.onWire = (Session.rawDataMessage [1]).encoding .standard := by
    decide +kernel
  rw [wired]
  exact List.prefix_rfl

end Link

end Crocofix

/-
Reading messages from a socket, in C++ and in Python.

`socket_reader` reads into a fixed buffer behind what it has not decoded yet,
decodes what is there and makes room only when the buffer is full.  The Python
reader keeps the tail that was not consumed and puts it in front of the next
piece.  Both dispatch the messages that decoding the whole stream gives.
-/

import Crocofix.DecodeRestart

namespace Crocofix

open Numeral

/-- `m_read_buffer` with its two offsets, the message being decoded, and the
messages dispatched so far.  `consumed` records the bytes that the calls of
`decode` consumed, in the order in which they did. -/
structure SocketReader where
  readBuffer : Bytes
  writeOffset : Nat
  readOffset : Nat
  message : Message
  dispatched : List Message
  consumed : Bytes

namespace SocketReader

def bufferSize : Nat := 8192

def initial : SocketReader :=
  ⟨List.replicate bufferSize 0, 0, 0, .empty, [], []⟩

/-- The start of `socket_reader::read`: when the buffer is full, what is left
over is copied to its start. -/
def makeRoom (reader : SocketReader) : SocketReader :=
  if reader.writeOffset = bufferSize then
    let remainderSize := reader.writeOffset - reader.readOffset
    { reader with
      readBuffer :=
        if 0 < remainderSize then
          (reader.readBuffer.drop reader.readOffset).take remainderSize ++
            reader.readBuffer.drop remainderSize
        else reader.readBuffer
      readOffset := 0
      writeOffset := remainderSize }
  else reader

/-- The size of the buffer that `async_read_some` is given. -/
def offered (reader : SocketReader) : Nat :=
  bufferSize - reader.makeRoom.writeOffset

def unread (reader : SocketReader) : Bytes :=
  (reader.readBuffer.drop reader.readOffset).take
    (reader.writeOffset - reader.readOffset)

def advance (reader : SocketReader) (consumed : Nat) (message : Message) :
    SocketReader :=
  { reader with
    message
    readOffset := reader.readOffset + consumed
    consumed := reader.consumed ++ reader.unread.take consumed }

/-- `dispatch_message_read(m_message)` and `m_message.reset()`. -/
def dispatch (reader : SocketReader) : SocketReader :=
  { reader with
    dispatched := reader.dispatched ++ [reader.message]
    message := .empty }

/-- The loop of the completion handler.  A complete message consumes at least
one byte, so the number of unread bytes is enough fuel. -/
def decodeLoop (dictionary : OrchestrationFieldCollection) :
    Nat → SocketReader → Except Decode.Fault Unit × SocketReader
  | 0, reader => (.ok (), reader)
  | fuel + 1, reader =>
      match reader.message.decode dictionary reader.unread with
      | (.error fault, message) => (.error fault, { reader with message })
      | (.ok ⟨consumed, complete⟩, message) =>
          if !complete then (.ok (), reader.advance consumed message)
          else decodeLoop dictionary fuel (reader.advance consumed message).dispatch

def transfer (reader : SocketReader) (bytes : Bytes) : SocketReader :=
  { reader with
    readBuffer := reader.readBuffer.take reader.writeOffset ++ bytes ++
      reader.readBuffer.drop (reader.writeOffset + bytes.length)
    writeOffset := reader.writeOffset + bytes.length }

def completed (dictionary : OrchestrationFieldCollection)
    (reader : SocketReader) (bytes : Bytes) :
    Except Decode.Fault Unit × SocketReader :=
  decodeLoop dictionary ((reader.transfer bytes).unread.length + 1)
    (reader.transfer bytes)

def read (dictionary : OrchestrationFieldCollection) (reader : SocketReader)
    (bytes : Bytes) : Except Decode.Fault Unit × SocketReader :=
  reader.makeRoom.completed dictionary bytes

/-- The reads that deliver the chunks, each of at least one byte and at most the
size that was offered. -/
inductive Reads (dictionary : OrchestrationFieldCollection) :
    SocketReader → List Bytes → SocketReader → Prop
  | done (reader : SocketReader) : Reads dictionary reader [] reader
  | more {reader next last : SocketReader} {chunk : Bytes} {chunks : List Bytes}
      (nonempty : 1 ≤ chunk.length) (fits : chunk.length ≤ reader.offered)
      (read : reader.read dictionary chunk = (.ok (), next))
      (rest : Reads dictionary next chunks last) :
      Reads dictionary reader (chunk :: chunks) last

end SocketReader

/-- Decode a whole stream message by message: the messages, and what is left
over behind them. -/
def Message.decodeStream (dictionary : OrchestrationFieldCollection) :
    Nat → Bytes → Except Decode.Fault (List Message × Bytes)
  | 0, stream => .ok ([], stream)
  | fuel + 1, stream =>
      match Message.empty.decode dictionary stream with
      | (.error fault, _) => .error fault
      | (.ok ⟨consumed, false⟩, _) => .ok ([], stream.drop consumed)
      | (.ok ⟨consumed, true⟩, message) =>
          match decodeStream dictionary fuel (stream.drop consumed) with
          | .error fault => .error fault
          | .ok (messages, rest) => .ok (message :: messages, rest)

def Message.decodeAll (dictionary : OrchestrationFieldCollection)
    (stream : Bytes) : Except Decode.Fault (List Message × Bytes) :=
  Message.decodeStream dictionary (stream.length + 1) stream

namespace Decode

def stream (dictionary : OrchestrationFieldCollection) (progress : Progress)
    (input : Bytes) : Scan.Scanner.Drained Progress Stop UInt8 :=
  (scanner dictionary).drain Message.empty.progress progress input

def FieldsWithin (dictionary : OrchestrationFieldCollection) (limit : Nat)
    (input : Bytes) : Prop :=
  (scanner dictionary).TakesWithin limit Message.empty.progress input

end Decode

/-! ### The Python reader -/

/-- The state of the Python `SocketReader`: the message being decoded, and the
messages dispatched so far. -/
structure PythonReader where
  message : Message
  dispatched : List Message

namespace PythonReader

def initial : PythonReader := ⟨.empty, []⟩

/-- The loop of `SocketReader.process_data`; the result is the leftovers. -/
def processLoop (dictionary : OrchestrationFieldCollection) :
    Nat → PythonReader → Bytes → Except Decode.Fault Bytes × PythonReader
  | 0, reader, _ => (.ok [], reader)
  | fuel + 1, reader, data =>
      if data = [] then (.ok [], reader)
      else
        match reader.message.decode dictionary data with
        | (.error fault, message) => (.error fault, { reader with message })
        | (.ok ⟨consumed, true⟩, message) =>
            processLoop dictionary fuel
              ⟨.empty, reader.dispatched ++ [message]⟩ (data.drop consumed)
        | (.ok ⟨consumed, false⟩, message) =>
            if data.length ≤ consumed then (.ok [], { reader with message })
            else (.ok (data.drop consumed), { reader with message })

def processData (dictionary : OrchestrationFieldCollection)
    (reader : PythonReader) (data : Bytes) :
    Except Decode.Fault Bytes × PythonReader :=
  processLoop dictionary (data.length + 1) reader data

/-- `SocketReader.read_messages` on the pieces that `recv` returns. -/
def readMessages (dictionary : OrchestrationFieldCollection) :
    PythonReader → Bytes → List Bytes → Except Decode.Fault Unit × PythonReader
  | reader, _, [] => (.ok (), reader)
  | reader, leftovers, data :: rest =>
      match reader.processData dictionary (leftovers ++ data) with
      | (.error fault, after) => (.error fault, after)
      | (.ok leftovers, after) => readMessages dictionary after leftovers rest

end PythonReader

namespace Decode

/-! ### The stream as the scanner sees it -/

def Progress.message (progress : Progress) : Message :=
  ⟨progress.fields, progress.checksum.toUInt32, true⟩

section stream

variable {dictionary : OrchestrationFieldCollection}

/-- One call of `decode` in a stream: it waits for more, completes the next
message, or throws. -/
theorem decode_stream (dictionary : OrchestrationFieldCollection)
    (message : Message) (input : Bytes) :
    (∃ consumed after,
        message.decode dictionary input = (.ok ⟨consumed, false⟩, after) ∧
        consumed ≤ input.length ∧
        stream dictionary message.progress input =
          ⟨[], after.progress, input.drop consumed, none⟩) ∨
      (∃ consumed unit,
        message.decode dictionary input =
          (.ok ⟨consumed, true⟩, unit.message) ∧
        0 < consumed ∧ consumed ≤ input.length ∧
        stream dictionary message.progress input =
          (stream dictionary Message.empty.progress
            (input.drop consumed)).prepend [unit]) ∨
      ((∃ fault after, message.decode dictionary input = (.error fault, after)) ∧
        (stream dictionary message.progress input).fault ≠ none) := by
  have agrees := decode_agrees dictionary message input
  have bounded := (scanner dictionary).consumed_le message.progress input
  unfold stream
  cases ending : ((scanner dictionary).run message.progress input).ending with
  | waiting =>
      obtain ⟨result, after⟩ := agrees.waiting ending
      refine .inl ⟨_, _, Prod.ext result rfl, bounded, ?_⟩
      rw [Scan.Scanner.drain_waiting _ _ ending, after]
  | finished =>
      obtain ⟨result, after⟩ := agrees.finished ending
      have positive := (scanner dictionary).consumed_pos_of_finished ending
      exact .inr (.inl ⟨_, _, Prod.ext result after, positive, bounded,
        Scan.Scanner.drain_finished _ _ ending⟩)
  | failed stop =>
      obtain ⟨fault, fails, -⟩ := agrees.failed stop ending
      refine .inr (.inr ⟨⟨fault, _, Prod.ext fails rfl⟩, ?_⟩)
      simp [Scan.Scanner.drain_failed _ _ ending]

theorem stream_nil (dictionary : OrchestrationFieldCollection)
    (progress : Progress) :
    stream dictionary progress [] = ⟨[], progress, [], none⟩ := by
  have waits := (scanner dictionary).run_nil progress
  unfold stream
  rw [Scan.Scanner.drain_waiting _ _ (by rw [waits]), waits]
  rfl

theorem stream_sound_of_append {progress : Progress} {input more : Bytes}
    (sound : (stream dictionary progress (input ++ more)).fault = none) :
    (stream dictionary progress input).fault = none :=
  (scanner dictionary).drain_sound_of_append sound

theorem stream_append {input : Bytes} (more : Bytes)
    (sound : (stream dictionary Message.empty.progress input).fault = none) :
    stream dictionary Message.empty.progress (input ++ more) =
      (stream dictionary (stream dictionary Message.empty.progress input).state
        ((stream dictionary Message.empty.progress input).rest ++ more)).prepend
          (stream dictionary Message.empty.progress input).units :=
  (scanner dictionary).drain_append _ _ input more sound

theorem stream_of_decodeStream {fuel : Nat} {input rest : Bytes}
    {messages : List Message} (enough : input.length < fuel)
    (decoded : Message.decodeStream dictionary fuel input = .ok (messages, rest)) :
    (stream dictionary Message.empty.progress input).fault = none ∧
      (stream dictionary Message.empty.progress input).units.map
        Progress.message = messages ∧
      (stream dictionary Message.empty.progress input).rest = rest := by
  induction fuel generalizing input messages rest with
  | zero => omega
  | succ fuel ih =>
      unfold Message.decodeStream at decoded
      rcases decode_stream dictionary Message.empty input with
        ⟨consumed, after, called, bounded, same⟩ |
        ⟨consumed, unit, called, positive, bounded, same⟩ |
        ⟨⟨fault, after, called⟩, -⟩
      · simp only [called] at decoded
        injection decoded with pair
        injection pair with messagesEq restEq
        rw [same]
        exact ⟨rfl, messagesEq, restEq⟩
      · simp only [called] at decoded
        cases later : Message.decodeStream dictionary fuel (input.drop consumed) with
        | error fault => simp [later] at decoded
        | ok result =>
            obtain ⟨tailMessages, tailRest⟩ := result
            have shorter : (input.drop consumed).length < fuel := by
              rw [List.length_drop]
              omega
            obtain ⟨sound, units, left⟩ := ih shorter later
            simp only [later] at decoded
            injection decoded with pair
            injection pair with messagesEq restEq
            rw [same]
            refine ⟨sound, ?_, left.trans restEq⟩
            rw [← messagesEq, ← units]
            rfl
      · simp [called] at decoded

end stream

end Decode

namespace SocketReader

variable {dictionary : OrchestrationFieldCollection}

/-! ### The loop of the completion handler -/

structure LoopResult (dictionary : OrchestrationFieldCollection)
    (before after : SocketReader) : Prop where
  buffer : after.readBuffer = before.readBuffer
  writeOffset : after.writeOffset = before.writeOffset
  ordered : after.readOffset ≤ after.writeOffset
  unread : after.unread =
    (Decode.stream dictionary before.message.progress before.unread).rest
  progress : after.message.progress =
    (Decode.stream dictionary before.message.progress before.unread).state
  dispatched : after.dispatched = before.dispatched ++
    (Decode.stream dictionary before.message.progress before.unread).units.map
      Decode.Progress.message
  consumed : after.consumed ++ after.unread = before.consumed ++ before.unread

theorem unread_length {reader : SocketReader}
    (size : reader.readBuffer.length = bufferSize)
    (bounded : reader.writeOffset ≤ bufferSize) :
    reader.unread.length = reader.writeOffset - reader.readOffset := by
  simp only [unread, List.length_take, List.length_drop]
  omega

@[simp] theorem unread_advance (reader : SocketReader) (consumed : Nat)
    (message : Message) :
    (reader.advance consumed message).unread = reader.unread.drop consumed := by
  simp only [unread, advance, List.drop_take, List.drop_drop, Nat.sub_add_eq]

@[simp] theorem unread_dispatch (reader : SocketReader) :
    reader.dispatch.unread = reader.unread := rfl

theorem decodeLoop_spec {fuel : Nat} (reader : SocketReader)
    (size : reader.readBuffer.length = bufferSize)
    (ordered : reader.readOffset ≤ reader.writeOffset)
    (bounded : reader.writeOffset ≤ bufferSize)
    (enough : reader.unread.length < fuel)
    (sound : (Decode.stream dictionary reader.message.progress
      reader.unread).fault = none) :
    ∃ after, reader.decodeLoop dictionary fuel = (.ok (), after) ∧
      LoopResult dictionary reader after := by
  induction fuel generalizing reader with
  | zero => omega
  | succ fuel ih =>
      have available := unread_length size bounded
      unfold decodeLoop
      rcases Decode.decode_stream dictionary reader.message reader.unread with
        ⟨consumed, after, called, within, same⟩ |
        ⟨consumed, unit, called, positive, within, same⟩ | ⟨-, fails⟩
      · have inside : reader.readOffset + consumed ≤ reader.writeOffset := by
          omega
        refine ⟨reader.advance consumed after, by simp only [called]; rfl, ?_⟩
        constructor
        · rfl
        · rfl
        · exact inside
        · rw [same, unread_advance]
        · rw [same]
          rfl
        · rw [same]
          exact (List.append_nil _).symm
        · rw [unread_advance]
          simp only [advance, List.append_assoc, List.take_append_drop]
      · have inside : reader.readOffset + consumed ≤ reader.writeOffset := by
          omega
        have left : (reader.advance consumed unit.message).dispatch.unread =
            reader.unread.drop consumed := unread_advance reader consumed unit.message
        have shorter : (reader.advance consumed unit.message).dispatch.unread.length <
            fuel := by
          rw [left, List.length_drop]
          omega
        have later : (Decode.stream dictionary Message.empty.progress
            (reader.advance consumed unit.message).dispatch.unread).fault = none := by
          rw [left]
          rwa [same] at sound
        obtain ⟨after, looped, result⟩ :=
          ih (reader.advance consumed unit.message).dispatch size inside bounded
            shorter later
        refine ⟨after, by simp only [called]; exact looped, ?_⟩
        constructor
        · exact result.buffer
        · exact result.writeOffset
        · exact result.ordered
        · rw [result.unread, left, same]
          rfl
        · rw [result.progress, left, same]
          rfl
        · rw [result.dispatched, left, same]
          exact List.append_assoc _ _ _
        · rw [result.consumed, left]
          simp only [dispatch, advance, List.append_assoc, List.take_append_drop]
      · exact absurd sound fails

/-! ### One read -/

/-- A reader that has received the bytes stands where decoding them stands. -/
structure Reading (dictionary : OrchestrationFieldCollection) (received : Bytes)
    (reader : SocketReader) : Prop where
  size : reader.readBuffer.length = bufferSize
  ordered : reader.readOffset ≤ reader.writeOffset
  bounded : reader.writeOffset ≤ bufferSize
  unread : reader.unread =
    (Decode.stream dictionary Message.empty.progress received).rest
  progress : reader.message.progress =
    (Decode.stream dictionary Message.empty.progress received).state
  dispatched : reader.dispatched =
    (Decode.stream dictionary Message.empty.progress received).units.map
      Decode.Progress.message
  consumed : reader.consumed ++ reader.unread = received

theorem initial_reading : Reading dictionary [] initial := by
  have none := Decode.stream_nil dictionary Message.empty.progress
  exact
    { size := List.length_replicate
      ordered := Nat.le_refl _
      bounded := Nat.zero_le _
      unread := by rw [none]; rfl
      progress := by rw [none]; rfl
      dispatched := by rw [none]; rfl
      consumed := rfl }

theorem unread_makeRoom {reader : SocketReader}
    (size : reader.readBuffer.length = bufferSize)
    (ordered : reader.readOffset ≤ reader.writeOffset) :
    reader.makeRoom.unread = reader.unread := by
  unfold makeRoom
  split
  · next full =>
      by_cases some : 0 < reader.writeOffset - reader.readOffset
      · have length : ((reader.readBuffer.drop reader.readOffset).take
            (reader.writeOffset - reader.readOffset)).length =
            reader.writeOffset - reader.readOffset := by
          rw [List.length_take, List.length_drop]
          omega
        simp only [unread, if_pos some, List.drop_zero, Nat.sub_zero]
        exact List.take_left' length
      · have none : reader.writeOffset - reader.readOffset = 0 := by omega
        simp only [unread, none, Nat.sub_zero, List.take_zero]
  · rfl

theorem Reading.makeRoom {received : Bytes} {reader : SocketReader}
    (reading : Reading dictionary received reader) :
    Reading dictionary received reader.makeRoom := by
  have same := unread_makeRoom reading.size reading.ordered
  have kept : reader.makeRoom.message = reader.message ∧
      reader.makeRoom.dispatched = reader.dispatched ∧
      reader.makeRoom.consumed = reader.consumed := by
    unfold SocketReader.makeRoom
    split <;> exact ⟨rfl, rfl, rfl⟩
  have offsets : reader.makeRoom.readBuffer.length = bufferSize ∧
      reader.makeRoom.readOffset ≤ reader.makeRoom.writeOffset ∧
      reader.makeRoom.writeOffset ≤ bufferSize := by
    have size := reading.size
    have bounded := reading.bounded
    unfold SocketReader.makeRoom
    split
    · refine ⟨?_, Nat.zero_le _, by simp only; omega⟩
      simp only
      split
      · simp only [List.length_append, List.length_take, List.length_drop]
        omega
      · exact size
    · exact ⟨size, reading.ordered, bounded⟩
  exact
    { size := offsets.1
      ordered := offsets.2.1
      bounded := offsets.2.2
      unread := same.trans reading.unread
      progress := by rw [kept.1]; exact reading.progress
      dispatched := kept.2.1.trans reading.dispatched
      consumed := by rw [kept.2.2, same]; exact reading.consumed }

theorem unread_transfer {reader : SocketReader} {bytes : Bytes}
    (size : reader.readBuffer.length = bufferSize)
    (ordered : reader.readOffset ≤ reader.writeOffset)
    (room : reader.writeOffset + bytes.length ≤ bufferSize) :
    (reader.transfer bytes).unread = reader.unread ++ bytes := by
  have front : (reader.readBuffer.take reader.writeOffset).length =
      reader.writeOffset := by
    rw [List.length_take]
    omega
  have span : reader.writeOffset + bytes.length - reader.readOffset =
      (reader.writeOffset - reader.readOffset) + bytes.length := by omega
  simp only [unread, transfer, List.append_assoc, span]
  rw [List.drop_append_of_le_length (by omega), ← List.append_assoc,
    List.take_append_of_le_length (by simp; omega), List.take_of_length_le (by
      simp; omega), List.drop_take]

theorem Reading.read {received bytes : Bytes} {reader : SocketReader}
    (reading : Reading dictionary received reader)
    (fits : bytes.length ≤ reader.offered)
    (sound : (Decode.stream dictionary Message.empty.progress
      (received ++ bytes)).fault = none) :
    ∃ after, reader.read dictionary bytes = (.ok (), after) ∧
      Reading dictionary (received ++ bytes) after := by
  have roomy := reading.makeRoom
  unfold offered at fits
  unfold SocketReader.read completed
  generalize reader.makeRoom = ready at roomy fits
  have room : ready.writeOffset + bytes.length ≤ bufferSize := by
    have bounded := roomy.bounded
    omega
  have appended := Decode.stream_append bytes (Decode.stream_sound_of_append sound)
  have unread := unread_transfer roomy.size roomy.ordered room
  have size : (ready.transfer bytes).readBuffer.length = bufferSize := by
    have length := roomy.size
    simp only [transfer, List.length_append, List.length_take, List.length_drop]
    omega
  have ordered : (ready.transfer bytes).readOffset ≤
      (ready.transfer bytes).writeOffset :=
    Nat.le_trans roomy.ordered (Nat.le_add_right _ _)
  have resumed : Decode.stream dictionary (ready.transfer bytes).message.progress
      (ready.transfer bytes).unread =
        Decode.stream dictionary
          (Decode.stream dictionary Message.empty.progress received).state
          ((Decode.stream dictionary Message.empty.progress received).rest ++
            bytes) := by
    rw [unread, roomy.unread, ← roomy.progress]
    rfl
  rw [appended] at sound
  obtain ⟨after, looped, result⟩ := decodeLoop_spec _ size ordered room
    (Nat.lt_succ_self _) (by rw [resumed]; exact sound)
  refine ⟨after, looped, ?_⟩
  have dispatched := result.dispatched
  have left := result.unread
  have progress := result.progress
  rw [resumed] at dispatched left progress
  exact
    { size := by rw [result.buffer, size]
      ordered := result.ordered
      bounded := by rw [result.writeOffset]; exact room
      unread := by rw [appended]; exact left
      progress := by rw [appended]; exact progress
      dispatched := by
        rw [dispatched, appended, Scan.Scanner.Drained.prepend, List.map_append,
          ← roomy.dispatched]
        rfl
      consumed := by
        rw [result.consumed, unread, ← List.append_assoc]
        exact congrArg (· ++ bytes) roomy.consumed }

/-! ### All reads -/

theorem Reading.reads {received : Bytes} {reader last : SocketReader}
    {chunks : List Bytes} (reading : Reading dictionary received reader)
    (reads : Reads dictionary reader chunks last)
    (sound : (Decode.stream dictionary Message.empty.progress
      (received ++ chunks.flatten)).fault = none) :
    Reading dictionary (received ++ chunks.flatten) last := by
  induction reads generalizing received with
  | done reader => simpa using reading
  | more nonempty fits read rest ih =>
      rw [List.flatten_cons, ← List.append_assoc] at sound ⊢
      obtain ⟨after, again, next⟩ :=
        reading.read fits (Decode.stream_sound_of_append sound)
      rw [read] at again
      injection again with _ same
      subst same
      exact ih next sound

theorem Reading.unread_of_full {received : Bytes} {reader : SocketReader}
    (reading : Reading dictionary received reader) (full : reader.offered = 0) :
    bufferSize ≤
      (Decode.stream dictionary Message.empty.progress received).rest.length := by
  have roomy := reading.makeRoom
  unfold offered at full
  have length := unread_length roomy.size roomy.bounded
  have front : reader.makeRoom.readOffset = 0 := by
    unfold SocketReader.makeRoom at full ⊢
    split
    · rfl
    · next notFull =>
        have bounded := reading.bounded
        rw [if_neg notFull] at full
        omega
  rw [← roomy.unread, length]
  omega

end SocketReader

namespace PythonReader

variable {dictionary : OrchestrationFieldCollection}

theorem processLoop_spec {fuel : Nat} (reader : PythonReader) {data : Bytes}
    (enough : data.length < fuel)
    (sound : (Decode.stream dictionary reader.message.progress data).fault = none) :
    ∃ after, reader.processLoop dictionary fuel data =
        (.ok (Decode.stream dictionary reader.message.progress data).rest, after) ∧
      after.message.progress =
        (Decode.stream dictionary reader.message.progress data).state ∧
      after.dispatched = reader.dispatched ++
        (Decode.stream dictionary reader.message.progress data).units.map
          Decode.Progress.message := by
  induction fuel generalizing reader data with
  | zero => omega
  | succ fuel ih =>
      unfold processLoop
      by_cases empty : data = []
      · rw [if_pos empty, empty, Decode.stream_nil]
        exact ⟨reader, rfl, rfl, (List.append_nil _).symm⟩
      · rw [if_neg empty]
        rcases Decode.decode_stream dictionary reader.message data with
          ⟨consumed, after, called, within, same⟩ |
          ⟨consumed, unit, called, positive, within, same⟩ | ⟨-, fails⟩
        · rw [same]
          refine ⟨⟨after, reader.dispatched⟩, ?_, rfl, (List.append_nil _).symm⟩
          simp only [called]
          by_cases all : data.length ≤ consumed
          · rw [if_pos all, List.drop_of_length_le all]
          · rw [if_neg all]
        · have shorter : (data.drop consumed).length < fuel := by
            rw [List.length_drop]
            have some := List.length_pos_iff.mpr empty
            omega
          rw [same] at sound
          obtain ⟨after, looped, progress, dispatched⟩ :=
            ih ⟨.empty, reader.dispatched ++ [unit.message]⟩ shorter sound
          rw [same]
          refine ⟨after, by simp only [called]; exact looped, progress, ?_⟩
          rw [dispatched]
          exact List.append_assoc _ _ _
        · exact absurd sound fails

theorem readMessages_spec (received leftovers : Bytes) (reader : PythonReader)
    (pieces : List Bytes)
    (left : leftovers =
      (Decode.stream dictionary Message.empty.progress received).rest)
    (progress : reader.message.progress =
      (Decode.stream dictionary Message.empty.progress received).state)
    (dispatched : reader.dispatched =
      (Decode.stream dictionary Message.empty.progress received).units.map
        Decode.Progress.message)
    (sound : (Decode.stream dictionary Message.empty.progress
      (received ++ pieces.flatten)).fault = none) :
    ∃ after, reader.readMessages dictionary leftovers pieces = (.ok (), after) ∧
      after.dispatched =
        (Decode.stream dictionary Message.empty.progress
          (received ++ pieces.flatten)).units.map Decode.Progress.message := by
  induction pieces generalizing received leftovers reader with
  | nil =>
      refine ⟨reader, rfl, ?_⟩
      rw [List.flatten_nil, List.append_nil, dispatched]
  | cons piece rest ih =>
      rw [List.flatten_cons, ← List.append_assoc] at sound ⊢
      have here := Decode.stream_sound_of_append sound
      have appended :=
        Decode.stream_append piece (Decode.stream_sound_of_append here)
      rw [← left, ← progress] at appended
      obtain ⟨after, looped, progressAfter, dispatchedAfter⟩ :=
        processLoop_spec reader (Nat.lt_succ_self (leftovers ++ piece).length)
          (by rw [appended] at here; exact here)
      unfold readMessages processData
      rw [looped]
      refine ih _ _ _ ?_ ?_ ?_ sound
      · rw [appended]
        rfl
      · rw [appended]
        exact progressAfter
      · rw [dispatchedAfter, appended, dispatched]
        exact List.map_append.symm

end PythonReader

namespace SocketReader

variable {dictionary : OrchestrationFieldCollection}

/-- Every way of cutting a stream into reads dispatches the messages that
decoding the whole stream gives, and so does the Python reader. -/
theorem reads_stream {bytes rest pending : Bytes} {messages : List Message}
    {chunks : List Bytes} {reader : SocketReader}
    (whole : Message.decodeAll dictionary bytes = .ok (messages, rest))
    (within : Decode.FieldsWithin dictionary bufferSize bytes)
    (cut : chunks.flatten ++ pending = bytes)
    (reads : Reads dictionary initial chunks reader) :
    (0 ≤ reader.readOffset ∧ reader.readOffset ≤ reader.writeOffset ∧
      reader.writeOffset ≤ bufferSize) ∧
    reader.consumed ++ reader.unread = chunks.flatten ∧
    reader.dispatched <+: messages ∧
    (pending = [] ∨ reader.offered = 0 → reader.dispatched = messages) ∧
    (rest.length < bufferSize → 0 < reader.offered) ∧
    (∀ chunk more, chunk ++ more = pending → chunk.length ≤ reader.offered →
      ∃ next, reader.read dictionary chunk = (.ok (), next)) ∧
    ∀ pieces : List Bytes, pieces.flatten = bytes →
      ∃ python, PythonReader.initial.readMessages dictionary [] pieces =
        (.ok (), python) ∧ python.dispatched = messages := by
  subst cut
  obtain ⟨sound, units, left⟩ :=
    Decode.stream_of_decodeStream (Nat.lt_succ_self _) whole
  have front := Decode.stream_sound_of_append sound
  have reading := initial_reading.reads reads (by simpa using front)
  rw [List.nil_append] at reading
  have stuck (full : reader.offered = 0) :=
    (Decode.scanner dictionary).drain_of_limit
      (Decode.scanner_exact dictionary) sound within (reading.unread_of_full full)
  refine ⟨⟨Nat.zero_le _, reading.ordered, reading.bounded⟩, reading.consumed,
    ?_, ?_, ?_, ?_, ?_⟩
  · rw [reading.dispatched, ← units, Decode.stream_append pending front,
      Scan.Scanner.Drained.prepend, List.map_append]
    exact List.prefix_append _ _
  · rintro (rfl | full)
    · rw [List.append_nil] at units
      rw [reading.dispatched, units]
    · rw [reading.dispatched, ← units]
      exact congrArg _ (stuck full).1.symm
  · intro small
    by_contra none
    have full := (stuck (Nat.eq_zero_of_not_pos none)).2
    change bufferSize ≤ (Decode.stream dictionary _ _).rest.length at full
    rw [left] at full
    omega
  · rintro chunk more rfl fits
    rw [← List.append_assoc] at sound
    obtain ⟨after, read, -⟩ :=
      reading.read fits (Decode.stream_sound_of_append sound)
    exact ⟨after, read⟩
  · intro pieces same
    have none := Decode.stream_nil dictionary Message.empty.progress
    obtain ⟨python, run, dispatched⟩ := PythonReader.readMessages_spec [] []
      PythonReader.initial pieces (by rw [none]) (by rw [none]; rfl)
      (by rw [none]; rfl) (by rw [List.nil_append, same]; exact sound)
    rw [List.nil_append, same, units] at dispatched
    exact ⟨python, run, dispatched⟩

def sampleStream : Bytes :=
  ascii "8=FIX" ++ [1] ++ ascii "95=3" ++ [1] ++ ascii "96=a" ++ [1] ++
    ascii "=" ++ [1] ++ ascii "10=000" ++ [1] ++ ascii "8=F"

def sampleMessage : Message :=
  ⟨[⟨8, ascii "FIX"⟩, ⟨95, ascii "3"⟩, ⟨96, [97, 1, 61]⟩, ⟨10, ascii "000"⟩],
    136, true⟩

def beforeCut : Bytes := sampleStream.take 15

def behindCut : Bytes := sampleStream.drop 15

theorem reads_sampleStream :
    ∃ reader, Reads .excerpt initial [beforeCut, behindCut] reader ∧
      reader.dispatched = [sampleMessage] := by
  have whole : Message.decodeAll .excerpt sampleStream =
      .ok ([sampleMessage], ascii "8=F") := by decide +kernel
  have sound := (Decode.stream_of_decodeStream (Nat.lt_succ_self _) whole).1
  have cut : [beforeCut, behindCut].flatten ++ [] = sampleStream := by decide +kernel
  have joined : beforeCut ++ behindCut = sampleStream := List.take_append_drop 15 _
  rw [← joined] at sound
  obtain ⟨first, readFirst, reading⟩ := @Reading.read _ [] beforeCut _ initial_reading
    (by decide +kernel) (Decode.stream_sound_of_append sound)
  have room : behindCut.length ≤ first.offered := by
    have offers : behindCut.length ≤ (initial.read .excerpt beforeCut).2.offered := by
      decide +kernel
    rwa [readFirst] at offers
  obtain ⟨second, readSecond, -⟩ := reading.read room sound
  have reads : Reads .excerpt initial [beforeCut, behindCut] second :=
    .more (by decide) (by decide +kernel) readFirst
      (.more (by decide) room readSecond (.done second))
  have within : Decode.FieldsWithin .excerpt bufferSize sampleStream :=
    Scan.Scanner.takesWithin_of_length _ _ (by decide)
  exact ⟨second, reads, (reads_stream whole within cut reads).2.2.2.1 (.inl rfl)⟩

end SocketReader

end Crocofix

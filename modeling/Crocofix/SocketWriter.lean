/-
Writing messages to a socket through two buffers.

Messages are encoded into the pending buffer.  When no asynchronous write is
outstanding the buffers are swapped and one is started on the active buffer;
its completion starts the next one.  Above the high water mark a write waits by
running the handlers of the event loop, which may write messages themselves and
may throw.
-/

import Crocofix.Encode
import Mathlib.Logic.Relation

namespace Crocofix

open Numeral

inductive BufferName
  | first
  | second
deriving DecidableEq, Repr

structure WriteBuffer where
  buffer : Bytes
  offset : Nat
deriving DecidableEq, Repr

def WriteBuffer.contents (buffer : WriteBuffer) : Bytes :=
  buffer.buffer.take buffer.offset

/-- An asynchronous write that has not completed, with what its buffer held
when it was started. -/
structure Transfer where
  name : BufferName
  size : Nat
  snapshot : Bytes
deriving DecidableEq, Repr

/-- `transferred` is what completed asynchronous writes have handed to the
socket. -/
structure SocketWriter where
  first : WriteBuffer
  second : WriteBuffer
  pendingBuffer : BufferName
  activeBuffer : BufferName
  outstanding : List Transfer
  transferred : Bytes
deriving DecidableEq, Repr

namespace SocketWriter

def bufferSize : Nat := 8192
def bufferHighWaterMark : Nat := 7500

def initial : SocketWriter where
  first := ⟨List.replicate bufferSize 0, 0⟩
  second := ⟨List.replicate bufferSize 0, 0⟩
  pendingBuffer := .first
  activeBuffer := .second
  outstanding := []
  transferred := []

def bufferOf (writer : SocketWriter) : BufferName → WriteBuffer
  | .first => writer.first
  | .second => writer.second

def setBuffer (writer : SocketWriter) (buffer : WriteBuffer) :
    BufferName → SocketWriter
  | .first => { writer with first := buffer }
  | .second => { writer with second := buffer }

def pending (writer : SocketWriter) : WriteBuffer :=
  writer.bufferOf writer.pendingBuffer

def active (writer : SocketWriter) : WriteBuffer :=
  writer.bufferOf writer.activeBuffer

def flushPendingWrites (writer : SocketWriter) : SocketWriter :=
  if 0 < writer.active.offset then writer
  else
    { writer with
      pendingBuffer := writer.activeBuffer
      activeBuffer := writer.pendingBuffer
      outstanding := writer.outstanding ++
        [⟨writer.pendingBuffer, writer.pending.offset, writer.pending.buffer⟩] }

/-- What a call of `write` has come to: an exception before anything was
queued, or a queued encoding, after which it returns or waits. -/
inductive WriteOutcome
  | threw (exception : Exception)
  | returned (encoding : Bytes)
  | waits (encoding : Bytes)
deriving DecidableEq, Repr

/-- The pending buffer after the encoder has stored bytes behind its offset. -/
def stored (writer : SocketWriter) (written : Bytes) (size : Nat) : SocketWriter :=
  writer.setBuffer
    { buffer := writer.pending.contents ++ written ++
        writer.pending.buffer.drop (writer.pending.offset + written.length)
      offset := writer.pending.offset + size }
    writer.pendingBuffer

/-- `socket_writer::write` up to its wait loop.  The message is returned as the
encoder leaves it. -/
def write (writer : SocketWriter) (message : Message) (options : EncodeOptions) :
    WriteOutcome × Message × SocketWriter :=
  if bufferSize ≤ writer.pending.offset then
    (.threw ⟨.outOfRange, ascii "array::at"⟩, message, writer)
  else
    match message.encode (bufferSize - writer.pending.offset) options with
    | (.error exception, encoded, written) =>
        (.threw exception, encoded, writer.stored written 0)
    | (.ok size, encoded, written) =>
        if size = 0 then
          (.threw ⟨.runtimeError, ascii "failed to encode message"⟩, encoded,
            writer.stored written 0)
        else
          let flushed := (writer.stored written size).flushPendingWrites
          if bufferHighWaterMark < flushed.pending.offset ∧
              0 < flushed.active.offset then
            (.waits (written.take size), encoded, flushed)
          else (.returned (written.take size), encoded, flushed)

def emptyActive (writer : SocketWriter) : SocketWriter :=
  writer.setBuffer { writer.active with offset := 0 } writer.activeBuffer

/-- The completion handler, where there was no error. -/
def handleCompletion (writer : SocketWriter) : SocketWriter :=
  if 0 < writer.emptyActive.pending.offset then
    writer.emptyActive.flushPendingWrites
  else writer.emptyActive

/-- The completion of an asynchronous write that transferred its whole buffer:
the bytes that the socket takes are those the buffer holds now. -/
def complete (writer : SocketWriter) (index : Nat) : Option SocketWriter :=
  match writer.outstanding[index]? with
  | none => none
  | some transfer =>
      let taken : SocketWriter :=
        { writer with
          outstanding := writer.outstanding.eraseIdx index
          transferred := writer.transferred ++
            (writer.bufferOf transfer.name).buffer.take transfer.size }
      some taken.handleCompletion

/-! ### The calls of `write` -/

/-- How a call of `write` that has queued its message stands.  An interrupted
call was left by an exception that a handler threw while the call waited. -/
inductive CallStatus
  | waiting
  | returned
  | interrupted
deriving DecidableEq, Repr

structure Call where
  encoding : Bytes
  status : CallStatus
deriving DecidableEq, Repr

/-- The writer and the calls that have queued a message, in call order.  The
last waiting one is the innermost. -/
structure System where
  writer : SocketWriter
  calls : List Call

inductive Step : System → System → Prop
  | threw {system : System} {message : Message} {options : EncodeOptions}
      {exception : Exception}
      (outcome : (system.writer.write message options).1 = .threw exception) :
      Step system ⟨(system.writer.write message options).2.2, system.calls⟩
  | returned {system : System} {message : Message} {options : EncodeOptions}
      {encoding : Bytes}
      (outcome : (system.writer.write message options).1 = .returned encoding) :
      Step system ⟨(system.writer.write message options).2.2,
        system.calls ++ [⟨encoding, .returned⟩]⟩
  | waits {system : System} {message : Message} {options : EncodeOptions}
      {encoding : Bytes}
      (outcome : (system.writer.write message options).1 = .waits encoding) :
      Step system ⟨(system.writer.write message options).2.2,
        system.calls ++ [⟨encoding, .waiting⟩]⟩
  | completed {system : System} {index : Nat} {writer : SocketWriter}
      (completion : system.writer.complete index = some writer) :
      Step system ⟨writer, system.calls⟩
  /-- The wait loop of the innermost waiting call ends. -/
  | resumed {writer : SocketWriter} {outer inner : List Call} {encoding : Bytes}
      (idle : writer.active.offset = 0)
      (innermost : ∀ call ∈ inner, call.status ≠ .waiting) :
      Step ⟨writer, outer ++ ⟨encoding, .waiting⟩ :: inner⟩
        ⟨writer, outer ++ ⟨encoding, .returned⟩ :: inner⟩
  /-- A handler that the innermost waiting call runs throws. -/
  | interrupted {writer : SocketWriter} {outer inner : List Call}
      {encoding : Bytes}
      (innermost : ∀ call ∈ inner, call.status ≠ .waiting) :
      Step ⟨writer, outer ++ ⟨encoding, .waiting⟩ :: inner⟩
        ⟨writer, outer ++ ⟨encoding, .interrupted⟩ :: inner⟩

def Reachable : System → Prop :=
  Relation.ReflTransGen Step ⟨initial, []⟩

/-! ### The two buffers -/

@[simp] theorem bufferOf_setBuffer (writer : SocketWriter) (buffer : WriteBuffer)
    (name other : BufferName) :
    (writer.setBuffer buffer name).bufferOf other =
      if other = name then buffer else writer.bufferOf other := by
  cases name <;> cases other <;> rfl

@[simp] theorem pendingBuffer_setBuffer (writer : SocketWriter)
    (buffer : WriteBuffer) (name : BufferName) :
    (writer.setBuffer buffer name).pendingBuffer = writer.pendingBuffer := by
  cases name <;> rfl

@[simp] theorem activeBuffer_setBuffer (writer : SocketWriter)
    (buffer : WriteBuffer) (name : BufferName) :
    (writer.setBuffer buffer name).activeBuffer = writer.activeBuffer := by
  cases name <;> rfl

@[simp] theorem outstanding_setBuffer (writer : SocketWriter)
    (buffer : WriteBuffer) (name : BufferName) :
    (writer.setBuffer buffer name).outstanding = writer.outstanding := by
  cases name <;> rfl

@[simp] theorem transferred_setBuffer (writer : SocketWriter)
    (buffer : WriteBuffer) (name : BufferName) :
    (writer.setBuffer buffer name).transferred = writer.transferred := by
  cases name <;> rfl

/-- The bytes of all encodings are transferred, active or pending, in this
order, and the only asynchronous write is the one of the active buffer. -/
structure InOrder (writer : SocketWriter) (encodings : Bytes) : Prop where
  distinct : writer.activeBuffer ≠ writer.pendingBuffer
  sizes : ∀ name, (writer.bufferOf name).buffer.length = bufferSize
  bounded : ∀ name, (writer.bufferOf name).offset ≤ bufferSize
  outstanding : writer.outstanding =
    if writer.active.offset = 0 then []
    else [⟨writer.activeBuffer, writer.active.offset, writer.active.buffer⟩]
  bytes : writer.transferred ++ writer.active.contents ++
    writer.pending.contents = encodings

structure Invariant (writer : SocketWriter) (encodings : Bytes) : Prop
    extends InOrder writer encodings where
  moving : writer.active.offset = 0 → writer.pending.offset = 0

theorem InOrder.contents_length {writer : SocketWriter} {encodings : Bytes}
    (inOrder : InOrder writer encodings) :
    writer.pending.contents.length = writer.pending.offset := by
  have size := inOrder.sizes writer.pendingBuffer
  have bounded := inOrder.bounded writer.pendingBuffer
  change writer.pending.buffer.length = bufferSize at size
  change writer.pending.offset ≤ bufferSize at bounded
  rw [WriteBuffer.contents, List.length_take]
  omega

theorem InOrder.flushPendingWrites {writer : SocketWriter} {encodings : Bytes}
    (inOrder : InOrder writer encodings) (some : 0 < writer.pending.offset) :
    Invariant writer.flushPendingWrites encodings := by
  unfold SocketWriter.flushPendingWrites
  by_cases busy : 0 < writer.active.offset
  · rw [if_pos busy]
    refine ⟨inOrder, ?_⟩
    intro idle
    omega
  · have idle : writer.active.offset = 0 := by omega
    have none : writer.active.contents = [] := by
      rw [WriteBuffer.contents, idle, List.take_zero]
    have before := inOrder.outstanding
    have bytes := inOrder.bytes
    rw [if_pos idle] at before
    rw [none, List.append_nil] at bytes
    rw [if_neg busy]
    have swapped : writer.bufferOf writer.pendingBuffer = writer.pending := rfl
    constructor
    · constructor
      · exact inOrder.distinct.symm
      · exact inOrder.sizes
      · exact inOrder.bounded
      · change writer.outstanding ++ [_] = if writer.pending.offset = 0 then [] else _
        rw [before, if_neg (Nat.ne_of_gt some)]
        rfl
      · change writer.transferred ++ writer.pending.contents ++
          writer.active.contents = encodings
        rw [none, List.append_nil, bytes]
    · intro impossible
      change writer.pending.offset = 0 at impossible
      omega

/-! ### Storing an encoding -/

theorem pending_stored (writer : SocketWriter) (written : Bytes) (size : Nat) :
    (writer.stored written size).pending =
      { buffer := writer.pending.contents ++ written ++
          writer.pending.buffer.drop (writer.pending.offset + written.length)
        offset := writer.pending.offset + size } := by
  simp [pending, stored]

theorem active_stored {writer : SocketWriter} (written : Bytes) (size : Nat)
    (distinct : writer.activeBuffer ≠ writer.pendingBuffer) :
    (writer.stored written size).active = writer.active := by
  simp [active, stored, distinct]

theorem InOrder.contents_stored {writer : SocketWriter}
    {encodings written : Bytes} {size : Nat}
    (inOrder : InOrder writer encodings) (whole : size ≤ written.length) :
    (writer.stored written size).pending.contents =
      writer.pending.contents ++ written.take size := by
  have length := inOrder.contents_length
  rw [pending_stored, WriteBuffer.contents]
  simp only
  rw [List.append_assoc, ← length, List.take_length_add_append,
    List.take_append_of_le_length whole]

theorem InOrder.stored {writer : SocketWriter} {encodings written : Bytes}
    {size : Nat} (inOrder : InOrder writer encodings)
    (within : written.length ≤ bufferSize - writer.pending.offset)
    (whole : size ≤ written.length) :
    InOrder (writer.stored written size) (encodings ++ written.take size) := by
  have length := inOrder.contents_length
  have bounded := inOrder.bounded writer.pendingBuffer
  have pendingSize := inOrder.sizes writer.pendingBuffer
  change writer.pending.offset ≤ bufferSize at bounded
  change writer.pending.buffer.length = bufferSize at pendingSize
  have distinct : (writer.stored written size).activeBuffer ≠
      (writer.stored written size).pendingBuffer := by
    simpa [SocketWriter.stored] using inOrder.distinct
  constructor
  · exact distinct
  · intro name
    simp only [SocketWriter.stored, bufferOf_setBuffer]
    split
    · simp only [List.length_append, List.length_drop]
      omega
    · exact inOrder.sizes name
  · intro name
    simp only [SocketWriter.stored, bufferOf_setBuffer]
    split
    · simp only
      omega
    · exact inOrder.bounded name
  · rw [active_stored written size inOrder.distinct]
    simpa [SocketWriter.stored] using inOrder.outstanding
  · rw [active_stored written size inOrder.distinct,
      inOrder.contents_stored whole, ← List.append_assoc, ← inOrder.bytes]
    simp [SocketWriter.stored]

/-! ### What a step preserves -/

/-- What a call of `write` does to the writer: nothing, or it leaves bytes
behind the offset, or it queues the whole encoding. -/
theorem write_cases (writer : SocketWriter) (message : Message)
    (options : EncodeOptions) :
    (∃ exception after, writer.write message options =
        (.threw exception, after, writer)) ∨
      (∃ exception after written,
        written.length ≤ bufferSize - writer.pending.offset ∧
        writer.write message options =
          (.threw exception, after, writer.stored written 0)) ∨
      ∃ outcome after written,
        (outcome = .returned written ∨ outcome = .waits written) ∧
        written ≠ [] ∧ written.length ≤ bufferSize - writer.pending.offset ∧
        writer.write message options = (outcome, after,
          (writer.stored written written.length).flushPendingWrites) := by
  unfold write
  by_cases full : bufferSize ≤ writer.pending.offset
  · rw [if_pos full]
    exact .inl ⟨_, _, rfl⟩
  · rw [if_neg full]
    obtain ⟨within, whole⟩ :=
      Encode.encode_within message (bufferSize - writer.pending.offset) options
    generalize message.encode (bufferSize - writer.pending.offset) options =
      encoded at within whole ⊢
    rcases encoded with ⟨result, after, written⟩
    cases result with
    | error exception => exact .inr (.inl ⟨_, _, _, within, rfl⟩)
    | ok size =>
        by_cases zero : size = 0
        · simp only [if_pos zero]
          exact .inr (.inl ⟨_, _, _, within, rfl⟩)
        · have length : size = written.length :=
            (whole size rfl).resolve_left zero
          have some : written ≠ [] := by
            intro none
            rw [none] at length
            exact zero length
          subst length
          simp only [if_neg zero, List.take_length]
          split
          · exact .inr (.inr ⟨_, _, _, .inr rfl, some, within, rfl⟩)
          · exact .inr (.inr ⟨_, _, _, .inl rfl, some, within, rfl⟩)

theorem Invariant.stored_nothing {writer : SocketWriter}
    {encodings written : Bytes} (invariant : Invariant writer encodings)
    (within : written.length ≤ bufferSize - writer.pending.offset) :
    Invariant (writer.stored written 0) encodings ∧
      ∀ name,
        ((writer.stored written 0).bufferOf name).offset =
            (writer.bufferOf name).offset ∧
          ((writer.stored written 0).bufferOf name).contents =
            (writer.bufferOf name).contents := by
  have inOrder := invariant.toInOrder.stored within (Nat.zero_le _)
  have pendingContents :=
    invariant.toInOrder.contents_stored (Nat.zero_le written.length)
  rw [List.take_zero, List.append_nil] at inOrder pendingContents
  constructor
  · refine ⟨inOrder, ?_⟩
    intro idle
    rw [active_stored written 0 invariant.distinct] at idle
    rw [pending_stored]
    exact invariant.moving idle
  · intro name
    by_cases same : name = writer.pendingBuffer
    · subst same
      have here : (writer.stored written 0).bufferOf writer.pendingBuffer =
          (writer.stored written 0).pending := by
        simp [pending, stored]
      rw [here]
      refine ⟨?_, pendingContents⟩
      rw [pending_stored]
      rfl
    · simp [stored, same]

theorem Invariant.threw {writer : SocketWriter} {encodings : Bytes}
    {message : Message} {options : EncodeOptions} {exception : Exception}
    (invariant : Invariant writer encodings)
    (outcome : (writer.write message options).1 = .threw exception) :
    Invariant (writer.write message options).2.2 encodings ∧
      ∀ name,
        ((writer.write message options).2.2.bufferOf name).offset =
            (writer.bufferOf name).offset ∧
          ((writer.write message options).2.2.bufferOf name).contents =
            (writer.bufferOf name).contents := by
  rcases write_cases writer message options with
    ⟨other, after, same⟩ | ⟨other, after, written, within, same⟩ |
    ⟨other, after, written, queued, some, within, same⟩
  · rw [same]
    exact ⟨invariant, fun _ => ⟨rfl, rfl⟩⟩
  · rw [same]
    exact invariant.stored_nothing within
  · rw [same] at outcome
    rcases queued with rfl | rfl <;> cases outcome

theorem Invariant.queued {writer : SocketWriter} {encodings encoding : Bytes}
    {message : Message} {options : EncodeOptions}
    (invariant : Invariant writer encodings)
    (outcome : (writer.write message options).1 = .returned encoding ∨
      (writer.write message options).1 = .waits encoding) :
    Invariant (writer.write message options).2.2 (encodings ++ encoding) := by
  rcases write_cases writer message options with
    ⟨other, after, same⟩ | ⟨other, after, written, within, same⟩ |
    ⟨other, after, written, queued, some, within, same⟩
  · rw [same] at outcome
    rcases outcome with impossible | impossible <;> cases impossible
  · rw [same] at outcome
    rcases outcome with impossible | impossible <;> cases impossible
  · rw [same] at outcome ⊢
    have whole : encoding = written := by
      rcases queued with rfl | rfl <;> rcases outcome with equal | equal <;>
        cases equal <;> rfl
    subst whole
    have inOrder := invariant.toInOrder.stored within (Nat.le_refl _)
    rw [List.take_length] at inOrder
    apply inOrder.flushPendingWrites
    rw [pending_stored]
    have positive := List.length_pos_iff.mpr some
    exact Nat.lt_of_lt_of_le positive (Nat.le_add_left _ _)

/-- The completion handler of the only asynchronous write, whose bytes the
socket has taken. -/
theorem handleCompletion_invariant {writer : SocketWriter} {encodings : Bytes}
    (distinct : writer.activeBuffer ≠ writer.pendingBuffer)
    (sizes : ∀ name, (writer.bufferOf name).buffer.length = bufferSize)
    (bounded : ∀ name, (writer.bufferOf name).offset ≤ bufferSize)
    (outstanding : writer.outstanding = [])
    (bytes : writer.transferred ++ writer.pending.contents = encodings) :
    Invariant writer.handleCompletion encodings := by
  have active : writer.emptyActive.active = { writer.active with offset := 0 } := by
    simp [SocketWriter.active, emptyActive]
  have pending : writer.emptyActive.pending = writer.pending := by
    simp [SocketWriter.pending, emptyActive, distinct.symm]
  have inOrder : InOrder writer.emptyActive encodings := by
    constructor
    · simpa [emptyActive] using distinct
    · intro name
      simp only [emptyActive, bufferOf_setBuffer]
      split
      · exact sizes writer.activeBuffer
      · exact sizes name
    · intro name
      simp only [emptyActive, bufferOf_setBuffer]
      split
      · exact Nat.zero_le _
      · exact bounded name
    · rw [active]
      simpa [emptyActive] using outstanding
    · rw [active, pending]
      simpa [emptyActive, WriteBuffer.contents] using bytes
  unfold handleCompletion
  by_cases some : 0 < writer.emptyActive.pending.offset
  · rw [if_pos some]
    exact inOrder.flushPendingWrites some
  · rw [if_neg some]
    refine ⟨inOrder, ?_⟩
    intro idle
    omega

theorem Invariant.completed {writer after : SocketWriter} {encodings : Bytes}
    {index : Nat} (invariant : Invariant writer encodings)
    (completion : writer.complete index = some after) :
    Invariant after encodings := by
  have started := invariant.outstanding
  have bytes := invariant.bytes
  by_cases idle : writer.active.offset = 0
  · rw [if_pos idle] at started
    simp [complete, started] at completion
  · rw [if_neg idle] at started
    cases index with
    | succ index => simp [complete, started] at completion
    | zero =>
        simp only [complete, started, List.getElem?_cons_zero, Option.some.injEq,
          List.eraseIdx_cons_zero] at completion
        subst completion
        apply handleCompletion_invariant
        · exact invariant.distinct
        · exact invariant.sizes
        · exact invariant.bounded
        · rfl
        · exact bytes

/-! ### Every run -/

def System.encodings (system : System) : Bytes :=
  (system.calls.map Call.encoding).flatten

theorem initial_invariant : Invariant initial [] := by
  constructor
  · constructor
    · decide
    · intro name
      cases name <;> exact List.length_replicate
    · intro name
      cases name <;> exact Nat.zero_le _
    · rfl
    · rfl
  · intro _
    rfl

theorem step_invariant {before after : System} (step : Step before after)
    (invariant : Invariant before.writer before.encodings) :
    Invariant after.writer after.encodings := by
  cases step with
  | threw outcome => exact (invariant.threw outcome).1
  | returned outcome =>
      have queued := invariant.queued (.inl outcome)
      simpa [System.encodings] using queued
  | waits outcome =>
      have queued := invariant.queued (.inr outcome)
      simpa [System.encodings] using queued
  | completed completion => exact invariant.completed completion
  | resumed idle innermost => simpa [System.encodings] using invariant
  | interrupted innermost => simpa [System.encodings] using invariant

theorem reachable_invariant {system : System} (reachable : Reachable system) :
    Invariant system.writer system.encodings := by
  induction reachable with
  | refl => exact initial_invariant
  | tail _ step ih => exact step_invariant step ih

/-- In every interleaving of calls and completions at most one asynchronous
write is outstanding, its buffer is what it was when it was started, and the
bytes transferred, active and pending are the encodings of all queued messages
in call order.  A call that fails to encode changes none of the bytes in front
of the offsets. -/
theorem reachable_in_order {system : System} (reachable : Reachable system) :
    system.writer.outstanding.length ≤ 1 ∧
    (∀ transfer ∈ system.writer.outstanding,
      (system.writer.bufferOf transfer.name).buffer = transfer.snapshot) ∧
    system.writer.transferred ++ system.writer.active.contents ++
        system.writer.pending.contents =
      (system.calls.map Call.encoding).flatten ∧
    ∀ message options exception,
      (system.writer.write message options).1 = .threw exception →
        ∀ name,
          ((system.writer.write message options).2.2.bufferOf name).offset =
              (system.writer.bufferOf name).offset ∧
            ((system.writer.write message options).2.2.bufferOf name).contents =
              (system.writer.bufferOf name).contents := by
  have invariant := reachable_invariant reachable
  have outstanding := invariant.outstanding
  refine ⟨?_, ?_, invariant.bytes, ?_⟩
  · rw [outstanding]
    split
    · exact Nat.zero_le 1
    · exact Nat.le_refl 1
  · intro transfer member
    rw [outstanding] at member
    split at member
    · cases member
    · rw [List.mem_singleton.mp member]
      rfl
  · intro message options exception outcome
    exact (invariant.threw outcome).2

def textMessage (text : Bytes) : Message :=
  { Message.empty with fields := [⟨58, text⟩] }

def afterShort : SocketWriter :=
  (initial.write (textMessage (ascii "A")) .none).2.2

theorem write_short : (initial.write (textMessage (ascii "A")) .none).1 =
    .returned (Encode.wire ⟨58, ascii "A"⟩) := by
  decide +kernel

theorem reachable_short :
    Reachable ⟨afterShort, [⟨Encode.wire ⟨58, ascii "A"⟩, .returned⟩]⟩ :=
  .single (.returned write_short)

def afterQueued : SocketWriter :=
  (afterShort.write (textMessage (ascii "B")) .none).2.2

theorem write_queued : (afterShort.write (textMessage (ascii "B")) .none).1 =
    .returned (Encode.wire ⟨58, ascii "B"⟩) := by
  decide +kernel

theorem reachable_queued :
    Reachable ⟨afterQueued, [⟨Encode.wire ⟨58, ascii "A"⟩, .returned⟩,
      ⟨Encode.wire ⟨58, ascii "B"⟩, .returned⟩]⟩ :=
  reachable_short.tail (.returned write_queued)

theorem in_order_queued :
    ∃ writer, afterQueued.complete 0 = some writer ∧
      writer.transferred = Encode.wire ⟨58, ascii "A"⟩ ∧
      writer.transferred ++ writer.active.contents ++ writer.pending.contents =
        Encode.wire ⟨58, ascii "A"⟩ ++ Encode.wire ⟨58, ascii "B"⟩ := by
  have completes : (afterQueued.complete 0).map transferred =
      some (Encode.wire ⟨58, ascii "A"⟩) := by decide +kernel
  obtain ⟨writer, completion, transferred⟩ := Option.map_eq_some_iff.mp completes
  exact ⟨writer, completion, transferred,
    (reachable_in_order (reachable_queued.tail (.completed completion))).2.2.1⟩

theorem encode_textMessage {text : Bytes} {capacity : Nat}
    (fits : (Encode.wire ⟨58, text⟩).length ≤ capacity) :
    (textMessage text).encode capacity .none =
      (.ok (Encode.wire ⟨58, text⟩).length, textMessage text,
        Encode.wire ⟨58, text⟩) := by
  have encoded := Encode.encodeField_of_le
    (show ([] ++ Encode.wire ⟨58, text⟩).length ≤ capacity from fits)
  simp [Message.encode, Message.withBodyLength, EncodeOptions.none, textMessage,
    Encode.loop, encoded]

theorem write_waits {writer : SocketWriter} (text : Bytes)
    (busy : 0 < writer.active.offset) (empty : writer.pending.offset = 0)
    (distinct : writer.activeBuffer ≠ writer.pendingBuffer)
    (fits : (Encode.wire ⟨58, text⟩).length ≤ bufferSize)
    (high : bufferHighWaterMark < (Encode.wire ⟨58, text⟩).length) :
    (writer.write (textMessage text) .none).1 =
      .waits (Encode.wire ⟨58, text⟩) := by
  have room : ¬ bufferSize ≤ writer.pending.offset := by
    rw [empty]
    decide
  have positive : (Encode.wire ⟨58, text⟩).length ≠ 0 := by
    omega
  have active := active_stored (Encode.wire ⟨58, text⟩)
    (Encode.wire ⟨58, text⟩).length distinct
  have flushed : (writer.stored (Encode.wire ⟨58, text⟩)
      (Encode.wire ⟨58, text⟩).length).flushPendingWrites =
        writer.stored (Encode.wire ⟨58, text⟩) (Encode.wire ⟨58, text⟩).length := by
    rw [flushPendingWrites, active, if_pos busy]
  have waits : bufferHighWaterMark <
      (writer.stored (Encode.wire ⟨58, text⟩)
        (Encode.wire ⟨58, text⟩).length).pending.offset := by
    rw [pending_stored, empty, Nat.zero_add]
    exact high
  unfold write
  rw [if_neg room, empty, Nat.sub_zero, encode_textMessage fits]
  simp only [if_neg positive, flushed, active, List.take_length]
  rw [if_pos ⟨waits, busy⟩]

theorem none_waiting : ∀ call ∈ ([] : List Call), call.status ≠ .waiting :=
  fun _ member => by cases member

/-- The bytes of a call that was left by the exception of a handler are sent
with those of the calls that returned. -/
theorem interrupted_call_is_sent :
    ∃ system, Reachable system ∧
      (∀ call ∈ system.calls, call.status ≠ .waiting) ∧
      system.writer.transferred ++ system.writer.active.contents ++
          system.writer.pending.contents ≠
        ((system.calls.filter fun call => call.status = .returned).map
          Call.encoding).flatten := by
  obtain ⟨text, length⟩ : ∃ text : Bytes, text.length = 7600 :=
    ⟨List.replicate 7600 65, List.length_replicate⟩
  have size : (Encode.wire ⟨58, text⟩).length = 7604 := by
    have digits : (decimalInt (58 : Int32).toInt).length = 2 := by decide
    rw [Encode.wire_length, digits, length]
  have busy : 0 < afterShort.active.offset := by decide +kernel
  have outcome := write_waits text busy (by decide +kernel) (by decide +kernel)
    (by rw [size]; decide) (by rw [size]; decide)
  have waiting := reachable_short.tail (.waits outcome)
  have reachable := waiting.tail (.interrupted none_waiting)
  have bytes := (reachable_invariant reachable).bytes
  refine ⟨_, reachable, by simp, ?_⟩
  rw [bytes]
  intro same
  have lengths := congrArg List.length same
  simp [System.encodings, size] at lengths

end SocketWriter

end Crocofix

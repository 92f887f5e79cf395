/-
The pipeline of fixsed: two connections, and a script between them.

What is read from one peer is handed to the script message by message, and what
the script makes of it is written to the other peer.  Both directions run in one
thread.  A write that has to wait runs the handlers of the event loop, and these
may read from the other peer.

The sockets are taken to report no error, and the tracing probes around the script
to be switched off: both can throw as well.
-/

import Crocofix.PrettyPrint
import Crocofix.SocketReader.Index
import Crocofix.SocketWriter.Queued
import Crocofix.Library.Run

namespace Crocofix

open Numeral

namespace Pipeline

inductive Direction
  | initiatorRead
  | acceptorRead
deriving DecidableEq, Repr

/-- What a call of the script has come to: an exception, a result that is not
valid, or the message as the script leaves it. -/
inductive Scripted
  | threw
  | invalid
  | edited (message : Message)
deriving DecidableEq, Repr

/-- What the pipeline is given: the dictionary and its texts, whether messages
are logged in lines, and the functions of the script.  A function may keep state
between its calls, so that each call is one of a set of functions. -/
structure Options where
  dictionary : OrchestrationFieldCollection
  names : Names
  prettyPrint : Bool
  script : Direction → Set (Message → Scripted)

/-- A message that was read, and what the script has made of it; nothing where
its result was not valid. -/
structure Handled where
  message : Message
  edited : Option Message
deriving DecidableEq, Repr

/-- A reader and the writer that its messages go to, with the bytes received and
the messages handled so far. -/
structure Relay where
  reader : SocketReader
  writer : SocketWriter
  received : Bytes
  handled : List Handled

inductive Phase
  | decoding
  | waiting
deriving DecidableEq, Repr

end Pipeline

/-- Both directions, and the handlers that are running, the innermost first. -/
structure Pipeline where
  relay : Pipeline.Direction → Pipeline.Relay
  handlers : List (Pipeline.Direction × Pipeline.Phase)

namespace Pipeline

def Relay.initial : Relay := ⟨SocketReader.initial, SocketWriter.initial, [], []⟩

def initial : Pipeline := ⟨fun _ => Relay.initial, []⟩

/-! ### Processing a message -/

def logMessage (options : Options) (message : Message) : Except Exception Bytes :=
  if options.prettyPrint then message.prettyPrint options.names
  else .ok (message.fields.flatMap fun field =>
    decimalInt field.tag.toInt ++ ascii "=" ++ field.value ++ [1])

/-- What `process_message` has come to: an exception, a message that the script
has refused, or a message that was queued, after which `write` returns or
waits. -/
inductive Processed
  | threw
  | dropped
  | queued (edited after : Message) (phase : Phase) (writer : SocketWriter)

def processMessage (options : Options) (function : Message → Scripted)
    (destination : SocketWriter) (message : Message) : Processed :=
  match logMessage options message with
  | .error _ => .threw
  | .ok _ =>
      match function message with
      | .threw => .threw
      | .invalid => .dropped
      | .edited edited =>
          match logMessage options edited with
          | .error _ => .threw
          | .ok _ =>
              match destination.write edited .standard with
              | (.threw _, _, _) => .threw
              | (.returned _, after, writer) => .queued edited after .decoding writer
              | (.waits _, after, writer) => .queued edited after .waiting writer

/-- One pass of the loop of the handler: nothing where an exception leaves it, or
the phase in which the handler goes on, nothing where it returns. -/
def Relay.handle (options : Options) (function : Message → Scripted)
    (relay : Relay) : Option (Relay × Option Phase) :=
  match relay.reader.message.decode options.dictionary relay.reader.unread with
  | (.error _, _) => none
  | (.ok ⟨consumed, false⟩, message) =>
      some ({ relay with reader := relay.reader.advance consumed message }, none)
  | (.ok ⟨consumed, true⟩, message) =>
      match processMessage options function relay.writer message with
      | .threw => none
      | .dropped =>
          some ({ relay with
            reader := (relay.reader.advance consumed message).dispatch
            handled := relay.handled ++ [⟨message, none⟩] }, some .decoding)
      | .queued edited after phase writer =>
          let read := (relay.reader.advance consumed message).dispatch
          some ({ relay with
            -- The message is reset once `write` has returned.
            reader := if phase = .waiting then { read with message := after } else read
            writer
            handled := relay.handled ++ [⟨message, some edited⟩] }, some phase)

/-! ### The event loop -/

/-- The event loop runs a handler when none is running, and for the innermost one
while its write waits. -/
def Runs (pipeline : Pipeline) : Prop :=
  match pipeline.handlers with
  | [] => True
  | (direction, .waiting) :: _ => 0 < (pipeline.relay direction).writer.active.offset
  | (_, .decoding) :: _ => False

def change (pipeline : Pipeline) (direction : Direction) (relay : Relay) :
    Direction → Relay :=
  Function.update pipeline.relay direction relay

inductive Advance (options : Options) : Pipeline → Pipeline → Prop
  /-- An asynchronous write completes. -/
  | wrote {pipeline : Pipeline} (direction : Direction) {index : Nat}
      {writer : SocketWriter} (runs : pipeline.Runs)
      (completion : (pipeline.relay direction).writer.complete index = some writer) :
      Advance options pipeline
        { pipeline with
          relay := pipeline.change direction
            { pipeline.relay direction with writer } }
  /-- The wait of the innermost handler ends, and the message is reset. -/
  | resumed {pipeline : Pipeline} {direction : Direction}
      {outer : List (Direction × Phase)}
      (innermost : pipeline.handlers = (direction, .waiting) :: outer)
      (idle : (pipeline.relay direction).writer.active.offset = 0) :
      Advance options pipeline
        ⟨pipeline.change direction
          { pipeline.relay direction with
            reader := { (pipeline.relay direction).reader with message := .empty } },
          (direction, .decoding) :: outer⟩
  /-- The innermost handler decodes. -/
  | handled {pipeline : Pipeline} {direction : Direction}
      {outer : List (Direction × Phase)} {function : Message → Scripted}
      {relay : Relay} {phase : Option Phase}
      (innermost : pipeline.handlers = (direction, .decoding) :: outer)
      (scripted : function ∈ options.script direction)
      (handle : (pipeline.relay direction).handle options function =
        some (relay, phase)) :
      Advance options pipeline
        ⟨pipeline.change direction relay,
          (phase.map fun phase => (direction, phase)).toList ++ outer⟩

/-- What the pipeline does, and the reads that its peers complete.  A reader
whose handler is running has not asked for more. -/
inductive Step (options : Options) : Pipeline → Pipeline → Prop
  | advance {pipeline after : Pipeline} (advances : Advance options pipeline after) :
      Step options pipeline after
  | received {pipeline : Pipeline} (direction : Direction) {chunk : Bytes}
      (runs : pipeline.Runs)
      (asked : ∀ handler ∈ pipeline.handlers, handler.1 ≠ direction)
      (delivers : SocketReader.Delivers (pipeline.relay direction).reader chunk) :
      Step options pipeline
        ⟨pipeline.change direction
          { pipeline.relay direction with
            reader := (pipeline.relay direction).reader.makeRoom.transfer chunk
            received := (pipeline.relay direction).received ++ chunk },
          (direction, .decoding) :: pipeline.handlers⟩

def Reachable (options : Options) (pipeline : Pipeline) : Prop :=
  ∃ count, Run (Step options) count initial pipeline

end Pipeline

end Crocofix

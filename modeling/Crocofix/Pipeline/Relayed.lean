/-
What the pipeline relays.

In whatever order reads, writes and handlers come, and however deep handlers run
inside each other, the messages of one direction are handled in the order in which
they were received, each once, and what the script makes of them is sent in this
order.
-/

import Crocofix.Pipeline
import Crocofix.Fixsed

namespace Crocofix

open Numeral

namespace Pipeline

variable {options : Options} {direction : Direction} {relay : Relay}

def Handled.encoding (handled : Handled) : Bytes :=
  match handled.edited with
  | none => []
  | some edited => edited.encoding .standard

def Handled.scripted (handled : Handled) : Scripted :=
  match handled.edited with
  | none => .invalid
  | some edited => .edited edited

/-! ### One message -/

/-- A message that is queued is what the script has made of it, and the writer has
been called once. -/
theorem processMessage_queued {function : Message → Scripted}
    {destination writer : SocketWriter} {message edited after : Message} {phase : Phase}
    (processed : processMessage options function destination message =
      .queued edited after phase writer) :
    function message = .edited edited ∧
      ∃ encoding, (destination.write edited .standard).2 = (after, writer) ∧
        (phase = .decoding ∧
            (destination.write edited .standard).1 = .returned encoding ∨
          phase = .waiting ∧
            (destination.write edited .standard).1 = .waits encoding) := by
  unfold processMessage at processed
  split at processed
  · cases processed
  · split at processed
    · cases processed
    · cases processed
    · next made script =>
        split at processed
        · cases processed
        · split at processed
          · cases processed
          · next encoding left destination wrote =>
              cases processed
              exact ⟨script, encoding, by rw [wrote], .inl ⟨rfl, by rw [wrote]⟩⟩
          · next encoding left destination wrote =>
              cases processed
              exact ⟨script, encoding, by rw [wrote], .inr ⟨rfl, by rw [wrote]⟩⟩

theorem processMessage_dropped {function : Message → Scripted}
    {destination : SocketWriter} {message : Message}
    (processed : processMessage options function destination message = .dropped) :
    function message = .invalid := by
  unfold processMessage at processed
  split at processed
  · cases processed
  · split at processed
    · cases processed
    · next script => exact script
    · split at processed
      · cases processed
      · split at processed <;> cases processed

/-! ### One direction -/

/-- Where the decoder of a direction stands.  While a write waits, the message is
still to be reset. -/
def Relay.progress (relay : Relay) (phase : Option Phase) : Decode.Progress :=
  if phase = some .waiting then Message.empty.progress else relay.reader.message.progress

structure Relay.Sound (options : Options) (direction : Direction) (phase : Option Phase)
    (relay : Relay) : Prop where
  size : relay.reader.readBuffer.length = SocketReader.bufferSize
  ordered : relay.reader.readOffset ≤ relay.reader.writeOffset
  bounded : relay.reader.writeOffset ≤ SocketReader.bufferSize
  position : ∃ units,
    Decode.stream options.dictionary Message.empty.progress relay.received =
      (Decode.stream options.dictionary (relay.progress phase)
        relay.reader.unread).prepend units ∧
    units.map Decode.Progress.message = relay.handled.map Handled.message
  quiet : phase = none →
    Decode.stream options.dictionary relay.reader.message.progress relay.reader.unread =
      ⟨[], relay.reader.message.progress, relay.reader.unread, none⟩
  scripted : ∀ handled ∈ relay.handled,
    ∃ function ∈ options.script direction, function handled.message = handled.scripted
  written : SocketWriter.Invariant relay.writer (relay.handled.flatMap Handled.encoding)
  below : phase ≠ some .waiting →
    relay.writer.pending.offset ≤ SocketWriter.bufferHighWaterMark

theorem Relay.initial_sound : Relay.Sound options direction none Relay.initial := by
  have none := Decode.stream_nil options.dictionary Message.empty.progress
  exact
    { size := List.length_replicate
      ordered := Nat.le_refl _
      bounded := Nat.zero_le _
      position := ⟨[], rfl, rfl⟩
      quiet := fun _ => none
      scripted := fun _ member => by cases member
      written := SocketWriter.initial_invariant
      below := fun _ => Nat.zero_le _ }

theorem Relay.Sound.wrote {phase : Option Phase} {index : Nat} {writer : SocketWriter}
    (sound : Relay.Sound options direction phase relay)
    (completion : relay.writer.complete index = some writer) :
    Relay.Sound options direction phase { relay with writer } :=
  { sound with
    written := sound.written.completed completion
    below := fun busy => Nat.le_trans
      (SocketWriter.pending_complete_le sound.written.distinct completion)
      (sound.below busy) }

theorem Relay.Sound.resumed (sound : Relay.Sound options direction (some .waiting) relay)
    (idle : relay.writer.active.offset = 0) :
    Relay.Sound options direction (some .decoding)
      { relay with reader := { relay.reader with message := .empty } } :=
  { sound with
    quiet := fun impossible => by cases impossible
    below := fun _ => by
      -- Nothing is pending while nothing is active.
      have empty := sound.written.moving idle
      rw [empty]
      exact Nat.zero_le _ }

theorem makeRoom_offsets {phase : Option Phase}
    (sound : Relay.Sound options direction phase relay) :
    relay.reader.makeRoom.readBuffer.length = SocketReader.bufferSize ∧
      relay.reader.makeRoom.readOffset ≤ relay.reader.makeRoom.writeOffset ∧
      relay.reader.makeRoom.writeOffset ≤ SocketReader.bufferSize ∧
      relay.reader.makeRoom.message = relay.reader.message := by
  have size := sound.size
  have bounded := sound.bounded
  unfold SocketReader.makeRoom
  split
  · refine ⟨?_, Nat.zero_le _, by simp only; omega, rfl⟩
    simp only
    split
    · simp only [List.length_append, List.length_take, List.length_drop]
      omega
    · exact size
  · exact ⟨size, sound.ordered, bounded, rfl⟩

theorem Relay.Sound.received {chunk : Bytes}
    (sound : Relay.Sound options direction none relay)
    (delivers : SocketReader.Delivers relay.reader chunk) :
    Relay.Sound options direction (some .decoding)
      { relay with
        reader := relay.reader.makeRoom.transfer chunk
        received := relay.received ++ chunk } := by
  have decoded := sound.quiet rfl
  obtain ⟨units, position, messages⟩ := sound.position
  have unread := SocketReader.unread_makeRoom sound.size sound.ordered
  obtain ⟨size, ordered, bounded, message⟩ := makeRoom_offsets sound
  have fits := delivers.fits
  unfold SocketReader.offered at fits
  generalize relay.reader.makeRoom = ready at unread size ordered bounded message fits
  have room : ready.writeOffset + chunk.length ≤ SocketReader.bufferSize := by omega
  have here : (ready.transfer chunk).unread = relay.reader.unread ++ chunk := by
    rw [SocketReader.unread_transfer size ordered room, unread]
  change Decode.stream options.dictionary _ _ = Scan.Scanner.Drained.prepend units
    (Decode.stream options.dictionary relay.reader.message.progress _) at position
  rw [decoded] at position
  have appended := Decode.stream_append chunk (by rw [position]; rfl)
  rw [position] at appended
  exact
    { size := by
        simp only [SocketReader.transfer, List.length_append, List.length_take,
          List.length_drop]
        omega
      ordered := Nat.le_trans ordered (Nat.le_add_right _ _)
      bounded := room
      position := by
        refine ⟨units, ?_, messages⟩
        have state : (ready.transfer chunk).message = relay.reader.message := message
        rw [appended, here]
        simp [Relay.progress, state, Scan.Scanner.Drained.prepend]
      quiet := fun impossible => by cases impossible
      scripted := sound.scripted
      written := sound.written
      below := fun _ => sound.below (by decide) }

theorem stream_again {dictionary : OrchestrationFieldCollection}
    {before after : Decode.Progress} {input rest : Bytes}
    (waits : Decode.stream dictionary before input = ⟨[], after, rest, none⟩) :
    Decode.stream dictionary after rest = ⟨[], after, rest, none⟩ := by
  have again := (Decode.scanner dictionary).drain_append Message.empty.progress before
    input [] (congrArg Scan.Scanner.Drained.fault waits)
  change Decode.stream dictionary before (input ++ []) =
    (Decode.stream dictionary (Decode.stream dictionary before input).state
      ((Decode.stream dictionary before input).rest ++ [])).prepend
        (Decode.stream dictionary before input).units at again
  rw [List.append_nil, List.append_nil, waits] at again
  exact again.symm

/-- A message that has been decoded takes the direction on, once its writer has
taken what is sent for it. -/
theorem Relay.Sound.next {unit : Decode.Progress} {consumed : Nat}
    (sound : Relay.Sound options direction (some .decoding) relay)
    (within : consumed ≤ relay.reader.unread.length)
    (decoded : Decode.stream options.dictionary relay.reader.message.progress
      relay.reader.unread =
        (Decode.stream options.dictionary Message.empty.progress
          (relay.reader.unread.drop consumed)).prepend [unit])
    {phase : Phase} {handled : Handled} {reader : SocketReader} {writer : SocketWriter}
    (message : handled.message = unit.message)
    (reads : ∃ left, reader =
      { (relay.reader.advance consumed unit.message).dispatch with message := left } ∧
        (phase = .decoding → left = .empty))
    (scripted : ∃ function ∈ options.script direction,
      function handled.message = handled.scripted)
    (written : SocketWriter.Invariant writer
      (relay.handled.flatMap Handled.encoding ++ handled.encoding))
    (below : phase = .decoding →
      writer.pending.offset ≤ SocketWriter.bufferHighWaterMark) :
    Relay.Sound options direction (some phase)
      { relay with reader, writer, handled := relay.handled ++ [handled] } := by
  obtain ⟨left, rfl, reset⟩ := reads
  obtain ⟨units, position, messages⟩ := sound.position
  have length := SocketReader.unread_length sound.size sound.bounded
  have ordered := sound.ordered
  have unread : SocketReader.unread
      { (relay.reader.advance consumed unit.message).dispatch with message := left } =
        relay.reader.unread.drop consumed :=
    SocketReader.unread_advance relay.reader consumed unit.message
  exact
    { size := sound.size
      ordered := by
        change relay.reader.readOffset + consumed ≤ relay.reader.writeOffset
        omega
      bounded := sound.bounded
      position := by
        refine ⟨units ++ [unit], ?_, by simp [messages, message]⟩
        have fresh : (if some phase = some Phase.waiting then Message.empty.progress
            else left.progress) = Message.empty.progress := by
          cases phase with
          | waiting => rfl
          | decoding => rw [reset rfl, if_neg (by decide)]
        change Decode.stream options.dictionary _ relay.received = _ at position
        change Decode.stream options.dictionary _ relay.received =
          (Decode.stream options.dictionary (if some phase = some Phase.waiting then
            Message.empty.progress else left.progress) _).prepend _
        rw [fresh, unread, position]
        change (Decode.stream options.dictionary relay.reader.message.progress _).prepend
          units = _
        rw [decoded]
        simp [Scan.Scanner.Drained.prepend]
      quiet := fun impossible => by cases impossible
      scripted := by
        intro one member
        rcases List.mem_append.mp member with earlier | last
        · exact sound.scripted one earlier
        · rw [List.mem_singleton.mp last]
          exact scripted
      written := by simpa using written
      below := by
        intro busy
        cases phase with
        | waiting => exact absurd rfl busy
        | decoding => exact below rfl }

theorem Relay.Sound.handled {function : Message → Scripted} {after : Relay}
    {phase : Option Phase} (sound : Relay.Sound options direction (some .decoding) relay)
    (scripted : function ∈ options.script direction)
    (handle : relay.handle options function = some (after, phase)) :
    Relay.Sound options direction phase after := by
  unfold Relay.handle at handle
  rcases Decode.decode_stream options.dictionary relay.reader.message
      relay.reader.unread with
    ⟨consumed, left, called, within, same⟩ |
    ⟨consumed, unit, called, positive, within, same⟩ |
    ⟨⟨fault, left, called⟩, fails⟩
  · simp only [called] at handle
    injection handle with both
    injection both with afterEq phaseEq
    subst afterEq phaseEq
    have length := SocketReader.unread_length sound.size sound.bounded
    have ordered := sound.ordered
    have unread := SocketReader.unread_advance relay.reader consumed left
    have again := stream_again same
    rw [← unread] at again
    obtain ⟨units, position, messages⟩ := sound.position
    exact
      { sound with
        ordered := by
          change relay.reader.readOffset + consumed ≤ relay.reader.writeOffset
          omega
        position := by
          refine ⟨units, ?_, messages⟩
          change _ = (Decode.stream options.dictionary left.progress
            (relay.reader.advance consumed left).unread).prepend units
          rw [again, unread, position]
          exact congrArg (Scan.Scanner.Drained.prepend units) same
        quiet := fun _ => again
        below := fun _ => sound.below (by decide) }
  · simp only [called] at handle
    cases processed : processMessage options function relay.writer unit.message with
    | threw => simp [processed] at handle
    | dropped =>
        simp only [processed] at handle
        injection handle with both
        injection both with afterEq phaseEq
        subst afterEq phaseEq
        refine sound.next within same rfl ⟨.empty, rfl, fun _ => rfl⟩
          ⟨function, scripted, processMessage_dropped processed⟩ ?_
          fun _ => sound.below (by decide)
        rw [show Handled.encoding ⟨unit.message, none⟩ = [] from rfl, List.append_nil]
        exact sound.written
    | queued edited left phase writer =>
        simp only [processed] at handle
        injection handle with both
        injection both with afterEq phaseEq
        subst afterEq phaseEq
        obtain ⟨made, encoding, result, outcome⟩ := processMessage_queued processed
        have wrote : writer = (relay.writer.write edited .standard).2.2 := by
          rw [result]
        have stored : (relay.writer.write edited .standard).1 = .returned encoding ∨
            (relay.writer.write edited .standard).1 = .waits encoding :=
          outcome.imp And.right And.right
        subst wrote
        refine sound.next within same rfl ⟨if phase = .waiting then left else .empty,
          ?_, ?_⟩ ⟨function, scripted, made⟩ ?_ ?_
        · split <;> rfl
        · rintro rfl
          rfl
        · have queued := sound.written.queued stored
          rw [SocketWriter.encoding_of_write stored] at queued
          exact queued
        · rintro rfl
          obtain ⟨-, returned⟩ := outcome.resolve_right fun waits => by cases waits.1
          exact SocketWriter.below_of_returned sound.written returned
  · simp [called] at handle

/-! ### Every run -/

def phase (pipeline : Pipeline) (direction : Direction) : Option Phase :=
  pipeline.handlers.lookup direction

/-- The handlers of both directions, one inside the other: all but the innermost
wait. -/
structure Sound (options : Options) (pipeline : Pipeline) : Prop where
  once : (pipeline.handlers.map Prod.fst).Nodup
  outer : ∀ handler ∈ pipeline.handlers.tail, handler.2 = .waiting
  relays : ∀ direction,
    Relay.Sound options direction (pipeline.phase direction) (pipeline.relay direction)

theorem initial_sound : Sound options initial where
  once := List.nodup_nil
  outer := fun _ member => by cases member
  relays := fun _ => Relay.initial_sound

theorem Sound.change {pipeline after : Pipeline} {changed : Relay}
    (sound : Sound options pipeline)
    (relay : after.relay = pipeline.change direction changed)
    (others : ∀ other, other ≠ direction → after.phase other = pipeline.phase other)
    (changes : Relay.Sound options direction (after.phase direction) changed)
    (once : (after.handlers.map Prod.fst).Nodup)
    (outer : ∀ handler ∈ after.handlers.tail, handler.2 = .waiting) :
    Sound options after := by
  refine ⟨once, outer, ?_⟩
  intro other
  rw [relay]
  by_cases same : other = direction
  · subst same
    rw [Pipeline.change, Function.update_self]
    exact changes
  · rw [Pipeline.change, Function.update_of_ne same, others other same]
    exact sound.relays other

theorem lookup_other {other : Direction} (differs : other ≠ direction) (phase : Phase)
    (outer : List (Direction × Phase)) :
    ((direction, phase) :: outer).lookup other = outer.lookup other := by
  rw [List.lookup_cons, beq_false_of_ne differs]

theorem lookup_outer {phase : Phase} {outer : List (Direction × Phase)}
    (once : (((direction, phase) :: outer).map Prod.fst).Nodup) :
    outer.lookup direction = none := by
  rw [List.lookup_eq_none_iff]
  intro handler member
  have absent := (List.nodup_cons.mp once).1
  have differs : direction ≠ handler.1 := fun same =>
    absent (same ▸ List.mem_map.mpr ⟨handler, member, rfl⟩)
  exact bne_iff_ne.mpr differs

theorem Sound.innermost {pipeline : Pipeline} {phase : Phase}
    {outer : List (Direction × Phase)} (sound : Sound options pipeline)
    (innermost : pipeline.handlers = (direction, phase) :: outer) :
    (outer.map Prod.fst).Nodup ∧ direction ∉ outer.map Prod.fst ∧
      outer.lookup direction = none ∧ (∀ handler ∈ outer, handler.2 = .waiting) ∧
      Relay.Sound options direction (some phase) (pipeline.relay direction) := by
  have once := sound.once
  have waits := sound.outer
  have before := sound.relays direction
  unfold Pipeline.phase at before
  rw [innermost] at once waits before
  rw [List.lookup_cons_self] at before
  obtain ⟨absent, rest⟩ := List.nodup_cons.mp once
  exact ⟨rest, absent, lookup_outer once, waits, before⟩

theorem Sound.proceed {pipeline : Pipeline} {phase : Phase} {next : Option Phase}
    {outer : List (Direction × Phase)} {changed : Relay} (sound : Sound options pipeline)
    (innermost : pipeline.handlers = (direction, phase) :: outer)
    (changes : Relay.Sound options direction next changed) :
    Sound options ⟨pipeline.change direction changed,
      (next.map fun phase => (direction, phase)).toList ++ outer⟩ := by
  obtain ⟨rest, absent, none, waits, -⟩ := sound.innermost innermost
  refine sound.change rfl ?_ ?_ ?_ ?_
  · intro other differs
    unfold Pipeline.phase
    rw [innermost, lookup_other differs]
    cases next with
    | none => rfl
    | some next => exact lookup_other differs next outer
  · unfold Pipeline.phase
    cases next with
    | none =>
        change Relay.Sound options direction (outer.lookup direction) changed
        rw [none]
        exact changes
    | some next =>
        change Relay.Sound options direction
          (((direction, next) :: outer).lookup direction) changed
        rw [List.lookup_cons_self]
        exact changes
  · cases next with
    | none => exact rest
    | some next => exact List.nodup_cons.mpr ⟨absent, rest⟩
  · intro handler member
    cases next with
    | none => exact waits handler (List.mem_of_mem_tail member)
    | some next => exact waits handler member

theorem Sound.advance {pipeline after : Pipeline} (sound : Sound options pipeline)
    (advances : Advance options pipeline after) : Sound options after := by
  cases advances with
  | wrote direction runs completion =>
      exact sound.change rfl (fun _ _ => rfl) ((sound.relays direction).wrote completion)
        sound.once sound.outer
  | resumed innermost idle =>
      obtain ⟨-, -, -, -, before⟩ := sound.innermost innermost
      exact sound.proceed innermost (before.resumed idle)
  | handled innermost scripted handle =>
      obtain ⟨-, -, -, -, before⟩ := sound.innermost innermost
      exact sound.proceed innermost (before.handled scripted handle)

theorem phase_of_asked {pipeline : Pipeline}
    (asked : ∀ handler ∈ pipeline.handlers, handler.1 ≠ direction) :
    pipeline.phase direction = none := by
  unfold Pipeline.phase
  rw [List.lookup_eq_none_iff]
  intro handler member
  exact bne_iff_ne.mpr fun same => asked handler member same.symm

theorem Sound.step {pipeline after : Pipeline} (sound : Sound options pipeline)
    (step : Step options pipeline after) : Sound options after := by
  cases step with
  | advance advances => exact sound.advance advances
  | @received direction chunk runs asked delivers =>
      have idle := phase_of_asked asked
      have before := sound.relays direction
      rw [idle] at before
      refine sound.change rfl (fun other differs => lookup_other differs _ _) ?_ ?_ ?_
      · unfold Pipeline.phase
        rw [List.lookup_cons_self]
        exact before.received delivers
      · refine List.nodup_cons.mpr ⟨?_, sound.once⟩
        intro member
        obtain ⟨handler, inside, same⟩ := List.mem_map.mp member
        exact asked handler inside same
      · -- The event loop runs the handler, so that the others wait.
        intro handler member
        change handler ∈ pipeline.handlers at member
        unfold Runs at runs
        have outer := sound.outer
        split at runs
        · next none =>
            rw [none] at member
            cases member
        · next waits =>
            rw [waits] at member outer
            rcases List.mem_cons.mp member with rfl | later
            · rfl
            · exact outer handler later
        · exact runs.elim

theorem Reachable.sound {pipeline : Pipeline} (reachable : Reachable options pipeline) :
    Sound options pipeline := by
  obtain ⟨count, run⟩ := reachable
  exact run.keeps (fun _ _ sound step => sound.step step) initial_sound

/-- In whatever order reads, completions and handlers come, the messages of a
direction that have been handled are the first ones of what was received, in their
order, and all of them unless a handler of the direction is running.  Each was
handed to the script once, and what the script has made of them is transferred,
active or pending in the same order. -/
theorem relayed {pipeline : Pipeline} (reachable : Reachable options pipeline)
    (direction : Direction) :
    ((pipeline.relay direction).handled.map Handled.message <+:
      (Decode.stream options.dictionary Message.empty.progress
        (pipeline.relay direction).received).units.map Decode.Progress.message) ∧
    ((∀ handler ∈ pipeline.handlers, handler.1 ≠ direction) →
      ∃ rest, Message.decodeAll options.dictionary (pipeline.relay direction).received =
        .ok ((pipeline.relay direction).handled.map Handled.message, rest)) ∧
    (∀ handled ∈ (pipeline.relay direction).handled,
      ∃ function ∈ options.script direction,
        function handled.message = handled.scripted) ∧
    (pipeline.relay direction).writer.transferred ++
        (pipeline.relay direction).writer.active.contents ++
        (pipeline.relay direction).writer.pending.contents =
      (pipeline.relay direction).handled.flatMap Handled.encoding := by
  have sound := reachable.sound.relays direction
  obtain ⟨units, position, messages⟩ := sound.position
  refine ⟨?_, ?_, sound.scripted, sound.written.bytes⟩
  · rw [position, ← messages, Scan.Scanner.Drained.prepend, List.map_append]
    exact List.prefix_append _ _
  · intro asked
    have idle := phase_of_asked asked
    rw [idle] at position sound
    change _ = (Decode.stream options.dictionary
      (pipeline.relay direction).reader.message.progress _).prepend units at position
    rw [sound.quiet rfl] at position
    have whole : (Decode.stream options.dictionary Message.empty.progress
        (pipeline.relay direction).received).fault = none := by
      rw [position]
      rfl
    obtain ⟨found, decoded⟩ := SocketReader.sound_iff_decodeAll.mp whole
    obtain ⟨-, same, -⟩ := Decode.stream_of_decodeStream (Nat.lt_succ_self _) decoded
    refine ⟨(Decode.stream options.dictionary Message.empty.progress
      (pipeline.relay direction).received).rest, ?_⟩
    rw [decoded, ← same, ← messages, position]
    simp [Scan.Scanner.Drained.prepend]

def passing : Options where
  dictionary := .excerpt
  names := .unnamed
  prettyPrint := false
  script := fun _ => {fun message => .edited message}

def firstRead (chunk : Bytes) : Pipeline where
  relay := initial.change .initiatorRead
    { Relay.initial with
      reader := SocketReader.initial.makeRoom.transfer chunk
      received := [] ++ chunk }
  handlers := [(.initiatorRead, .decoding)]

theorem reachable_firstRead {chunk : Bytes} (options : Options)
    (delivers : SocketReader.Delivers SocketReader.initial chunk) :
    Reachable options (firstRead chunk) :=
  ⟨1, .single (.received .initiatorRead trivial (fun _ member => by cases member) delivers)⟩

theorem relayed_heartbeat :
    ∃ pipeline, Reachable passing pipeline ∧
      (pipeline.relay .initiatorRead).handled.map Handled.message =
        [Encode.decodedHeartbeat] ∧
      (pipeline.relay .initiatorRead).writer.active.contents =
        Encode.heartbeatBytes := by
  obtain ⟨count, first⟩ := @reachable_firstRead Encode.heartbeatBytes passing
    ⟨by decide +kernel, .inl (by decide)⟩
  obtain ⟨⟨relay, phase⟩, handle, result⟩ := Option.map_eq_some_iff.mp
    (show (((firstRead Encode.heartbeatBytes).relay .initiatorRead).handle passing
        .edited).map (fun result => (result.1.handled, result.1.writer.transferred,
          result.1.writer.pending.contents)) =
        some ([⟨Encode.decodedHeartbeat, some Encode.decodedHeartbeat⟩], [], []) by
      decide +kernel)
  have handled : relay.handled =
      [⟨Encode.decodedHeartbeat, some Encode.decodedHeartbeat⟩] := congrArg Prod.fst result
  have transferred : relay.writer.transferred = [] :=
    congrArg (fun result => result.2.1) result
  have pending : relay.writer.pending.contents = [] :=
    congrArg (fun result => result.2.2) result
  have second := first.append (.single (.advance (.handled rfl (Set.mem_singleton _)
    handle)))
  have bytes := (relayed ⟨_, second⟩ .initiatorRead).2.2.2
  have same : Pipeline.change (firstRead Encode.heartbeatBytes) .initiatorRead relay
      .initiatorRead = relay := Function.update_self _ _ _
  simp only [same] at bytes
  refine ⟨_, ⟨_, second⟩, ?_, ?_⟩
  · simp only [same, handled]
    rfl
  · simp only [same]
    have sent : [Handled.mk Encode.decodedHeartbeat (some Encode.decodedHeartbeat)].flatMap
        Handled.encoding = Encode.heartbeatBytes := by decide +kernel
    rw [handled, transferred, pending, sent] at bytes
    simpa using bytes

end Pipeline

end Crocofix

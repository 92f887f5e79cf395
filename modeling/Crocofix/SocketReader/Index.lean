/-
The index that the read handler evaluates before each call of `decode`.

The handler decodes again after every complete message, whether or not bytes
are left.  When the last message ends with the last byte of the buffer, the
index is the size of the buffer.
-/

import Crocofix.SocketReader.Room

namespace Crocofix

open Numeral

namespace SocketReader

/-- The offsets at which `m_read_buffer` is indexed, one for each iteration of
`decodeLoop`. -/
def indices (dictionary : OrchestrationFieldCollection) :
    Nat → SocketReader → List Nat
  | 0, _ => []
  | fuel + 1, reader =>
      reader.readOffset ::
        match reader.message.decode dictionary reader.unread with
        | (.error _, _) => []
        | (.ok ⟨consumed, complete⟩, message) =>
            if !complete then []
            else indices dictionary fuel (reader.advance consumed message).dispatch

/-- The indices of the handler that a read completes with the given bytes. -/
def readIndices (dictionary : OrchestrationFieldCollection)
    (reader : SocketReader) (bytes : Bytes) : List Nat :=
  indices dictionary ((reader.makeRoom.transfer bytes).unread.length + 1)
    (reader.makeRoom.transfer bytes)

inductive WholeMessages (dictionary : OrchestrationFieldCollection) : Bytes → Prop
  | nil : WholeMessages dictionary []
  | cons {stream : Bytes} {consumed : Nat} {message : Message}
      (decoded : Message.empty.decode dictionary stream =
        (.ok ⟨consumed, true⟩, message))
      (rest : WholeMessages dictionary (stream.drop consumed)) :
      WholeMessages dictionary stream

/-- What the socket can put into the buffer that it is given: some bytes, or
nothing where nothing is asked for. -/
structure Delivers (reader : SocketReader) (chunk : Bytes) : Prop where
  fits : chunk.length ≤ reader.offered
  some : chunk ≠ [] ∨ reader.offered = 0

/-! ### Streams of whole messages -/

variable {dictionary : OrchestrationFieldCollection}

theorem scanner_leaves (dictionary : OrchestrationFieldCollection) :
    (Decode.scanner dictionary).Leaves Message.empty.progress := by
  intro progress input next size last taken same
  obtain ⟨-, field, -, stored, -⟩ := Decode.scanField_take taken
  rw [stored] at same
  have fields : progress.fields ++ [field] = [] :=
    congrArg Decode.Progress.fields same
  simp at fields

/-- Decoding the bytes from the given state ends between two messages. -/
def Settles (dictionary : OrchestrationFieldCollection)
    (progress : Decode.Progress) (input : Bytes) : Prop :=
  (Decode.stream dictionary progress input).Settled Message.empty.progress

theorem settles_nil (dictionary : OrchestrationFieldCollection) :
    Settles dictionary Message.empty.progress [] := by
  unfold Settles
  rw [Decode.stream_nil]
  exact ⟨rfl, rfl, rfl⟩

theorem decode_settles (dictionary : OrchestrationFieldCollection)
    (message : Message) (input : Bytes) :
    (∃ consumed after,
        message.decode dictionary input = (.ok ⟨consumed, false⟩, after) ∧
        (Settles dictionary message.progress input → input = [])) ∨
      (∃ consumed after,
        message.decode dictionary input = (.ok ⟨consumed, true⟩, after) ∧
        0 < consumed ∧ consumed ≤ input.length ∧
        (Settles dictionary message.progress input ↔
          Settles dictionary Message.empty.progress (input.drop consumed))) ∨
      (∃ fault after, message.decode dictionary input = (.error fault, after) ∧
        input ≠ [] ∧ ¬ Settles dictionary message.progress input) := by
  unfold Settles
  rcases Decode.decode_stream dictionary message input with
    ⟨consumed, after, called, within, same⟩ |
    ⟨consumed, unit, called, positive, within, same⟩ |
    ⟨⟨fault, after, called⟩, fails⟩
  · refine .inl ⟨consumed, after, called, ?_⟩
    have waits := Decode.decode_agrees dictionary message input
    cases ending : ((Decode.scanner dictionary).run message.progress input).ending with
    | waiting =>
        exact (Decode.scanner dictionary).nil_of_settled (scanner_leaves dictionary)
          ending
    | finished =>
        obtain ⟨result, -⟩ := waits.finished ending
        rw [called] at result
        injection result with impossible
        injection impossible with _ impossible
        cases impossible
    | failed stop =>
        obtain ⟨fault, result, -⟩ := waits.failed stop ending
        rw [called] at result
        cases result
  · refine .inr (.inl ⟨consumed, unit.message, called, positive, within, ?_⟩)
    rw [same]
    exact Scan.Scanner.Drained.settled_prepend_iff _ _ _
  · refine .inr (.inr ⟨fault, after, called, ?_, fun settled => fails settled.sound⟩)
    rintro rfl
    rw [Decode.stream_nil] at fails
    exact fails rfl

theorem WholeMessages.settles {input : Bytes}
    (whole : WholeMessages dictionary input) :
    Settles dictionary Message.empty.progress input := by
  induction whole with
  | nil => exact settles_nil dictionary
  | @cons stream consumed message decoded rest ih =>
      rcases decode_settles dictionary Message.empty stream with
        ⟨other, after, called, -⟩ | ⟨other, after, called, -, -, same⟩ |
        ⟨fault, after, called, -⟩
      · rw [decoded] at called
        cases called
      · rw [decoded] at called
        cases called
        exact same.mpr ih
      · rw [decoded] at called
        cases called

theorem wholeMessages_of_settles {input : Bytes}
    (settles : Settles dictionary Message.empty.progress input) :
    WholeMessages dictionary input := by
  induction bound : input.length using Nat.strongRecOn generalizing input with
  | ind length ih =>
      rcases decode_settles dictionary Message.empty input with
        ⟨consumed, after, -, nothing⟩ |
        ⟨consumed, after, called, positive, within, same⟩ | ⟨-, -, -, -, fails⟩
      · rw [nothing settles]
        exact .nil
      · refine .cons called (ih _ ?_ (same.mp settles) rfl)
        rw [List.length_drop]
        omega
      · exact absurd settles fails

theorem wholeMessages_iff (dictionary : OrchestrationFieldCollection)
    (input : Bytes) :
    WholeMessages dictionary input ↔
      Settles dictionary Message.empty.progress input :=
  ⟨WholeMessages.settles, wholeMessages_of_settles⟩

theorem WholeMessages.append {front more : Bytes}
    (first : WholeMessages dictionary front)
    (second : WholeMessages dictionary more) :
    WholeMessages dictionary (front ++ more) := by
  rw [wholeMessages_iff] at first second ⊢
  unfold Settles at first second ⊢
  rw [Decode.stream_append more first.sound, first.state, first.rest,
    List.nil_append, Scan.Scanner.Drained.settled_prepend_iff]
  exact second

/-! ### The indices of one handler -/

/-- The next index is outside only where a full buffer has nothing unread. -/
theorem readOffset_outside_iff {reader : SocketReader}
    (size : reader.readBuffer.length = bufferSize)
    (ordered : reader.readOffset ≤ reader.writeOffset)
    (bounded : reader.writeOffset ≤ bufferSize) :
    bufferSize ≤ reader.readOffset ↔
      reader.writeOffset = bufferSize ∧ reader.unread = [] := by
  rw [← List.length_eq_zero_iff, unread_length size bounded]
  omega

/-- An index is outside exactly if the buffer is full and decoding its unread
bytes ends between two messages. -/
theorem indices_outside_iff {fuel : Nat} (reader : SocketReader)
    (size : reader.readBuffer.length = bufferSize)
    (ordered : reader.readOffset ≤ reader.writeOffset)
    (bounded : reader.writeOffset ≤ bufferSize)
    (enough : reader.unread.length < fuel)
    (start : reader.message.progress = Message.empty.progress ∨
      reader.unread ≠ []) :
    (∃ index ∈ reader.indices dictionary fuel, bufferSize ≤ index) ↔
      reader.writeOffset = bufferSize ∧
        Settles dictionary reader.message.progress reader.unread := by
  induction fuel generalizing reader with
  | zero => omega
  | succ fuel ih =>
      have available := unread_length size bounded
      have first := readOffset_outside_iff size ordered bounded
      unfold indices
      rcases decode_settles dictionary reader.message reader.unread with
        ⟨consumed, after, called, nothing⟩ |
        ⟨consumed, after, called, positive, within, same⟩ |
        ⟨fault, after, called, nonempty, fails⟩
      · simp only [called, Bool.not_false, if_true, List.mem_singleton,
          exists_eq_left]
        rw [first]
        constructor
        · rintro ⟨full, empty⟩
          refine ⟨full, ?_⟩
          rcases start with fresh | some
          · rw [empty, fresh]
            exact settles_nil dictionary
          · exact absurd empty some
        · rintro ⟨full, settles⟩
          exact ⟨full, nothing settles⟩
      · have inside : ¬ bufferSize ≤ reader.readOffset := by omega
        have left : (reader.advance consumed after).dispatch.unread =
            reader.unread.drop consumed := unread_advance reader consumed after
        have later := ih (reader.advance consumed after).dispatch size
          (show reader.readOffset + consumed ≤ reader.writeOffset by omega) bounded
          (by rw [left, List.length_drop]; omega) (.inl rfl)
        rw [left] at later
        simp only [called, Bool.not_true, Bool.false_eq_true, if_false,
          List.exists_mem_cons_iff, inside, false_or]
        rw [same]
        exact later
      · simp only [called, List.mem_singleton, exists_eq_left]
        rw [first]
        constructor
        · rintro ⟨-, empty⟩
          exact absurd empty nonempty
        · rintro ⟨-, settles⟩
          exact absurd settles fails

theorem Reading.readIndices_outside_iff {received chunk : Bytes}
    {reader : SocketReader} (reading : Reading dictionary received reader)
    (sound : (Decode.stream dictionary Message.empty.progress received).fault = none)
    (delivers : Delivers reader chunk) :
    (∃ index ∈ reader.readIndices dictionary chunk, bufferSize ≤ index) ↔
      chunk.length = reader.offered ∧
        WholeMessages dictionary (received ++ chunk) := by
  have roomy := reading.makeRoom
  have bounded := roomy.bounded
  have offers : bufferSize = reader.makeRoom.writeOffset + reader.offered := by
    unfold offered
    omega
  have room : reader.makeRoom.writeOffset + chunk.length ≤ bufferSize := by
    have fits := delivers.fits
    omega
  have unread := unread_transfer roomy.size roomy.ordered room
  have nonempty : (reader.makeRoom.transfer chunk).unread ≠ [] := by
    rw [unread]
    rcases delivers.some with some | full
    · intro empty
      exact some (List.append_eq_nil_iff.mp empty).2
    · have waiting := reading.unread_of_full full
      rw [← roomy.unread] at waiting
      intro empty
      rw [(List.append_eq_nil_iff.mp empty).1] at waiting
      exact absurd waiting (by decide)
  have size : (reader.makeRoom.transfer chunk).readBuffer.length = bufferSize := by
    have length := roomy.size
    simp only [transfer, List.length_append, List.length_take, List.length_drop]
    omega
  have ordered : (reader.makeRoom.transfer chunk).readOffset ≤
      (reader.makeRoom.transfer chunk).writeOffset :=
    Nat.le_trans roomy.ordered (Nat.le_add_right _ _)
  have resumed : Settles dictionary (reader.makeRoom.transfer chunk).message.progress
      (reader.makeRoom.transfer chunk).unread ↔
        WholeMessages dictionary (received ++ chunk) := by
    rw [wholeMessages_iff]
    unfold Settles
    rw [Decode.stream_append chunk sound,
      Scan.Scanner.Drained.settled_prepend_iff, unread, roomy.unread,
      ← roomy.progress]
    rfl
  unfold readIndices
  rw [indices_outside_iff _ size ordered room (Nat.lt_succ_self _) (.inr nonempty),
    resumed]
  have filled : (reader.makeRoom.transfer chunk).writeOffset = bufferSize ↔
      chunk.length = reader.offered := by
    change reader.makeRoom.writeOffset + chunk.length = bufferSize ↔ _
    omega
  rw [filled]

/-! ### Every run -/

/-- The moments of a run at which a handler is called: the chunks before, the
reader that they lead to and the chunk that is delivered next. -/
structure Handles (dictionary : OrchestrationFieldCollection)
    (chunks earlier : List Bytes) (reader : SocketReader) (chunk : Bytes) :
    Prop where
  part : earlier ++ [chunk] <+: chunks
  reads : Reads dictionary initial earlier reader
  delivers : Delivers reader chunk

/-- In every run, all indices are inside the buffer exactly if no read fills the
buffer up to the end of a stream of whole messages. -/
theorem run_indices_inside_iff (dictionary : OrchestrationFieldCollection)
    (chunks : List Bytes) :
    (∀ earlier reader chunk, Handles dictionary chunks earlier reader chunk →
        ∀ index ∈ reader.readIndices dictionary chunk, index < bufferSize) ↔
      ∀ earlier reader chunk, Handles dictionary chunks earlier reader chunk →
        ¬ (chunk.length = reader.offered ∧
          WholeMessages dictionary (earlier.flatten ++ chunk)) := by
  have handler {earlier : List Bytes} {reader : SocketReader} {chunk : Bytes}
      (handles : Handles dictionary chunks earlier reader chunk) :=
    (initial_of_reads handles.reads).1.readIndices_outside_iff
      (initial_of_reads handles.reads).2 handles.delivers
  constructor
  · intro inside earlier reader chunk handles fills
    obtain ⟨index, member, outside⟩ := (handler handles).mpr fills
    exact absurd (inside earlier reader chunk handles index member)
      (Nat.not_lt.mpr outside)
  · intro unfilled earlier reader chunk handles index member
    by_contra outside
    exact unfilled earlier reader chunk handles
      ((handler handles).mp ⟨index, member, Nat.not_lt.mp outside⟩)

def shortHeartbeat : Bytes :=
  ascii "8=FIX.4.4" ++ [1] ++ ascii "9=10" ++ [1] ++ ascii "35=0" ++ [1] ++
    ascii "34=1" ++ [1] ++ ascii "10=165" ++ [1]

theorem shortHeartbeats_whole (count : Nat) :
    WholeMessages .excerpt (List.replicate count shortHeartbeat).flatten := by
  have one : WholeMessages .excerpt shortHeartbeat := by
    have decoded : (Message.empty.decode .excerpt shortHeartbeat).1 =
        .ok ⟨32, true⟩ := by decide +kernel
    have rest : shortHeartbeat.drop 32 = [] := by decide
    refine .cons (Prod.ext decoded rfl) ?_
    rw [rest]
    exact .nil
  induction count with
  | zero => exact .nil
  | succ count ih =>
      rw [List.replicate_succ, List.flatten_cons]
      exact one.append ih

def heartbeats : Bytes := (List.replicate 256 shortHeartbeat).flatten

/-- Heartbeats fill the buffer in one read, and the last index is outside of it. -/
theorem heartbeats_index_outside :
    Handles .excerpt [heartbeats] [] initial heartbeats ∧
      ∃ index ∈ initial.readIndices .excerpt heartbeats, bufferSize ≤ index := by
  have length : heartbeats.length = initial.offered := by
    unfold heartbeats
    rw [List.length_flatten, List.map_replicate, List.sum_replicate]
    decide
  have delivers : Delivers initial heartbeats := by
    refine ⟨Nat.le_of_eq length, .inl ?_⟩
    intro empty
    rw [empty] at length
    exact absurd length (by decide)
  have sound : (Decode.stream .excerpt Message.empty.progress []).fault = none := by
    rw [Decode.stream_nil]
  have whole : WholeMessages .excerpt ([] ++ heartbeats) := by
    rw [List.nil_append]
    exact shortHeartbeats_whole 256
  refine ⟨⟨List.prefix_refl _, .done initial, delivers⟩, ?_⟩
  exact (initial_reading.readIndices_outside_iff sound delivers).mpr ⟨length, whole⟩

end SocketReader

end Crocofix

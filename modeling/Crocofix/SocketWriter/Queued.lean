/-
What a writer has queued, and what it still has to hand over.
-/

import Crocofix.Encoding
import Crocofix.SocketWriter.Headroom

namespace Crocofix

open Numeral

namespace SocketWriter

section queued

variable {writer : SocketWriter} {message : Message} {options : EncodeOptions}
  {encoding : Bytes}

theorem encoded_of_write
    (outcome : (writer.write message options).1 = .returned encoding ∨
      (writer.write message options).1 = .waits encoding) :
    ∃ size, (message.encode (bufferSize - writer.pending.offset) options).1 = .ok size ∧
      0 < size ∧
      encoding =
        (message.encode (bufferSize - writer.pending.offset) options).2.2.take size := by
  unfold write at outcome
  split at outcome
  · rcases outcome with impossible | impossible <;> cases impossible
  · generalize message.encode (bufferSize - writer.pending.offset) options = encoded
      at outcome ⊢
    rcases encoded with ⟨result, after, written⟩
    cases result with
    | error exception => rcases outcome with impossible | impossible <;> cases impossible
    | ok size =>
        by_cases zero : size = 0
        · simp only [if_pos zero] at outcome
          rcases outcome with impossible | impossible <;> cases impossible
        · refine ⟨size, rfl, Nat.pos_of_ne_zero zero, ?_⟩
          simp only [if_neg zero] at outcome
          split at outcome
          · rcases outcome with impossible | same
            · cases impossible
            · injection same with same
              exact same.symm
          · rcases outcome with same | impossible
            · injection same with same
              exact same.symm
            · cases impossible

theorem encoding_of_write
    (outcome : (writer.write message options).1 = .returned encoding ∨
      (writer.write message options).1 = .waits encoding) :
    encoding = message.encoding options := by
  obtain ⟨size, returned, positive, same⟩ := encoded_of_write outcome
  obtain ⟨stored, length⟩ := Encode.encode_of_stored returned positive
  rw [same, stored, ← length, List.take_length]

end queued

/-! ### What is left to hand over -/

/-- What a writer still has to do: the buffers that it has to hand over. -/
def work (writer : SocketWriter) : Nat :=
  (if writer.active.offset = 0 then 0 else 1) +
    if writer.pending.offset = 0 then 0 else 1

theorem Invariant.exists_complete {writer : SocketWriter} {encodings : Bytes}
    (invariant : Invariant writer encodings) (busy : 0 < writer.active.offset) :
    ∃ index after, writer.complete index = some after := by
  have outstanding := invariant.outstanding
  rw [if_neg (Nat.ne_of_gt busy)] at outstanding
  refine ⟨0, ?_⟩
  unfold complete
  rw [outstanding]
  exact ⟨_, rfl⟩

end SocketWriter

end Crocofix

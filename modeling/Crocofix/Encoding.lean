/-
The bytes of a message.

The encoder is given what is left of a buffer.  Where it stores the message at
all, it stores the same bytes whatever the buffer holds.
-/

import Crocofix.EncodeSize

namespace Crocofix

open Numeral

namespace Encode

variable {setChecksum : Bool} {capacity size : Nat} {fields rest : FieldCollection}
  {written : Bytes}

theorem length_le_of_stored
    (returned : (loop setChecksum capacity fields rest written).result = .ok size)
    (positive : 0 < size) : written.length ≤ size := by
  induction rest generalizing written with
  | nil =>
      injection returned with same
      exact Nat.le_of_eq same
  | cons field rest ih =>
      unfold loop at returned
      simp only at returned
      split at returned
      · cases returned
      · next last updated _ =>
          cases stored : encodeField capacity written last with
          | error touched =>
              rw [stored] at returned
              injection returned with zero
              omega
          | ok encoded =>
              rw [stored] at returned
              injection returned with same
              obtain ⟨rfl, -⟩ := encodeField_ok stored
              rw [← same, List.length_append]
              exact Nat.le_add_right _ _
      · cases stored : encodeField capacity written field with
        | error touched =>
            rw [stored] at returned
            injection returned with zero
            omega
        | ok encoded =>
            rw [stored] at returned
            have later := ih returned
            obtain ⟨rfl, -⟩ := encodeField_ok stored
            rw [List.length_append] at later
            omega

/-- A field that is stored in one buffer is stored in another that has room for
it. -/
theorem encodeField_mono {other : Nat} {field : Field} {encoded : Bytes}
    (stored : encodeField capacity written field = .ok encoded)
    (fits : encoded.length ≤ other) :
    encodeField other written field = .ok encoded := by
  obtain ⟨rfl, -⟩ := encodeField_ok stored
  exact encodeField_of_le fits

/-- Fields that are stored in one buffer are stored in any other that has room
for them, and the message is left the same. -/
theorem loop_mono {other : Nat}
    (returned : (loop setChecksum capacity fields rest written).result = .ok size)
    (positive : 0 < size) (fits : size ≤ other) :
    loop setChecksum other fields rest written =
      loop setChecksum capacity fields rest written := by
  induction rest generalizing written with
  | nil => rfl
  | cons field rest ih =>
      unfold loop at returned ⊢
      simp only at returned ⊢
      split at returned
      · rfl
      · next last updated _ =>
          cases stored : encodeField capacity written last with
          | error touched =>
              rw [stored] at returned
              injection returned with zero
              omega
          | ok encoded =>
              rw [stored] at returned
              injection returned with same
              rw [encodeField_mono stored (Nat.le_trans (Nat.le_of_eq same) fits)]
      · cases stored : encodeField capacity written field with
          | error touched =>
              rw [stored] at returned
              injection returned with zero
              omega
          | ok encoded =>
              rw [stored] at returned
              have within := length_le_of_stored returned positive
              rw [encodeField_mono stored (Nat.le_trans within fits)]
              exact ih returned

end Encode

/-- The bytes that `message::encode` stores in a buffer of just their size. -/
def Message.encoding (message : Message) (options : EncodeOptions) : Bytes :=
  (message.encode (message.encodedLength options) options).2.2

namespace Encode

variable {message : Message} {options : EncodeOptions} {capacity size : Nat}

theorem size_of_stored (returned : (message.encode capacity options).1 = .ok size)
    (positive : 0 < size) :
    size = message.encodedLength options ∧ size ≤ capacity := by
  have accepts := not_refuses_of_ok returned positive
  have here : (message.encode capacity options).1 = _ := loop_returns accepts capacity
  rw [returned] at here
  injection here with here
  split at here
  · next fits => exact ⟨here, by rw [here]; exact fits⟩
  · omega

theorem encode_of_stored (returned : (message.encode capacity options).1 = .ok size)
    (positive : 0 < size) :
    message.encode capacity options =
      (.ok size, (message.encode capacity options).2.1, message.encoding options) ∧
    (message.encoding options).length = size := by
  obtain ⟨length, -⟩ := size_of_stored returned positive
  have same : loop options.setChecksum (message.encodedLength options)
      (message.withBodyLength options) (message.withBodyLength options) [] =
        loop options.setChecksum capacity (message.withBodyLength options)
          (message.withBodyLength options) [] :=
    loop_mono returned positive (Nat.le_of_eq length)
  have bytes : message.encoding options = (message.encode capacity options).2.2 :=
    congrArg Outcome.written same
  obtain ⟨-, whole⟩ := encode_within message capacity options
  constructor
  · rw [bytes]
    exact Prod.ext returned rfl
  · rw [bytes]
    exact ((whole size returned).resolve_left (Nat.ne_of_gt positive)).symm

end Encode

end Crocofix

/-
Messages that a script edits on their way through fixsed.

A script sets and removes fields, and the pipeline encodes the message
afterwards.  The encoder stops at the CheckSum field, wherever it stands by
then.
-/

import Crocofix.EncodeSize

namespace Crocofix

open Numeral

/-- What a script can do to the fields of a message. -/
inductive Edit
  | set (field : Field) (operation : SetOperation)
  | remove (tag : Int32) (operation : RemoveOperation)
deriving DecidableEq, Repr

namespace FieldCollection

def edit (fields : FieldCollection) : Edit → FieldCollection
  | .set field operation => (fields.set field operation).2
  | .remove tag operation => (fields.remove tag operation).2

end FieldCollection

def Message.edited (message : Message) (edits : List Edit) : Message :=
  { message with fields := edits.foldl FieldCollection.edit message.fields }

namespace Encode

/-- The bytes are the fields of the edited message, each of them once.  The
body length and the checksum are those that the encoder has computed. -/
structure Delivers (edited after : Message) (bytes : Bytes) : Prop where
  kept : after.fields.map withoutComputed = edited.fields.map withoutComputed
  once : ∃ order : FieldCollection, order.Perm after.fields ∧
    bytes = order.flatMap wire

theorem withoutComputed_tag (field : Field) : (withoutComputed field).tag = field.tag := by
  unfold withoutComputed
  split
  · rfl
  · rfl

theorem map_tag_of_kept {edited after : Message}
    (kept : after.fields.map withoutComputed = edited.fields.map withoutComputed) :
    after.fields.map Field.tag = edited.fields.map Field.tag := by
  have tags := congrArg (List.map Field.tag) kept
  rw [List.map_map, List.map_map] at tags
  have same : Field.tag ∘ withoutComputed = Field.tag := funext withoutComputed_tag
  rwa [same] at tags

theorem flatMap_wire_pos (field : Field) (rest : FieldCollection) :
    0 < ((field :: rest).flatMap wire).length := by
  rw [List.flatMap_cons, List.length_append, wire_length]
  omega

/-- Of fields with one CheckSum all are written if and only if it is the last. -/
theorem flatMap_toWrite_iff {fields : FieldCollection}
    (once : fields.countP (fun field => field.tag = Tag.CheckSum) = 1) :
    (∃ order : FieldCollection, order.Perm fields ∧
        (toWrite true fields).flatMap wire = order.flatMap wire) ↔
      fields.getLast?.map Field.tag = some Tag.CheckSum := by
  rcases checkSum_cases true fields with
    plain | ⟨-, front, last, more, rfl, others, checksum⟩
  · have absent : fields.countP (fun field => field.tag = Tag.CheckSum) = 0 :=
      List.countP_eq_zero.mpr fun field member same =>
        plain field member ⟨of_decide_eq_true same, rfl⟩
    omega
  · rw [toWrite_checkSum others checksum]
    cases more with
    | nil =>
        refine iff_of_true ⟨_, List.Perm.refl _, rfl⟩ ?_
        rw [List.getLast?_concat, Option.map_some, checksum]
    | cons field rest =>
        constructor
        · rintro ⟨order, permuted, same⟩
          have cut : (front ++ last :: field :: rest).flatMap wire =
              (front ++ [last]).flatMap wire ++ (field :: rest).flatMap wire := by
            simp
          have whole := (permuted.flatMap_right wire).length_eq
          rw [← same, cut, List.length_append] at whole
          have lost := flatMap_wire_pos field rest
          omega
        · intro isLast
          obtain ⟨final, found, finalTag⟩ := Option.map_eq_some_iff.mp isLast
          have member : final ∈ field :: rest := by
            rw [List.getLast?_append_of_ne_nil _ (by simp),
              List.getLast?_cons_cons] at found
            exact List.mem_of_getLast? found
          have counted : 0 < (field :: rest).countP
              (fun field => field.tag = Tag.CheckSum) :=
            List.countP_pos_iff.mpr ⟨final, member, decide_eq_true finalTag⟩
          rw [List.countP_append, List.countP_cons, if_pos (decide_eq_true checksum)]
            at once
          omega

/-- A message with one CheckSum that is encoded with the standard options is
delivered whole if and only if, once it is edited, the CheckSum is its last
field. -/
theorem encode_edited_iff {message : Message} {edits : List Edit}
    {capacity size : Nat} {after : Message} {bytes : Bytes}
    (once : (message.edited edits).fields.countP
      (fun field => field.tag = Tag.CheckSum) = 1)
    (encoded : (message.edited edits).encode capacity .standard =
      (.ok size, after, bytes))
    (stored : size ≠ 0) :
    Delivers (message.edited edits) after bytes ↔
      (message.edited edits).fields.getLast?.map Field.tag = some Tag.CheckSum := by
  obtain ⟨-, kept, sizes⟩ := encode_exact (message.edited edits) capacity .standard
  rw [encoded] at kept sizes
  obtain ⟨whole, nothing⟩ := sizes size rfl
  have fits : (message.edited edits).encodedLength .standard ≤ capacity := by
    by_contra full
    exact stored (nothing (by omega))
  have written := (whole fits).2
  have tags := map_tag_of_kept kept
  have onceAfter : after.fields.countP (fun field => field.tag = Tag.CheckSum) = 1 := by
    have counts (fields : FieldCollection) :
        fields.countP (fun field => field.tag = Tag.CheckSum) =
          (fields.map Field.tag).countP (fun tag => tag = Tag.CheckSum) := by
      rw [List.countP_map]
      rfl
    rw [counts, tags, ← counts]
    exact once
  have lastAfter : after.fields.getLast?.map Field.tag =
      (message.edited edits).fields.getLast?.map Field.tag := by
    rw [← List.getLast?_map, tags, List.getLast?_map]
  rw [← lastAfter, ← flatMap_toWrite_iff onceAfter]
  constructor
  · rintro ⟨-, order, permuted, same⟩
    exact ⟨order, permuted, written.symm.trans same⟩
  · rintro ⟨order, permuted, same⟩
    exact ⟨kept, order, permuted, written.trans same⟩

def heartbeatBytes : Bytes :=
  [Field.mk Tag.BeginString (ascii "FIX.4.4"), ⟨Tag.BodyLength, ascii "5"⟩,
    ⟨Tag.MsgType, MsgType.Heartbeat⟩, ⟨Tag.CheckSum, ascii "163"⟩].flatMap wire

def decodedHeartbeat : Message :=
  (Message.empty.decode .excerpt heartbeatBytes).2

def appended : Field := ⟨666, ascii "NEW"⟩

/-- A field that a script appends stands behind the decoded CheckSum, and none
of the bytes that are sent are its own. -/
theorem appended_lost :
    Message.empty.decode .excerpt heartbeatBytes =
        (.ok ⟨heartbeatBytes.length, true⟩, decodedHeartbeat) ∧
      (decodedHeartbeat.edited [.set appended .append]).fields.countP
        (fun field => field.tag = Tag.CheckSum) = 1 ∧
      ((decodedHeartbeat.edited [.set appended .append]).encode 8192 .standard).1 =
        .ok 26 ∧
      ¬ wire appended <:+:
        ((decodedHeartbeat.edited [.set appended .append]).encode 8192
          .standard).2.2 ∧
      ¬ Delivers (decodedHeartbeat.edited [.set appended .append])
        ((decodedHeartbeat.edited [.set appended .append]).encode 8192 .standard).2.1
        ((decodedHeartbeat.edited [.set appended .append]).encode 8192
          .standard).2.2 := by
  refine ⟨by decide +kernel, by decide +kernel, by decide +kernel,
    by decide +kernel, ?_⟩
  rintro ⟨-, order, permuted, same⟩
  have lengths := (permuted.flatMap_right wire).length_eq
  rw [← same] at lengths
  revert lengths
  decide +kernel

/-- A field that replaces another one is delivered. -/
theorem encode_edited_iff_replaced :
    Delivers (decodedHeartbeat.edited [.set ⟨Tag.MsgType, ascii "1"⟩ .replaceFirst])
      ((decodedHeartbeat.edited
        [.set ⟨Tag.MsgType, ascii "1"⟩ .replaceFirst]).encode 8192 .standard).2.1
      ((decodedHeartbeat.edited
        [.set ⟨Tag.MsgType, ascii "1"⟩ .replaceFirst]).encode 8192 .standard).2.2 := by
  have returned : ((decodedHeartbeat.edited
      [.set ⟨Tag.MsgType, ascii "1"⟩ .replaceFirst]).encode 8192 .standard).1 =
        .ok 26 := by decide +kernel
  have once : (decodedHeartbeat.edited
      [.set ⟨Tag.MsgType, ascii "1"⟩ .replaceFirst]).fields.countP
        (fun field => field.tag = Tag.CheckSum) = 1 := by decide +kernel
  exact (encode_edited_iff once (Prod.ext returned rfl) (by decide)).mpr
    (by decide +kernel)

end Encode

end Crocofix

/-
What a replacement takes from the request, from the report and from the order
that it replaces.
-/

import Crocofix.OrderBook.Status

namespace Crocofix

open Numeral

namespace FieldCollection

/-! ### What a replaced field leaves alone -/

theorem map_tag_put (fields : FieldCollection) (field : Field) :
    (fields.put field).map Field.tag = fields.map Field.tag := by
  unfold put set
  cases found : replaceFirst fields field with
  | none => rfl
  | some replaced => exact map_tag_replaceFirst found

theorem filter_put (fields : FieldCollection) (field : Field) :
    (fields.put field).filter (fun other => other.tag ≠ field.tag) =
      fields.filter fun other => other.tag ≠ field.tag := by
  unfold put set
  cases found : replaceFirst fields field with
  | none => rfl
  | some replaced =>
      obtain ⟨front, old, more, rfl, rfl, same, -⟩ := exists_of_replaceFirst found
      change (front ++ field :: more).filter _ = _
      rw [List.filter_append, List.filter_append,
        List.filter_cons_of_neg (by simp), List.filter_cons_of_neg (by simp [same])]

theorem HasDistinctTags.tryGet_reverse {fields : FieldCollection}
    (distinct : HasDistinctTags fields) (tag : Int32) :
    tryGet fields.reverse tag = fields.tryGet tag := by
  induction fields with
  | nil => rfl
  | cons field rest ih =>
      unfold HasDistinctTags at distinct ih
      rw [List.map_cons, List.nodup_cons] at distinct
      obtain ⟨alone, others⟩ := distinct
      rw [List.reverse_cons, tryGet_append, ih others, tryGet_cons, tryGet_cons,
        tryGet_nil]
      by_cases same : field.tag = tag
      · have absent : tryGet rest tag = none := by
          unfold tryGet
          rw [List.find?_eq_none]
          intro other member again
          apply alone
          rw [same, ← of_decide_eq_true again]
          exact List.mem_map_of_mem member
        rw [absent, if_pos same]
        rfl
      · rw [if_neg same, if_neg same, Option.or_none]

end FieldCollection

namespace Order

open FieldCollection (HasDistinctTags)

/-! ### The orders there are -/

/-- The orders that the operations of the class build, whatever they are called
with and whether they throw or not. -/
inductive Constructed : Order → Prop
  | create {message : Message} {order : Order}
      (created : create message = .ok order) : Constructed order
  | update {order : Order} (message : Message) (constructed : Constructed order) :
      Constructed (order.update message).2
  | commit {order : Order} (constructed : Constructed order) :
      Constructed order.commit
  | rollback {order : Order} (constructed : Constructed order) :
      Constructed order.rollback
  | original {order : Order} (executionReport : Message)
      (constructed : Constructed order) :
      Constructed (order.replace executionReport).2
  | replacement {order replacement : Order} {executionReport : Message}
      (constructed : Constructed order)
      (made : (order.replace executionReport).1 = .ok replacement) :
      Constructed replacement

theorem replace_cached {order : Order} (cached : Cached order)
    (executionReport : Message) :
    Cached (order.replace executionReport).2 ∧
      ∀ replacement, (order.replace executionReport).1 = .ok replacement →
        Cached replacement := by
  have updated := update_cached cached executionReport
  have rolledBack := rollback_cached cached
  unfold replace
  cases changed : order.update executionReport with
  | mk result after =>
      rw [changed] at updated
      cases result with
      | error exception =>
          refine ⟨cached, ?_⟩
          intro replacement impossible
          cases impossible
      | ok done =>
          refine ⟨⟨rolledBack.previousOrdStatus, rolledBack.newClOrdID⟩, ?_⟩
          intro replacement made
          injection made with made
          rw [← made]
          cases order.rollback.newClOrdID with
          | some clOrdID => exact ⟨updated.previousOrdStatus, updated.newClOrdID⟩
          | none =>
              cases executionReport.fields.tryGet Tag.ClOrdID with
              | some clOrdID =>
                  exact ⟨updated.previousOrdStatus, updated.newClOrdID⟩
              | none => exact ⟨updated.previousOrdStatus, updated.newClOrdID⟩

theorem Constructed.cached {order : Order} (constructed : Constructed order) :
    Cached order := by
  induction constructed with
  | create created => exact (create_identified created).2
  | update message constructed ih => exact update_cached ih message
  | commit constructed ih => exact ⟨ih.previousOrdStatus, ih.newClOrdID⟩
  | rollback constructed ih => exact rollback_cached ih
  | original executionReport constructed ih =>
      exact (replace_cached ih executionReport).1
  | replacement constructed made ih => exact (replace_cached ih _).2 _ made

/-! ### The values of a replacement -/

/-- What is requested comes before what is reported, and that before what the
order had. -/
theorem committed_value {order : Order} (distinct : Distinct order)
    {executionReport : Message} (tags : HasDistinctTags executionReport.fields)
    {tag : Int32} (other : tag ∉ identityFields) :
    (order.committed executionReport).fields.tryGet tag =
      (order.pendingFields.tryGet tag).or
        ((executionReport.fields.tryGet tag).or (order.fields.tryGet tag)) := by
  calc (order.committed executionReport).fields.tryGet tag
      _ = (mergeFields (mergeFields order.fields executionReport.fields)
            order.pendingFields).tryGet tag := rfl
      _ = (FieldCollection.tryGet order.pendingFields.reverse tag).or
            ((FieldCollection.tryGet executionReport.fields.reverse tag).or
              (order.fields.tryGet tag)) := by
          rw [tryGet_merged _ _ other, tryGet_merged _ _ other]
      _ = _ := by
          rw [distinct.pendingFields.tryGet_reverse, tags.tryGet_reverse]

theorem renamed_value {order : Order} {clOrdID : Field} {tag : Int32}
    (tagged : clOrdID.tag = Tag.ClOrdID) (other : tag ∉ identityFields) :
    (order.renamed clOrdID).fields.tryGet tag = order.fields.tryGet tag := by
  have notClOrdID : Tag.ClOrdID ≠ tag := by
    rintro rfl
    exact other (by decide)
  have notOrig : Tag.OrigClOrdID ≠ tag := by
    rintro rfl
    exact other (by decide)
  unfold renamed
  rw [FieldCollection.tryGet_putOrAppend, if_neg notOrig,
    FieldCollection.tryGet_putOrAppend, tagged, if_neg notClOrdID]

theorem named_value {order : Order} (cached : Cached order)
    (executionReport : Message) {tag : Int32} (other : tag ∉ identityFields) :
    (order.named executionReport).fields.tryGet tag =
      (order.committed executionReport).fields.tryGet tag := by
  unfold named
  cases names : order.replacementClOrdID executionReport with
  | none => rfl
  | some clOrdID =>
      exact renamed_value (replacementClOrdID_tag cached names) other

theorem named_pendingFields (order : Order) (executionReport : Message) :
    (order.named executionReport).pendingFields = [] := by
  unfold named
  cases order.replacementClOrdID executionReport with
  | none => rfl
  | some clOrdID => rfl

/-! ### The order that stays behind -/

structure SameFields (before after : FieldCollection) : Prop where
  others : after.filter (fun field => field.tag ≠ Tag.OrdStatus) =
    before.filter fun field => field.tag ≠ Tag.OrdStatus
  tags : after.map Field.tag = before.map Field.tag

theorem SameFields.trans {first second third : FieldCollection}
    (before : SameFields first second) (after : SameFields second third) :
    SameFields first third :=
  ⟨after.others.trans before.others, after.tags.trans before.tags⟩

theorem SameFields.put (fields : FieldCollection) {status : Field}
    (tagged : status.tag = Tag.OrdStatus) :
    SameFields fields (fields.put status) := by
  have others := FieldCollection.filter_put fields status
  rw [tagged] at others
  exact ⟨others, FieldCollection.map_tag_put fields status⟩

theorem rollback_sameFields {order : Order} (cached : Cached order) :
    SameFields order.fields order.rollback.fields := by
  unfold rollback
  cases previous : order.previousOrdStatus with
  | none => exact ⟨rfl, rfl⟩
  | some status =>
      exact .put order.fields (cached.previousOrdStatus status previous)

theorem replacedBy_same {order : Order} (cached : Cached order)
    (executionReport : Message) :
    SameIdentity order (order.replacedBy executionReport) := by
  have rolledBack := rollback_same cached
  have set := setOrdStatus_same order.rollback OrdStatus.Replaced
  exact ⟨rolledBack.key, rolledBack.beginString, rolledBack.senderCompID,
    rolledBack.targetCompID, rolledBack.clOrdID, rolledBack.origClOrdID,
    fun tag identity =>
      (set.fields tag identity).trans (rolledBack.fields tag identity)⟩

/-- What `replace` makes of an order and a report. -/
structure Divides (order : Order) (executionReport : Message)
    (replacement original : Order) : Prop where
  values : ∀ tag, tag ∉ identityFields → tag ≠ Tag.OrdStatus →
    replacement.fields.tryGet tag =
      (order.pendingFields.tryGet tag).or
        ((executionReport.fields.tryGet tag).or (order.fields.tryGet tag))
  settled : replacement.pendingFields = []
  history : replacement.messages = order.messages ++ [executionReport]
  identity : SameIdentity order original
  kept : SameFields order.fields original.fields
  rolledBack : original.pendingFields = []
  recorded : original.messages = order.messages ++ [executionReport]

/-- A replacement prefers what was requested to what is reported and that to
what the order had; the order itself keeps all but its status. -/
theorem replace_divides {order : Order} (constructed : Constructed order)
    (distinct : Distinct order) {executionReport : Message}
    (typed : executionReport.MsgType = .ok MsgType.ExecutionReport)
    (tags : HasDistinctTags executionReport.fields) :
    ∃ replacement original,
      order.replace executionReport = (.ok replacement, original) ∧
        Divides order executionReport replacement original := by
  have cached := constructed.cached
  refine ⟨_, _, replace_eq order typed, ?_⟩
  exact {
    values := by
      intro tag other notStatus
      calc _ = (order.named executionReport).fields.tryGet tag := by
            unfold setOrdStatus
            rw [FieldCollection.tryGet_put, if_neg (Ne.symm notStatus)]
        _ = (order.committed executionReport).fields.tryGet tag :=
            named_value cached executionReport other
        _ = _ := committed_value distinct tags other
    settled := named_pendingFields order executionReport
    history := (named_kept order executionReport).1
    identity := replacedBy_same cached executionReport
    kept := (rollback_sameFields cached).trans (.put order.rollback.fields rfl)
    rolledBack := rollback_pendingFields order
    recorded := rfl }

def repriced : Message :=
  { Message.empty with
    fields := [⟨Tag.MsgType, MsgType.OrderCancelReplaceRequest⟩,
      ⟨Tag.SenderCompID, ascii "A"⟩, ⟨Tag.TargetCompID, ascii "B"⟩,
      ⟨Tag.OrigClOrdID, ascii "1"⟩, ⟨Tag.ClOrdID, ascii "2"⟩,
      ⟨44, ascii "10.5"⟩, ⟨38, ascii "200"⟩] }

def repricedReport : Message :=
  { Message.empty with
    fields := [⟨Tag.MsgType, MsgType.ExecutionReport⟩,
      ⟨Tag.SenderCompID, ascii "B"⟩, ⟨Tag.TargetCompID, ascii "A"⟩,
      ⟨Tag.ClOrdID, ascii "1"⟩, ⟨Tag.ExecType, ExecType.Replaced⟩,
      ⟨38, ascii "150"⟩, ⟨14, ascii "50"⟩] }

theorem replace_divides_repriced :
    ∃ single replacement original,
      create OrderBook.orderSingle = .ok single ∧
      (single.update repriced).2.replace repricedReport =
        (.ok replacement, original) ∧
      Divides (single.update repriced).2 repricedReport replacement original := by
  have found : ∃ single, create OrderBook.orderSingle = .ok single :=
    ⟨_, rfl⟩
  obtain ⟨single, created⟩ := found
  have distinct : Distinct (single.update repriced).2 :=
    update_distinct (create_distinct created (by decide)) repriced
  obtain ⟨replacement, original, divided, divides⟩ :=
    @replace_divides (single.update repriced).2
      (.update repriced (.create created)) distinct repricedReport (by decide)
      (by decide)
  exact ⟨single, replacement, original, created, divided, divides⟩

end Order

end Crocofix

/-
Where the values in an order book come from.

A value that an order has is one of a message that was processed, or a status that the
book sets.  What holds of all of these holds of the whole book.
-/

import Crocofix.OrderBook.Outstanding

namespace Crocofix

open Numeral

namespace Order

def ownStatuses : List Bytes :=
  [OrdStatus.New, OrdStatus.Replaced, OrdStatus.PendingCancel, OrdStatus.PendingReplace]

/-- What holds of every value that an order has, or can get without a message. -/
structure Values (holds : Bytes → Prop) (order : Order) : Prop where
  fields : ∀ field ∈ order.fields, holds field.value
  pendingFields : ∀ field ∈ order.pendingFields, holds field.value
  clOrdID : holds order.clOrdID.value
  previousOrdStatus : ∀ field, order.previousOrdStatus = some field → holds field.value
  newClOrdID : ∀ field, order.newClOrdID = some field → holds field.value

variable {holds : Bytes → Prop} {order : Order} {message : Message}

theorem values_of_tryGet {fields : FieldCollection} {tag : Int32} {field : Field}
    (values : ∀ field ∈ fields, holds field.value) (found : fields.tryGet tag = some field) :
    holds field.value :=
  values field (List.mem_of_find?_eq_some found)

theorem values_of_get {fields : FieldCollection} {tag : Int32} {field : Field}
    (values : ∀ field ∈ fields, holds field.value) (found : fields.get tag = .ok field) :
    holds field.value := by
  unfold FieldCollection.get at found
  cases here : fields.tryGet tag with
  | none =>
      rw [here] at found
      cases found
  | some other =>
      rw [here] at found
      injection found with same
      rw [← same]
      exact values_of_tryGet values here

theorem values_put {fields : FieldCollection} {field : Field}
    (values : ∀ field ∈ fields, holds field.value) (added : holds field.value) :
    ∀ other ∈ fields.put field, holds other.value := by
  intro other member
  rcases FieldCollection.mem_put member with rfl | old
  · exact added
  · exact values other old

theorem values_putOrAppend {fields : FieldCollection} {field : Field}
    (values : ∀ field ∈ fields, holds field.value) (added : holds field.value) :
    ∀ other ∈ fields.putOrAppend field, holds other.value := by
  intro other member
  rcases FieldCollection.mem_putOrAppend member with rfl | old
  · exact added
  · exact values other old

theorem values_mergeFields {target fields : FieldCollection}
    (values : ∀ field ∈ target, holds field.value)
    (added : ∀ field ∈ fields, holds field.value) :
    ∀ field ∈ mergeFields target fields, holds field.value := by
  intro field member
  exact (mem_mergeFields member).elim (values field) (added field)

/-! ### The operations -/

theorem values_create (fields : ∀ field ∈ message.fields, holds field.value)
    (constructed : create message = .ok order) : order.Values holds := by
  unfold create at constructed
  cases begins : message.fields.get Tag.BeginString with
  | error exception =>
      rw [begins] at constructed
      cases constructed
  | ok beginString =>
  cases sends : message.fields.get Tag.SenderCompID with
  | error exception =>
      rw [begins, sends] at constructed
      cases constructed
  | ok senderCompID =>
  cases targets : message.fields.get Tag.TargetCompID with
  | error exception =>
      rw [begins, sends, targets] at constructed
      cases constructed
  | ok targetCompID =>
  cases names : message.fields.get Tag.ClOrdID with
  | error exception =>
      rw [begins, sends, targets, names] at constructed
      cases constructed
  | ok clOrdID =>
      rw [begins, sends, targets, names] at constructed
      cases constructed
      exact
        { fields
          pendingFields := fun _ member => absurd member List.not_mem_nil
          clOrdID := values_of_get fields names
          previousOrdStatus := fun _ none => by cases none
          newClOrdID := fun _ none => by cases none }

theorem Values.recorded (values : order.Values holds) (messages : List Message)
    (key : Bytes) : ({ order with messages, key } : Order).Values holds :=
  ⟨values.fields, values.pendingFields, values.clOrdID, values.previousOrdStatus,
    values.newClOrdID⟩

theorem Values.setOrdStatus (values : order.Values holds) {status : Bytes}
    (own : holds status) : (order.setOrdStatus status).Values holds :=
  { values with fields := values_put values.fields own }

theorem Values.updateFields (values : order.Values holds) {fields : FieldCollection}
    (added : ∀ field ∈ fields, holds field.value) : (order.updateFields fields).Values holds :=
  { values with fields := values_mergeFields values.fields added }

theorem Values.updatePendingFields (values : order.Values holds)
    {fields : FieldCollection} (added : ∀ field ∈ fields, holds field.value) :
    (order.updatePendingFields fields).Values holds :=
  { values with pendingFields := values_mergeFields values.pendingFields added }

theorem Values.commit (values : order.Values holds) : order.commit.Values holds :=
  { values.updateFields values.pendingFields with
    pendingFields := fun _ member => absurd member List.not_mem_nil }

theorem Values.rollback (values : order.Values holds) : order.rollback.Values holds := by
  unfold Order.rollback
  cases previous : order.previousOrdStatus with
  | none =>
      exact
        { fields := values.fields
          pendingFields := fun _ member => absurd member List.not_mem_nil
          clOrdID := values.clOrdID
          previousOrdStatus := fun _ none => by cases none
          newClOrdID := values.newClOrdID }
  | some status =>
      exact
        { fields := values_put values.fields (values.previousOrdStatus status previous)
          pendingFields := fun _ member => absurd member List.not_mem_nil
          clOrdID := values.clOrdID
          previousOrdStatus := fun _ none => by cases none
          newClOrdID := values.newClOrdID }

theorem Values.renamed (values : order.Values holds) {clOrdID : Field}
    (named : holds clOrdID.value) : (order.renamed clOrdID).Values holds :=
  { values with
    fields := values_putOrAppend (values_putOrAppend values.fields named) values.clOrdID
    clOrdID := named }

section messages

variable (statuses : ∀ status ∈ ownStatuses, holds status)
variable (fields : ∀ field ∈ message.fields, holds field.value)

include statuses fields

theorem Values.update (values : order.Values holds) :
    (order.update message).2.Values holds := by
  have cached : ∀ field, order.fields.tryGet Tag.OrdStatus = some field →
      holds field.value := fun _ found => values_of_tryGet values.fields found
  unfold Order.update
  cases message.MsgType with
  | error exception => exact values.recorded _ _
  | ok msgType =>
      simp only
      split
      · cases named : message.fields.get Tag.ClOrdID with
        | error exception => exact { values with previousOrdStatus := cached }
        | ok clOrdID =>
            apply setOrdStatus _ (statuses OrdStatus.PendingReplace (by decide))
            apply updatePendingFields _ fields
            refine { values with previousOrdStatus := cached, newClOrdID := ?_ }
            rintro field ⟨⟩
            exact values_of_get fields named
      · split
        · apply setOrdStatus _ (statuses OrdStatus.PendingCancel (by decide))
          apply updatePendingFields _ fields
          exact { values with previousOrdStatus := cached }
        · exact updateFields (values.recorded _ _) fields

theorem Values.replace (values : order.Values holds) {replacement original : Order}
    (typed : message.MsgType = .ok MsgType.ExecutionReport)
    (divided : order.replace message = (.ok replacement, original)) :
    replacement.Values holds ∧ original.Values holds := by
  rw [replace_eq order typed] at divided
  injection divided with first second
  injection first with first
  rw [← first, ← second]
  constructor
  · apply setOrdStatus _ (statuses OrdStatus.New (by decide))
    have committed : (order.committed message).Values holds :=
      commit (updateFields (values.recorded _ _) fields)
    have named : (order.named message).Values holds := by
      unfold Order.named replacementClOrdID
      split
      · next clOrdID found =>
        rcases Option.or_eq_some_iff.mp found with cached | ⟨-, reported⟩
        · exact committed.renamed (values.newClOrdID clOrdID cached)
        · exact committed.renamed (values_of_tryGet fields reported)
      · exact committed
    exact named.recorded _ _
  · have behind := values.rollback.setOrdStatus
      (statuses OrdStatus.Replaced (by decide))
    exact behind.recorded _ _

end messages

end Order

namespace OrderBook

def Values (holds : Bytes → Prop) (book : OrderBook) : Prop :=
  ∀ key order, book.orders.lookup key = some order → order.Values holds

theorem values_process {holds : Bytes → Prop} {book : OrderBook} {message : Message}
    (statuses : ∀ status ∈ Order.ownStatuses, holds status)
    (fields : ∀ field ∈ message.fields, holds field.value) (values : book.Values holds) :
    (book.process message).2.Values holds := by
  apply @process_forall (fun _ order => order.Values holds) book message values
  · intro order typed created
    exact Order.values_create fields created
  · intro key order reverseCompIDs updates addresses before
    exact before.update statuses fields
  · intro key order replacement original reports addresses divided before
    exact (before.replace statuses fields reports.1 divided).2
  · intro key order replacement original reports addresses differs divided before
    exact (before.replace statuses fields reports.1 divided).1
  · intro key order typed addresses before
    exact before.rollback

theorem values_processAll {holds : Bytes → Prop} {messages : List Message}
    (statuses : ∀ status ∈ Order.ownStatuses, holds status)
    (fields : ∀ message ∈ messages, ∀ field ∈ message.fields, holds field.value) :
    (empty.processAll messages).Values holds := by
  apply processAll_invariant
  · intro key order found
    cases found
  · intro message member current values
    exact values_process statuses (fields message member) values

end OrderBook

end Crocofix

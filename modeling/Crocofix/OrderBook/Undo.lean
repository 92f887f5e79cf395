/-
A request that is taken back by a reject.

Nothing but the history is looked back at, so two orders that differ in nothing
else stay indistinguishable.  A rejected request to replace an order leaves one
more thing behind: the ClOrdID that it asked for.
-/

import Crocofix.OrderBook.Answered
import Crocofix.OrderBook.Replacement

namespace Crocofix

open Numeral

namespace Order

/-! ### Orders that differ in their history only -/

def forget (order : Order) : Order := { order with messages := [] }

def Alike (first second : Order) : Prop := second.forget = first.forget

theorem Alike.same {first second : Order} (alike : Alike first second) :
    second.key = first.key ∧ second.newClOrdID = first.newClOrdID := by
  have keyed : second.forget.key = first.forget.key := congrArg key alike
  have remembered : second.forget.newClOrdID = first.forget.newClOrdID :=
    congrArg newClOrdID alike
  exact ⟨keyed, remembered⟩

theorem update_forget (order : Order) (message : Message) :
    (order.forget.update message).1 = (order.update message).1 ∧
      (order.forget.update message).2.forget = (order.update message).2.forget := by
  unfold update
  cases message.MsgType with
  | error exception => exact ⟨rfl, rfl⟩
  | ok msgType =>
      simp only
      split
      · cases message.fields.get Tag.ClOrdID with
        | error exception => exact ⟨rfl, rfl⟩
        | ok clOrdID => exact ⟨rfl, rfl⟩
      · split
        · exact ⟨rfl, rfl⟩
        · exact ⟨rfl, rfl⟩

theorem rollback_forget (order : Order) :
    order.forget.rollback.forget = order.rollback.forget := by
  rcases order with ⟨messages, key, beginString, senderCompID, targetCompID,
    clOrdID, origClOrdID, previousOrdStatus, newClOrdID, fields, pendingFields⟩
  cases previousOrdStatus with
  | none => rfl
  | some status => rfl

theorem replacement_forget (order : Order) {executionReport : Message}
    (typed : executionReport.MsgType = .ok MsgType.ExecutionReport) :
    (order.forget.replace executionReport).1.map forget =
        (order.replace executionReport).1.map forget ∧
      (order.forget.replace executionReport).2.forget =
        (order.replace executionReport).2.forget := by
  rw [replace_eq order typed, replace_eq order.forget typed]
  rcases order with ⟨messages, key, beginString, senderCompID, targetCompID,
    clOrdID, origClOrdID, previousOrdStatus, newClOrdID, fields, pendingFields⟩
  constructor
  · cases newClOrdID with
    | some clOrdID => rfl
    | none =>
        unfold named replacementClOrdID replacementKey
        cases executionReport.fields.tryGet Tag.ClOrdID with
        | some clOrdID => rfl
        | none => rfl
  · cases previousOrdStatus with
    | none => rfl
    | some status => rfl

theorem Alike.update {first second : Order} (alike : Alike first second)
    (message : Message) :
    (second.update message).1 = (first.update message).1 ∧
      Alike (first.update message).2 (second.update message).2 := by
  obtain ⟨firstResult, firstAfter⟩ := update_forget first message
  obtain ⟨secondResult, secondAfter⟩ := update_forget second message
  unfold Alike at alike ⊢
  rw [← firstResult, ← secondResult, ← firstAfter, ← secondAfter, alike]
  exact ⟨rfl, rfl⟩

theorem Alike.rollback {first second : Order} (alike : Alike first second) :
    Alike first.rollback second.rollback := by
  unfold Alike at alike ⊢
  rw [← rollback_forget first, ← rollback_forget second, alike]

theorem Alike.replace {first second : Order} (alike : Alike first second)
    {message : Message} (typed : message.MsgType = .ok MsgType.ExecutionReport) :
    ∃ oneReplacement one otherReplacement other,
      first.replace message = (.ok oneReplacement, one) ∧
      second.replace message = (.ok otherReplacement, other) ∧
      Alike oneReplacement otherReplacement ∧ Alike one other := by
  have firstForgets := replacement_forget first typed
  have secondForgets := replacement_forget second typed
  unfold Alike at alike
  rw [alike] at secondForgets
  obtain ⟨oneReplacement, one, onePair, -⟩ := replace_spec first typed
  obtain ⟨otherReplacement, other, otherPair, -⟩ := replace_spec second typed
  refine ⟨oneReplacement, one, otherReplacement, other, onePair, otherPair, ?_⟩
  rw [onePair] at firstForgets
  rw [otherPair] at secondForgets
  constructor
  · have same := secondForgets.1.symm.trans firstForgets.1
    injection same
  · exact secondForgets.2.symm.trans firstForgets.2

end Order

namespace OrderBook

/-! ### Books that differ in histories only -/

def Alike (first second : OrderBook) : Prop :=
  ∀ key, (second.orders.lookup key).map Order.forget =
    (first.orders.lookup key).map Order.forget

inductive AlikeAt (first second : OrderBook) (key : Bytes) : Prop
  | absent (one : first.orders.lookup key = none)
      (other : second.orders.lookup key = none)
  | present (one other : Order) (oneFound : first.orders.lookup key = some one)
      (otherFound : second.orders.lookup key = some other)
      (alike : Order.Alike one other)

variable {first second : OrderBook}

theorem Alike.at (alike : Alike first second) (key : Bytes) :
    AlikeAt first second key := by
  have same := alike key
  cases one : first.orders.lookup key with
  | none =>
      rw [one] at same
      exact .absent one (Option.map_eq_none_iff.mp same)
  | some order =>
      rw [one] at same
      obtain ⟨other, found, forgets⟩ := Option.map_eq_some_iff.mp same
      exact .present order other one found forgets

theorem Alike.store (alike : Alike first second) (key : Bytes) {one other : Order}
    (orders : Order.Alike one other) :
    Alike (first.store key one) (second.store key other) := by
  intro wanted
  by_cases same : wanted = key
  · rw [same, lookup_store, lookup_store]
    exact congrArg some orders
  · rw [lookup_store_ne one same, lookup_store_ne other same]
    exact alike wanted

def SameOutcome (one other : Result × OrderBook) : Prop :=
  other.1 = one.1 ∧ Alike one.2 other.2

theorem Alike.tryEmplace (alike : Alike first second) (key : Bytes)
    (one other : Order) :
    (first.tryEmplace key one = none ∧ second.tryEmplace key other = none) ∨
      (first.tryEmplace key one = some (first.store key one) ∧
        second.tryEmplace key other = some (second.store key other)) := by
  unfold OrderBook.tryEmplace
  cases alike.at key with
  | absent oneAbsent otherAbsent =>
      rw [oneAbsent, otherAbsent]
      exact .inr ⟨rfl, rfl⟩
  | present _ _ oneFound otherFound =>
      rw [oneFound, otherFound]
      exact .inl ⟨rfl, rfl⟩

theorem Alike.updateStored (alike : Alike first second) (key : Bytes)
    {one other : Order} (orders : Order.Alike one other) (message : Message) :
    SameOutcome (first.updateStored key one message)
      (second.updateStored key other message) := by
  obtain ⟨same, updated⟩ := orders.update message
  unfold OrderBook.updateStored
  revert same updated
  cases one.update message with
  | mk oneResult oneAfter =>
  cases other.update message with
  | mk otherResult otherAfter =>
      intro same updated
      simp only at same
      rw [same]
      cases oneResult with
      | error exception => exact ⟨rfl, alike.store key updated⟩
      | ok done => exact ⟨rfl, alike.store key updated⟩

theorem Alike.processOrderSingle (alike : Alike first second) (message : Message) :
    SameOutcome (first.processOrderSingle message)
      (second.processOrderSingle message) := by
  unfold OrderBook.processOrderSingle
  cases Order.create message with
  | error exception => exact ⟨rfl, alike⟩
  | ok order =>
      have same : Order.Alike order order := rfl
      simp only
      rcases alike.tryEmplace order.key order order with
        ⟨oneTaken, otherTaken⟩ | ⟨oneFree, otherFree⟩
      · rw [oneTaken, otherTaken]
        exact ⟨rfl, alike⟩
      · rw [oneFree, otherFree]
        exact ⟨rfl, alike.store order.key same⟩

theorem Alike.processExecutionReport (alike : Alike first second)
    {message : Message} (typed : message.MsgType = .ok MsgType.ExecutionReport) :
    SameOutcome (first.processExecutionReport message)
      (second.processExecutionReport message) := by
  unfold OrderBook.processExecutionReport
  cases Order.keyForMessage message true with
  | error exception => exact ⟨rfl, alike⟩
  | ok key =>
      simp only
      cases alike.at key with
      | absent oneAbsent otherAbsent =>
          rw [oneAbsent, otherAbsent]
          exact ⟨rfl, alike⟩
      | present one other oneFound otherFound orders =>
          rw [oneFound, otherFound]
          simp only
          by_cases replaced : (message.fields.tryGet Tag.ExecType).map Field.value =
              some ExecType.Replaced
          · rw [if_pos replaced, if_pos replaced]
            obtain ⟨oneReplacement, oneLeft, otherReplacement, otherLeft, onePair,
              otherPair, replacements, left⟩ := orders.replace typed
            have stored := alike.store key left
            have keyed : otherReplacement.key = oneReplacement.key :=
              replacements.same.1
            rw [onePair, otherPair]
            simp only
            rw [keyed]
            rcases stored.tryEmplace oneReplacement.key oneReplacement
                otherReplacement with
              ⟨oneTaken, otherTaken⟩ | ⟨oneFree, otherFree⟩
            · rw [oneTaken, otherTaken]
              exact ⟨rfl, stored⟩
            · rw [oneFree, otherFree]
              exact ⟨rfl, stored.store oneReplacement.key replacements⟩
          · rw [if_neg replaced, if_neg replaced]
            exact alike.updateStored key orders message

theorem Alike.processRequest (alike : Alike first second) (message : Message) :
    SameOutcome (first.processRequest message)
      (second.processRequest message) := by
  unfold OrderBook.processRequest
  cases Order.keyForMessage message false with
  | error exception => exact ⟨rfl, alike⟩
  | ok key =>
      simp only
      cases alike.at key with
      | absent oneAbsent otherAbsent =>
          rw [oneAbsent, otherAbsent]
          exact ⟨rfl, alike⟩
      | present one other oneFound otherFound orders =>
          rw [oneFound, otherFound]
          exact alike.updateStored key orders message

theorem Alike.processOrderCancelReject (alike : Alike first second)
    (message : Message) :
    SameOutcome (first.processOrderCancelReject message)
      (second.processOrderCancelReject message) := by
  unfold OrderBook.processOrderCancelReject
  cases Order.keyForMessage message true with
  | error exception => exact ⟨rfl, alike⟩
  | ok key =>
      simp only
      cases alike.at key with
      | absent oneAbsent otherAbsent =>
          rw [oneAbsent, otherAbsent]
          exact ⟨rfl, alike⟩
      | present one other oneFound otherFound orders =>
          rw [oneFound, otherFound]
          exact ⟨rfl, alike.store key orders.rollback⟩

theorem Alike.process (alike : Alike first second) (message : Message) :
    SameOutcome (first.process message) (second.process message) := by
  obtain ⟨handler, handles, calls⟩ := handler_of_message message
  rw [calls, calls]
  cases handles with
  | single typed => exact alike.processOrderSingle message
  | report typed => exact alike.processExecutionReport typed
  | request typed => exact alike.processRequest message
  | reject typed => exact alike.processOrderCancelReject message
  | none text unconcerned => exact ⟨rfl, alike⟩

def results (book : OrderBook) : List Message → List Result
  | [] => []
  | message :: later =>
      (book.process message).1 :: (book.process message).2.results later

theorem Alike.processAll (alike : Alike first second) (messages : List Message) :
    second.results messages = first.results messages ∧
      Alike (first.processAll messages) (second.processAll messages) := by
  induction messages generalizing first second with
  | nil => exact ⟨rfl, alike⟩
  | cons message later ih =>
      obtain ⟨same, after⟩ := alike.process message
      obtain ⟨sameLater, afterLater⟩ := ih after
      refine ⟨?_, afterLater⟩
      unfold results
      rw [same, sameLater]

end OrderBook

namespace Order

/-! ### A request and a reject -/

def rejected (order : Order) (request : Message) : Order :=
  (order.update request).2.rollback

/-- The request and its reject change nothing but the history, and no later call
notices that they were there. -/
structure Undoes (order : Order) (request : Message) : Prop where
  restored : Alike order (order.rejected request)
  unnoticed : ∀ (book : OrderBook) (key : Bytes) (later : List Message),
    book.orders.lookup key = some order →
      (book.store key (order.rejected request)).results later =
          book.results later ∧
        OrderBook.Alike (book.processAll later)
          ((book.store key (order.rejected request)).processAll later)

structure Idle (order : Order) : Prop where
  pendingFields : order.pendingFields = []
  previousOrdStatus : order.previousOrdStatus = none

theorem rollback_setOrdStatus {order : Order}
    (cached : order.previousOrdStatus = order.fields.tryGet Tag.OrdStatus)
    (status : Bytes) :
    (order.setOrdStatus status).rollback =
      { order with pendingFields := [], previousOrdStatus := none } := by
  unfold rollback setOrdStatus
  simp only
  cases previous : order.previousOrdStatus with
  | none =>
      rw [previous] at cached
      have unset : order.fields.put ⟨Tag.OrdStatus, status⟩ = order.fields :=
        FieldCollection.put_of_absent cached.symm
      simp only [unset]
  | some old =>
      rw [previous] at cached
      have restored : (order.fields.put ⟨Tag.OrdStatus, status⟩).put old =
          order.fields := FieldCollection.put_put_back cached.symm
      simp only [restored]

theorem rejected_eq {order : Order} (idle : Idle order) {request : Message}
    (requests : request.MsgType = .ok MsgType.OrderCancelRequest ∨
      request.MsgType = .ok MsgType.OrderCancelReplaceRequest) :
    order.rejected request =
      { order with
        messages := order.messages ++ [request]
        newClOrdID :=
          if request.MsgType = .ok MsgType.OrderCancelReplaceRequest then
            (request.fields.tryGet Tag.ClOrdID).or order.newClOrdID
          else order.newClOrdID } := by
  obtain ⟨pendingFields, previousOrdStatus⟩ := idle
  rcases order with ⟨messages, key, beginString, senderCompID, targetCompID,
    clOrdID, origClOrdID, previous, newClOrdID, fields, pending⟩
  simp only at pendingFields previousOrdStatus
  subst pendingFields previousOrdStatus
  have settled (changed : Order)
      (cached : changed.previousOrdStatus = changed.fields.tryGet Tag.OrdStatus)
      (merged : FieldCollection) (status : Bytes) :
      ((changed.updatePendingFields merged).setOrdStatus status).rollback =
        { changed with pendingFields := [], previousOrdStatus := none } :=
    @rollback_setOrdStatus (changed.updatePendingFields merged) cached status
  unfold rejected update
  rcases requests with typed | typed
  · rw [typed]
    simp only
    rw [if_neg (by decide), if_pos trivial, if_neg (by decide)]
    exact settled _ rfl request.fields _
  · rw [typed]
    simp only
    rw [if_pos trivial, if_pos trivial]
    unfold FieldCollection.get
    cases named : request.fields.tryGet Tag.ClOrdID with
    | some clOrdID => exact settled _ rfl request.fields _
    | none =>
        unfold rollback
        simp only [Option.none_or]
        cases found : fields.tryGet Tag.OrdStatus with
        | none => rfl
        | some status =>
            have tagged := FieldCollection.tag_of_tryGet found
            rw [← tagged] at found
            simp only [FieldCollection.put_of_present found]

/-- A request and its reject leave no trace exactly where the request is one to
cancel, or has no ClOrdID, or asks for the ClOrdID that the order remembers. -/
theorem undoes_iff {order : Order} (idle : Idle order) {request : Message}
    (requests : request.MsgType = .ok MsgType.OrderCancelRequest ∨
      request.MsgType = .ok MsgType.OrderCancelReplaceRequest) :
    Undoes order request ↔
      request.MsgType = .ok MsgType.OrderCancelRequest ∨
        request.fields.tryGet Tag.ClOrdID = none ∨
          order.newClOrdID = request.fields.tryGet Tag.ClOrdID := by
  have rejected := rejected_eq idle requests
  constructor
  · intro undoes
    have restored := undoes.restored
    rw [rejected] at restored
    have remembered := restored.same.2
    simp only at remembered
    rcases requests with cancel | replace
    · exact .inl cancel
    · rw [if_pos replace] at remembered
      cases named : request.fields.tryGet Tag.ClOrdID with
      | none => exact .inr (.inl rfl)
      | some clOrdID =>
          rw [named] at remembered
          exact .inr (.inr remembered.symm)
  · intro condition
    have restored : Alike order (order.rejected request) := by
      unfold Alike
      rw [rejected]
      have remembered : (if request.MsgType = .ok MsgType.OrderCancelReplaceRequest
          then (request.fields.tryGet Tag.ClOrdID).or order.newClOrdID
          else order.newClOrdID) = order.newClOrdID := by
        rcases condition with cancel | missing | same
        · exact if_neg (OrderBook.not_typed cancel (by decide))
        · rw [missing, Option.none_or, ite_self]
        · rw [← same, Option.or_self, ite_self]
      simp only [forget, remembered]
    refine ⟨restored, ?_⟩
    intro book key later found
    have alike : OrderBook.Alike book (book.store key (order.rejected request)) := by
      intro other
      by_cases same : other = key
      · rw [same, OrderBook.lookup_store, found]
        exact congrArg some restored
      · rw [OrderBook.lookup_store_ne _ same]
    exact alike.processAll later

theorem undoes_cancelRequest :
    ∃ order, create OrderBook.orderSingle = .ok order ∧
      Undoes order OrderBook.cancelRequest := by
  have found : ∃ order, create OrderBook.orderSingle = .ok order := ⟨_, rfl⟩
  obtain ⟨order, created⟩ := found
  obtain ⟨-, -, pendingFields, previousOrdStatus, -⟩ := create_parts created
  exact ⟨order, created, (undoes_iff ⟨pendingFields, previousOrdStatus⟩
    (.inl (by decide))).mpr (.inl (by decide))⟩

/-- A rejected request to replace the order 1 by the order 2: the ClOrdID stays
behind, and a report that replaces the order later makes it the order 2. -/
theorem rejected_request_is_remembered :
    ∃ order, create OrderBook.orderSingle = .ok order ∧ Idle order ∧
      keyForMessage repriced false = .ok order.key ∧
      (order.rejected repriced).newClOrdID ≠ order.newClOrdID ∧
      ¬ Undoes order repriced := by
  have found : ∃ order, create OrderBook.orderSingle = .ok order ∧
      keyForMessage repriced false = .ok order.key ∧
        (order.rejected repriced).newClOrdID ≠ order.newClOrdID :=
    ⟨_, rfl, by decide, by decide⟩
  obtain ⟨order, created, addressed, remembered⟩ := found
  obtain ⟨-, -, pendingFields, previousOrdStatus, -⟩ := create_parts created
  refine ⟨order, created, ⟨pendingFields, previousOrdStatus⟩, addressed,
    remembered, ?_⟩
  intro undoes
  exact remembered undoes.restored.same.2

end Order

end Crocofix

/-
The order book: a map from order keys to orders, and the handlers of the five
messages that concern orders.

A handler may report an error or let an exception escape.  In two cases it has
changed the stored order before it fails.
-/

import Crocofix.Order
import Mathlib.Data.List.AList

namespace Crocofix

open Numeral

/-- `std::map<std::string, order>`. -/
abbrev OrderCollection := AList fun _ : Bytes => Order

structure OrderBook where
  orders : OrderCollection

namespace OrderBook

def empty : OrderBook := ⟨∅⟩

/-- `std::expected<void, std::string>`, or an exception that escapes. -/
abbrev Result := Except Exception (Except Bytes Unit)

def Failed (result : Result) : Prop := result ≠ .ok (.ok ())

instance (result : Result) : Decidable (Failed result) := by
  unfold Failed
  infer_instance

/-- `order->second` is changed in place. -/
def store (book : OrderBook) (key : Bytes) (order : Order) : OrderBook :=
  ⟨book.orders.insert key order⟩

/-- `m_orders.try_emplace`: nothing where the key is taken. -/
def tryEmplace (book : OrderBook) (key : Bytes) (order : Order) :
    Option OrderBook :=
  match book.orders.lookup key with
  | some _ => none
  | none => some (book.store key order)

def alreadyContains (key : Bytes) : Bytes :=
  ascii "order book already contains an order with key = " ++ key

def doesNotContain (key : Bytes) : Bytes :=
  ascii "order book does not contain an order with key = " ++ key

def processOrderSingle (book : OrderBook) (message : Message) :
    Result × OrderBook :=
  match Order.create message with
  | .error exception => (.ok (.error exception.what), book)
  | .ok order =>
      match book.tryEmplace order.key order with
      | none => (.ok (.error (alreadyContains order.key)), book)
      | some inserted => (.ok (.ok ()), inserted)

/-- `order->second.update(message)`, an exception of which escapes. -/
def updateStored (book : OrderBook) (key : Bytes) (order : Order)
    (message : Message) : Result × OrderBook :=
  match order.update message with
  | (.error exception, updated) => (.error exception, book.store key updated)
  | (.ok (), updated) => (.ok (.ok ()), book.store key updated)

def processExecutionReport (book : OrderBook) (executionReport : Message) :
    Result × OrderBook :=
  match Order.keyForMessage executionReport true with
  | .error exception => (.error exception, book)
  | .ok key =>
      match book.orders.lookup key with
      | none => (.ok (.error (doesNotContain key)), book)
      | some order =>
          let execType := executionReport.fields.tryGet Tag.ExecType
          if execType.map Field.value = some ExecType.Replaced then
            match order.replace executionReport with
            | (.error exception, original) =>
                (.error exception, book.store key original)
            | (.ok replacement, original) =>
                let changed := book.store key original
                match changed.tryEmplace replacement.key replacement with
                | none =>
                    (.ok (.error (alreadyContains replacement.key)), changed)
                | some inserted => (.ok (.ok ()), inserted)
          else book.updateStored key order executionReport

def processRequest (book : OrderBook) (request : Message) :
    Result × OrderBook :=
  match Order.keyForMessage request false with
  | .error exception => (.error exception, book)
  | .ok key =>
      match book.orders.lookup key with
      | none => (.ok (.error (doesNotContain key)), book)
      | some order => book.updateStored key order request

def processOrderCancelRequest (book : OrderBook)
    (orderCancelRequest : Message) : Result × OrderBook :=
  book.processRequest orderCancelRequest

def processOrderCancelReplaceRequest (book : OrderBook)
    (orderCancelReplaceRequest : Message) : Result × OrderBook :=
  book.processRequest orderCancelReplaceRequest

/-- The error text of this handler leaves the key out. -/
def processOrderCancelReject (book : OrderBook)
    (orderCancelReject : Message) : Result × OrderBook :=
  match Order.keyForMessage orderCancelReject true with
  | .error exception => (.error exception, book)
  | .ok key =>
      match book.orders.lookup key with
      | none => (.ok (.error (doesNotContain [])), book)
      | some order => (.ok (.ok ()), book.store key order.rollback)

def process (book : OrderBook) (message : Message) : Result × OrderBook :=
  match message.fields.tryGet Tag.MsgType with
  | none => (.ok (.error (ascii "message does not have a MsgType field")), book)
  | some field =>
      if field.value = MsgType.NewOrderSingle then
        book.processOrderSingle message
      else if field.value = MsgType.ExecutionReport then
        book.processExecutionReport message
      else if field.value = MsgType.OrderCancelRequest then
        book.processOrderCancelRequest message
      else if field.value = MsgType.OrderCancelReplaceRequest then
        book.processOrderCancelReplaceRequest message
      else if field.value = MsgType.OrderCancelReject then
        book.processOrderCancelReject message
      else
        (.ok (.error (ascii "unsupported MsgType = " ++ field.value)), book)

/-- The books that calls of `process` on an empty book lead to. -/
inductive Reachable : OrderBook → Prop
  | empty : Reachable empty
  | process {book : OrderBook} (message : Message) (reachable : Reachable book) :
      Reachable (book.process message).2

/-! ### When a failing call leaves a trace -/

/-- The parts of an order that a failing call must not change. -/
def visible (order : Order) :
    FieldCollection × FieldCollection × Field × Option Field × Bytes ×
      List Message :=
  (order.fields, order.pendingFields, order.clOrdID, order.newClOrdID,
    order.key, order.messages)

def Unchanged (before after : OrderBook) : Prop :=
  ∀ key, (after.orders.lookup key).map visible =
    (before.orders.lookup key).map visible

def Addresses (book : OrderBook) (message : Message) (reverseCompIDs : Bool)
    (key : Bytes) (order : Order) : Prop :=
  Order.keyForMessage message reverseCompIDs = .ok key ∧
    book.orders.lookup key = some order

/-- An execution report that replaces an order whose replacement would get a
key that is taken. -/
def ReplacesOntoTakenKey (book : OrderBook) (message : Message) : Prop :=
  message.MsgType = .ok MsgType.ExecutionReport ∧
  (message.fields.tryGet Tag.ExecType).map Field.value = some ExecType.Replaced ∧
  ∃ key order, book.Addresses message true key order ∧
    order.replacementKey message ∈ book.orders

/-- A request to replace an order that has no ClOrdID of its own. -/
def RequestsWithoutClOrdID (book : OrderBook) (message : Message) : Prop :=
  message.MsgType = .ok MsgType.OrderCancelReplaceRequest ∧
  message.fields.tryGet Tag.ClOrdID = none ∧
  ∃ key order, book.Addresses message false key order

theorem not_unchanged_of_messages {before after : OrderBook} {key : Bytes}
    {old new : Order} (found : before.orders.lookup key = some old)
    (stored : after.orders.lookup key = some new)
    (grown : ∃ message, new.messages = old.messages ++ [message]) :
    ¬ Unchanged before after := by
  obtain ⟨message, grown⟩ := grown
  intro unchanged
  have same := unchanged key
  rw [found, stored] at same
  have history : new.messages = old.messages :=
    congrArg (fun parts => parts.2.2.2.2.2) (Option.some.inj same)
  rw [grown] at history
  simp at history

theorem lookup_store (book : OrderBook) (key : Bytes) (order : Order) :
    (book.store key order).orders.lookup key = some order :=
  AList.lookup_insert _

theorem mem_store_iff {book : OrderBook} {key other : Bytes} {old new : Order}
    (found : book.orders.lookup key = some old) :
    other ∈ (book.store key new).orders ↔ other ∈ book.orders := by
  have member : key ∈ book.orders := by
    rw [← AList.lookup_isSome, found]
    rfl
  unfold store
  rw [AList.mem_insert]
  constructor
  · rintro (rfl | inside)
    · exact member
    · exact inside
  · exact .inr

/-- Inserting fails exactly when the key is taken; a change of an order does
not matter. -/
theorem tryEmplace_store_eq_none_iff {book : OrderBook} {key other : Bytes}
    {old new added : Order} (found : book.orders.lookup key = some old) :
    (book.store key new).tryEmplace other added = none ↔
      other ∈ book.orders := by
  rw [← mem_store_iff found, ← AList.lookup_isSome]
  unfold tryEmplace
  cases (book.store key new).orders.lookup other with
  | none => simp
  | some taken => simp

/-! ### The handlers -/

theorem processOrderSingle_failed {book : OrderBook} {message : Message}
    (failed : Failed (book.processOrderSingle message).1) :
    (book.processOrderSingle message).2 = book := by
  unfold processOrderSingle at *
  cases created : Order.create message with
  | error exception => rfl
  | ok order =>
      simp only [created] at failed ⊢
      cases inserted : book.tryEmplace order.key order with
      | none => rfl
      | some after =>
          simp only [inserted] at failed
          exact absurd rfl failed

theorem processOrderCancelReject_failed {book : OrderBook} {message : Message}
    (failed : Failed (book.processOrderCancelReject message).1) :
    (book.processOrderCancelReject message).2 = book := by
  unfold processOrderCancelReject at *
  cases addressed : Order.keyForMessage message true with
  | error exception => rfl
  | ok key =>
      simp only [addressed] at failed ⊢
      cases found : book.orders.lookup key with
      | none => rfl
      | some order =>
          simp only [found] at failed
          exact absurd rfl failed

/-- `updateStored` fails exactly when the update is refused, and the update is
recorded in either case. -/
theorem updateStored_spec (book : OrderBook) (key : Bytes) (order : Order)
    (message : Message) :
    (Failed (book.updateStored key order message).1 ↔
        (order.update message).1 ≠ .ok ()) ∧
      (book.updateStored key order message).2.orders.lookup key =
        some (order.update message).2 := by
  unfold updateStored
  cases (order.update message) with
  | mk result updated =>
      cases result with
      | error exception =>
          exact ⟨by simp [Failed], lookup_store book key updated⟩
      | ok done => exact ⟨by simp [Failed], lookup_store book key updated⟩

theorem processRequest_failed {book : OrderBook} {message : Message}
    {msgType : Bytes} (type : message.MsgType = .ok msgType)
    (failed : Failed (book.processRequest message).1) :
    (book.processRequest message).2 = book ∨
      (msgType = MsgType.OrderCancelReplaceRequest ∧
        message.fields.tryGet Tag.ClOrdID = none ∧
        ∃ key order, book.Addresses message false key order) := by
  unfold processRequest at *
  cases addressed : Order.keyForMessage message false with
  | error exception => exact .inl rfl
  | ok key =>
      simp only [addressed] at failed ⊢
      cases found : book.orders.lookup key with
      | none => exact .inl rfl
      | some order =>
          simp only [found] at failed
          have refused := (updateStored_spec book key order message).1.mp failed
          obtain ⟨replace, missing⟩ := (Order.update_refused_iff type).mp refused
          exact .inr ⟨replace, missing, key, order, addressed, found⟩

theorem processRequest_of_missing {book : OrderBook} {message : Message}
    {key : Bytes} {order : Order}
    (type : message.MsgType = .ok MsgType.OrderCancelReplaceRequest)
    (missing : message.fields.tryGet Tag.ClOrdID = none)
    (addresses : book.Addresses message false key order) :
    Failed (book.processRequest message).1 ∧
      ¬ Unchanged book (book.processRequest message).2 := by
  obtain ⟨addressed, found⟩ := addresses
  obtain ⟨failed, stored⟩ := updateStored_spec book key order message
  have refused : (order.update message).1 ≠ .ok () :=
    (Order.update_refused_iff type).mpr ⟨rfl, missing⟩
  simp only [processRequest, addressed, found]
  exact ⟨failed.mpr refused, not_unchanged_of_messages found stored
    ⟨message, Order.update_messages order message⟩⟩

theorem processExecutionReport_failed {book : OrderBook} {message : Message}
    (type : message.MsgType = .ok MsgType.ExecutionReport)
    (failed : Failed (book.processExecutionReport message).1) :
    (book.processExecutionReport message).2 = book ∨
      book.ReplacesOntoTakenKey message := by
  unfold processExecutionReport at *
  cases addressed : Order.keyForMessage message true with
  | error exception => exact .inl rfl
  | ok key =>
      simp only [addressed] at failed ⊢
      cases found : book.orders.lookup key with
      | none => exact .inl rfl
      | some order =>
          simp only [found] at failed
          by_cases replaced : (message.fields.tryGet Tag.ExecType).map Field.value =
              some ExecType.Replaced
          · obtain ⟨replacement, original, result, newKey, -⟩ :=
              Order.replace_spec order type
            rw [if_pos replaced, result] at failed
            simp only at failed
            cases inserted : (book.store key original).tryEmplace replacement.key
                replacement with
            | some after =>
                rw [inserted] at failed
                exact absurd rfl failed
            | none =>
                refine .inr ⟨type, replaced, key, order, ⟨addressed, found⟩, ?_⟩
                rw [← newKey]
                exact (tryEmplace_store_eq_none_iff found).mp inserted
          · rw [if_neg replaced] at failed
            have refused := (updateStored_spec book key order message).1.mp failed
            obtain ⟨impossible, -⟩ := (Order.update_refused_iff type).mp refused
            contradiction

theorem processExecutionReport_of_taken {book : OrderBook} {message : Message}
    (taken : book.ReplacesOntoTakenKey message) :
    Failed (book.processExecutionReport message).1 ∧
      ¬ Unchanged book (book.processExecutionReport message).2 := by
  obtain ⟨type, replaced, key, order, ⟨addressed, found⟩, member⟩ := taken
  obtain ⟨replacement, original, result, newKey, messages⟩ :=
    Order.replace_spec order type
  have none : (book.store key original).tryEmplace replacement.key replacement =
      none := by
    rw [newKey]
    exact (tryEmplace_store_eq_none_iff found).mpr member
  have outcome : book.processExecutionReport message =
      (.ok (.error (alreadyContains replacement.key)),
        book.store key original) := by
    simp only [processExecutionReport, addressed, found, if_pos replaced, result,
      none]
  rw [outcome]
  refine ⟨by simp [Failed], ?_⟩
  exact not_unchanged_of_messages found (lookup_store book key original)
    ⟨message, messages⟩

/-! ### Every call -/

theorem msgType_of_tryGet {message : Message} {field : Field}
    (found : message.fields.tryGet Tag.MsgType = some field) :
    message.MsgType = .ok field.value :=
  (message.requireField_eq_ok_iff _ _ _).mpr ⟨field, found, rfl⟩

theorem process_failed {book : OrderBook} {message : Message}
    (failed : Failed (book.process message).1) :
    (book.process message).2 = book ∨ book.ReplacesOntoTakenKey message ∨
      book.RequestsWithoutClOrdID message := by
  unfold process at *
  cases found : message.fields.tryGet Tag.MsgType with
  | none => exact .inl rfl
  | some field =>
      have type := msgType_of_tryGet found
      simp only [found] at failed ⊢
      by_cases single : field.value = MsgType.NewOrderSingle
      · rw [if_pos single] at failed ⊢
        exact .inl (processOrderSingle_failed failed)
      · rw [if_neg single] at failed ⊢
        by_cases report : field.value = MsgType.ExecutionReport
        · rw [if_pos report] at failed ⊢
          rw [report] at type
          rcases processExecutionReport_failed type failed with same | taken
          · exact .inl same
          · exact .inr (.inl taken)
        · rw [if_neg report] at failed ⊢
          by_cases cancel : field.value = MsgType.OrderCancelRequest
          · rw [if_pos cancel] at failed ⊢
            rcases processRequest_failed type failed with same | ⟨replace, -⟩
            · exact .inl same
            · rw [cancel] at replace
              contradiction
          · rw [if_neg cancel] at failed ⊢
            by_cases replace : field.value = MsgType.OrderCancelReplaceRequest
            · rw [if_pos replace] at failed ⊢
              rcases processRequest_failed type failed with
                same | ⟨-, missing, addressed⟩
              · exact .inl same
              · rw [replace] at type
                exact .inr (.inr ⟨type, missing, addressed⟩)
            · rw [if_neg replace] at failed ⊢
              by_cases reject : field.value = MsgType.OrderCancelReject
              · rw [if_pos reject] at failed ⊢
                exact .inl (processOrderCancelReject_failed failed)
              · rw [if_neg reject] at failed ⊢
                exact .inl rfl

theorem process_of_msgType {book : OrderBook} {message : Message}
    {msgType : Bytes} (type : message.MsgType = .ok msgType) :
    (msgType = MsgType.ExecutionReport →
        book.process message = book.processExecutionReport message) ∧
      (msgType = MsgType.OrderCancelReplaceRequest →
        book.process message = book.processRequest message) := by
  obtain ⟨field, found, rfl⟩ := (message.requireField_eq_ok_iff _ _ _).mp type
  unfold process
  rw [found]
  constructor
  · intro report
    simp only
    rw [report, if_neg (by decide), if_pos rfl]
  · intro replace
    simp only
    rw [replace, if_neg (by decide), if_neg (by decide), if_neg (by decide),
      if_pos rfl]
    rfl

theorem process_of_trace {book : OrderBook} {message : Message}
    (trace : book.ReplacesOntoTakenKey message ∨
      book.RequestsWithoutClOrdID message) :
    Failed (book.process message).1 ∧
      ¬ Unchanged book (book.process message).2 := by
  rcases trace with taken | ⟨type, missing, key, order, addresses⟩
  · rw [(process_of_msgType taken.1).1 rfl]
    exact processExecutionReport_of_taken taken
  · rw [(process_of_msgType type).2 rfl]
    exact processRequest_of_missing type missing addresses

/-- A failing call leaves the book unchanged, unless it is a report that
replaces an order onto a taken key or a request to replace an order that has no
ClOrdID. -/
theorem unchanged_of_failed_iff (book : OrderBook) (message : Message) :
    (Failed (book.process message).1 →
        Unchanged book (book.process message).2) ↔
      ¬ (book.ReplacesOntoTakenKey message ∨
        book.RequestsWithoutClOrdID message) := by
  constructor
  · intro kept trace
    obtain ⟨failed, changed⟩ := process_of_trace trace
    exact changed (kept failed)
  · intro none failed
    rcases process_failed failed with same | trace
    · rw [same]
      exact fun _ => rfl
    · exact absurd trace none

/-! ### A replacement that is reported twice -/

def orderSingle : Message :=
  { Message.empty with
    fields := [⟨Tag.BeginString, ascii "FIX.4.4"⟩,
      ⟨Tag.MsgType, MsgType.NewOrderSingle⟩, ⟨Tag.SenderCompID, ascii "A"⟩,
      ⟨Tag.TargetCompID, ascii "B"⟩, ⟨Tag.ClOrdID, ascii "1"⟩] }

def replacedReport : Message :=
  { Message.empty with
    fields := [⟨Tag.MsgType, MsgType.ExecutionReport⟩,
      ⟨Tag.SenderCompID, ascii "B"⟩, ⟨Tag.TargetCompID, ascii "A"⟩,
      ⟨Tag.ClOrdID, ascii "1"⟩, ⟨Tag.ExecType, ExecType.Replaced⟩] }

theorem reachable_changed_by_failure :
    Reachable (empty.process orderSingle).2 ∧
      Failed ((empty.process orderSingle).2.process replacedReport).1 ∧
      ¬ Unchanged (empty.process orderSingle).2
        ((empty.process orderSingle).2.process replacedReport).2 := by
  refine ⟨.process orderSingle .empty, by decide, ?_⟩
  have recorded :
      (((empty.process orderSingle).2.process replacedReport).2.orders.lookup
          (ascii "A-B-1")).map (fun order => order.messages.length) ≠
        ((empty.process orderSingle).2.orders.lookup (ascii "A-B-1")).map
          fun order => order.messages.length := by
    decide
  intro unchanged
  have same := congrArg
    (Option.map fun parts : FieldCollection × FieldCollection × Field ×
      Option Field × Bytes × List Message => parts.2.2.2.2.2.length)
    (unchanged (ascii "A-B-1"))
  rw [Option.map_map, Option.map_map] at same
  exact recorded same

end OrderBook

end Crocofix

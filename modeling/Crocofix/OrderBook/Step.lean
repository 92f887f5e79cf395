/-
The ways in which a call of `process` can leave an order book.
-/

import Crocofix.OrderBook

namespace Crocofix

open Numeral

namespace Order

/-! ### The parts of a replacement -/

/-- The copy of the order with everything that was requested and reported. -/
def committed (order : Order) (executionReport : Message) : Order :=
  ({ order with messages := order.messages ++ [executionReport] }.updateFields
    executionReport.fields).commit

def replacementClOrdID (order : Order) (executionReport : Message) :
    Option Field :=
  order.newClOrdID.or (executionReport.fields.tryGet Tag.ClOrdID)

def named (order : Order) (executionReport : Message) : Order :=
  match order.replacementClOrdID executionReport with
  | some clOrdID => (order.committed executionReport).renamed clOrdID
  | none => order.committed executionReport

def replacedBy (order : Order) (executionReport : Message) : Order :=
  { order.rollback.setOrdStatus OrdStatus.Replaced with
    messages := order.messages ++ [executionReport] }

theorem replace_eq (order : Order) {executionReport : Message}
    (typed : executionReport.MsgType = .ok MsgType.ExecutionReport) :
    order.replace executionReport =
      (.ok ({ order.named executionReport with
          key := order.replacementKey executionReport }.setOrdStatus
            OrdStatus.New),
        order.replacedBy executionReport) := by
  have updated := update_of_other order typed (by decide) (by decide)
  unfold replace
  rw [updated]
  simp only [rollback_newClOrdID, named, replacementClOrdID, replacementKey]
  congr 1
  · rcases order with ⟨messages, key, beginString, senderCompID, targetCompID,
      clOrdID, origClOrdID, previousOrdStatus, newClOrdID, fields, pendingFields⟩
    cases newClOrdID with
    | some field => rfl
    | none =>
        cases executionReport.fields.tryGet Tag.ClOrdID with
        | some field => rfl
        | none => rfl
  · unfold replacedBy
    rw [← rollback_messages order]
    rfl

end Order

namespace OrderBook

/-- The message is a report that replaces the order it addresses. -/
def ReportsReplaced (message : Message) : Prop :=
  message.MsgType = .ok MsgType.ExecutionReport ∧
    (message.fields.tryGet Tag.ExecType).map Field.value = some ExecType.Replaced

/-- The messages that `order::update` is called with, and whether their CompIDs
are reversed. -/
def Updates (message : Message) (reverseCompIDs : Bool) : Prop :=
  message.MsgType = .ok MsgType.ExecutionReport ∧ reverseCompIDs = true ∧
      (message.fields.tryGet Tag.ExecType).map Field.value ≠
        some ExecType.Replaced ∨
    (message.MsgType = .ok MsgType.OrderCancelRequest ∨
      message.MsgType = .ok MsgType.OrderCancelReplaceRequest) ∧
        reverseCompIDs = false

/-- The messages that address an order, and whether their CompIDs are
reversed. -/
def Concerns (message : Message) (reverseCompIDs : Bool) : Prop :=
  (message.MsgType = .ok MsgType.ExecutionReport ∨
      message.MsgType = .ok MsgType.OrderCancelReject) ∧ reverseCompIDs = true ∨
    (message.MsgType = .ok MsgType.OrderCancelRequest ∨
      message.MsgType = .ok MsgType.OrderCancelReplaceRequest) ∧
        reverseCompIDs = false

/-- Why a call leaves the book alone: no order is addressed and none added. -/
structure Ignores (book : OrderBook) (message : Message) : Prop where
  unaddressed : ∀ reverseCompIDs key order, Concerns message reverseCompIDs →
    ¬ book.Addresses message reverseCompIDs key order
  taken : ∀ order, message.MsgType = .ok MsgType.NewOrderSingle →
    Order.create message = .ok order → order.key ∈ book.orders

/-- What a call does to the book, and whether it fails. -/
inductive Effect (book : OrderBook) (message : Message) :
    Result × OrderBook → Prop
  | ignored {result : Result} (failed : Failed result)
      (ignores : Ignores book message) : Effect book message (result, book)
  | created (order : Order)
      (typed : message.MsgType = .ok MsgType.NewOrderSingle)
      (constructed : Order.create message = .ok order)
      (free : book.orders.lookup order.key = none) :
      Effect book message (.ok (.ok ()), book.store order.key order)
  | updated {result : Result} (reverseCompIDs : Bool) (key : Bytes)
      (order : Order) (updates : Updates message reverseCompIDs)
      (addresses : book.Addresses message reverseCompIDs key order)
      (refused : Failed result ↔ (order.update message).1 ≠ .ok ()) :
      Effect book message
        (result, book.store key (order.update message).2)
  | replaced (key : Bytes) (order replacement original : Order)
      (reports : ReportsReplaced message)
      (addresses : book.Addresses message true key order)
      (divided : order.replace message = (.ok replacement, original))
      (free : book.orders.lookup replacement.key = none) :
      Effect book message
        (.ok (.ok ()),
          (book.store key original).store replacement.key replacement)
  | refused {result : Result} (failed : Failed result) (key : Bytes)
      (order replacement original : Order) (reports : ReportsReplaced message)
      (addresses : book.Addresses message true key order)
      (divided : order.replace message = (.ok replacement, original))
      (taken : replacement.key ∈ book.orders) :
      Effect book message (result, book.store key original)
  | rejected (key : Bytes) (order : Order)
      (typed : message.MsgType = .ok MsgType.OrderCancelReject)
      (addresses : book.Addresses message true key order) :
      Effect book message (.ok (.ok ()), book.store key order.rollback)

theorem lookup_store_ne {book : OrderBook} {key other : Bytes} (order : Order)
    (differs : other ≠ key) :
    (book.store key order).orders.lookup other = book.orders.lookup other :=
  AList.lookup_insert_ne differs

theorem mem_orders_of_lookup {book : OrderBook} {key : Bytes} {order : Order}
    (found : book.orders.lookup key = some order) : key ∈ book.orders := by
  rw [← AList.lookup_isSome, found]
  rfl

theorem not_typed {message : Message} {msgType other : Bytes}
    (typed : message.MsgType = .ok msgType) (differs : msgType ≠ other) :
    message.MsgType ≠ .ok other := by
  intro again
  rw [typed] at again
  injection again with same
  exact differs same

theorem not_concerns {message : Message} {msgType : Bytes}
    (typed : message.MsgType = .ok msgType)
    (others : msgType ∉ [MsgType.ExecutionReport, MsgType.OrderCancelRequest,
      MsgType.OrderCancelReplaceRequest, MsgType.OrderCancelReject])
    (reverseCompIDs : Bool) : ¬ Concerns message reverseCompIDs := by
  rintro (⟨other | other, -⟩ | ⟨other | other, -⟩)
  · exact not_typed typed (by rintro rfl; exact others (by decide)) other
  · exact not_typed typed (by rintro rfl; exact others (by decide)) other
  · exact not_typed typed (by rintro rfl; exact others (by decide)) other
  · exact not_typed typed (by rintro rfl; exact others (by decide)) other

/-! ### The handlers -/

theorem ignores_of_other {book : OrderBook} {message : Message} {msgType : Bytes}
    (typed : message.MsgType = .ok msgType)
    (others : msgType ∉ [MsgType.NewOrderSingle, MsgType.ExecutionReport,
      MsgType.OrderCancelRequest, MsgType.OrderCancelReplaceRequest,
      MsgType.OrderCancelReject]) : Ignores book message where
  unaddressed := by
    intro reverseCompIDs key order concerns
    exact absurd concerns
      (not_concerns typed (fun member => others (List.mem_cons_of_mem _ member)) _)
  taken := by
    intro order single
    rw [typed] at single
    injection single with same
    rw [same] at others
    exact absurd (by decide) others

/-- A message of the four types that address an order is ignored where it
addresses none. -/
theorem ignores_of_unaddressed {book : OrderBook} {message : Message}
    {msgType : Bytes} {reverseCompIDs : Bool}
    (typed : message.MsgType = .ok msgType)
    (notSingle : msgType ≠ MsgType.NewOrderSingle)
    (reversed : ∀ other, Concerns message other → other = reverseCompIDs)
    (unaddressed : ∀ key order,
      ¬ book.Addresses message reverseCompIDs key order) :
    Ignores book message where
  unaddressed := by
    intro other key order concerns
    rw [reversed other concerns]
    exact unaddressed key order
  taken := by
    intro order single
    rw [typed] at single
    injection single with same
    exact absurd same notSingle

theorem unaddressed_of_error {book : OrderBook} {message : Message}
    {reverseCompIDs : Bool} {exception : Exception}
    (missing : Order.keyForMessage message reverseCompIDs = .error exception)
    (key : Bytes) (order : Order) :
    ¬ book.Addresses message reverseCompIDs key order := by
  rintro ⟨addressed, -⟩
  rw [missing] at addressed
  cases addressed

theorem unaddressed_of_none {book : OrderBook} {message : Message}
    {reverseCompIDs : Bool} {key : Bytes}
    (addressed : Order.keyForMessage message reverseCompIDs = .ok key)
    (absent : book.orders.lookup key = none) (other : Bytes) (order : Order) :
    ¬ book.Addresses message reverseCompIDs other order := by
  rintro ⟨again, found⟩
  rw [addressed] at again
  injection again with same
  rw [← same, absent] at found
  cases found

theorem not_requests_of_reports {message : Message}
    (reports : message.MsgType = .ok MsgType.ExecutionReport ∨
      message.MsgType = .ok MsgType.OrderCancelReject) :
    ¬ (message.MsgType = .ok MsgType.OrderCancelRequest ∨
      message.MsgType = .ok MsgType.OrderCancelReplaceRequest) := by
  intro requests
  rcases reports with typed | typed
  · rcases requests with other | other
    · exact not_typed typed (by decide) other
    · exact not_typed typed (by decide) other
  · rcases requests with other | other
    · exact not_typed typed (by decide) other
    · exact not_typed typed (by decide) other

theorem concerns_of_report {message : Message} {msgType : Bytes}
    (typed : message.MsgType = .ok msgType)
    (reports : msgType = MsgType.ExecutionReport ∨
      msgType = MsgType.OrderCancelReject) (reverseCompIDs : Bool)
    (concerns : Concerns message reverseCompIDs) : reverseCompIDs = true := by
  rcases concerns with ⟨-, reversed⟩ | ⟨requests, -⟩
  · exact reversed
  · rcases reports with rfl | rfl
    · exact absurd requests (not_requests_of_reports (.inl typed))
    · exact absurd requests (not_requests_of_reports (.inr typed))

theorem concerns_of_request {message : Message}
    (requests : message.MsgType = .ok MsgType.OrderCancelRequest ∨
      message.MsgType = .ok MsgType.OrderCancelReplaceRequest)
    (reverseCompIDs : Bool) (concerns : Concerns message reverseCompIDs) :
    reverseCompIDs = false := by
  rcases concerns with ⟨reports, -⟩ | ⟨-, plain⟩
  · exact absurd requests (not_requests_of_reports reports)
  · exact plain

theorem processOrderSingle_effect (book : OrderBook) {message : Message}
    (typed : message.MsgType = .ok MsgType.NewOrderSingle) :
    Effect book message (book.processOrderSingle message) := by
  have unaddressed : ∀ reverseCompIDs key order, Concerns message reverseCompIDs →
      ¬ book.Addresses message reverseCompIDs key order := by
    intro reverseCompIDs key order concerns
    exact absurd concerns (not_concerns typed (by decide) reverseCompIDs)
  unfold processOrderSingle
  cases constructed : Order.create message with
  | error exception =>
      refine .ignored (by simp [Failed]) ⟨unaddressed, ?_⟩
      intro order _ created
      rw [constructed] at created
      cases created
  | ok order =>
      unfold tryEmplace
      cases free : book.orders.lookup order.key with
      | none =>
          simp only [free]
          exact .created order typed constructed free
      | some taken =>
          simp only [free]
          refine .ignored (by simp [Failed]) ⟨unaddressed, ?_⟩
          intro other _ created
          rw [constructed] at created
          injection created with same
          rw [← same]
          exact mem_orders_of_lookup free

theorem updateStored_effect {book : OrderBook} {message : Message}
    {reverseCompIDs : Bool} {key : Bytes} {order : Order}
    (updates : Updates message reverseCompIDs)
    (addresses : book.Addresses message reverseCompIDs key order) :
    Effect book message (book.updateStored key order message) := by
  have stored : book.updateStored key order message =
      ((book.updateStored key order message).1,
        book.store key (order.update message).2) := by
    unfold updateStored
    cases order.update message with
    | mk result updated =>
        cases result with
        | error exception => rfl
        | ok done => rfl
  rw [stored]
  exact .updated reverseCompIDs key order updates addresses
    (updateStored_spec book key order message).1

theorem processRequest_effect (book : OrderBook) {message : Message}
    (requests : message.MsgType = .ok MsgType.OrderCancelRequest ∨
      message.MsgType = .ok MsgType.OrderCancelReplaceRequest) :
    Effect book message (book.processRequest message) := by
  have ignores (unaddressed : ∀ key order,
      ¬ book.Addresses message false key order) : Ignores book message := by
    rcases requests with typed | typed
    · exact ignores_of_unaddressed typed (by decide)
        (concerns_of_request (.inl typed)) unaddressed
    · exact ignores_of_unaddressed typed (by decide)
        (concerns_of_request (.inr typed)) unaddressed
  unfold processRequest
  cases addressed : Order.keyForMessage message false with
  | error exception =>
      exact .ignored (by simp [Failed]) (ignores (unaddressed_of_error addressed))
  | ok key =>
      cases found : book.orders.lookup key with
      | none =>
          simp only [found]
          exact .ignored (by simp [Failed])
            (ignores (unaddressed_of_none addressed found))
      | some order =>
          simp only [found]
          exact updateStored_effect (.inr ⟨requests, rfl⟩) ⟨addressed, found⟩

theorem processOrderCancelReject_effect (book : OrderBook) {message : Message}
    (typed : message.MsgType = .ok MsgType.OrderCancelReject) :
    Effect book message (book.processOrderCancelReject message) := by
  have ignores := @ignores_of_unaddressed book message _ true typed (by decide)
    (concerns_of_report typed (.inr rfl))
  unfold processOrderCancelReject
  cases addressed : Order.keyForMessage message true with
  | error exception =>
      exact .ignored (by simp [Failed]) (ignores (unaddressed_of_error addressed))
  | ok key =>
      cases found : book.orders.lookup key with
      | none =>
          simp only [found]
          exact .ignored (by simp [Failed])
            (ignores (unaddressed_of_none addressed found))
      | some order =>
          simp only [found]
          exact .rejected key order typed ⟨addressed, found⟩

theorem processExecutionReport_effect (book : OrderBook) {message : Message}
    (typed : message.MsgType = .ok MsgType.ExecutionReport) :
    Effect book message (book.processExecutionReport message) := by
  have ignores := @ignores_of_unaddressed book message _ true typed (by decide)
    (concerns_of_report typed (.inl rfl))
  unfold processExecutionReport
  cases addressed : Order.keyForMessage message true with
  | error exception =>
      exact .ignored (by simp [Failed]) (ignores (unaddressed_of_error addressed))
  | ok key =>
      cases found : book.orders.lookup key with
      | none =>
          simp only [found]
          exact .ignored (by simp [Failed])
            (ignores (unaddressed_of_none addressed found))
      | some order =>
          simp only [found]
          by_cases replaced : (message.fields.tryGet Tag.ExecType).map Field.value =
              some ExecType.Replaced
          · obtain ⟨replacement, original, divided, -, -⟩ :=
              Order.replace_spec order typed
            rw [if_pos replaced, divided]
            simp only
            cases inserted : (book.store key original).tryEmplace replacement.key
                replacement with
            | none =>
                exact .refused (by simp [Failed]) key order replacement original
                  ⟨typed, replaced⟩ ⟨addressed, found⟩ divided
                  ((tryEmplace_store_eq_none_iff found).mp inserted)
            | some after =>
                have notTaken : replacement.key ∉ book.orders := by
                  intro taken
                  rw [(tryEmplace_store_eq_none_iff found).mpr taken] at inserted
                  cases inserted
                have free : book.orders.lookup replacement.key = none :=
                  AList.lookup_eq_none.mpr notTaken
                have same : after =
                    (book.store key original).store replacement.key replacement := by
                  unfold tryEmplace at inserted
                  split at inserted
                  · cases inserted
                  · injection inserted with same
                    exact same.symm
                rw [same]
                exact .replaced key order replacement original ⟨typed, replaced⟩
                  ⟨addressed, found⟩ divided free
          · rw [if_neg replaced]
            exact updateStored_effect (.inl ⟨typed, rfl, replaced⟩)
              ⟨addressed, found⟩

theorem process_effect (book : OrderBook) (message : Message) :
    Effect book message (book.process message) := by
  unfold process
  cases found : message.fields.tryGet Tag.MsgType with
  | none =>
      have untyped (msgType : Bytes) : message.MsgType ≠ .ok msgType := by
        intro typed
        obtain ⟨field, again, -⟩ := (message.requireField_eq_ok_iff _ _ _).mp typed
        rw [found] at again
        cases again
      refine .ignored (by simp [Failed]) ⟨?_, ?_⟩
      · intro reverseCompIDs key order concerns
        rcases concerns with ⟨typed | typed, -⟩ | ⟨typed | typed, -⟩
        · exact absurd typed (untyped _)
        · exact absurd typed (untyped _)
        · exact absurd typed (untyped _)
        · exact absurd typed (untyped _)
      · intro order typed
        exact absurd typed (untyped _)
  | some field =>
      have type := msgType_of_tryGet found
      simp only
      by_cases single : field.value = MsgType.NewOrderSingle
      · rw [if_pos single]
        rw [single] at type
        exact processOrderSingle_effect book type
      · rw [if_neg single]
        by_cases report : field.value = MsgType.ExecutionReport
        · rw [if_pos report]
          rw [report] at type
          exact processExecutionReport_effect book type
        · rw [if_neg report]
          by_cases cancel : field.value = MsgType.OrderCancelRequest
          · rw [if_pos cancel]
            rw [cancel] at type
            exact processRequest_effect book (.inl type)
          · rw [if_neg cancel]
            by_cases replace : field.value = MsgType.OrderCancelReplaceRequest
            · rw [if_pos replace]
              rw [replace] at type
              exact processRequest_effect book (.inr type)
            · rw [if_neg replace]
              by_cases reject : field.value = MsgType.OrderCancelReject
              · rw [if_pos reject]
                rw [reject] at type
                exact processOrderCancelReject_effect book type
              · rw [if_neg reject]
                apply Effect.ignored (by simp [Failed])
                apply ignores_of_other type
                simp only [List.mem_cons, List.not_mem_nil, or_false, not_or]
                exact ⟨single, report, cancel, replace, reject⟩

/-- What holds of every stored order still does after a call, if it survives
each of the operations on an order. -/
theorem process_forall {holds : Bytes → Order → Prop} (book : OrderBook)
    (message : Message)
    (before : ∀ key order, book.orders.lookup key = some order → holds key order)
    (created : ∀ order, message.MsgType = .ok MsgType.NewOrderSingle →
      Order.create message = .ok order → holds order.key order)
    (updated : ∀ key order reverseCompIDs, Updates message reverseCompIDs →
      book.Addresses message reverseCompIDs key order → holds key order →
        holds key (order.update message).2)
    (behind : ∀ key order replacement original, ReportsReplaced message →
      book.Addresses message true key order →
        order.replace message = (.ok replacement, original) → holds key order →
          holds key original)
    (renewed : ∀ key order replacement original, ReportsReplaced message →
      book.Addresses message true key order → replacement.key ≠ key →
        order.replace message = (.ok replacement, original) → holds key order →
          holds replacement.key replacement)
    (rejected : ∀ key order, message.MsgType = .ok MsgType.OrderCancelReject →
      book.Addresses message true key order → holds key order →
        holds key order.rollback) :
    ∀ key order, (book.process message).2.orders.lookup key = some order →
      holds key order := by
  have stored {current : OrderBook} {key : Bytes} {order : Order}
      (others : ∀ key order, current.orders.lookup key = some order →
        holds key order) (one : holds key order) :
      ∀ other found, (current.store key order).orders.lookup other = some found →
        holds other found := by
    intro other found lookup
    by_cases same : other = key
    · rw [same, lookup_store] at lookup
      injection lookup with equal
      rw [same, ← equal]
      exact one
    · rw [lookup_store_ne order same] at lookup
      exact others other found lookup
  have effect := process_effect book message
  revert effect
  generalize book.process message = called
  intro effect
  cases effect with
  | ignored failed ignores => exact before
  | created order typed constructed free =>
      exact stored before (created order typed constructed)
  | updated reverseCompIDs key order updates addresses refused =>
      exact stored before (updated key order reverseCompIDs updates addresses
        (before key order addresses.2))
  | replaced key order replacement original reports addresses divided free =>
      have differs : replacement.key ≠ key := by
        intro same
        rw [same, addresses.2] at free
        cases free
      exact stored
        (stored before (behind key order replacement original reports addresses
          divided (before key order addresses.2)))
        (renewed key order replacement original reports addresses differs divided
          (before key order addresses.2))
  | refused failed key order replacement original reports addresses divided taken =>
      exact stored before (behind key order replacement original reports
        addresses divided (before key order addresses.2))
  | rejected key order typed addresses =>
      exact stored before (rejected key order typed addresses
        (before key order addresses.2))

/-! ### Runs -/

def processAll (book : OrderBook) (messages : List Message) : OrderBook :=
  messages.foldl (fun current message => (current.process message).2) book

theorem processAll_concat (book : OrderBook) (messages : List Message)
    (message : Message) :
    book.processAll (messages ++ [message]) =
      ((book.processAll messages).process message).2 := by
  unfold processAll
  rw [List.foldl_append]
  rfl

theorem processAll_invariant {holds : OrderBook → Prop} {book : OrderBook}
    {messages : List Message} (initially : holds book)
    (preserved : ∀ message ∈ messages, ∀ current, holds current →
      holds (current.process message).2) : holds (book.processAll messages) := by
  induction messages generalizing book with
  | nil => exact initially
  | cons message rest ih =>
      exact ih (preserved message List.mem_cons_self book initially)
        fun other member => preserved other (List.mem_cons_of_mem _ member)

theorem reachable_processAll {book : OrderBook} (reachable : Reachable book)
    (messages : List Message) : Reachable (book.processAll messages) := by
  induction messages generalizing book with
  | nil => exact reachable
  | cons message rest ih => exact ih (.process message reachable)

end OrderBook

end Crocofix

/-
The calls that answer, with a result or with an error text, and the calls that
an exception escapes from.

Only the handler of single orders catches what a lookup throws.  The others look
up what names an order, and a request to replace an order is looked into again
once the order is found.
-/

import Crocofix.OrderBook.Step

namespace Crocofix

open Numeral

namespace Order

/-- A field is missing without which a message names no order. -/
def Unaddressable (message : Message) : Prop :=
  message.fields.tryGet Tag.SenderCompID = none ∨
    message.fields.tryGet Tag.TargetCompID = none ∨
      (message.fields.tryGet Tag.OrigClOrdID = none ∧
        message.fields.tryGet Tag.ClOrdID = none)

instance (message : Message) : Decidable (Unaddressable message) :=
  inferInstanceAs (Decidable (_ ∨ _ ∨ _ ∧ _))

theorem keyForMessage_throws_iff (message : Message) (reverseCompIDs : Bool) :
    (∃ exception, keyForMessage message reverseCompIDs = .error exception) ↔
      Unaddressable message := by
  have returns {missing : Prop} (key : Bytes) (complete : ¬ missing) :
      (∃ exception, (Except.ok key : Except Exception Bytes) = .error exception) ↔
        missing := by
    constructor
    · rintro ⟨exception, impossible⟩
      cases impossible
    · intro incomplete
      exact absurd incomplete complete
  unfold keyForMessage Unaddressable FieldCollection.get
  cases message.fields.tryGet Tag.SenderCompID with
  | none => exact ⟨fun _ => .inl rfl, fun _ => ⟨_, rfl⟩⟩
  | some senderCompID =>
  cases message.fields.tryGet Tag.TargetCompID with
  | none => exact ⟨fun _ => .inr (.inl rfl), fun _ => ⟨_, rfl⟩⟩
  | some targetCompID =>
  cases message.fields.tryGet Tag.OrigClOrdID with
  | some origClOrdID =>
      cases reverseCompIDs with
      | true => exact returns _ (by simp)
      | false => exact returns _ (by simp)
  | none =>
      cases message.fields.tryGet Tag.ClOrdID with
      | none => exact ⟨fun _ => .inr (.inr ⟨rfl, rfl⟩), fun _ => ⟨_, rfl⟩⟩
      | some clOrdID =>
          cases reverseCompIDs with
          | true => exact returns _ (by simp)
          | false => exact returns _ (by simp)

def constructorFields : List Int32 :=
  [Tag.BeginString, Tag.SenderCompID, Tag.TargetCompID, Tag.ClOrdID]

theorem create_throws {message : Message} {tag : Int32}
    (got : tag ∈ constructorFields) (missing : message.fields.tryGet tag = none) :
    ∃ exception, create message = .error exception := by
  have throws : ∃ exception, message.fields.get tag = .error exception := by
    unfold FieldCollection.get
    rw [missing]
    exact ⟨_, rfl⟩
  obtain ⟨exception, throws⟩ := throws
  unfold create
  simp only [constructorFields, List.mem_cons, List.not_mem_nil, or_false] at got
  cases begins : message.fields.get Tag.BeginString with
  | error exception => exact ⟨exception, rfl⟩
  | ok beginString =>
  cases sends : message.fields.get Tag.SenderCompID with
  | error exception => exact ⟨exception, rfl⟩
  | ok senderCompID =>
  cases targets : message.fields.get Tag.TargetCompID with
  | error exception => exact ⟨exception, rfl⟩
  | ok targetCompID =>
  cases names : message.fields.get Tag.ClOrdID with
  | error exception => exact ⟨exception, rfl⟩
  | ok clOrdID =>
      rcases got with rfl | rfl | rfl | rfl
      · rw [begins] at throws
        cases throws
      · rw [sends] at throws
        cases throws
      · rw [targets] at throws
        cases throws
      · rw [names] at throws
        cases throws

end Order

namespace OrderBook

open Crocofix.Order (Unaddressable constructorFields)

/-! ### The handler of a message -/

inductive Handler (message : Message) : (OrderBook → Result × OrderBook) → Prop
  | single (typed : message.MsgType = .ok MsgType.NewOrderSingle) :
      Handler message fun book => book.processOrderSingle message
  | report (typed : message.MsgType = .ok MsgType.ExecutionReport) :
      Handler message fun book => book.processExecutionReport message
  | request (typed : message.MsgType = .ok MsgType.OrderCancelRequest ∨
      message.MsgType = .ok MsgType.OrderCancelReplaceRequest) :
      Handler message fun book => book.processRequest message
  | reject (typed : message.MsgType = .ok MsgType.OrderCancelReject) :
      Handler message fun book => book.processOrderCancelReject message
  | none (text : Bytes) (unconcerned : ∀ reverseCompIDs,
      ¬ Concerns message reverseCompIDs) :
      Handler message fun book => (.ok (.error text), book)

theorem handler_of_message (message : Message) :
    ∃ handler, Handler message handler ∧
      ∀ book : OrderBook, book.process message = handler book := by
  unfold process
  cases found : message.fields.tryGet Tag.MsgType with
  | none =>
      refine ⟨_, .none _ ?_, fun book => rfl⟩
      have untyped (msgType : Bytes) : message.MsgType ≠ .ok msgType := by
        unfold Message.MsgType Message.requireField
        rw [found]
        intro impossible
        cases impossible
      rintro reverseCompIDs (⟨typed | typed, -⟩ | ⟨typed | typed, -⟩)
      · exact untyped _ typed
      · exact untyped _ typed
      · exact untyped _ typed
      · exact untyped _ typed
  | some field =>
      have typed := msgType_of_tryGet found
      simp only
      by_cases single : field.value = MsgType.NewOrderSingle
      · rw [single] at typed
        exact ⟨_, .single typed, fun book => if_pos single⟩
      by_cases report : field.value = MsgType.ExecutionReport
      · rw [report] at typed
        refine ⟨_, .report typed, fun book => ?_⟩
        rw [if_neg single, if_pos report]
      by_cases cancel : field.value = MsgType.OrderCancelRequest
      · rw [cancel] at typed
        refine ⟨_, .request (.inl typed), fun book => ?_⟩
        rw [if_neg single, if_neg report, if_pos cancel]
        rfl
      by_cases replace : field.value = MsgType.OrderCancelReplaceRequest
      · rw [replace] at typed
        refine ⟨_, .request (.inr typed), fun book => ?_⟩
        rw [if_neg single, if_neg report, if_neg cancel, if_pos replace]
        rfl
      by_cases reject : field.value = MsgType.OrderCancelReject
      · rw [reject] at typed
        refine ⟨_, .reject typed, fun book => ?_⟩
        rw [if_neg single, if_neg report, if_neg cancel, if_neg replace,
          if_pos reject]
      · refine ⟨_, .none (ascii "unsupported MsgType = " ++ field.value) ?_,
          fun book => ?_⟩
        · exact not_concerns typed (by simp [report, cancel, replace, reject])
        · rw [if_neg single, if_neg report, if_neg cancel, if_neg replace,
            if_neg reject]

/-! ### Missing fields -/

inductive LacksField (message : Message) : Prop
  | msgType (missing : message.fields.tryGet Tag.MsgType = none)
  | single (typed : message.MsgType = .ok MsgType.NewOrderSingle) (tag : Int32)
      (got : tag ∈ constructorFields)
      (missing : message.fields.tryGet tag = none)
  | address (reverseCompIDs : Bool) (concerns : Concerns message reverseCompIDs)
      (unaddressable : Unaddressable message)
  | clOrdID (typed : message.MsgType = .ok MsgType.OrderCancelReplaceRequest)
      (missing : message.fields.tryGet Tag.ClOrdID = none)

/-- The call returns, and with an error where a field is missing. -/
structure Answers (book : OrderBook) (message : Message) : Prop where
  returns : ∃ outcome, (book.process message).1 = .ok outcome
  refuses : LacksField message →
    ∃ text, (book.process message).1 = .ok (.error text)

/-- The message is one of those that name an order, and it names none. -/
def NamesNoOrder (message : Message) : Prop :=
  (∃ reverseCompIDs, Concerns message reverseCompIDs) ∧ Unaddressable message

theorem answers_of_refused {book : OrderBook} {message : Message} {text : Bytes}
    (refused : (book.process message).1 = .ok (.error text)) :
    Answers book message :=
  ⟨⟨_, refused⟩, fun _ => ⟨text, refused⟩⟩

theorem answers_of_complete {book : OrderBook} {message : Message}
    {outcome : Except Bytes Unit} (returned : (book.process message).1 = .ok outcome)
    (complete : ¬ LacksField message) : Answers book message :=
  ⟨⟨outcome, returned⟩, fun lacks => absurd lacks complete⟩

theorem LacksField.of_concerns {message : Message} {reverseCompIDs : Bool}
    (lacks : LacksField message) (concerns : Concerns message reverseCompIDs)
    (addressable : ¬ Unaddressable message) :
    message.MsgType = .ok MsgType.OrderCancelReplaceRequest ∧
      message.fields.tryGet Tag.ClOrdID = none := by
  have typed : ∃ msgType, message.MsgType = .ok msgType ∧
      msgType ≠ MsgType.NewOrderSingle := by
    rcases concerns with ⟨typed | typed, -⟩ | ⟨typed | typed, -⟩
    · exact ⟨_, typed, by decide⟩
    · exact ⟨_, typed, by decide⟩
    · exact ⟨_, typed, by decide⟩
    · exact ⟨_, typed, by decide⟩
  obtain ⟨msgType, typed, other⟩ := typed
  cases lacks with
  | msgType missing =>
      unfold Message.MsgType Message.requireField at typed
      rw [missing] at typed
      cases typed
  | single single => exact absurd single (not_typed typed other)
  | address _ _ unaddressable => exact absurd unaddressable addressable
  | clOrdID replace missing => exact ⟨replace, missing⟩

section

variable {book : OrderBook} {message : Message}

theorem key_of_addressable (addressable : ¬ Unaddressable message)
    (reverseCompIDs : Bool) :
    ∃ key, Order.keyForMessage message reverseCompIDs = .ok key := by
  cases named : Order.keyForMessage message reverseCompIDs with
  | error exception =>
      exact absurd
        ((Order.keyForMessage_throws_iff message reverseCompIDs).mp ⟨_, named⟩)
        addressable
  | ok key => exact ⟨key, rfl⟩

theorem processOrderSingle_answers
    (calls : book.process message = book.processOrderSingle message)
    (typed : message.MsgType = .ok MsgType.NewOrderSingle) :
    Answers book message := by
  cases created : Order.create message with
  | error exception =>
      apply answers_of_refused
      rw [calls]
      unfold processOrderSingle
      rw [created]
  | ok order =>
      have complete : ¬ LacksField message := by
        intro lacks
        cases lacks with
        | msgType missing =>
            unfold Message.MsgType Message.requireField at typed
            rw [missing] at typed
            cases typed
        | single _ tag got missing =>
            obtain ⟨exception, throws⟩ := Order.create_throws got missing
            rw [created] at throws
            cases throws
        | address _ concerns =>
            exact not_concerns typed (by decide) _ concerns
        | clOrdID other => exact not_typed typed (by decide) other
      have returned : ∃ outcome,
          (book.processOrderSingle message).1 = .ok outcome := by
        unfold processOrderSingle
        rw [created]
        cases inserted : book.tryEmplace order.key order with
        | none =>
            simp only [inserted]
            exact ⟨_, rfl⟩
        | some after =>
            simp only [inserted]
            exact ⟨_, rfl⟩
      obtain ⟨outcome, returned⟩ := returned
      rw [← calls] at returned
      exact answers_of_complete returned complete

theorem processExecutionReport_answers
    (calls : book.process message = book.processExecutionReport message)
    (typed : message.MsgType = .ok MsgType.ExecutionReport)
    (addressable : ¬ Unaddressable message) : Answers book message := by
  have complete : ¬ LacksField message := by
    intro lacks
    obtain ⟨other, -⟩ := lacks.of_concerns (.inl ⟨.inl typed, rfl⟩) addressable
    exact not_typed typed (by decide) other
  have returned : ∃ outcome,
      (book.processExecutionReport message).1 = .ok outcome := by
    obtain ⟨key, named⟩ := key_of_addressable addressable true
    unfold processExecutionReport
    rw [named]
    cases found : book.orders.lookup key with
    | none =>
        simp only [found]
        exact ⟨_, rfl⟩
    | some order =>
        obtain ⟨replacement, original, divided, -⟩ := Order.replace_spec order typed
        have updated := Order.update_of_other order typed (by decide) (by decide)
        simp only [found, divided]
        split
        · cases inserted : (book.store key original).tryEmplace replacement.key
              replacement with
          | none => exact ⟨_, rfl⟩
          | some after => exact ⟨_, rfl⟩
        · unfold updateStored
          rw [updated]
          exact ⟨_, rfl⟩
  obtain ⟨outcome, returned⟩ := returned
  rw [← calls] at returned
  exact answers_of_complete returned complete

theorem processRequest_answers
    (calls : book.process message = book.processRequest message)
    (typed : message.MsgType = .ok MsgType.OrderCancelRequest ∨
      message.MsgType = .ok MsgType.OrderCancelReplaceRequest)
    (addressable : ¬ Unaddressable message)
    (named : ¬ book.RequestsWithoutClOrdID message) : Answers book message := by
  obtain ⟨key, keyed⟩ := key_of_addressable addressable false
  cases found : book.orders.lookup key with
  | none =>
      apply answers_of_refused
      rw [calls]
      unfold processRequest
      rw [keyed]
      simp only [found]
      rfl
  | some order =>
      have complete : ¬ LacksField message := by
        intro lacks
        obtain ⟨replace, missing⟩ := lacks.of_concerns (.inr ⟨typed, rfl⟩) addressable
        exact named ⟨replace, missing, key, order, keyed, found⟩
      have accepted : (order.update message).1 = .ok () := by
        by_contra refused
        rcases typed with cancel | replace
        · obtain ⟨impossible, -⟩ := (Order.update_refused_iff cancel).mp refused
          exact absurd impossible (by decide)
        · obtain ⟨-, missing⟩ := (Order.update_refused_iff replace).mp refused
          exact named ⟨replace, missing, key, order, keyed, found⟩
      have returned : (book.processRequest message).1 = .ok (.ok ()) := by
        unfold processRequest
        rw [keyed]
        simp only [found]
        by_contra failed
        exact (updateStored_spec book key order message).1.mp failed accepted
      rw [← calls] at returned
      exact answers_of_complete returned complete

theorem processOrderCancelReject_answers
    (calls : book.process message = book.processOrderCancelReject message)
    (typed : message.MsgType = .ok MsgType.OrderCancelReject)
    (addressable : ¬ Unaddressable message) : Answers book message := by
  have complete : ¬ LacksField message := by
    intro lacks
    obtain ⟨other, -⟩ := lacks.of_concerns (.inl ⟨.inr typed, rfl⟩) addressable
    exact not_typed typed (by decide) other
  have returned : ∃ outcome,
      (book.processOrderCancelReject message).1 = .ok outcome := by
    obtain ⟨key, named⟩ := key_of_addressable addressable true
    unfold processOrderCancelReject
    rw [named]
    cases found : book.orders.lookup key with
    | none =>
        simp only [found]
        exact ⟨_, rfl⟩
    | some order =>
        simp only [found]
        exact ⟨_, rfl⟩
  obtain ⟨outcome, returned⟩ := returned
  rw [← calls] at returned
  exact answers_of_complete returned complete

/-! ### Exceptions that escape -/

theorem throws_of_namesNoOrder (book : OrderBook) {message : Message}
    (unnamed : NamesNoOrder message) :
    ∃ exception, (book.process message).1 = .error exception := by
  obtain ⟨⟨reverseCompIDs, concerns⟩, unaddressable⟩ := unnamed
  have throws := fun reverseCompIDs =>
    (Order.keyForMessage_throws_iff message reverseCompIDs).mpr unaddressable
  obtain ⟨handler, handles, calls⟩ := handler_of_message message
  rw [calls]
  cases handles with
  | single typed =>
      exact absurd concerns (not_concerns typed (by decide) reverseCompIDs)
  | report typed =>
      obtain ⟨exception, thrown⟩ := throws true
      unfold processExecutionReport
      rw [thrown]
      exact ⟨exception, rfl⟩
  | request typed =>
      obtain ⟨exception, thrown⟩ := throws false
      unfold processRequest
      rw [thrown]
      exact ⟨exception, rfl⟩
  | reject typed =>
      obtain ⟨exception, thrown⟩ := throws true
      unfold processOrderCancelReject
      rw [thrown]
      exact ⟨exception, rfl⟩
  | none text unconcerned => exact absurd concerns (unconcerned reverseCompIDs)

theorem throws_of_requestsWithoutClOrdID
    (requests : book.RequestsWithoutClOrdID message) :
    ∃ exception, (book.process message).1 = .error exception := by
  obtain ⟨typed, missing, key, order, keyed, found⟩ := requests
  rw [(process_of_msgType typed).2 rfl]
  unfold processRequest updateStored Order.update FieldCollection.get
  rw [keyed, typed, missing]
  simp only [found, if_true]
  exact ⟨_, rfl⟩

/-- A call answers unless the message has to name an order and names none, or
asks to replace a stored order and has no ClOrdID. -/
theorem answers_iff (book : OrderBook) (message : Message) :
    Answers book message ↔
      ¬ NamesNoOrder message ∧ ¬ book.RequestsWithoutClOrdID message := by
  constructor
  · intro answers
    obtain ⟨outcome, returned⟩ := answers.returns
    constructor
    · intro unnamed
      obtain ⟨exception, thrown⟩ := throws_of_namesNoOrder book unnamed
      rw [returned] at thrown
      cases thrown
    · intro requests
      obtain ⟨exception, thrown⟩ := throws_of_requestsWithoutClOrdID requests
      rw [returned] at thrown
      cases thrown
  · rintro ⟨named, requests⟩
    have addressable {reverseCompIDs : Bool}
        (concerns : Concerns message reverseCompIDs) : ¬ Unaddressable message :=
      fun unaddressable => named ⟨⟨_, concerns⟩, unaddressable⟩
    obtain ⟨handler, handles, calls⟩ := handler_of_message message
    cases handles with
    | single typed => exact processOrderSingle_answers (calls book) typed
    | report typed =>
        exact processExecutionReport_answers (calls book) typed
          (addressable (.inl ⟨.inl typed, rfl⟩))
    | request typed =>
        exact processRequest_answers (calls book) typed
          (addressable (.inr ⟨typed, rfl⟩)) requests
    | reject typed =>
        exact processOrderCancelReject_answers (calls book) typed
          (addressable (.inl ⟨.inr typed, rfl⟩))
    | none text unconcerned =>
        have refused : (book.process message).1 = .ok (.error text) := by
          rw [calls]
        exact answers_of_refused refused

end

/-! ### A report without CompIDs -/

def reportWithoutCompIDs : Message :=
  { Message.empty with
    fields := [⟨Tag.MsgType, MsgType.ExecutionReport⟩,
      ⟨Tag.ClOrdID, ascii "1"⟩] }

theorem report_without_compIDs_throws :
    (∃ exception, (empty.process reportWithoutCompIDs).1 = .error exception) ∧
      ¬ Answers empty reportWithoutCompIDs := by
  have unnamed : NamesNoOrder reportWithoutCompIDs :=
    ⟨⟨true, .inl ⟨.inl (by decide), rfl⟩⟩, .inl (by decide)⟩
  obtain ⟨exception, thrown⟩ := throws_of_namesNoOrder empty unnamed
  refine ⟨⟨exception, thrown⟩, ?_⟩
  rintro ⟨⟨outcome, returned⟩, -⟩
  rw [thrown] at returned
  cases returned

end OrderBook

end Crocofix

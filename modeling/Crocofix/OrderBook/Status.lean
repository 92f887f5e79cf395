/-
The status of an order after a reject.

A request caches the status of the order and a reject gives it back.  The cache
has room for one status, a report does not touch it, and a replacement takes a
copy along.  So the status given back is the one last reported only in the runs
whose rejects find the cache up to date.
-/

import Crocofix.OrderBook.Identity
import Mathlib.Data.List.Induction

namespace Crocofix

open Numeral

namespace Order

def isPending (status : Bytes) : Bool :=
  status = OrdStatus.PendingCancel || status = OrdStatus.PendingReplace

/-- The status that a message carries.  Of a repeated field the last counts. -/
def carriedStatus (message : Message) : Option Bytes :=
  (FieldCollection.tryGet message.fields.reverse Tag.OrdStatus).map Field.value

def isReport (message : Message) : Bool :=
  message.MsgType = .ok MsgType.ExecutionReport

def isRequest (message : Message) : Bool :=
  message.MsgType = .ok MsgType.OrderCancelRequest ||
    message.MsgType = .ok MsgType.OrderCancelReplaceRequest

def isReplaced (message : Message) : Bool :=
  isReport message &&
    (message.fields.tryGet Tag.ExecType).map Field.value = some ExecType.Replaced

/-- The status that an execution report settles: the one that it carries, if
that is not a pending one. -/
def settles (message : Message) : Option Bytes :=
  if isReport message then
    (carriedStatus message).filter fun status => ! isPending status
  else none

def history (order : Order) : List Message := order.messages.reverse

def ordStatus (order : Order) : Option Bytes :=
  (order.fields.tryGet Tag.OrdStatus).map Field.value

/-- The status most recently reported for the order that was not a pending
one. -/
def reported (order : Order) : Option Bytes := order.history.findSome? settles

def decides (message : Message) : Bool :=
  (settles message).isSome || isReplaced message

def lastDecision (history : List Message) : Option Message :=
  history.find? decides

def sinceRequest (history : List Message) : List Message :=
  history.takeWhile fun message => ! isRequest message

/-- The status that the last decision gave the order. -/
def assigned (order : Order) : Option Bytes :=
  match lastDecision order.history with
  | none =>
      order.history.getLast?.bind fun single =>
        (single.fields.tryGet Tag.OrdStatus).map Field.value
  | some message =>
      if isReplaced message then
        order.ordStatus.map fun _ =>
          if keyForMessage message true = .ok order.key then OrdStatus.Replaced
          else OrdStatus.New
      else settles message

def givenBack (order : Order) : Option Bytes :=
  (order.previousOrdStatus.or (order.fields.tryGet Tag.OrdStatus)).map Field.value

/-- The cached status is neither pending nor out of date, and what last decided
the status of the order was reported. -/
structure Restorable (order : Order) : Prop where
  settled : ∀ status, order.givenBack = some status → ! isPending status
  upToDate : ∀ field, order.previousOrdStatus = some field →
    ∀ message, lastDecision (sinceRequest order.history) = some message →
      ! isReplaced message ∧ settles message = some field.value
  reported : order.assigned = order.reported

/-! ### Messages that decide nothing -/

theorem not_report {message : Message} {msgType : Bytes}
    (typed : message.MsgType = .ok msgType)
    (other : msgType ≠ MsgType.ExecutionReport) : isReport message = false := by
  unfold isReport
  rw [typed]
  simpa using other

theorem not_decides_of_not_report {message : Message}
    (other : isReport message = false) : ¬ decides message := by
  unfold decides settles isReplaced
  rw [other]
  simp

theorem not_report_of_request {message : Message} (requests : isRequest message) :
    isReport message = false := by
  simp only [isRequest, Bool.or_eq_true, decide_eq_true_eq] at requests
  rcases requests with typed | typed
  · exact not_report typed (by decide)
  · exact not_report typed (by decide)

/-! ### What the history says -/

/-- What holds of an order in every run whose rejects find the status
restorable. -/
structure Tracked (order : Order) : Prop where
  recorded : order.messages ≠ []
  previous : ∀ field, order.previousOrdStatus = some field →
    ! isPending field.value →
      lastDecision (sinceRequest order.history) = none →
        order.assigned = some field.value
  current : (∀ status, order.ordStatus = some status → ! isPending status) →
    order.ordStatus = order.assigned
  present : order.previousOrdStatus.isSome → order.ordStatus.isSome

theorem tryGet_merged (target fields : FieldCollection) {tag : Int32}
    (other : tag ∉ identityFields) :
    (mergeFields target fields).tryGet tag =
      (FieldCollection.tryGet fields.reverse tag).or (target.tryGet tag) := by
  unfold mergeFields
  induction fields generalizing target with
  | nil => rfl
  | cons field rest ih =>
      rw [List.foldl_cons, ih, List.reverse_cons, FieldCollection.tryGet_append,
        Option.or_assoc]
      congr 1
      rw [FieldCollection.tryGet_cons, FieldCollection.tryGet_nil]
      by_cases same : field.tag = tag
      · have merged : ¬ isIdentityField field := by
          intro identity
          apply other
          rw [← same]
          exact List.elem_iff.mp identity
        rw [if_neg merged, FieldCollection.tryGet_putOrAppend, if_pos same,
          if_pos same]
        rfl
      · rw [if_neg same]
        split
        · rfl
        · rw [FieldCollection.tryGet_putOrAppend, if_neg same]
          rfl

theorem ordStatus_updateFields (order : Order) (message : Message) :
    (order.updateFields message.fields).ordStatus =
      (carriedStatus message).or order.ordStatus := by
  unfold ordStatus carriedStatus updateFields
  rw [← Option.map_or]
  exact congrArg (Option.map Field.value)
    (tryGet_merged order.fields message.fields (by decide))

theorem ordStatus_setOrdStatus (order : Order) (status : Bytes) :
    (order.setOrdStatus status).ordStatus =
      order.ordStatus.map fun _ => status := by
  unfold ordStatus setOrdStatus
  rw [FieldCollection.tryGet_put, if_pos rfl]
  cases order.fields.tryGet Tag.OrdStatus with
  | none => rfl
  | some field => rfl

/-- Of an order, only its key and whether it has a status matter beside the
history. -/
theorem assigned_congr {before after : Order}
    (history : after.history = before.history) (key : after.key = before.key)
    (present : after.ordStatus.isSome = before.ordStatus.isSome) :
    after.assigned = before.assigned := by
  unfold assigned
  rw [history, key]
  cases lastDecision before.history with
  | none => rfl
  | some decided =>
      simp only
      split
      · revert present
        cases after.ordStatus with
        | none =>
            cases before.ordStatus with
            | none => exact fun _ => rfl
            | some status => exact fun impossible => nomatch impossible
        | some status =>
            cases before.ordStatus with
            | none => exact fun impossible => nomatch impossible
            | some status => exact fun _ => rfl
      · rfl

theorem assigned_cons {before after : Order} {message : Message}
    (history : after.history = message :: before.history)
    (recorded : before.messages ≠ []) (undecided : ¬ decides message)
    (key : after.key = before.key)
    (present : after.ordStatus.isSome = before.ordStatus.isSome) :
    after.assigned = before.assigned := by
  have nonempty : before.history ≠ [] := by
    unfold Order.history
    simpa using recorded
  have last : after.history.getLast? = before.history.getLast? := by
    rw [history]
    cases earlier : before.history with
    | nil => exact absurd earlier nonempty
    | cons first rest => rfl
  have decision : lastDecision after.history = lastDecision before.history := by
    rw [history]
    exact List.find?_cons_of_neg undecided
  have extended : after.assigned =
      { after with messages := before.messages }.assigned := by
    have same : { after with messages := before.messages }.history =
        before.history := rfl
    unfold assigned
    rw [same, decision, last]
    rfl
  rw [extended]
  exact assigned_congr rfl key present

theorem history_update (order : Order) (message : Message) :
    (order.update message).2.history = message :: order.history := by
  unfold history
  rw [update_messages, List.reverse_append]
  rfl

/-- A request caches the status, and sets another one unless it is refused. -/
theorem update_request {order : Order} {message : Message}
    (requests : isRequest message) :
    (order.update message).2.previousOrdStatus =
        order.fields.tryGet Tag.OrdStatus ∧
      ((order.update message).2.ordStatus = order.ordStatus ∨
        ∃ status, isPending status ∧
          (order.update message).2.ordStatus =
            order.ordStatus.map fun _ => status) := by
  unfold update
  simp only [isRequest, Bool.or_eq_true, decide_eq_true_eq] at requests
  rcases requests with typed | typed
  · rw [typed]
    simp only
    rw [if_neg (by decide), if_pos trivial]
    refine ⟨rfl, .inr ⟨OrdStatus.PendingCancel, by decide, ?_⟩⟩
    exact ordStatus_setOrdStatus _ OrdStatus.PendingCancel
  · rw [typed]
    simp only
    rw [if_pos trivial]
    cases message.fields.get Tag.ClOrdID with
    | error exception => exact ⟨rfl, .inl rfl⟩
    | ok clOrdID =>
        refine ⟨rfl, .inr ⟨OrdStatus.PendingReplace, by decide, ?_⟩⟩
        exact ordStatus_setOrdStatus _ OrdStatus.PendingReplace

theorem update_report {order : Order} {message : Message}
    (typed : message.MsgType = .ok MsgType.ExecutionReport) :
    (order.update message).2.previousOrdStatus = order.previousOrdStatus ∧
      (order.update message).2.ordStatus =
        (carriedStatus message).or order.ordStatus := by
  rw [update_of_other order typed (by decide) (by decide)]
  exact ⟨rfl, ordStatus_updateFields _ message⟩

/-! ### The operations on one order -/

theorem create_tracked {message : Message} {order : Order}
    (typed : message.MsgType = .ok MsgType.NewOrderSingle)
    (constructed : create message = .ok order) : Tracked order := by
  obtain ⟨messages, fields, -, previous, -⟩ := create_parts constructed
  have undecided := not_decides_of_not_report (not_report typed (by decide))
  have history : order.history = [message] := by
    unfold Order.history
    rw [messages]
    rfl
  have assigned : order.assigned = order.ordStatus := by
    unfold Order.assigned
    rw [history, lastDecision, List.find?_cons_of_neg undecided]
    unfold ordStatus
    rw [fields]
    rfl
  refine ⟨?_, ?_, ?_, ?_⟩
  · rw [messages]
    exact List.cons_ne_nil _ _
  · intro field impossible
    rw [previous] at impossible
    cases impossible
  · intro _
    exact assigned.symm
  · rw [previous]
    intro impossible
    cases impossible

theorem isSome_map_const {status : Option Bytes} (other : Bytes) :
    (status.map fun _ => other).isSome = status.isSome := by
  cases status <;> rfl

/-- After a request, the cached status is what the last decision assigned. -/
theorem Tracked.update_request {order : Order} (tracked : Tracked order)
    {message : Message} (requests : isRequest message) :
    Tracked (order.update message).2 := by
  obtain ⟨previous, status⟩ := @Order.update_request order message requests
  have history := history_update order message
  have undecided := not_decides_of_not_report (not_report_of_request requests)
  have present : (order.update message).2.ordStatus.isSome =
      order.ordStatus.isSome := by
    rcases status with same | ⟨pending, -, set⟩
    · rw [same]
    · rw [set, isSome_map_const]
  have assigned : (order.update message).2.assigned = order.assigned :=
    assigned_cons history tracked.recorded undecided
      (update_same order message).key present
  refine ⟨?_, ?_, ?_, ?_⟩
  · rw [update_messages]
    simp
  · intro field cached settled _
    rw [previous] at cached
    have current : order.ordStatus = some field.value := by
      unfold ordStatus
      rw [cached]
      rfl
    rw [assigned, ← current]
    symm
    apply tracked.current
    intro found same
    rw [current] at same
    injection same with same
    rw [← same]
    exact settled
  · intro settled
    rw [assigned]
    rcases status with same | ⟨pending, isPending, set⟩
    · rw [same] at settled ⊢
      exact tracked.current settled
    · cases absent : order.ordStatus with
      | none =>
          rw [set, ← tracked.current (by rw [absent]; intro _ impossible; cases impossible), absent]
          rfl
      | some found =>
          rw [set, absent] at settled
          have impossible := settled pending rfl
          rw [isPending] at impossible
          cases impossible
  · intro cached
    rw [previous] at cached
    rw [present]
    unfold ordStatus
    rw [Option.isSome_map]
    exact cached

theorem Tracked.update_report {order : Order} (tracked : Tracked order)
    {message : Message} (typed : message.MsgType = .ok MsgType.ExecutionReport)
    (other : isReplaced message = false) : Tracked (order.update message).2 := by
  obtain ⟨previous, status⟩ := @Order.update_report order message typed
  have history := history_update order message
  have notRequest : isRequest message = false := by
    unfold isRequest
    rw [typed]
    rfl
  have since : sinceRequest (order.update message).2.history =
      message :: sinceRequest order.history := by
    rw [history]
    exact List.takeWhile_cons_of_pos (by rw [notRequest]; rfl)
  have report : isReport message = true := decide_eq_true typed
  have recorded : (order.update message).2.messages ≠ [] := by
    rw [update_messages]
    simp
  cases settled : settles message with
  | some settlement =>
      have decided : decides message := by
        unfold decides
        rw [settled]
        rfl
      have carried : carriedStatus message = some settlement := by
        unfold settles at settled
        rw [if_pos report] at settled
        exact (Option.filter_eq_some_iff.mp settled).1
      have current : (order.update message).2.ordStatus = some settlement := by
        rw [status, carried]
        rfl
      refine ⟨recorded, ?_, ?_, ?_⟩
      · intro field _ _ undecided
        rw [since, lastDecision, List.find?_cons_of_pos decided] at undecided
        cases undecided
      · intro _
        unfold assigned
        rw [history, lastDecision, List.find?_cons_of_pos decided, current]
        simp only [other, Bool.false_eq_true, if_false]
        exact settled.symm
      · intro _
        rw [current]
        rfl
  | none =>
      have undecided : ¬ decides message := by
        unfold decides
        rw [settled, other]
        simp
      have same (present : (order.update message).2.ordStatus.isSome =
          order.ordStatus.isSome) :
            (order.update message).2.assigned = order.assigned :=
        assigned_cons history tracked.recorded undecided
          (update_same order message).key present
      have kept (present : order.ordStatus.isSome) :
          (order.update message).2.ordStatus.isSome := by
        rw [status, Option.isSome_or, present, Bool.or_true]
      refine ⟨recorded, ?_, ?_, ?_⟩
      · intro field cached notPending undecidedSince
        rw [previous] at cached
        rw [since, lastDecision, List.find?_cons_of_neg undecided] at undecidedSince
        have present := tracked.present (by rw [cached]; rfl)
        rw [same (by rw [kept present, present])]
        exact tracked.previous field cached notPending undecidedSince
      · intro notPending
        cases carried : carriedStatus message with
        | none =>
            rw [carried] at status
            rw [same (by rw [status]; rfl), status]
            apply tracked.current
            intro found current
            apply notPending
            rw [status]
            exact current
        | some pending =>
            rw [carried] at status
            have isPending : isPending pending := by
              unfold settles at settled
              rw [if_pos report, carried, Option.filter_eq_none_iff] at settled
              simpa using settled
            have impossible := notPending pending status
            rw [isPending] at impossible
            cases impossible
      · intro cached
        rw [previous] at cached
        exact kept (tracked.present cached)

theorem update_tracked {order : Order} (tracked : Tracked order)
    {message : Message} {reverseCompIDs : Bool}
    (updates : OrderBook.Updates message reverseCompIDs) :
    Tracked (order.update message).2 := by
  rcases updates with ⟨typed, -, other⟩ | ⟨requests, -⟩
  · apply tracked.update_report typed
    unfold isReplaced
    rw [decide_eq_false other, Bool.and_false]
  · apply tracked.update_request
    unfold isRequest
    rcases requests with typed | typed
    · rw [decide_eq_true typed, Bool.true_or]
    · rw [decide_eq_true typed, Bool.or_true]

theorem decides_of_replaced {message : Message} (replaced : isReplaced message) :
    decides message := by
  unfold decides
  rw [replaced, Bool.or_true]

theorem tracked_of_replaced {order : Order} {message : Message}
    {earlier : List Message} (replaced : isReplaced message)
    (history : order.history = message :: earlier)
    (status : order.ordStatus = order.ordStatus.map fun _ =>
      if keyForMessage message true = .ok order.key then OrdStatus.Replaced
      else OrdStatus.New)
    (present : order.previousOrdStatus.isSome → order.ordStatus.isSome) :
    Tracked order := by
  have decided := decides_of_replaced replaced
  refine ⟨?_, ?_, ?_, present⟩
  · intro empty
    unfold Order.history at history
    rw [empty] at history
    cases history
  · intro field _ _ undecided
    have notRequest : isRequest message = false := by
      simp only [isReplaced, isReport, Bool.and_eq_true, decide_eq_true_eq] at replaced
      unfold isRequest
      rw [replaced.1]
      rfl
    rw [history, sinceRequest, List.takeWhile_cons_of_pos (by rw [notRequest]; rfl),
      lastDecision, List.find?_cons_of_pos decided] at undecided
    cases undecided
  · intro _
    unfold assigned
    rw [history, lastDecision, List.find?_cons_of_pos decided]
    simp only [replaced, if_true]
    exact status

theorem rollback_previousOrdStatus (order : Order) :
    order.rollback.previousOrdStatus = none := by
  unfold rollback
  cases order.previousOrdStatus with
  | none => rfl
  | some field => rfl

theorem replacedBy_tracked {order : Order} (cached : Cached order)
    {executionReport : Message} (replaced : isReplaced executionReport)
    (addressed : keyForMessage executionReport true = .ok order.key) :
    Tracked (order.replacedBy executionReport) := by
  have history : (order.replacedBy executionReport).history =
      executionReport :: order.history := by
    unfold Order.history replacedBy
    rw [List.reverse_append]
    rfl
  have key : (order.replacedBy executionReport).key = order.key :=
    (rollback_same cached).key
  have status : (order.replacedBy executionReport).ordStatus =
      order.rollback.ordStatus.map fun _ => OrdStatus.Replaced :=
    ordStatus_setOrdStatus order.rollback OrdStatus.Replaced
  apply tracked_of_replaced replaced history
  · rw [key, if_pos addressed, status, Option.map_map]
    rfl
  · intro previous
    have none : (order.replacedBy executionReport).previousOrdStatus = none :=
      rollback_previousOrdStatus order
    rw [none] at previous
    cases previous

theorem present_putOrAppend {fields : FieldCollection} {tag : Int32}
    (present : (fields.tryGet tag).isSome) (field : Field) :
    ((fields.putOrAppend field).tryGet tag).isSome := by
  rw [FieldCollection.tryGet_putOrAppend]
  split
  · rfl
  · exact present

theorem present_committed {order : Order} (present : order.ordStatus.isSome)
    (executionReport : Message) :
    ((order.committed executionReport).fields.tryGet Tag.OrdStatus).isSome := by
  have kept {target : FieldCollection} (fields : FieldCollection)
      (found : (target.tryGet Tag.OrdStatus).isSome) :
      ((mergeFields target fields).tryGet Tag.OrdStatus).isSome := by
    rw [tryGet_merged target fields (by decide), Option.isSome_or, found,
      Bool.or_true]
  apply kept
  apply kept
  unfold ordStatus at present
  rw [Option.isSome_map] at present
  exact present

theorem present_named {order : Order} (present : order.ordStatus.isSome)
    (executionReport : Message) :
    ((order.named executionReport).fields.tryGet Tag.OrdStatus).isSome := by
  have committed := present_committed present executionReport
  unfold named
  cases order.replacementClOrdID executionReport with
  | none => exact committed
  | some clOrdID =>
      exact present_putOrAppend (present_putOrAppend committed clOrdID) _

theorem named_kept (order : Order) (executionReport : Message) :
    (order.named executionReport).messages =
        order.messages ++ [executionReport] ∧
      (order.named executionReport).previousOrdStatus =
        order.previousOrdStatus := by
  unfold named
  cases order.replacementClOrdID executionReport with
  | none => exact ⟨rfl, rfl⟩
  | some clOrdID => exact ⟨rfl, rfl⟩

theorem replacement_tracked {order replacement original : Order}
    (tracked : Tracked order) {executionReport : Message}
    (replaced : isReplaced executionReport)
    (typed : executionReport.MsgType = .ok MsgType.ExecutionReport)
    (divided : order.replace executionReport = (.ok replacement, original))
    (elsewhere : keyForMessage executionReport true ≠ .ok replacement.key) :
    Tracked replacement := by
  rw [replace_eq order typed] at divided
  injection divided with made
  injection made with made
  obtain ⟨messages, previous⟩ := named_kept order executionReport
  have status := ordStatus_setOrdStatus { order.named executionReport with
    key := order.replacementKey executionReport } OrdStatus.New
  rw [made] at status
  apply tracked_of_replaced replaced
  · unfold Order.history
    rw [← made]
    change (order.named executionReport).messages.reverse = _
    rw [messages, List.reverse_append]
    rfl
  · rw [if_neg elsewhere, status, Option.map_map]
    rfl
  · intro cached
    rw [← made] at cached
    change (order.named executionReport).previousOrdStatus.isSome at cached
    rw [previous] at cached
    rw [status, isSome_map_const]
    unfold ordStatus
    rw [Option.isSome_map]
    exact present_named (tracked.present cached) executionReport

theorem ordStatus_rollback {order : Order} (cached : Cached order)
    (tracked : Tracked order) : order.rollback.ordStatus = order.givenBack := by
  unfold givenBack rollback
  cases previous : order.previousOrdStatus with
  | none => rfl
  | some field =>
      have present := tracked.present (by rw [previous]; rfl)
      unfold ordStatus at present ⊢
      simp only
      rw [FieldCollection.tryGet_put, if_pos (cached.previousOrdStatus field previous)]
      cases found : order.fields.tryGet Tag.OrdStatus with
      | none =>
          rw [found] at present
          cases present
      | some status => rfl

/-- The status that a reject gives back is what the last decision assigned. -/
theorem Restorable.givenBack_eq {order : Order} (restorable : Restorable order)
    (tracked : Tracked order) : order.givenBack = order.assigned := by
  have settled := restorable.settled
  unfold givenBack at settled ⊢
  cases previous : order.previousOrdStatus with
  | none =>
      rw [previous] at settled
      exact tracked.current settled
  | some field =>
      rw [previous] at settled
      cases decided : lastDecision (sinceRequest order.history) with
      | none =>
          exact (tracked.previous field previous (settled _ rfl) decided).symm
      | some message =>
          obtain ⟨other, carried⟩ := restorable.upToDate field previous message decided
          have last : lastDecision order.history = some message :=
            (List.takeWhile_prefix _).find?_eq_some decided
          unfold assigned
          rw [last]
          simp only [Bool.not_eq_true'] at other
          simp only [other, Bool.false_eq_true, if_false]
          exact carried.symm

theorem rollback_tracked {order : Order} (cached : Cached order)
    (tracked : Tracked order) (restorable : Restorable order) :
    Tracked order.rollback := by
  have status := ordStatus_rollback cached tracked
  have history : order.rollback.history = order.history := by
    unfold Order.history
    rw [rollback_messages]
  have present : order.rollback.ordStatus.isSome = order.ordStatus.isSome := by
    rw [status]
    unfold givenBack
    cases previous : order.previousOrdStatus with
    | none => rfl
    | some field =>
        rw [tracked.present (by rw [previous]; rfl)]
        rfl
  have assigned : order.rollback.assigned = order.assigned := by
    apply assigned_congr history (rollback_same cached).key present
  refine ⟨?_, ?_, ?_, ?_⟩
  · rw [rollback_messages]
    exact tracked.recorded
  · intro field impossible
    rw [rollback_previousOrdStatus] at impossible
    cases impossible
  · intro _
    rw [status, assigned]
    exact restorable.givenBack_eq tracked
  · rw [rollback_previousOrdStatus]
    intro impossible
    cases impossible

end Order

namespace OrderBook

open Crocofix.Order

/-! ### Runs of the order book -/

/-- A reject that the book accepts finds the status of the order restorable. -/
def FindsRestorable (book : OrderBook) (message : Message) : Prop :=
  message.MsgType = .ok MsgType.OrderCancelReject →
    ∀ key order, book.Addresses message true key order → order.Restorable

def Orderly (messages : List Message) : Prop :=
  ∀ earlier message, earlier ++ [message] <+: messages →
    FindsRestorable (empty.processAll earlier) message

theorem Orderly.of_prefix {messages earlier : List Message}
    (orderly : Orderly messages) (part : earlier <+: messages) : Orderly earlier :=
  fun first message inside => orderly first message (inside.trans part)

theorem Orderly.concat {earlier : List Message} {message : Message}
    (orderly : Orderly earlier)
    (restorable : FindsRestorable (empty.processAll earlier) message) :
    Orderly (earlier ++ [message]) := by
  intro first last inside
  rcases List.prefix_concat_iff.mp inside with same | before
  · obtain ⟨rfl, rfl⟩ := List.append_singleton_inj.mp same
    exact restorable
  · exact orderly first last before

theorem orderly_of_no_reject {messages : List Message}
    (others : ∀ message ∈ messages,
      message.MsgType ≠ .ok MsgType.OrderCancelReject) : Orderly messages := by
  intro earlier message inside typed
  have member : message ∈ messages :=
    inside.subset (List.mem_append_right _ (List.mem_singleton_self _))
  exact absurd typed (others message member)

theorem isReplaced_of_reports {message : Message}
    (reports : ReportsReplaced message) : isReplaced message := by
  unfold isReplaced isReport
  rw [decide_eq_true reports.1, decide_eq_true reports.2, Bool.and_true]

theorem process_tracked {book : OrderBook} {message : Message}
    (restorable : FindsRestorable book message)
    (before : ∀ key order, book.orders.lookup key = some order →
      (order.key = key ∧ order.Cached) ∧ order.Tracked) :
    ∀ key order, (book.process message).2.orders.lookup key = some order →
      (order.key = key ∧ order.Cached) ∧ order.Tracked := by
  refine @process_forall (fun key order =>
    (order.key = key ∧ order.Cached) ∧ order.Tracked) book message before
    ?_ ?_ ?_ ?_ ?_
  · intro order typed constructed
    exact ⟨⟨rfl, (create_identified constructed).2⟩,
      create_tracked typed constructed⟩
  · rintro key order reverseCompIDs updates - ⟨⟨keyed, cached⟩, tracked⟩
    exact ⟨⟨(update_same order message).key.trans keyed,
      update_cached cached message⟩, update_tracked tracked updates⟩
  · rintro key order replacement original reports ⟨addressed, -⟩ divided
      ⟨⟨keyed, cached⟩, tracked⟩
    rw [replace_eq order reports.1] at divided
    injection divided with _ left
    rw [← left]
    have kept := rollback_cached cached
    refine ⟨⟨(rollback_same cached).key.trans keyed, kept.previousOrdStatus,
      kept.newClOrdID⟩, ?_⟩
    apply replacedBy_tracked cached (isReplaced_of_reports reports)
    rw [keyed]
    exact addressed
  · rintro key order replacement original reports ⟨addressed, -⟩ differs divided
      ⟨⟨keyed, cached⟩, tracked⟩
    refine ⟨⟨rfl, replacement_cached cached reports.1 divided⟩, ?_⟩
    apply replacement_tracked tracked (isReplaced_of_reports reports) reports.1
      divided
    rw [addressed]
    intro same
    injection same with same
    exact differs same.symm
  · rintro key order typed addresses ⟨⟨keyed, cached⟩, tracked⟩
    refine ⟨⟨(rollback_same cached).key.trans keyed, rollback_cached cached⟩, ?_⟩
    exact rollback_tracked cached tracked (restorable typed key order addresses)

theorem processAll_tracked {messages : List Message} (orderly : Orderly messages) :
    ∀ key order, (empty.processAll messages).orders.lookup key = some order →
      (order.key = key ∧ order.Cached) ∧ order.Tracked := by
  induction messages using List.reverseRecOn with
  | nil =>
      intro key order impossible
      cases impossible
  | append_singleton earlier message ih =>
      rw [processAll_concat]
      exact process_tracked (orderly earlier message (List.prefix_refl _))
        (ih (orderly.of_prefix (List.prefix_append _ _)))

theorem addresses_of_accepted {book : OrderBook} {message : Message}
    (typed : message.MsgType = .ok MsgType.OrderCancelReject)
    (accepted : (book.process message).1 = .ok (.ok ())) :
    ∃ key order, book.Addresses message true key order ∧
      (book.process message).2 = book.store key order.rollback := by
  have effect := process_effect book message
  revert accepted effect
  generalize book.process message = called
  intro accepted effect
  cases effect with
  | ignored failed ignores => exact absurd accepted failed
  | created order single =>
      rw [typed] at single
      injection single with impossible
      exact absurd impossible (by decide)
  | updated reverseCompIDs key order updates =>
      rcases updates with ⟨other, -⟩ | ⟨other | other, -⟩
      · rw [typed] at other
        injection other with impossible
        exact absurd impossible (by decide)
      · rw [typed] at other
        injection other with impossible
        exact absurd impossible (by decide)
      · rw [typed] at other
        injection other with impossible
        exact absurd impossible (by decide)
  | replaced key order replacement original reports =>
      have other := reports.1
      rw [typed] at other
      injection other with impossible
      exact absurd impossible (by decide)
  | refused failed => exact absurd accepted failed
  | rejected key order _ addresses => exact ⟨key, order, addresses, rfl⟩

/-- In every run whose rejects all find the status restorable, an accepted
reject leaves the order in the status that was last reported for it. -/
theorem reject_restores_reported {messages : List Message}
    (orderly : Orderly messages) {earlier : List Message} {message : Message}
    (part : earlier ++ [message] <+: messages)
    (typed : message.MsgType = .ok MsgType.OrderCancelReject)
    (accepted : ((empty.processAll earlier).process message).1 = .ok (.ok ())) :
    ∃ key before after,
      (empty.processAll earlier).Addresses message true key before ∧
      (empty.processAll (earlier ++ [message])).orders.lookup key = some after ∧
      after.ordStatus = after.reported ∧
      ∀ status, after.ordStatus = some status → ! isPending status := by
  obtain ⟨key, order, addresses, result⟩ := addresses_of_accepted typed accepted
  have before := orderly.of_prefix ((List.prefix_append _ _).trans part)
  obtain ⟨⟨-, cached⟩, tracked⟩ := processAll_tracked before key order addresses.2
  have restorable := orderly earlier message part typed key order addresses
  have status := ordStatus_rollback cached tracked
  refine ⟨key, order, order.rollback, addresses, ?_, ?_, ?_⟩
  · rw [processAll_concat, result]
    exact lookup_store _ key order.rollback
  · have history : order.rollback.reported = order.reported := by
      unfold reported Order.history
      rw [rollback_messages]
    rw [history, ← restorable.reported, status]
    exact restorable.givenBack_eq tracked
  · rw [status]
    exact restorable.settled

/-! ### A cache that is out of date -/

def statusReport (status : Bytes) : Message :=
  { Message.empty with
    fields := [⟨Tag.MsgType, MsgType.ExecutionReport⟩,
      ⟨Tag.SenderCompID, ascii "B"⟩, ⟨Tag.TargetCompID, ascii "A"⟩,
      ⟨Tag.ClOrdID, ascii "1"⟩, ⟨Tag.OrdStatus, status⟩] }

def cancelRequest : Message :=
  { Message.empty with
    fields := [⟨Tag.MsgType, MsgType.OrderCancelRequest⟩,
      ⟨Tag.SenderCompID, ascii "A"⟩, ⟨Tag.TargetCompID, ascii "B"⟩,
      ⟨Tag.OrigClOrdID, ascii "1"⟩, ⟨Tag.ClOrdID, ascii "2"⟩] }

def cancelReject : Message :=
  { Message.empty with
    fields := [⟨Tag.MsgType, MsgType.OrderCancelReject⟩,
      ⟨Tag.SenderCompID, ascii "B"⟩, ⟨Tag.TargetCompID, ascii "A"⟩,
      ⟨Tag.OrigClOrdID, ascii "1"⟩, ⟨Tag.ClOrdID, ascii "2"⟩] }

def statusAfter (messages : List Message) :
    Option (Option Bytes × Option Bytes) :=
  ((empty.processAll messages).orders.lookup (ascii "A-B-1")).map fun order =>
    (order.ordStatus, order.reported)

theorem reject_restores_reported_cancel :
    ∃ after, (empty.processAll [orderSingle, statusReport OrdStatus.New,
        cancelRequest, statusReport OrdStatus.PendingCancel,
        cancelReject]).orders.lookup (ascii "A-B-1") = some after ∧
      after.ordStatus = after.reported := by
  have requested : Orderly [orderSingle, statusReport OrdStatus.New,
      cancelRequest, statusReport OrdStatus.PendingCancel] :=
    orderly_of_no_reject (by decide)
  have named : Order.keyForMessage cancelReject true = .ok (ascii "A-B-1") := by
    decide
  have restorable : FindsRestorable (empty.processAll [orderSingle,
      statusReport OrdStatus.New, cancelRequest,
      statusReport OrdStatus.PendingCancel]) cancelReject := by
    rintro - key order ⟨addressed, found⟩
    rw [named] at addressed
    injection addressed with keyed
    rw [← keyed] at found
    have parts : ((empty.processAll [orderSingle, statusReport OrdStatus.New,
        cancelRequest, statusReport OrdStatus.PendingCancel]).orders.lookup
          (ascii "A-B-1")).map (fun order => (order.givenBack,
            lastDecision (sinceRequest order.history), order.assigned,
            order.reported)) =
        some (some OrdStatus.New, none, some OrdStatus.New,
          some OrdStatus.New) := by decide
    rw [found] at parts
    simp only [Option.map_some, Option.some.injEq, Prod.mk.injEq] at parts
    obtain ⟨givenBack, since, assigned, reported⟩ := parts
    refine ⟨?_, ?_, ?_⟩
    · rw [givenBack]
      decide
    · rw [since]
      intro _ _ _ impossible
      cases impossible
    · rw [assigned, reported]
  obtain ⟨key, before, after, ⟨addressed, -⟩, found, status, -⟩ :=
    reject_restores_reported (requested.concat restorable)
      (List.prefix_refl _) (by decide) (by decide)
  rw [named] at addressed
  injection addressed with keyed
  rw [← keyed] at found
  exact ⟨after, found, status⟩

/-- A partial fill (OrdStatus 1) is taken back by a reject, and the second of two
requests leaves the order pending. -/
theorem reject_restores_outdated :
    statusAfter [orderSingle, statusReport OrdStatus.New, cancelRequest,
        statusReport (ascii "1"), cancelReject] =
      some (some OrdStatus.New, some (ascii "1")) ∧
    statusAfter [orderSingle, statusReport OrdStatus.New, cancelRequest,
        cancelRequest, cancelReject] =
      some (some OrdStatus.PendingCancel, some OrdStatus.New) := by
  decide

end OrderBook

end Crocofix

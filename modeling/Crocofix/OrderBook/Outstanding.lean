/-
The pending fields of an order and the requests that are outstanding for it.

A ledger beside the book holds the requests that were accepted for each order
and that neither a reject nor a report has ended.  A reject and a replacement
clear the pending fields; any other report that ends a request leaves them to
be shown, and to be committed by the next replacement.
-/

import Crocofix.OrderBook.Chain
import Crocofix.OrderBook.Replacement

namespace Crocofix

open Numeral

namespace FieldCollection

theorem mem_put {fields : FieldCollection} {field other : Field}
    (member : other ∈ fields.put field) : other = field ∨ other ∈ fields := by
  unfold put set at member
  cases found : replaceFirst fields field with
  | none =>
      rw [found] at member
      exact .inr member
  | some replaced =>
      rw [found] at member
      exact mem_replaceFirst found member

end FieldCollection

namespace Order

theorem mem_mergeFields {target fields : FieldCollection} {field : Field}
    (member : field ∈ mergeFields target fields) :
    field ∈ target ∨ field ∈ fields := by
  unfold mergeFields at member
  induction fields generalizing target with
  | nil => exact .inl member
  | cons first rest ih =>
      rw [List.foldl_cons] at member
      rcases ih member with early | late
      · split at early
        · exact .inl early
        · rcases FieldCollection.mem_putOrAppend early with added | old
          · rw [added]
            exact .inr List.mem_cons_self
          · exact .inl old
      · exact .inr (List.mem_cons_of_mem _ late)

theorem pendingFields_of_refused {order : Order} {message : Message}
    (refused : (order.update message).1 ≠ .ok ()) :
    (order.update message).2.pendingFields = order.pendingFields := by
  unfold update at refused ⊢
  cases typed : message.MsgType with
  | error exception => rfl
  | ok msgType =>
      rw [typed] at refused
      simp only at refused ⊢
      split
      · next replace =>
        rw [if_pos replace] at refused
        cases named : message.fields.get Tag.ClOrdID with
        | error exception => rfl
        | ok clOrdID =>
            rw [named] at refused
            exact absurd rfl refused
      · next other =>
        rw [if_neg other] at refused
        split
        · next cancel =>
          rw [if_pos cancel] at refused
          exact absurd rfl refused
        · rfl

/-- The values of a replacement come from a request, the report or the order. -/
theorem mem_replacement {order replacement original : Order}
    (cached : Cached order) {message : Message}
    (typed : message.MsgType = .ok MsgType.ExecutionReport)
    (divided : order.replace message = (.ok replacement, original))
    {field : Field} (member : field ∈ replacement.fields)
    (other : field.tag ∉ identityFields) (notStatus : field.tag ≠ Tag.OrdStatus) :
    field ∈ order.pendingFields ∨ field ∈ message.fields ∨
      field ∈ order.fields := by
  have committed (inside : field ∈ (order.committed message).fields) :
      field ∈ order.pendingFields ∨ field ∈ message.fields ∨
        field ∈ order.fields := by
    rcases mem_mergeFields inside with reported | pending
    · rcases mem_mergeFields reported with old | carried
      · exact .inr (.inr old)
      · exact .inr (.inl carried)
    · exact .inl pending
  rw [replace_eq order typed] at divided
  injection divided with made
  injection made with made
  rw [← made] at member
  rcases FieldCollection.mem_put member with status | inside
  · rw [status] at notStatus
    exact absurd rfl notStatus
  · change field ∈ (order.named message).fields at inside
    unfold named at inside
    cases names : order.replacementClOrdID message with
    | none =>
        rw [names] at inside
        exact committed inside
    | some clOrdID =>
        rw [names] at inside
        rcases FieldCollection.mem_putOrAppend inside with orig | earlier
        · rw [orig] at other
          exact absurd (show Tag.OrigClOrdID ∈ identityFields by decide) other
        · rcases FieldCollection.mem_putOrAppend earlier with own | inside
          · rw [own, replacementClOrdID_tag cached names] at other
            exact absurd (by decide) other
          · exact committed inside

end Order

namespace OrderBook

open Crocofix.Order

/-! ### The ledger of requests -/

/-- The requests that are outstanding for the order with a key, the latest
first. -/
abbrev Requests := Bytes → List Message

def endingStatuses : List Bytes :=
  [OrdStatus.Canceled, OrdStatus.Replaced, OrdStatus.Filled, OrdStatus.Rejected]

/-- A report that ends the requests for its order. -/
def endsByReport (message : Message) : Bool :=
  isReport message &&
    (message.fields.tryGet Tag.OrdStatus).any fun field =>
      endingStatuses.contains field.value

def endsRequests (message : Message) : Bool :=
  decide (message.MsgType = .ok MsgType.OrderCancelReject) || endsByReport message

def noteRequest (book : OrderBook) (message : Message) (requests : Requests) :
    Requests := fun key =>
  if (book.process message).1 = .ok (.ok ()) ∧
      Order.keyForMessage message (reverses message) = .ok key then
    if isRequest message then message :: requests key
    else if endsRequests message then []
    else requests key
  else requests key

def followRequests (messages : List Message) : OrderBook × Requests :=
  messages.foldl
    (fun current message =>
      ((current.1.process message).2, noteRequest current.1 message current.2))
    (empty, fun _ => [])

theorem followRequests_concat (messages : List Message) (message : Message) :
    followRequests (messages ++ [message]) =
      (((followRequests messages).1.process message).2,
        noteRequest (followRequests messages).1 message
          (followRequests messages).2) := by
  unfold followRequests
  rw [List.foldl_append]
  rfl

theorem followRequests_book (messages : List Message) :
    (followRequests messages).1 = empty.processAll messages := by
  induction messages using List.reverseRecOn with
  | nil => rfl
  | append_singleton earlier message ih =>
      rw [followRequests_concat, processAll_concat, ih]

section

variable {book : OrderBook} {message : Message} {requests : Requests} {key : Bytes}

theorem noteRequest_of_failed (failed : Failed (book.process message).1) :
    noteRequest book message requests = requests := by
  funext key
  unfold noteRequest
  rw [if_neg]
  rintro ⟨accepted, -⟩
  exact failed accepted

theorem noteRequest_elsewhere {other : Bytes}
    (addressed : Order.keyForMessage message (reverses message) = .ok key)
    (differs : other ≠ key) :
    noteRequest book message requests other = requests other := by
  unfold noteRequest
  rw [if_neg]
  rintro ⟨-, again⟩
  rw [addressed] at again
  injection again with same
  exact differs same.symm

theorem noteRequest_of_request (accepted : (book.process message).1 = .ok (.ok ()))
    (addressed : Order.keyForMessage message (reverses message) = .ok key)
    (request : isRequest message) :
    noteRequest book message requests key = message :: requests key := by
  unfold noteRequest
  rw [if_pos ⟨accepted, addressed⟩, if_pos request]

theorem noteRequest_of_end (accepted : (book.process message).1 = .ok (.ok ()))
    (addressed : Order.keyForMessage message (reverses message) = .ok key)
    (other : isRequest message = false) (ends : endsRequests message) :
    noteRequest book message requests key = [] := by
  unfold noteRequest
  rw [if_pos ⟨accepted, addressed⟩, other, if_neg Bool.false_ne_true, if_pos ends]

theorem noteRequest_of_other (notRequest : isRequest message = false)
    (endless : endsRequests message = false) :
    noteRequest book message requests = requests := by
  funext key
  unfold noteRequest
  rw [notRequest, endless, if_neg Bool.false_ne_true, if_neg Bool.false_ne_true,
    ite_self]

/-! ### Where every pending field was requested -/

def Requested (order : Order) (requests : List Message) : Prop :=
  ∀ field ∈ order.pendingFields, ∃ request ∈ requests, field ∈ request.fields

def Accounted (book : OrderBook) (requests : Requests) : Prop :=
  ∀ key order, book.orders.lookup key = some order → Requested order (requests key)

theorem requested_of_settled {order : Order} (settled : order.pendingFields = [])
    (requests : List Message) : Requested order requests := by
  intro field member
  rw [settled] at member
  cases member

theorem Accounted.store (accounted : Accounted book requests) {noted : Requests}
    {order : Order} (elsewhere : ∀ other, other ≠ key → noted other = requests other)
    (here : Requested order (noted key)) :
    Accounted (book.store key order) noted := by
  intro other stored found
  by_cases same : other = key
  · rw [same, lookup_store] at found
    injection found with found
    rw [same, ← found]
    exact here
  · rw [lookup_store_ne order same] at found
    rw [elsewhere other same]
    exact accounted other stored found

/-- A report that ends a request without replacing the order finds no pending
field in the order. -/
def EndsSettled (book : OrderBook) (message : Message) : Prop :=
  endsByReport message → ¬ ReportsReplaced message →
    (book.process message).1 = .ok (.ok ()) →
      ∀ key order, book.Addresses message true key order →
        order.pendingFields = []

theorem isRequest_of_typed
    (typed : message.MsgType = .ok MsgType.OrderCancelRequest ∨
      message.MsgType = .ok MsgType.OrderCancelReplaceRequest) :
    isRequest message := by
  unfold isRequest
  rcases typed with typed | typed
  · rw [decide_eq_true typed, Bool.true_or]
  · rw [decide_eq_true typed, Bool.or_true]

theorem not_request_of_report
    (typed : message.MsgType = .ok MsgType.ExecutionReport) :
    isRequest message = false := by
  unfold isRequest
  rw [typed]
  rfl

theorem updated_requested {order : Order} {reverseCompIDs : Bool}
    (updates : Updates message reverseCompIDs)
    (addresses : book.Addresses message reverseCompIDs key order)
    (refused : Failed (book.process message).1 ↔ (order.update message).1 ≠ .ok ())
    (settled : EndsSettled book message)
    (before : Requested order (requests key)) :
    Requested (order.update message).2 (noteRequest book message requests key) := by
  have addressed : Order.keyForMessage message (reverses message) = .ok key := by
    rw [← updates.concerns.reverses]
    exact addresses.1
  by_cases failed : Failed (book.process message).1
  · rw [noteRequest_of_failed failed]
    intro field member
    rw [pendingFields_of_refused (refused.mp failed)] at member
    exact before field member
  have accepted : (book.process message).1 = .ok (.ok ()) := not_not.mp failed
  rcases updates with ⟨typed, rfl, notReplaced⟩ | ⟨typed, -⟩
  · have same : (order.update message).2.pendingFields = order.pendingFields := by
      rw [update_of_other order typed (by decide) (by decide)]
      rfl
    by_cases ends : endsByReport message
    · apply requested_of_settled
      rw [same]
      exact settled ends (fun reports => notReplaced reports.2) accepted key order
        addresses
    · have endless : endsRequests message = false := by
        unfold endsRequests
        rw [Bool.eq_false_iff.mpr ends, Bool.or_false]
        exact decide_eq_false (not_typed typed (by decide))
      rw [noteRequest_of_other (not_request_of_report typed) endless]
      intro field member
      rw [same] at member
      exact before field member
  · rw [noteRequest_of_request accepted addressed (isRequest_of_typed typed)]
    intro field member
    have source : field ∈ order.pendingFields ∨ field ∈ message.fields := by
      rcases update_pendingFields order message with same | merged
      · rw [same] at member
        exact .inl member
      · rw [merged] at member
        exact mem_mergeFields member
    rcases source with pending | carried
    · obtain ⟨request, inside, asked⟩ := before field pending
      exact ⟨request, List.mem_cons_of_mem _ inside, asked⟩
    · exact ⟨message, List.mem_cons_self, carried⟩

/-- One call keeps the account, if it ends no request whose fields it leaves. -/
theorem process_accounted (accounted : Accounted book requests)
    (settled : EndsSettled book message) :
    Accounted (book.process message).2 (noteRequest book message requests) := by
  have elsewhere {key : Bytes} {reverseCompIDs : Bool}
      (concerns : Concerns message reverseCompIDs)
      (addressed : Order.keyForMessage message reverseCompIDs = .ok key) :
      ∀ other, other ≠ key →
        noteRequest book message requests other = requests other := by
    rw [concerns.reverses] at addressed
    intro other differs
    exact noteRequest_elsewhere addressed differs
  have effect := process_effect book message
  cases called : book.process message with
  | mk result after =>
  rw [called] at effect
  have sameResult : (book.process message).1 = result := by rw [called]
  cases effect with
  | ignored failed ignores =>
      rw [noteRequest_of_failed (by rw [sameResult]; exact failed)]
      exact accounted
  | created order typed constructed free =>
      have unnoted : noteRequest book message requests = requests := by
        apply noteRequest_of_other
        · unfold isRequest
          rw [typed]
          rfl
        · unfold endsRequests endsByReport isReport
          rw [typed]
          rfl
      rw [unnoted]
      apply accounted.store (fun _ _ => rfl)
      exact requested_of_settled (create_parts constructed).2.2.1 _
  | updated reverseCompIDs key order updates addresses refused =>
      apply accounted.store (elsewhere updates.concerns addresses.1)
      apply updated_requested updates addresses _ settled
        (accounted key order addresses.2)
      rw [sameResult]
      exact refused
  | replaced key order replacement original reports addresses divided free =>
      have first : Accounted (book.store key original)
          (noteRequest book message requests) := by
        apply accounted.store (elsewhere reports.concerns addresses.1)
        apply requested_of_settled
        rw [(replacement_parts reports divided).1]
        exact rollback_pendingFields order
      apply first.store (fun _ _ => rfl)
      apply requested_of_settled
      rw [replace_eq order reports.1] at divided
      injection divided with made
      injection made with made
      rw [← made]
      exact named_pendingFields order message
  | refused failed key order replacement original reports addresses divided =>
      rw [noteRequest_of_failed (by rw [sameResult]; exact failed)]
      apply accounted.store (fun _ _ => rfl)
      apply requested_of_settled
      rw [(replacement_parts reports divided).1]
      exact rollback_pendingFields order
  | rejected key order typed addresses =>
      apply accounted.store (elsewhere (.inl ⟨.inr typed, rfl⟩) addresses.1)
      exact requested_of_settled (rollback_pendingFields order) _

/-! ### Runs -/

/-- An order has pending fields only while a request is outstanding for it. -/
def PendingWhileOutstanding (book : OrderBook) (requests : Requests) : Prop :=
  ∀ key order, book.orders.lookup key = some order →
    order.pendingFields ≠ [] → requests key ≠ []

/-- A replacement takes its values from the outstanding requests, from the
report and from the order. -/
def CommitsOutstanding (book : OrderBook) (requests : Requests)
    (message : Message) : Prop :=
  ReportsReplaced message → ∀ key order replacement original,
    book.Addresses message true key order →
      order.replace message = (.ok replacement, original) →
        ∀ field ∈ replacement.fields, field.tag ∉ identityFields →
          field.tag ≠ Tag.OrdStatus →
            (∃ request ∈ requests key, field ∈ request.fields) ∨
              field ∈ message.fields ∨ field ∈ order.fields

structure PendingAccounted (messages : List Message) : Prop where
  pending : ∀ earlier, earlier <+: messages →
    PendingWhileOutstanding (empty.processAll earlier) (followRequests earlier).2
  committed : ∀ earlier message, earlier ++ [message] <+: messages →
    CommitsOutstanding (empty.processAll earlier) (followRequests earlier).2 message

theorem followRequests_accounted {messages : List Message}
    (settled : ∀ earlier message, earlier ++ [message] <+: messages →
      EndsSettled (empty.processAll earlier) message) :
    Accounted (empty.processAll messages) (followRequests messages).2 := by
  induction messages using List.reverseRecOn with
  | nil =>
      intro key order impossible
      cases impossible
  | append_singleton earlier message ih =>
      have before := ih fun first next inside =>
        settled first next (inside.trans (List.prefix_append _ _))
      rw [processAll_concat, followRequests_concat, followRequests_book]
      exact process_accounted before (settled earlier message (List.prefix_refl _))

theorem Accounted.pending (accounted : Accounted book requests) :
    PendingWhileOutstanding book requests := by
  intro key order found nonempty none
  obtain ⟨field, member⟩ := List.exists_mem_of_ne_nil _ nonempty
  obtain ⟨request, inside, -⟩ := accounted key order found field member
  rw [none] at inside
  cases inside

theorem Accounted.committed (accounted : Accounted book requests)
    (reachable : Reachable book) (message : Message) :
    CommitsOutstanding book requests message := by
  intro reports key order replacement original addresses divided field member other
    notStatus
  obtain ⟨-, cached⟩ := identified_of_reachable reachable key order addresses.2
  rcases mem_replacement cached reports.1 divided member other notStatus with
    pending | carried
  · exact .inl (accounted key order addresses.2 field pending)
  · exact .inr carried

/-- A report that ends a request leaves the pending fields of the order. -/
theorem pending_after_end {order : Order} (ends : endsByReport message)
    (notReplaced : ¬ ReportsReplaced message)
    (accepted : (book.process message).1 = .ok (.ok ()))
    (addresses : book.Addresses message true key order) :
    (∃ after, (book.process message).2.orders.lookup key = some after ∧
        after.pendingFields = order.pendingFields) ∧
      noteRequest book message requests key = [] := by
  have typed : message.MsgType = .ok MsgType.ExecutionReport := by
    unfold endsByReport at ends
    rw [Bool.and_eq_true] at ends
    exact of_decide_eq_true ends.1
  have concerns : Concerns message true := .inl ⟨.inl typed, rfl⟩
  have addressed : Order.keyForMessage message (reverses message) = .ok key := by
    rw [← concerns.reverses]
    exact addresses.1
  have updated := update_of_other order typed (by decide) (by decide)
  constructor
  · have calls : book.process message = book.updateStored key order message := by
      have execType : (message.fields.tryGet Tag.ExecType).map Field.value ≠
          some ExecType.Replaced := fun replaced => notReplaced ⟨typed, replaced⟩
      rw [(process_of_msgType typed).1 rfl]
      unfold processExecutionReport
      rw [addresses.1]
      simp only [addresses.2, if_neg execType]
    have stored := (updateStored_spec book key order message).2
    rw [← calls] at stored
    refine ⟨_, stored, ?_⟩
    rw [updated]
    rfl
  · apply noteRequest_of_end accepted addressed (not_request_of_report typed)
    unfold endsRequests
    rw [ends, Bool.or_true]

/-- In a run, pending fields belong to outstanding requests and no other values
are committed, exactly if no report ends a request while its fields are pending,
other than by replacing the order. -/
theorem pendingAccounted_iff (messages : List Message) :
    PendingAccounted messages ↔
      ∀ earlier message, earlier ++ [message] <+: messages →
        EndsSettled (empty.processAll earlier) message := by
  constructor
  · intro account earlier message inside ends notReplaced accepted key order
      addresses
    obtain ⟨⟨after, stored, same⟩, ended⟩ :=
      @pending_after_end _ message (followRequests earlier).2 key order ends
        notReplaced accepted addresses
    have pending := account.pending (earlier ++ [message]) inside
    rw [processAll_concat, followRequests_concat, followRequests_book] at pending
    by_contra nonempty
    rw [← same] at nonempty
    exact pending key after stored nonempty ended
  · intro settled
    have accounted {earlier : List Message} (inside : earlier <+: messages) :
        Accounted (empty.processAll earlier) (followRequests earlier).2 :=
      followRequests_accounted fun first next early =>
        settled first next (early.trans inside)
    exact {
      pending := fun earlier inside => (accounted inside).pending
      committed := fun earlier message inside =>
        (accounted ((List.prefix_append _ _).trans inside)).committed
          (reachable_processAll .empty earlier) message }

end

/-! ### A fill that overtakes a request -/

def filledWhileRequested : List Message :=
  [orderSingle, repriced, statusReport OrdStatus.Filled]

/-- No request is outstanding after the fill, the requested price is still
pending, and a replacement commits it. -/
theorem filled_leaves_pending :
    (followRequests filledWhileRequested).2 (ascii "A-B-1") = [] ∧
      ((empty.processAll filledWhileRequested).orders.lookup
          (ascii "A-B-1")).map (fun order => order.pendingFields.tryGet 44) =
        some (some ⟨44, ascii "10.5"⟩) ∧
      ((empty.processAll (filledWhileRequested ++ [replacedReport])).orders.lookup
          (ascii "A-B-2")).map (fun order => order.fields.tryGet 44) =
        some (some ⟨44, ascii "10.5"⟩) ∧
      ¬ PendingAccounted filledWhileRequested := by
  have ended : (followRequests filledWhileRequested).2 (ascii "A-B-1") = [] := by
    decide
  have left : ((empty.processAll filledWhileRequested).orders.lookup
      (ascii "A-B-1")).map (fun order => order.pendingFields.tryGet 44) =
        some (some ⟨44, ascii "10.5"⟩) := by decide
  refine ⟨ended, left, by decide, ?_⟩
  intro account
  obtain ⟨order, found, price⟩ := Option.map_eq_some_iff.mp left
  apply account.pending filledWhileRequested (List.prefix_refl _) _ order found
  · intro none
    rw [none] at price
    cases price
  · exact ended

end OrderBook

end Crocofix

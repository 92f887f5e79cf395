/-
The status that an accepted request or replacement announces.

The status is written into the OrdStatus field of the order.  An order that no
report has acknowledged need not have that field, and then nothing is written.
-/

import Crocofix.OrderBook.Frame
import Crocofix.OrderBook.Replacement

namespace Crocofix

open Numeral

namespace FieldCollection

theorem tryGet_put_isSome (fields : FieldCollection) (field : Field) (tag : Int32) :
    ((fields.put field).tryGet tag).isSome = (fields.tryGet tag).isSome := by
  rw [tryGet_put]
  split
  · rw [Option.isSome_map]
  · rfl

end FieldCollection

namespace Order

theorem rollback_ordStatus_isSome (order : Order) :
    order.rollback.ordStatus.isSome = order.ordStatus.isSome := by
  unfold ordStatus rollback
  rw [Option.isSome_map, Option.isSome_map]
  cases order.previousOrdStatus with
  | none => rfl
  | some status =>
      exact FieldCollection.tryGet_put_isSome order.fields status Tag.OrdStatus

theorem map_const_eq_some_iff (status : Option Bytes) (other : Bytes) :
    status.map (fun _ => other) = some other ↔ status.isSome := by
  cases status <;> simp

def announced (message : Message) : Option Bytes :=
  if message.MsgType = .ok MsgType.OrderCancelReplaceRequest then
    some OrdStatus.PendingReplace
  else if message.MsgType = .ok MsgType.OrderCancelRequest then
    some OrdStatus.PendingCancel
  else none

theorem update_announced {order : Order} {message : Message} {status : Bytes}
    (announces : announced message = some status)
    (accepted : (order.update message).1 = .ok ()) :
    (order.update message).2.ordStatus = order.ordStatus.map fun _ => status := by
  unfold announced at announces
  unfold update at accepted ⊢
  by_cases replaces : message.MsgType = .ok MsgType.OrderCancelReplaceRequest
  · rw [if_pos replaces] at announces
    injection announces with announces
    rw [replaces] at accepted ⊢
    simp only [if_true] at accepted ⊢
    cases named : message.fields.get Tag.ClOrdID with
    | error exception =>
        rw [named] at accepted
        cases accepted
    | ok clOrdID =>
        rw [← announces]
        exact ordStatus_setOrdStatus _ OrdStatus.PendingReplace
  · rw [if_neg replaces] at announces
    by_cases cancels : message.MsgType = .ok MsgType.OrderCancelRequest
    · rw [if_pos cancels] at announces
      injection announces with announces
      rw [cancels, ← announces]
      exact ordStatus_setOrdStatus _ OrdStatus.PendingCancel
    · rw [if_neg cancels] at announces
      cases announces

end Order

namespace OrderBook

open Crocofix.Order

def statusAt (book : OrderBook) (key : Bytes) : Option Bytes :=
  (book.orders.lookup key).bind Order.ordStatus

theorem statusAt_store (book : OrderBook) (key : Bytes) (order : Order) :
    (book.store key order).statusAt key = order.ordStatus := by
  unfold statusAt
  rw [lookup_store]
  rfl

theorem statusAt_store_ne (book : OrderBook) {key other : Bytes} (order : Order)
    (differs : other ≠ key) :
    (book.store key order).statusAt other = book.statusAt other := by
  unfold statusAt
  rw [lookup_store_ne order differs]

/-- The statuses after a call that concerned the given order. -/
structure Announces (book : OrderBook) (message : Message) (key : Bytes)
    (order : Order) : Prop where
  cancel : message.MsgType = .ok MsgType.OrderCancelRequest →
    (book.process message).2.statusAt key = some OrdStatus.PendingCancel
  replace : message.MsgType = .ok MsgType.OrderCancelReplaceRequest →
    (book.process message).2.statusAt key = some OrdStatus.PendingReplace
  original : ReportsReplaced message →
    (book.process message).2.statusAt key = some OrdStatus.Replaced
  replacement : ReportsReplaced message →
    (book.process message).2.statusAt (order.replacementKey message) =
      some OrdStatus.New

def ChangesStatus (message : Message) : Prop :=
  message.MsgType = .ok MsgType.OrderCancelRequest ∨
    message.MsgType = .ok MsgType.OrderCancelReplaceRequest ∨
      ReportsReplaced message

section

variable {book : OrderBook} {message : Message} {reverseCompIDs : Bool}
  {key : Bytes} {order : Order}

theorem stored_of_request
    (requests : message.MsgType = .ok MsgType.OrderCancelRequest ∨
      message.MsgType = .ok MsgType.OrderCancelReplaceRequest)
    (addresses : book.Addresses message reverseCompIDs key order)
    (concerns : Concerns message reverseCompIDs)
    (accepted : (book.process message).1 = .ok (.ok ())) :
    (order.update message).1 = .ok () ∧
      (book.process message).2 = book.store key (order.update message).2 := by
  have effect := process_effect book message
  revert accepted effect
  generalize book.process message = called
  intro accepted effect
  have notReport : message.MsgType ≠ .ok MsgType.ExecutionReport := by
    intro report
    exact not_requests_of_reports (.inl report) requests
  cases effect with
  | ignored failed ignores => exact absurd accepted failed
  | created single typed => exact absurd typed concerns.not_single
  | updated reverseAgain keyAgain found updates again refused =>
      have reversed : reverseAgain = reverseCompIDs :=
        updates.concerns.reverses.trans concerns.reverses.symm
      rw [reversed] at again
      obtain ⟨rfl, rfl⟩ := Addresses.unique addresses again
      refine ⟨?_, rfl⟩
      by_contra rejected
      exact refused.mpr rejected accepted
  | replaced _ _ _ _ reports => exact absurd reports.1 notReport
  | refused failed => exact absurd accepted failed
  | rejected _ _ typed =>
      exact absurd requests (not_requests_of_reports (.inr typed))

theorem stored_of_replaced (reports : ReportsReplaced message)
    (addresses : book.Addresses message true key order)
    (accepted : (book.process message).1 = .ok (.ok ())) :
    ∃ replacement original,
      order.replace message = (.ok replacement, original) ∧
        replacement.key ≠ key ∧
        (book.process message).2 =
          (book.store key original).store replacement.key replacement := by
  have effect := process_effect book message
  revert accepted effect
  generalize book.process message = called
  intro accepted effect
  cases effect with
  | ignored failed ignores => exact absurd accepted failed
  | created single typed => exact absurd typed reports.concerns.not_single
  | updated _ _ _ updates => exact absurd reports updates.not_replaced
  | replaced keyAgain found replacement original _ again divided free =>
      obtain ⟨rfl, rfl⟩ := Addresses.unique addresses again
      refine ⟨replacement, original, divided, ?_, rfl⟩
      intro same
      rw [same, addresses.2] at free
      cases free
  | refused failed => exact absurd accepted failed
  | rejected _ _ typed => exact absurd reports (not_replaced_of_reject typed)

theorem statusAt_of_request {status : Bytes}
    (announces : announced message = some status)
    (requests : message.MsgType = .ok MsgType.OrderCancelRequest ∨
      message.MsgType = .ok MsgType.OrderCancelReplaceRequest)
    (addresses : book.Addresses message reverseCompIDs key order)
    (concerns : Concerns message reverseCompIDs)
    (accepted : (book.process message).1 = .ok (.ok ())) :
    (book.process message).2.statusAt key = some status ↔
      order.ordStatus.isSome := by
  obtain ⟨updated, stored⟩ :=
    stored_of_request requests addresses concerns accepted
  rw [stored, statusAt_store, update_announced announces updated,
    map_const_eq_some_iff]

theorem statusAt_of_replaced (reports : ReportsReplaced message)
    (addresses : book.Addresses message true key order)
    (accepted : (book.process message).1 = .ok (.ok ())) :
    ((book.process message).2.statusAt key = some OrdStatus.Replaced ↔
        order.ordStatus.isSome) ∧
      (order.ordStatus.isSome →
        (book.process message).2.statusAt (order.replacementKey message) =
          some OrdStatus.New) := by
  obtain ⟨replacement, original, divided, differs, stored⟩ :=
    stored_of_replaced reports addresses accepted
  rw [replace_eq order reports.1] at divided
  injection divided with made behind
  injection made with made
  have keyed : replacement.key = order.replacementKey message := by
    rw [← made]
    rfl
  rw [stored]
  constructor
  · rw [statusAt_store_ne _ replacement (Ne.symm differs), statusAt_store, ← behind]
    have status : (order.replacedBy message).ordStatus =
        order.rollback.ordStatus.map fun _ => OrdStatus.Replaced :=
      ordStatus_setOrdStatus order.rollback OrdStatus.Replaced
    rw [status, map_const_eq_some_iff, rollback_ordStatus_isSome]
  · intro present
    rw [← keyed, statusAt_store, ← made, ordStatus_setOrdStatus,
      map_const_eq_some_iff]
    unfold ordStatus
    rw [Option.isSome_map]
    exact present_named present message

/-- After an accepted request or replacement the orders have the announced
status exactly where the order had a status before. -/
theorem announces_iff (changes : ChangesStatus message)
    (concerns : Concerns message reverseCompIDs)
    (addresses : book.Addresses message reverseCompIDs key order)
    (accepted : (book.process message).1 = .ok (.ok ())) :
    Announces book message key order ↔ order.ordStatus.isSome := by
  have cancelStatus (typed : message.MsgType = .ok MsgType.OrderCancelRequest) :
      announced message = some OrdStatus.PendingCancel := by
    unfold announced
    rw [if_neg (not_typed typed (by decide)), if_pos typed]
  have replaceStatus
      (typed : message.MsgType = .ok MsgType.OrderCancelReplaceRequest) :
      announced message = some OrdStatus.PendingReplace := by
    unfold announced
    rw [if_pos typed]
  have reversed (reports : ReportsReplaced message) :
      book.Addresses message true key order := by
    have same := concerns.reverses.trans reports.concerns.reverses.symm
    rw [← same]
    exact addresses
  constructor
  · intro announces
    rcases changes with typed | typed | reports
    · exact (statusAt_of_request (cancelStatus typed) (.inl typed) addresses
        concerns accepted).mp (announces.cancel typed)
    · exact (statusAt_of_request (replaceStatus typed) (.inr typed) addresses
        concerns accepted).mp (announces.replace typed)
    · exact (statusAt_of_replaced reports (reversed reports) accepted).1.mp
        (announces.original reports)
  · intro present
    exact {
      cancel := fun typed =>
        (statusAt_of_request (cancelStatus typed) (.inl typed) addresses concerns
          accepted).mpr present
      replace := fun typed =>
        (statusAt_of_request (replaceStatus typed) (.inr typed) addresses concerns
          accepted).mpr present
      original := fun reports =>
        (statusAt_of_replaced reports (reversed reports) accepted).1.mpr present
      replacement := fun reports =>
        (statusAt_of_replaced reports (reversed reports) accepted).2 present }

end

/-! ### Runs -/

def AnnouncesStatus (book : OrderBook) (message : Message) : Prop :=
  ChangesStatus message → (book.process message).1 = .ok (.ok ()) →
    ∀ reverseCompIDs key order, Concerns message reverseCompIDs →
      book.Addresses message reverseCompIDs key order →
        Announces book message key order

/-- An accepted call finds a status in the order that it concerns. -/
def FindsStatus (book : OrderBook) (message : Message) : Prop :=
  ChangesStatus message → (book.process message).1 = .ok (.ok ()) →
    ∀ reverseCompIDs key order, Concerns message reverseCompIDs →
      book.Addresses message reverseCompIDs key order → order.ordStatus.isSome

theorem announcesStatus_iff (book : OrderBook) (message : Message) :
    AnnouncesStatus book message ↔ FindsStatus book message := by
  constructor
  · intro announces changes accepted reverseCompIDs key order concerns addresses
    exact (announces_iff changes concerns addresses accepted).mp
      (announces changes accepted reverseCompIDs key order concerns addresses)
  · intro finds changes accepted reverseCompIDs key order concerns addresses
    exact (announces_iff changes concerns addresses accepted).mpr
      (finds changes accepted reverseCompIDs key order concerns addresses)

/-- In a run, the orders show every announced status exactly if each request and
each replacement finds an order that has a status. -/
theorem run_announces_iff (messages : List Message) :
    (∀ earlier message, earlier ++ [message] <+: messages →
        AnnouncesStatus (empty.processAll earlier) message) ↔
      ∀ earlier message, earlier ++ [message] <+: messages →
        FindsStatus (empty.processAll earlier) message := by
  constructor
  · intro announces earlier message inside
    exact (announcesStatus_iff _ _).mp (announces earlier message inside)
  · intro finds earlier message inside
    exact (announcesStatus_iff _ _).mpr (finds earlier message inside)

/-! ### An order that was not acknowledged -/

/-- Without a report, a request is accepted and the order gets no status. -/
theorem unacknowledged_has_no_status :
    Reachable (empty.processAll [orderSingle]) ∧
      ((empty.processAll [orderSingle]).process cancelRequest).1 = .ok (.ok ()) ∧
      (empty.processAll [orderSingle, cancelRequest]).statusAt (ascii "A-B-1") =
        none ∧
      ¬ AnnouncesStatus (empty.processAll [orderSingle]) cancelRequest := by
  have unset : (empty.processAll [orderSingle, cancelRequest]).statusAt
      (ascii "A-B-1") = none := by decide
  have accepted : ((empty.processAll [orderSingle]).process cancelRequest).1 =
      .ok (.ok ()) := by decide
  refine ⟨reachable_processAll .empty _, accepted, unset, ?_⟩
  intro announces
  have found : ∃ order,
      (empty.processAll [orderSingle]).orders.lookup (ascii "A-B-1") = some order :=
    Option.isSome_iff_exists.mp (by decide)
  obtain ⟨order, found⟩ := found
  have pending := (announces (.inl (by decide)) accepted false _ order
    (.inr ⟨.inl (by decide), rfl⟩) ⟨by decide, found⟩).cancel (by decide)
  change (empty.processAll [orderSingle, cancelRequest]).statusAt _ = _ at pending
  rw [unset] at pending
  cases pending

end OrderBook

end Crocofix

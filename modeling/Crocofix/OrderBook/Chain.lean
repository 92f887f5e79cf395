/-
The ClOrdIDs of replacements.

A ledger beside the book records the requests to replace each order and what
became of them.  The book itself keeps only the ClOrdID of the latest request,
and does not forget it when the request is rejected.
-/

import Crocofix.OrderBook.Frame
import Mathlib.Data.List.Induction

namespace Crocofix

open Numeral

inductive Answer
  | outstanding
  | rejected
  | replaced
deriving DecidableEq, Repr

structure ReplaceRequest where
  clOrdID : Bytes
  answer : Answer
deriving DecidableEq, Repr

namespace ReplaceRequest

def isOutstanding (request : ReplaceRequest) : Bool :=
  request.answer = .outstanding

/-- A reject answers the outstanding requests with its ClOrdID. -/
def reject (clOrdID : Option Bytes) (request : ReplaceRequest) : ReplaceRequest :=
  if request.isOutstanding && some request.clOrdID = clOrdID then
    { request with answer := .rejected }
  else request

/-- A replacement consumes the latest outstanding request. -/
def consume : List ReplaceRequest → List ReplaceRequest
  | [] => []
  | request :: earlier =>
      if request.isOutstanding then { request with answer := .replaced } :: earlier
      else request :: consume earlier

def latestOutstanding (requests : List ReplaceRequest) : Option Bytes :=
  (requests.find? isOutstanding).map clOrdID

theorem outstanding_of_reject {clOrdID : Option Bytes} {request : ReplaceRequest}
    (outstanding : (request.reject clOrdID).isOutstanding) :
    request.reject clOrdID = request ∧ some request.clOrdID ≠ clOrdID := by
  unfold reject at outstanding ⊢
  split
  · next answered =>
    rw [if_pos answered] at outstanding
    cases outstanding
  · next other =>
    rw [if_neg other] at outstanding
    refine ⟨rfl, ?_⟩
    intro same
    apply other
    rw [outstanding, decide_eq_true same]
    rfl

theorem mem_of_mem_consume {requests : List ReplaceRequest}
    {request : ReplaceRequest} (member : request ∈ consume requests)
    (outstanding : request.isOutstanding) : request ∈ requests := by
  induction requests with
  | nil => cases member
  | cons first earlier ih =>
      unfold consume at member
      split at member
      · rcases List.mem_cons.mp member with here | later
        · rw [here] at outstanding
          cases outstanding
        · exact List.mem_cons_of_mem _ later
      · rcases List.mem_cons.mp member with here | later
        · rw [here]
          exact List.mem_cons_self
        · exact List.mem_cons_of_mem _ (ih later)

end ReplaceRequest

/-- The requests to replace the order with a key, the latest first. -/
abbrev Ledger := Bytes → List ReplaceRequest

namespace OrderBook

open ReplaceRequest (latestOutstanding consume)

instance (message : Message) : Decidable (ReportsReplaced message) :=
  inferInstanceAs (Decidable (_ ∧ _))

def clOrdIDOf (message : Message) : Option Bytes :=
  (message.fields.tryGet Tag.ClOrdID).map Field.value

/-- What a call means for the ledger. -/
def note (book : OrderBook) (message : Message) (ledger : Ledger) : Ledger :=
  fun key =>
    if message.MsgType = .ok MsgType.OrderCancelReplaceRequest ∧
        Order.keyForMessage message false = .ok key ∧ key ∈ book.orders then
      match clOrdIDOf message with
      | some clOrdID => ⟨clOrdID, .outstanding⟩ :: ledger key
      | none => ledger key
    else if message.MsgType = .ok MsgType.OrderCancelReject ∧
        Order.keyForMessage message true = .ok key then
      (ledger key).map (ReplaceRequest.reject (clOrdIDOf message))
    else if ReportsReplaced message ∧ Order.keyForMessage message true = .ok key ∧
        (book.process message).1 = .ok (.ok ()) then
      consume (ledger key)
    else ledger key

def follow (messages : List Message) : OrderBook × Ledger :=
  messages.foldl
    (fun current message =>
      ((current.1.process message).2, note current.1 message current.2))
    (empty, fun _ => [])

theorem follow_concat (messages : List Message) (message : Message) :
    follow (messages ++ [message]) =
      (((follow messages).1.process message).2,
        note (follow messages).1 message (follow messages).2) := by
  unfold follow
  rw [List.foldl_append]
  rfl

theorem follow_book (messages : List Message) :
    (follow messages).1 = empty.processAll messages := by
  induction messages using List.reverseRecOn with
  | nil => rfl
  | append_singleton earlier message ih =>
      rw [follow_concat, processAll_concat, ih]

/-! ### What the book remembers of the ledger -/

/-- The ClOrdID that an order remembers belongs to the latest request, or it is
the one that the order itself was given. -/
def Remembers (book : OrderBook) (order : Order) :
    List ReplaceRequest → Prop
  | [] =>
      order.newClOrdID = none ∨
        order.newClOrdID.map Field.value = some order.clOrdID.value
  | request :: earlier =>
      order.newClOrdID.map Field.value = some request.clOrdID ∧
        match request.answer with
        | .outstanding => True
        | .rejected => ∀ other ∈ earlier, other.isOutstanding →
            other.clOrdID ≠ request.clOrdID
        | .replaced =>
            Order.createKey order.senderCompID order.targetCompID
              request.clOrdID ∈ book.orders

structure Recorded (book : OrderBook) (ledger : Ledger) : Prop where
  fresh : ∀ key, key ∉ book.orders → ledger key = []
  remembered : ∀ key order, book.orders.lookup key = some order →
    Remembers book order (ledger key)

structure SameMemory (before after : Order) : Prop where
  newClOrdID : after.newClOrdID = before.newClOrdID
  clOrdID : after.clOrdID = before.clOrdID
  senderCompID : after.senderCompID = before.senderCompID
  targetCompID : after.targetCompID = before.targetCompID

theorem Remembers.of_same {book after : OrderBook} {order changed : Order}
    {requests : List ReplaceRequest} (remembers : Remembers book order requests)
    (grown : ∀ key ∈ book.orders, key ∈ after.orders)
    (same : SameMemory order changed) : Remembers after changed requests := by
  unfold Remembers at remembers ⊢
  rw [same.newClOrdID, same.clOrdID, same.senderCompID, same.targetCompID]
  cases requests with
  | nil => exact remembers
  | cons request earlier =>
      obtain ⟨named, answered⟩ := remembers
      refine ⟨named, ?_⟩
      cases answer : request.answer with
      | outstanding => trivial
      | rejected =>
          rw [answer] at answered
          exact answered
      | replaced =>
          rw [answer] at answered
          exact grown _ answered

theorem Remembers.reject {book : OrderBook} {order : Order}
    {requests : List ReplaceRequest} (remembers : Remembers book order requests)
    (clOrdID : Option Bytes) :
    Remembers book order (requests.map (ReplaceRequest.reject clOrdID)) := by
  cases requests with
  | nil => exact remembers
  | cons request earlier =>
      obtain ⟨named, answered⟩ := remembers
      have others (same : ∀ other ∈ earlier, other.isOutstanding →
          some other.clOrdID ≠ clOrdID → other.clOrdID ≠ request.clOrdID) :
          ∀ other ∈ earlier.map (ReplaceRequest.reject clOrdID),
            other.isOutstanding → other.clOrdID ≠ request.clOrdID := by
        intro other member outstanding
        obtain ⟨old, inside, rfl⟩ := List.mem_map.mp member
        obtain ⟨unchanged, differs⟩ :=
          ReplaceRequest.outstanding_of_reject outstanding
        rw [unchanged] at outstanding ⊢
        exact same old inside outstanding differs
      rw [List.map_cons]
      by_cases hit : request.isOutstanding && some request.clOrdID = clOrdID
      · rw [ReplaceRequest.reject, if_pos hit]
        refine ⟨named, ?_⟩
        simp only [Bool.and_eq_true, decide_eq_true_eq] at hit
        apply others
        intro other _ _ differs same
        rw [same] at differs
        exact differs hit.2
      · rw [ReplaceRequest.reject, if_neg hit]
        refine ⟨named, ?_⟩
        cases answer : request.answer with
        | outstanding => trivial
        | rejected =>
            rw [answer] at answered
            exact others fun other member outstanding _ =>
              answered other member outstanding
        | replaced =>
            rw [answer] at answered
            exact answered

theorem Remembers.consume {book : OrderBook} {order : Order}
    {requests : List ReplaceRequest} (remembers : Remembers book order requests)
    (taken : ∀ clOrdID, order.newClOrdID.map Field.value = some clOrdID →
      Order.createKey order.senderCompID order.targetCompID clOrdID ∈
        book.orders) : Remembers book order (consume requests) := by
  cases requests with
  | nil => exact remembers
  | cons request earlier =>
      obtain ⟨named, answered⟩ := remembers
      unfold ReplaceRequest.consume
      split
      · exact ⟨named, taken _ named⟩
      · refine ⟨named, ?_⟩
        cases answer : request.answer with
        | outstanding => trivial
        | rejected =>
            rw [answer] at answered
            intro other member outstanding
            exact answered other
              (ReplaceRequest.mem_of_mem_consume member outstanding) outstanding
        | replaced =>
            rw [answer] at answered
            exact answered

/-! ### Calls and the ledger -/

theorem note_of_unaddressed {book : OrderBook} {message : Message}
    (ledger : Ledger) {key : Bytes}
    (unaddressed : ∀ reverseCompIDs, Concerns message reverseCompIDs →
      Order.keyForMessage message reverseCompIDs ≠ .ok key) :
    note book message ledger key = ledger key := by
  unfold note
  split
  · next requests =>
    exact absurd requests.2.1 (unaddressed false (.inr ⟨.inr requests.1, rfl⟩))
  · split
    · next rejects =>
      exact absurd rejects.2 (unaddressed true (.inl ⟨.inr rejects.1, rfl⟩))
    · split
      · next replaces =>
        exact absurd replaces.2.1 (unaddressed true replaces.1.concerns)
      · rfl

theorem note_of_absent {book : OrderBook} (message : Message) {ledger : Ledger}
    {key : Bytes} (absent : key ∉ book.orders) (nothing : ledger key = []) :
    note book message ledger key = [] := by
  unfold note
  rw [nothing]
  split
  · next requests => exact absurd requests.2.2 absent
  · split
    · rfl
    · split
      · rfl
      · rfl

theorem note_elsewhere {book : OrderBook} {message : Message}
    {reverseCompIDs : Bool} {key other : Bytes} (ledger : Ledger)
    (concerns : Concerns message reverseCompIDs)
    (addressed : Order.keyForMessage message reverseCompIDs = .ok key)
    (differs : other ≠ key) :
    note book message ledger other = ledger other := by
  apply note_of_unaddressed
  intro again concernsAgain same
  rw [concernsAgain.reverses, ← concerns.reverses, addressed] at same
  injection same with same
  exact differs same.symm

theorem mem_store_of_mem {book : OrderBook} {other : Bytes} (key : Bytes)
    (order : Order) (member : other ∈ book.orders) :
    other ∈ (book.store key order).orders :=
  (AList.mem_insert _).mpr (.inr member)

theorem SameMemory.refl (order : Order) : SameMemory order order :=
  ⟨rfl, rfl, rfl, rfl⟩

theorem Recorded.store {book : OrderBook} {ledger noted : Ledger} {key : Bytes}
    {order : Order} (recorded : Recorded book ledger)
    (elsewhere : ∀ other, other ≠ key → noted other = ledger other)
    (here : Remembers (book.store key order) order (noted key)) :
    Recorded (book.store key order) noted where
  fresh := by
    intro other absent
    have differs : other ≠ key := by
      rintro rfl
      exact absent ((AList.mem_insert _).mpr (.inl rfl))
    rw [elsewhere other differs]
    exact recorded.fresh other fun member =>
      absent (mem_store_of_mem key order member)
  remembered := by
    intro other stored found
    by_cases same : other = key
    · rw [same, lookup_store] at found
      injection found with found
      rw [same, ← found]
      exact here
    · rw [lookup_store_ne order same] at found
      rw [elsewhere other same]
      exact (recorded.remembered other stored found).of_same
        (fun _ member => mem_store_of_mem key order member) (.refl stored)

theorem Recorded.renote {book : OrderBook} {ledger noted : Ledger} {key : Bytes}
    {order : Order} (recorded : Recorded book ledger)
    (elsewhere : ∀ other, other ≠ key → noted other = ledger other)
    (found : book.orders.lookup key = some order)
    (here : Remembers book order (noted key)) : Recorded book noted where
  fresh := by
    intro other absent
    have differs : other ≠ key := by
      rintro rfl
      exact absent (mem_orders_of_lookup found)
    rw [elsewhere other differs]
    exact recorded.fresh other absent
  remembered := by
    intro other stored storedFound
    by_cases same : other = key
    · rw [same, found] at storedFound
      injection storedFound with equal
      rw [same, ← equal]
      exact here
    · rw [elsewhere other same]
      exact recorded.remembered other stored storedFound

theorem update_newClOrdID (order : Order) (message : Message) :
    (order.update message).2.newClOrdID =
      if message.MsgType = .ok MsgType.OrderCancelReplaceRequest then
        (message.fields.tryGet Tag.ClOrdID).or order.newClOrdID
      else order.newClOrdID := by
  unfold Order.update
  cases message.MsgType with
  | error exception => rfl
  | ok msgType =>
      simp only [Except.ok.injEq]
      by_cases replaces : msgType = MsgType.OrderCancelReplaceRequest
      · rw [if_pos replaces, if_pos replaces]
        unfold FieldCollection.get
        cases message.fields.tryGet Tag.ClOrdID with
        | none => rfl
        | some clOrdID => rfl
      · rw [if_neg replaces, if_neg replaces]
        split
        · rfl
        · rfl

theorem update_sameMemory {order : Order} {message : Message}
    (newClOrdID : (order.update message).2.newClOrdID = order.newClOrdID) :
    SameMemory order (order.update message).2 where
  newClOrdID := newClOrdID
  clOrdID := (Order.update_same order message).clOrdID
  senderCompID := (Order.update_same order message).senderCompID
  targetCompID := (Order.update_same order message).targetCompID

theorem rollback_sameMemory (order : Order) : SameMemory order order.rollback := by
  unfold Order.rollback
  cases order.previousOrdStatus with
  | none => exact ⟨rfl, rfl, rfl, rfl⟩
  | some status => exact ⟨rfl, rfl, rfl, rfl⟩

theorem Recorded.updated {book : OrderBook} {message : Message} {ledger : Ledger}
    {reverseCompIDs : Bool} {key : Bytes} {order : Order}
    (recorded : Recorded book ledger) (updates : Updates message reverseCompIDs)
    (addresses : book.Addresses message reverseCompIDs key order) :
    Recorded (book.store key (order.update message).2)
      (note book message ledger) := by
  have before := recorded.remembered key order addresses.2
  have member := mem_orders_of_lookup addresses.2
  have grown : ∀ other ∈ book.orders,
      other ∈ (book.store key (order.update message).2).orders :=
    fun _ inside => mem_store_of_mem key _ inside
  apply recorded.store (fun other differs =>
    note_elsewhere ledger updates.concerns addresses.1 differs)
  have notReplaced := updates.not_replaced
  have newClOrdID := update_newClOrdID order message
  unfold note
  by_cases replaces : message.MsgType = .ok MsgType.OrderCancelReplaceRequest
  · have plain : reverseCompIDs = false := concerns_of_request (.inr replaces) _
      updates.concerns
    rw [plain] at addresses
    rw [if_pos ⟨replaces, addresses.1, member⟩]
    rw [if_pos replaces] at newClOrdID
    unfold clOrdIDOf
    cases carried : message.fields.tryGet Tag.ClOrdID with
    | none =>
        rw [carried] at newClOrdID
        exact before.of_same grown (update_sameMemory newClOrdID)
    | some clOrdID =>
        rw [carried] at newClOrdID
        refine ⟨?_, trivial⟩
        rw [newClOrdID]
        rfl
  · rw [if_neg replaces] at newClOrdID
    have notReject : message.MsgType ≠ .ok MsgType.OrderCancelReject := by
      intro rejects
      rcases updates with ⟨other, -⟩ | ⟨other | other, -⟩
      · exact not_typed rejects (by decide) other
      · exact not_typed rejects (by decide) other
      · exact not_typed rejects (by decide) other
    rw [if_neg (fun requests => replaces requests.1),
      if_neg (fun rejects => notReject rejects.1),
      if_neg (fun replaced => notReplaced replaced.1)]
    exact before.of_same grown (update_sameMemory newClOrdID)

theorem replacedBy_sameMemory (order : Order) (executionReport : Message) :
    SameMemory order (order.replacedBy executionReport) := by
  have same := rollback_sameMemory order
  exact ⟨same.newClOrdID, same.clOrdID, same.senderCompID, same.targetCompID⟩

theorem replacement_parts {order replacement original : Order} {message : Message}
    (reports : ReportsReplaced message)
    (divided : order.replace message = (.ok replacement, original)) :
    original = order.replacedBy message ∧
      replacement.key = order.replacementKey message ∧
      replacement.newClOrdID = order.newClOrdID ∧
      ∀ clOrdID, order.replacementClOrdID message = some clOrdID →
        replacement.clOrdID = clOrdID ∧
          replacement.origClOrdID = some order.clOrdID := by
  rw [Order.replace_eq order reports.1] at divided
  injection divided with made behind
  injection made with made
  rw [← made]
  unfold Order.setOrdStatus Order.named
  refine ⟨behind.symm, rfl, ?_, ?_⟩
  · cases order.replacementClOrdID message with
    | none => rfl
    | some clOrdID => rfl
  · intro clOrdID named
    rw [named]
    exact ⟨rfl, rfl⟩

theorem renamed_of_free {book : OrderBook} {message : Message} {key : Bytes}
    {order replacement original : Order} (keyed : Keyed book)
    (found : book.orders.lookup key = some order)
    (reports : ReportsReplaced message)
    (divided : order.replace message = (.ok replacement, original))
    (free : book.orders.lookup replacement.key = none) :
    ∃ clOrdID, order.replacementClOrdID message = some clOrdID ∧
      replacement.clOrdID = clOrdID ∧
      replacement.origClOrdID = some order.clOrdID ∧
      Order.createKey order.senderCompID order.targetCompID clOrdID.value ∉
        book.orders := by
  obtain ⟨-, named, -, renamed⟩ := replacement_parts reports divided
  rw [Order.replacementKey_eq] at named
  cases clOrdID : order.replacementClOrdID message with
  | none =>
      rw [clOrdID] at named
      have same : replacement.key = key := by
        rw [named, keyed key order found]
        rfl
      rw [same, found] at free
      cases free
  | some field =>
      rw [clOrdID] at named
      obtain ⟨own, orig⟩ := renamed field clOrdID
      refine ⟨field, rfl, own, orig, ?_⟩
      rw [AList.lookup_eq_none, named] at free
      exact free

theorem Recorded.replaced {book : OrderBook} {message : Message} {ledger : Ledger}
    {key : Bytes} {order replacement original : Order}
    (recorded : Recorded book ledger) (reports : ReportsReplaced message)
    (addresses : book.Addresses message true key order)
    (divided : order.replace message = (.ok replacement, original))
    (free : book.orders.lookup replacement.key = none)
    (accepted : (book.process message).1 = .ok (.ok ())) :
    Recorded ((book.store key original).store replacement.key replacement)
      (note book message ledger) := by
  obtain ⟨behind, named, newClOrdID, renamed⟩ := replacement_parts reports divided
  have before := recorded.remembered key order addresses.2
  have same : SameMemory order original := by
    rw [behind]
    exact replacedBy_sameMemory order message
  have differs : key ≠ replacement.key := by
    intro equal
    rw [← equal, addresses.2] at free
    cases free
  have absent : replacement.key ∉ book.orders := AList.lookup_eq_none.mp free
  -- The order that stays behind, then the replacement, then the ledger.
  have first : Recorded (book.store key original) ledger :=
    recorded.store (fun _ _ => rfl)
      (before.of_same (fun _ => mem_store_of_mem key original) same)
  have second : Recorded
      ((book.store key original).store replacement.key replacement) ledger := by
    apply first.store (fun _ _ => rfl)
    rw [recorded.fresh _ absent]
    cases requested : order.newClOrdID with
    | none => exact .inl (newClOrdID.trans requested)
    | some clOrdID =>
        have own := (renamed clOrdID (by
          unfold Order.replacementClOrdID
          rw [requested]
          rfl)).1
        refine .inr ?_
        rw [newClOrdID, requested, own]
        rfl
  have found : ((book.store key original).store replacement.key
      replacement).orders.lookup key = some original := by
    rw [lookup_store_ne _ differs]
    exact lookup_store book key original
  refine second.renote (fun other elsewhere =>
    note_elsewhere ledger reports.concerns addresses.1 elsewhere) found ?_
  have consumed : note book message ledger key = consume (ledger key) := by
    unfold note
    rw [if_neg (fun requests => not_typed reports.1 (by decide) requests.1),
      if_neg (fun rejects => not_typed reports.1 (by decide) rejects.1),
      if_pos ⟨reports, addresses.1, accepted⟩]
  rw [consumed]
  refine ((before.of_same (fun _ inside =>
    mem_store_of_mem _ _ (mem_store_of_mem key original inside)) same).consume ?_)
  intro clOrdID remembered
  have replacementKey : Order.createKey original.senderCompID
      original.targetCompID clOrdID = replacement.key := by
    rw [same.newClOrdID] at remembered
    obtain ⟨field, requested, value⟩ := Option.map_eq_some_iff.mp remembered
    rw [named, same.senderCompID, same.targetCompID, ← value,
      Order.replacementKey_eq, Order.replacementClOrdID, requested]
    rfl
  rw [replacementKey]
  exact (AList.mem_insert _).mpr (.inl rfl)

theorem process_recorded {book : OrderBook} {ledger : Ledger}
    (recorded : Recorded book ledger) (message : Message) :
    Recorded (book.process message).2 (note book message ledger) := by
  have effect := process_effect book message
  revert effect
  generalize called : book.process message = after
  intro effect
  cases effect with
  | ignored failed ignores =>
      refine ⟨?_, ?_⟩
      · intro key absent
        exact note_of_absent message absent (recorded.fresh key absent)
      · intro key order found
        rw [note_of_unaddressed ledger (fun reverseCompIDs concerns addressed =>
          ignores.unaddressed reverseCompIDs key order concerns ⟨addressed, found⟩)]
        exact recorded.remembered key order found
  | created order typed constructed free =>
      have unaddressed (key : Bytes) : note book message ledger key = ledger key :=
        note_of_unaddressed ledger fun _ concerns => absurd typed concerns.not_single
      apply recorded.store (fun key _ => unaddressed key)
      rw [unaddressed, recorded.fresh _ (AList.lookup_eq_none.mp free)]
      obtain ⟨-, -, -, -, nothing⟩ := Order.create_parts constructed
      exact .inl nothing
  | updated reverseCompIDs key order updates addresses refused =>
      exact recorded.updated updates addresses
  | replaced key order replacement original reports addresses divided free =>
      exact recorded.replaced reports addresses divided free (by rw [called])
  | refused failed key order replacement original reports addresses divided taken =>
      have before := recorded.remembered key order addresses.2
      apply recorded.store (fun other differs =>
        note_elsewhere ledger reports.concerns addresses.1 differs)
      have unchanged : note book message ledger key = ledger key := by
        unfold note
        rw [if_neg (fun requests => not_typed reports.1 (by decide) requests.1),
          if_neg (fun rejects => not_typed reports.1 (by decide) rejects.1),
          if_neg]
        rintro ⟨-, -, accepted⟩
        rw [called] at accepted
        exact failed accepted
      obtain ⟨behind, -⟩ := replacement_parts reports divided
      rw [unchanged, behind]
      exact before.of_same (fun _ => mem_store_of_mem key _)
        (replacedBy_sameMemory order message)
  | rejected key order typed addresses =>
      have before := recorded.remembered key order addresses.2
      apply recorded.store (fun other differs =>
        note_elsewhere ledger (.inl ⟨.inr typed, rfl⟩) addresses.1 differs)
      have answered : note book message ledger key =
          (ledger key).map (ReplaceRequest.reject (clOrdIDOf message)) := by
        unfold note
        rw [if_neg (fun requests => not_typed typed (by decide) requests.1),
          if_pos ⟨typed, addresses.1⟩]
      rw [answered]
      exact (before.of_same (fun _ => mem_store_of_mem key _)
        (rollback_sameMemory order)).reject _

theorem follow_recorded (messages : List Message) :
    Recorded (follow messages).1 (follow messages).2 := by
  induction messages using List.reverseRecOn with
  | nil =>
      refine ⟨fun _ _ => rfl, ?_⟩
      intro key order impossible
      cases impossible
  | append_singleton earlier message ih =>
      rw [follow_concat]
      exact process_recorded ih message

/-! ### The ClOrdID of a replacement -/

/-- The order that the report adds has the ClOrdID of the latest outstanding
request, or else that of the report, and names the order that it replaces. -/
def NamesRequest (book : OrderBook) (message : Message) (order : Order)
    (requests : List ReplaceRequest) : Prop :=
  ∃ replacement, book.orders.lookup replacement.key = none ∧
    (book.process message).2.orders.lookup replacement.key = some replacement ∧
    some replacement.clOrdID.value =
      (latestOutstanding requests).or (clOrdIDOf message) ∧
    replacement.origClOrdID = some order.clOrdID

/-- The latest request was rejected, and the report does not carry its ClOrdID
or another request is outstanding. -/
def Stale (message : Message) : List ReplaceRequest → Prop
  | [] => False
  | request :: earlier =>
      request.answer = .rejected ∧
        (clOrdIDOf message ≠ some request.clOrdID ∨
          (latestOutstanding earlier).isSome)

theorem replaced_of_accepted {book : OrderBook} {message : Message}
    (reports : ReportsReplaced message)
    (accepted : (book.process message).1 = .ok (.ok ())) {key : Bytes}
    {order : Order} (addresses : book.Addresses message true key order) :
    ∃ replacement original,
      order.replace message = (.ok replacement, original) ∧
      book.orders.lookup replacement.key = none ∧
      (book.process message).2 =
        (book.store key original).store replacement.key replacement := by
  have effect := process_effect book message
  revert accepted effect
  generalize book.process message = called
  intro accepted effect
  cases effect with
  | ignored failed ignores => exact absurd accepted failed
  | created other single =>
      exact absurd single (not_typed reports.1 (by decide))
  | updated reverseCompIDs other found updates =>
      exact absurd reports updates.not_replaced
  | replaced other found replacement original _ again divided free =>
      obtain ⟨rfl, rfl⟩ := addresses.unique again
      exact ⟨replacement, original, divided, free, rfl⟩
  | refused failed => exact absurd accepted failed
  | rejected other found typed =>
      exact absurd reports (not_replaced_of_reject typed)

theorem namesRequest_iff {book : OrderBook} {message : Message} {key : Bytes}
    {order replacement original : Order} (requests : List ReplaceRequest)
    (found : book.orders.lookup key = some order)
    (free : book.orders.lookup replacement.key = none)
    (result : (book.process message).2 =
      (book.store key original).store replacement.key replacement) :
    NamesRequest book message order requests ↔
      some replacement.clOrdID.value =
          (latestOutstanding requests).or (clOrdIDOf message) ∧
        replacement.origClOrdID = some order.clOrdID := by
  constructor
  · rintro ⟨added, before, after, named⟩
    have elsewhere : added.key ≠ key := by
      intro same
      rw [same, found] at before
      cases before
    have same : added = replacement := by
      rw [result] at after
      by_cases here : added.key = replacement.key
      · rw [here, lookup_store] at after
        injection after with equal
        exact equal.symm
      · rw [lookup_store_ne _ here, lookup_store_ne _ elsewhere, before] at after
        cases after
    rw [← same]
    exact named
  · intro named
    refine ⟨replacement, free, ?_, named⟩
    rw [result]
    exact lookup_store _ _ replacement

/-- The ClOrdID that the code takes is the one that the ledger asks for, unless
the latest request was rejected. -/
theorem Remembers.names_iff {book : OrderBook} {message : Message} {order : Order}
    {requests : List ReplaceRequest} {clOrdID : Field}
    (remembers : Remembers book order requests)
    (stored : Order.createKey order.senderCompID order.targetCompID
      order.clOrdID.value ∈ book.orders)
    (named : order.replacementClOrdID message = some clOrdID)
    (unused : Order.createKey order.senderCompID order.targetCompID
      clOrdID.value ∉ book.orders) :
    some clOrdID.value = (latestOutstanding requests).or (clOrdIDOf message) ↔
      ¬ Stale message requests := by
  have requested {value : Bytes}
      (remembered : order.newClOrdID.map Field.value = some value) :
      clOrdID.value = value := by
    obtain ⟨field, found, rfl⟩ := Option.map_eq_some_iff.mp remembered
    unfold Order.replacementClOrdID at named
    rw [found] at named
    injection named with same
    rw [same]
  cases requests with
  | nil =>
      refine iff_of_true ?_ (fun impossible => impossible)
      rcases remembers with nothing | own
      · unfold Order.replacementClOrdID at named
        rw [nothing, Option.none_or] at named
        unfold clOrdIDOf
        rw [named]
        rfl
      · rw [requested own] at unused
        exact absurd stored unused
  | cons request earlier =>
      obtain ⟨remembered, answered⟩ := remembers
      have value := requested remembered
      cases answer : request.answer with
      | outstanding =>
          refine iff_of_true ?_ ?_
          · unfold latestOutstanding
            have first : request.isOutstanding := decide_eq_true answer
            rw [List.find?_cons_of_pos first, value]
            rfl
          · rintro ⟨rejected, -⟩
            rw [answer] at rejected
            cases rejected
      | replaced =>
          rw [answer, ← value] at answered
          exact absurd answered unused
      | rejected =>
          rw [answer] at answered
          have notOutstanding : ¬ request.isOutstanding := by
            unfold ReplaceRequest.isOutstanding
            rw [answer]
            decide
          have latest : latestOutstanding (request :: earlier) =
              latestOutstanding earlier := by
            unfold latestOutstanding
            rw [List.find?_cons_of_neg notOutstanding]
          rw [latest, value]
          cases next : latestOutstanding earlier with
          | none =>
              rw [Option.none_or]
              constructor
              · rintro same ⟨-, differs | another⟩
                · exact differs same.symm
                · rw [next] at another
                  cases another
              · intro fresh
                by_contra differs
                exact fresh ⟨answer, .inl fun same => differs same.symm⟩
          | some other =>
              refine iff_of_false ?_ (fun fresh => fresh ⟨answer, .inr ?_⟩)
              swap
              · rw [next]
                rfl
              intro same
              obtain ⟨found, chosen, rfl⟩ := Option.map_eq_some_iff.mp next
              injection same with same
              exact answered found (List.mem_of_find?_eq_some chosen)
                (List.find?_some chosen) same.symm

/-- In every run, the order added by an accepted report has the ClOrdID that was
requested for it, unless the latest request was rejected. -/
theorem replacement_names_request_iff (messages : List Message)
    {message : Message} (reports : ReportsReplaced message)
    (accepted : ((follow messages).1.process message).1 = .ok (.ok ()))
    {key : Bytes} {order : Order}
    (addresses : (follow messages).1.Addresses message true key order) :
    NamesRequest (follow messages).1 message order ((follow messages).2 key) ↔
      ¬ Stale message ((follow messages).2 key) := by
  have keyed : Keyed (follow messages).1 := by
    rw [follow_book]
    exact keyed_of_reachable (reachable_processAll .empty messages)
  have remembers :=
    (follow_recorded messages).remembered key order addresses.2
  obtain ⟨replacement, original, divided, free, result⟩ :=
    replaced_of_accepted reports accepted addresses
  obtain ⟨clOrdID, named, own, orig, unused⟩ :=
    renamed_of_free keyed addresses.2 reports divided free
  rw [namesRequest_iff _ addresses.2 free result, own]
  refine (and_iff_left orig).trans (remembers.names_iff ?_ named unused)
  have stored := mem_orders_of_lookup addresses.2
  rw [keyed key order addresses.2] at stored
  exact stored

/-! ### A request that was rejected -/

def replaceRequest : Message :=
  { Message.empty with
    fields := [⟨Tag.MsgType, MsgType.OrderCancelReplaceRequest⟩,
      ⟨Tag.SenderCompID, ascii "A"⟩, ⟨Tag.TargetCompID, ascii "B"⟩,
      ⟨Tag.OrigClOrdID, ascii "1"⟩, ⟨Tag.ClOrdID, ascii "2"⟩] }

def replaceReject : Message :=
  { Message.empty with
    fields := [⟨Tag.MsgType, MsgType.OrderCancelReject⟩,
      ⟨Tag.SenderCompID, ascii "B"⟩, ⟨Tag.TargetCompID, ascii "A"⟩,
      ⟨Tag.OrigClOrdID, ascii "1"⟩, ⟨Tag.ClOrdID, ascii "2"⟩] }

def replacedUnderFive : Message :=
  { Message.empty with
    fields := [⟨Tag.MsgType, MsgType.ExecutionReport⟩,
      ⟨Tag.SenderCompID, ascii "B"⟩, ⟨Tag.TargetCompID, ascii "A"⟩,
      ⟨Tag.OrigClOrdID, ascii "1"⟩, ⟨Tag.ClOrdID, ascii "5"⟩,
      ⟨Tag.ExecType, ExecType.Replaced⟩] }

theorem replacement_names_request_outstanding :
    ∃ order, NamesRequest (follow [orderSingle, replaceRequest]).1
      replacedUnderFive order
        ((follow [orderSingle, replaceRequest]).2 (ascii "A-B-1")) := by
  have found : ∃ order, (follow [orderSingle, replaceRequest]).1.orders.lookup
      (ascii "A-B-1") = some order := Option.isSome_iff_exists.mp (by decide)
  obtain ⟨order, found⟩ := found
  refine ⟨order, (replacement_names_request_iff [orderSingle, replaceRequest]
    (by decide) (by decide) ⟨by decide, found⟩).mpr ?_⟩
  have ledger : (follow [orderSingle, replaceRequest]).2 (ascii "A-B-1") =
      [⟨ascii "2", .outstanding⟩] := by decide
  rw [ledger]
  rintro ⟨impossible, -⟩
  cases impossible

/-- The request under the ClOrdID 2 is rejected, and then used all the same. -/
theorem rejected_request_is_used :
    ReportsReplaced replacedUnderFive ∧
    ((follow [orderSingle, replaceRequest, replaceReject]).1.process
      replacedUnderFive).1 = .ok (.ok ()) ∧
    (follow [orderSingle, replaceRequest, replaceReject]).2 (ascii "A-B-1") =
      [⟨ascii "2", .rejected⟩] ∧
    ∀ order, (follow [orderSingle, replaceRequest,
        replaceReject]).1.Addresses replacedUnderFive true (ascii "A-B-1") order →
      ¬ NamesRequest (follow [orderSingle, replaceRequest, replaceReject]).1
        replacedUnderFive order
          ((follow [orderSingle, replaceRequest, replaceReject]).2
            (ascii "A-B-1")) := by
  refine ⟨by decide, by decide, by decide, ?_⟩
  rintro order addresses ⟨replacement, before, after, named, -⟩
  have keys : ((follow [orderSingle, replaceRequest,
      replaceReject]).1.process replacedUnderFive).2.orders.keys =
        [ascii "A-B-2", ascii "A-B-1"] := by decide
  have member : replacement.key ∈ ((follow [orderSingle, replaceRequest,
      replaceReject]).1.process replacedUnderFive).2.orders.keys :=
    mem_orders_of_lookup after
  rw [keys] at member
  rcases List.mem_cons.mp member with new | old
  · have clOrdID : (((follow [orderSingle, replaceRequest,
        replaceReject]).1.process replacedUnderFive).2.orders.lookup
          (ascii "A-B-2")).map (fun order => order.clOrdID.value) =
            some (ascii "2") := by decide
    have expected : (latestOutstanding ((follow [orderSingle, replaceRequest,
        replaceReject]).2 (ascii "A-B-1"))).or (clOrdIDOf replacedUnderFive) =
          some (ascii "5") := by decide
    rw [← new, after] at clOrdID
    rw [Option.map_some] at clOrdID
    rw [expected, clOrdID] at named
    exact absurd named (by decide)
  · rw [List.mem_singleton.mp old, addresses.2] at before
    cases before

end OrderBook

end Crocofix

/-
Which orders a message may concern.

A message addresses an order by its CompIDs and its ClOrdID.  The book glues
the three together with dashes, so a message can reach an order with another
identity exactly where two identities are glued to the same key.
-/

import Crocofix.OrderBook.Identity

namespace Crocofix

open Numeral

abbrev OrderIdentity := Bytes × Bytes × Bytes

def OrderIdentity.key (identity : OrderIdentity) : Bytes :=
  Order.createKey identity.1 identity.2.1 identity.2.2

namespace Order

def identity (order : Order) : OrderIdentity :=
  (order.senderCompID, order.targetCompID, order.clOrdID.value)

/-- The identity that a message addresses: the OrigClOrdID counts where there
is one. -/
def addressedIdentity (message : Message) (reverseCompIDs : Bool) :
    Option OrderIdentity := do
  let senderCompID ← message.fields.tryGet Tag.SenderCompID
  let targetCompID ← message.fields.tryGet Tag.TargetCompID
  let clOrdID ← (message.fields.tryGet Tag.OrigClOrdID).or
    (message.fields.tryGet Tag.ClOrdID)
  if reverseCompIDs then
    pure (targetCompID.value, senderCompID.value, clOrdID.value)
  else pure (senderCompID.value, targetCompID.value, clOrdID.value)

def replacementIdentity (order : Order) (executionReport : Message) :
    OrderIdentity :=
  (order.senderCompID, order.targetCompID,
    ((order.replacementClOrdID executionReport).getD order.clOrdID).value)

theorem keyForMessage_eq (message : Message) (reverseCompIDs : Bool) (key : Bytes) :
    keyForMessage message reverseCompIDs = .ok key ↔
      ∃ identity, addressedIdentity message reverseCompIDs = some identity ∧
        identity.key = key := by
  have absent {result : Except Exception Bytes} {found : Option OrderIdentity}
      (failed : ∀ key, result ≠ .ok key) (missing : found = none) :
      result = .ok key ↔
        ∃ identity, found = some identity ∧ identity.key = key := by
    constructor
    · intro same
      exact absurd same (failed key)
    · rintro ⟨identity, same, -⟩
      rw [missing] at same
      cases same
  have present (named : OrderIdentity) :
      (Except.ok named.key : Except Exception Bytes) = .ok key ↔
        ∃ identity, some named = some identity ∧ identity.key = key := by
    constructor
    · intro same
      injection same with same
      exact ⟨named, rfl, same⟩
    · rintro ⟨identity, same, keyed⟩
      injection same with same
      rw [same, keyed]
  unfold keyForMessage addressedIdentity FieldCollection.get
  cases message.fields.tryGet Tag.SenderCompID with
  | none =>
      apply absent
      · intro other impossible
        cases impossible
      · rfl
  | some senderCompID =>
  cases message.fields.tryGet Tag.TargetCompID with
  | none =>
      apply absent
      · intro other impossible
        cases impossible
      · rfl
  | some targetCompID =>
  cases message.fields.tryGet Tag.OrigClOrdID with
  | some origClOrdID =>
      cases reverseCompIDs with
      | true => exact present (targetCompID.value, senderCompID.value, _)
      | false => exact present (senderCompID.value, targetCompID.value, _)
  | none =>
      cases message.fields.tryGet Tag.ClOrdID with
      | none =>
          apply absent
          · intro other impossible
            cases impossible
          · rfl
      | some clOrdID =>
          cases reverseCompIDs with
          | true => exact present (targetCompID.value, senderCompID.value, _)
          | false => exact present (senderCompID.value, targetCompID.value, _)

theorem Identified.key_eq {order : Order} (identified : Identified order) :
    order.key = order.identity.key := identified.key

theorem replacementKey_eq_identity (order : Order) (executionReport : Message) :
    order.replacementKey executionReport =
      (order.replacementIdentity executionReport).key :=
  replacementKey_eq order executionReport

end Order

namespace OrderBook

/-- The CompIDs of a report and of a reject are those of its sender. -/
def reverses (message : Message) : Bool :=
  decide (message.MsgType = .ok MsgType.ExecutionReport ∨
    message.MsgType = .ok MsgType.OrderCancelReject)

def addressed (message : Message) : Option OrderIdentity :=
  Order.addressedIdentity message (reverses message)

/-- The call concerns no order but the addressed one and the one that it adds,
and it fails only where the source says that it does. -/
structure Local (book : OrderBook) (message : Message) : Prop where
  frame : ∀ key order, book.orders.lookup key = some order →
    addressed message ≠ some order.identity →
      (book.process message).2.orders.lookup key = some order
  added : (book.process message).2.orders.keys.length ≤
    book.orders.keys.length + 1
  absent : message.MsgType ≠ .ok MsgType.NewOrderSingle →
    (∀ key order, book.orders.lookup key = some order →
      addressed message ≠ some order.identity) →
        Failed (book.process message).1
  created : ∀ order, message.MsgType = .ok MsgType.NewOrderSingle →
    Order.create message = .ok order →
      (∀ key other, book.orders.lookup key = some other →
        other.identity ≠ order.identity) → ¬ Failed (book.process message).1
  replaced : ∀ key order, ReportsReplaced message →
    book.Addresses message true key order →
      (∀ key other, book.orders.lookup key = some other →
        other.identity ≠ order.replacementIdentity message) →
          ¬ Failed (book.process message).1

/-- Another identity than the one that the message names is glued to the same
key: the one addressed, the one of a single order, or the one of a
replacement. -/
inductive Collides (book : OrderBook) (message : Message) : Prop
  | addressed (reverseCompIDs : Bool) (key : Bytes) (order : Order)
      (concerns : Concerns message reverseCompIDs)
      (addresses : book.Addresses message reverseCompIDs key order)
      (other : OrderBook.addressed message ≠ some order.identity)
  | created (order stored : Order)
      (typed : message.MsgType = .ok MsgType.NewOrderSingle)
      (constructed : Order.create message = .ok order)
      (found : book.orders.lookup order.key = some stored)
      (other : stored.identity ≠ order.identity)
  | replaced (key : Bytes) (order stored : Order)
      (reports : ReportsReplaced message)
      (addresses : book.Addresses message true key order)
      (found : book.orders.lookup (order.replacementKey message) = some stored)
      (other : stored.identity ≠ order.replacementIdentity message)

def Keyed (book : OrderBook) : Prop :=
  ∀ key order, book.orders.lookup key = some order → key = order.identity.key

theorem identified_of_reachable {book : OrderBook} (reachable : Reachable book) :
    ∀ key order, book.orders.lookup key = some order →
      (order.key = key ∧ order.Identified) ∧ order.Cached := by
  induction reachable with
  | empty =>
      intro _ _ impossible
      cases impossible
  | process message reachable ih => exact process_identified message ih

theorem keyed_of_reachable {book : OrderBook} (reachable : Reachable book) :
    Keyed book := by
  intro key order found
  obtain ⟨⟨keyed, identified⟩, -⟩ := identified_of_reachable reachable key order found
  rw [← keyed]
  exact identified.key_eq

theorem Keyed.eq_of_identity {book : OrderBook} (keyed : Keyed book)
    {other : Bytes} {order stored : Order} {identity : OrderIdentity}
    (found : book.orders.lookup identity.key = some order)
    (storedFound : book.orders.lookup other = some stored)
    (same : stored.identity = identity) : stored = order := by
  rw [keyed other stored storedFound, same, found] at storedFound
  injection storedFound with equal
  exact equal.symm

theorem Addresses.unique {book : OrderBook} {message : Message}
    {reverseCompIDs : Bool} {key other : Bytes} {order stored : Order}
    (first : book.Addresses message reverseCompIDs key order)
    (second : book.Addresses message reverseCompIDs other stored) :
    other = key ∧ stored = order := by
  obtain ⟨addressed, found⟩ := first
  obtain ⟨again, storedFound⟩ := second
  rw [addressed] at again
  injection again with same
  rw [← same, found] at storedFound
  injection storedFound with equal
  exact ⟨same.symm, equal.symm⟩

theorem Updates.concerns {message : Message} {reverseCompIDs : Bool}
    (updates : Updates message reverseCompIDs) : Concerns message reverseCompIDs := by
  rcases updates with ⟨typed, reversed, -⟩ | requests
  · exact .inl ⟨.inl typed, reversed⟩
  · exact .inr requests

theorem ReportsReplaced.concerns {message : Message}
    (reports : ReportsReplaced message) : Concerns message true :=
  .inl ⟨.inl reports.1, rfl⟩

theorem Concerns.not_single {message : Message} {reverseCompIDs : Bool}
    (concerns : Concerns message reverseCompIDs) :
    message.MsgType ≠ .ok MsgType.NewOrderSingle := by
  intro single
  exact not_concerns single (by decide) reverseCompIDs concerns

theorem Updates.not_replaced {message : Message} {reverseCompIDs : Bool}
    (updates : Updates message reverseCompIDs) : ¬ ReportsReplaced message := by
  rintro ⟨typed, replaced⟩
  rcases updates with ⟨-, -, other⟩ | ⟨requests, -⟩
  · exact other replaced
  · exact not_requests_of_reports (.inl typed) requests

theorem not_replaced_of_reject {message : Message}
    (typed : message.MsgType = .ok MsgType.OrderCancelReject) :
    ¬ ReportsReplaced message := by
  rintro ⟨reports, -⟩
  exact not_typed typed (by decide) reports

theorem Concerns.reverses {message : Message} {reverseCompIDs : Bool}
    (concerns : Concerns message reverseCompIDs) :
    reverseCompIDs = reverses message := by
  unfold OrderBook.reverses
  rcases concerns with ⟨reports, rfl⟩ | ⟨requests, rfl⟩
  · exact (decide_eq_true reports).symm
  · symm
    apply decide_eq_false
    intro reports
    exact not_requests_of_reports reports requests

theorem keys_store_le (book : OrderBook) (key : Bytes) (order : Order) :
    (book.store key order).orders.keys.length ≤ book.orders.keys.length + 1 := by
  unfold store
  rw [AList.keys_insert, List.length_cons]
  exact Nat.succ_le_succ (@List.length_erase_le _ instBEqOfDecidableEq _ _)

theorem keys_store_of_lookup {book : OrderBook} {key : Bytes} {stored : Order}
    (found : book.orders.lookup key = some stored) (order : Order) :
    (book.store key order).orders.keys.length = book.orders.keys.length := by
  have member : key ∈ book.orders.keys := mem_orders_of_lookup found
  have positive := List.length_pos_of_mem member
  have erased := @List.length_erase_of_mem _ instBEqOfDecidableEq _ _ _ member
  unfold store
  rw [AList.keys_insert, List.length_cons, erased]
  omega

/-! ### Where no keys collide -/

section Local

variable {book : OrderBook} {message : Message}

/-- The order that is found under the addressed key is the addressed one. -/
theorem addressed_of_not_collides (apart : ¬ Collides book message)
    {reverseCompIDs : Bool} {key : Bytes} {order : Order}
    (concerns : Concerns message reverseCompIDs)
    (addresses : book.Addresses message reverseCompIDs key order) :
    addressed message = some order.identity := by
  by_contra other
  exact apart (.addressed reverseCompIDs key order concerns addresses other)

theorem frame_store (apart : ¬ Collides book message) {reverseCompIDs : Bool}
    {key other : Bytes} {order stored : Order} (changed : Order)
    (concerns : Concerns message reverseCompIDs)
    (addresses : book.Addresses message reverseCompIDs key order)
    (found : book.orders.lookup other = some stored)
    (elsewhere : addressed message ≠ some stored.identity) :
    (book.store key changed).orders.lookup other = some stored := by
  have differs : other ≠ key := by
    rintro rfl
    have same := addresses.2
    rw [found] at same
    injection same with same
    rw [same] at elsewhere
    exact elsewhere (addressed_of_not_collides apart concerns addresses)
  rw [lookup_store_ne changed differs]
  exact found

theorem local_of_not_collides (apart : ¬ Collides book message) :
    Local book message := by
  have present {reverseCompIDs : Bool} {key : Bytes} {order : Order}
      (concerns : Concerns message reverseCompIDs)
      (addresses : book.Addresses message reverseCompIDs key order)
      (absent : ∀ key order, book.orders.lookup key = some order →
        addressed message ≠ some order.identity) : False :=
    absent key order addresses.2
      (addressed_of_not_collides apart concerns addresses)
  have effect := process_effect book message
  cases called : book.process message with
  | mk result after =>
  rw [called] at effect
  cases effect with
  | ignored failed ignores =>
      refine ⟨?_, ?_, ?_, ?_, ?_⟩
      · intro key order found _
        rw [called]
        exact found
      · rw [called]
        exact Nat.le_succ _
      · intro _ _
        rw [called]
        exact failed
      · intro order typed constructed distinct _
        have member := ignores.taken order typed constructed
        rw [← AList.lookup_isSome] at member
        obtain ⟨stored, found⟩ := Option.isSome_iff_exists.mp member
        exact apart (.created order stored typed constructed found
          (distinct _ stored found))
      · intro key order reports addresses
        exact absurd addresses
          (ignores.unaddressed true key order reports.concerns)
  | created order typed constructed free =>
      refine ⟨?_, ?_, ?_, ?_, ?_⟩
      · intro key other found _
        have differs : key ≠ order.key := by
          rintro rfl
          rw [free] at found
          cases found
        rw [called, lookup_store_ne order differs]
        exact found
      · rw [called]
        exact keys_store_le book order.key order
      · intro other
        exact absurd typed other
      · intro _ _ _ _
        rw [called]
        simp [Failed]
      · intro key other reports
        exact absurd typed reports.concerns.not_single
  | updated reverseCompIDs key order updates addresses refused =>
      refine ⟨?_, ?_, ?_, ?_, ?_⟩
      · intro other stored found elsewhere
        rw [called]
        exact frame_store apart (order.update message).2 updates.concerns addresses
          found elsewhere
      · rw [called, keys_store_of_lookup addresses.2]
        exact Nat.le_succ _
      · intro _ absent
        exact (present updates.concerns addresses absent).elim
      · intro other typed
        exact absurd typed updates.concerns.not_single
      · intro other stored reports
        exact absurd reports updates.not_replaced
  | replaced key order replacement original reports addresses divided free =>
      refine ⟨?_, ?_, ?_, ?_, ?_⟩
      · intro other stored found elsewhere
        have differs : other ≠ replacement.key := by
          rintro rfl
          rw [free] at found
          cases found
        rw [called, lookup_store_ne replacement differs]
        exact frame_store apart original reports.concerns addresses found elsewhere
      · rw [called]
        have grown := keys_store_le (book.store key original) replacement.key
          replacement
        rw [keys_store_of_lookup addresses.2] at grown
        exact grown
      · intro _ absent
        exact (present reports.concerns addresses absent).elim
      · intro other typed
        exact absurd typed reports.concerns.not_single
      · intro _ _ _ _ _
        rw [called]
        simp [Failed]
  | refused failed key order replacement original reports addresses divided taken =>
      refine ⟨?_, ?_, ?_, ?_, ?_⟩
      · intro other stored found elsewhere
        rw [called]
        exact frame_store apart original reports.concerns addresses found elsewhere
      · rw [called, keys_store_of_lookup addresses.2]
        exact Nat.le_succ _
      · intro _ _
        rw [called]
        exact failed
      · intro other typed
        exact absurd typed reports.concerns.not_single
      · intro other stored _ again distinct _
        obtain ⟨-, same⟩ := addresses.unique again
        obtain ⟨replaced, behind, division, named, -⟩ :=
          Order.replace_spec order reports.1
        rw [divided] at division
        injection division with first
        injection first with first
        rw [first, named, ← AList.lookup_isSome] at taken
        obtain ⟨holder, found⟩ := Option.isSome_iff_exists.mp taken
        rw [same] at distinct
        exact apart (.replaced key order holder reports addresses found
          (distinct _ holder found))
  | rejected key order typed addresses =>
      have concerns : Concerns message true := .inl ⟨.inr typed, rfl⟩
      refine ⟨?_, ?_, ?_, ?_, ?_⟩
      · intro other stored found elsewhere
        rw [called]
        exact frame_store apart order.rollback concerns addresses found elsewhere
      · rw [called, keys_store_of_lookup addresses.2]
        exact Nat.le_succ _
      · intro _ absent
        exact (present concerns addresses absent).elim
      · intro other single
        exact absurd single concerns.not_single
      · intro other stored reports
        exact absurd reports (not_replaced_of_reject typed)

end Local

/-! ### Where keys collide -/

theorem not_same_of_messages {order changed : Order} {message : Message}
    (grown : changed.messages = order.messages ++ [message]) : changed ≠ order := by
  rintro rfl
  simp at grown

/-- The addressed identity is not stored where another order has its key. -/
theorem absent_of_other {book : OrderBook} {message : Message} (keyed : Keyed book)
    {reverseCompIDs : Bool} {key : Bytes} {order : Order}
    (concerns : Concerns message reverseCompIDs)
    (addresses : book.Addresses message reverseCompIDs key order)
    (other : addressed message ≠ some order.identity) :
    ∀ elsewhere stored, book.orders.lookup elsewhere = some stored →
      addressed message ≠ some stored.identity := by
  intro elsewhere stored found same
  obtain ⟨identity, named, keyEq⟩ :=
    (Order.keyForMessage_eq message reverseCompIDs key).mp addresses.1
  unfold addressed at same other
  rw [← concerns.reverses, named] at same other
  injection same with same
  have orderFound := addresses.2
  rw [← keyEq] at orderFound
  rw [keyed.eq_of_identity orderFound found same.symm] at same
  rw [same] at other
  exact other rfl

/-- An order that a replacement is derived from has remembered the report. -/
theorem original_ne {order replacement original : Order} {message : Message}
    (reports : message.MsgType = .ok MsgType.ExecutionReport)
    (divided : order.replace message = (.ok replacement, original)) :
    original ≠ order := by
  obtain ⟨renewed, behind, division, -, grown⟩ := Order.replace_spec order reports
  rw [divided] at division
  injection division with _ sameOriginal
  rw [sameOriginal]
  exact not_same_of_messages grown

section Collided

variable {book : OrderBook} {message : Message}

theorem not_local_of_created (keyed : Keyed book) {order stored : Order}
    (typed : message.MsgType = .ok MsgType.NewOrderSingle)
    (constructed : Order.create message = .ok order)
    (found : book.orders.lookup order.key = some stored)
    (other : stored.identity ≠ order.identity) : ¬ Local book message := by
  intro isLocal
  have identified := (Order.create_identified constructed).1
  have accepted := isLocal.created order typed constructed (by
    intro key holder holderFound same
    rw [identified.key_eq] at found
    rw [keyed.eq_of_identity found holderFound same] at same
    exact other same)
  have effect := process_effect book message
  revert accepted effect
  generalize book.process message = called
  intro accepted effect
  cases effect with
  | ignored failed ignores => exact accepted failed
  | created again _ constructedAgain free =>
      rw [constructed] at constructedAgain
      injection constructedAgain with same
      rw [← same, found] at free
      cases free
  | updated reverseCompIDs key again updates =>
      exact updates.concerns.not_single typed
  | replaced key again replacement original reports =>
      exact reports.concerns.not_single typed
  | refused failed => exact accepted failed
  | rejected key again rejects => exact not_typed typed (by decide) rejects

theorem not_local_of_addressed (keyed : Keyed book) {reverseCompIDs : Bool}
    {key : Bytes} {order : Order} (concerns : Concerns message reverseCompIDs)
    (addresses : book.Addresses message reverseCompIDs key order)
    (other : addressed message ≠ some order.identity) : ¬ Local book message := by
  intro isLocal
  have kept := isLocal.frame key order addresses.2 other
  have failed := isLocal.absent concerns.not_single
    (absent_of_other keyed concerns addresses other)
  have effect := process_effect book message
  revert kept failed effect
  generalize book.process message = called
  intro kept failed effect
  cases effect with
  | ignored _ ignores =>
      exact ignores.unaddressed reverseCompIDs key order concerns addresses
  | created again typed => exact concerns.not_single typed
  | updated reversed elsewhere again updates addressesAgain =>
      rw [updates.concerns.reverses, ← concerns.reverses] at addressesAgain
      obtain ⟨sameKey, sameOrder⟩ := addresses.unique addressesAgain
      rw [sameKey, lookup_store, sameOrder] at kept
      injection kept with same
      exact not_same_of_messages (Order.update_messages order message) same
  | replaced elsewhere again replacement original reports addressesAgain divided
      free =>
      rw [concerns.reverses, ← reports.concerns.reverses] at addresses
      obtain ⟨sameKey, sameOrder⟩ := addresses.unique addressesAgain
      have differs : key ≠ replacement.key := by
        intro same
        rw [← same, addresses.2] at free
        cases free
      rw [lookup_store_ne replacement differs, sameKey, lookup_store] at kept
      injection kept with same
      rw [sameOrder] at divided
      exact original_ne reports.1 divided same
  | refused _ elsewhere again replacement original reports addressesAgain divided
      taken =>
      rw [concerns.reverses, ← reports.concerns.reverses] at addresses
      obtain ⟨sameKey, sameOrder⟩ := addresses.unique addressesAgain
      rw [sameKey, lookup_store] at kept
      injection kept with same
      rw [sameOrder] at divided
      exact original_ne reports.1 divided same
  | rejected elsewhere again rejects addressesAgain => exact failed rfl

theorem not_local_of_replaced (keyed : Keyed book) {key : Bytes}
    {order stored : Order} (reports : ReportsReplaced message)
    (addresses : book.Addresses message true key order)
    (found : book.orders.lookup (order.replacementKey message) = some stored)
    (other : stored.identity ≠ order.replacementIdentity message) :
    ¬ Local book message := by
  intro isLocal
  have accepted := isLocal.replaced key order reports addresses (by
    intro elsewhere holder holderFound same
    rw [Order.replacementKey_eq_identity] at found
    rw [keyed.eq_of_identity found holderFound same] at same
    exact other same)
  have effect := process_effect book message
  revert accepted effect
  generalize book.process message = called
  intro accepted effect
  cases effect with
  | ignored failed ignores => exact accepted failed
  | created again typed => exact reports.concerns.not_single typed
  | updated reversed elsewhere again updates => exact updates.not_replaced reports
  | replaced elsewhere again replacement original _ addressesAgain divided free =>
      obtain ⟨-, sameOrder⟩ := addresses.unique addressesAgain
      obtain ⟨renewed, behind, division, named, -⟩ :=
        Order.replace_spec order reports.1
      rw [sameOrder, division] at divided
      injection divided with first
      injection first with first
      rw [← first, named, found] at free
      cases free
  | refused failed => exact accepted failed
  | rejected elsewhere again rejects => exact not_replaced_of_reject rejects reports

end Collided

theorem not_local_of_collides {book : OrderBook} {message : Message}
    (keyed : Keyed book) (collides : Collides book message) :
    ¬ Local book message := by
  cases collides with
  | addressed reverseCompIDs key order concerns addresses other =>
      exact not_local_of_addressed keyed concerns addresses other
  | created order stored typed constructed found other =>
      exact not_local_of_created keyed typed constructed found other
  | replaced key order stored reports addresses found other =>
      exact not_local_of_replaced keyed reports addresses found other

/-- A call concerns only the order that the message names, unless two identities
are glued to one key. -/
theorem process_local_iff {book : OrderBook} (reachable : Reachable book)
    (message : Message) : Local book message ↔ ¬ Collides book message := by
  constructor
  · intro isLocal collides
    exact not_local_of_collides (keyed_of_reachable reachable) collides isLocal
  · exact local_of_not_collides

/-! ### Dashes in a CompID -/

def dashedCancel : Message :=
  { Message.empty with
    fields := [⟨Tag.MsgType, MsgType.OrderCancelRequest⟩,
      ⟨Tag.SenderCompID, ascii "A"⟩, ⟨Tag.TargetCompID, ascii "B-C"⟩,
      ⟨Tag.ClOrdID, ascii "1"⟩] }

def dashedSingle : Message :=
  { Message.empty with
    fields := [⟨Tag.BeginString, ascii "FIX.4.4"⟩,
      ⟨Tag.MsgType, MsgType.NewOrderSingle⟩, ⟨Tag.SenderCompID, ascii "A-B"⟩,
      ⟨Tag.TargetCompID, ascii "C"⟩, ⟨Tag.ClOrdID, ascii "1"⟩] }

theorem process_local_dashedSingle :
    Local (empty.process dashedSingle).2 orderSingle ↔
      ¬ Collides (empty.process dashedSingle).2 orderSingle :=
  process_local_iff (.process dashedSingle .empty) orderSingle

theorem dashes_collide :
    Reachable (empty.process dashedSingle).2 ∧
    addressed dashedCancel = some (ascii "A", ascii "B-C", ascii "1") ∧
    ((empty.process dashedSingle).2.orders.lookup (ascii "A-B-C-1")).map
        Order.identity = some (ascii "A-B", ascii "C", ascii "1") ∧
    ((empty.process dashedSingle).2.process dashedCancel).1 = .ok (.ok ()) ∧
    ¬ Local (empty.process dashedSingle).2 dashedCancel := by
  refine ⟨.process dashedSingle .empty, by decide, by decide, by decide, ?_⟩
  intro isLocal
  have failed := isLocal.absent (by decide) (by
    intro key order found same
    have keys : (empty.process dashedSingle).2.orders.keys =
        [ascii "A-B-C-1"] := by decide
    have member : key ∈ (empty.process dashedSingle).2.orders.keys :=
      mem_orders_of_lookup found
    rw [keys, List.mem_singleton] at member
    have named : ((empty.process dashedSingle).2.orders.lookup
        (ascii "A-B-C-1")).map Order.identity =
          some (ascii "A-B", ascii "C", ascii "1") := by decide
    rw [member] at found
    rw [found] at named
    injection named with named
    rw [named] at same
    exact absurd same (by decide))
  exact failed (by decide)

end OrderBook

end Crocofix

/-
The identity of an order is stored in its key, in members of its own and among
its fields.  The four always agree, whatever calls are made.
-/

import Crocofix.OrderBook.Step

namespace Crocofix

open Numeral

namespace FieldCollection

/-! ### Tags and members after a replacement -/

def HasDistinctTags (fields : FieldCollection) : Prop :=
  (fields.map Field.tag).Nodup

instance (fields : FieldCollection) : Decidable (HasDistinctTags fields) :=
  inferInstanceAs (Decidable (List.Nodup _))

theorem map_tag_replaceFirst {fields replaced : FieldCollection} {field : Field}
    (found : replaceFirst fields field = some replaced) :
    replaced.map Field.tag = fields.map Field.tag := by
  induction fields generalizing replaced with
  | nil => cases found
  | cons current rest ih =>
      by_cases same : current.tag = field.tag
      · simp only [replaceFirst, same, if_true, Option.some.injEq] at found
        rw [← found, List.map_cons, List.map_cons, same]
      · simp only [replaceFirst, same, if_false, Option.map_eq_some_iff] at found
        obtain ⟨tail, tailFound, rfl⟩ := found
        rw [List.map_cons, List.map_cons, ih tailFound]

theorem HasDistinctTags.put {fields : FieldCollection}
    (distinct : HasDistinctTags fields) (field : Field) :
    HasDistinctTags (fields.put field) := by
  unfold FieldCollection.put set
  cases found : replaceFirst fields field with
  | none => exact distinct
  | some replaced =>
      unfold HasDistinctTags
      simp only
      change (replaced.map Field.tag).Nodup
      rw [map_tag_replaceFirst found]
      exact distinct

theorem HasDistinctTags.putOrAppend {fields : FieldCollection}
    (distinct : HasDistinctTags fields) (field : Field) :
    HasDistinctTags (fields.putOrAppend field) := by
  unfold FieldCollection.putOrAppend set
  cases found : replaceFirst fields field with
  | none =>
      have absent := (replaceFirst_eq_none_iff fields field).mp found
      change ((fields ++ [field]).map Field.tag).Nodup
      rw [List.map_append, List.nodup_append]
      refine ⟨distinct, by simp, ?_⟩
      intro tag member other added same
      simp only [List.map_cons, List.map_nil, List.mem_singleton] at added
      obtain ⟨old, inside, rfl⟩ := List.mem_map.mp member
      rw [added] at same
      simp only [tryGet, List.find?_eq_none] at absent
      exact absent old inside (by simpa using same)
  | some replaced =>
      change (replaced.map Field.tag).Nodup
      rw [map_tag_replaceFirst found]
      exact distinct

theorem mem_replaceFirst {fields replaced : FieldCollection} {field other : Field}
    (found : replaceFirst fields field = some replaced)
    (member : other ∈ replaced) : other = field ∨ other ∈ fields := by
  induction fields generalizing replaced with
  | nil => cases found
  | cons current rest ih =>
      by_cases same : current.tag = field.tag
      · simp only [replaceFirst, same, if_true, Option.some.injEq] at found
        rw [← found] at member
        rcases List.mem_cons.mp member with here | later
        · exact .inl here
        · exact .inr (List.mem_cons_of_mem _ later)
      · simp only [replaceFirst, same, if_false, Option.map_eq_some_iff] at found
        obtain ⟨tail, tailFound, rfl⟩ := found
        rcases List.mem_cons.mp member with here | later
        · exact .inr (by rw [here]; exact List.mem_cons_self)
        · rcases ih tailFound later with added | old
          · exact .inl added
          · exact .inr (List.mem_cons_of_mem _ old)

theorem mem_putOrAppend {fields : FieldCollection} {field other : Field}
    (member : other ∈ fields.putOrAppend field) :
    other = field ∨ other ∈ fields := by
  unfold putOrAppend set at member
  cases found : replaceFirst fields field with
  | none =>
      rw [found] at member
      rcases List.mem_append.mp member with old | added
      · exact .inr old
      · exact .inl (List.mem_singleton.mp added)
  | some replaced =>
      rw [found] at member
      exact mem_replaceFirst found member

end FieldCollection

namespace Order

open FieldCollection (HasDistinctTags)

/-! ### Merging leaves the identity fields out -/

theorem tryGet_mergeFields (target fields : FieldCollection) {tag : Int32}
    (identity : tag ∈ identityFields) :
    (mergeFields target fields).tryGet tag = target.tryGet tag := by
  unfold mergeFields
  induction fields generalizing target with
  | nil => rfl
  | cons field rest ih =>
      rw [List.foldl_cons, ih]
      split
      · rfl
      · next other =>
        have differs : field.tag ≠ tag := by
          rintro rfl
          exact other (List.elem_eq_true_of_mem identity)
        rw [FieldCollection.tryGet_putOrAppend, if_neg differs]

def Anonymous (fields : FieldCollection) : Prop :=
  ∀ field ∈ fields, ¬ isIdentityField field

theorem Anonymous.mergeFields {target : FieldCollection}
    (anonymous : Anonymous target) (fields : FieldCollection) :
    Anonymous (mergeFields target fields) := by
  unfold Order.mergeFields
  induction fields generalizing target with
  | nil => exact anonymous
  | cons field rest ih =>
      rw [List.foldl_cons]
      apply ih
      split
      · exact anonymous
      · next other =>
        intro member inside
        rcases FieldCollection.mem_putOrAppend inside with added | old
        · rw [added]
          exact other
        · exact anonymous member old

theorem distinct_mergeFields {target : FieldCollection}
    (distinct : HasDistinctTags target) (fields : FieldCollection) :
    HasDistinctTags (mergeFields target fields) := by
  unfold mergeFields
  induction fields generalizing target with
  | nil => exact distinct
  | cons field rest ih =>
      rw [List.foldl_cons]
      apply ih
      split
      · exact distinct
      · exact distinct.putOrAppend field

/-! ### The identity of one order -/

/-- The key, the members and the fields of an order name the same order. -/
structure Identified (order : Order) : Prop where
  key : order.key =
    createKey order.senderCompID order.targetCompID order.clOrdID.value
  beginString : (order.fields.tryGet Tag.BeginString).map Field.value =
    some order.beginString
  senderCompID : (order.fields.tryGet Tag.SenderCompID).map Field.value =
    some order.senderCompID
  targetCompID : (order.fields.tryGet Tag.TargetCompID).map Field.value =
    some order.targetCompID
  clOrdID : (order.fields.tryGet Tag.ClOrdID).map Field.value =
    some order.clOrdID.value
  origClOrdID : (order.fields.tryGet Tag.OrigClOrdID).map Field.value =
    order.origClOrdID.map Field.value
  pendingFields : Anonymous order.pendingFields

structure Cached (order : Order) : Prop where
  previousOrdStatus : ∀ field, order.previousOrdStatus = some field →
    field.tag = Tag.OrdStatus
  newClOrdID : ∀ field, order.newClOrdID = some field → field.tag = Tag.ClOrdID

structure SameIdentity (before after : Order) : Prop where
  key : after.key = before.key
  beginString : after.beginString = before.beginString
  senderCompID : after.senderCompID = before.senderCompID
  targetCompID : after.targetCompID = before.targetCompID
  clOrdID : after.clOrdID = before.clOrdID
  origClOrdID : after.origClOrdID = before.origClOrdID
  fields : ∀ tag ∈ identityFields,
    after.fields.tryGet tag = before.fields.tryGet tag

theorem Identified.of_same {before after : Order} (identified : Identified before)
    (same : SameIdentity before after) (pending : Anonymous after.pendingFields) :
    Identified after where
  key := by
    rw [same.key, same.senderCompID, same.targetCompID, same.clOrdID]
    exact identified.key
  beginString := by
    rw [same.fields _ (by decide), same.beginString]
    exact identified.beginString
  senderCompID := by
    rw [same.fields _ (by decide), same.senderCompID]
    exact identified.senderCompID
  targetCompID := by
    rw [same.fields _ (by decide), same.targetCompID]
    exact identified.targetCompID
  clOrdID := by
    rw [same.fields _ (by decide), same.clOrdID]
    exact identified.clOrdID
  origClOrdID := by
    rw [same.fields _ (by decide), same.origClOrdID]
    exact identified.origClOrdID
  pendingFields := pending

theorem not_identity_ordStatus : Tag.OrdStatus ∉ identityFields := by decide

theorem tryGet_put_of_other (fields : FieldCollection) {field : Field}
    {tag : Int32} (notIdentity : field.tag ∉ identityFields)
    (identity : tag ∈ identityFields) :
    (fields.put field).tryGet tag = fields.tryGet tag := by
  have differs : field.tag ≠ tag := by
    rintro rfl
    exact notIdentity identity
  rw [FieldCollection.tryGet_put, if_neg differs]

theorem setOrdStatus_same (order : Order) (status : Bytes) :
    SameIdentity order (order.setOrdStatus status) :=
  ⟨rfl, rfl, rfl, rfl, rfl, rfl, fun _ identity =>
    tryGet_put_of_other order.fields not_identity_ordStatus identity⟩

/-! ### The operations on one order -/

theorem create_identified {message : Message} {order : Order}
    (constructed : create message = .ok order) : Identified order ∧ Cached order := by
  unfold create FieldCollection.get at constructed
  cases begins : message.fields.tryGet Tag.BeginString with
  | none =>
      rw [begins] at constructed
      cases constructed
  | some beginString =>
  cases sends : message.fields.tryGet Tag.SenderCompID with
  | none =>
      rw [begins, sends] at constructed
      cases constructed
  | some senderCompID =>
  cases targets : message.fields.tryGet Tag.TargetCompID with
  | none =>
      rw [begins, sends, targets] at constructed
      cases constructed
  | some targetCompID =>
  cases names : message.fields.tryGet Tag.ClOrdID with
  | none =>
      rw [begins, sends, targets, names] at constructed
      cases constructed
  | some clOrdID =>
      rw [begins, sends, targets, names] at constructed
      cases constructed
      refine ⟨⟨rfl, ?_, ?_, ?_, ?_, rfl, ?_⟩, ⟨?_, ?_⟩⟩
      · rw [begins]
        rfl
      · rw [sends]
        rfl
      · rw [targets]
        rfl
      · rw [names]
        rfl
      · intro field member
        cases member
      · intro field impossible
        cases impossible
      · intro field impossible
        cases impossible

theorem update_same (order : Order) (message : Message) :
    SameIdentity order (order.update message).2 := by
  unfold update
  cases message.MsgType with
  | error exception => exact ⟨rfl, rfl, rfl, rfl, rfl, rfl, fun _ _ => rfl⟩
  | ok msgType =>
      simp only
      split
      · cases message.fields.get Tag.ClOrdID with
        | error exception => exact ⟨rfl, rfl, rfl, rfl, rfl, rfl, fun _ _ => rfl⟩
        | ok clOrdID =>
            exact ⟨rfl, rfl, rfl, rfl, rfl, rfl, fun _ identity =>
              tryGet_put_of_other order.fields not_identity_ordStatus identity⟩
      · split
        · exact ⟨rfl, rfl, rfl, rfl, rfl, rfl, fun _ identity =>
            tryGet_put_of_other order.fields not_identity_ordStatus identity⟩
        · exact ⟨rfl, rfl, rfl, rfl, rfl, rfl, fun _ identity =>
            tryGet_mergeFields order.fields message.fields identity⟩

theorem update_pendingFields (order : Order) (message : Message) :
    (order.update message).2.pendingFields = order.pendingFields ∨
      (order.update message).2.pendingFields =
        mergeFields order.pendingFields message.fields := by
  unfold update
  cases message.MsgType with
  | error exception => exact .inl rfl
  | ok msgType =>
      simp only
      split
      · cases message.fields.get Tag.ClOrdID with
        | error exception => exact .inl rfl
        | ok clOrdID => exact .inr rfl
      · split
        · exact .inr rfl
        · exact .inl rfl

theorem update_anonymous {order : Order} (anonymous : Anonymous order.pendingFields)
    (message : Message) : Anonymous (order.update message).2.pendingFields := by
  rcases update_pendingFields order message with same | merged
  · rw [same]
    exact anonymous
  · rw [merged]
    exact anonymous.mergeFields message.fields

theorem update_cached {order : Order} (cached : Cached order) (message : Message) :
    Cached (order.update message).2 := by
  have status : ∀ field, order.fields.tryGet Tag.OrdStatus = some field →
      field.tag = Tag.OrdStatus := fun _ found => FieldCollection.tag_of_tryGet found
  unfold update
  cases message.MsgType with
  | error exception => exact ⟨cached.previousOrdStatus, cached.newClOrdID⟩
  | ok msgType =>
      simp only
      split
      · unfold FieldCollection.get
        cases found : message.fields.tryGet Tag.ClOrdID with
        | none => exact ⟨status, cached.newClOrdID⟩
        | some clOrdID =>
            refine ⟨status, ?_⟩
            rintro field ⟨⟩
            exact FieldCollection.tag_of_tryGet found
      · split
        · exact ⟨status, cached.newClOrdID⟩
        · exact ⟨cached.previousOrdStatus, cached.newClOrdID⟩

theorem rollback_same {order : Order} (cached : Cached order) :
    SameIdentity order order.rollback := by
  unfold rollback
  cases previous : order.previousOrdStatus with
  | none => exact ⟨rfl, rfl, rfl, rfl, rfl, rfl, fun _ _ => rfl⟩
  | some status =>
      refine ⟨rfl, rfl, rfl, rfl, rfl, rfl, fun _ identity => ?_⟩
      have notIdentity : status.tag ∉ identityFields := by
        rw [cached.previousOrdStatus status previous]
        exact not_identity_ordStatus
      exact tryGet_put_of_other order.fields notIdentity identity

theorem rollback_pendingFields (order : Order) :
    order.rollback.pendingFields = [] := by
  unfold rollback
  cases order.previousOrdStatus <;> rfl

theorem rollback_cached {order : Order} (cached : Cached order) :
    Cached order.rollback := by
  unfold rollback
  cases previous : order.previousOrdStatus with
  | none =>
      refine ⟨?_, cached.newClOrdID⟩
      intro field impossible
      cases impossible
  | some status =>
      refine ⟨?_, cached.newClOrdID⟩
      intro field impossible
      cases impossible

theorem anonymous_nil : Anonymous [] := by
  intro field member
  cases member

theorem rollback_identified {order : Order} (identified : Identified order)
    (cached : Cached order) : Identified order.rollback := by
  apply identified.of_same (rollback_same cached)
  rw [rollback_pendingFields]
  exact anonymous_nil

theorem renamed_identified {order : Order} (identified : Identified order)
    {clOrdID : Field} (tagged : clOrdID.tag = Tag.ClOrdID) :
    Identified
      { order.renamed clOrdID with
        key := createKey order.senderCompID order.targetCompID clOrdID.value } := by
  have kept (tag : Int32) (notClOrdID : Tag.ClOrdID ≠ tag)
      (notOrig : Tag.OrigClOrdID ≠ tag) :
      (order.renamed clOrdID).fields.tryGet tag = order.fields.tryGet tag := by
    unfold renamed
    rw [FieldCollection.tryGet_putOrAppend, if_neg notOrig,
      FieldCollection.tryGet_putOrAppend, tagged, if_neg notClOrdID]
  have renamedClOrdID : ((order.renamed clOrdID).fields.tryGet
      Tag.ClOrdID).map Field.value = some clOrdID.value := by
    unfold renamed
    rw [FieldCollection.tryGet_putOrAppend,
      if_neg (show Tag.OrigClOrdID ≠ Tag.ClOrdID by decide),
      FieldCollection.tryGet_putOrAppend, if_pos tagged]
    rfl
  have renamedOrigClOrdID : ((order.renamed clOrdID).fields.tryGet
      Tag.OrigClOrdID).map Field.value = some order.clOrdID.value := by
    unfold renamed
    rw [FieldCollection.tryGet_putOrAppend, if_pos rfl]
    rfl
  refine ⟨rfl, ?_, ?_, ?_, renamedClOrdID, renamedOrigClOrdID,
    identified.pendingFields⟩
  · exact (congrArg (Option.map Field.value)
      (kept Tag.BeginString (by decide) (by decide))).trans identified.beginString
  · exact (congrArg (Option.map Field.value)
      (kept Tag.SenderCompID (by decide) (by decide))).trans
        identified.senderCompID
  · exact (congrArg (Option.map Field.value)
      (kept Tag.TargetCompID (by decide) (by decide))).trans
        identified.targetCompID

theorem committed_same (order : Order) (executionReport : Message) :
    SameIdentity order (order.committed executionReport) := by
  refine ⟨rfl, rfl, rfl, rfl, rfl, rfl, ?_⟩
  intro tag identity
  exact (tryGet_mergeFields _ _ identity).trans (tryGet_mergeFields _ _ identity)

theorem replacementKey_eq (order : Order) (executionReport : Message) :
    order.replacementKey executionReport =
      createKey order.senderCompID order.targetCompID
        ((order.replacementClOrdID executionReport).getD order.clOrdID).value := by
  unfold replacementKey replacementClOrdID
  cases order.newClOrdID with
  | some field => rfl
  | none => rfl

theorem replacementClOrdID_tag {order : Order} (cached : Cached order)
    {executionReport : Message} {clOrdID : Field}
    (named : order.replacementClOrdID executionReport = some clOrdID) :
    clOrdID.tag = Tag.ClOrdID := by
  unfold replacementClOrdID at named
  rcases Option.or_eq_some_iff.mp named with requested | ⟨-, reported⟩
  · exact cached.newClOrdID clOrdID requested
  · exact FieldCollection.tag_of_tryGet reported

theorem named_identified {order : Order} (identified : Identified order)
    (cached : Cached order) (executionReport : Message) :
    Identified
      { order.named executionReport with
        key := order.replacementKey executionReport } := by
  have committed : Identified (order.committed executionReport) :=
    identified.of_same (committed_same order executionReport) anonymous_nil
  rw [replacementKey_eq]
  unfold named
  cases clOrdID : order.replacementClOrdID executionReport with
  | some field =>
      exact renamed_identified committed (replacementClOrdID_tag cached clOrdID)
  | none =>
      refine ⟨rfl, committed.beginString, committed.senderCompID,
        committed.targetCompID, committed.clOrdID, committed.origClOrdID,
        committed.pendingFields⟩

theorem named_cached {order : Order} (cached : Cached order)
    (executionReport : Message) : Cached (order.named executionReport) := by
  unfold named
  cases order.replacementClOrdID executionReport with
  | some field => exact ⟨cached.previousOrdStatus, cached.newClOrdID⟩
  | none => exact ⟨cached.previousOrdStatus, cached.newClOrdID⟩

theorem replacement_cached {order replacement original : Order}
    (cached : Cached order) {executionReport : Message}
    (typed : executionReport.MsgType = .ok MsgType.ExecutionReport)
    (divided : order.replace executionReport = (.ok replacement, original)) :
    Cached replacement := by
  rw [replace_eq order typed] at divided
  injection divided with first
  injection first with first
  rw [← first]
  have named := named_cached cached executionReport
  exact ⟨named.previousOrdStatus, named.newClOrdID⟩

theorem replace_identified {order replacement original : Order}
    {executionReport : Message}
    (typed : executionReport.MsgType = .ok MsgType.ExecutionReport)
    (divided : order.replace executionReport = (.ok replacement, original))
    (identified : Identified order) (cached : Cached order) :
    (Identified replacement ∧ Cached replacement) ∧
      (Identified original ∧ Cached original) ∧ original.key = order.key := by
  have kept := replacement_cached cached typed divided
  rw [replace_eq order typed] at divided
  injection divided with first second
  injection first with first
  have rolledBack := rollback_identified identified cached
  have status := setOrdStatus_same order.rollback OrdStatus.Replaced
  rw [← first] at kept
  rw [← first, ← second]
  refine ⟨⟨?_, kept⟩, ⟨?_, ?_⟩, ?_⟩
  · have named := named_identified identified cached executionReport
    exact named.of_same (setOrdStatus_same _ OrdStatus.New) named.pendingFields
  · have set := rolledBack.of_same status rolledBack.pendingFields
    exact ⟨set.key, set.beginString, set.senderCompID, set.targetCompID,
      set.clOrdID, set.origClOrdID, set.pendingFields⟩
  · have kept := rollback_cached cached
    exact ⟨kept.previousOrdStatus, kept.newClOrdID⟩
  · exact (rollback_same cached).key

/-! ### Distinct tags -/

structure Distinct (order : Order) : Prop where
  fields : HasDistinctTags order.fields
  pendingFields : HasDistinctTags order.pendingFields

theorem distinct_nil : HasDistinctTags [] := by simp [HasDistinctTags]

theorem create_parts {message : Message} {order : Order}
    (constructed : create message = .ok order) :
    order.messages = [message] ∧ order.fields = message.fields ∧
      order.pendingFields = [] ∧ order.previousOrdStatus = none ∧
      order.newClOrdID = none := by
  unfold create at constructed
  cases begins : message.fields.get Tag.BeginString with
  | error exception =>
      rw [begins] at constructed
      cases constructed
  | ok beginString =>
  cases sends : message.fields.get Tag.SenderCompID with
  | error exception =>
      rw [begins, sends] at constructed
      cases constructed
  | ok senderCompID =>
  cases targets : message.fields.get Tag.TargetCompID with
  | error exception =>
      rw [begins, sends, targets] at constructed
      cases constructed
  | ok targetCompID =>
  cases names : message.fields.get Tag.ClOrdID with
  | error exception =>
      rw [begins, sends, targets, names] at constructed
      cases constructed
  | ok clOrdID =>
      rw [begins, sends, targets, names] at constructed
      cases constructed
      exact ⟨rfl, rfl, rfl, rfl, rfl⟩

theorem create_distinct {message : Message} {order : Order}
    (constructed : create message = .ok order)
    (distinct : HasDistinctTags message.fields) : Distinct order := by
  obtain ⟨-, fields, pendingFields, -, -⟩ := create_parts constructed
  constructor
  · rw [fields]
    exact distinct
  · rw [pendingFields]
    exact distinct_nil

theorem update_distinct {order : Order} (distinct : Distinct order)
    (message : Message) : Distinct (order.update message).2 := by
  have merged := distinct_mergeFields distinct.pendingFields message.fields
  unfold update
  cases message.MsgType with
  | error exception => exact ⟨distinct.fields, distinct.pendingFields⟩
  | ok msgType =>
      simp only
      split
      · cases message.fields.get Tag.ClOrdID with
        | error exception => exact ⟨distinct.fields, distinct.pendingFields⟩
        | ok clOrdID => exact ⟨distinct.fields.put _, merged⟩
      · split
        · exact ⟨distinct.fields.put _, merged⟩
        · exact ⟨distinct_mergeFields distinct.fields message.fields,
            distinct.pendingFields⟩

theorem rollback_distinct {order : Order} (distinct : Distinct order) :
    Distinct order.rollback := by
  unfold rollback
  cases order.previousOrdStatus with
  | none => exact ⟨distinct.fields, distinct_nil⟩
  | some status => exact ⟨distinct.fields.put status, distinct_nil⟩

theorem replace_distinct {order replacement original : Order}
    {executionReport : Message}
    (typed : executionReport.MsgType = .ok MsgType.ExecutionReport)
    (divided : order.replace executionReport = (.ok replacement, original))
    (distinct : Distinct order) : Distinct replacement ∧ Distinct original := by
  rw [replace_eq order typed] at divided
  injection divided with first second
  injection first with first
  have rolledBack := rollback_distinct distinct
  have committed : Distinct (order.committed executionReport) :=
    ⟨distinct_mergeFields (distinct_mergeFields distinct.fields _) _, distinct_nil⟩
  have named : Distinct (order.named executionReport) := by
    unfold named
    cases order.replacementClOrdID executionReport with
    | some clOrdID =>
        exact ⟨(committed.fields.putOrAppend clOrdID).putOrAppend _,
          committed.pendingFields⟩
    | none => exact committed
  rw [← first, ← second]
  exact ⟨⟨named.fields.put _, named.pendingFields⟩,
    ⟨rolledBack.fields.put _, rolledBack.pendingFields⟩⟩

end Order

namespace OrderBook

open FieldCollection (HasDistinctTags)

/-! ### The identity of every stored order -/

theorem process_identified {book : OrderBook} (message : Message)
    (before : ∀ key order, book.orders.lookup key = some order →
      (order.key = key ∧ order.Identified) ∧ order.Cached) :
    ∀ key order, (book.process message).2.orders.lookup key = some order →
      (order.key = key ∧ order.Identified) ∧ order.Cached := by
  refine @process_forall (fun key order =>
    (order.key = key ∧ order.Identified) ∧ order.Cached) book message before
    ?_ ?_ ?_ ?_ ?_
  · intro order typed constructed
    have created := Order.create_identified constructed
    exact ⟨⟨rfl, created.1⟩, created.2⟩
  · rintro key order reverseCompIDs updates - ⟨⟨keyed, identified⟩, cached⟩
    have same := Order.update_same order message
    exact ⟨⟨same.key.trans keyed, identified.of_same same
      (Order.update_anonymous identified.pendingFields message)⟩,
      Order.update_cached cached message⟩
  · rintro key order replacement original reports - divided
      ⟨⟨keyed, identified⟩, cached⟩
    obtain ⟨-, old, sameKey⟩ :=
      Order.replace_identified reports.1 divided identified cached
    exact ⟨⟨sameKey.trans keyed, old.1⟩, old.2⟩
  · rintro key order replacement original reports - - divided
      ⟨⟨keyed, identified⟩, cached⟩
    obtain ⟨new, -, -⟩ :=
      Order.replace_identified reports.1 divided identified cached
    exact ⟨⟨rfl, new.1⟩, new.2⟩
  · rintro key order typed addressed ⟨⟨keyed, identified⟩, cached⟩
    exact ⟨⟨(Order.rollback_same cached).key.trans keyed,
      Order.rollback_identified identified cached⟩, Order.rollback_cached cached⟩

theorem process_distinct {book : OrderBook} (message : Message)
    (single : message.MsgType = .ok MsgType.NewOrderSingle →
      HasDistinctTags message.fields)
    (before : ∀ key order, book.orders.lookup key = some order →
      order.Distinct) :
    ∀ key order, (book.process message).2.orders.lookup key = some order →
      order.Distinct := by
  refine @process_forall (fun _ order => order.Distinct) book message before
    ?_ ?_ ?_ ?_ ?_
  · intro order typed constructed
    exact Order.create_distinct constructed (single typed)
  · intro key order reverseCompIDs updates _ distinct
    exact Order.update_distinct distinct message
  · intro key order replacement original reports _ divided distinct
    exact (Order.replace_distinct reports.1 divided distinct).2
  · intro key order replacement original reports _ _ divided distinct
    exact (Order.replace_distinct reports.1 divided distinct).1
  · intro key order typed addressed distinct
    exact Order.rollback_distinct distinct

/-- After any calls, every order is stored under the key that its members and its
fields name, and no tag is repeated if no single order repeats one. -/
theorem processAll_identified (messages : List Message) :
    (∀ key order, (empty.processAll messages).orders.lookup key = some order →
      order.key = key ∧ order.Identified) ∧
    ((∀ message ∈ messages, message.MsgType = .ok MsgType.NewOrderSingle →
        HasDistinctTags message.fields) →
      ∀ key order, (empty.processAll messages).orders.lookup key = some order →
        order.Distinct) := by
  constructor
  · intro key order found
    have all := @processAll_invariant
      (fun book => ∀ key order, book.orders.lookup key = some order →
        (order.key = key ∧ order.Identified) ∧ order.Cached)
      empty messages (fun _ _ impossible => by cases impossible)
      (fun message _ book before => process_identified message before)
    exact (all key order found).1
  · intro singles
    apply @processAll_invariant
      (fun book => ∀ key order, book.orders.lookup key = some order →
        order.Distinct) empty messages
    · intro key order impossible
      cases impossible
    · intro message member book before
      exact process_distinct message (singles message member) before

/-- A single order, and a report of a replacement that nobody asked for, which is
refused. -/
theorem processAll_identified_replacement :
    ∃ order, (empty.processAll [orderSingle, replacedReport]).orders.lookup
        (ascii "A-B-1") = some order ∧
      (order.key = ascii "A-B-1" ∧ order.Identified) ∧ order.Distinct := by
  have found : ∃ order, (empty.processAll
      [orderSingle, replacedReport]).orders.lookup (ascii "A-B-1") = some order :=
    Option.isSome_iff_exists.mp (by decide)
  obtain ⟨order, found⟩ := found
  have result := processAll_identified [orderSingle, replacedReport]
  have distinct : ∀ message ∈ [orderSingle, replacedReport],
      message.MsgType = .ok MsgType.NewOrderSingle →
        HasDistinctTags message.fields := by decide
  exact ⟨order, found, result.1 _ order found, result.2 distinct _ order found⟩

end OrderBook

end Crocofix

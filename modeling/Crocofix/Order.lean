/-
A single order: the fields last reported for it, the fields of a request that
was not answered yet, and every message that concerned it.

An update may throw in the middle, when a request has no ClOrdID; what it did
before stays done.
-/

import Crocofix.Message

namespace Crocofix

open Numeral

structure Order where
  messages : List Message
  key : Bytes
  beginString : Bytes
  senderCompID : Bytes
  targetCompID : Bytes
  clOrdID : Field
  origClOrdID : Option Field
  previousOrdStatus : Option Field
  newClOrdID : Option Field
  fields : FieldCollection
  pendingFields : FieldCollection
deriving DecidableEq, Repr

namespace Order

def identityFields : List Int32 :=
  [Tag.BeginString, Tag.SenderCompID, Tag.TargetCompID, Tag.ClOrdID,
    Tag.OrigClOrdID]

def isIdentityField (field : Field) : Bool :=
  identityFields.contains field.tag

def createKey (senderCompID targetCompID clOrdID : Bytes) : Bytes :=
  senderCompID ++ ascii "-" ++ targetCompID ++ ascii "-" ++ clOrdID

def create (message : Message) : Except Exception Order := do
  let beginString ← message.fields.get Tag.BeginString
  let senderCompID ← message.fields.get Tag.SenderCompID
  let targetCompID ← message.fields.get Tag.TargetCompID
  let clOrdID ← message.fields.get Tag.ClOrdID
  pure
    { messages := [message]
      key := createKey senderCompID.value targetCompID.value clOrdID.value
      beginString := beginString.value
      senderCompID := senderCompID.value
      targetCompID := targetCompID.value
      clOrdID
      origClOrdID := message.fields.tryGet Tag.OrigClOrdID
      previousOrdStatus := none
      newClOrdID := none
      fields := message.fields
      pendingFields := [] }

def keyForMessage (message : Message) (reverseCompIDs : Bool) :
    Except Exception Bytes := do
  let senderCompID ← message.fields.get Tag.SenderCompID
  let targetCompID ← message.fields.get Tag.TargetCompID
  let clOrdID ←
    match message.fields.tryGet Tag.OrigClOrdID with
    | some field => pure field
    | none => message.fields.get Tag.ClOrdID
  if reverseCompIDs then
    pure (createKey targetCompID.value senderCompID.value clOrdID.value)
  else pure (createKey senderCompID.value targetCompID.value clOrdID.value)

/-- The loop of `update_fields` and `update_pending_fields`. -/
def mergeFields (target fields : FieldCollection) : FieldCollection :=
  fields.foldl
    (fun merged field =>
      if isIdentityField field then merged else merged.putOrAppend field)
    target

def updatePendingFields (order : Order) (fields : FieldCollection) : Order :=
  { order with pendingFields := mergeFields order.pendingFields fields }

def updateFields (order : Order) (fields : FieldCollection) : Order :=
  { order with fields := mergeFields order.fields fields }

def setOrdStatus (order : Order) (status : Bytes) : Order :=
  { order with fields := order.fields.put ⟨Tag.OrdStatus, status⟩ }

def update (order : Order) (message : Message) :
    Except Exception Unit × Order :=
  let recorded := { order with messages := order.messages ++ [message] }
  match message.MsgType with
  | .error exception => (.error exception, recorded)
  | .ok msgType =>
      if msgType = MsgType.OrderCancelReplaceRequest then
        let cached :=
          { recorded with
            previousOrdStatus := recorded.fields.tryGet Tag.OrdStatus }
        match message.fields.get Tag.ClOrdID with
        | .error exception => (.error exception, cached)
        | .ok clOrdID =>
            (.ok (),
              (({ cached with newClOrdID := some clOrdID }).updatePendingFields
                message.fields).setOrdStatus OrdStatus.PendingReplace)
      else if msgType = MsgType.OrderCancelRequest then
        let cached :=
          { recorded with
            previousOrdStatus := recorded.fields.tryGet Tag.OrdStatus }
        (.ok (), (cached.updatePendingFields message.fields).setOrdStatus
          OrdStatus.PendingCancel)
      else (.ok (), recorded.updateFields message.fields)

def commit (order : Order) : Order :=
  { order.updateFields order.pendingFields with pendingFields := [] }

def rollback (order : Order) : Order :=
  match order.previousOrdStatus with
  | none => { order with pendingFields := [] }
  | some status =>
      { order with
        pendingFields := []
        fields := order.fields.put status
        previousOrdStatus := none }

/-- Give the replacement the ClOrdID, the previous one becoming its
OrigClOrdID. -/
def renamed (replacement : Order) (clOrdID : Field) : Order :=
  { replacement with
    fields := (replacement.fields.putOrAppend clOrdID).putOrAppend
      ⟨Tag.OrigClOrdID, replacement.clOrdID.value⟩
    origClOrdID := some replacement.clOrdID
    clOrdID }

/-- `order::replace`: the replacement, and the order itself afterwards. -/
def replace (order : Order) (executionReport : Message) :
    Except Exception Order × Order :=
  match order.update executionReport with
  | (.error exception, _) => (.error exception, order)
  | (.ok (), updated) =>
      let committed := updated.commit
      let original := order.rollback
      let replacement :=
        match original.newClOrdID with
        | some clOrdID => committed.renamed clOrdID
        | none =>
            match executionReport.fields.tryGet Tag.ClOrdID with
            | some clOrdID => committed.renamed clOrdID
            | none => committed
      let keyed :=
        { replacement with
          key := createKey replacement.senderCompID replacement.targetCompID
            replacement.clOrdID.value }
      let replaced := original.setOrdStatus OrdStatus.Replaced
      (.ok (keyed.setOrdStatus OrdStatus.New),
        { replaced with messages := replaced.messages ++ [executionReport] })

/-! ### What the operations do to the message history -/

theorem update_messages (order : Order) (message : Message) :
    (order.update message).2.messages = order.messages ++ [message] := by
  unfold update
  cases message.MsgType with
  | error exception => rfl
  | ok msgType =>
      simp only
      split
      · cases message.fields.get Tag.ClOrdID with
        | error exception => rfl
        | ok clOrdID => rfl
      · split <;> rfl

theorem rollback_messages (order : Order) :
    order.rollback.messages = order.messages := by
  unfold rollback
  cases order.previousOrdStatus <;> rfl

def replacementKey (order : Order) (executionReport : Message) : Bytes :=
  let clOrdID :=
    match order.newClOrdID with
    | some field => field
    | none => (executionReport.fields.tryGet Tag.ClOrdID).getD order.clOrdID
  createKey order.senderCompID order.targetCompID clOrdID.value

/-- An execution report is never refused by `update`. -/
theorem update_of_other (order : Order) {message : Message} {msgType : Bytes}
    (type : message.MsgType = .ok msgType)
    (notReplace : msgType ≠ MsgType.OrderCancelReplaceRequest)
    (notCancel : msgType ≠ MsgType.OrderCancelRequest) :
    order.update message =
      (.ok (), { order with messages := order.messages ++ [message] }.updateFields
        message.fields) := by
  simp only [update, type, if_neg notReplace, if_neg notCancel]

theorem rollback_newClOrdID (order : Order) :
    order.rollback.newClOrdID = order.newClOrdID := by
  unfold rollback
  cases order.previousOrdStatus <;> rfl

theorem replace_spec (order : Order) {executionReport : Message}
    (type : executionReport.MsgType = .ok MsgType.ExecutionReport) :
    ∃ replacement original,
      order.replace executionReport = (.ok replacement, original) ∧
      replacement.key = order.replacementKey executionReport ∧
      original.messages = order.messages ++ [executionReport] := by
  have updated := update_of_other order type (by decide) (by decide)
  unfold replace
  rw [updated]
  refine ⟨_, _, rfl, ?_, ?_⟩
  · simp only [replacementKey, rollback_newClOrdID]
    cases order.newClOrdID with
    | some field => rfl
    | none =>
        cases executionReport.fields.tryGet Tag.ClOrdID with
        | some field => rfl
        | none => rfl
  · exact congrArg (· ++ [executionReport]) (rollback_messages order)

/-- A request is refused when it has no ClOrdID to rename the order to. -/
theorem update_refused_iff {order : Order} {message : Message} {msgType : Bytes}
    (type : message.MsgType = .ok msgType) :
    (order.update message).1 ≠ .ok () ↔
      msgType = MsgType.OrderCancelReplaceRequest ∧
        message.fields.tryGet Tag.ClOrdID = none := by
  unfold update
  rw [type]
  simp only
  by_cases replace : msgType = MsgType.OrderCancelReplaceRequest
  · rw [if_pos replace]
    unfold FieldCollection.get
    cases message.fields.tryGet Tag.ClOrdID with
    | none => simp [replace]
    | some field => simp
  · rw [if_neg replace]
    split <;> simp [replace]

end Order

end Crocofix

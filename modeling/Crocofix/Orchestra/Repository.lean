/-
A unified FIX repository and the fields of its messages.

A content names a field by its tag or a component by its name, and the contents of
components and of messages are found by the id of the component or message.
-/

import Crocofix.Orchestra.Orchestration

namespace Crocofix.FixRepository

open Orchestra (Pedigree Failure item)

structure DataType where
  name : Text
  baseType : Option Text
  description : Option Text
  pedigree : Pedigree
deriving DecidableEq, Repr

structure Enum where
  id : Int
  value : Text
  symbolicName : Text
  description : Option Text
  pedigree : Pedigree
deriving DecidableEq, Repr

structure Field where
  id : Int
  name : Text
  type : Text
  description : Option Text
  pedigree : Pedigree
deriving DecidableEq, Repr

structure Component where
  componentID : Text
  categoryId : Text
  name : Text
  description : Option Text
  pedigree : Pedigree
deriving DecidableEq, Repr

structure MsgContent where
  componentID : Text
  tagText : Text
  reqd : Text
  description : Option Text
  pedigree : Pedigree
deriving DecidableEq, Repr

structure Message where
  componentID : Text
  msgType : Text
  name : Text
  categoryID : Text
  description : Option Text
  pedigree : Pedigree
deriving DecidableEq, Repr

structure MessageField where
  field : Field
  required : Text
  depth : Nat
deriving DecidableEq, Repr

/-- What loading the files of a directory has filled: everything is under its own
key, and the contents of an id are a list that something was appended to. -/
structure Repository where
  enums : Dict Int (List Enum)
  fieldsByTag : Dict Int Field
  dataTypes : Dict Text DataType
  components : Dict Text Component
  msgContents : Dict Text (List MsgContent)
  messages : List Message
  messagesByMsgType : Dict Text Message
  version : Text
  tagged : fieldsByTag.Indexes Field.id
  named : components.Indexes Component.name
  typed : messagesByMsgType = .ofValues Message.msgType messages
  appended : ∀ id, msgContents.get? id ≠ some []
  owned : ∀ id contents, msgContents.get? id = some contents →
    ∀ content ∈ contents, content.componentID = id

/-- The loop of `extract_fields`.  A KeyError ends it, and what was found before
is kept. -/
def extractContents (repository : Repository) (depth : Nat)
    (extractFields : Text → Nat → Except Failure (List MessageField)) :
    List MsgContent → Except Failure (List MessageField)
  | [] => return []
  | content :: contents =>
      match Text.int content.tagText with
      | some id =>
          match repository.fieldsByTag.get? id with
          | none => return []
          | some field => do
              let fields ← extractContents repository depth extractFields contents
              return ⟨field, content.reqd, depth⟩ :: fields
      | none =>
          match repository.components.get? content.tagText with
          | none => return []
          | some component => do
              let inner ← extractFields component.componentID (depth + 1)
              let fields ← extractContents repository depth extractFields contents
              return inner ++ fields

/-- The fuel is the number of nested calls that are possible. -/
def extractFields (repository : Repository) :
    Nat → Text → Nat → Except Failure (List MessageField)
  | 0, _, _ => .error .recursionError
  | fuel + 1, componentID, depth =>
      match repository.msgContents.get? componentID with
      | none => return []
      | some contents =>
          extractContents repository depth (extractFields repository fuel) contents

def messageFields (repository : Repository) (fuel : Nat) (message : Message) :
    Except Failure (List MessageField) :=
  extractFields repository fuel message.componentID 0

/-! ### Conversion -/

def presence (content : MsgContent) : Text :=
  if content.reqd = "1".toList then "required".toList else "optional".toList

/-- The reference for one content; a name that is unknown is only printed. -/
def buildReference (repository : Repository) (content : MsgContent) :
    Except Failure (Option Orchestra.Reference) :=
  match Text.int content.tagText with
  | some id => do
      let field ← item repository.fieldsByTag id
      return some ⟨some field.id, none, some (.text content.componentID),
        some (presence content), content.description, content.pedigree⟩
  | none =>
      match repository.components.get? content.tagText with
      | none => return none
      | some component =>
          return some ⟨none, none, some (.text component.componentID),
            some (presence content), content.description, content.pedigree⟩

/-- `build_references` looks up the id of the global `source`, which is the one that
it is called with. -/
def buildReferences (repository : Repository) (componentID : Text) :
    Except Failure (List Orchestra.Reference) := do
  let contents ← item repository.msgContents componentID
  let references ← contents.mapM (buildReference repository)
  return references.reduceOption

def convertDataType (source : DataType) : Orchestra.DataType :=
  ⟨source.name, source.baseType, source.description, source.pedigree⟩

def codeSetName (source : Field) : Text := source.name ++ "CodeSet".toList

def convertCode (value : Enum) (index : Nat) : Orchestra.Code :=
  ⟨.number (value.id * 1000 + index), value.symbolicName, value.value,
    value.description, value.pedigree⟩

/-- Fields without enumerated values have no code set. -/
def convertCodeSet (repository : Repository) (source : Field) :
    Option Orchestra.CodeSet :=
  (repository.enums.get? source.id).map fun enum =>
    ⟨.number source.id, codeSetName source, source.type, source.description,
      source.pedigree, (enum.zipIdx 1).map fun (value, index) => convertCode value index⟩

def convertField (repository : Repository) (source : Field) : Orchestra.Field :=
  ⟨source.id, source.name,
    if (repository.enums.get? source.id).isSome then codeSetName source else source.type,
    source.description, source.pedigree⟩

def convertComponent (repository : Repository) (source : Component) :
    Except Failure Orchestra.Component := do
  let references ← buildReferences repository source.componentID
  return ⟨.text source.componentID, source.name, source.categoryId, source.description,
    source.pedigree, references⟩

def convertMessage (repository : Repository) (source : Message) :
    Except Failure Orchestra.Message := do
  let references ← buildReferences repository source.componentID
  return ⟨.text source.componentID, source.name, source.msgType, source.categoryID,
    source.description, source.pedigree, references⟩

/-- The orchestration that fixreptorc writes. -/
def convert (repository : Repository) : Except Failure Orchestra.Orchestration := do
  let components ← repository.components.values.mapM (convertComponent repository)
  let messages ← repository.messagesByMsgType.values.mapM (convertMessage repository)
  return {
    dataTypes := .ofValues Orchestra.DataType.name
      (repository.dataTypes.values.map convertDataType)
    codeSets := .ofValues Orchestra.CodeSet.name
      (repository.fieldsByTag.values.filterMap (convertCodeSet repository))
    fieldsByTag := .ofValues Orchestra.Field.id
      (repository.fieldsByTag.values.map (convertField repository))
    components := .ofValues Orchestra.Component.id components
    groups := .empty
    messages := .empty
    messagesByMsgType := .ofValues Orchestra.Message.msgType messages
    version := repository.version }

end Crocofix.FixRepository

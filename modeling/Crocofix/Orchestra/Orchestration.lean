/-
The FIX Orchestra model, how it is written as an XML document and how a document
is loaded.

An attribute that the writer always writes is a text here.  Elsewhere `None` and
the empty text are different values, and both count as false.
-/

import Crocofix.Library.Element
import Crocofix.Library.Text

namespace Crocofix.Orchestra

structure Pedigree where
  added : Option Text
  addedEP : Option Text
  updated : Option Text
  updatedEP : Option Text
  deprecated : Option Text
  deprecatedEP : Option Text
deriving DecidableEq, Repr

/-- An id is a number where it was computed and a text where it was read. -/
inductive Id
  | number (value : Int)
  | text (value : Text)
deriving DecidableEq, Repr

namespace Id

def str : Id → Text
  | .number value => Text.str value
  | .text value => value

def truthy : Id → Bool
  | .number value => value ≠ 0
  | .text value => value ≠ []

end Id

structure DataType where
  name : Text
  baseType : Option Text
  synopsis : Option Text
  pedigree : Pedigree
deriving DecidableEq, Repr

structure Code where
  id : Id
  name : Text
  value : Text
  synopsis : Option Text
  pedigree : Pedigree
deriving DecidableEq, Repr

structure CodeSet where
  id : Id
  name : Text
  type : Text
  synopsis : Option Text
  pedigree : Pedigree
  codes : List Code
deriving DecidableEq, Repr

structure Field where
  id : Int
  name : Text
  type : Text
  synopsis : Option Text
  pedigree : Pedigree
deriving DecidableEq, Repr

structure Reference where
  fieldId : Option Int
  groupId : Option Id
  componentId : Option Id
  presence : Option Text
  synopsis : Option Text
  pedigree : Pedigree
deriving DecidableEq, Repr

structure Component where
  id : Id
  name : Text
  category : Text
  synopsis : Option Text
  pedigree : Pedigree
  references : List Reference
deriving DecidableEq, Repr

structure Group where
  id : Id
  name : Text
  category : Text
  synopsis : Option Text
  pedigree : Pedigree
  references : List Reference
deriving DecidableEq, Repr

structure Message where
  id : Id
  name : Text
  msgType : Text
  category : Text
  synopsis : Option Text
  pedigree : Pedigree
  references : List Reference
deriving DecidableEq, Repr

structure MessageField where
  field : Field
  presence : Option Text
  depth : Nat
deriving DecidableEq, Repr

structure Orchestration where
  dataTypes : Dict Text DataType
  codeSets : Dict Text CodeSet
  fieldsByTag : Dict Int Field
  components : Dict Id Component
  groups : Dict Id Group
  messages : Dict Id Message
  messagesByMsgType : Dict Text Message
  version : Text

/-! ### Documents -/

/-- The elements that the writer creates or a reader looks for, without their
namespace. -/
inductive Tag
  | repository | metadata
  | datatypes | datatype
  | codeSets | codeSet | code
  | fields | field
  | components | component
  | groups | group
  | messages | message | messageStructure
  | fieldRef | numInGroup | groupRef | componentRef
  | annotationElement | documentation
deriving DecidableEq, Repr

inductive Attribute
  | name | id | type | baseType | value | msgType | category
  | presence | purpose | version
  | added | addedEP | updated | updatedEP | deprecated | deprecatedEP
deriving DecidableEq, Repr

abbrev Xml := Element Tag Attribute Text

abbrev Attributes := Dict Attribute Text

/-- `if value:` of a value that is `None` or a text. -/
def truthy (value : Option Text) : Option Text := value.filter (· ≠ [])

def synopsisPurpose : Text := "SYNOPSIS".toList

/-! ### Writing -/

def populateXmlPedigree (attrib : Attributes) (pedigree : Pedigree) : Attributes :=
  attrib
    |>.setIf .added (truthy pedigree.added)
    |>.setIf .addedEP (truthy pedigree.addedEP)
    |>.setIf .updated (truthy pedigree.updated)
    |>.setIf .updatedEP (truthy pedigree.updatedEP)
    |>.setIf .deprecated (truthy pedigree.deprecated)
    |>.setIf .deprecatedEP (truthy pedigree.deprecatedEP)

def documentation (synopsis : Option Text) : Xml :=
  .mk .documentation (Dict.empty.set .purpose synopsisPurpose) synopsis []

def annotate (children : List Xml) : Xml := .mk .annotationElement Dict.empty none children

/-- The annotation that is written only with a synopsis in it. -/
def annotationIf (synopsis : Option Text) : List Xml :=
  match truthy synopsis with
  | none => []
  | some text => [annotate [documentation (some text)]]

def createXmlDataType (source : DataType) : Xml :=
  .mk .datatype
    ((populateXmlPedigree (Dict.empty.set .name source.name) source.pedigree).setIf
      .baseType (truthy source.baseType))
    none (annotationIf source.synopsis)

def createXmlDataTypes (dataTypes : Dict Text DataType) : Xml :=
  .mk .datatypes Dict.empty none (dataTypes.values.map createXmlDataType)

/-- A code is written with the pedigree of its code set. -/
def createXmlCode (source : CodeSet) (sourceCode : Code) : Xml :=
  .mk .code
    (populateXmlPedigree
      (((Dict.empty.set .name sourceCode.name).set .id sourceCode.id.str).set
        .value sourceCode.value)
      source.pedigree)
    none [annotate [documentation sourceCode.synopsis]]

def createXmlCodeSet (source : CodeSet) : Xml :=
  .mk .codeSet
    (((Dict.empty.set .name source.name).set .id source.id.str).set .type source.type)
    none (source.codes.map (createXmlCode source) ++ annotationIf source.synopsis)

def createXmlCodeSets (codeSets : Dict Text CodeSet) : Xml :=
  .mk .codeSets Dict.empty none (codeSets.values.map createXmlCodeSet)

/-- The annotation is written without a synopsis too. -/
def createXmlField (source : Field) : Xml :=
  .mk .field
    (populateXmlPedigree
      (((Dict.empty.set .id (Text.str source.id)).set .name source.name).set
        .type source.type)
      source.pedigree)
    none
    [annotate (((truthy source.synopsis).map fun text =>
      documentation (some text)).toList)]

def createXmlFields (fieldsByTag : Dict Int Field) : Xml :=
  .mk .fields Dict.empty none (fieldsByTag.values.map createXmlField)

def createXmlRef (tag : Tag) (id : Text) (reference : Reference) : Xml :=
  .mk tag
    ((populateXmlPedigree (Dict.empty.set .id id) reference.pedigree).setIf
      .presence (truthy reference.presence))
    none (annotationIf reference.synopsis)

/-- The field id of a reference, unless it is `None` or zero. -/
def Reference.field? (reference : Reference) : Option Int :=
  reference.fieldId.filter (· ≠ 0)

def Reference.component? (reference : Reference) : Option Id :=
  reference.componentId.filter Id.truthy

def Reference.group? (reference : Reference) : Option Id :=
  reference.groupId.filter Id.truthy

def createXmlReference (reference : Reference) : Option Xml :=
  match reference.field? with
  | some id => some (createXmlRef .fieldRef (Text.str id) reference)
  | none =>
      match reference.component? with
      | some id => some (createXmlRef .componentRef id.str reference)
      -- A reference to a group is passed over.
      | none => none

def createXmlReferences (references : List Reference) : List Xml :=
  references.filterMap createXmlReference

def createXmlComponent (source : Component) : Xml :=
  .mk .component
    (populateXmlPedigree
      (((Dict.empty.set .name source.name).set .id source.id.str).set
        .category source.category)
      source.pedigree)
    none (createXmlReferences source.references ++ annotationIf source.synopsis)

def createXmlComponents (components : Dict Id Component) : Xml :=
  .mk .components Dict.empty none (components.values.map createXmlComponent)

/-- No group is written. -/
def createXmlGroups : Xml := .mk .groups Dict.empty none []

def createXmlMessage (source : Message) : Xml :=
  .mk .message
    (populateXmlPedigree
      ((((Dict.empty.set .name source.name).set .id source.id.str).set
        .msgType source.msgType).set .category source.category)
      source.pedigree)
    none
    (.mk .messageStructure Dict.empty none (createXmlReferences source.references) ::
      annotationIf source.synopsis)

def createXmlMessages (messagesByMsgType : Dict Text Message) : Xml :=
  .mk .messages Dict.empty none (messagesByMsgType.values.map createXmlMessage)

/-- The metadata hold the time of writing, and no reader looks at them. -/
def toXml (metadata : List Xml) (orchestration : Orchestration) : Xml :=
  .mk .repository
    ((Dict.empty.set .version orchestration.version).set .name orchestration.version)
    none
    [.mk .metadata Dict.empty none metadata,
      createXmlDataTypes orchestration.dataTypes,
      createXmlCodeSets orchestration.codeSets,
      createXmlFields orchestration.fieldsByTag,
      createXmlComponents orchestration.components,
      createXmlGroups,
      createXmlMessages orchestration.messagesByMsgType]

/-! ### Loading -/

/-- An exception that one of these functions raises; `missing` stands for an
attribute that the writer always writes and that would be loaded as `None`. -/
inductive Failure
  | keyError
  | recursionError
  | absent (tag : Tag)
  | missing (key : Attribute)
  | valueError (text : Text)
  | unexpected (tag : Tag)
deriving DecidableEq, Repr

def require (element : Xml) (key : Attribute) : Except Failure Text :=
  match element.get key with
  | none => .error (.missing key)
  | some text => .ok text

def requireChild (element : Xml) (tag : Tag) : Except Failure Xml :=
  match element.find tag with
  | none => .error (.absent tag)
  | some child => .ok child

def requireInt (element : Xml) (key : Attribute) : Except Failure Int := do
  let text ← require element key
  match Text.int text with
  | none => .error (.valueError text)
  | some value => .ok value

/-- The elements at `./annotation/documentation/[@purpose='SYNOPSIS']`. -/
def synopses (element : Xml) : List Xml :=
  ((element.findall .annotationElement).flatMap fun annotated =>
    annotated.findall .documentation).filter fun documentation =>
      documentation.get .purpose = some synopsisPurpose

def extractSynopsis (element : Xml) : Text :=
  match (synopses element).head? with
  | none => []
  | some documentation => Text.strip (documentation.text.getD [])

def extractPedigree (element : Xml) : Pedigree where
  added := element.get .added
  addedEP := element.get .addedEP
  updated := element.get .updated
  updatedEP := element.get .updatedEP
  deprecated := element.get .deprecated
  deprecatedEP := element.get .deprecatedEP

def loadDataType (dataTypeElement : Xml) : Except Failure DataType := do
  return {
    name := ← require dataTypeElement .name
    baseType := dataTypeElement.get .baseType
    synopsis := some (extractSynopsis dataTypeElement)
    pedigree := extractPedigree dataTypeElement }

def loadDataTypes (repository : Xml) : Except Failure (Dict Text DataType) := do
  let dataTypesElement ← requireChild repository .datatypes
  let dataTypes ← (dataTypesElement.findall .datatype).mapM loadDataType
  return Dict.ofValues DataType.name dataTypes

def loadCode (codeElement : Xml) : Except Failure Code := do
  return {
    id := .text (← require codeElement .id)
    name := ← require codeElement .name
    value := ← require codeElement .value
    synopsis := some (extractSynopsis codeElement)
    pedigree := extractPedigree codeElement }

def loadCodeSet (codeSetElement : Xml) : Except Failure CodeSet := do
  let codes ← (codeSetElement.findall .code).mapM loadCode
  return {
    id := .text (← require codeSetElement .id)
    name := ← require codeSetElement .name
    type := ← require codeSetElement .type
    synopsis := some (extractSynopsis codeSetElement)
    pedigree := extractPedigree codeSetElement
    codes := codes }

def loadCodeSets (repository : Xml) : Except Failure (Dict Text CodeSet) := do
  let codeSetsElement ← requireChild repository .codeSets
  let codeSets ← (codeSetsElement.findall .codeSet).mapM loadCodeSet
  return Dict.ofValues CodeSet.name codeSets

def loadField (fieldElement : Xml) : Except Failure Field := do
  return {
    id := ← requireInt fieldElement .id
    name := ← require fieldElement .name
    type := ← require fieldElement .type
    synopsis := some (extractSynopsis fieldElement)
    pedigree := extractPedigree fieldElement }

def loadFields (repository : Xml) : Except Failure (Dict Int Field) := do
  let fieldsElement ← requireChild repository .fields
  let fields ← (fieldsElement.findall .field).mapM loadField
  return Dict.ofValues Field.id fields

def loadReference (refElement : Xml) (fieldId : Option Int) (groupId : Option Id)
    (componentId : Option Id) : Reference where
  fieldId := fieldId
  groupId := groupId
  componentId := componentId
  presence := refElement.get .presence
  synopsis := some (extractSynopsis refElement)
  pedigree := extractPedigree refElement

def extractReference (refElement : Xml) : Except Failure (Option Reference) :=
  match refElement.tag with
  | .fieldRef | .numInGroup => do
      return some (loadReference refElement (some (← requireInt refElement .id)) none none)
  | .groupRef =>
      return some (loadReference refElement none ((refElement.get .id).map .text) none)
  | .componentRef =>
      return some (loadReference refElement none none ((refElement.get .id).map .text))
  | .annotationElement => return none
  | tag => .error (.unexpected tag)

def extractReferences (element : Xml) : Except Failure (List Reference) := do
  let references ← element.children.mapM extractReference
  return references.reduceOption

def loadComponent (componentElement : Xml) : Except Failure Component := do
  return {
    id := .text (← require componentElement .id)
    name := ← require componentElement .name
    category := ← require componentElement .category
    synopsis := some (extractSynopsis componentElement)
    pedigree := extractPedigree componentElement
    references := ← extractReferences componentElement }

def loadComponents (repository : Xml) : Except Failure (Dict Id Component) := do
  let componentsElement ← requireChild repository .components
  let components ← (componentsElement.findall .component).mapM loadComponent
  return Dict.ofValues Component.id components

def loadGroup (groupElement : Xml) : Except Failure Group := do
  return {
    id := .text (← require groupElement .id)
    name := ← require groupElement .name
    category := ← require groupElement .category
    synopsis := some (extractSynopsis groupElement)
    pedigree := extractPedigree groupElement
    references := ← extractReferences groupElement }

def loadGroups (repository : Xml) : Except Failure (Dict Id Group) := do
  let groupsElement ← requireChild repository .groups
  let groups ← (groupsElement.findall .group).mapM loadGroup
  return Dict.ofValues Group.id groups

def loadMessage (messageElement : Xml) : Except Failure Message := do
  let structureElement ← requireChild messageElement .messageStructure
  return {
    id := .text (← require messageElement .id)
    name := ← require messageElement .name
    msgType := ← require messageElement .msgType
    category := ← require messageElement .category
    synopsis := some (extractSynopsis messageElement)
    pedigree := extractPedigree messageElement
    references := ← extractReferences structureElement }

def loadMessages (repository : Xml) : Except Failure (List Message) := do
  let messagesElement ← requireChild repository .messages
  (messagesElement.findall .message).mapM loadMessage

def load (repository : Xml) : Except Failure Orchestration := do
  let dataTypes ← loadDataTypes repository
  let codeSets ← loadCodeSets repository
  let fieldsByTag ← loadFields repository
  let components ← loadComponents repository
  let groups ← loadGroups repository
  let messages ← loadMessages repository
  return {
    dataTypes := dataTypes
    codeSets := codeSets
    fieldsByTag := fieldsByTag
    components := components
    groups := groups
    messages := Dict.ofValues Message.id messages
    messagesByMsgType := Dict.ofValues Message.msgType messages
    version := [] }

/-! ### The fields of a message -/

def item {κ α : Type} [DecidableEq κ] (dict : Dict κ α) (key : κ) : Except Failure α :=
  match dict.get? key with
  | none => .error .keyError
  | some value => .ok value

def referenceToFields (orchestration : Orchestration) (reference : Reference)
    (depth : Nat)
    (referencesToFields : List Reference → Nat → Except Failure (List MessageField)) :
    Except Failure (List MessageField) :=
  match reference.field?, reference.group?, reference.component? with
  | some id, _, _ => do
      let field ← item orchestration.fieldsByTag id
      return [⟨field, reference.presence, depth⟩]
  | none, some id, _ => do
      let group ← item orchestration.groups id
      referencesToFields group.references (depth + 1)
  | none, none, some id => do
      let component ← item orchestration.components id
      referencesToFields component.references (depth + 1)
  | none, none, none => return []

/-- The fuel is the number of nested calls that are possible. -/
def referencesToFields (orchestration : Orchestration) :
    Nat → List Reference → Nat → Except Failure (List MessageField)
  | 0, _, _ => .error .recursionError
  | fuel + 1, references, depth => do
      let found ← references.mapM fun reference =>
        referenceToFields orchestration reference depth
          (referencesToFields orchestration fuel)
      return found.flatten

def messageFields (orchestration : Orchestration) (fuel : Nat) (message : Message) :
    Except Failure (List MessageField) :=
  referencesToFields orchestration fuel message.references 0

end Crocofix.Orchestra

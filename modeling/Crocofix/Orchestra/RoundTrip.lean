/-
Which orchestrations come back unchanged.

Writing an orchestration and loading it gives an equal one exactly when it has no
groups, every reference goes to one field or to one component, code sets and codes
have no pedigree, every id that is not a tag is a text, and no pedigree, presence or
base type is the empty text.
-/

import Crocofix.Orchestra.Reread

namespace Crocofix.Orchestra

/-! ### What is assumed -/

def Stripped : Option Text → Prop
  | none => False
  | some text => Text.strip text = text

instance : DecidablePred Stripped
  | none => isFalse not_false
  | some text => inferInstanceAs (Decidable (Text.strip text = text))

structure Orchestration.Stripped (orchestration : Orchestration) : Prop where
  dataTypes : ∀ dataType ∈ orchestration.dataTypes.values,
    Orchestra.Stripped dataType.synopsis
  codeSets : ∀ codeSet ∈ orchestration.codeSets.values,
    Orchestra.Stripped codeSet.synopsis ∧
      ∀ code ∈ codeSet.codes, Orchestra.Stripped code.synopsis
  fields : ∀ field ∈ orchestration.fieldsByTag.values, Orchestra.Stripped field.synopsis
  components : ∀ component ∈ orchestration.components.values,
    Orchestra.Stripped component.synopsis ∧
      ∀ reference ∈ component.references, Orchestra.Stripped reference.synopsis
  groups : ∀ group ∈ orchestration.groups.values,
    Orchestra.Stripped group.synopsis ∧
      ∀ reference ∈ group.references, Orchestra.Stripped reference.synopsis
  messages : ∀ message ∈ orchestration.messages.values,
    Orchestra.Stripped message.synopsis ∧
      ∀ reference ∈ message.references, Orchestra.Stripped reference.synopsis

/-- Everything is found under its own key, and both dictionaries of messages hold
the same messages. -/
structure Orchestration.Consistent (orchestration : Orchestration) : Prop where
  dataTypes : orchestration.dataTypes.Indexes DataType.name
  codeSets : orchestration.codeSets.Indexes CodeSet.name
  fields : orchestration.fieldsByTag.Indexes Field.id
  components : orchestration.components.Indexes Component.id
  groups : orchestration.groups.Indexes Group.id
  messages : orchestration.messages.Indexes Message.id
  messagesByMsgType : orchestration.messagesByMsgType.Indexes Message.msgType
  sameMessages : ∀ message, message ∈ orchestration.messagesByMsgType.values ↔
    message ∈ orchestration.messages.values

/-- The same data types, code sets, fields, components, groups and messages under
the same keys. -/
structure Orchestration.Equal (left right : Orchestration) : Prop where
  dataTypes : left.dataTypes.Same right.dataTypes
  codeSets : left.codeSets.Same right.codeSets
  fields : left.fieldsByTag.Same right.fieldsByTag
  components : left.components.Same right.components
  groups : left.groups.Same right.groups
  messages : left.messages.Same right.messages
  messagesByMsgType : left.messagesByMsgType.Same right.messagesByMsgType

/-! ### What comes back -/

/-- No attribute is the empty text. -/
structure Pedigree.Kept (pedigree : Pedigree) : Prop where
  added : pedigree.added ≠ some []
  addedEP : pedigree.addedEP ≠ some []
  updated : pedigree.updated ≠ some []
  updatedEP : pedigree.updatedEP ≠ some []
  deprecated : pedigree.deprecated ≠ some []
  deprecatedEP : pedigree.deprecatedEP ≠ some []

def Id.IsText (id : Id) : Prop := ∃ text, id = .text text

structure DataType.Kept (dataType : DataType) : Prop where
  baseType : dataType.baseType ≠ some []
  pedigree : dataType.pedigree.Kept

structure Code.Kept (code : Code) : Prop where
  id : code.id.IsText
  pedigree : code.pedigree = Pedigree.empty

structure CodeSet.Kept (codeSet : CodeSet) : Prop where
  id : codeSet.id.IsText
  pedigree : codeSet.pedigree = Pedigree.empty
  codes : ∀ code ∈ codeSet.codes, code.Kept

inductive Reference.Target : Option Int → Option Id → Option Id → Prop
  | field {id : Int} (nonzero : id ≠ 0) : Target (some id) none none
  | component {id : Text} (inhabited : id ≠ []) : Target none none (some (.text id))

structure Reference.Kept (reference : Reference) : Prop where
  target : Reference.Target reference.fieldId reference.groupId reference.componentId
  presence : reference.presence ≠ some []
  pedigree : reference.pedigree.Kept

structure Component.Kept (component : Component) : Prop where
  id : component.id.IsText
  pedigree : component.pedigree.Kept
  references : ∀ reference ∈ component.references, reference.Kept

structure Message.Kept (message : Message) : Prop where
  id : message.id.IsText
  pedigree : message.pedigree.Kept
  references : ∀ reference ∈ message.references, reference.Kept

structure Orchestration.Kept (orchestration : Orchestration) : Prop where
  dataTypes : ∀ dataType ∈ orchestration.dataTypes.values, dataType.Kept
  codeSets : ∀ codeSet ∈ orchestration.codeSets.values, codeSet.Kept
  fields : ∀ field ∈ orchestration.fieldsByTag.values, field.pedigree.Kept
  components : ∀ component ∈ orchestration.components.values, component.Kept
  groups : orchestration.groups.values = []
  messages : ∀ message ∈ orchestration.messages.values, message.Kept

/-! ### One piece at a time -/

theorem truthy_eq_iff {value : Option Text} : truthy value = value ↔ value ≠ some [] := by
  constructor
  · rintro same rfl
    cases same
  · intro inhabited
    cases value with
    | none => rfl
    | some text =>
        apply Option.filter_eq_some_iff.mpr
        exact ⟨rfl, decide_eq_true fun empty => inhabited (congrArg some empty)⟩

theorem rereadPedigree_eq_iff {pedigree : Pedigree} :
    rereadPedigree pedigree = pedigree ↔ pedigree.Kept := by
  constructor
  · intro same
    exact ⟨truthy_eq_iff.mp (congrArg Pedigree.added same),
      truthy_eq_iff.mp (congrArg Pedigree.addedEP same),
      truthy_eq_iff.mp (congrArg Pedigree.updated same),
      truthy_eq_iff.mp (congrArg Pedigree.updatedEP same),
      truthy_eq_iff.mp (congrArg Pedigree.deprecated same),
      truthy_eq_iff.mp (congrArg Pedigree.deprecatedEP same)⟩
  · intro kept
    unfold rereadPedigree
    rw [truthy_eq_iff.mpr kept.added, truthy_eq_iff.mpr kept.addedEP,
      truthy_eq_iff.mpr kept.updated, truthy_eq_iff.mpr kept.updatedEP,
      truthy_eq_iff.mpr kept.deprecated, truthy_eq_iff.mpr kept.deprecatedEP]

theorem rereadSynopsis_of_stripped {synopsis : Option Text} (stripped : Stripped synopsis) :
    rereadSynopsis synopsis = synopsis := by
  cases synopsis with
  | none => exact stripped.elim
  | some text => exact congrArg some stripped

theorem text_str_eq_iff {id : Id} : Id.text id.str = id ↔ id.IsText := by
  constructor
  · intro same
    exact ⟨_, same.symm⟩
  · rintro ⟨text, rfl⟩
    rfl

theorem rereadDataType_eq_iff {dataType : DataType} (stripped : Stripped dataType.synopsis) :
    rereadDataType dataType = dataType ↔ dataType.Kept := by
  constructor
  · intro same
    exact ⟨truthy_eq_iff.mp (congrArg DataType.baseType same),
      rereadPedigree_eq_iff.mp (congrArg DataType.pedigree same)⟩
  · intro kept
    unfold rereadDataType
    rw [truthy_eq_iff.mpr kept.baseType, rereadSynopsis_of_stripped stripped,
      rereadPedigree_eq_iff.mpr kept.pedigree]

theorem rereadPedigree_empty : rereadPedigree Pedigree.empty = Pedigree.empty := rfl

theorem map_eq_self_iff {α : Type} {change : α → α} {items : List α} :
    items.map change = items ↔ ∀ item ∈ items, change item = item := by
  conv_lhs => rhs; rw [← List.map_id items]
  exact List.map_inj_left

theorem filterMap_eq_self_iff {α : Type} {change : α → Option α} {items : List α} :
    items.filterMap change = items ↔ ∀ item ∈ items, change item = some item := by
  conv_lhs => rhs; rw [← List.map_id items]
  exact List.filterMap_eq_map_iff_forall_eq_some

theorem rereadCode_eq_iff {codeSet : CodeSet} (unpedigreed : codeSet.pedigree = Pedigree.empty)
    {code : Code} (stripped : Stripped code.synopsis) :
    rereadCode codeSet code = code ↔ code.Kept := by
  constructor
  · intro same
    have pedigree := congrArg Code.pedigree same
    change rereadPedigree codeSet.pedigree = code.pedigree at pedigree
    rw [unpedigreed] at pedigree
    exact ⟨text_str_eq_iff.mp (congrArg Code.id same), pedigree.symm⟩
  · intro kept
    unfold rereadCode
    rw [text_str_eq_iff.mpr kept.id, rereadSynopsis_of_stripped stripped, unpedigreed,
      rereadPedigree_empty, ← kept.pedigree]

theorem rereadCodeSet_eq_iff {codeSet : CodeSet} (stripped : Stripped codeSet.synopsis)
    (codesStripped : ∀ code ∈ codeSet.codes, Stripped code.synopsis) :
    rereadCodeSet codeSet = codeSet ↔ codeSet.Kept := by
  constructor
  · intro same
    have unpedigreed : codeSet.pedigree = Pedigree.empty :=
      (congrArg CodeSet.pedigree same).symm
    have codes := map_eq_self_iff.mp (congrArg CodeSet.codes same)
    refine ⟨text_str_eq_iff.mp (congrArg CodeSet.id same), unpedigreed, ?_⟩
    intro code member
    exact (rereadCode_eq_iff unpedigreed (codesStripped code member)).mp (codes code member)
  · intro kept
    have codes : codeSet.codes.map (rereadCode codeSet) = codeSet.codes := by
      apply map_eq_self_iff.mpr
      intro code member
      exact (rereadCode_eq_iff kept.pedigree (codesStripped code member)).mpr
        (kept.codes code member)
    unfold rereadCodeSet
    rw [text_str_eq_iff.mpr kept.id, rereadSynopsis_of_stripped stripped, codes,
      ← kept.pedigree]

theorem rereadField_eq_iff {field : Field} (stripped : Stripped field.synopsis) :
    rereadField field = field ↔ field.pedigree.Kept := by
  constructor
  · intro same
    exact rereadPedigree_eq_iff.mp (congrArg Field.pedigree same)
  · intro kept
    unfold rereadField
    rw [rereadSynopsis_of_stripped stripped, rereadPedigree_eq_iff.mpr kept]

theorem rereadAs_eq_iff {reference : Reference} (stripped : Stripped reference.synopsis)
    (fieldId : Option Int) (componentId : Option Id) :
    rereadAs reference fieldId componentId = reference ↔
      (fieldId = reference.fieldId ∧ none = reference.groupId ∧
        componentId = reference.componentId) ∧
      reference.presence ≠ some [] ∧ reference.pedigree.Kept := by
  constructor
  · intro same
    exact ⟨⟨congrArg Reference.fieldId same, congrArg Reference.groupId same,
      congrArg Reference.componentId same⟩,
      truthy_eq_iff.mp (congrArg Reference.presence same),
      rereadPedigree_eq_iff.mp (congrArg Reference.pedigree same)⟩
  · rintro ⟨⟨rfl, ungrouped, rfl⟩, presence, pedigree⟩
    unfold rereadAs
    rw [truthy_eq_iff.mpr presence, rereadSynopsis_of_stripped stripped,
      rereadPedigree_eq_iff.mpr pedigree, ungrouped]

theorem rereadReference_eq_iff {reference : Reference}
    (stripped : Stripped reference.synopsis) :
    rereadReference reference = some reference ↔ reference.Kept := by
  constructor
  · intro same
    unfold rereadReference at same
    cases field : reference.field? with
    | some id =>
        rw [field] at same
        obtain ⟨⟨fieldId, groupId, componentId⟩, presence, pedigree⟩ :=
          (rereadAs_eq_iff stripped (some id) none).mp (Option.some.inj same)
        have nonzero : id ≠ 0 := of_decide_eq_true (Option.filter_eq_some_iff.mp field).2
        refine ⟨?_, presence, pedigree⟩
        rw [← fieldId, ← groupId, ← componentId]
        exact .field nonzero
    | none =>
        rw [field] at same
        obtain ⟨id, component, loaded⟩ := Option.map_eq_some_iff.mp same
        obtain ⟨⟨fieldId, groupId, componentId⟩, presence, pedigree⟩ :=
          (rereadAs_eq_iff stripped none (some (.text id.str))).mp loaded
        have truthy := (Option.filter_eq_some_iff.mp component).2
        rw [← Option.some.inj (componentId.trans (Option.filter_eq_some_iff.mp component).1)]
          at truthy
        refine ⟨?_, presence, pedigree⟩
        rw [← fieldId, ← groupId, ← componentId]
        exact .component (of_decide_eq_true truthy)
  · rintro ⟨target, presence, pedigree⟩
    rcases reference with ⟨fieldId, groupId, componentId, _, _, _⟩
    cases target with
    | @field id nonzero =>
        have field : (some id).filter (· ≠ 0) = some id :=
          Option.filter_eq_some_iff.mpr ⟨rfl, decide_eq_true nonzero⟩
        unfold rereadReference Reference.field?
        rw [field]
        exact congrArg some
          ((rereadAs_eq_iff stripped (some id) none).mpr ⟨⟨rfl, rfl, rfl⟩, presence, pedigree⟩)
    | @component id inhabited =>
        have component : (some (Id.text id)).filter Id.truthy = some (Id.text id) :=
          Option.filter_eq_some_iff.mpr ⟨rfl, decide_eq_true inhabited⟩
        unfold rereadReference Reference.field? Reference.component?
        rw [component]
        exact congrArg some
          ((rereadAs_eq_iff stripped none (some (.text id))).mpr
            ⟨⟨rfl, rfl, rfl⟩, presence, pedigree⟩)

theorem references_eq_iff {references : List Reference}
    (stripped : ∀ reference ∈ references, Stripped reference.synopsis) :
    references.filterMap rereadReference = references ↔
      ∀ reference ∈ references, reference.Kept := by
  rw [filterMap_eq_self_iff]
  apply forall₂_congr
  intro reference member
  exact rereadReference_eq_iff (stripped reference member)

theorem rereadComponent_eq_iff {component : Component}
    (stripped : Stripped component.synopsis)
    (referencesStripped : ∀ reference ∈ component.references, Stripped reference.synopsis) :
    rereadComponent component = component ↔ component.Kept := by
  constructor
  · intro same
    exact ⟨text_str_eq_iff.mp (congrArg Component.id same),
      rereadPedigree_eq_iff.mp (congrArg Component.pedigree same),
      (references_eq_iff referencesStripped).mp (congrArg Component.references same)⟩
  · intro kept
    unfold rereadComponent
    rw [text_str_eq_iff.mpr kept.id, rereadSynopsis_of_stripped stripped,
      rereadPedigree_eq_iff.mpr kept.pedigree,
      (references_eq_iff referencesStripped).mpr kept.references]

theorem rereadMessage_eq_iff {message : Message} (stripped : Stripped message.synopsis)
    (referencesStripped : ∀ reference ∈ message.references, Stripped reference.synopsis) :
    rereadMessage message = message ↔ message.Kept := by
  constructor
  · intro same
    exact ⟨text_str_eq_iff.mp (congrArg Message.id same),
      rereadPedigree_eq_iff.mp (congrArg Message.pedigree same),
      (references_eq_iff referencesStripped).mp (congrArg Message.references same)⟩
  · intro kept
    unfold rereadMessage
    rw [text_str_eq_iff.mpr kept.id, rereadSynopsis_of_stripped stripped,
      rereadPedigree_eq_iff.mpr kept.pedigree,
      (references_eq_iff referencesStripped).mpr kept.references]

/-! ### All pieces -/

section pieces

variable {orchestration : Orchestration} (consistent : orchestration.Consistent)
  (stripped : orchestration.Stripped)

include consistent stripped

theorem dataTypes_same_iff :
    (reread orchestration).dataTypes.Same orchestration.dataTypes ↔
      ∀ dataType ∈ orchestration.dataTypes.values, dataType.Kept := by
  refine (Dict.same_ofValues_map_iff consistent.dataTypes (fun _ => Iff.rfl)
    rereadDataType (fun name => name) (fun _ => rfl) fun _ => rfl).trans ?_
  apply forall₂_congr
  intro dataType member
  exact rereadDataType_eq_iff (stripped.dataTypes dataType member)

theorem codeSets_same_iff :
    (reread orchestration).codeSets.Same orchestration.codeSets ↔
      ∀ codeSet ∈ orchestration.codeSets.values, codeSet.Kept := by
  refine (Dict.same_ofValues_map_iff consistent.codeSets (fun _ => Iff.rfl)
    rereadCodeSet (fun name => name) (fun _ => rfl) fun _ => rfl).trans ?_
  apply forall₂_congr
  intro codeSet member
  have synopses := stripped.codeSets codeSet member
  exact rereadCodeSet_eq_iff synopses.1 synopses.2

theorem fields_same_iff :
    (reread orchestration).fieldsByTag.Same orchestration.fieldsByTag ↔
      ∀ field ∈ orchestration.fieldsByTag.values, field.pedigree.Kept := by
  refine (Dict.same_ofValues_map_iff consistent.fields (fun _ => Iff.rfl)
    rereadField (fun tag => tag) (fun _ => rfl) fun _ => rfl).trans ?_
  apply forall₂_congr
  intro field member
  exact rereadField_eq_iff (stripped.fields field member)

theorem components_same_iff :
    (reread orchestration).components.Same orchestration.components ↔
      ∀ component ∈ orchestration.components.values, component.Kept := by
  refine (Dict.same_ofValues_map_iff consistent.components (fun _ => Iff.rfl)
    rereadComponent (fun id => .text id.str) (fun _ => rfl) fun _ => rfl).trans ?_
  apply forall₂_congr
  intro component member
  have synopses := stripped.components component member
  exact rereadComponent_eq_iff synopses.1 synopses.2

/-- Both dictionaries of messages are loaded from the one by message type. -/
theorem message_eq_iff :
    (∀ message ∈ orchestration.messagesByMsgType.values, rereadMessage message = message) ↔
      ∀ message ∈ orchestration.messages.values, message.Kept := by
  apply forall_congr'
  intro message
  rw [consistent.sameMessages message]
  apply imp_congr_right
  intro member
  have synopses := stripped.messages message member
  exact rereadMessage_eq_iff synopses.1 synopses.2

theorem messages_same_iff :
    (reread orchestration).messages.Same orchestration.messages ↔
      ∀ message ∈ orchestration.messages.values, message.Kept := by
  refine (Dict.same_ofValues_map_iff consistent.messages consistent.sameMessages
    rereadMessage (fun id => .text id.str) (fun _ => rfl) fun _ => rfl).trans ?_
  exact message_eq_iff consistent stripped

theorem messagesByMsgType_same_iff :
    (reread orchestration).messagesByMsgType.Same orchestration.messagesByMsgType ↔
      ∀ message ∈ orchestration.messages.values, message.Kept := by
  refine (Dict.same_ofValues_map_iff consistent.messagesByMsgType (fun _ => Iff.rfl)
    rereadMessage (fun msgType => msgType) (fun _ => rfl) fun _ => rfl).trans ?_
  exact message_eq_iff consistent stripped

end pieces

/-- Loading what was written gives an equal orchestration exactly when every piece of
it is kept. -/
theorem load_toXml_equal_iff (metadata : List Xml) {orchestration : Orchestration}
    (consistent : orchestration.Consistent) (stripped : orchestration.Stripped) :
    (∃ loaded, load (toXml metadata orchestration) = .ok loaded ∧
      loaded.Equal orchestration) ↔ orchestration.Kept := by
  constructor
  · rintro ⟨loaded, read, equal⟩
    rw [load_toXml] at read
    cases read
    exact ⟨(dataTypes_same_iff consistent stripped).mp equal.dataTypes,
      (codeSets_same_iff consistent stripped).mp equal.codeSets,
      (fields_same_iff consistent stripped).mp equal.fields,
      (components_same_iff consistent stripped).mp equal.components,
      Dict.same_empty_iff.mp equal.groups,
      (messages_same_iff consistent stripped).mp equal.messages⟩
  · intro kept
    refine ⟨reread orchestration, load_toXml metadata orchestration, ?_⟩
    exact ⟨(dataTypes_same_iff consistent stripped).mpr kept.dataTypes,
      (codeSets_same_iff consistent stripped).mpr kept.codeSets,
      (fields_same_iff consistent stripped).mpr kept.fields,
      (components_same_iff consistent stripped).mpr kept.components,
      Dict.same_empty_iff.mpr kept.groups,
      (messages_same_iff consistent stripped).mpr kept.messages,
      (messagesByMsgType_same_iff consistent stripped).mpr kept.messages⟩

def sideCode : Code where
  id := .text "4001".toList
  name := "Buy".toList
  value := "B".toList
  synopsis := some "Buy".toList
  pedigree := Pedigree.empty

def sideCodeSet (code : Code) : CodeSet where
  id := .text "4".toList
  name := "SideCodeSet".toList
  type := "char".toList
  synopsis := some "Side of the order".toList
  pedigree := Pedigree.empty
  codes := [code]

def orders (code : Code) : Orchestration :=
  let side : Reference :=
    ⟨some 54, none, none, some "required".toList, some [], Pedigree.empty⟩
  let instrument : Reference :=
    ⟨none, none, some (.text "1003".toList), some "optional".toList, some [],
      { Pedigree.empty with added := some "FIX.4.4".toList }⟩
  let order : Message :=
    { id := .text "14".toList
      name := "NewOrderSingle".toList
      msgType := "D".toList
      category := "SingleGeneralOrderHandling".toList
      synopsis := some "A new order".toList
      pedigree := Pedigree.empty
      references := [side, instrument] }
  { dataTypes := .ofValues DataType.name
      [⟨"char".toList, none, some "One character".toList, Pedigree.empty⟩]
    codeSets := .ofValues CodeSet.name [sideCodeSet code]
    fieldsByTag := .ofValues Field.id
      [⟨54, "Side".toList, "SideCodeSet".toList, some "Side of the order".toList,
        Pedigree.empty⟩]
    components := .ofValues Component.id
      [⟨.text "1003".toList, "Instrument".toList, "Common".toList, some [],
        Pedigree.empty, [side]⟩]
    groups := .empty
    messages := .ofValues Message.id [order]
    messagesByMsgType := .ofValues Message.msgType [order]
    version := "FIX.4.4".toList }

theorem orders_consistent (code : Code) : (orders code).Consistent where
  dataTypes := Dict.indexes_ofValues _ _
  codeSets := Dict.indexes_ofValues _ _
  fields := Dict.indexes_ofValues _ _
  components := Dict.indexes_ofValues _ _
  groups := by
    intro id group found
    cases found
  messages := Dict.indexes_ofValues _ _
  messagesByMsgType := Dict.indexes_ofValues _ _
  sameMessages := fun _ => Iff.rfl

theorem Pedigree.kept_empty : Pedigree.empty.Kept := by
  constructor <;> nofun

theorem orders_kept : (orders sideCode).Kept := by
  have side : Reference.Kept
      ⟨some 54, none, none, some "required".toList, some [], Pedigree.empty⟩ :=
    ⟨.field (by decide), by decide, Pedigree.kept_empty⟩
  have added : Pedigree.Kept { Pedigree.empty with added := some "FIX.4.4".toList } :=
    ⟨by decide, nofun, nofun, nofun, nofun, nofun⟩
  constructor
  case dataTypes =>
    intro dataType member
    rw [List.mem_singleton.mp member]
    exact ⟨nofun, Pedigree.kept_empty⟩
  case codeSets =>
    intro codeSet member
    rw [List.mem_singleton.mp member]
    refine ⟨⟨_, rfl⟩, rfl, ?_⟩
    intro code inside
    rw [List.mem_singleton.mp inside]
    exact ⟨⟨_, rfl⟩, rfl⟩
  case fields =>
    intro field member
    rw [List.mem_singleton.mp member]
    exact Pedigree.kept_empty
  case components =>
    intro component member
    rw [List.mem_singleton.mp member]
    refine ⟨⟨_, rfl⟩, Pedigree.kept_empty, ?_⟩
    intro reference inside
    rw [List.mem_singleton.mp inside]
    exact side
  case groups => rfl
  case messages =>
    intro message member
    rw [List.mem_singleton.mp member]
    refine ⟨⟨_, rfl⟩, Pedigree.kept_empty, ?_⟩
    intro reference inside
    rcases List.mem_cons.mp inside with rfl | last
    · exact side
    · rw [List.mem_singleton.mp last]
      exact ⟨.component (by decide), by decide, added⟩

theorem load_toXml_equal_iff_orders :
    ∃ loaded, load (toXml [] (orders sideCode)) = .ok loaded ∧
      loaded.Equal (orders sideCode) :=
  (load_toXml_equal_iff [] (orders_consistent sideCode)
    (by constructor <;> decide)).mpr orders_kept

/-- A code with a pedigree of its own loses it. -/
theorem codePedigree_lost :
    ¬ ∀ (metadata : List Xml) (orchestration : Orchestration),
      orchestration.Consistent → orchestration.Stripped →
        ∃ loaded, load (toXml metadata orchestration) = .ok loaded ∧
          loaded.Equal orchestration := by
  intro claimed
  let code : Code :=
    { sideCode with pedigree := { Pedigree.empty with added := some "FIX.2.7".toList } }
  obtain ⟨loaded, read, equal⟩ :=
    claimed [] (orders code) (orders_consistent code) (by constructor <;> decide)
  rw [load_toXml] at read
  cases read
  exact absurd (equal.codeSets "SideCodeSet".toList) (by decide)

end Crocofix.Orchestra

/-
What fixaudit reports about a repository or an orchestration on its own.

The references of a message are followed through groups and components, and what is
not defined is reported with the way that led there.  An orchestration that was loaded
has nothing of this kind to report exactly when the fields of all its messages can be
listed.
-/

import Mathlib.Data.List.ReduceOption
import Crocofix.Library.Attempt
import Crocofix.Orchestra.Repository

namespace Crocofix.FixAudit

open Orchestra (Reference Id Failure)
open FixRepository (Repository)

/-! ### Data types -/

inductive DataTypeError
  | base (name baseType : Text)
  | undefined (tag : Int) (type : Text)
deriving DecidableEq, Repr

/-- The errors of one field, whose type may be `otherwise` defined. -/
def dataTypeErrors {δ : Type} (dataTypes : Dict Text δ) (name : δ → Text)
    (baseType : δ → Option Text) (otherwise : Bool) (id : Int) (type : Text) :
    List DataTypeError :=
  match dataTypes.get? type with
  | some dataType =>
      match baseType dataType with
      | none => []
      | some base =>
          if (dataTypes.get? base).isSome then [] else [.base (name dataType) base]
  | none => if otherwise then [] else [.undefined id type]

def validateRepository (repository : Repository) : List DataTypeError :=
  repository.fieldsByTag.values.flatMap fun field =>
    dataTypeErrors repository.dataTypes FixRepository.DataType.name
      FixRepository.DataType.baseType false field.id field.type

theorem undefined_mem_dataTypeErrors {δ : Type} {dataTypes : Dict Text δ} {name : δ → Text}
    {baseType : δ → Option Text} {otherwise : Bool} {id tag : Int} {type wanted : Text} :
    .undefined tag wanted ∈ dataTypeErrors dataTypes name baseType otherwise id type ↔
      (tag = id ∧ wanted = type) ∧ dataTypes.get? type = none ∧ otherwise = false := by
  unfold dataTypeErrors
  cases dataTypes.get? type with
  | some dataType =>
      refine iff_of_false ?_ (fun undefined => nomatch undefined.2.1)
      intro member
      dsimp only at member
      split at member
      · cases member
      · split at member
        · cases member
        · cases List.mem_singleton.mp member
  | none =>
      cases otherwise with
      | true => exact iff_of_false List.not_mem_nil (fun undefined => nomatch undefined.2.2)
      | false =>
          refine List.mem_singleton.trans ?_
          rw [DataTypeError.undefined.injEq]
          exact (and_iff_left ⟨rfl, rfl⟩).symm

theorem undefined_mem_validateRepository {repository : Repository} {tag : Int}
    {type : Text} :
    .undefined tag type ∈ validateRepository repository ↔
      ∃ field, repository.fieldsByTag.get? tag = some field ∧ field.type = type ∧
        repository.dataTypes.get? type = none := by
  unfold validateRepository
  rw [List.mem_flatMap]
  constructor
  · rintro ⟨field, member, undefined⟩
    obtain ⟨⟨rfl, rfl⟩, missing, -⟩ := undefined_mem_dataTypeErrors.mp undefined
    exact ⟨field, repository.tagged.get?_of_mem member, rfl, missing⟩
  · rintro ⟨field, found, rfl, missing⟩
    refine ⟨field, (Dict.mem_values_iff _ field).mpr ⟨tag, found⟩, ?_⟩
    rw [undefined_mem_dataTypeErrors]
    exact ⟨⟨(repository.tagged tag field found).symm, rfl⟩, missing, rfl⟩

/-! ### References -/

inductive Dangling
  | field (context : Text) (id : Int)
  | group (context : Text) (id : Id)
  | component (context : Text) (id : Id)
deriving DecidableEq, Repr

section visit

variable (orchestration : Orchestra.Orchestration) (reference : Reference) (context : Text)
  (visit : List Reference → Text → Except Failure (List Dangling))

def visitField : List Dangling :=
  match reference.field? with
  | none => []
  | some id =>
      if (orchestration.fieldsByTag.get? id).isSome then [] else [.field context id]

/-- The branch of a reference to something that has references itself. -/
def visitThrough {δ : Type} (defined : Dict Id δ) (target : Option Id)
    (missing : Id → Dangling) (enter : δ → Except Failure (List Dangling)) :
    Except Failure (List Dangling) :=
  match target with
  | none => return []
  | some id =>
      match defined.get? id with
      | none => return [missing id]
      | some one => enter one

def visitGroup : Except Failure (List Dangling) :=
  visitThrough orchestration.groups reference.group? (.group context) fun group =>
    visit group.references (context ++ " references group id=".toList ++ group.id.str)

def visitComponent : Except Failure (List Dangling) :=
  visitThrough orchestration.components reference.component? (.component context)
    fun component =>
      visit component.references
        (context ++ "references component id=".toList ++ component.id.str)

/-- A reference may name a field, a group and a component at once. -/
def visitReference : Except Failure (List Dangling) := do
  let inGroup ← visitGroup orchestration reference context visit
  let inComponent ← visitComponent orchestration reference context visit
  return visitField orchestration reference context ++ inGroup ++ inComponent

end visit

/-- The fuel is the number of nested calls that are possible. -/
def visitOrchestrationReferences (orchestration : Orchestra.Orchestration) :
    Nat → List Reference → Text → Except Failure (List Dangling)
  | 0, _, _ => .error .recursionError
  | fuel + 1, references, context => do
      let found ← references.mapM fun reference =>
        visitReference orchestration reference context
          (visitOrchestrationReferences orchestration fuel)
      return found.flatten

structure Validation where
  dataTypeErrors : List DataTypeError
  dangling : List Dangling
deriving DecidableEq, Repr

def validateOrchestration (orchestration : Orchestra.Orchestration) (fuel : Nat) :
    Except Failure Validation := do
  let found ← orchestration.messages.values.mapM fun message =>
    visitOrchestrationReferences orchestration fuel message.references
      ("message MsgType=".toList ++ message.msgType)
  return {
    dataTypeErrors := orchestration.fieldsByTag.values.flatMap fun field =>
      dataTypeErrors orchestration.dataTypes Orchestra.DataType.name
        Orchestra.DataType.baseType (orchestration.codeSets.get? field.type).isSome
        field.id field.type
    dangling := found.flatten }

/-! ### References to one thing -/

inductive Single (reference : Reference) : Prop
  | field (group : reference.group? = none) (component : reference.component? = none)
  | group (field : reference.field? = none) (component : reference.component? = none)
  | component (field : reference.field? = none) (group : reference.group? = none)

/-- The references in components and in groups name no more than one thing. -/
structure SingleInside (orchestration : Orchestra.Orchestration) : Prop where
  components : ∀ component ∈ orchestration.components.values,
    ∀ reference ∈ component.references, Single reference
  groups : ∀ group ∈ orchestration.groups.values,
    ∀ reference ∈ group.references, Single reference

theorem item_ok_iff {κ α : Type} [DecidableEq κ] {dict : Dict κ α} {key : κ} {value : α} :
    Orchestra.item dict key = .ok value ↔ dict.get? key = some value := by
  unfold Orchestra.item
  cases dict.get? key with
  | none => exact iff_of_false nofun nofun
  | some other => rw [Except.ok.injEq, Option.some.injEq]

theorem visitThrough_iff {δ : Type} {defined : Dict Id δ} {id : Id}
    {missing : Id → Dangling} {enter : δ → Except Failure (List Dangling)}
    {expand : δ → Except Failure (List Orchestra.MessageField)}
    (inner : ∀ one ∈ defined.values,
      enter one = .ok [] ↔ ∃ fields, expand one = .ok fields) :
    visitThrough defined (some id) missing enter = .ok [] ↔
      ∃ fields, (Orchestra.item defined id >>= expand) = .ok fields := by
  simp only [visitThrough, Attempt.bind_ok_iff, item_ok_iff]
  cases found : defined.get? id with
  | none => exact iff_of_false nofun (by rintro ⟨fields, one, ⟨⟩, -⟩)
  | some one =>
      simp only [Option.some.injEq, exists_eq_left']
      exact inner one ((Dict.mem_values_iff _ one).mpr ⟨id, found⟩)

section single

variable {orchestration : Orchestra.Orchestration} {reference : Reference} {context : Text}
  {depth : Nat} {visit : List Reference → Text → Except Failure (List Dangling)}
  {next : List Reference → Nat → Except Failure (List Orchestra.MessageField)}

theorem visitReference_field_iff (group : reference.group? = none)
    (component : reference.component? = none) :
    visitReference orchestration reference context visit = .ok [] ↔
      ∃ fields, Orchestra.referenceToFields orchestration reference depth next =
        .ok fields := by
  have visited : visitReference orchestration reference context visit =
      .ok (visitField orchestration reference context ++ [] ++ []) := by
    unfold visitReference visitGroup visitComponent
    rw [group, component]
    rfl
  rw [visited, List.append_nil, List.append_nil, Except.ok.injEq]
  unfold visitField
  cases target : reference.field? with
  | none =>
      refine iff_of_true rfl ⟨[], ?_⟩
      simp only [Orchestra.referenceToFields, target, group, component]
      rfl
  | some id =>
      simp only [Orchestra.referenceToFields, target, Attempt.bind_ok_iff, item_ok_iff]
      cases found : orchestration.fieldsByTag.get? id with
      | none => exact iff_of_false nofun (by rintro ⟨fields, field, ⟨⟩, -⟩)
      | some field => exact iff_of_true rfl ⟨_, field, rfl, rfl⟩

variable (inner : ∀ references, (∀ other ∈ references, Single other) → ∀ context depth,
  visit references context = .ok [] ↔ ∃ fields, next references depth = .ok fields)
  (inside : SingleInside orchestration)

include inner inside

theorem visitReference_group_iff (field : reference.field? = none)
    (component : reference.component? = none) :
    visitReference orchestration reference context visit = .ok [] ↔
      ∃ fields, Orchestra.referenceToFields orchestration reference depth next =
        .ok fields := by
  cases target : reference.group? with
  | none => exact visitReference_field_iff target component
  | some id =>
      have visited : visitReference orchestration reference context visit =
          visitGroup orchestration reference context visit := by
        unfold visitReference visitField visitComponent
        rw [field, component]
        cases visitGroup orchestration reference context visit with
        | error failure => rfl
        | ok found => exact congrArg Except.ok (List.append_nil found)
      rw [visited, visitGroup, target]
      simp only [Orchestra.referenceToFields, field, target]
      apply visitThrough_iff
      intro group member
      exact inner group.references (inside.groups group member) _ _

theorem visitReference_component_iff (field : reference.field? = none)
    (group : reference.group? = none) :
    visitReference orchestration reference context visit = .ok [] ↔
      ∃ fields, Orchestra.referenceToFields orchestration reference depth next =
        .ok fields := by
  cases target : reference.component? with
  | none => exact visitReference_field_iff group target
  | some id =>
      have visited : visitReference orchestration reference context visit =
          visitComponent orchestration reference context visit := by
        unfold visitReference visitField visitGroup
        rw [field, group]
        cases visitComponent orchestration reference context visit with
        | error failure => rfl
        | ok found => rfl
      rw [visited, visitComponent, target]
      simp only [Orchestra.referenceToFields, field, group, target]
      apply visitThrough_iff
      intro component member
      exact inner component.references (inside.components component member) _ _

theorem visitReference_iff (single : Single reference) :
    visitReference orchestration reference context visit = .ok [] ↔
      ∃ fields, Orchestra.referenceToFields orchestration reference depth next =
        .ok fields := by
  cases single with
  | field group component => exact visitReference_field_iff group component
  | group field component => exact visitReference_group_iff inner inside field component
  | component field group => exact visitReference_component_iff inner inside field group

end single

/-- Nothing dangles below the references exactly when they can be expanded. -/
theorem visit_iff {orchestration : Orchestra.Orchestration} (inside : SingleInside orchestration)
    (fuel : Nat) : ∀ references, (∀ reference ∈ references, Single reference) →
      ∀ context depth,
        visitOrchestrationReferences orchestration fuel references context = .ok [] ↔
          ∃ fields, Orchestra.referencesToFields orchestration fuel references depth =
            .ok fields := by
  induction fuel with
  | zero =>
      intro references single context depth
      exact iff_of_false nofun (by rintro ⟨fields, ⟨⟩⟩)
  | succ fuel ih =>
      intro references single context depth
      have visited : visitOrchestrationReferences orchestration (fuel + 1) references context =
          .ok [] ↔ ∀ reference ∈ references,
            visitReference orchestration reference context
              (visitOrchestrationReferences orchestration fuel) = .ok [] := by
        rw [← Attempt.flatten_mapM_eq_nil_iff, visitOrchestrationReferences,
          Attempt.bind_ok_iff]
        exact exists_congr fun found => and_congr_right fun _ =>
          ⟨Except.ok.inj, congrArg Except.ok⟩
      have expanded : (∃ fields, Orchestra.referencesToFields orchestration (fuel + 1)
          references depth = .ok fields) ↔ ∀ reference ∈ references, ∃ fields,
            Orchestra.referenceToFields orchestration reference depth
              (Orchestra.referencesToFields orchestration fuel) = .ok fields := by
        rw [← Attempt.exists_mapM_ok_iff]
        simp only [Orchestra.referencesToFields, Attempt.bind_ok_iff]
        constructor
        · rintro ⟨fields, found, ok, -⟩
          exact ⟨found, ok⟩
        · rintro ⟨found, ok⟩
          exact ⟨found.flatten, found, ok, rfl⟩
      rw [visited, expanded]
      apply forall₂_congr
      intro reference member
      exact visitReference_iff ih inside (single reference member)

/-! ### Loaded orchestrations -/

open Orchestra (Xml)

theorem single_of_extractReference {element : Xml} {reference : Reference}
    (ok : Orchestra.extractReference element = .ok (some reference)) : Single reference := by
  unfold Orchestra.extractReference at ok
  split at ok
  · obtain ⟨id, -, same⟩ := Attempt.bind_ok_iff.mp ok
    cases same
    exact .field rfl rfl
  · obtain ⟨id, -, same⟩ := Attempt.bind_ok_iff.mp ok
    cases same
    exact .field rfl rfl
  · cases ok
    exact .group rfl rfl
  · cases ok
    exact .component rfl rfl
  · cases ok
  · cases ok

theorem single_of_extractReferences {element : Xml} {references : List Reference}
    (ok : Orchestra.extractReferences element = .ok references) :
    ∀ reference ∈ references, Single reference := by
  obtain ⟨found, attempts, same⟩ := Attempt.bind_ok_iff.mp ok
  cases same
  intro reference member
  obtain ⟨child, -, read⟩ :=
    Attempt.mem_of_mapM_ok attempts (List.reduceOption_mem_iff.mp member)
  exact single_of_extractReference read

theorem single_of_loadComponent {element : Xml} {component : Orchestra.Component}
    (ok : Orchestra.loadComponent element = .ok component) :
    ∀ reference ∈ component.references, Single reference := by
  simp only [Orchestra.loadComponent, Attempt.bind_ok_iff] at ok
  obtain ⟨id, -, name, -, category, -, references, read, same⟩ := ok
  cases same
  exact single_of_extractReferences read

theorem single_of_loadGroup {element : Xml} {group : Orchestra.Group}
    (ok : Orchestra.loadGroup element = .ok group) :
    ∀ reference ∈ group.references, Single reference := by
  simp only [Orchestra.loadGroup, Attempt.bind_ok_iff] at ok
  obtain ⟨id, -, name, -, category, -, references, read, same⟩ := ok
  cases same
  exact single_of_extractReferences read

theorem single_of_loadMessage {element : Xml} {message : Orchestra.Message}
    (ok : Orchestra.loadMessage element = .ok message) :
    ∀ reference ∈ message.references, Single reference := by
  simp only [Orchestra.loadMessage, Attempt.bind_ok_iff] at ok
  obtain ⟨inner, -, id, -, name, -, msgType, -, category, -, references, read, same⟩ := ok
  cases same
  exact single_of_extractReferences read

theorem load_single {document : Xml} {orchestration : Orchestra.Orchestration}
    (loads : Orchestra.load document = .ok orchestration) :
    SingleInside orchestration ∧ ∀ message ∈ orchestration.messages.values,
      ∀ reference ∈ message.references, Single reference := by
  simp only [Orchestra.load, Attempt.bind_ok_iff] at loads
  obtain ⟨dataTypes, -, codeSets, -, fields, -, components, readComponents, groups,
    readGroups, messages, readMessages, same⟩ := loads
  cases same
  refine ⟨⟨?_, ?_⟩, ?_⟩
  · intro component member
    simp only [Orchestra.loadComponents, Attempt.bind_ok_iff] at readComponents
    obtain ⟨inner, -, loaded, read, same⟩ := readComponents
    cases same
    obtain ⟨element, -, one⟩ :=
      Attempt.mem_of_mapM_ok read (Dict.mem_values_ofValues member)
    exact single_of_loadComponent one
  · intro group member
    simp only [Orchestra.loadGroups, Attempt.bind_ok_iff] at readGroups
    obtain ⟨inner, -, loaded, read, same⟩ := readGroups
    cases same
    obtain ⟨element, -, one⟩ :=
      Attempt.mem_of_mapM_ok read (Dict.mem_values_ofValues member)
    exact single_of_loadGroup one
  · intro message member
    simp only [Orchestra.loadMessages, Attempt.bind_ok_iff] at readMessages
    obtain ⟨inner, -, read⟩ := readMessages
    obtain ⟨element, -, one⟩ :=
      Attempt.mem_of_mapM_ok read (Dict.mem_values_ofValues member)
    exact single_of_loadMessage one

/-- Nothing in a loaded orchestration dangles exactly when the fields of all its messages
can be listed. -/
theorem undangling_iff {document : Xml} {orchestration : Orchestra.Orchestration}
    (loads : Orchestra.load document = .ok orchestration) (fuel : Nat) :
    (∃ validation, validateOrchestration orchestration fuel = .ok validation ∧
      validation.dangling = []) ↔
    ∀ message ∈ orchestration.messages.values, ∃ fields,
      Orchestra.messageFields orchestration fuel message = .ok fields := by
  obtain ⟨inside, messages⟩ := load_single loads
  have validated : (∃ validation, validateOrchestration orchestration fuel =
      .ok validation ∧ validation.dangling = []) ↔
      ∀ message ∈ orchestration.messages.values,
        visitOrchestrationReferences orchestration fuel message.references
          ("message MsgType=".toList ++ message.msgType) = .ok [] := by
    rw [← Attempt.flatten_mapM_eq_nil_iff]
    simp only [validateOrchestration, Attempt.bind_ok_iff]
    constructor
    · rintro ⟨validation, ⟨found, ok, same⟩, none⟩
      cases same
      exact ⟨found, ok, none⟩
    · rintro ⟨found, ok, none⟩
      exact ⟨_, ⟨found, ok, rfl⟩, none⟩
  rw [validated]
  apply forall₂_congr
  intro message member
  exact visit_iff inside fuel message.references (messages message member) _ 0

def quotation (tag : Text) : Xml :=
  let named (id name : Text) : Orchestra.Attributes :=
    (Dict.empty.set .id id).set .name name
  let fieldRef : Xml := .mk .fieldRef (Dict.empty.set .id tag) none []
  let componentRef : Xml := .mk .componentRef (Dict.empty.set .id "1003".toList) none []
  .mk .repository Dict.empty none
    [.mk .datatypes Dict.empty none [],
      .mk .codeSets Dict.empty none [],
      .mk .fields Dict.empty none
        [.mk .field ((named "55".toList "Symbol".toList).set .type "String".toList) none []],
      .mk .components Dict.empty none
        [.mk .component ((named "1003".toList "Instrument".toList).set .category
          "Common".toList) none [fieldRef]],
      .mk .groups Dict.empty none [],
      .mk .messages Dict.empty none
        [.mk .message (((named "27".toList "Quote".toList).set .msgType "S".toList).set
          .category "Quotation".toList) none
          [.mk .messageStructure Dict.empty none [componentRef]]]]

theorem undangling_iff_quotation :
    ∃ orchestration, Orchestra.load (quotation "55".toList) = .ok orchestration ∧
      ∀ message ∈ orchestration.messages.values, ∃ fields,
        Orchestra.messageFields orchestration 2 message = .ok fields := by
  obtain ⟨orchestration, loads⟩ :
      ∃ orchestration, Orchestra.load (quotation "55".toList) = .ok orchestration :=
    ⟨_, rfl⟩
  refine ⟨orchestration, loads, (undangling_iff loads 2).mp ?_⟩
  have clean : ((Orchestra.load (quotation "55".toList)).bind fun orchestration =>
      (validateOrchestration orchestration 2).map Validation.dangling) = .ok [] := by
    decide
  rw [loads] at clean
  change (validateOrchestration orchestration 2).map Validation.dangling = .ok [] at clean
  cases validated : validateOrchestration orchestration 2 with
  | error failure =>
      rw [validated] at clean
      cases clean
  | ok validation =>
      rw [validated] at clean
      exact ⟨validation, rfl, Except.ok.inj clean⟩

example :
    ((Orchestra.load (quotation "56".toList)).bind fun orchestration =>
      (validateOrchestration orchestration 2).map Validation.dangling) =
    .ok [.field "message MsgType=Sreferences component id=1003".toList 56] := by
  decide

end Crocofix.FixAudit

/-
Fields, and the ordered collection of fields that is the content of a message.

A tag may occur more than once.  Every lookup and every replacement concerns
the first field with the tag.
-/

import Crocofix.Fix

namespace Crocofix

open Numeral

structure Field where
  tag : Int32
  value : Bytes
deriving DecidableEq, Repr

namespace Field

/-- `field(int tag, uint32_t value)`. -/
def ofUInt32 (tag : Int32) (value : UInt32) : Field :=
  ⟨tag, decimal value.toNat⟩

/-- `field(int tag, bool value)`. -/
def ofBool (tag : Int32) (value : Bool) : Field :=
  ⟨tag, if value then ascii "Y" else ascii "N"⟩

end Field

inductive SetOperation
  | replaceFirst
  | replaceFirstOrAppend
  | append
deriving DecidableEq, Repr

inductive RemoveOperation
  | removeFirst
  | removeAll
deriving DecidableEq, Repr

abbrev FieldCollection := List Field

namespace FieldCollection

def replaceFirst : FieldCollection → Field → Option FieldCollection
  | [], _ => none
  | current :: rest, field =>
      if current.tag = field.tag then some (field :: rest)
      else (replaceFirst rest field).map (current :: ·)

/-- `field_collection::set`: whether a field was added or updated, and the
collection afterwards. -/
def set (fields : FieldCollection) (field : Field)
    (operation : SetOperation) : Bool × FieldCollection :=
  if operation = .append then (true, fields ++ [field])
  else
    match replaceFirst fields field with
    | none =>
        if operation = .replaceFirstOrAppend then (true, fields ++ [field])
        else (false, fields)
    | some replaced => (true, replaced)

/-- `set` with the default operation, its result not looked at. -/
def put (fields : FieldCollection) (field : Field) : FieldCollection :=
  (fields.set field .replaceFirst).2

/-- `set` with `replace_first_or_append`, its result not looked at. -/
def putOrAppend (fields : FieldCollection) (field : Field) : FieldCollection :=
  (fields.set field .replaceFirstOrAppend).2

/-- `field_collection::remove`: whether a field was removed, and the collection
afterwards. -/
def remove (fields : FieldCollection) (tag : Int32) (operation : RemoveOperation) :
    Bool × FieldCollection :=
  let present := fields.any fun field => field.tag = tag
  match operation with
  | .removeFirst => (present, fields.eraseP fun field => field.tag = tag)
  | .removeAll => (present, fields.filter fun field => field.tag ≠ tag)

def tryGet (fields : FieldCollection) (tag : Int32) : Option Field :=
  fields.find? fun field => field.tag = tag

def get (fields : FieldCollection) (tag : Int32) : Except Exception Field :=
  match fields.tryGet tag with
  | none => .error ⟨.outOfRange,
      ascii "field collection does not contain a field with Tag " ++
        decimalInt tag.toInt⟩
  | some field => .ok field

def getBool (fields : FieldCollection) (tag : Int32) : Except Exception Bool :=
  match fields.tryGet tag with
  | none => .ok false
  | some field =>
      if field.value = ascii "Y" then .ok true
      else if field.value = ascii "N" then .ok false
      else .error ⟨.runtimeError,
        ascii "field does not contain a valid boolean value " ++
          decimalInt field.tag.toInt ++ ascii "=" ++ field.value⟩

/-! ### Lookups after a replacement -/

theorem tryGet_nil (tag : Int32) : tryGet [] tag = none := rfl

@[simp] theorem tryGet_cons (field : Field) (rest : FieldCollection)
    (tag : Int32) :
    tryGet (field :: rest) tag =
      if field.tag = tag then some field else tryGet rest tag := by
  by_cases same : field.tag = tag <;> simp [tryGet, same]

theorem tryGet_append (front back : FieldCollection) (tag : Int32) :
    tryGet (front ++ back) tag = (tryGet front tag).or (tryGet back tag) := by
  simp [tryGet, List.find?_append]

theorem tag_of_tryGet {fields : FieldCollection} {tag : Int32} {field : Field}
    (found : fields.tryGet tag = some field) : field.tag = tag := by
  simpa using List.find?_some found

theorem replaceFirst_eq_none_iff (fields : FieldCollection) (field : Field) :
    replaceFirst fields field = none ↔ fields.tryGet field.tag = none := by
  induction fields with
  | nil => simp [replaceFirst, tryGet]
  | cons current rest ih =>
      by_cases same : current.tag = field.tag
      · simp [replaceFirst, same]
      · simp [replaceFirst, same, ih]

theorem tryGet_replaceFirst {fields replaced : FieldCollection} {field : Field}
    (found : replaceFirst fields field = some replaced) (tag : Int32) :
    replaced.tryGet tag =
      if field.tag = tag then some field else fields.tryGet tag := by
  induction fields generalizing replaced with
  | nil => simp [replaceFirst] at found
  | cons current rest ih =>
      by_cases same : current.tag = field.tag
      · simp only [replaceFirst, same, if_true, Option.some.injEq] at found
        subst found
        by_cases wanted : field.tag = tag
        · simp [wanted]
        · simp [same, wanted]
      · simp only [replaceFirst, same, if_false, Option.map_eq_some_iff] at found
        obtain ⟨tail, tailFound, rfl⟩ := found
        by_cases wanted : field.tag = tag
        · have other : current.tag ≠ tag := fun equal => same (equal.trans wanted.symm)
          simp [other, ih tailFound, wanted]
        · simp [ih tailFound, wanted]

theorem tryGet_put (fields : FieldCollection) (field : Field) (tag : Int32) :
    (fields.put field).tryGet tag =
      if field.tag = tag then (fields.tryGet tag).map fun _ => field
      else fields.tryGet tag := by
  unfold put set
  cases found : replaceFirst fields field with
  | none =>
      have absent := (replaceFirst_eq_none_iff fields field).mp found
      by_cases wanted : field.tag = tag
      · simp [← wanted, absent]
      · simp [wanted]
  | some replaced =>
      have present : fields.tryGet field.tag ≠ none := fun absent => by
        simp [(replaceFirst_eq_none_iff fields field).mpr absent] at found
      obtain ⟨old, oldFound⟩ := Option.ne_none_iff_exists'.mp present
      by_cases wanted : field.tag = tag
      · simp [tryGet_replaceFirst found, ← wanted, oldFound]
      · simp [tryGet_replaceFirst found, wanted]

theorem tryGet_putOrAppend (fields : FieldCollection) (field : Field)
    (tag : Int32) :
    (fields.putOrAppend field).tryGet tag =
      if field.tag = tag then some field else fields.tryGet tag := by
  unfold putOrAppend set
  cases found : replaceFirst fields field with
  | none =>
      have absent := (replaceFirst_eq_none_iff fields field).mp found
      by_cases wanted : field.tag = tag
      · simp [tryGet_append, ← wanted, absent]
      · simp [tryGet, wanted]
  | some replaced => simp [tryGet_replaceFirst found]

/-! ### The field that is replaced -/

theorem replaceFirst_append {front : FieldCollection} {old field : Field}
    (others : ∀ other ∈ front, other.tag ≠ field.tag) (same : old.tag = field.tag)
    (more : FieldCollection) :
    replaceFirst (front ++ old :: more) field = some (front ++ field :: more) := by
  induction front with
  | nil => rw [List.nil_append, replaceFirst, if_pos same, List.nil_append]
  | cons current front ih =>
      have later := ih fun other member => others other (List.mem_cons_of_mem _ member)
      rw [List.cons_append, replaceFirst, if_neg (others current List.mem_cons_self),
        later]
      rfl

theorem exists_of_replaceFirst {fields replaced : FieldCollection} {field : Field}
    (found : replaceFirst fields field = some replaced) :
    ∃ front old more, fields = front ++ old :: more ∧
      replaced = front ++ field :: more ∧ old.tag = field.tag ∧
      ∀ other ∈ front, other.tag ≠ field.tag := by
  induction fields generalizing replaced with
  | nil => cases found
  | cons current rest ih =>
      unfold replaceFirst at found
      split at found
      · next same =>
          injection found with replacedEq
          exact ⟨[], current, rest, rfl, replacedEq.symm, same, by simp⟩
      · next differs =>
          obtain ⟨tail, tailFound, rfl⟩ := Option.map_eq_some_iff.mp found
          obtain ⟨front, old, more, rfl, rfl, same, others⟩ := ih tailFound
          exact ⟨current :: front, old, more, rfl, rfl, same,
            List.forall_mem_cons.mpr ⟨differs, others⟩⟩

theorem put_of_absent {fields : FieldCollection} {field : Field}
    (absent : fields.tryGet field.tag = none) : fields.put field = fields := by
  unfold put set
  rw [(replaceFirst_eq_none_iff fields field).mpr absent]
  rfl

theorem exists_of_tryGet {fields : FieldCollection} {tag : Int32} {field : Field}
    (found : fields.tryGet tag = some field) :
    ∃ front more, fields = front ++ field :: more ∧
      ∀ other ∈ front, other.tag ≠ tag := by
  obtain ⟨-, front, more, split, others⟩ := List.find?_eq_some_iff_append.mp found
  refine ⟨front, more, split, ?_⟩
  intro other member same
  have differs := others other member
  rw [same] at differs
  simp at differs

theorem put_append {front : FieldCollection} {old field : Field}
    (others : ∀ other ∈ front, other.tag ≠ field.tag) (same : old.tag = field.tag)
    (more : FieldCollection) :
    put (front ++ old :: more) field = front ++ field :: more := by
  unfold put set
  rw [replaceFirst_append others same]
  rfl

theorem put_nil (field : Field) : put [] field = [] := rfl

theorem put_cons (current field : Field) (rest : FieldCollection) :
    put (current :: rest) field =
      if current.tag = field.tag then field :: rest else current :: put rest field := by
  by_cases same : current.tag = field.tag
  · rw [if_pos same]
    exact @put_append [] current field (fun other member => absurd member List.not_mem_nil)
      same rest
  · rw [if_neg same]
    unfold put set
    rw [replaceFirst, if_neg same]
    cases replaceFirst rest field with
    | none => rfl
    | some replaced => rfl

theorem put_of_present {fields : FieldCollection} {field : Field}
    (found : fields.tryGet field.tag = some field) : fields.put field = fields := by
  obtain ⟨front, more, rfl, others⟩ := exists_of_tryGet found
  exact put_append others rfl more

theorem put_put_back {fields : FieldCollection} {field old : Field}
    (found : fields.tryGet field.tag = some old) :
    (fields.put field).put old = fields := by
  have same := tag_of_tryGet found
  obtain ⟨front, more, rfl, others⟩ := exists_of_tryGet found
  rw [put_append others same]
  apply put_append _ same.symm
  rw [same]
  exact others

/-! ### A tag that occurs once -/

def rewriteTo (field old : Field) : Field :=
  if old.tag = field.tag then field else old

theorem rewriteTo_tag (field old : Field) : (rewriteTo field old).tag = old.tag := by
  unfold rewriteTo
  split
  · next same => exact same.symm
  · rfl

theorem map_rewriteTo_of_absent {fields : FieldCollection} {field : Field}
    (absent : ∀ old ∈ fields, old.tag ≠ field.tag) :
    fields.map (rewriteTo field) = fields := by
  have unchanged : ∀ old ∈ fields, rewriteTo field old = old :=
    fun old member => if_neg (absent old member)
  rw [List.map_congr_left unchanged, List.map_id_fun', id]

theorem replaceFirst_of_countP_eq_one {fields : FieldCollection} {field : Field}
    (once : fields.countP (fun old => old.tag = field.tag) = 1) :
    replaceFirst fields field = some (fields.map (rewriteTo field)) := by
  induction fields with
  | nil => simp at once
  | cons current rest ih =>
      by_cases same : current.tag = field.tag
      · have absent : ∀ old ∈ rest, old.tag ≠ field.tag := by
          simpa [List.countP_cons, same, List.countP_eq_zero] using once
        simp [replaceFirst, rewriteTo, same, map_rewriteTo_of_absent absent]
      · have later : rest.countP (fun old => old.tag = field.tag) = 1 := by
          simpa [List.countP_cons, same] using once
        simp [replaceFirst, rewriteTo, same, ih later]

end FieldCollection

end Crocofix

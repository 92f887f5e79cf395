/-
Raw data, from the data types of the orchestration to the decoder.

Two data types are documented as raw data behind a field with its length, data
and XMLData.  The generator marks the fields of the first one only.  A value of
the other is read up to its first separator, and what follows as further fields.
-/

import Crocofix.EncodeDecode
import Crocofix.Lexicographer

namespace Crocofix

open Numeral

namespace Encode

open Decode (valueSeparator fieldSeparator)

variable {dictionary : OrchestrationFieldCollection}

/-! ### What is read back was framed -/

theorem framed_of_nextField {fields : FieldCollection} {seen rest : Bytes}
    {field : Field} {size : Nat}
    (decoded : Decode.nextField dictionary fields seen rest = .decoded field size) :
    Framed dictionary fields.getLast? field := by
  obtain ⟨text, complete, -⟩ := complete_of_nextField decoded
  exact complete.framed

theorem nextField_of_framed {fields : FieldCollection} {field : Field}
    (framed : Framed dictionary fields.getLast? field) (more : Bytes) :
    Decode.nextField dictionary fields [] (wire field ++ more) =
      .decoded field (wire field).length :=
  (nextField_of_complete framed.complete [] more).2

theorem run_fields_prefix (progress : Decode.Progress) (input : Bytes) :
    progress.fields <+: ((Decode.scanner dictionary).run progress input).state.fields := by
  induction progress, input using (Decode.scanner dictionary).run_induction with
  | wait progress input waits =>
      simp [Scan.Scanner.run_wait _ waits]
  | fail progress input stop fails =>
      simp [Scan.Scanner.run_fail _ fails]
  | last progress input next size taken =>
      rw [Scan.Scanner.run_last _ taken]
      obtain ⟨-, field, -, rfl, -⟩ := Decode.scanField_take taken
      exact List.prefix_append _ _
  | take progress input next size taken ih =>
      rw [Scan.Scanner.run_take _ taken]
      obtain ⟨-, field, -, rfl, -⟩ := Decode.scanField_take taken
      exact (List.prefix_append _ _).trans ih

theorem head_eq_of_prefix {front rest whole : FieldCollection} {first second : Field}
    (one : front ++ [first] <+: whole) (other : front ++ second :: rest <+: whole) :
    first = second := by
  have shorter : (front ++ [first]).length ≤ (front ++ second :: rest).length := by
    simp
  have inside := List.prefix_of_prefix_length_le one other shorter
  rw [List.prefix_append_right_inj, List.cons_prefix_cons] at inside
  exact inside.1

theorem framed_of_run {fields : FieldCollection} (progress : Decode.Progress)
    (more : Bytes)
    (back : progress.fields ++ fields <+: ((Decode.scanner dictionary).run progress
      (fields.flatMap wire ++ more)).state.fields) :
    ∀ field ∈ fields, ∃ previous, Framed dictionary previous field := by
  induction fields generalizing progress with
  | nil =>
      intro field member
      cases member
  | cons field rest ih =>
      rw [List.flatMap_cons, List.append_assoc] at back
      have longer : ¬ progress.fields ++ field :: rest <+: progress.fields := by
        intro impossible
        have length := impossible.length_le
        simp only [List.length_append, List.length_cons] at length
        omega
      cases step : (Decode.scanner dictionary).step progress
          (wire field ++ (rest.flatMap wire ++ more)) with
      | wait =>
          rw [Scan.Scanner.run_wait _ step] at back
          exact absurd back longer
      | fail stop =>
          rw [Scan.Scanner.run_fail _ step] at back
          exact absurd back longer
      | take next size last =>
          obtain ⟨-, other, decoded, rfl, -⟩ := Decode.scanField_take step
          cases last with
          | true =>
              rw [Scan.Scanner.run_last _ step] at back
              obtain rfl := head_eq_of_prefix (List.prefix_refl _) back
              have length := back.length_le
              simp only [Decode.Progress.store, List.length_append, List.length_cons,
                List.length_nil] at length
              have none : rest = [] := List.length_eq_zero_iff.mp (by omega)
              rw [none, List.forall_mem_singleton]
              exact ⟨_, framed_of_nextField decoded⟩
          | false =>
              rw [Scan.Scanner.run_take _ step, Scan.Result.advance_state] at back
              obtain rfl : other = field := by
                refine head_eq_of_prefix ?_ back
                exact run_fields_prefix (progress.store other _) _
              have framed := framed_of_nextField decoded
              rw [nextField_of_framed framed] at decoded
              injection decoded with _ sizeEq
              rw [← sizeEq, List.drop_left] at back
              have later := ih (progress.store other
                ((wire other ++ (rest.flatMap wire ++ more)).take (wire other).length))
              refine List.forall_mem_cons.mpr ⟨⟨_, framed⟩, later ?_⟩
              rwa [Decode.Progress.store, List.append_assoc, List.singleton_append]

end Encode

namespace Lexicographer

open Decode (fieldSeparator)
open Encode (Framed Trailed DataFramed DataFits WellFormed)

/-! ### The types of raw data -/

/-- The data types whose values are raw data without restrictions. -/
def rawTypes : List Bytes := [ascii "data", ascii "XMLData"]

def HasType (orchestration : Orchestration) (tag : Int32) (type : Bytes) : Prop :=
  ∃ field ∈ orchestration.fieldsByTag, Int32.ofNat field.id = tag ∧ field.type = type

instance (orchestration : Orchestration) (tag : Int32) (type : Bytes) :
    Decidable (HasType orchestration tag type) :=
  inferInstanceAs (Decidable (∃ _ ∈ _, _))

def IsRaw (orchestration : Orchestration) (tag : Int32) : Prop :=
  ∃ type ∈ rawTypes, HasType orchestration tag type

instance (orchestration : Orchestration) (tag : Int32) :
    Decidable (IsRaw orchestration tag) :=
  inferInstanceAs (Decidable (∃ _ ∈ _, _))

def CoversRaw (orchestration : Orchestration) : Prop :=
  ∀ field ∈ orchestration.fieldsByTag, field.type ∈ rawTypes →
    (definition orchestration field).isData = true

/-- Every field with raw data directly follows a field, other than the BodyLength
field, that holds the length of its value. -/
def RawFramed (orchestration : Orchestration) : Option Field → FieldCollection → Prop
  | _, [] => True
  | previous, field :: rest =>
      (IsRaw orchestration field.tag → ∃ before, previous = some before ∧
        before.tag ≠ Tag.BodyLength ∧ before.value = decimal field.value.length) ∧
      RawFramed orchestration (some field) rest

/-- A message that is well formed by the types of the orchestration. -/
structure RawMessage (orchestration : Orchestration) (fields : FieldCollection) :
    Prop where
  known : ∀ field ∈ fields, ∃ definition ∈ orchestration.fieldsByTag,
    Int32.ofNat definition.id = field.tag
  trailed : Trailed fields
  computed : ∀ field ∈ fields, field.tag = Tag.BodyLength ∨ field.tag = Tag.CheckSum →
    ¬ IsRaw orchestration field.tag
  text : ∀ field ∈ fields, ¬ IsRaw orchestration field.tag → fieldSeparator ∉ field.value
  raw : RawFramed orchestration none fields

/-- The field is looked up in the table, and no part of its value is lost. -/
structure Survives (orchestration : Orchestration) (built : FieldTable)
    (field : Field) : Prop where
  found : (built.lookup (OrchestrationFieldCollection.indexOf field.tag)).isSome
  data : HasType orchestration field.tag (ascii "data") →
    field.value.length < 2147483648
  xml : HasType orchestration field.tag (ascii "XMLData") → fieldSeparator ∉ field.value

section tables

variable {orchestration : Orchestration} {built : FieldTable} {tag : Int32} {type : Bytes}

theorem isData_definition {field : FieldDefinition}
    (member : field ∈ orchestration.fieldsByTag) :
    (definition orchestration field).isData = decide (field.type = ascii "data") := by
  unfold definition
  simp only [typeName_eq member, Option.some.injEq]

theorem isData_of_get (constructed : table orchestration = .ok built)
    (typed : HasType orchestration tag type) {found : OrchestrationField}
    (here : built.collection.get tag = .ok found) :
    found.tag = tag ∧ found.isData = decide (type = ascii "data") := by
  obtain ⟨field, member, rfl, rfl⟩ := typed
  obtain ⟨looked, isLooked, rfl⟩ := FieldTable.lookup_of_get here
  rw [indexOf_id member] at isLooked
  rcases lookup_of_mem constructed member with missing | present
  · rw [missing] at isLooked
    cases isLooked
  · rw [present] at isLooked
    injection isLooked with same
    rw [← same, isData_definition member]
    exact ⟨rfl, rfl⟩

theorem defines_of_found (constructed : table orchestration = .ok built)
    (typed : HasType orchestration tag type)
    (found : (built.lookup (OrchestrationFieldCollection.indexOf tag)).isSome) :
    built.collection.Defines tag (decide (type = ascii "data")) := by
  obtain ⟨field, isLooked⟩ := Option.isSome_iff_exists.mp found
  have here := FieldTable.get_collection isLooked
  exact ⟨field.toOrchestrationField, here, isData_of_get constructed typed here⟩

theorem survives_of_framed (constructed : table orchestration = .ok built)
    {previous : Option Field} {field : Field}
    (framed : Framed built.collection previous field) :
    Survives orchestration built field := by
  have looked {found : OrchestrationField}
      (here : built.collection.get field.tag = .ok found) :
      (built.lookup (OrchestrationFieldCollection.indexOf field.tag)).isSome := by
    obtain ⟨definition, isLooked, -⟩ := FieldTable.lookup_of_get here
    exact Option.isSome_iff_exists.mpr ⟨definition, isLooked⟩
  cases framed with
  | text found here isText plain =>
      refine ⟨looked here, ?_, fun _ => plain⟩
      intro isData
      have kind := (isData_of_get constructed isData here).2
      rw [isText] at kind
      cases kind
  | data found here isData before length last numeric same =>
      refine ⟨looked here, ?_, ?_⟩
      · intro _
        have bound := length.toInt_lt
        omega
      · intro isXml
        have kind := (isData_of_get constructed isXml here).2
        rw [isData] at kind
        exact absurd kind (by decide)

end tables

/-! ### Messages with raw data -/

def GivesBack (dictionary : OrchestrationFieldCollection) (message after : Message)
    (bytes : Bytes) : Prop :=
  (Message.empty.decode dictionary bytes).1 = .ok ⟨bytes.length, true⟩ ∧
    (Message.empty.decode dictionary bytes).2.fields = after.fields ∧
    ∃ checksum, after.fields = Encode.rewritten message checksum

section messages

variable {orchestration : Orchestration} {built : FieldTable} {message after : Message}
  {capacity size : Nat} {written : Bytes}

theorem RawMessage.typed {fields : FieldCollection}
    (raw : RawMessage orchestration fields) {field : Field} (member : field ∈ fields) :
    ∃ type, HasType orchestration field.tag type := by
  obtain ⟨definition, inside, tagged⟩ := raw.known field member
  exact ⟨definition.type, definition, inside, tagged, rfl⟩

theorem Survives.defines (constructed : table orchestration = .ok built) {field : Field}
    (survives : Survives orchestration built field) {type : Bytes}
    (typed : HasType orchestration field.tag type) :
    built.collection.Defines field.tag (decide (type = ascii "data")) :=
  defines_of_found constructed typed survives.found

theorem positive_of_known {field : Field}
    (known : ∃ definition ∈ orchestration.fieldsByTag,
      Int32.ofNat definition.id = field.tag) : 0 < field.tag := by
  obtain ⟨definition, inside, tagged⟩ := known
  have bounds := orchestration.bounded definition inside
  rw [← tagged, Int32.lt_iff_toInt_lt, Int32.toInt_ofNat_of_lt (by omega)]
  change (0 : Int) < definition.id
  omega

theorem dataFramed_of_rawFramed {dictionary : OrchestrationFieldCollection}
    {previous : Option Field} {fields : FieldCollection}
    (raw : ∀ field ∈ fields, dictionary.Defines field.tag true →
      IsRaw orchestration field.tag)
    (framed : RawFramed orchestration previous fields) :
    DataFramed dictionary previous fields := by
  induction fields generalizing previous with
  | nil => trivial
  | cons field rest ih =>
      obtain ⟨here, later⟩ := framed
      exact ⟨fun defined => here (raw field List.mem_cons_self defined),
        ih (fun other member => raw other (List.mem_cons_of_mem _ member)) later⟩

theorem wellFormed_of_survives (constructed : table orchestration = .ok built)
    {fields : FieldCollection} (raw : RawMessage orchestration fields)
    (survives : ∀ field ∈ fields, Survives orchestration built field) :
    WellFormed built.collection fields ∧ DataFits built.collection fields := by
  have kind {field : Field} (member : field ∈ fields) {isData : Bool}
      (defined : built.collection.Defines field.tag isData) {type : Bytes}
      (typed : HasType orchestration field.tag type) :
      isData = decide (type = ascii "data") :=
    defined.isData_unique ((survives field member).defines constructed typed)
  have isData {field : Field} (member : field ∈ fields)
      (defined : built.collection.Defines field.tag true) :
      HasType orchestration field.tag (ascii "data") := by
    obtain ⟨type, typed⟩ := raw.typed member
    have data := of_decide_eq_true (kind member defined typed).symm
    rwa [data] at typed
  constructor
  · constructor
    · exact fun field member => positive_of_known (raw.known field member)
    · intro field member
      obtain ⟨type, typed⟩ := raw.typed member
      exact ⟨_, (survives field member).defines constructed typed⟩
    · exact raw.trailed.oneBodyLength
    · exact raw.trailed.oneCheckSum
    · exact raw.trailed.checkSumLast
    · intro field member defined
      by_cases isRaw : IsRaw orchestration field.tag
      · obtain ⟨type, isType, typed⟩ := isRaw
        have notData := of_decide_eq_false (kind member defined typed).symm
        rcases List.mem_cons.mp isType with data | others
        · exact absurd data notData
        · rw [List.mem_singleton.mp others] at typed
          exact (survives field member).xml typed
      · exact raw.text field member isRaw
    · apply dataFramed_of_rawFramed _ raw.raw
      intro field member defined
      exact ⟨ascii "data", List.mem_cons_self, isData member defined⟩
  · intro field member defined
    exact (survives field member).data (isData member defined)

theorem computed_defines (constructed : table orchestration = .ok built)
    {fields : FieldCollection} (raw : RawMessage orchestration fields)
    (survives : ∀ field ∈ fields, Survives orchestration built field) {tag : Int32}
    (once : fields.countP (fun field => field.tag = tag) = 1)
    (computed : tag = Tag.BodyLength ∨ tag = Tag.CheckSum) :
    built.collection.Defines tag false := by
  obtain ⟨field, member, tagged⟩ := List.countP_pos_iff.mp (by rw [once]; exact Nat.one_pos)
  obtain rfl := of_decide_eq_true tagged
  obtain ⟨type, typed⟩ := raw.typed member
  have notData : type ≠ ascii "data" := by
    rintro rfl
    exact raw.computed field member computed ⟨_, List.mem_cons_self, typed⟩
  have defined := (survives field member).defines constructed typed
  rwa [decide_eq_false notData] at defined

theorem givesBack_of_survives (constructed : table orchestration = .ok built)
    (raw : RawMessage orchestration message.fields)
    (survives : ∀ field ∈ message.fields, Survives orchestration built field)
    (encoded : message.encode capacity .standard = (.ok size, after, written))
    (positive : 0 < size) : GivesBack built.collection message after written := by
  obtain ⟨wellFormed, fits⟩ := wellFormed_of_survives constructed raw survives
  have bodyDefined :=
    computed_defines constructed raw survives raw.trailed.oneBodyLength (.inl rfl)
  have checksumDefined :=
    computed_defines constructed raw survives raw.trailed.oneCheckSum (.inr rfl)
  obtain ⟨-, -, -, -, -, -, -, -, sizeEq, -⟩ :=
    Encode.encode_trailed raw.trailed encoded positive
  obtain ⟨decoded, checksum, called, back, rewrites, -⟩ :=
    Encode.decode_encode bodyDefined checksumDefined wellFormed fits encoded positive
  rw [sizeEq, List.take_length] at called
  unfold GivesBack
  rw [called]
  exact ⟨rfl, back, checksum, rewrites⟩

theorem survives_of_givesBack (constructed : table orchestration = .ok built)
    (raw : RawMessage orchestration message.fields)
    (encoded : message.encode capacity .standard = (.ok size, after, written))
    (positive : 0 < size)
    (back : (Message.empty.decode built.collection written).2.fields = after.fields) :
    ∀ field ∈ message.fields, Survives orchestration built field := by
  obtain ⟨front, last, checksum, -, -, afterEq, rewrites, writtenEq, -⟩ :=
    Encode.encode_trailed raw.trailed encoded positive
  have wires : written = after.fields.flatMap Encode.wire ++ [] := by
    rw [writtenEq, afterEq, List.flatMap_append, List.flatMap_singleton, List.append_nil]
  have whole : Message.empty.progress.fields ++ after.fields <+:
      ((Decode.scanner built.collection).run Message.empty.progress
        (after.fields.flatMap Encode.wire ++ [])).state.fields := by
    rw [← wires,
      ← (Decode.decode_agrees built.collection Message.empty written).fields, back]
    exact List.prefix_refl _
  have framed := Encode.framed_of_run Message.empty.progress [] whole
  intro field member
  let sent := FieldCollection.rewriteTo ⟨Tag.CheckSum, checksum⟩
    (FieldCollection.rewriteTo ⟨Tag.BodyLength, Encode.bodyLengthText message⟩ field)
  have sentTag : sent.tag = field.tag := by
    rw [FieldCollection.rewriteTo_tag, FieldCollection.rewriteTo_tag]
  have inside : sent ∈ after.fields := by
    rw [rewrites]
    exact List.mem_map.mpr ⟨field, member, rfl⟩
  obtain ⟨previous, sentFramed⟩ := framed sent inside
  have survives := survives_of_framed constructed sentFramed
  have kept (isRaw : IsRaw orchestration field.tag) : sent = field := by
    have notBody : field.tag ≠ Tag.BodyLength :=
      fun same => raw.computed field member (.inl same) isRaw
    have notChecksum : field.tag ≠ Tag.CheckSum :=
      fun same => raw.computed field member (.inr same) isRaw
    have body : FieldCollection.rewriteTo
        ⟨Tag.BodyLength, Encode.bodyLengthText message⟩ field = field := if_neg notBody
    change FieldCollection.rewriteTo ⟨Tag.CheckSum, checksum⟩
      (FieldCollection.rewriteTo _ field) = field
    rw [body]
    exact if_neg notChecksum
  constructor
  · rw [← sentTag]
    exact survives.found
  · intro typed
    have same := kept ⟨_, List.mem_cons_self, typed⟩
    rw [same] at survives
    exact survives.data typed
  · intro typed
    have same := kept ⟨_, List.mem_cons_of_mem _ List.mem_cons_self, typed⟩
    rw [same] at survives
    exact survives.xml typed

end messages

theorem coversRaw_iff (orchestration : Orchestration) :
    CoversRaw orchestration ↔
      ∀ field ∈ orchestration.fieldsByTag, field.type ≠ ascii "XMLData" := by
  constructor
  · intro covers field member isXml
    have raw : field.type ∈ rawTypes := by
      rw [isXml]
      decide
    have flag := covers field member raw
    rw [isData_definition member, isXml] at flag
    exact absurd flag (by decide)
  · intro noXml field member raw
    rw [isData_definition member]
    rcases List.mem_cons.mp raw with data | others
    · exact decide_eq_true data
    · exact absurd (List.mem_singleton.mp others) (noXml field member)

/-- The flag covers the raw data exactly if nothing has the type XMLData, and an
encoded message is read back exactly if all of its tags are in the table, no value
of an XMLData field contains a separator and the length of every data value fits an
`int`. -/
theorem raw_data_read_back_iff {orchestration : Orchestration} {built : FieldTable}
    (constructed : table orchestration = .ok built) :
    (CoversRaw orchestration ↔
        ∀ field ∈ orchestration.fieldsByTag, field.type ≠ ascii "XMLData") ∧
      ∀ (message after : Message) (capacity size : Nat) (written : Bytes),
        RawMessage orchestration message.fields →
        message.encode capacity .standard = (.ok size, after, written) → 0 < size →
        (GivesBack built.collection message after written ↔
          ∀ field ∈ message.fields, Survives orchestration built field) := by
  refine ⟨coversRaw_iff orchestration, ?_⟩
  intro message after capacity size written raw encoded positive
  constructor
  · rintro ⟨-, back, -⟩
    exact survives_of_givesBack constructed raw encoded positive back
  · intro survives
    exact givesBack_of_survives constructed raw survives encoded positive

/-! ### SecurityXML -/

def securityDefinitions : Orchestration where
  dataTypes := [ascii "String", ascii "Length", ascii "XMLData"]
  codeSets := []
  fieldsByTag := [⟨8, ascii "BeginString", ascii "String"⟩,
    ⟨9, ascii "BodyLength", ascii "Length"⟩, ⟨10, ascii "CheckSum", ascii "String"⟩,
    ⟨35, ascii "MsgType", ascii "String"⟩, ⟨1184, ascii "SecurityXMLLen", ascii "Length"⟩,
    ⟨1185, ascii "SecurityXML", ascii "XMLData"⟩]
  distinct := by decide
  bounded := by decide
  typed := by decide

def securityDefinition (value : Bytes) : Message :=
  ⟨[⟨Tag.BeginString, ascii "FIXT.1.1"⟩, ⟨Tag.BodyLength, []⟩, ⟨Tag.MsgType, ascii "d"⟩,
    ⟨1184, decimal 3⟩, ⟨1185, value⟩, ⟨Tag.CheckSum, []⟩], 0, false⟩

theorem securityDefinition_raw {value : Bytes} (three : value.length = 3) :
    RawMessage securityDefinitions (securityDefinition value).fields := by
  have plain {tag : Int32} {statement : Prop} (text : ¬ IsRaw securityDefinitions tag)
      (raw : IsRaw securityDefinitions tag) : statement := absurd raw text
  have isRaw : IsRaw securityDefinitions 1185 := by decide
  constructor
  · simp only [securityDefinition, List.forall_mem_cons]
    decide
  · exact ⟨rfl, rfl, _, rfl, rfl⟩
  · simp only [securityDefinition, List.forall_mem_cons]
    decide
  · simp only [securityDefinition, List.forall_mem_cons, isRaw, not_true_eq_false,
      false_implies, true_and]
    decide
  · refine ⟨plain (by decide), plain (by decide), plain (by decide), plain (by decide),
      fun _ => ⟨_, rfl, by decide, ?_⟩, plain (by decide), trivial⟩
    rw [three]

theorem found_of_known {orchestration : Orchestration} {built : FieldTable}
    (defined : ∀ field ∈ orchestration.fieldsByTag,
      built.get field.id = .ok (definition orchestration field)) {field : Field}
    (known : ∃ definition ∈ orchestration.fieldsByTag,
      Int32.ofNat definition.id = field.tag) :
    (built.lookup (OrchestrationFieldCollection.indexOf field.tag)).isSome := by
  obtain ⟨source, member, tagged⟩ := known
  have got := defined source member
  rw [← tagged, indexOf_id member]
  unfold FieldTable.get at got
  cases looked : built.lookup source.id with
  | none =>
      rw [looked] at got
      cases got
  | some found => rfl

theorem raw_data_read_back_plain :
    ∃ built, table securityDefinitions = .ok built ∧
      GivesBack built.collection (securityDefinition (ascii "<a>"))
        ((securityDefinition (ascii "<a>")).encode 1024 .standard).2.1
        ((securityDefinition (ascii "<a>")).encode 1024 .standard).2.2 := by
  obtain ⟨-, built, constructed, defined, -⟩ :=
    @agrees_of_bounded securityDefinitions (by decide) (by decide)
  have raw : RawMessage securityDefinitions (securityDefinition (ascii "<a>")).fields :=
    securityDefinition_raw rfl
  have data : ∀ field ∈ (securityDefinition (ascii "<a>")).fields,
      ¬ HasType securityDefinitions field.tag (ascii "data") := by decide
  have xml : ∀ field ∈ (securityDefinition (ascii "<a>")).fields,
      HasType securityDefinitions field.tag (ascii "XMLData") →
        fieldSeparator ∉ field.value := by decide
  have encoded : ((securityDefinition (ascii "<a>")).encode 1024 .standard).1 = .ok 44 := by
    decide
  refine ⟨built, constructed, ?_⟩
  refine ((raw_data_read_back_iff constructed).2 _ _ 1024 44 _ raw
    (Prod.ext encoded rfl) (by decide)).mpr ?_
  intro field member
  exact ⟨found_of_known defined (raw.known field member),
    fun typed => absurd typed (data field member), xml field member⟩

/-- An XML value of three bytes, the second of which is the separator. -/
theorem securityXML_is_split :
    ¬ CoversRaw securityDefinitions ∧
      ∃ built, table securityDefinitions = .ok built ∧
        RawMessage securityDefinitions (securityDefinition [60, 1, 62]).fields ∧
        ((securityDefinition [60, 1, 62]).encode 1024 .standard).1 = .ok 44 ∧
        ¬ GivesBack built.collection (securityDefinition [60, 1, 62])
          ((securityDefinition [60, 1, 62]).encode 1024 .standard).2.1
          ((securityDefinition [60, 1, 62]).encode 1024 .standard).2.2 := by
  obtain ⟨built, constructed⟩ := @table_built securityDefinitions (by decide)
  have raw : RawMessage securityDefinitions (securityDefinition [60, 1, 62]).fields :=
    securityDefinition_raw rfl
  have encoded : ((securityDefinition [60, 1, 62]).encode 1024 .standard).1 = .ok 44 := by
    decide
  refine ⟨?_, built, constructed, raw, encoded, ?_⟩
  · rw [coversRaw_iff]
    decide
  · rintro ⟨-, back, -⟩
    have survives := survives_of_givesBack constructed raw (Prod.ext encoded rfl)
      (by decide) back ⟨1185, [60, 1, 62]⟩ (by decide)
    exact absurd (survives.xml (by decide)) (by decide)

end Lexicographer

end Crocofix

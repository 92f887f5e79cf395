/-
Printing a message with the names of its fields.

The names stand right-justified in a column of their own, and behind them the
tags in another one.  The values begin in the same column on every line.
-/

import Crocofix.BodyLength
import Crocofix.Lexicographer
import Crocofix.Report.Written

namespace Crocofix

open Numeral

/-! ### The names in the dictionary -/

structure MessageDefinition where
  name : Bytes
  msgType : Bytes
deriving DecidableEq, Repr

/-- The texts of an `orchestration`: its fields, the types of these, and its
messages. -/
structure Names where
  fields : FieldTable
  types : List Bytes
  messages : List MessageDefinition

namespace Names

/-- The conversion of an `int` tag, and `name_of_field`. -/
def nameOfField (names : Names) (tag : Int32) : Bytes :=
  names.fields.nameOfField (OrchestrationFieldCollection.indexOf tag)

def nameOfValue (names : Names) (tag : Int32) (value : Bytes) : Bytes :=
  names.fields.nameOfValue (OrchestrationFieldCollection.indexOf tag) value

/-- `message_collection::name_of_message`.  The constructor assigns to the map,
so that the last message of a type is found. -/
def nameOfMessage (names : Names) (msgType : Bytes) : Bytes :=
  match names.messages.reverse.find? fun message => message.msgType = msgType with
  | none => []
  | some message => message.name

def unnamed : Names where
  fields :=
    { fieldOffsets := [0]
      fields := [.dummy]
      nonempty := List.cons_ne_nil _ _
      enoughOffsets := Nat.le_refl 1
      representable := by decide }
  types := [[]]
  messages := []

end Names

/-! ### Printing -/

namespace Message

/-- A text behind as many blanks as `std::setw` and `std::right` put in front of
it. -/
def rightJustified (width : Nat) (text : Bytes) : Bytes :=
  List.replicate (width - text.length) 32 ++ text

def widestFieldName (names : Names) (fields : FieldCollection) : Nat :=
  fields.foldl (fun widest field => max widest (names.nameOfField field.tag).length) 0

def widestTag (fields : FieldCollection) : Nat :=
  fields.foldl (fun widest field => max widest (numberOfDigits field.tag).toNat) 0

def label (names : Names) (fields : FieldCollection) (field : Field) : Bytes :=
  rightJustified (widestFieldName names fields) (names.nameOfField field.tag) ++
    rightJustified (widestTag fields + 4)
      (ascii " (" ++ decimalInt field.tag.toInt ++ ascii ") ")

def described (names : Names) (field : Field) : Bytes :=
  if names.nameOfValue field.tag field.value = [] then field.value
  else field.value ++ ascii " - " ++ names.nameOfValue field.tag field.value

def line (names : Names) (fields : FieldCollection) (field : Field) : Bytes :=
  label names fields field ++ described names field ++ [10]

/-- `message::pretty_print` to a stream whose width is not set and that fills
with blanks. -/
def prettyPrint (names : Names) (message : Message) : Except Exception Bytes := do
  let msgType ← message.MsgType
  pure (names.nameOfMessage msgType ++ [10] ++ ascii "\x7b" ++ [10] ++
    message.fields.flatMap (line names message.fields) ++ ascii "\x7d" ++ [10])

/-! ### Printing to any stream -/

/-- `stream << std::setw(width) << std::right << text`. -/
def justify (stream : Ostream) (width : Nat) (text : Bytes) : Ostream :=
  Ostream.insert { stream with adjust := .right, width } text

/-- The second loop of `pretty_print`. -/
def writeField (names : Names) (fields : FieldCollection) (stream : Ostream)
    (field : Field) : Ostream :=
  let named := justify stream (widestFieldName names fields) (names.nameOfField field.tag)
  let tagged := justify named (widestTag fields + 4)
    (ascii " (" ++ decimalInt field.tag.toInt ++ ascii ") ")
  let valued := tagged.insert field.value
  let ended :=
    if names.nameOfValue field.tag field.value = [] then valued
    else (valued.insert (ascii " - ")).insert (names.nameOfValue field.tag field.value)
  ended.insert [newline]

/-- `message::pretty_print`.  Without a MsgType it throws before it has written
anything. -/
def prettyPrintTo (names : Names) (message : Message) (stream : Ostream) :
    Except Exception Ostream := do
  let msgType ← message.MsgType
  let begun := (stream.insert (names.nameOfMessage msgType)).insert
    ([newline] ++ ascii "\x7b" ++ [newline])
  pure ((message.fields.foldl (writeField names message.fields) begun).insert
    (ascii "\x7d" ++ [newline]))

section stream

open Report (Appends appends_insert)

theorem appends_justify {before stream : Ostream} {front : Bytes}
    (appends : Appends before stream front) (width : Nat) (text : Bytes) :
    Appends before (justify stream width text) (front ++ rightJustified width text) := by
  refine ⟨?_, appends.fill, rfl⟩
  have blanks : ((width : Int) - text.length).toNat = width - text.length := by omega
  change stream.written ++ Ostream.padded false width stream.fill text = _
  rw [appends.fill, appends.written, List.append_assoc]
  unfold Ostream.padded rightJustified
  rw [blanks]
  rfl

theorem appends_writeField {before stream : Ostream} {front : Bytes}
    (appends : Appends before stream front) (names : Names) (fields : FieldCollection)
    (field : Field) :
    Appends before (writeField names fields stream field)
      (front ++ line names fields field) := by
  have named := appends_justify appends (widestFieldName names fields)
    (names.nameOfField field.tag)
  have tagged := appends_justify named (widestTag fields + 4)
    (ascii " (" ++ decimalInt field.tag.toInt ++ ascii ") ")
  have valued := appends_insert tagged field.value
  unfold writeField line described label
  split
  · have ended := appends_insert valued [newline]
    simp only [List.append_assoc] at ended ⊢
    exact ended
  · have ended := appends_insert (appends_insert (appends_insert valued (ascii " - "))
      (names.nameOfValue field.tag field.value)) [newline]
    simp only [List.append_assoc] at ended ⊢
    exact ended

theorem appends_writeFields {before : Ostream} (names : Names) (fields : FieldCollection)
    (rest : List Field) : ∀ {stream front}, Appends before stream front →
      Appends before (rest.foldl (writeField names fields) stream)
        (front ++ rest.flatMap (line names fields)) := by
  induction rest with
  | nil =>
      intro stream front appends
      rw [List.flatMap_nil, List.append_nil]
      exact appends
  | cons field rest ih =>
      intro stream front appends
      rw [List.foldl_cons, List.flatMap_cons, ← List.append_assoc]
      exact ih (appends_writeField appends names fields field)

/-- To a stream in its usual format the text is written that is printed by itself, and
the stream keeps this format. -/
theorem prettyPrintTo_ok {names : Names} {message : Message} {text : Bytes}
    (printed : message.prettyPrint names = .ok text) {stream : Ostream}
    (fill : stream.fill = blank) (width : stream.width = 0) :
    ∃ after, message.prettyPrintTo names stream = .ok after ∧
      Appends stream after text := by
  unfold prettyPrint at printed
  unfold prettyPrintTo
  cases type : message.MsgType with
  | error exception =>
      rw [type] at printed
      cases printed
  | ok msgType =>
      rw [type] at printed
      injection printed with same
      have opened : Appends stream stream [] := ⟨(List.append_nil _).symm, fill, width⟩
      have begun := appends_insert (appends_insert opened (names.nameOfMessage msgType))
        ([newline] ++ ascii "\x7b" ++ [newline])
      have ended := appends_insert
        (appends_writeFields names message.fields message.fields begun)
        (ascii "\x7d" ++ [newline])
      refine ⟨_, rfl, ?_⟩
      rw [← same]
      simp only [List.append_assoc, List.nil_append] at ended ⊢
      exact ended

theorem prettyPrintTo_error {names : Names} {message : Message} {exception : Exception}
    (thrown : message.prettyPrint names = .error exception) (stream : Ostream) :
    message.prettyPrintTo names stream = .error exception := by
  unfold prettyPrint at thrown
  unfold prettyPrintTo
  cases type : message.MsgType with
  | error other =>
      rw [type] at thrown
      injection thrown with same
      rw [same]
      rfl
  | ok msgType =>
      rw [type] at thrown
      cases thrown

end stream

/-! ### The columns -/

theorem rightJustified_length (width : Nat) (text : Bytes) :
    (rightJustified width text).length = max width text.length := by
  simp only [rightJustified, List.length_append, List.length_replicate]
  omega

theorem le_foldl_max {α : Type} (size : α → Nat) (elements : List α) (start : Nat) :
    start ≤ elements.foldl (fun widest element => max widest (size element)) start ∧
      ∀ element ∈ elements,
        size element ≤
          elements.foldl (fun widest element => max widest (size element)) start := by
  induction elements generalizing start with
  | nil => exact ⟨Nat.le_refl _, fun _ member => by cases member⟩
  | cons element rest ih =>
      obtain ⟨above, each⟩ := ih (max start (size element))
      rw [List.foldl_cons]
      refine ⟨Nat.le_trans (Nat.le_max_left _ _) above, ?_⟩
      exact List.forall_mem_cons.mpr ⟨Nat.le_trans (Nat.le_max_right _ _) above, each⟩

section columns

variable {fields : FieldCollection} {field : Field}

theorem name_le_widest (names : Names) (member : field ∈ fields) :
    (names.nameOfField field.tag).length ≤ widestFieldName names fields :=
  (le_foldl_max (fun field : Field => (names.nameOfField field.tag).length) fields
    0).2 field member

theorem digits_le_widest (member : field ∈ fields) :
    (numberOfDigits field.tag).toNat ≤ widestTag fields :=
  (le_foldl_max (fun field : Field => (numberOfDigits field.tag).toNat) fields
    0).2 field member

/-- The value begins behind both columns, if and only if its tag is not a negative one
of the most digits; the least tag is counted with more digits than it has. -/
theorem label_length_iff (names : Names) (member : field ∈ fields) :
    (label names fields field).length =
        widestFieldName names fields + (widestTag fields + 4) ↔
      ¬ (field.tag < 0 ∧ field.tag ≠ Int32.minValue ∧
        (numberOfDigits field.tag).toNat = widestTag fields) := by
  have name := name_le_widest names member
  have digits := digits_le_widest member
  have tag := Encode.decimalInt_length field.tag
  have before : (ascii " (").length = 2 := rfl
  have behind : (ascii ") ").length = 2 := rfl
  simp only [label, List.length_append, rightJustified_length, before, behind]
  by_cases least : field.tag = Int32.minValue
  · have negative : field.tag < 0 := by
      rw [least]
      decide
    rw [if_pos negative, if_pos least] at tag
    refine iff_of_true ?_ fun narrow => narrow.2.1 least
    omega
  · rw [if_neg least] at tag
    by_cases negative : field.tag < 0
    · rw [if_pos negative] at tag
      constructor
      · rintro length ⟨-, -, widest⟩
        omega
      · intro narrow
        have fewer : (numberOfDigits field.tag).toNat ≠ widestTag fields :=
          fun widest => narrow ⟨negative, least, widest⟩
        omega
    · rw [if_neg negative] at tag
      refine iff_of_true ?_ fun both => negative both.1
      omega

end columns

/-- How a message is printed: its name, and a line for each of its fields in
their order.  Unless a tag is negative, the names end in one column, and the values
begin in another. -/
structure Printed (names : Names) (message : Message) (text : Bytes) : Prop where
  lines : ∃ msgType header, message.MsgType = .ok msgType ∧
    header = names.nameOfMessage msgType ++ [10] ++ ascii "\x7b" ++ [10] ∧
    text = header ++ message.fields.flatMap (line names message.fields) ++
      (ascii "\x7d" ++ [10])
  columns : (∀ field ∈ message.fields, 0 ≤ field.tag) →
    ∃ nameEnd valueStart, ∀ field ∈ message.fields, ∃ blanks between,
      line names message.fields field =
        blanks ++ names.nameOfField field.tag ++ between ++ described names field ++ [10] ∧
      (∀ byte ∈ blanks, byte = 32) ∧
      (blanks ++ names.nameOfField field.tag).length = nameEnd ∧
      (blanks ++ names.nameOfField field.tag ++ between).length = valueStart

/-- A message is printed if and only if it has a MsgType. -/
theorem prettyPrint_columns (names : Names) (message : Message) :
    ((∃ text, message.prettyPrint names = .ok text) ↔
        (message.fields.tryGet Tag.MsgType).isSome) ∧
      ∀ text, message.prettyPrint names = .ok text → Printed names message text := by
  constructor
  · unfold prettyPrint MsgType requireField
    cases message.fields.tryGet Tag.MsgType with
    | none => exact iff_of_false (fun ⟨_, printed⟩ => by cases printed) (by decide)
    | some field => exact iff_of_true ⟨_, rfl⟩ rfl
  · intro text printed
    unfold prettyPrint at printed
    cases type : message.MsgType with
    | error exception =>
        rw [type] at printed
        cases printed
    | ok msgType =>
        rw [type] at printed
        injection printed with same
        constructor
        · refine ⟨msgType, _, type, rfl, ?_⟩
          rw [← same]
          simp only [List.append_assoc]
        · intro tags
          refine ⟨widestFieldName names message.fields,
            widestFieldName names message.fields + (widestTag message.fields + 4), ?_⟩
          intro field member
          have positive : ¬ field.tag < 0 := Int32.not_lt.mpr (tags field member)
          have length := (label_length_iff names member).mpr fun both => positive both.1
          have name := rightJustified_length (widestFieldName names message.fields)
            (names.nameOfField field.tag)
          rw [Nat.max_eq_left (name_le_widest names member)] at name
          refine ⟨_, _, ?_, ?_, name, length⟩
          · rfl
          · intro byte inside
            exact List.eq_of_mem_replicate inside

end Message

end Crocofix

/-
Logs that fixcat reads.

A log has lines with a message in them, with a time in front for instance, and lines
with something else.  The messages are found whatever stands around them, and so are the
ones that fixsed has logged.
-/

import Crocofix.Carried
import Crocofix.Encoding
import Crocofix.Fixcat
import Crocofix.PassThrough
import Crocofix.SocketReader.Framed
import Crocofix.Pipeline.Relayed

namespace Crocofix

open Numeral

namespace Fixcat

/-- The line holds one whole message.  Nothing in front of it looks like one. -/
structure Holds (dictionary : OrchestrationFieldCollection) (line : Bytes)
    (message : Message) : Prop where
  oneLine : newline ∉ line
  split : ∃ stamp piece behind, line = stamp ++ (piece ++ behind) ∧
    ¬ fixMessagePrefix <:+: stamp ∧ fixMessagePrefix <+: piece ∧
    Decode.IsWhole dictionary piece message

inductive Log (dictionary : OrchestrationFieldCollection) :
    List Bytes → List Message → Prop
  | nil : Log dictionary [] []
  | other {line : Bytes} {lines : List Bytes} {messages : List Message}
      (oneLine : newline ∉ line) (plain : ¬ fixMessagePrefix <:+: line)
      (rest : Log dictionary lines messages) : Log dictionary (line :: lines) messages
  | message {line : Bytes} {message : Message} {lines : List Bytes}
      {messages : List Message} (holds : Holds dictionary line message)
      (rest : Log dictionary lines messages) :
      Log dictionary (line :: lines) (message :: messages)

variable {dictionary : OrchestrationFieldCollection}

theorem Holds.read {line : Bytes} {message : Message}
    (holds : Holds dictionary line message) : read dictionary line = .found message := by
  obtain ⟨stamp, piece, behind, rfl, plain, ⟨rest, rfl⟩, whole⟩ := holds.split
  have found : Line.search fixMessagePrefix
      (stamp ++ (fixMessagePrefix ++ rest ++ behind)) =
        some (fixMessagePrefix ++ rest ++ behind) := by
    rw [List.append_assoc]
    exact Line.search_append (by decide) plain (rest ++ behind)
  unfold Fixcat.read
  simp only [found, whole.decode_append behind]

theorem Log.oneLine {lines : List Bytes} {messages : List Message}
    (log : Log dictionary lines messages) : ∀ line ∈ lines, newline ∉ line := by
  induction log with
  | nil => simp
  | other oneLine plain rest ih => exact List.forall_mem_cons.mpr ⟨oneLine, ih⟩
  | message holds rest ih => exact List.forall_mem_cons.mpr ⟨holds.oneLine, ih⟩

theorem Log.logged {lines : List Bytes} {messages : List Message}
    (log : Log dictionary lines messages) :
    logged dictionary lines = some messages := by
  induction log with
  | nil => rfl
  | other oneLine plain rest ih =>
      unfold Fixcat.logged Fixcat.read
      rw [Line.search_none plain]
      exact ih
  | message holds rest ih =>
      unfold Fixcat.logged
      rw [holds.read, ih]
      rfl

def bookOf (options : Options) (messages : List Message) : OrderBook :=
  if options.trackOrders then OrderBook.empty.processAll messages else .empty

theorem Log.processStream {options : Options} {lines : List Bytes}
    {messages : List Message} (log : Log options.dictionary lines messages) :
    (processStream options (Report.terminated lines)).map State.book =
      some (bookOf options messages) := by
  have same : Line.lines newline (Report.terminated lines) = lines :=
    Line.lines_written log.oneLine
  have run := @processLines_follows options options.orderReport .initial ⟨rfl, rfl⟩ lines
  rw [log.logged] at run
  obtain ⟨after, ended, follows⟩ := run
  unfold Fixcat.processStream
  rw [same, ended, Option.map_some, follows.book, foldl_bookBehind log.logged]
  rfl

/-! ### Messages that were encoded -/

/-- A line with the encoding of a message, and other text around it. -/
structure Encoded (dictionary : OrchestrationFieldCollection) (line : Bytes)
    (message : Message) : Prop where
  wellFormed : Encode.WellFormed dictionary message.fields
  fits : Encode.DataFits dictionary message.fields
  stored : ∃ capacity size, (message.encode capacity .standard).1 = .ok size ∧ 0 < size
  starts : fixMessagePrefix <+: message.encoding .standard
  oneLine : newline ∉ line
  split : ∃ stamp behind, line = stamp ++ (message.encoding .standard ++ behind) ∧
    ¬ fixMessagePrefix <:+: stamp

theorem Encoded.holds {line : Bytes} {message : Message}
    (bodyDefined : dictionary.Defines Tag.BodyLength false)
    (checksumDefined : dictionary.Defines Tag.CheckSum false)
    (encoded : Encoded dictionary line message) :
    Holds dictionary line (message.carried .standard) := by
  obtain ⟨capacity, size, returned, positive⟩ := encoded.stored
  obtain ⟨stamp, behind, split, plain⟩ := encoded.split
  obtain ⟨result, length⟩ := Encode.encode_of_stored returned positive
  have decoded := Message.decode_eq_carried bodyDefined checksumDefined
    encoded.wellFormed encoded.fits result positive
  rw [List.take_of_length_le (Nat.le_of_eq length), ← length] at decoded
  exact ⟨encoded.oneLine, stamp, _, behind, split, plain, encoded.starts, decoded⟩

/-- fixcat reads encoded messages back from a log: the order book is the one of the
messages as they are carried. -/
theorem reads_encoded {options : Options} {lines : List Bytes} {messages : List Message}
    (bodyDefined : options.dictionary.Defines Tag.BodyLength false)
    (checksumDefined : options.dictionary.Defines Tag.CheckSum false)
    (encoded : List.Forall₂ (Encoded options.dictionary) lines messages) :
    (processStream options (Report.terminated lines)).map State.book =
      some (bookOf options (messages.map (·.carried .standard))) := by
  apply Log.processStream
  induction encoded with
  | nil => exact .nil
  | cons first rest ih => exact .message (first.holds bodyDefined checksumDefined) ih

def everything : Options := ⟨.excerpt, .unnamed, true, true, true, none⟩

def plainTags : List Nat := [8, 9, 10, 11, 35, 39, 49, 56]

def plainDictionary : OrchestrationFieldCollection where
  fieldOffsets := (List.range 57).map fun tag =>
    UInt16.ofNat ((plainTags.idxOf tag + 1) % 9)
  fields := ⟨0, false⟩ :: plainTags.map fun tag => ⟨Int32.ofNat tag, false⟩
  nonempty := List.cons_ne_nil _ _
  enoughOffsets := by decide
  representable := by decide

theorem plainDictionary_defines {tag : Nat} (plain : tag ∈ plainTags) :
    plainDictionary.Defines (Int32.ofNat tag) false := by
  simp only [plainTags, List.mem_cons, List.not_mem_nil, or_false] at plain
  rcases plain with rfl | rfl | rfl | rfl | rfl | rfl | rfl | rfl <;>
    exact ⟨_, rfl, rfl, rfl⟩

def framed (inside : FieldCollection) : Message :=
  { Message.empty with
    fields := [⟨Tag.BeginString, ascii "FIX.4.4"⟩, ⟨Tag.BodyLength, []⟩] ++ inside ++
      [⟨Tag.CheckSum, []⟩] }

def order : Message :=
  framed [⟨Tag.MsgType, MsgType.NewOrderSingle⟩, ⟨Tag.SenderCompID, ascii "I"⟩,
    ⟨Tag.TargetCompID, ascii "A"⟩, ⟨Tag.ClOrdID, ascii "1"⟩]

def report : Message :=
  framed [⟨Tag.MsgType, MsgType.ExecutionReport⟩, ⟨Tag.SenderCompID, ascii "A"⟩,
    ⟨Tag.TargetCompID, ascii "I"⟩, ⟨Tag.ClOrdID, ascii "1"⟩, ⟨Tag.OrdStatus, ascii "0"⟩]

theorem dataFramed_of_plain {previous : Option Field} {fields : FieldCollection}
    (plain : ∀ field ∈ fields, ¬ dictionary.Defines field.tag true) :
    Encode.DataFramed dictionary previous fields := by
  induction fields generalizing previous with
  | nil => trivial
  | cons field rest ih =>
      obtain ⟨here, later⟩ := List.forall_mem_cons.mp plain
      exact ⟨fun isData => absurd isData here, ih later⟩

theorem encoded_plain {message : Message} {stamp : Bytes}
    (tags : ∀ field ∈ message.fields, ∃ tag ∈ plainTags, field.tag = Int32.ofNat tag)
    (positive : ∀ field ∈ message.fields, 0 < field.tag)
    (texts : ∀ field ∈ message.fields, Decode.fieldSeparator ∉ field.value)
    (oneBodyLength : message.fields.countP (fun field => field.tag = Tag.BodyLength) = 1)
    (oneCheckSum : message.fields.countP (fun field => field.tag = Tag.CheckSum) = 1)
    (checkSumLast : ∃ last, message.fields.getLast? = some last ∧ last.tag = Tag.CheckSum)
    (stored : ∃ size, (message.encode 64 .standard).1 = .ok size ∧ 0 < size)
    (starts : fixMessagePrefix <+: message.encoding .standard)
    (oneLine : newline ∉ stamp ++ message.encoding .standard)
    (absent : ¬ fixMessagePrefix <:+: stamp) :
    Encoded plainDictionary (stamp ++ message.encoding .standard) message := by
  have defined : ∀ field ∈ message.fields, plainDictionary.Defines field.tag false := by
    intro field member
    obtain ⟨tag, plain, same⟩ := tags field member
    rw [same]
    exact plainDictionary_defines plain
  have noData : ∀ field ∈ message.fields, ¬ plainDictionary.Defines field.tag true :=
    fun field member isData => Bool.noConfusion ((defined field member).isData_unique isData)
  exact {
    wellFormed :=
      { positive
        known := fun field member => ⟨false, defined field member⟩
        oneBodyLength, oneCheckSum, checkSumLast
        text := fun field member _ => texts field member
        data := dataFramed_of_plain noData }
    fits := fun field member isData => absurd isData (noData field member)
    stored := ⟨64, stored⟩
    starts, oneLine
    split := ⟨stamp, [], by rw [List.append_nil], absent⟩ }

def ordersLog : Options := { everything with dictionary := plainDictionary }

/-- The log of an order and of the report that accepts it. -/
theorem reads_encoded_accepted :
    ∃ book, (processStream ordersLog (Report.terminated
        [ascii "10:00:00 " ++ order.encoding .standard,
          ascii "10:00:01 " ++ report.encoding .standard])).map State.book = some book ∧
      book = bookOf ordersLog ([order, report].map (·.carried .standard)) ∧
      (book.orders.lookup (ascii "I-A-1")).isSome := by
  refine ⟨_, reads_encoded (plainDictionary_defines (by decide))
    (plainDictionary_defines (by decide)) (.cons ?_ (.cons ?_ .nil)), rfl,
    by decide +kernel⟩
  · exact encoded_plain (by decide +kernel) (by decide +kernel) (by decide +kernel) rfl rfl
      ⟨_, rfl, rfl⟩ ⟨42, by decide +kernel⟩ (by decide +kernel) (by decide +kernel)
      (by decide +kernel)
  · exact encoded_plain (by decide +kernel) (by decide +kernel) (by decide +kernel) rfl rfl
      ⟨_, rfl, rfl⟩ ⟨47, by decide +kernel⟩ (by decide +kernel) (by decide +kernel)
      (by decide +kernel)

/-! ### Messages that fixsed has logged -/

/-- The line of a message that has come with canonical tags, as `log_message` has
written it behind the time and the level. -/
structure Logged (relay : Pipeline.Options) (dictionary : OrchestrationFieldCollection)
    (line : Bytes) (message : Message) : Prop where
  oneLine : newline ∉ line
  received : ∃ piece, Decode.IsWhole dictionary piece message ∧
    Encode.IsCanonical message.fields piece ∧ fixMessagePrefix <+: piece
  written : ∃ stamp text, Pipeline.logMessage relay message = .ok text ∧
    line = stamp ++ text ∧ ¬ fixMessagePrefix <:+: stamp

theorem logMessage_of_canonical {relay : Pipeline.Options}
    (plain : relay.prettyPrint = false) {piece text : Bytes} {message : Message}
    (whole : Decode.IsWhole dictionary piece message)
    (canonical : Encode.IsCanonical message.fields piece)
    (logs : Pipeline.logMessage relay message = .ok text) : text = piece := by
  obtain ⟨front, last, spells, -⟩ := Encode.decode_spelled whole
  have texts := (Encode.isCanonical_iff_of_spells spells).mp canonical
  have bytes := Encode.flatMap_bytes_of_canonical texts
  rw [List.flatMap_append, List.flatMap_singleton, ← spells.bytes, List.map_append,
    List.map_singleton, ← Encode.fields_of_spells spells] at bytes
  unfold Pipeline.logMessage at logs
  rw [if_neg (by rw [plain]; exact Bool.false_ne_true)] at logs
  injection logs with same
  rw [← same, bytes]
  apply List.flatMap_congr
  intro field member
  unfold Encode.wire
  rw [List.append_assoc, List.append_assoc]
  rfl

theorem Logged.holds {relay : Pipeline.Options} (plain : relay.prettyPrint = false)
    {line : Bytes} {message : Message} (logged : Logged relay dictionary line message) :
    Holds dictionary line message := by
  obtain ⟨piece, whole, canonical, starts⟩ := logged.received
  obtain ⟨stamp, text, logs, split, absent⟩ := logged.written
  have asReceived := logMessage_of_canonical plain whole canonical logs
  refine ⟨logged.oneLine, stamp, piece, [], ?_, absent, starts, whole⟩
  rw [split, asReceived, List.append_nil]

/-- fixcat reads back the messages that fixsed has logged. -/
theorem reads_logged {options : Options} {relay : Pipeline.Options}
    (plain : relay.prettyPrint = false) {lines : List Bytes} {messages : List Message}
    (logged : List.Forall₂ (Logged relay options.dictionary) lines messages) :
    (processStream options (Report.terminated lines)).map State.book =
      some (bookOf options messages) := by
  apply Log.processStream
  induction logged with
  | nil => exact .nil
  | cons first rest ih => exact .message (first.holds plain) ih

def orderBytes : Bytes :=
  Encode.piped "8=FIX.4.4|9=20|35=D|49=I|56=A|11=1|10=147|"

def loggedOrder : Bytes := ascii "[10:00:00] [info] " ++ orderBytes

theorem reads_logged_order :
    (processStream everything (Report.terminated [loggedOrder])).map State.book =
      some (bookOf everything [Encode.decodedFrom orderBytes]) :=
  @reads_logged everything Pipeline.passing rfl _ _
    (.cons
      { oneLine := by decide +kernel
        received := ⟨orderBytes, by decide +kernel, by decide +kernel, by decide +kernel⟩
        written := ⟨ascii "[10:00:00] [info] ", orderBytes, by decide +kernel, rfl, by decide +kernel⟩ }
      .nil)

end Fixcat

end Crocofix

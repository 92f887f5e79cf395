/-
The tables that fixcat prints.

A line of the input holds no newline, so that no value in the order book does.  A table
has one straight line for each order, whatever the messages were.
-/

import Crocofix.Fixcat.Log
import Crocofix.OrderBook.Values
import Crocofix.Spelled

namespace Crocofix

open Numeral

/-! ### The values of a message -/

namespace Decode

variable {dictionary : OrchestrationFieldCollection}

theorem mem_of_nextField {fields : FieldCollection} {seen rest : Bytes} {field : Field}
    {size : Nat} (decoded : nextField dictionary fields seen rest = .decoded field size) :
    ∀ byte ∈ field.value, byte ∈ rest := by
  obtain ⟨text, -, bytes⟩ := Encode.complete_of_nextField decoded
  intro byte member
  apply List.mem_of_mem_take (i := size)
  rw [bytes]
  unfold Encode.Spelled.bytes
  simp [member]

theorem loop_values {buffer : Bytes} (fuel : Nat) {cursor : Cursor}
    (before : ∀ field ∈ cursor.fields, ∀ byte ∈ field.value, byte ∈ buffer) :
    ∀ field ∈ (loop dictionary buffer fuel cursor).2.fields,
      ∀ byte ∈ field.value, byte ∈ buffer := by
  induction fuel generalizing cursor with
  | zero => exact before
  | succ fuel ih =>
      unfold loop
      split
      · exact before
      · cases next : nextField dictionary cursor.fields (buffer.take cursor.current)
          (buffer.drop cursor.current) with
        | wait => exact before
        | fault fault => exact before
        | decoded field size =>
            have stored : ∀ other ∈ cursor.fields ++ [field],
                ∀ byte ∈ other.value, byte ∈ buffer := by
              rw [List.forall_mem_append, List.forall_mem_singleton]
              exact ⟨before, fun byte member =>
                List.mem_of_mem_drop (mem_of_nextField next byte member)⟩
            simp only
            split
            · exact stored
            · exact ih stored

theorem decode_values (dictionary : OrchestrationFieldCollection) (buffer : Bytes) :
    ∀ field ∈ (Message.empty.decode dictionary buffer).2.fields,
      ∀ byte ∈ field.value, byte ∈ buffer := by
  have values := @loop_values dictionary buffer buffer.length ⟨[], 0, 0⟩
    fun field member => absurd member List.not_mem_nil
  revert values
  unfold Message.decode
  change (∀ field ∈ (loop dictionary buffer buffer.length
    ⟨Message.empty.fields, 0, 0⟩).2.fields, _) → _
  generalize loop dictionary buffer buffer.length ⟨Message.empty.fields, 0, 0⟩ = result
  rcases result with ⟨fault | complete, cursor⟩
  · exact id
  · exact id

end Decode

namespace Fixcat

theorem values_of_logged {dictionary : OrchestrationFieldCollection} {lines : List Bytes}
    {messages : List Message} (oneLine : ∀ line ∈ lines, newline ∉ line)
    (found : logged dictionary lines = some messages) :
    ∀ message ∈ messages, ∀ field ∈ message.fields, newline ∉ field.value := by
  induction lines generalizing messages with
  | nil =>
      injection found with same
      rw [← same]
      intro message member
      cases member
  | cons line rest ih =>
      obtain ⟨here, later⟩ := List.forall_mem_cons.mp oneLine
      unfold logged at found
      cases line' : read dictionary line with
      | undefined =>
          rw [line'] at found
          cases found
      | nothing =>
          rw [line'] at found
          exact ih later found
      | found message =>
          rw [line'] at found
          obtain ⟨more, others, rfl⟩ := Option.map_eq_some_iff.mp found
          refine List.forall_mem_cons.mpr ⟨?_, ih later others⟩
          unfold read at line'
          split at line'
          · cases line'
          · next text searched =>
            split at line'
            · cases line'
            · cases line'
            · next result decoded called =>
              injection line' with same
              intro field member inside
              rw [← same] at member
              have values := Decode.decode_values dictionary text
              rw [called] at values
              exact here ((Line.suffix_of_search searched).subset
                (values field member newline inside))

end Fixcat

/-! ### The cells and the rows -/

namespace OrderReport

theorem newline_not_mem_named {field : TypedField} {value : Bytes}
    (names : ∀ one ∈ field.values, newline ∉ one.name) (plain : newline ∉ value) :
    newline ∉ named field value := by
  unfold named
  split
  · exact plain
  · unfold DictionaryField.nameOfValue
    split
    · next one found => exact names one (List.mem_of_find?_eq_some found)
    · exact List.not_mem_nil

theorem newline_not_mem_cell {order : Order} {field : TypedField}
    (values : order.Values fun value => newline ∉ value)
    (names : ∀ one ∈ field.values, newline ∉ one.name) : newline ∉ cell order field := by
  have reported : newline ∉
      ((order.fields.tryGet field.tag).getD ⟨field.tag, []⟩).value := by
    cases found : order.fields.tryGet field.tag with
    | none => exact List.not_mem_nil
    | some one => exact values.fields one (List.mem_of_find?_eq_some found)
  have shown := newline_not_mem_named names reported
  unfold cell
  simp only
  split
  · exact shown
  · next pending found =>
    have asked := newline_not_mem_named names
      (values.pendingFields pending (List.mem_of_find?_eq_some found))
    split
    · simp only [List.mem_append, not_or]
      exact ⟨⟨⟨shown, by decide⟩, asked⟩, by decide⟩
    · exact shown

theorem ordered_spec (book : OrderBook) :
    (ordered book).Pairwise (fun left right => left.1 < right.1) ∧
      ∀ key order, ⟨key, order⟩ ∈ ordered book ↔ book.orders.lookup key = some order := by
  have permuted : (ordered book).Perm book.orders.entries := List.mergeSort_perm _ _
  have keys : (ordered book).NodupKeys :=
    (List.perm_nodupKeys permuted).mpr book.orders.nodupKeys
  have sorted : (ordered book).Pairwise fun left right => left.1 ≤ right.1 := by
    have merged := @List.pairwise_mergeSort (Sigma fun _ : Bytes => Order)
      (fun left right => decide (left.1 ≤ right.1))
      (fun first second third one two => decide_eq_true
        (List.le_trans (of_decide_eq_true one) (of_decide_eq_true two)))
      (fun first second => by
        rw [Bool.or_eq_true, decide_eq_true_eq, decide_eq_true_eq]
        exact List.le_total first.1 second.1) book.orders.entries
    exact merged.imp of_decide_eq_true
  constructor
  · exact (sorted.and (List.nodupKeys_iff_pairwise.mp keys)).imp fun both =>
      (List.le_iff_lt_or_eq.mp both.1).resolve_right both.2
  · intro key order
    rw [permuted.mem_iff, ← AList.mem_lookup_iff]
    rfl

/-- The columns have names, and no name in them ends a line. -/
structure Titled (orderReport : OrderReport) : Prop where
  columns : orderReport.fields ≠ []
  names : ∀ field ∈ orderReport.fields,
    ∃ byte ∈ field.name, byte ∉ Report.lineBreaks
  valueNames : ∀ field ∈ orderReport.fields, ∀ one ∈ field.values, newline ∉ one.name

theorem printable_table {orderReport : OrderReport} (titled : Titled orderReport)
    {book : OrderBook} (values : book.Values fun value => newline ∉ value) :
    Report.Printable (orderReport.table book) where
  columns := by
    unfold table columns
    simpa using titled.columns
  names := by
    intro column member
    obtain ⟨field, inside, rfl⟩ := List.mem_map.mp member
    exact titled.names field inside
  cells := by
    intro row member cell inside
    obtain ⟨⟨key, order⟩, ordered, rfl⟩ := List.mem_map.mp member
    obtain ⟨field, shown, rfl⟩ := List.mem_map.mp inside
    exact newline_not_mem_cell (values key order (((ordered_spec book).2 key order).mp ordered))
      (titled.valueNames field shown)

end OrderReport

namespace Fixcat

theorem values_of_processStream {options : Options} {stream : Bytes} {after : State}
    (ended : processStream options stream = some after) :
    after.book.Values fun value => newline ∉ value := by
  have run := @processLines_follows options options.orderReport .initial ⟨rfl, rfl⟩
    (Line.lines newline stream)
  unfold processStream at ended
  cases found : logged options.dictionary (Line.lines newline stream) with
  | none =>
      rw [found, ended] at run
      cases run
  | some messages =>
      rw [found, ended] at run
      obtain ⟨_, same, follows⟩ := run
      rw [Option.some.inj same, follows.book, foldl_bookBehind found]
      split
      · exact OrderBook.values_processAll (by decide)
          (values_of_logged (Line.separator_not_mem stream) found)
      · intro key order inside
        cases inside

/-- The table of a book that the lines of a log have led to: straight lines, one for each
order, in the order of the keys. -/
theorem table_layout {options : Options} {stream : Bytes} {after : State}
    (ended : processStream options stream = some after)
    (titled : options.orderReport.Titled)
    (small : (options.orderReport.table after.book).naturalTotal < 2147483648) :
    Report.Layout after.out (options.orderReport.table after.book)
        (options.orderReport.table after.book).lines ∧
      (options.orderReport.table after.book).rows =
        (OrderReport.ordered after.book).map (fun entry =>
          options.orderReport.fields.map (OrderReport.cell entry.2)) ∧
      (OrderReport.ordered after.book).Pairwise (fun left right => left.1 < right.1) ∧
      ∀ key order, ⟨key, order⟩ ∈ OrderReport.ordered after.book ↔
        after.book.orders.lookup key = some order := by
  have printable := OrderReport.printable_table titled (values_of_processStream ended)
  obtain ⟨sorted, every⟩ := OrderReport.ordered_spec after.book
  exact ⟨Report.layout_of_small after.out printable small, rfl, sorted, every⟩

def clOrdID : TypedField :=
  ⟨⟨⟨Tag.ClOrdID, false⟩, ascii "ClOrdID", []⟩, ascii "String"⟩

def clOrdIDs : Options :=
  { everything with fields := some [clOrdID] }

theorem holds_loggedOrder :
    Holds clOrdIDs.dictionary loggedOrder (Encode.decodedFrom orderBytes) :=
  ⟨by decide +kernel, ascii "[10:00:00] [info] ", orderBytes, [], by decide +kernel,
    by decide +kernel, by decide +kernel, by decide +kernel⟩

theorem table_layout_order :
    ∃ after, processStream clOrdIDs (Report.terminated [loggedOrder]) = some after ∧
      Report.Layout after.out (clOrdIDs.orderReport.table after.book)
        (clOrdIDs.orderReport.table after.book).lines := by
  have run := (Log.message holds_loggedOrder .nil).processStream
  obtain ⟨after, ended, book⟩ := Option.map_eq_some_iff.mp run
  have titled : clOrdIDs.orderReport.Titled :=
    ⟨by decide, by decide, by decide⟩
  have entries : ∃ order : Order,
      (bookOf clOrdIDs [Encode.decodedFrom orderBytes]).orders.entries =
        [⟨ascii "I-A-1", order⟩] ∧ OrderReport.cell order
          clOrdID = ascii "1" :=
    ⟨(Order.create (Encode.decodedFrom orderBytes)).toOption.get (by decide +kernel),
      by decide +kernel, by decide +kernel⟩
  have small : (clOrdIDs.orderReport.table after.book).naturalTotal < 2147483648 := by
    obtain ⟨order, one, shown⟩ := entries
    have ordered : OrderReport.ordered after.book = [⟨ascii "I-A-1", order⟩] := by
      unfold OrderReport.ordered
      rw [book, one, List.mergeSort_singleton]
    have table : clOrdIDs.orderReport.table after.book =
        ⟨[⟨ascii "ClOrdID", .left⟩], [[ascii "1"]]⟩ := by
      unfold OrderReport.table
      rw [ordered, ← shown]
      rfl
    rw [table]
    decide +kernel
  exact ⟨after, ended, (table_layout ended titled small).1⟩

end Fixcat

end Crocofix

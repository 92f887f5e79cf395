/-
What is written for a report.

Every loop over the columns writes one line of cells, whatever the widths are.
The index arithmetic of the header never leaves the lines of a name.
-/

import Crocofix.Report

namespace Crocofix

open Numeral

namespace Report

open Ostream (padded)

/-! ### Cells -/

def join (cells : List Bytes) : Bytes := List.intercalate [blank, blank] cells

theorem join_cons_cons (first second : Bytes) (rest : List Bytes) :
    join (first :: second :: rest) = first ++ [blank, blank] ++ join (second :: rest) :=
  List.intercalate_cons_cons

theorem length_join {cells : List Bytes} (some : cells ≠ []) :
    (join cells).length = (cells.map List.length).sum + (cells.length - 1) * 2 := by
  induction cells with
  | nil => exact absurd rfl some
  | cons cell rest ih =>
      cases rest with
      | nil => simp [join]
      | cons second rest =>
          have later := ih (List.cons_ne_nil _ _)
          rw [join_cons_cons, List.length_append, List.length_append, later]
          simp only [List.map_cons, List.sum_cons, List.length_cons, List.length_nil]
          omega

theorem not_mem_join {byte : UInt8} (notBlank : byte ≠ blank) {cells : List Bytes}
    (plain : ∀ cell ∈ cells, byte ∉ cell) : byte ∉ join cells := by
  induction cells with
  | nil => exact List.not_mem_nil
  | cons cell rest ih =>
      obtain ⟨here, later⟩ := List.forall_mem_cons.mp plain
      cases rest with
      | nil =>
          rw [join, List.intercalate_singleton]
          exact here
      | cons second rest =>
          rw [join_cons_cons, List.mem_append, List.mem_append, not_or, not_or]
          refine ⟨⟨here, ?_⟩, ih later⟩
          simpa using notBlank

theorem length_padded (left : Bool) (width : Int) (fill : UInt8) (text : Bytes) :
    (padded left width fill text).length = max width.toNat text.length := by
  unfold padded
  cases left with
  | false =>
      rw [if_neg Bool.false_ne_true, List.length_append, List.length_replicate]
      omega
  | true =>
      rw [if_pos rfl, List.length_append, List.length_replicate]
      omega

theorem not_mem_padded {byte fill : UInt8} (left : Bool) (width : Int) {text : Bytes}
    (differs : byte ≠ fill) (plain : byte ∉ text) : byte ∉ padded left width fill text := by
  have padding : byte ∉ List.replicate (width - text.length).toNat fill :=
    fun member => differs (List.eq_of_mem_replicate member)
  unfold padded
  cases left with
  | false =>
      rw [if_neg Bool.false_ne_true, List.mem_append, not_or]
      exact ⟨padding, plain⟩
  | true =>
      rw [if_pos rfl, List.mem_append, not_or]
      exact ⟨plain, padding⟩

theorem padded_fill (left : Bool) (width : Int) (fill : UInt8) :
    padded left width fill [fill] = List.replicate (max 1 width.toNat) fill := by
  rw [List.eq_replicate_iff]
  constructor
  · rw [length_padded, List.length_singleton, Nat.max_comm]
  · intro byte member
    by_contra differs
    exact not_mem_padded left width differs
      (fun inside => differs (List.mem_singleton.mp inside)) member

/-! ### What is written -/

def cell (column : Column) (width : Int) (text : Bytes) : Bytes :=
  padded (column.justification = .left) width blank text

theorem adjust_eq_left (justification : Justification) :
    (justification.adjust = .left) = (justification = .left) := by
  cases justification with
  | left => simp [Justification.adjust]
  | right => simp [Justification.adjust]

/-- The stream once it has written the text, ready for the next one. -/
structure Appends (before after : Ostream) (text : Bytes) : Prop where
  written : after.written = before.written ++ text
  fill : after.fill = blank
  width : after.width = 0

theorem Appends.trans {first second third : Ostream} {front back : Bytes}
    (one : Appends first second front) (other : Appends second third back) :
    Appends first third (front ++ back) :=
  ⟨by rw [other.written, one.written, List.append_assoc], other.fill, other.width⟩

theorem padded_zero (left : Bool) (fill : UInt8) (text : Bytes) :
    padded left 0 fill text = text := by
  have none : ((0 : Int) - text.length).toNat = 0 := by omega
  simp only [padded, none, List.replicate_zero, List.append_nil, List.nil_append,
    ite_self]

theorem appends_insert {before stream : Ostream} {front : Bytes}
    (appends : Appends before stream front) (text : Bytes) :
    Appends before (stream.insert text) (front ++ text) := by
  refine ⟨?_, appends.fill, rfl⟩
  change stream.written ++ padded _ stream.width _ text = _
  rw [appends.width, padded_zero, appends.written, List.append_assoc]

theorem appends_cell {stream : Ostream} (fill : stream.fill = blank) (column : Column)
    (width : Int32) (text : Bytes) :
    Appends stream (((stream.setf column.justification.adjust).setw width).insert text)
      (cell column width.toInt text) := by
  refine ⟨?_, fill, rfl⟩
  change stream.written ++ padded (decide (column.justification.adjust = .left))
    width.toInt stream.fill text = _
  rw [fill]
  unfold cell
  simp only [adjust_eq_left]

def cellsOf (report : Report) (text : Column → Nat → Bytes)
    (columns : List (Column × Nat)) : List Bytes :=
  columns.map fun column =>
    cell column.1 (report.columnWidth column.1 column.2).toInt (text column.1 column.2)

theorem writeCells_eq {report : Report} {value : Column → Nat → Option Bytes}
    {text : Column → Nat → Bytes} {columns : List Column} {index : Nat} {stream : Ostream}
    (fill : stream.fill = blank)
    (width : columns = [] → stream.width = 0)
    (last : index + columns.length = report.columns.length)
    (values : ∀ column ∈ columns.zipIdx index,
      value column.1 column.2 = some (text column.1 column.2)) :
    ∃ after, report.writeCells value columns index stream = some after ∧
      Appends stream after (join (report.cellsOf text (columns.zipIdx index))) := by
  induction columns generalizing index stream with
  | nil => exact ⟨stream, rfl, by simp [cellsOf, join], fill, width rfl⟩
  | cons column rest ih =>
      rw [List.zipIdx_cons, List.forall_mem_cons] at values
      rw [List.length_cons] at last
      have here := appends_cell fill column (report.columnWidth column index)
        (text column index)
      unfold writeCells
      rw [values.1]
      simp only
      cases rest with
      | nil =>
          rw [List.length_nil] at last
          rw [if_neg (by omega)]
          refine ⟨_, rfl, ?_⟩
          simpa [cellsOf, join] using here
      | cons second rest =>
          rw [List.length_cons] at last
          rw [if_pos (by omega)]
          have apart := appends_insert here [blank, blank]
          obtain ⟨after, run, later⟩ := ih apart.fill (fun none => absurd none (by simp))
            (by rw [List.length_cons]; omega) values.2
          refine ⟨after, run, ?_⟩
          have both := apart.trans later
          rw [List.zipIdx_cons] at both ⊢
          rw [List.zipIdx_cons]
          unfold cellsOf at both ⊢
          rw [List.map_cons, List.map_cons, join_cons_cons]
          rwa [List.map_cons] at both

theorem writeLine_eq {report : Report} {value : Column → Nat → Option Bytes}
    {text : Column → Nat → Bytes} {stream : Ostream} (fill : stream.fill = blank)
    (width : stream.width = 0)
    (values : ∀ column ∈ report.columns.zipIdx,
      value column.1 column.2 = some (text column.1 column.2)) :
    ∃ after, report.writeLine value stream = some after ∧
      Appends stream after
        (join (report.cellsOf text report.columns.zipIdx) ++ [newline]) := by
  obtain ⟨after, run, appends⟩ :=
    writeCells_eq fill (fun _ => width) (Nat.zero_add _) values
  refine ⟨after.insert [newline], ?_, appends_insert appends [newline]⟩
  unfold writeLine
  rw [run]
  rfl

def terminated (lines : List Bytes) : Bytes := lines.flatMap fun line => line ++ [newline]

theorem writeLines_eq {α : Type} {report : Report}
    {value : α → Column → Nat → Option Bytes} {text : α → Column → Nat → Bytes}
    {lines : List α} {stream : Ostream} (fill : stream.fill = blank)
    (width : stream.width = 0)
    (values : ∀ line ∈ lines, ∀ column ∈ report.columns.zipIdx,
      value line column.1 column.2 = some (text line column.1 column.2)) :
    ∃ after, report.writeLines value lines stream = some after ∧
      Appends stream after (terminated (lines.map fun line =>
        join (report.cellsOf (text line) report.columns.zipIdx))) := by
  induction lines generalizing stream with
  | nil => exact ⟨stream, rfl, by simp [terminated], fill, width⟩
  | cons line rest ih =>
      rw [List.forall_mem_cons] at values
      obtain ⟨next, first, here⟩ := writeLine_eq fill width values.1
      obtain ⟨after, run, later⟩ := ih here.fill here.width values.2
      refine ⟨after, ?_, here.trans later⟩
      unfold writeLines
      rw [first]
      exact run

def separator (report : Report) : Bytes :=
  List.replicate (max 1 report.totalWidth.toInt.toNat) dash

theorem appends_separator (report : Report) (stream : Ostream) :
    Appends stream (((report.writeSeparator stream).setfill blank).insert [newline])
      (report.separator ++ [newline]) := by
  have rule : Appends stream ((report.writeSeparator stream).setfill blank)
      report.separator := by
    refine ⟨?_, rfl, rfl⟩
    change stream.written ++ padded _ _ dash [dash] = _
    rw [padded_fill]
    rfl
  exact appends_insert rule [newline]

/-! ### The header -/

/-- The lines of a name, at the bottom of a header with that many lines. -/
def headings (headerRows : Nat) (column : Column) : List Bytes :=
  List.replicate (headerRows - column.name.length) [blank] ++ column.name

theorem headings_getElem? (headerRows : Nat) {line : Nat} {column : Column} {text : Bytes}
    (here : column.name[line]? = some text) :
    (headings headerRows column)[headerRows - column.name.length + line]? = some text := by
  unfold headings
  rw [List.getElem?_append_right (by rw [List.length_replicate]; omega),
    List.length_replicate, Nat.add_sub_cancel_left, here]

theorem mem_headings {headerRows : Nat} {column : Column} {text : Bytes}
    (member : text ∈ headings headerRows column) : text = [blank] ∨ text ∈ column.name := by
  rcases List.mem_append.mp member with padding | inside
  · exact .inl (List.eq_of_mem_replicate padding)
  · exact .inr inside

theorem sizeSub_of_le {left right : Nat} (within : right ≤ left) :
    sizeSub left right = left - right := if_pos within

/-- The index arithmetic stays inside the names. -/
theorem headerValue_eq {headerRows headerIndex : Nat} {column : Column}
    (tallest : column.name.length ≤ headerRows) (inside : headerIndex < headerRows) :
    headerValue headerRows headerIndex column =
      some ((headings headerRows column)[headerIndex]?.getD []) := by
  have length : (headings headerRows column).length = headerRows := by
    unfold headings
    rw [List.length_append, List.length_replicate]
    omega
  have present : ∃ text, (headings headerRows column)[headerIndex]? = some text :=
    ⟨_, List.getElem?_eq_getElem (by omega)⟩
  have same : headerValue headerRows headerIndex column =
      (headings headerRows column)[headerIndex]? := by
    unfold headerValue headings
    by_cases full : column.name.length = headerRows
    · rw [if_pos full, full, Nat.sub_self, List.replicate_zero, List.nil_append]
    · rw [if_neg full, sizeSub_of_le (Nat.le_of_lt inside), sizeSub_of_le tallest]
      by_cases below : headerRows - headerIndex ≤ column.name.length
      · have reached : headerRows - column.name.length ≤ headerIndex := by omega
        rw [if_pos below, sizeSub_of_le reached, List.getElem?_append_right
          (by rw [List.length_replicate]; exact reached), List.length_replicate]
      · rw [if_neg below, List.getElem?_append_left (by rw [List.length_replicate]; omega),
          List.getElem?_replicate, if_pos (by omega)]
  obtain ⟨text, found⟩ := present
  rw [same, found]
  rfl

theorem name_length_le {report : Report} {column : Column}
    (member : column ∈ report.columns) : column.name.length ≤ report.columnHeaderRows := by
  have grows (columns : List Column) (rows : Nat) :
      rows ≤ columns.foldl (fun rows column => max rows column.name.length) rows ∧
        ∀ column ∈ columns, column.name.length ≤
          columns.foldl (fun rows column => max rows column.name.length) rows := by
    induction columns generalizing rows with
    | nil => exact ⟨Nat.le_refl _, fun _ member => absurd member List.not_mem_nil⟩
    | cons first rest ih =>
        obtain ⟨start, later⟩ := ih (max rows first.name.length)
        rw [List.foldl_cons]
        exact ⟨by omega, List.forall_mem_cons.mpr ⟨by omega, later⟩⟩
  exact (grows report.columns 0).2 column member

/-! ### All lines -/

def headingText (report : Report) (headerIndex : Nat) (column : Column) (_ : Nat) : Bytes :=
  (headings report.columnHeaderRows column)[headerIndex]?.getD []

def headerLine (report : Report) (headerIndex : Nat) : Bytes :=
  join (report.cellsOf (report.headingText headerIndex) report.columns.zipIdx)

def rowLine (report : Report) (row : List Bytes) : Bytes :=
  join (report.cellsOf (fun _ index => rowValue row index) report.columns.zipIdx)

def lines (report : Report) : List Bytes :=
  report.separator :: ((List.range report.columnHeaderRows).map report.headerLine ++
    report.separator :: (report.rows.map report.rowLine ++ [report.separator]))

theorem writeHeader_eq (report : Report) {stream : Ostream}
    (fill : stream.fill = blank) (width : stream.width = 0) :
    ∃ after, report.writeLines
        (fun headerIndex column _ => headerValue report.columnHeaderRows headerIndex column)
        (List.range report.columnHeaderRows) stream = some after ∧
      Appends stream after
        (terminated ((List.range report.columnHeaderRows).map report.headerLine)) := by
  apply writeLines_eq fill width
  intro headerIndex inside column member
  exact headerValue_eq (name_length_le (List.fst_mem_of_mem_zipIdx member))
    (List.mem_range.mp inside)

theorem writeRows_eq (report : Report) {stream : Ostream}
    (fill : stream.fill = blank) (width : stream.width = 0) :
    ∃ after, report.writeLines (fun row _ index => some (rowValue row index)) report.rows
        stream = some after ∧
      Appends stream after (terminated (report.rows.map report.rowLine)) := by
  apply writeLines_eq fill width
  intro row inside column member
  rfl

/-- No name is indexed outside its lines, and what is written are the lines. -/
theorem write_eq (stream : Ostream) (report : Report) :
    ∃ after, write stream report = some after ∧
      after.written = stream.written ++ terminated report.lines := by
  have opened := report.appends_separator stream
  obtain ⟨headed, header, headers⟩ := report.writeHeader_eq opened.fill opened.width
  have divided := report.appends_separator headed
  obtain ⟨filled, rows, bodies⟩ := report.writeRows_eq divided.fill divided.width
  have closed := report.appends_separator filled
  have whole := opened.trans (headers.trans (divided.trans (bodies.trans closed)))
  refine ⟨((((report.writeSeparator filled).insert [newline]).setfill blank).setf
    stream.adjust), ?_, ?_⟩
  · unfold write
    simp only [header]
    have again : (((report.writeSeparator headed).setfill blank).insert
        [newline]).setfill blank =
        ((report.writeSeparator headed).setfill blank).insert [newline] := rfl
    simp only [again, rows]
  · have ended : (((report.writeSeparator filled).insert [newline]).setfill blank).written =
        (((report.writeSeparator filled).setfill blank).insert [newline]).written := by
      change _ ++ padded _ 0 _ [newline] = _ ++ padded _ 0 _ [newline]
      rw [padded_zero, padded_zero]
      rfl
    change (((report.writeSeparator filled).insert [newline]).setfill blank).written = _
    rw [ended, whole.written]
    congr 1
    simp [terminated, lines]

end Report

end Crocofix

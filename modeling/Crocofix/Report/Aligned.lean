/-
The shape of a report.

Every line has as many bytes as the widths of the columns have together, with two
blanks between them, exactly if this number fits an `int`: the separators are
never longer than the largest `int`.
-/

import Crocofix.Report.Written
import Mathlib.Algebra.Order.BigOperators.Group.List

namespace Crocofix

open Numeral

namespace Report

open Ostream (padded)

/-! ### The longest of its texts -/

def columnTexts (report : Report) (column : Column) (index : Nat) : List Bytes :=
  column.name ++ report.rows.filterMap fun row => row[index]?

def naturalWidth (report : Report) (column : Column) (index : Nat) : Nat :=
  ((report.columnTexts column index).map List.length).foldl max 0

def naturalWidths (report : Report) : List Nat :=
  report.columns.zipIdx.map fun column => report.naturalWidth column.1 column.2

/-- The widths of the columns, and two blanks between them. -/
def naturalTotal (report : Report) : Nat :=
  report.naturalWidths.sum + (report.columns.length - 1) * 2

theorem le_foldl_max {value : Nat} (values : List Nat) (start : Nat)
    (here : value ≤ start ∨ value ∈ values) : value ≤ values.foldl max start := by
  induction values generalizing start with
  | nil =>
      rcases here with below | member
      · exact below
      · cases member
  | cons first rest ih =>
      rw [List.foldl_cons]
      apply ih
      rcases here with below | member
      · exact .inl (Nat.le_trans below (Nat.le_max_left _ _))
      · rcases List.mem_cons.mp member with rfl | later
        · exact .inl (Nat.le_max_right _ _)
        · exact .inr later

theorem length_le_naturalWidth {report : Report} {column : Column} {index : Nat}
    {text : Bytes} (member : text ∈ report.columnTexts column index) :
    text.length ≤ report.naturalWidth column index :=
  le_foldl_max _ 0 (.inr (List.mem_map_of_mem member))

theorem name_le_naturalWidth {report : Report} {column : Column} (index : Nat)
    {text : Bytes} (member : text ∈ column.name) :
    text.length ≤ report.naturalWidth column index :=
  length_le_naturalWidth (List.mem_append_left _ member)

theorem rowValue_le_naturalWidth {report : Report} (column : Column) (index : Nat)
    {row : List Bytes} (member : row ∈ report.rows) :
    (rowValue row index).length ≤ report.naturalWidth column index := by
  unfold rowValue
  cases found : row[index]? with
  | none => exact Nat.zero_le _
  | some cell =>
      exact length_le_naturalWidth
        (List.mem_append_right _ (List.mem_filterMap.mpr ⟨row, member, found⟩))

/-! ### The widths that are computed -/

theorem toInt_widen {size : Int32} {text : Bytes} (small : text.length < 2147483648) :
    (widen size text).toInt = max size.toInt text.length := by
  have length : (Int32.ofNat text.length).toInt = text.length :=
    Int32.toInt_ofNat_of_lt small
  unfold widen
  split
  · next less =>
      rw [Int32.lt_iff_toInt_lt, length] at less
      rw [length]
      omega
  · next notLess =>
      rw [Int32.lt_iff_toInt_lt, length] at notLess
      omega

theorem toInt_foldl_widen {texts : List Bytes} {size : Int32} {start : Nat}
    (same : size.toInt = start) (small : ∀ text ∈ texts, text.length < 2147483648) :
    (texts.foldl widen size).toInt = ((texts.map List.length).foldl max start : Nat) := by
  induction texts generalizing size start with
  | nil => exact same
  | cons text rest ih =>
      rw [List.forall_mem_cons] at small
      rw [List.foldl_cons, List.map_cons, List.foldl_cons]
      apply ih _ small.2
      rw [toInt_widen small.1, same]
      omega

theorem columnWidth_eq (report : Report) (column : Column) (index : Nat) :
    report.columnWidth column index = (report.columnTexts column index).foldl widen 0 := by
  unfold columnWidth columnTexts
  rw [List.foldl_append, List.foldl_filterMap]
  congr 1
  funext size row
  cases row[index]? with
  | none => rfl
  | some cell => rfl

theorem toInt_columnWidth {report : Report} {column : Column} {index : Nat}
    (small : report.naturalWidth column index < 2147483648) :
    (report.columnWidth column index).toInt = report.naturalWidth column index := by
  rw [columnWidth_eq]
  apply toInt_foldl_widen rfl
  intro text member
  exact Nat.lt_of_le_of_lt (length_le_naturalWidth member) small

theorem toNat_foldl_add {widths : List Int32} {sum : UInt64}
    (nonnegative : ∀ width ∈ widths, 0 ≤ width.toInt)
    (small : sum.toNat + (widths.map fun width => width.toInt.toNat).sum <
      18446744073709551616) :
    (widths.foldl (fun sum width => sum + UInt64.ofInt width.toInt) sum).toNat =
      sum.toNat + (widths.map fun width => width.toInt.toNat).sum := by
  induction widths generalizing sum with
  | nil => simp
  | cons width rest ih =>
      rw [List.forall_mem_cons] at nonnegative
      rw [List.map_cons, List.sum_cons] at small ⊢
      have added : (sum + UInt64.ofInt width.toInt).toNat = sum.toNat + width.toInt.toNat := by
        have nonneg := nonnegative.1
        rw [UInt64.toNat_add, UInt64.ofInt, UInt64.toNat_ofNat']
        omega
      rw [List.foldl_cons, ih nonnegative.2 (by rw [added]; omega), added]
      omega

theorem naturalWidth_le_total {report : Report} {column : Column × Nat}
    (member : column ∈ report.columns.zipIdx) :
    report.naturalWidth column.1 column.2 ≤ report.naturalTotal := by
  have inside : report.naturalWidth column.1 column.2 ∈ report.naturalWidths :=
    List.mem_map_of_mem (f := fun column => report.naturalWidth column.1 column.2) member
  have part := List.le_sum_of_mem inside
  unfold naturalTotal
  omega

theorem toInt_totalWidth {report : Report} (nonempty : report.columns ≠ [])
    (small : report.naturalTotal < 2147483648) :
    report.totalWidth.toInt = report.naturalTotal := by
  have widths : report.columnWidths.map (fun width => width.toInt.toNat) =
      report.naturalWidths := by
    unfold columnWidths naturalWidths
    rw [List.map_map]
    apply List.map_congr_left
    intro column member
    have below := naturalWidth_le_total member
    simp only [Function.comp_apply]
    rw [toInt_columnWidth (by omega), Int.toNat_natCast]
  have nonnegative : ∀ width ∈ report.columnWidths, 0 ≤ width.toInt := by
    intro width member
    obtain ⟨column, inside, rfl⟩ := List.mem_map.mp member
    have below := naturalWidth_le_total inside
    rw [toInt_columnWidth (by omega)]
    omega
  have length : report.columnWidths.length = report.columns.length := by
    rw [columnWidths, List.length_map, List.length_zipIdx]
  have some : report.columnWidths ≠ [] := by
    intro empty
    rw [empty] at length
    exact nonempty (List.length_eq_zero_iff.mp length.symm)
  unfold naturalTotal at small ⊢
  unfold totalWidth
  rw [if_neg some, toNat_foldl_add nonnegative, widths, length]
  · rw [UInt64.toNat_ofNat', Int32.toInt_ofNat_of_lt (by omega)]
    omega
  · rw [widths, length, UInt64.toNat_ofNat']
    omega

/-! ### Lines of cells -/

/-- A report with columns, all of which have names, and without a newline in its
cells. -/
structure Printable (report : Report) : Prop where
  columns : report.columns ≠ []
  names : ∀ column ∈ report.columns, ∃ byte ∈ column.rawName, byte ∉ lineBreaks
  cells : ∀ row ∈ report.rows, ∀ cell ∈ row, newline ∉ cell

/-- The line has a cell for each column, and the one of this column shows the whole
text. -/
def Shows (report : Report) (line : Bytes) (index : Nat) (column : Column)
    (text : Bytes) : Prop :=
  ∃ cells, line = join cells ∧ cells.map List.length = report.naturalWidths ∧
    text.length ≤ report.naturalWidth column index ∧
    cells[index]? = some (cell column (report.naturalWidth column index) text)

theorem Printable.positive {report : Report} (printable : Printable report)
    {column : Column} (member : column ∈ report.columns) (index : Nat) :
    0 < report.naturalWidth column index := by
  obtain ⟨byte, inside, plain⟩ := printable.names column member
  obtain ⟨token, found, holds⟩ := exists_mem_split plain false inside
  exact Nat.lt_of_lt_of_le (List.length_pos_of_mem holds)
    (name_le_naturalWidth index found)

section lines

variable {report : Report} {text : Column → Nat → Bytes}

theorem toInt_columnWidth_of_mem (small : report.naturalTotal < 2147483648)
    {column : Column × Nat} (member : column ∈ report.columns.zipIdx) :
    (report.columnWidth column.1 column.2).toInt =
      report.naturalWidth column.1 column.2 := by
  have below := naturalWidth_le_total member
  exact toInt_columnWidth (by omega)

theorem map_length_cellsOf (small : report.naturalTotal < 2147483648)
    (fits : ∀ column ∈ report.columns.zipIdx,
      (text column.1 column.2).length ≤ report.naturalWidth column.1 column.2) :
    (report.cellsOf text report.columns.zipIdx).map List.length =
      report.naturalWidths := by
  unfold cellsOf naturalWidths
  rw [List.map_map]
  apply List.map_congr_left
  intro column member
  have within := fits column member
  simp only [Function.comp_apply, cell]
  rw [length_padded, toInt_columnWidth_of_mem small member, Int.toNat_natCast]
  omega

theorem length_line (nonempty : report.columns ≠ [])
    (small : report.naturalTotal < 2147483648)
    (fits : ∀ column ∈ report.columns.zipIdx,
      (text column.1 column.2).length ≤ report.naturalWidth column.1 column.2) :
    (join (report.cellsOf text report.columns.zipIdx)).length = report.naturalTotal := by
  have count : (report.cellsOf text report.columns.zipIdx).length =
      report.columns.length := by
    rw [cellsOf, List.length_map, List.length_zipIdx]
  have some : report.cellsOf text report.columns.zipIdx ≠ [] := by
    intro empty
    rw [empty] at count
    exact nonempty (List.length_eq_zero_iff.mp count.symm)
  rw [length_join some, map_length_cellsOf small fits, count]
  rfl

theorem newline_not_mem_line
    (plain : ∀ column ∈ report.columns.zipIdx, newline ∉ text column.1 column.2) :
    newline ∉ join (report.cellsOf text report.columns.zipIdx) := by
  apply not_mem_join (by decide)
  intro shown member
  obtain ⟨column, inside, rfl⟩ := List.mem_map.mp member
  exact not_mem_padded _ _ (by decide) (plain column inside)

theorem shows_line (small : report.naturalTotal < 2147483648)
    (fits : ∀ column ∈ report.columns.zipIdx,
      (text column.1 column.2).length ≤ report.naturalWidth column.1 column.2)
    {index : Nat} {column : Column} (here : report.columns[index]? = some column) :
    Shows report (join (report.cellsOf text report.columns.zipIdx)) index column
      (text column index) := by
  have member : (column, index) ∈ report.columns.zipIdx :=
    List.mk_mem_zipIdx_iff_getElem?.mpr here
  refine ⟨_, rfl, map_length_cellsOf small fits, fits _ member, ?_⟩
  rw [cellsOf, List.getElem?_map, List.getElem?_zipIdx, here]
  simp only [Option.map_some, Nat.zero_add, Option.some.injEq]
  rw [toInt_columnWidth_of_mem small member]

/-! ### Headings and rows -/

theorem heading_cases (headerIndex : Nat) (column : Column) (index : Nat) :
    report.headingText headerIndex column index = [] ∨
      report.headingText headerIndex column index = [blank] ∨
      report.headingText headerIndex column index ∈ column.name := by
  unfold headingText
  cases found : (headings report.columnHeaderRows column)[headerIndex]? with
  | none => exact .inl rfl
  | some shown => exact .inr (mem_headings (List.mem_of_getElem? found))

theorem Printable.heading_fits (printable : Printable report) (headerIndex : Nat) :
    ∀ column ∈ report.columns.zipIdx,
      (report.headingText headerIndex column.1 column.2).length ≤
        report.naturalWidth column.1 column.2 := by
  intro column member
  rcases heading_cases headerIndex column.1 column.2 with none | padding | inside
  · rw [none]
    exact Nat.zero_le _
  · rw [padding]
    exact printable.positive (List.fst_mem_of_mem_zipIdx member) column.2
  · exact name_le_naturalWidth column.2 inside

theorem heading_plain (headerIndex : Nat) :
    ∀ column ∈ report.columns.zipIdx,
      newline ∉ report.headingText headerIndex column.1 column.2 := by
  intro column member
  rcases heading_cases headerIndex column.1 column.2 with none | padding | inside
  · rw [none]
    exact List.not_mem_nil
  · rw [padding]
    decide
  · exact not_mem_of_mem_split (by decide) false column.1.rawName _ inside

theorem Printable.row_plain (printable : Printable report) {row : List Bytes}
    (member : row ∈ report.rows) (index : Nat) : newline ∉ rowValue row index := by
  unfold rowValue
  cases found : row[index]? with
  | none => exact List.not_mem_nil
  | some cell => exact printable.cells row member cell (List.mem_of_getElem? found)

theorem length_separator (printable : Printable report)
    (small : report.naturalTotal < 2147483648) :
    report.separator.length = report.naturalTotal := by
  obtain ⟨column, rest, columns⟩ := List.exists_cons_of_ne_nil printable.columns
  have member : (column, 0) ∈ report.columns.zipIdx := by
    rw [columns]
    exact List.mem_cons_self
  have positive : 0 < report.naturalWidth column 0 :=
    printable.positive (List.fst_mem_of_mem_zipIdx member) 0
  have below : report.naturalWidth column 0 ≤ report.naturalTotal :=
    naturalWidth_le_total member
  rw [separator, List.length_replicate, toInt_totalWidth printable.columns small,
    Int.toNat_natCast]
  omega

end lines

/-! ### The whole report -/

/-- The lines that are written: all of the same length, and every line of a name and
every cell in its place. -/
structure Layout (stream : Ostream) (report : Report) (lines : List Bytes) : Prop where
  writes : ∃ after, write stream report = some after ∧
    after.written = stream.written ++ terminated lines
  count : lines.length = report.columnHeaderRows + report.rows.length + 3
  straight : ∀ line ∈ lines, newline ∉ line ∧ line.length = report.naturalTotal
  widths : ∀ column index, report.columns[index]? = some column →
    (report.columnWidth column index).toInt = report.naturalWidth column index
  bottom : ∀ column index, report.columns[index]? = some column →
    ∀ number text, column.name[number]? = some text →
      ∃ line, lines[1 + (report.columnHeaderRows - column.name.length + number)]? =
        some line ∧ Shows report line index column text
  cells : ∀ column index, report.columns[index]? = some column →
    ∀ number row, report.rows[number]? = some row →
      ∃ line, lines[2 + report.columnHeaderRows + number]? = some line ∧
        Shows report line index column (rowValue row index)

def Aligned (stream : Ostream) (report : Report) : Prop :=
  ∃ lines, Layout stream report lines

theorem lines_header {report : Report} {headerIndex : Nat}
    (inside : headerIndex < report.columnHeaderRows) :
    report.lines[1 + headerIndex]? = some (report.headerLine headerIndex) := by
  unfold lines
  rw [Nat.add_comm, List.getElem?_cons_succ,
    List.getElem?_append_left (by rw [List.length_map, List.length_range]; exact inside),
    List.getElem?_map, List.getElem?_range inside]
  rfl

theorem lines_row {report : Report} {number : Nat} {row : List Bytes}
    (here : report.rows[number]? = some row) :
    report.lines[2 + report.columnHeaderRows + number]? = some (report.rowLine row) := by
  have inside := (List.getElem?_eq_some_iff.mp here).1
  have position : 2 + report.columnHeaderRows + number =
      report.columnHeaderRows + (number + 1) + 1 := by omega
  have header : ((List.range report.columnHeaderRows).map report.headerLine).length =
      report.columnHeaderRows := by rw [List.length_map, List.length_range]
  unfold lines
  rw [position, List.getElem?_cons_succ, List.getElem?_append_right (by omega), header,
    Nat.add_sub_cancel_left, List.getElem?_cons_succ,
    List.getElem?_append_left (by rw [List.length_map]; exact inside),
    List.getElem?_map, here]
  rfl

theorem straight_of_small {report : Report} (printable : Printable report)
    (small : report.naturalTotal < 2147483648) :
    ∀ line ∈ report.lines, newline ∉ line ∧ line.length = report.naturalTotal := by
  have separator : newline ∉ report.separator ∧
      report.separator.length = report.naturalTotal := by
    refine ⟨fun member => ?_, length_separator printable small⟩
    exact absurd (List.eq_of_mem_replicate member) (by decide)
  intro line member
  rcases List.mem_cons.mp member with rfl | member
  · exact separator
  · rcases List.mem_append.mp member with header | member
    · obtain ⟨headerIndex, -, rfl⟩ := List.mem_map.mp header
      exact ⟨newline_not_mem_line (heading_plain headerIndex),
        length_line printable.columns small (printable.heading_fits headerIndex)⟩
    · rcases List.mem_cons.mp member with rfl | member
      · exact separator
      · rcases List.mem_append.mp member with body | last
        · obtain ⟨row, inside, rfl⟩ := List.mem_map.mp body
          exact ⟨newline_not_mem_line fun column _ => printable.row_plain inside column.2,
            length_line printable.columns small fun column _ =>
              rowValue_le_naturalWidth column.1 column.2 inside⟩
        · rw [List.mem_singleton.mp last]
          exact separator

theorem layout_of_small {report : Report} (stream : Ostream)
    (printable : Printable report) (small : report.naturalTotal < 2147483648) :
    Layout stream report report.lines where
  writes := write_eq stream report
  count := by
    simp only [lines, List.length_cons, List.length_append, List.length_map,
      List.length_range, List.length_nil]
    omega
  straight := straight_of_small printable small
  widths := by
    intro column index here
    exact toInt_columnWidth_of_mem small (List.mk_mem_zipIdx_iff_getElem?.mpr here)
  bottom := by
    intro column index here number text named
    have tallest := name_length_le (List.mem_of_getElem? here)
    have inside := (List.getElem?_eq_some_iff.mp named).1
    refine ⟨_, lines_header (by omega), ?_⟩
    have shows := shows_line small (printable.heading_fits
      (report.columnHeaderRows - column.name.length + number)) here
    rwa [headingText, headings_getElem? report.columnHeaderRows named] at shows
  cells := by
    intro column index here number row present
    have fits : ∀ column ∈ report.columns.zipIdx,
        (rowValue row column.2).length ≤ report.naturalWidth column.1 column.2 :=
      fun column _ =>
        rowValue_le_naturalWidth column.1 column.2 (List.mem_of_getElem? present)
    exact ⟨report.rowLine row, lines_row present,
      @shows_line report (fun _ index => rowValue row index) small fits index column here⟩

/-- The first line is a separator, and that is not longer than an `int`. -/
theorem small_of_layout {stream : Ostream} {report : Report} {lines : List Bytes}
    (layout : Layout stream report lines) : report.naturalTotal < 2147483648 := by
  obtain ⟨after, run, written⟩ := layout.writes
  obtain ⟨again, rerun, rewritten⟩ := write_eq stream report
  rw [run] at rerun
  injection rerun with same
  rw [← same, written] at rewritten
  have texts := List.append_cancel_left rewritten
  cases shape : lines with
  | nil =>
      have count := layout.count
      rw [shape, List.length_nil] at count
      omega
  | cons first rest =>
      obtain ⟨plain, length⟩ := layout.straight first (by rw [shape]; exact List.mem_cons_self)
      have dashes : newline ∉ report.separator := fun member =>
        absurd (List.eq_of_mem_replicate member) (by decide)
      have ends {line more : Bytes} (absent : newline ∉ line) :
          (line ++ [newline] ++ more).idxOf newline = line.length := by
        rw [List.append_assoc, List.idxOf_append_of_notMem absent, List.singleton_append,
          List.idxOf_cons_self, Nat.add_zero]
      have position := congrArg (List.idxOf newline) texts
      rw [shape, terminated, terminated, Report.lines, List.flatMap_cons,
        List.flatMap_cons, ends plain, ends dashes, length, separator,
        List.length_replicate] at position
      have bound := report.totalWidth.toInt_lt
      omega

/-- A report is written as it should be exactly if the number of bytes in a line fits
an `int`. -/
theorem aligned_iff (stream : Ostream) (report : Report) (printable : Printable report) :
    Aligned stream report ↔ report.naturalTotal < 2147483648 := by
  constructor
  · rintro ⟨lines, layout⟩
    exact small_of_layout layout
  · intro small
    exact ⟨report.lines, layout_of_small stream printable small⟩

def fresh : Ostream := ⟨.unset, blank, 0, []⟩

def sides : Report :=
  { columns := [⟨ascii "Order\nSide", .left⟩, ⟨ascii "Qty", .right⟩]
    rows := [[ascii "Buy", ascii "20"], [ascii "Sell"]] }

theorem aligned_sides : Aligned fresh sides :=
  (aligned_iff fresh sides ⟨by decide, by decide, by decide⟩).mpr (by decide)

example : (write fresh sides).map Ostream.written = some (ascii
    ("----------\n" ++
      "Order     \n" ++
      "Side   Qty\n" ++
      "----------\n" ++
      "Buy     20\n" ++
      "Sell      \n" ++
      "----------\n")) := by decide +kernel

def single (cell : Bytes) : Report := ⟨[⟨ascii "A", .left⟩], [[cell]]⟩

theorem printable_single {cell : Bytes} (plain : newline ∉ cell) :
    Printable (single cell) where
  columns := List.cons_ne_nil _ _
  names := by
    change ∀ column ∈ [(⟨ascii "A", .left⟩ : Column)], _
    decide
  cells := by
    intro row member text inside
    rw [List.mem_singleton.mp member] at inside
    rw [List.mem_singleton.mp inside]
    exact plain

theorem length_le_naturalTotal_single (cell : Bytes) :
    cell.length ≤ (single cell).naturalTotal := by
  have row : [cell] ∈ (single cell).rows := List.mem_cons_self
  have column : (⟨ascii "A", .left⟩, 0) ∈ (single cell).columns.zipIdx :=
    List.mem_cons_self
  exact Nat.le_trans (rowValue_le_naturalWidth _ 0 row) (naturalWidth_le_total column)

/-- A cell of 2147483648 bytes: its size, as an `int`, is negative. -/
theorem wide_cell_is_not_aligned :
    Printable (single (List.replicate 2147483648 dash)) ∧
      ¬ Aligned fresh (single (List.replicate 2147483648 dash)) := by
  constructor
  · apply printable_single
    intro member
    exact absurd (List.eq_of_mem_replicate member) (by decide)
  · rintro ⟨lines, layout⟩
    have small := small_of_layout layout
    have large := length_le_naturalTotal_single (List.replicate 2147483648 dash)
    rw [List.length_replicate] at large
    omega

end Report

end Crocofix

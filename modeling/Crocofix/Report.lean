/-
A report: a table of text that is written to a stream.

The names of the columns may have several lines, which end at the same line of
the header.  The widths are computed as `int`s, their sum is converted to one.
-/

import Crocofix.Library.Numeral

namespace Crocofix

open Numeral

def newline : UInt8 := 10
def blank : UInt8 := 32
def dash : UInt8 := 45

/-! ### The stream -/

inductive AdjustField
  | left
  | right
  | internal
  | unset
deriving DecidableEq, Repr

/-- What an insertion reads and changes of an `std::ostream`. -/
structure Ostream where
  adjust : AdjustField
  fill : UInt8
  width : Int
  written : Bytes

namespace Ostream

/-- A text that is filled up to a width, in front of it or behind it. -/
def padded (left : Bool) (width : Int) (fill : UInt8) (text : Bytes) : Bytes :=
  let padding := List.replicate (width - text.length).toNat fill
  if left then text ++ padding else padding ++ text

/-- `stream << text`, which uses up the width. -/
def insert (stream : Ostream) (text : Bytes) : Ostream :=
  { stream with
    width := 0
    written := stream.written ++
      padded (stream.adjust = .left) stream.width stream.fill text }

def setfill (stream : Ostream) (fill : UInt8) : Ostream := { stream with fill := fill }

def setw (stream : Ostream) (width : Int32) : Ostream :=
  { stream with width := width.toInt }

def setf (stream : Ostream) (adjust : AdjustField) : Ostream :=
  { stream with adjust := adjust }

end Ostream

/-! ### The columns -/

namespace Report

inductive Justification
  | left
  | right
deriving DecidableEq, Repr

def Justification.adjust : Justification → AdjustField
  | .left => .left
  | .right => .right

structure Column where
  rawName : Bytes
  justification : Justification
deriving DecidableEq, Repr

def lineBreaks : Bytes := ascii "\r\n"

/-- `boost::split` at runs of line breaks.  Inside a run the next line break ends
no token. -/
def split : Bool → Bytes → List Bytes
  | _, [] => [[]]
  | inside, byte :: rest =>
      if byte ∈ lineBreaks then
        if inside then split true rest else [] :: split true rest
      else
        match split false rest with
        | [] => [[byte]]
        | token :: more => (byte :: token) :: more

def Column.name (column : Column) : List Bytes := split false column.rawName

end Report

structure Report where
  columns : List Report.Column
  rows : List (List Bytes)
deriving DecidableEq, Repr

namespace Report

/-! ### The widths -/

/-- `std::max(size, int(text.size()))`. -/
def widen (size : Int32) (text : Bytes) : Int32 :=
  if size < Int32.ofNat text.length then Int32.ofNat text.length else size

def columnWidth (report : Report) (column : Column) (index : Nat) : Int32 :=
  report.rows.foldl
    (fun size row =>
      match row[index]? with
      | some cell => widen size cell
      | none => size)
    (column.name.foldl widen 0)

def columnWidths (report : Report) : List Int32 :=
  report.columns.zipIdx.map fun column => report.columnWidth column.1 column.2

def columnHeaderRows (report : Report) : Nat :=
  report.columns.foldl (fun rows column => max rows column.name.length) 0

/-- The sum is of type `size_t`, as its first summand is. -/
def totalWidth (report : Report) : Int32 :=
  if report.columnWidths = [] then 0
  else Int32.ofNat (report.columnWidths.foldl
    (fun sum width => sum + UInt64.ofInt width.toInt)
    (UInt64.ofNat ((report.columnWidths.length - 1) * 2))).toNat

/-! ### Writing -/

/-- The difference of two sizes, which wraps around below zero. -/
def sizeSub (left right : Nat) : Nat :=
  if right ≤ left then left - right else 18446744073709551616 + left - right

/-- What the column shows in a line of the header; nothing where the name is
indexed outside its lines. -/
def headerValue (headerRows headerIndex : Nat) (column : Column) : Option Bytes :=
  if column.name.length = headerRows then column.name[headerIndex]?
  else if sizeSub headerRows headerIndex ≤ column.name.length then
    column.name[sizeSub headerIndex (sizeSub headerRows column.name.length)]?
  else some [blank]

def rowValue (row : List Bytes) (index : Nat) : Bytes := row[index]?.getD []

/-- The loop over the columns that are left, which the header and the rows have
in common. -/
def writeCells (report : Report) (value : Column → Nat → Option Bytes) :
    List Column → Nat → Ostream → Option Ostream
  | [], _, stream => some stream
  | column :: rest, index, stream =>
      match value column index with
      | none => none
      | some text =>
          let adjusted := stream.setf column.justification.adjust
          let cell := (adjusted.setw (report.columnWidth column index)).insert text
          writeCells report value rest (index + 1)
            (if index < report.columns.length - 1 then cell.insert [blank, blank]
            else cell)

def writeLine (report : Report) (value : Column → Nat → Option Bytes)
    (stream : Ostream) : Option Ostream :=
  (report.writeCells value report.columns 0 stream).map (·.insert [newline])

def writeLines {α : Type} (report : Report) (value : α → Column → Nat → Option Bytes) :
    List α → Ostream → Option Ostream
  | [], stream => some stream
  | line :: rest, stream =>
      match report.writeLine (value line) stream with
      | none => none
      | some next => writeLines report value rest next

def writeSeparator (report : Report) (stream : Ostream) : Ostream :=
  ((stream.setfill dash).setw report.totalWidth).insert [dash]

/-- `operator<<(stream, report)`; nothing where a name is indexed outside its
lines. -/
def write (stream : Ostream) (report : Report) : Option Ostream :=
  let opened := ((report.writeSeparator stream).setfill blank).insert [newline]
  match report.writeLines
      (fun headerIndex column _ => headerValue report.columnHeaderRows headerIndex column)
      (List.range report.columnHeaderRows) opened with
  | none => none
  | some headed =>
      let divided := ((report.writeSeparator headed).setfill blank).insert [newline]
      match report.writeLines (fun row _ index => some (rowValue row index)) report.rows
          (divided.setfill blank) with
      | none => none
      | some filled =>
          let closed := ((report.writeSeparator filled).insert [newline]).setfill blank
          some (closed.setf stream.adjust)

/-! ### Names and their lines -/

theorem split_ne_nil (inside : Bool) (text : Bytes) : split inside text ≠ [] := by
  induction text generalizing inside with
  | nil => exact List.cons_ne_nil _ _
  | cons byte rest ih =>
      unfold split
      split
      · split
        · exact ih true
        · exact List.cons_ne_nil _ _
      · split
        · exact List.cons_ne_nil _ _
        · exact List.cons_ne_nil _ _

theorem not_mem_of_mem_split {byte : UInt8} (breaks : byte ∈ lineBreaks) (inside : Bool)
    (text : Bytes) : ∀ token ∈ split inside text, byte ∉ token := by
  induction text generalizing inside with
  | nil =>
      intro token member
      rw [split, List.mem_singleton] at member
      rw [member]
      exact List.not_mem_nil
  | cons first rest ih =>
      unfold split
      split
      · split
        · exact ih true
        · exact List.forall_mem_cons.mpr ⟨List.not_mem_nil, ih true⟩
      · next plain =>
          have differs : byte ≠ first := fun same => plain (same ▸ breaks)
          have later := ih false
          split
          · rw [List.forall_mem_singleton, List.mem_singleton]
            exact differs
          · next token more tokens =>
              rw [tokens, List.forall_mem_cons] at later
              refine List.forall_mem_cons.mpr ⟨?_, later.2⟩
              rw [List.mem_cons, not_or]
              exact ⟨differs, later.1⟩

theorem exists_mem_split {byte : UInt8} (plain : byte ∉ lineBreaks) (inside : Bool)
    {text : Bytes} (member : byte ∈ text) : ∃ token ∈ split inside text, byte ∈ token := by
  induction text generalizing inside with
  | nil => cases member
  | cons first rest ih =>
      unfold split
      rcases List.mem_cons.mp member with rfl | later
      · rw [if_neg plain]
        split
        · exact ⟨_, List.mem_cons_self, List.mem_cons_self⟩
        · exact ⟨_, List.mem_cons_self, List.mem_cons_self⟩
      · split
        · obtain ⟨token, found, holds⟩ := ih true later
          split
          · exact ⟨token, found, holds⟩
          · exact ⟨token, List.mem_cons_of_mem _ found, holds⟩
        · obtain ⟨token, found, holds⟩ := ih false later
          split
          · next none => exact absurd none (split_ne_nil false rest)
          · next head more tokens =>
              rw [tokens] at found
              rcases List.mem_cons.mp found with rfl | inMore
              · exact ⟨_, List.mem_cons_self, List.mem_cons_of_mem _ holds⟩
              · exact ⟨token, List.mem_cons_of_mem _ inMore, holds⟩

end Report

end Crocofix

/-
The table of the orders in a book.

A cell shows the value last reported for a field and, in parentheses, the one that a
pending request asks for.  The rows stand in the order of the keys.
-/

import Crocofix.PrettyPrint
import Crocofix.OrderBook.Step
import Crocofix.Report.Aligned

namespace Crocofix

open Numeral

/-! ### The columns -/

def numericTypes : List Bytes :=
  [ascii "int", ascii "length", ascii "tagnum", ascii "seqnum", ascii "numingroup",
    ascii "float", ascii "qty", ascii "price", ascii "priceoffset", ascii "amt",
    ascii "percentage"]

/-- `boost::algorithm::to_lower`. -/
def toLower (text : Bytes) : Bytes :=
  text.map fun byte => if 65 ≤ byte ∧ byte ≤ 90 then byte + 32 else byte

structure TypedField extends DictionaryField where
  type : Bytes
deriving DecidableEq, Repr

def TypedField.isNumeric (field : TypedField) : Bool :=
  numericTypes.contains (toLower field.type)

def Names.typedField (names : Names) (tag : Int32) : Option TypedField :=
  match names.fields.fieldOffsets[OrchestrationFieldCollection.indexOf tag]? with
  | none => none
  | some offset =>
      match names.fields.fields[offset.toNat]?, names.types[offset.toNat]? with
      | some field, some type => some { field with type }
      | _, _ => none

/-- `order_report`.  Its report has the same columns at any time. -/
structure OrderReport where
  fields : List TypedField

namespace OrderReport

def defaultFields (names : Names) : List TypedField :=
  [Tag.SenderCompID, Tag.TargetCompID, Tag.ClOrdID, Tag.OrigClOrdID, Tag.Symbol,
    Tag.OrdStatus, Tag.OrdType, Tag.TimeInForce, Tag.Side, Tag.OrderQty, Tag.Price,
    Tag.CumQty, Tag.AvgPx].filterMap names.typedField

def columns (orderReport : OrderReport) : List Report.Column :=
  orderReport.fields.map fun field =>
    ⟨field.name, if field.isNumeric then .right else .left⟩

/-! ### The rows -/

def named (field : TypedField) (value : Bytes) : Bytes :=
  if field.nameOfValue value = [] then value else field.nameOfValue value

def cell (order : Order) (field : TypedField) : Bytes :=
  let value := ((order.fields.tryGet field.tag).getD ⟨field.tag, []⟩).value
  match order.pendingFields.tryGet field.tag with
  | none => named field value
  | some pending =>
      if value ≠ pending.value ∧ field.tag ∉ Order.identityFields then
        named field value ++ ascii " (" ++ named field pending.value ++ ascii ")"
      else named field value

/-- The orders as the iteration over the `std::map` meets them. -/
def ordered (book : OrderBook) : List (Sigma fun _ : Bytes => Order) :=
  book.orders.entries.mergeSort fun left right => decide (left.1 ≤ right.1)

def table (orderReport : OrderReport) (book : OrderBook) : Report where
  columns := orderReport.columns
  rows := (ordered book).map fun entry => orderReport.fields.map (cell entry.2)

def print (orderReport : OrderReport) (stream : Ostream) (book : OrderBook) :
    Option Ostream :=
  Report.write stream (orderReport.table book)

end OrderReport

end Crocofix

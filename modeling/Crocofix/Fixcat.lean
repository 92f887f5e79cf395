/-
Printing the FIX messages of a log with fixcat.

A line is searched for the beginning of a message.  What is in front of it is left out,
and an exception that a line causes is reported and ends that line only.
-/

import Crocofix.Library.Line
import Crocofix.DecodeRestart
import Crocofix.OrderReport

namespace Crocofix

open Numeral

namespace Fixcat

def fixMessagePrefix : Bytes := ascii "8=FIX"

/-- `options`, with the dictionary that the library is built with. -/
structure Options where
  dictionary : OrchestrationFieldCollection
  names : Names
  includeAdminMessages : Bool
  mix : Bool
  trackOrders : Bool
  fields : Option (List TypedField)

/-- What the program has built and written: the order book, the standard output and the
lines of the standard error. -/
structure State where
  book : OrderBook
  out : Ostream
  errors : List Bytes

def State.initial : State := ⟨.empty, ⟨.unset, blank, 0, []⟩, []⟩

/-- The `catch` block. -/
def State.complain (state : State) (exception : Exception) : State :=
  { state with errors := state.errors ++ [exception.what] }

/-- `std::println`, which does not look at the format of the stream. -/
def println (out : Ostream) (line : Bytes) : Ostream :=
  { out with written := out.written ++ line ++ [newline] }

def skips (options : Options) (message : Message) : Except Exception Bool :=
  if options.includeAdminMessages then .ok false else message.isAdmin

/-- The `--orders` part.  There is a table for a message that the book has accepted;
nothing where a name of it is indexed outside its lines. -/
def trackOrder (options : Options) (orderReport : OrderReport) (state : State)
    (message : Message) : Option State :=
  if options.trackOrders then
    match state.book.process message with
    | (.error exception, book) => some ({ state with book }.complain exception)
    | (.ok (.error _), book) => some { state with book }
    | (.ok (.ok ()), book) =>
        (orderReport.print state.out book).map fun out =>
          { state with book, out := println out [] }
  else some state

/-- The part of `decode_and_print_line` behind the decoding. -/
def showMessage (options : Options) (orderReport : OrderReport) (state : State)
    (message : Message) : Option State :=
  match skips options message with
  | .error exception => some (state.complain exception)
  | .ok true => some state
  | .ok false =>
      match message.prettyPrintTo options.names state.out with
      | .error exception => some (state.complain exception)
      | .ok out =>
          trackOrder options orderReport { state with out := println out [] } message

/-- `decode_and_print_line`.  A message that the line holds only a front of is shown like
a complete one; nothing where a byte in front of the line is read. -/
def decodeAndPrintLine (options : Options) (orderReport : OrderReport) (state : State)
    (line : Bytes) : Option State :=
  match Line.search fixMessagePrefix line with
  | none =>
      if options.mix then some { state with out := println state.out line }
      else some state
  | some text =>
      match Message.empty.decode options.dictionary text with
      | (.error (.thrown exception), _) => some (state.complain exception)
      | (.error .undefinedRead, _) => none
      | (.ok _, message) => showMessage options orderReport state message

def Options.orderReport (options : Options) : OrderReport :=
  ⟨options.fields.getD (OrderReport.defaultFields options.names)⟩

def processLines (options : Options) (orderReport : OrderReport) :
    List Bytes → State → Option State
  | [], state => some state
  | line :: rest, state =>
      match decodeAndPrintLine options orderReport state line with
      | none => none
      | some next => processLines options orderReport rest next

def processStream (options : Options) (stream : Bytes) : Option State :=
  processLines options options.orderReport (Line.lines newline stream) .initial

/-! ### What a line holds -/

/-- What decoding makes of a line, whatever the options are. -/
inductive Read
  | undefined
  | nothing
  | found (message : Message)

def read (dictionary : OrchestrationFieldCollection) (line : Bytes) : Read :=
  match Line.search fixMessagePrefix line with
  | none => .nothing
  | some text =>
      match Message.empty.decode dictionary text with
      | (.error (.thrown _), _) => .nothing
      | (.error .undefinedRead, _) => .undefined
      | (.ok _, message) => .found message

def logged (dictionary : OrchestrationFieldCollection) : List Bytes → Option (List Message)
  | [] => some []
  | line :: rest =>
      match read dictionary line with
      | .undefined => none
      | .nothing => logged dictionary rest
      | .found message => (logged dictionary rest).map (message :: ·)

/-! ### The order book -/

theorem process_of_untyped {book : OrderBook} {message : Message} {exception : Exception}
    (untyped : message.MsgType = .error exception) : (book.process message).2 = book := by
  unfold Message.MsgType Message.requireField at untyped
  unfold OrderBook.process
  cases found : message.fields.tryGet Tag.MsgType with
  | none => rfl
  | some field =>
      rw [found] at untyped
      cases untyped

theorem process_of_admin {book : OrderBook} {message : Message}
    (admin : message.isAdmin = .ok true) : (book.process message).2 = book := by
  unfold Message.isAdmin Message.MsgType Message.requireField at admin
  unfold OrderBook.process
  cases found : message.fields.tryGet Tag.MsgType with
  | none => rfl
  | some field =>
      rw [found] at admin
      injection admin with isAdmin
      have inside : field.value ∈ Message.adminTypes := List.contains_iff_mem.mp isAdmin
      have handled {type : Bytes} (other : type ∉ Message.adminTypes) :
          field.value ≠ type := fun same => other (same ▸ inside)
      simp only [if_neg (@handled MsgType.NewOrderSingle (by decide)),
        if_neg (@handled MsgType.ExecutionReport (by decide)),
        if_neg (@handled MsgType.OrderCancelRequest (by decide)),
        if_neg (@handled MsgType.OrderCancelReplaceRequest (by decide)),
        if_neg (@handled MsgType.OrderCancelReject (by decide))]

def tracked (options : Options) (book : OrderBook) (message : Message) : OrderBook :=
  if options.trackOrders then (book.process message).2 else book

theorem tracked_of_untyped {options : Options} {book : OrderBook} {message : Message}
    {exception : Exception} (untyped : message.MsgType = .error exception) :
    tracked options book message = book := by
  unfold tracked
  rw [process_of_untyped untyped, ite_self]

theorem tracked_of_skips {options : Options} {book : OrderBook} {message : Message}
    (shown : skips options message ≠ .ok false) : tracked options book message = book := by
  unfold skips at shown
  split at shown
  · exact absurd rfl shown
  · cases admin : message.isAdmin with
    | error exception =>
        unfold Message.isAdmin at admin
        cases type : message.MsgType with
        | error other => exact tracked_of_untyped type
        | ok msgType =>
            rw [type] at admin
            cases admin
    | ok isAdmin =>
        cases isAdmin with
        | false => exact absurd admin shown
        | true =>
            unfold tracked
            rw [process_of_admin admin, ite_self]

theorem tracked_of_unprintable {options : Options} {book : OrderBook} {message : Message}
    {exception : Exception}
    (unprintable : message.prettyPrint options.names = .error exception) :
    tracked options book message = book := by
  unfold Message.prettyPrint at unprintable
  cases type : message.MsgType with
  | error other => exact tracked_of_untyped type
  | ok msgType =>
      rw [type] at unprintable
      cases unprintable

/-! ### What is written -/

/-- The format in which both the messages and the tables expect the stream. -/
structure Formatted (out : Ostream) : Prop where
  fill : out.fill = blank
  width : out.width = 0

/-- The text that a message adds: nothing where it is left out or has no MsgType, and a
table behind it where the book has accepted it. -/
def messageText (options : Options) (orderReport : OrderReport) (book : OrderBook)
    (message : Message) : Bytes :=
  match skips options message, message.prettyPrint options.names with
  | .ok false, .ok text =>
      text ++ [newline] ++
        if options.trackOrders ∧ ¬ OrderBook.Failed (book.process message).1 then
          Report.terminated (orderReport.table (book.process message).2).lines ++ [newline]
        else []
  | _, _ => []

theorem print_eq (orderReport : OrderReport) (stream : Ostream) (book : OrderBook) :
    ∃ after, orderReport.print stream book = some after ∧ Formatted after ∧
      after.written = stream.written ++ Report.terminated (orderReport.table book).lines := by
  obtain ⟨after, run, written⟩ := Report.write_eq stream (orderReport.table book)
  refine ⟨after, run, ?_, written⟩
  unfold Report.write at run
  simp only at run
  split at run
  · cases run
  · split at run
    · cases run
    · injection run with same
      rw [← same]
      exact ⟨rfl, rfl⟩

structure Follows (before after : State) (book : OrderBook) (text : Bytes) : Prop where
  book : after.book = book
  written : after.out.written = before.out.written ++ text
  formatted : Formatted after.out

theorem trackOrder_follows (options : Options) (orderReport : OrderReport) {state : State}
    (formatted : Formatted state.out) (message : Message) :
    ∃ after, trackOrder options orderReport state message = some after ∧
      Follows state after (tracked options state.book message)
        (if options.trackOrders ∧ ¬ OrderBook.Failed (state.book.process message).1 then
          Report.terminated (orderReport.table (state.book.process message).2).lines ++
            [newline]
        else []) := by
  unfold trackOrder tracked
  by_cases tracks : options.trackOrders
  · simp only [tracks, true_and]
    rcases state.book.process message with ⟨exception | result, book⟩
    · refine ⟨_, rfl, rfl, ?_, formatted⟩
      rw [if_neg (by simp [OrderBook.Failed]), List.append_nil]
      rfl
    · cases result with
      | error text =>
          refine ⟨_, rfl, rfl, ?_, formatted⟩
          rw [if_neg (by simp [OrderBook.Failed]), List.append_nil]
      | ok done =>
          obtain ⟨out, run, format, written⟩ := print_eq orderReport state.out book
          simp only [run]
          refine ⟨_, rfl, rfl, ?_, ⟨format.fill, format.width⟩⟩
          rw [if_pos (by simp [OrderBook.Failed]), ← List.append_assoc, ← written]
          exact congrArg (· ++ [newline]) (List.append_nil _)
  · simp only [if_neg tracks]
    refine ⟨state, rfl, rfl, ?_, formatted⟩
    rw [if_neg fun both => tracks both.1, List.append_nil]

theorem showMessage_follows (options : Options) (orderReport : OrderReport) {state : State}
    (formatted : Formatted state.out) (message : Message) :
    ∃ after, showMessage options orderReport state message = some after ∧
      Follows state after (tracked options state.book message)
        (messageText options orderReport state.book message) := by
  have unchanged (same : tracked options state.book message = state.book)
      (after : State) (book : after.book = state.book) (out : after.out = state.out) :
      Follows state after (tracked options state.book message) [] :=
    ⟨by rw [same, book], by rw [out, List.append_nil], by rwa [out]⟩
  unfold showMessage messageText
  cases skipped : skips options message with
  | error exception =>
      exact ⟨_, rfl, unchanged (tracked_of_skips (by rw [skipped]; simp)) _ rfl rfl⟩
  | ok left =>
      cases left with
      | true =>
          exact ⟨_, rfl, unchanged (tracked_of_skips (by rw [skipped]; simp)) _ rfl rfl⟩
      | false =>
          cases printed : message.prettyPrint options.names with
          | error exception =>
              rw [Message.prettyPrintTo_error printed]
              exact ⟨_, rfl, unchanged (tracked_of_unprintable printed) _ rfl rfl⟩
          | ok text =>
              obtain ⟨out, runs, shown⟩ :=
                Message.prettyPrintTo_ok printed formatted.fill formatted.width
              have ready : Formatted (println out []) := ⟨shown.fill, shown.width⟩
              obtain ⟨after, run, follows⟩ := @trackOrder_follows options orderReport
                { state with out := println out [] } ready message
              rw [runs]
              refine ⟨after, run, follows.book, ?_, follows.formatted⟩
              rw [follows.written, println, shown.written]
              simp only [List.append_nil, List.append_assoc]

def lineText (options : Options) (orderReport : OrderReport) (book : OrderBook)
    (line : Bytes) : Bytes :=
  match read options.dictionary line with
  | .undefined => []
  | .nothing =>
      if options.mix ∧ Line.search fixMessagePrefix line = none then line ++ [newline]
      else []
  | .found message => messageText options orderReport book message

def bookBehind (options : Options) (book : OrderBook) (line : Bytes) : OrderBook :=
  match read options.dictionary line with
  | .found message => tracked options book message
  | _ => book

theorem decodeAndPrintLine_follows (options : Options) (orderReport : OrderReport)
    {state : State} (formatted : Formatted state.out) (line : Bytes) :
    match read options.dictionary line with
    | .undefined => decodeAndPrintLine options orderReport state line = none
    | _ => ∃ after, decodeAndPrintLine options orderReport state line = some after ∧
        Follows state after (bookBehind options state.book line)
          (lineText options orderReport state.book line) := by
  unfold decodeAndPrintLine bookBehind lineText read
  cases found : Line.search fixMessagePrefix line with
  | none =>
      simp only
      by_cases mixes : options.mix
      · simp only [mixes, if_true, true_and]
        exact ⟨_, rfl, rfl, List.append_assoc _ _ _, ⟨formatted.fill, formatted.width⟩⟩
      · simp only [mixes]
        exact ⟨state, rfl, rfl, (List.append_nil _).symm, formatted⟩
  | some text =>
      simp only
      rcases Message.empty.decode options.dictionary text with ⟨fault | result, message⟩
      · cases fault with
        | undefinedRead => rfl
        | thrown exception =>
            simp only [reduceCtorEq, and_false, if_false]
            exact ⟨_, rfl, rfl, (List.append_nil _).symm, formatted⟩
      · exact showMessage_follows options orderReport formatted message

/-! ### Whole streams -/

def pages (options : Options) (orderReport : OrderReport) : OrderBook → List Bytes → Bytes
  | _, [] => []
  | book, line :: rest =>
      lineText options orderReport book line ++
        pages options orderReport (bookBehind options book line) rest

theorem processLines_follows (options : Options) (orderReport : OrderReport)
    {state : State} (formatted : Formatted state.out) (lines : List Bytes) :
    match logged options.dictionary lines with
    | none => processLines options orderReport lines state = none
    | some _ => ∃ after, processLines options orderReport lines state = some after ∧
        Follows state after (lines.foldl (bookBehind options) state.book)
          (pages options orderReport state.book lines) := by
  induction lines generalizing state with
  | nil => exact ⟨state, rfl, rfl, (List.append_nil _).symm, formatted⟩
  | cons line rest ih =>
      have step := decodeAndPrintLine_follows options orderReport formatted line
      have goesOn (next : State)
          (here : decodeAndPrintLine options orderReport state line = some next)
          (follows : Follows state next (bookBehind options state.book line)
            (lineText options orderReport state.book line)) :
          match logged options.dictionary rest with
          | none => processLines options orderReport (line :: rest) state = none
          | some _ => ∃ after,
              processLines options orderReport (line :: rest) state = some after ∧
              Follows state after ((line :: rest).foldl (bookBehind options) state.book)
                (pages options orderReport state.book (line :: rest)) := by
        have later := ih follows.formatted
        rw [follows.book] at later
        rw [processLines, here, List.foldl_cons, pages]
        cases more : logged options.dictionary rest with
        | none =>
            rw [more] at later
            exact later
        | some messages =>
            rw [more] at later
            obtain ⟨after, run, ends⟩ := later
            refine ⟨after, run, ends.book, ?_, ends.formatted⟩
            rw [ends.written, follows.written, List.append_assoc]
      rw [logged]
      cases found : read options.dictionary line with
      | undefined =>
          rw [found] at step
          rw [processLines, step]
      | nothing =>
          rw [found] at step
          obtain ⟨next, here, follows⟩ := step
          exact goesOn next here follows
      | found message =>
          rw [found] at step
          obtain ⟨next, here, follows⟩ := step
          have whole := goesOn next here follows
          cases more : logged options.dictionary rest with
          | none =>
              rw [more] at whole
              exact whole
          | some messages =>
              rw [more] at whole
              exact whole

theorem foldl_bookBehind {options : Options} {lines : List Bytes} {messages : List Message}
    (found : logged options.dictionary lines = some messages) (book : OrderBook) :
    lines.foldl (bookBehind options) book =
      if options.trackOrders then book.processAll messages else book := by
  induction lines generalizing book messages with
  | nil =>
      injection found with same
      rw [← same]
      exact (ite_self _).symm
  | cons line rest ih =>
      rw [logged] at found
      rw [List.foldl_cons, bookBehind]
      cases here : read options.dictionary line with
      | undefined =>
          rw [here] at found
          cases found
      | nothing =>
          rw [here] at found
          exact ih found book
      | found message =>
          rw [here] at found
          obtain ⟨later, more, same⟩ := Option.map_eq_some_iff.mp found
          rw [ih more, ← same]
          unfold tracked
          by_cases tracks : options.trackOrders
          · simp only [if_pos tracks]
            rfl
          · simp only [if_neg tracks]

/-- The order book that a stream leads to is the one of the messages in its lines:
neither what is shown of them nor a line that is no message or that fails has a part in
it. -/
theorem processStream_book (options : Options) (stream : Bytes) :
    (processStream options stream).map State.book =
      (logged options.dictionary (Line.lines newline stream)).map fun messages =>
        if options.trackOrders then OrderBook.empty.processAll messages else .empty := by
  have run := @processLines_follows options options.orderReport .initial ⟨rfl, rfl⟩
    (Line.lines newline stream)
  unfold processStream
  cases found : logged options.dictionary (Line.lines newline stream) with
  | none =>
      rw [found] at run
      rw [run]
      rfl
  | some messages =>
      rw [found] at run
      obtain ⟨after, ended, follows⟩ := run
      rw [ended, Option.map_some, Option.map_some, follows.book, foldl_bookBehind found]
      rfl

/-- What is written are the texts of the lines in their order, and the stream ends in
the format in which it began.  A line is shown with the book that the lines in front of
it lead to, and in the same way wherever it stands. -/
theorem processStream_written (options : Options) (stream : Bytes) :
    (∀ state, processStream options stream = some state → Formatted state.out) ∧
      (processStream options stream).map (fun state => state.out.written) =
        (logged options.dictionary (Line.lines newline stream)).map fun _ =>
          pages options options.orderReport .empty (Line.lines newline stream) := by
  have run := @processLines_follows options options.orderReport .initial ⟨rfl, rfl⟩
    (Line.lines newline stream)
  unfold processStream
  cases found : logged options.dictionary (Line.lines newline stream) with
  | none =>
      rw [found] at run
      rw [run]
      exact ⟨nofun, rfl⟩
  | some messages =>
      rw [found] at run
      obtain ⟨after, ended, follows⟩ := run
      rw [ended, Option.map_some, Option.map_some, follows.written]
      refine ⟨?_, rfl⟩
      intro state same
      rw [← Option.some.inj same]
      exact follows.formatted

end Fixcat

end Crocofix

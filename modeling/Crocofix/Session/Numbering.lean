/-
The sequence numbers on the wire.

As long as the writer refuses nothing and every message that is to be numbered
has a field for its number, the numbers handed to the writer since the counter
was last assigned are consecutive, also when writes are nested.  A refused
message leaves a hole.
-/

import Crocofix.Session.Carry
import Crocofix.Session.World
import Mathlib.Data.List.Nodup

namespace Crocofix

open Numeral

def Message.numberText (message : Message) : Option Bytes :=
  (message.fields.tryGet Tag.MsgSeqNum).map Field.value

namespace Session

open Call (Keeps Preserves keeps_pure)

/-! ### The numbers in a history -/

/-- The sequence numbers of the messages that the writer accepted, and that
`send` was to number, since the outgoing number was last assigned. -/
def wireNumbers : List Event → List (Option Bytes)
  | [] => []
  | .outgoingSet _ :: _ => []
  | .written message options :: older =>
      if options.setMsgSeqNum then wireNumbers older ++ [message.numberText]
      else wireNumbers older
  | _ :: older => wireNumbers older

def firstNumber (start : UInt32) : List Event → UInt32
  | [] => start
  | .outgoingSet number :: _ => number
  | _ :: older => firstNumber start older

def numbersFrom (first : UInt32) (count : Nat) : List (Option Bytes) :=
  (List.range count).map fun index =>
    some (decimal (first + UInt32.ofNat index).toNat)

/-- The numbers on the wire have no hole and no repetition. -/
def Consecutive (start : UInt32) (history : List Event) : Prop :=
  wireNumbers history =
    numbersFrom (firstNumber start history) (wireNumbers history).length

/-- At every moment the numbers on the wire were consecutive, and the outgoing
number is the next one. -/
structure Ordered (start : UInt32) (session : Session) : Prop where
  always : ∀ older, older <:+ session.history → Consecutive start older
  next : session.outgoingMsgSeqNum =
    firstNumber start session.history +
      UInt32.ofNat (wireNumbers session.history).length

theorem numbersFrom_succ (first : UInt32) (count : Nat) :
    numbersFrom first (count + 1) =
      numbersFrom first count ++
        [some (decimal (first + UInt32.ofNat count).toNat)] := by
  simp [numbersFrom, List.range_succ]

theorem nodup_numbersFrom (first : UInt32) {count : Nat}
    (bounded : count ≤ 4294967296) : (numbersFrom first count).Nodup := by
  unfold numbersFrom
  apply List.Nodup.map_on _ List.nodup_range
  intro left leftMember right rightMember same
  have leftBound := List.mem_range.mp leftMember
  have rightBound := List.mem_range.mp rightMember
  injection same with texts
  have sums := UInt32.toNat_inj.mp (decimal_injective texts)
  have offsets := (UInt32.add_right_inj first).mp sums
  have values := congrArg UInt32.toNat offsets
  simp only [UInt32.toNat_ofNat'] at values
  omega

/-- The options of the messages with the given number that the writer accepted
since the outgoing number was last assigned.  A gap fill, which `send` was not to
number, is among them. -/
def carriers (number : UInt32) : List Event → List EncodeOptions
  | [] => []
  | .outgoingSet _ :: _ => []
  | .written message options :: older =>
      if message.numberText = some (decimal number.toNat) then
        carriers number older ++ [options]
      else carriers number older
  | _ :: older => carriers number older

theorem countP_carriers (number : UInt32) (history : List Event) :
    (carriers number history).countP EncodeOptions.setMsgSeqNum =
      (wireNumbers history).count (some (decimal number.toNat)) := by
  induction history with
  | nil => rfl
  | cons event older ih =>
      cases event with
      | outgoingSet other => rfl
      | written message options =>
          unfold carriers wireNumbers
          by_cases carries : message.numberText = some (decimal number.toNat)
          · rw [if_pos carries, List.countP_append, ih, List.countP_singleton, carries]
            split
            · rw [List.count_append, List.count_singleton_self]
            · rfl
          · rw [if_neg carries, ih]
            split
            · rw [List.count_append, List.count_singleton, if_neg (by simpa using carries),
                Nat.add_zero]
            · rfl
      | _ => exact ih

theorem Consecutive.countP_carriers {start : UInt32} {history : List Event}
    (consecutive : Consecutive start history)
    (bounded : (wireNumbers history).length ≤ 4294967296) {index : Nat}
    (taken : index < (wireNumbers history).length) :
    (carriers (firstNumber start history + UInt32.ofNat index) history).countP
      EncodeOptions.setMsgSeqNum = 1 := by
  have once : (wireNumbers history).Nodup := by
    rw [consecutive]
    exact nodup_numbersFrom _ bounded
  rw [Session.countP_carriers]
  apply List.count_eq_one_of_mem once
  rw [consecutive]
  exact List.mem_map.mpr ⟨index, List.mem_range.mpr taken, rfl⟩

/-- No other message carries the number exactly if every message with it was to be
numbered. -/
theorem carriers_length_iff {number : UInt32} {history : List Event}
    (once : (carriers number history).countP EncodeOptions.setMsgSeqNum = 1) :
    (carriers number history).length = 1 ↔
      ∀ options ∈ carriers number history, options.setMsgSeqNum = true := by
  rw [← List.countP_eq_length, once]
  exact eq_comm

/-! ### What an event does to the numbers -/

def Event.isSilent : Event → Bool
  | .outgoingSet _ | .written _ _ => false
  | _ => true

theorem wireNumbers_silent {event : Event} (silent : Event.isSilent event)
    (older : List Event) : wireNumbers (event :: older) = wireNumbers older := by
  cases event with
  | outgoingSet number => cases silent
  | written message options => cases silent
  | _ => rfl

theorem firstNumber_silent (start : UInt32) {event : Event}
    (silent : Event.isSilent event) (older : List Event) :
    firstNumber start (event :: older) = firstNumber start older := by
  cases event with
  | outgoingSet number => cases silent
  | written message options => cases silent
  | _ => rfl

theorem always_cons {start : UInt32} {event : Event} {older : List Event}
    (before : ∀ oldest, oldest <:+ older → Consecutive start oldest)
    (now : Consecutive start (event :: older)) :
    ∀ oldest, oldest <:+ event :: older → Consecutive start oldest := by
  intro oldest suffix
  rcases List.suffix_cons_iff.mp suffix with whole | earlier
  · rw [whole]
    exact now
  · exact before oldest earlier

theorem Ordered.silent {start : UInt32} {session after : Session}
    (ordered : Ordered start session) {event : Event}
    (silent : Event.isSilent event)
    (history : after.history = event :: session.history)
    (outgoing : after.outgoingMsgSeqNum = session.outgoingMsgSeqNum) :
    Ordered start after where
  always := by
    rw [history]
    apply always_cons ordered.always
    have now := ordered.always _ (List.suffix_refl _)
    unfold Consecutive at *
    rw [wireNumbers_silent silent, firstNumber_silent start silent]
    exact now
  next := by
    rw [outgoing, history, wireNumbers_silent silent,
      firstNumber_silent start silent]
    exact ordered.next

theorem Ordered.written {start : UInt32} {session after : Session}
    (ordered : Ordered start session) {message : Message}
    {options : EncodeOptions} (numbers : options.setMsgSeqNum = true)
    (text : message.numberText =
      some (decimal session.outgoingMsgSeqNum.toNat))
    (history : after.history = .written message options :: session.history)
    (outgoing : after.outgoingMsgSeqNum = session.outgoingMsgSeqNum + 1) :
    Ordered start after := by
  have now := ordered.always _ (List.suffix_refl _)
  unfold Consecutive at now
  have wire : wireNumbers (.written message options :: session.history) =
      wireNumbers session.history ++ [message.numberText] := if_pos numbers
  have first : firstNumber start (.written message options :: session.history) =
      firstNumber start session.history := rfl
  constructor
  · rw [history]
    apply always_cons ordered.always
    unfold Consecutive
    rw [first, wire, List.length_append, List.length_singleton, numbersFrom_succ,
      ← now, text, ordered.next]
  · rw [outgoing, history, first, wire, List.length_append,
      List.length_singleton, ordered.next]
    simp [UInt32.add_assoc]

theorem Ordered.unnumbered {start : UInt32} {session after : Session}
    (ordered : Ordered start session) {message : Message}
    {options : EncodeOptions} (keeps : options.setMsgSeqNum = false)
    (history : after.history = .written message options :: session.history)
    (outgoing : after.outgoingMsgSeqNum = session.outgoingMsgSeqNum) :
    Ordered start after := by
  have wire : wireNumbers (.written message options :: session.history) =
      wireNumbers session.history := by
    rw [wireNumbers, keeps, if_neg Bool.false_ne_true]
  have first : firstNumber start (.written message options :: session.history) =
      firstNumber start session.history := rfl
  constructor
  · rw [history]
    apply always_cons ordered.always
    have now := ordered.always _ (List.suffix_refl _)
    unfold Consecutive at *
    rw [first, wire]
    exact now
  · rw [outgoing, history, first, wire]
    exact ordered.next

theorem Ordered.restarted {start number : UInt32} {session after : Session}
    (ordered : Ordered start session)
    (history : after.history = .outgoingSet number :: session.history)
    (outgoing : after.outgoingMsgSeqNum = number) : Ordered start after where
  always := by
    rw [history]
    exact always_cons ordered.always rfl
  next := by
    rw [outgoing, history]
    simp [wireNumbers, firstNumber]

theorem Ordered.create (options : SessionOptions) (incoming outgoing : UInt32) :
    Ordered outgoing (create options incoming outgoing) where
  always := by
    intro older suffix
    rw [List.suffix_nil.mp suffix]
    rfl
  next := by
    simp [Session.create, wireNumbers, firstNumber]

/-! ### Sending -/

section Sending

variable {environment : Environment} {start : UInt32}

/-- The writer puts the message on the wire first, and keeps the numbers in
order in whatever it does after that. -/
def WritesInOrder (environment : Environment) (start : UInt32) : Prop :=
  ∀ message options session,
    Ordered start
        { session with history := .written message options :: session.history } →
      Ordered start (environment.write message options session).2

theorem record_ordered {event : Event} (silent : Event.isSilent event) :
    Keeps (Preserves (Ordered start)) (record event) := by
  intro session ordered
  exact ordered.silent silent rfl rfl

theorem setState_ordered (state : SessionState) :
    Keeps (Preserves (Ordered start)) (setState state) := by
  intro session ordered
  by_cases same : session.state = state
  · rw [setState_of_eq same]
    exact ordered
  · rw [setState_of_ne same]
    exact ordered.silent rfl rfl rfl

theorem restartSeqNums_ordered :
    Keeps (Preserves (Ordered start)) restartSeqNums := by
  apply (setState_ordered .resetting).bind
  intro _ session ordered
  exact ⟨(ordered.restarted rfl rfl).always, (ordered.restarted rfl rfl).next⟩

theorem handOver_ordered (writes : WritesInOrder environment start)
    {message : Message} {options : EncodeOptions} {fields : FieldCollection}
    {session : Session}
    (ordered : ∀ timestamp, Ordered start
      { session with
        history :=
          .written { message with fields := stamped timestamp options fields }
            options :: session.history }) :
    Ordered start (handOver environment message options fields session).2 := by
  have written := writes _ options session (ordered (environment.timestampString
    session.options.timestampFormat session))
  change Ordered start ((environment.write _ options >>= fun sent =>
    record (.messageSent sent)) session).2
  rw [Call.bind_apply]
  revert written
  generalize environment.write _ options session = called
  intro written
  rcases called with ⟨exception | sent, after⟩
  · exact written
  · exact written.silent rfl rfl rfl

theorem numberText_stamped (session : Session) (options : EncodeOptions)
    (message : Message) (number : UInt32) (timestamp : Bytes)
    (numbered : (message.fields.tryGet Tag.MsgSeqNum).isSome) :
    Message.numberText { message with
      fields := stamped timestamp options
        ((session.addressed options message.fields).put
          (Field.ofUInt32 Tag.MsgSeqNum number)) } = some (decimal number.toNat) := by
  obtain ⟨old, found⟩ := Option.isSome_iff_exists.mp numbered
  have place := tryGet_addressed session options message.fields
    (show Tag.BeginString ≠ Tag.MsgSeqNum by decide) (by decide) (by decide)
  have own : (Field.ofUInt32 Tag.MsgSeqNum number).tag = Tag.MsgSeqNum := rfl
  change Option.map Field.value (FieldCollection.tryGet _ _) = _
  rw [tryGet_stamped _ _ _ (by decide) (by decide), FieldCollection.tryGet_put,
    if_pos own, place, found]
  rfl

theorem send_ordered (writes : WritesInOrder environment start)
    {message : Message} {options : EncodeOptions}
    (numbered : options.setMsgSeqNum = true →
      (message.fields.tryGet Tag.MsgSeqNum).isSome) :
    Keeps (Preserves (Ordered start)) (send environment message options) := by
  have read : Keeps (Preserves (Ordered start))
      (Call.ofExcept message.isResetLogon : Action Bool) :=
    Call.keeps_ofExcept _
  apply read.bind
  intro resets
  apply Keeps.bind
  · apply Keeps.onlyIf
    intro _
    exact restartSeqNums_ordered
  · intro _
    apply Keeps.of_start
    intro session ordered
    cases numbers : options.setMsgSeqNum with
    | false =>
        rw [number, numbers, if_neg Bool.false_ne_true]
        apply handOver_ordered writes
        intro timestamp
        exact ordered.unnumbered numbers rfl rfl
    | true =>
        rw [number, if_pos numbers]
        apply handOver_ordered writes
        intro timestamp
        exact ordered.written numbers
          (numberText_stamped session options message _ timestamp (numbered numbers))
          rfl rfl

theorem Ordered.same {session after : Session} (ordered : Ordered start session)
    (history : after.history = session.history)
    (outgoing : after.outgoingMsgSeqNum = session.outgoingMsgSeqNum) :
    Ordered start after where
  always := by
    rw [history]
    exact ordered.always
  next := by
    rw [history, outgoing]
    exact ordered.next

theorem isSilent_of_isNotice {event : Event} (isNotice : event.isNotice) :
    Event.isSilent event := by
  cases event with
  | outgoingSet number => cases isNotice
  | written message options => cases isNotice
  | _ => rfl

theorem tolerates_ordered (writes : WritesInOrder environment start) :
    Tolerates environment (Preserves (Ordered start)) where
  notice := by
    intro session event isNotice
    exact record_ordered (isSilent_of_isNotice isNotice) session
  bookkeeping := by
    intro before after same ordered
    exact ordered.same same.history same.outgoing
  entered := by
    intro state _
    exact setState_ordered state
  sent := by
    intro message options ordinary
    exact send_ordered writes fun _ => ordinary.numbered

/-! ### The calls that assign other numbers -/

theorem sendLogon_numbered (resetSeqNumFlag : Bool)
    (writes : WritesInOrder environment start) :
    Keeps (Preserves (Ordered start)) (sendLogon environment resetSeqNumFlag) := by
  apply (tolerates_ordered writes).bears.get.bind
  intro session
  apply send_ordered writes
  intro _
  cases resetSeqNumFlag with
  | false => exact (sendLogon_usual session).numbered
  | true =>
      cases expects : session.options.useNextExpectedMsgSeqNum with
      | false => rfl
      | true => rfl

theorem carries_ordered (writes : WritesInOrder environment start) :
    Carries environment (Preserves (Ordered start)) where
  toBears := (tolerates_ordered writes).bears
  loggedOn := setState_ordered .loggedOn
  resending := setState_ordered .resending
  discarded _ _ := record_ordered rfl
  assigned := by
    intro before after same ordered
    exact ordered.same same.history same.outgoing
  restarted := restartSeqNums_ordered
  resetLogon := sendLogon_numbered true writes

/-! ### The history only grows -/

section Length

def Lengthens (before after : Session) : Prop := before.history <:+ after.history

instance : Std.Refl Lengthens where
  refl session := List.suffix_refl session.history

instance : IsTrans Session Lengthens where
  trans _ _ _ := List.IsSuffix.trans

theorem Lengthens.of_eq {before after : Session} (same : after.history = before.history) :
    Lengthens before after :=
  ⟨[], same.symm⟩

theorem record_lengthens (event : Event) : Keeps Lengthens (record event) :=
  fun session => List.suffix_cons event session.history

theorem setState_lengthens (state : SessionState) : Keeps Lengthens (setState state) := by
  intro session
  by_cases same : session.state = state
  · rw [setState_of_eq same]
    exact Std.Refl.refl session
  · rw [setState_of_ne same]
    exact List.suffix_cons _ _

theorem restartSeqNums_lengthens : Keeps Lengthens restartSeqNums := by
  apply (setState_lengthens .resetting).bind
  intro _ session
  exact List.suffix_cons (.outgoingSet 1) session.history

variable {environment : Environment}
  (writes : ∀ message options, Keeps Lengthens (environment.write message options))

include writes

theorem send_lengthens (message : Message) (options : EncodeOptions) :
    Keeps Lengthens (send environment message options) := by
  have read : Keeps Lengthens (Call.ofExcept message.isResetLogon : Action Bool) :=
    Call.keeps_ofExcept _
  apply read.bind
  intro resets
  apply (Keeps.onlyIf fun _ => restartSeqNums_lengthens).bind
  intro _
  apply Keeps.of_start
  intro session
  have numbered : Keeps Lengthens
      (number options (session.addressed options message.fields)) := by
    unfold number
    split
    · exact fun _ => .of_eq rfl
    · exact fun _ => .of_eq rfl
  apply numbered.bind
  intro fields
  apply Keeps.of_start
  intro between
  exact (writes _ options).bind (fun sent => record_lengthens (.messageSent sent)) between

theorem carries_lengthens : Carries environment Lengthens where
  remark _ event _ := record_lengthens event _
  upkeep _ _ same := .of_eq same.history
  left := setState_lengthens .disconnected
  unlogged := setState_lengthens .connected
  begun := setState_lengthens .loggingOn
  sent message options _ := send_lengthens writes message options
  loggedOn := setState_lengthens .loggedOn
  resending := setState_lengthens .resending
  discarded _ _ := record_lengthens _
  assigned _ _ same := .of_eq same.history
  restarted := restartSeqNums_lengthens
  resetLogon := fun session => send_lengthens writes _ _ session

theorem step_lengthens (input : Input) : Keeps Lengthens (step environment input) := by
  have carries := carries_lengthens writes
  apply step_keeps carries.shifts carries.loggedOn
  · intro message _
    exact ⟨record_lengthens _, record_lengthens _⟩
  · intro message options _
    exact send_lengthens writes message options

end Length

/-! ### Runs -/

/-- A message that the session is told to number has a field for the number. -/
def Input.Numbered : Input → Prop
  | .send message options =>
      options.setMsgSeqNum = true →
        (message.fields.tryGet Tag.MsgSeqNum).isSome = true
  | _ => True

theorem step_ordered (writes : WritesInOrder environment start) {input : Input}
    (numbered : input.Numbered) :
    Keeps (Preserves (Ordered start)) (step environment input) := by
  apply step_keeps (carries_ordered writes).shifts (carries_ordered writes).loggedOn
    fun _ _ => ⟨record_ordered rfl, record_ordered rfl⟩
  intro message options sends
  rw [sends] at numbered
  exact send_ordered writes numbered

/-- The writer takes every message, and what its handlers send can be
numbered. -/
structure World.Accepting (world : World) : Prop where
  accepts : ∀ session message options,
    world.refusal session message options = none
  numbered : ∀ session, ∀ input ∈ world.handlers session, input.Numbered

/-- The handlers run once the message is on the wire, one level deeper. -/
theorem World.write_succ {world : World} (accepts : world.Accepts) (depth : Nat)
    (message : Message) (options : EncodeOptions) {session after : Session}
    (written : after =
      { session with history := .written message options :: session.history }) :
    (world.environment (depth + 1)).write message options session =
      (handle (world.environment depth) (world.handlers after) >>= fun _ =>
        pure (world.encoded message options)) after := by
  change (world.accept message options >>= fun left => do
    let session ← Call.get
    handle (world.environment depth) (world.handlers session)
    pure left) session = _
  rw [Call.bind_of_ok (accepts.accept _ _ _), Call.get_bind, written]

theorem World.writesInOrder {world : World} (accepting : world.Accepting)
    (depth : Nat) : WritesInOrder (world.environment depth) start := by
  induction depth with
  | zero =>
      intro message options session ordered
      change Ordered start (world.accept message options session).2
      rw [World.Accepts.accept accepting.accepts]
      exact ordered
  | succ depth ih =>
      intro message options session ordered
      have nested (after : Session) : Keeps (Preserves (Ordered start))
          (handle (world.environment depth) (world.handlers after)) :=
        handle_keeps fun input member =>
          step_ordered ih (accepting.numbered after input member)
      rw [World.write_succ accepting.accepts depth message options rfl]
      exact ((nested _).bind fun _ => keeps_pure _) _ ordered

/-! ### The number that a message takes -/

theorem World.environment_lengthens (world : World) (depth : Nat) :
    ∀ message options,
      Keeps Lengthens ((world.environment depth).write message options) := by
  have accepts (message : Message) (options : EncodeOptions) :
      Keeps Lengthens (world.accept message options) := by
    apply Keeps.of_start
    intro session
    cases world.refusal session message options with
    | some exception =>
        exact (record_lengthens _).bind (fun _ => Call.keeps_raise exception) session
    | none => exact (record_lengthens _).bind (fun _ => keeps_pure _) session
  induction depth with
  | zero => exact accepts
  | succ depth ih =>
      intro message options
      apply (accepts message options).bind
      intro left
      apply Keeps.of_start
      intro session
      have handled : Keeps Lengthens (handle (world.environment depth)
          (world.handlers session)) :=
        handle_keeps fun input _ => step_lengthens ih input
      exact handled.bind (fun _ => keeps_pure left) session

theorem World.write_suffix {world : World} (accepts : world.Accepts) (depth : Nat)
    (message : Message) (options : EncodeOptions) (session : Session) :
    .written message options :: session.history <:+
      ((world.environment depth).write message options session).2.history := by
  cases depth with
  | zero =>
      have accepted := accepts.accept message options session
      exact ⟨[], (congrArg (fun called => called.2.history) accepted).symm⟩
  | succ depth =>
      obtain ⟨after, written⟩ : ∃ after : Session, after =
          { session with history := .written message options :: session.history } :=
        ⟨_, rfl⟩
      have handled : Keeps Lengthens
          (handle (world.environment depth) (world.handlers after)) :=
        handle_keeps fun input _ => step_lengthens (world.environment_lengthens depth) input
      have longer := (handled.bind fun _ => keeps_pure (world.encoded message options)) after
      have front : after.history = .written message options :: session.history := by
        rw [written]
      rw [World.write_succ accepts depth message options written, ← front]
      exact longer

theorem handOver_suffix {world : World} (accepts : world.Accepts) (depth : Nat)
    (message : Message) (options : EncodeOptions) (fields : FieldCollection)
    (session : Session) :
    ∃ timestamp, .written { message with fields := stamped timestamp options fields }
        options :: session.history <:+
      (handOver (world.environment depth) message options fields session).2.history := by
  have written (timestamp : Bytes) := World.write_suffix accepts depth
    { message with fields := stamped timestamp options fields } options session
  refine ⟨(world.environment depth).timestampString session.options.timestampFormat
    session, (written _).trans ?_⟩
  change _ <:+ (((world.environment depth).write _ options >>= fun sent =>
    record (.messageSent sent)) session).2.history
  rw [Call.bind_apply]
  generalize (world.environment depth).write _ options session = called
  rcases called with ⟨exception | sent, after⟩
  · exact List.suffix_refl _
  · exact List.suffix_cons _ _

theorem setState_returns (state : SessionState) (session : Session) :
    ∃ after, setState state session = (.ok (), after) := by
  by_cases same : session.state = state
  · exact ⟨_, setState_of_eq same⟩
  · exact ⟨_, setState_of_ne same⟩

theorem onlyIf_restartSeqNums (resets : Bool) (before : Session) :
    ∃ between, Call.onlyIf resets restartSeqNums before = (.ok (), between) ∧
      Lengthens before between ∧
      between.outgoingMsgSeqNum =
        if resets then 1 else before.outgoingMsgSeqNum := by
  cases resets with
  | false => exact ⟨before, rfl, Std.Refl.refl before, rfl⟩
  | true =>
      obtain ⟨entered, returned⟩ := setState_returns .resetting before
      have restarts : restartSeqNums before = (.ok (),
          { entered with
            outgoingMsgSeqNum := 1
            incomingMsgSeqNum := 1
            history := .outgoingSet 1 :: entered.history }) := by
        unfold restartSeqNums
        rw [Call.bind_of_ok returned]
        rfl
      have longer := restartSeqNums_lengthens before
      rw [restarts] at longer
      exact ⟨_, restarts, longer, rfl⟩

/-- Whatever the state, a call of `send` that takes a number hands a message with it
to the writer, before anything else is sent. -/
def HandsOverNumbers (environment : Environment) : Prop :=
  ∀ message options resets before, options.setMsgSeqNum = true →
    (message.fields.tryGet Tag.MsgSeqNum).isSome → message.isResetLogon = .ok resets →
    ∃ handed older, before.history <:+ older ∧
      .written handed options :: older <:+
        (send environment message options before).2.history ∧
      handed.numberText =
        some (decimal (if resets then 1 else before.outgoingMsgSeqNum).toNat)

theorem handsOverNumbers {world : World} (accepts : world.Accepts) (depth : Nat) :
    HandsOverNumbers (world.environment depth) := by
  intro message options resets before numbers numbered read
  obtain ⟨between, restarted, longer, taken⟩ := onlyIf_restartSeqNums resets before
  unfold send
  rw [read, Call.ofExcept_ok, Call.pure_bind, Call.bind_of_ok restarted, Call.get_bind]
  unfold number
  rw [if_pos numbers]
  obtain ⟨timestamp, handed⟩ := handOver_suffix accepts depth message options
    ((between.addressed options message.fields).put
      (Field.ofUInt32 Tag.MsgSeqNum between.outgoingMsgSeqNum))
    { between with outgoingMsgSeqNum := between.outgoingMsgSeqNum + 1 }
  refine ⟨_, between.history, longer, handed, ?_⟩
  rw [← taken]
  exact numberText_stamped between options message between.outgoingMsgSeqNum timestamp
    numbered

/-- The writer returns whatever message it is given with these options. -/
def Environment.Returns (environment : Environment) (options : EncodeOptions) :
    Prop :=
  ∀ message session, ∃ left,
    (environment.write message options session).1 = .ok left

theorem handOver_returns {options : EncodeOptions}
    (returns : Environment.Returns environment options) (message : Message)
    (fields : FieldCollection) (session : Session) :
    ∃ after, handOver environment message options fields session =
      (.ok (), after) := by
  change ∃ after, (environment.write _ options >>= fun sent =>
    record (.messageSent sent)) session = (.ok (), after)
  obtain ⟨left, returned⟩ := returns
    { message with
      fields := stamped (environment.timestampString
        session.options.timestampFormat session) options fields } session
  have called : environment.write _ options session = (.ok left, _) :=
    Prod.ext returned rfl
  rw [Call.bind_of_ok called]
  exact ⟨_, rfl⟩

theorem send_throws {options : EncodeOptions}
    (returns : Environment.Returns environment options) {message : Message}
    {session : Session} {exception : Exception}
    (thrown : (send environment message options session).1 = .error exception) :
    (send environment message options session).2 = session := by
  unfold send at *
  cases read : message.isResetLogon with
  | error problem => rfl
  | ok resets =>
      obtain ⟨after, first, -, -⟩ := onlyIf_restartSeqNums resets session
      rw [read, Call.ofExcept_ok, Call.pure_bind, Call.bind_of_ok first,
        Call.get_bind] at thrown
      have second : ∃ numbered between, number options
          (after.addressed options message.fields) after =
            (.ok numbered, between) := by
        unfold number
        split
        · exact ⟨_, _, rfl⟩
        · exact ⟨_, _, rfl⟩
      obtain ⟨numbered, between, allocated⟩ := second
      obtain ⟨last, finished⟩ := handOver_returns returns message numbered between
      rw [Call.bind_of_ok allocated, finished] at thrown
      cases thrown

end Sending

/-- In every run in which the writer refuses nothing and every message to be
numbered has a field for its number, and at every moment of it, the numbers on
the wire since the outgoing number was last assigned are consecutive, each on one
of the messages that `send` was to number and on no other message unless that was
given it, and the outgoing number is the next one.  A call of `send` hands over the number that it takes, and one that throws,
although the writer returns, changes nothing. -/
theorem run_numbers_consecutive {world : World} (accepting : world.Accepting)
    (depth : Nat) (options : SessionOptions) (incoming outgoing : UInt32)
    {inputs : List Input} (numbered : ∀ input ∈ inputs, input.Numbered)
    {session : Session}
    (reached : run (world.environment depth) inputs
      (create options incoming outgoing) = session) :
    (∀ older, older <:+ session.history →
        Consecutive outgoing older ∧
          ((wireNumbers older).length ≤ 4294967296 →
            (wireNumbers older).Nodup ∧
              ∀ index < (wireNumbers older).length,
                let carrying := carriers
                  (firstNumber outgoing older + UInt32.ofNat index) older
                carrying.countP EncodeOptions.setMsgSeqNum = 1 ∧
                  (carrying.length = 1 ↔
                    ∀ options ∈ carrying, options.setMsgSeqNum = true))) ∧
      session.outgoingMsgSeqNum =
        firstNumber outgoing session.history +
          UInt32.ofNat (wireNumbers session.history).length ∧
      HandsOverNumbers (world.environment depth) ∧
      ∀ message options exception,
        Environment.Returns (world.environment depth) options →
        (send (world.environment depth) message options session).1 =
            .error exception →
          (send (world.environment depth) message options session).2 =
            session := by
  have ordered : Ordered outgoing session := by
    rw [← reached]
    exact run_keeps
      (fun input member => step_ordered
        (World.writesInOrder accepting depth) (numbered input member))
      (create options incoming outgoing) (Ordered.create options incoming outgoing)
  refine ⟨?_, ordered.next, handsOverNumbers accepting.accepts depth, ?_⟩
  · intro older suffix
    have consecutive := ordered.always older suffix
    refine ⟨consecutive, ?_⟩
    intro bounded
    refine ⟨?_, ?_⟩
    · rw [consecutive]
      exact nodup_numbersFrom _ bounded
    · intro index taken
      have once := consecutive.countP_carriers bounded taken
      exact ⟨once, carriers_length_iff once⟩
  · intro message options exception returns thrown
    exact send_throws returns thrown

def heartbeat : Message :=
  Message.make true [⟨Tag.MsgType, MsgType.Heartbeat⟩]

/-- While the second message waits, a handler sends another one. -/
def World.nesting : World :=
  { World.plain with
    handlers := fun session =>
      if session.outgoingMsgSeqNum = 3 then [.send heartbeat .standard] else [] }

def requestOfAll : Message where
  fields :=
    [⟨Tag.BeginString, ascii "FIX.4.4"⟩, ⟨Tag.BodyLength, ascii "54"⟩,
      ⟨Tag.MsgType, MsgType.ResendRequest⟩, ⟨Tag.SenderCompID, ascii "A"⟩,
      ⟨Tag.TargetCompID, ascii "I"⟩, ⟨Tag.MsgSeqNum, ascii "1"⟩,
      ⟨Tag.SendingTime, ascii "20260101-00:00:00.000"⟩, ⟨Tag.BeginSeqNo, ascii "1"⟩,
      ⟨Tag.EndSeqNo, ascii "0"⟩, ⟨Tag.CheckSum, ascii "184"⟩]
  decodeChecksum := 184
  decodeChecksumValid := true

def nestedRun : Session :=
  run (World.nesting.environment 1)
    [.open, .send heartbeat .standard, .received requestOfAll, .send heartbeat .standard]
    (create initiatorOptions 1 1)

/-- Four numbered messages, the third sent while the second waits, and a gap fill
that carries the number of the first. -/
theorem run_numbers_consecutive_nested :
    (wireNumbers nestedRun.history).length = 4 ∧
      (carriers 1 nestedRun.history).length = 2 ∧
      Consecutive 1 nestedRun.history ∧
      (∀ index < 4,
        (carriers (1 + UInt32.ofNat index) nestedRun.history).countP
          EncodeOptions.setMsgSeqNum = 1) ∧
      ¬ ∀ options ∈ carriers 1 nestedRun.history, options.setMsgSeqNum = true := by
  have accepting : World.nesting.Accepting := by
    refine ⟨fun _ _ _ => rfl, ?_⟩
    intro session input member
    change input ∈ if session.outgoingMsgSeqNum = 3 then _ else [] at member
    split at member
    · rw [List.mem_singleton.mp member]
      exact fun _ => rfl
    · cases member
  have numbered : ∀ input ∈ [Input.open, .send heartbeat .standard,
      .received requestOfAll, .send heartbeat .standard], input.Numbered := by
    simp only [List.forall_mem_cons, Input.Numbered]
    exact ⟨trivial, fun _ => rfl, trivial, fun _ => rfl, nofun⟩
  have four : (wireNumbers nestedRun.history).length = 4 := by decide +kernel
  have first : firstNumber 1 nestedRun.history = 1 := by decide +kernel
  obtain ⟨consecutive, each⟩ := (run_numbers_consecutive accepting 1 initiatorOptions 1 1
    numbered rfl).1 nestedRun.history (List.suffix_refl _)
  have once := (each (by rw [four]; decide)).2
  rw [four, first] at once
  have twice : (carriers 1 nestedRun.history).length = 2 := by decide +kernel
  refine ⟨four, twice, consecutive, fun index taken => (once index taken).1, ?_⟩
  intro every
  have alone := (once 0 (by decide)).2.mpr every
  change (carriers 1 nestedRun.history).length = 1 at alone
  rw [twice] at alone
  exact absurd alone (by decide)

/-! ### A refused message -/

def World.full : World :=
  { World.plain with
    refusal := fun session _ _ =>
      if session.outgoingMsgSeqNum = 2 then
        some ⟨.runtimeError, ascii "failed to encode message"⟩
      else none }

/-- The refused message has taken the number 1, and the next one is sent with
the number 2. -/
theorem refused_message_leaves_hole :
    (send (World.full.environment 0) heartbeat .standard
        (create initiatorOptions 1 1)).1 =
      .error ⟨.runtimeError, ascii "failed to encode message"⟩ ∧
    (send (World.full.environment 0) heartbeat .standard
        (create initiatorOptions 1 1)).2.outgoingMsgSeqNum = 2 ∧
    wireNumbers (run (World.full.environment 0)
        [.send heartbeat .standard, .send heartbeat .standard]
        (create initiatorOptions 1 1)).history = [some (ascii "2")] ∧
    ¬ Consecutive 1 (run (World.full.environment 0)
        [.send heartbeat .standard, .send heartbeat .standard]
        (create initiatorOptions 1 1)).history := by
  refine ⟨?_, ?_, ?_, ?_⟩
  · decide
  · decide
  · decide
  · unfold Consecutive
    decide

end Session

end Crocofix

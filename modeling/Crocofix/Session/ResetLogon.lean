/-
The numbering after a Logon that resets the sequence numbers.

From any moment on, the messages that a session numbers get consecutive numbers,
until the outgoing number is assigned.  Where the peer announces the number that
it expects next, a Logon that resets the numbers assigns nothing.
-/

import Crocofix.Session.GapFills
import Crocofix.Session.Numbering

namespace Crocofix

open Numeral

namespace Session

open Call (Keeps Preserves)

/-! ### The numbers since a moment -/

/-- The numbers of the messages that were numbered since the outgoing number was
last assigned, whether the writer took them or not. -/
def assignedNumbers : List Event → List (Option Bytes)
  | [] => []
  | .outgoingSet _ :: _ => []
  | .written message options :: older | .refused message options _ :: older =>
      if options.setMsgSeqNum then assignedNumbers older ++ [message.numberText]
      else assignedNumbers older
  | _ :: older => assignedNumbers older

def Event.isPassive : Event → Bool
  | .outgoingSet _ | .written _ _ | .refused _ _ _ => false
  | _ => true

/-- The numbers in events are consecutive from the one at the start, or from the
one that was assigned last, and the given one is next. -/
structure Counts (start : UInt32) (events : List Event) (outgoing : UInt32) : Prop where
  numbers : assignedNumbers events =
    numbersFrom (firstNumber start events) (assignedNumbers events).length
  next : outgoing =
    firstNumber start events + UInt32.ofNat (assignedNumbers events).length

section Counting

variable {start outgoing : UInt32} {events : List Event}

theorem Counts.nil (start : UInt32) : Counts start [] start where
  numbers := rfl
  next := by simp [firstNumber, assignedNumbers]

theorem Counts.passive (counts : Counts start events outgoing) {event : Event}
    (passive : Event.isPassive event) : Counts start (event :: events) outgoing := by
  have numbers : assignedNumbers (event :: events) = assignedNumbers events := by
    cases event with
    | outgoingSet number => cases passive
    | written message options => cases passive
    | refused message options exception => cases passive
    | _ => rfl
  have first : firstNumber start (event :: events) = firstNumber start events := by
    cases event with
    | outgoingSet number => cases passive
    | _ => rfl
  constructor
  · rw [numbers, first]
    exact counts.numbers
  · rw [numbers, first]
    exact counts.next

theorem Counts.assigned (start number : UInt32) (events : List Event) :
    Counts start (.outgoingSet number :: events) number where
  numbers := rfl
  next := by simp [firstNumber, assignedNumbers]

/-- A message that is handed over has the next number, or is not numbered. -/
theorem Counts.handed (counts : Counts start events outgoing) {event : Event}
    {sent : Message} {options : EncodeOptions}
    (hands : event = .written sent options ∨
      ∃ exception, event = .refused sent options exception)
    (text : options.setMsgSeqNum = true →
      sent.numberText = some (decimal outgoing.toNat)) :
    Counts start (event :: events)
      (if options.setMsgSeqNum then outgoing + 1 else outgoing) := by
  have numbers : assignedNumbers (event :: events) =
      if options.setMsgSeqNum then assignedNumbers events ++ [sent.numberText]
      else assignedNumbers events := by
    rcases hands with rfl | ⟨exception, rfl⟩
    · rfl
    · rfl
  have first : firstNumber start (event :: events) = firstNumber start events := by
    rcases hands with rfl | ⟨exception, rfl⟩
    · rfl
    · rfl
  cases sets : options.setMsgSeqNum with
  | false =>
      rw [sets, if_neg Bool.false_ne_true] at numbers
      rw [if_neg Bool.false_ne_true]
      constructor
      · rw [numbers, first]
        exact counts.numbers
      · rw [numbers, first]
        exact counts.next
  | true =>
      rw [sets, if_pos rfl, text sets] at numbers
      rw [if_pos rfl]
      constructor
      · rw [numbers, first, List.length_append, List.length_singleton,
          numbersFrom_succ, ← counts.numbers, ← counts.next]
      · rw [numbers, first, List.length_append, List.length_singleton, counts.next]
        simp [UInt32.add_assoc]

end Counting

/-! ### Every step counts -/

def Counted (base session : Session) : Prop :=
  ∃ newer, session.history = newer ++ base.history ∧
    Counts base.outgoingMsgSeqNum newer session.outgoingMsgSeqNum

section Steps

variable {base session : Session}

theorem Counted.refl (session : Session) : Counted session session :=
  ⟨[], rfl, .nil _⟩

theorem Counted.same {after : Session} (counted : Counted base session)
    (history : after.history = session.history)
    (outgoing : after.outgoingMsgSeqNum = session.outgoingMsgSeqNum) :
    Counted base after := by
  obtain ⟨newer, grown, counts⟩ := counted
  rw [← outgoing] at counts
  exact ⟨newer, history.trans grown, counts⟩

theorem Counted.passive {after : Session} (counted : Counted base session)
    {event : Event} (passive : Event.isPassive event)
    (history : after.history = event :: session.history)
    (outgoing : after.outgoingMsgSeqNum = session.outgoingMsgSeqNum) :
    Counted base after := by
  obtain ⟨newer, grown, counts⟩ := counted
  rw [← outgoing] at counts
  refine ⟨event :: newer, ?_, counts.passive passive⟩
  rw [history, grown, List.cons_append]

theorem isPassive_of_isNotice {event : Event} (isNotice : event.isNotice) :
    Event.isPassive event := by
  cases event with
  | outgoingSet number => cases isNotice
  | written message options => cases isNotice
  | refused message options exception => cases isNotice
  | _ => rfl

theorem setState_counted (state : SessionState) :
    Keeps (Preserves (Counted base)) (setState state) := by
  intro session counted
  by_cases same : session.state = state
  · rw [setState_of_eq same]
    exact counted
  · rw [setState_of_ne same]
    exact counted.passive rfl rfl rfl

theorem restartSeqNums_counted :
    Keeps (Preserves (Counted base)) restartSeqNums := by
  apply (setState_counted .resetting).bind
  intro _ session counted
  obtain ⟨newer, grown, -⟩ := counted
  exact ⟨.outgoingSet 1 :: newer, congrArg (List.cons _) grown, .assigned _ _ _⟩

variable (world : World)

theorem handing_counted {message sent : Message} {options : EncodeOptions}
    {outcome : Except Exception Unit × Session} (counted : Counted base session)
    (place : options.setMsgSeqNum = true →
      (message.fields.tryGet Tag.MsgSeqNum).isSome)
    (given : Given session options message sent)
    (handing : Handing session sent options outcome) : Counted base outcome.2 := by
  obtain ⟨newer, grown, counts⟩ := counted
  have text : options.setMsgSeqNum = true →
      sent.numberText = some (decimal session.outgoingMsgSeqNum.toNat) := by
    intro sets
    obtain ⟨old, found⟩ := Option.isSome_iff_exists.mp (place sets)
    unfold Message.numberText
    rw [given.number, if_pos sets, found]
    rfl
  cases handing with
  | taken left =>
      have next := (counts.handed (.inl rfl) text).passive
        (show Event.isPassive (.messageSent left) from rfl)
      refine ⟨.messageSent left :: .written sent options :: newer, ?_, next⟩
      rw [grown]
      rfl
  | refused exception =>
      have next := counts.handed (.inr ⟨exception, rfl⟩) text
      refine ⟨.refused sent options exception :: newer, ?_, next⟩
      rw [grown]
      rfl

theorem send_counted {message : Message} {options : EncodeOptions}
    (place : options.setMsgSeqNum = true →
      (message.fields.tryGet Tag.MsgSeqNum).isSome) :
    Keeps (Preserves (Counted base)) (send (world.environment 0) message options) := by
  intro session counted
  cases read : message.isResetLogon with
  | error exception =>
      unfold send
      rw [read]
      exact counted
  | ok resets =>
      obtain ⟨between, sent, first, given, handing⟩ :=
        send_handing world options read session
      have restarted : Keeps (Preserves (Counted base))
          (Call.onlyIf resets restartSeqNums) := by
        apply Keeps.onlyIf
        intro _
        exact restartSeqNums_counted
      have started := restarted session counted
      rw [first] at started
      exact handing_counted started place given handing

theorem carries_counted : Carries (world.environment 0) (Preserves (Counted base)) where
  remark _ _ isRemark counted :=
    counted.passive (isPassive_of_isNotice (Event.isNotice_of_isRemark isRemark)) rfl rfl
  upkeep _ _ same counted := counted.same same.history same.outgoing
  left := setState_counted .disconnected
  unlogged := setState_counted .connected
  begun := setState_counted .loggingOn
  sent _ _ ordinary := send_counted world fun _ => ordinary.numbered
  loggedOn := setState_counted .loggedOn
  resending := setState_counted .resending
  discarded _ _ _ counted := counted.passive rfl rfl rfl
  assigned _ _ same counted := counted.same same.history same.outgoing
  restarted := restartSeqNums_counted
  resetLogon := by
    intro session
    unfold sendLogon
    rw [Call.get_bind]
    refine send_counted world (fun _ => ?_) session
    cases session.options.useNextExpectedMsgSeqNum with
    | false => rfl
    | true => rfl

theorem step_counted {input : Input} (numbered : input.Numbered) :
    Keeps (Preserves (Counted base)) (step (world.environment 0) input) := by
  have carries := @carries_counted base world
  apply step_keeps carries.shifts carries.loggedOn
  · intro message _
    exact ⟨fun _ counted => counted.passive rfl rfl rfl,
      fun _ counted => counted.passive rfl rfl rfl⟩
  · intro message options sends
    rw [sends] at numbered
    exact send_counted world numbered

theorem run_counted (session : Session) {inputs : List Input}
    (numbered : ∀ input ∈ inputs, input.Numbered) :
    Counted session (run (world.environment 0) inputs session) :=
  run_keeps (fun input member => step_counted world (numbered input member)) session
    (.refl session)

end Steps

/-! ### Where the outgoing number is assigned -/

abbrev Unset : Session → Session → Prop :=
  Adds fun event => ∀ number, event ≠ .outgoingSet number

theorem firstNumber_of_unset {events : List Event}
    (unset : ∀ event ∈ events, ∀ number, event ≠ .outgoingSet number)
    (start : UInt32) : firstNumber start events = start := by
  induction events with
  | nil => rfl
  | cons event older ih =>
      have rest := ih fun other member => unset other (List.mem_cons_of_mem _ member)
      cases event with
      | outgoingSet number => exact absurd rfl (unset _ List.mem_cons_self number)
      | _ => exact rest

theorem firstNumber_of_set {events : List Event} {number : UInt32}
    (member : Event.outgoingSet number ∈ events) (start other : UInt32) :
    firstNumber start events = firstNumber other events := by
  induction events with
  | nil => cases member
  | cons event older ih =>
      cases event with
      | outgoingSet first => rfl
      | _ =>
          rcases List.mem_cons.mp member with impossible | earlier
          · cases impossible
          · exact ih earlier

section Setting

variable (world : World)

theorem setState_unset (state : SessionState) : Keeps Unset (setState state) := by
  intro session
  by_cases same : session.state = state
  · rw [setState_of_eq same]
    exact Std.Refl.refl session
  · rw [setState_of_ne same]
    refine .cons ?_ rfl
    intro number impossible
    cases impossible

theorem send_unset {message : Message} (options : EncodeOptions)
    (ordinary : message.isResetLogon = .ok false) :
    Keeps Unset (send (world.environment 0) message options) := by
  intro session
  obtain ⟨sent, -, handing⟩ := send_ordinary world options ordinary session
  revert handing
  generalize send (world.environment 0) message options session = called
  intro handing
  cases handing with
  | taken left =>
      refine ⟨[.messageSent left, .written sent options], rfl, ?_⟩
      intro event member number impossible
      rw [impossible] at member
      simp at member
  | refused exception =>
      refine ⟨[.refused sent options exception], rfl, ?_⟩
      intro event member number impossible
      rw [impossible] at member
      simp at member

theorem bears_unset : Bears (world.environment 0) Unset where
  remark session event isRemark := by
    refine .cons ?_ rfl
    rintro number rfl
    cases isRemark
  upkeep _ _ same := .of_same same.history
  left := setState_unset .disconnected
  unlogged := setState_unset .connected
  begun := setState_unset .loggingOn
  sent _ options ordinary := send_unset world options ordinary.resets

theorem restartSeqNums_sets (session : Session) :
    ∃ rest, (restartSeqNums session).2.history =
      .outgoingSet 1 :: rest ++ session.history := by
  unfold restartSeqNums
  by_cases same : session.state = .resetting
  · rw [Call.bind_of_ok (setState_of_eq same)]
    exact ⟨[], rfl⟩
  · rw [Call.bind_of_ok (setState_of_ne same)]
    exact ⟨[.stateChanged session.state .resetting], rfl⟩

end Setting

/-! ### Accepted Logons that reset the numbers -/

def Sets (before after : Session) : Prop :=
  ∃ newer, after.history = newer ++ before.history ∧ Event.outgoingSet 1 ∈ newer

theorem Sets.grows {before between after : Session} (sets : Sets before between)
    (grows : Adds (fun _ => True) between after) : Sets before after := by
  obtain ⟨early, earlyEq, member⟩ := sets
  obtain ⟨late, lateEq, -⟩ := grows
  refine ⟨late ++ early, ?_, List.mem_append_right late member⟩
  rw [lateEq, earlyEq, List.append_assoc]

theorem Sets.of_grown {before between after : Session}
    (grows : Adds (fun _ => True) before between) (sets : Sets between after) :
    Sets before after := by
  obtain ⟨early, earlyEq, -⟩ := grows
  obtain ⟨late, lateEq, member⟩ := sets
  refine ⟨late ++ early, ?_, List.mem_append_left early member⟩
  rw [lateEq, earlyEq, List.append_assoc]

section Accepted

variable (world : World) {logon : Message} {session : Session}

theorem reset_sets (session : Session) :
    (reset session).1 = .ok () ∧ Sets session (reset session).2 := by
  obtain ⟨stopped, run, -⟩ := stopDefibrillator_spec session
  have grown := stopDefibrillator_keeps (speaks_grows World.plain) session
  rw [run] at grown
  obtain ⟨rest, history⟩ := restartSeqNums_sets stopped
  unfold reset
  rw [Call.bind_of_ok run]
  obtain ⟨_, -, returned⟩ := restartSeqNums_spec stopped
  refine ⟨by rw [returned], .of_grown grown ⟨_, history, List.mem_cons_self⟩⟩

theorem processResetLogon_sets (read : logon.MsgSeqNum = .ok 1)
    (idle : session.state ≠ .resetting) :
    Sets session (processResetLogon (world.environment 0) logon session).2 := by
  have speaks := speaks_grows world
  have turns := (carries_adds (fun _ _ => trivial) world).shifts.turns
  obtain ⟨text, textEq⟩ : ∃ text, text = ascii
    "Logon message received with ResetSeqNumFlag - resetting sequence numbers" :=
    ⟨_, rfl⟩
  have told := speaks.remark session (.information text) rfl
  obtain ⟨returned, sets⟩ := reset_sets
    { session with history := .information text :: session.history }
  have run : reset { session with history := .information text :: session.history } =
    (.ok (), _) := Prod.ext returned rfl
  have rest : Keeps (Adds fun _ => True) (do
      sendLogon (world.environment 0) true
      sendPostLogonTestRequest (world.environment 0)
      pure true : Action Bool) := by
    apply turns.resetLogon.bind
    intro _
    apply (sendPostLogonTestRequest_keeps speaks).bind
    intro _
    exact Call.keeps_pure true
  unfold processResetLogon
  rw [read, Call.ofExcept_ok, Call.pure_bind, if_neg (not_not.mpr rfl), Call.get_bind,
    if_neg idle, record_bind, ← textEq, Call.bind_of_ok run]
  exact (Sets.of_grown told sets).grows (rest _)

/-- The number from which a session that takes a Logon with the ResetSeqNumFlag is
to go on. -/
def numberingStart (session : Session) : UInt32 :=
  if session.state = .resetting then session.outgoingMsgSeqNum else 1

/-- The session expects the number 2, and in every run that follows the messages
that it numbers have consecutive numbers, from the Logon on. -/
structure Renumbers (world : World) (session : Session) (logon : Message) : Prop where
  incoming : (step (world.environment 0) (.received logon) session).2.incomingMsgSeqNum
    = 2
  numbers : ∀ inputs events, (∀ input ∈ inputs, Input.Numbered input) →
    events = newEvents session
      (run (world.environment 0) (.received logon :: inputs) session) →
    assignedNumbers events =
      numbersFrom (firstNumber session.numberingStart events)
        (assignedNumbers events).length

theorem accepted_unset (typed : logon.MsgType = .ok MsgType.Logon)
    (expects : session.options.useNextExpectedMsgSeqNum = true)
    (accepted : Event.accepted logon ∈ newEvents session
      (step (world.environment 0) (.received logon) session).2) :
    Unset session (step (world.environment 0) (.received logon) session).2 := by
  obtain ⟨-, -, number, between, -, processed, stepped⟩ :=
    processLogon_of_accepted typed accepted
  have returned : (processLogon (world.environment 0) logon
      (session.told logon)).1 = .ok true := by rw [processed]
  obtain ⟨⟨flag, flagged⟩, ⟨heartBtInt, interval, beats, readInterval⟩, -⟩ :=
    processLogon_accepts returned
  have run := @processLogon_expects (session.told logon) (world.environment 0) logon
    heartBtInt interval flag flagged beats readInterval expects
  rw [run] at processed
  have kept := processNextExpected_keeps (bears_unset world).suits
    (setState_unset .resending) logon ((session.told logon).welcomed interval)
  rw [processed] at kept
  have heard : Unset session ((session.told logon).welcomed interval) := by
    refine @Adds.cons _ (.messageReceived logon) ?_ _ _ rfl
    intro number impossible
    cases impossible
  have marked : Unset between { between with
      incomingMsgSeqNum := number + 1
      history := .accepted logon :: between.history } := by
    refine @Adds.cons _ (.accepted logon) ?_ _ _ rfl
    intro number impossible
    cases impossible
  rw [stepped]
  exact IsTrans.trans _ _ _ heard (IsTrans.trans _ _ _ kept marked)

theorem accepted_sets (typed : logon.MsgType = .ok MsgType.Logon)
    (resets : logon.ResetSeqNumFlag = .ok true) (first : logon.MsgSeqNum = .ok 1)
    (off : session.options.useNextExpectedMsgSeqNum = false)
    (idle : session.state ≠ .resetting)
    (accepted : Event.accepted logon ∈ newEvents session
      (step (world.environment 0) (.received logon) session).2) :
    Sets session (step (world.environment 0) (.received logon) session).2 := by
  obtain ⟨-, -, number, between, -, processed, stepped⟩ :=
    processLogon_of_accepted typed accepted
  have returned : (processLogon (world.environment 0) logon
      (session.told logon)).1 = .ok true := by rw [processed]
  obtain ⟨-, ⟨heartBtInt, interval, beats, readInterval⟩, -⟩ :=
    processLogon_accepts returned
  have sets := @processResetLogon_sets world logon
    ((session.told logon).welcomed interval) first idle
  have run : processLogon (world.environment 0) logon (session.told logon) =
      processResetLogon (world.environment 0) logon
        ((session.told logon).welcomed interval) := by
    have plain : ¬ (session.told logon).options.useNextExpectedMsgSeqNum :=
      fun expects => Bool.false_ne_true (off.symm.trans expects)
    rw [processLogon_of_read resets beats readInterval, if_neg plain, if_pos rfl]
    rfl
  rw [run] at processed
  rw [processed] at sets
  have heard : Adds (fun _ => True) session ((session.told logon).welcomed interval) :=
    @Adds.cons _ (.messageReceived logon) trivial _ _ rfl
  have marked : Adds (fun _ => True) between { between with
      incomingMsgSeqNum := number + 1
      history := .accepted logon :: between.history } :=
    @Adds.cons _ (.accepted logon) trivial _ _ rfl
  rw [stepped]
  exact (Sets.of_grown heard sets).grows marked

theorem numbersFrom_injective {left right : UInt32} {count : Nat}
    (same : numbersFrom left (count + 1) = numbersFrom right (count + 1)) :
    left = right := by
  have heads := congrArg (fun numbers => numbers[0]?) same
  simp only [numbersFrom, List.getElem?_map, List.getElem?_range (Nat.succ_pos count),
    Option.map_some, Option.some.injEq] at heads
  have sums := UInt32.toNat_inj.mp (decimal_injective heads)
  exact (UInt32.add_left_inj _).mp sums

theorem assignedNumbers_sent {after : Session} {newer early : List Event}
    (history : after.history = early ++ session.history)
    (grown : (send (world.environment 0) heartbeat .standard after).2.history =
      newer ++ session.history) :
    ∃ count, (assignedNumbers newer).length = count + 1 := by
  have ordinary : heartbeat.isResetLogon = .ok false := by decide
  obtain ⟨sent, -, handing⟩ := send_ordinary world .standard ordinary after
  revert handing grown
  generalize send (world.environment 0) heartbeat .standard after = called
  intro grown handing
  refine ⟨(assignedNumbers early).length, ?_⟩
  cases handing with
  | taken left =>
      have events : .messageSent left :: .written sent .standard :: early = newer := by
        refine List.append_cancel_right (?_ : _ ++ session.history = _ ++ session.history)
        rw [← grown, List.cons_append, List.cons_append, ← history]
      rw [← events]
      exact List.length_append
  | refused exception =>
      have events : .refused sent .standard exception :: early = newer := by
        refine List.append_cancel_right (?_ : _ ++ session.history = _ ++ session.history)
        rw [← grown, List.cons_append, ← history]
      rw [← events]
      exact List.length_append

/-- Where the step assigns nothing, the numbers go on from the outgoing number. -/
theorem Renumbers.outgoing (renumbers : Renumbers world session logon)
    (unset : Unset session (step (world.environment 0) (.received logon) session).2) :
    session.outgoingMsgSeqNum = session.numberingStart := by
  obtain ⟨final, finalEq⟩ : ∃ final, final = run (world.environment 0)
      [.received logon, .send heartbeat .standard] session := ⟨_, rfl⟩
  have place : Input.Numbered (.send heartbeat .standard) := fun _ => rfl
  have numbered : ∀ input ∈ [Input.received logon, .send heartbeat .standard],
      input.Numbered := by
    intro input member
    simp only [List.mem_cons, List.not_mem_nil, or_false] at member
    rcases member with rfl | rfl
    · exact trivial
    · exact place
  obtain ⟨newer, grown, counts⟩ := run_counted world session numbered
  rw [← finalEq] at grown counts
  have stays : Unset session final := by
    rw [finalEq]
    have ordinary : heartbeat.isResetLogon = .ok false := by decide
    exact IsTrans.trans _ _ _ unset (send_unset world .standard ordinary _)
  have unsetEvents : ∀ event ∈ newer, ∀ number, event ≠ .outgoingSet number := by
    have events := Adds.newEvents stays
    rwa [newEvents_eq grown] at events
  have kept := renumbers.numbers [.send heartbeat .standard] newer
    (fun input member => numbered input (List.mem_cons_of_mem _ member)) (by
      rw [← finalEq, newEvents_eq grown])
  obtain ⟨early, history⟩ := step_extends world session (.received logon)
  rw [finalEq] at grown
  obtain ⟨count, length⟩ := assignedNumbers_sent world history grown
  have counted := counts.numbers
  rw [firstNumber_of_unset unsetEvents, length] at kept counted
  exact numbersFrom_injective (counted.symm.trans kept)

/-- After an accepted Logon that resets the sequence numbers, and in every run that
follows, the session numbers its messages from 1 on, or from its own such Logon on,
if and only if the peer does not announce the number that it expects, the session
has reset its numbers already, or its next number is 1 anyway. -/
theorem reset_logon_renumbers_iff (typed : logon.MsgType = .ok MsgType.Logon)
    (resets : logon.ResetSeqNumFlag = .ok true) (first : logon.MsgSeqNum = .ok 1)
    (accepted : Event.accepted logon ∈ newEvents session
      (step (world.environment 0) (.received logon) session).2) :
    Renumbers world session logon ↔
      session.options.useNextExpectedMsgSeqNum = false ∨
        session.state = .resetting ∨ session.outgoingMsgSeqNum = 1 := by
  constructor
  · intro renumbers
    by_cases off : session.options.useNextExpectedMsgSeqNum = false
    · exact .inl off
    · have expects : session.options.useNextExpectedMsgSeqNum = true :=
        Bool.eq_true_of_not_eq_false off
      have same := renumbers.outgoing world (accepted_unset world typed expects accepted)
      by_cases resetting : session.state = .resetting
      · exact .inr (.inl resetting)
      · unfold numberingStart at same
        rw [if_neg resetting] at same
        exact .inr (.inr same)
  · intro condition
    constructor
    · obtain ⟨-, -, number, between, read, -, stepped⟩ :=
        processLogon_of_accepted typed accepted
      rw [first] at read
      cases read
      rw [stepped]
      rfl
    · intro inputs events numbered eventsEq
      have all : ∀ input ∈ Input.received logon :: inputs, input.Numbered := by
        intro input member
        rcases List.mem_cons.mp member with rfl | later
        · exact trivial
        · exact numbered input later
      obtain ⟨newer, grown, counts⟩ := run_counted world session all
      rw [newEvents_eq grown] at eventsEq
      have start : firstNumber session.numberingStart newer =
          firstNumber session.outgoingMsgSeqNum newer := by
        unfold numberingStart
        by_cases resetting : session.state = .resetting
        · rw [if_pos resetting]
        · rw [if_neg resetting]
          rcases condition with off | impossible | one
          · obtain ⟨early, earlyEq, member⟩ :=
              accepted_sets world typed resets first off resetting accepted
            obtain ⟨late, lateEq⟩ := run_extends world inputs
              (step (world.environment 0) (.received logon) session).2
            have whole : newer = late ++ early := by
              refine List.append_cancel_right (?_ : _ ++ session.history = _ ++ session.history)
              rw [← grown, List.append_assoc, ← earlyEq, ← lateEq]
              rfl
            rw [whole]
            exact firstNumber_of_set (List.mem_append_right late member) _ _
          · exact absurd impossible resetting
          · rw [one]
      rw [eventsEq, start]
      exact counts.numbers

end Accepted

def resettingLogon (bodyLength : Bytes) (announced : List Field) (checksum : UInt32)
    (trailer : Bytes) : Message where
  fields :=
    [⟨Tag.BeginString, ascii "FIX.4.4"⟩, ⟨Tag.BodyLength, bodyLength⟩,
      ⟨Tag.MsgType, MsgType.Logon⟩, ⟨Tag.SenderCompID, ascii "I"⟩,
      ⟨Tag.TargetCompID, ascii "A"⟩, ⟨Tag.MsgSeqNum, ascii "1"⟩,
      ⟨Tag.SendingTime, ascii "20260101-00:00:00.000"⟩,
      ⟨Tag.EncryptMethod, EncryptMethod.None⟩, ⟨Tag.HeartBtInt, ascii "30"⟩,
      ⟨Tag.ResetSeqNumFlag, ascii "Y"⟩] ++ announced ++ [⟨Tag.CheckSum, trailer⟩]
  decodeChecksum := checksum
  decodeChecksumValid := true

def resetsAnnounced : Message :=
  resettingLogon (ascii "69") [⟨Tag.NextExpectedMsgSeqNum, ascii "1"⟩] 175 (ascii "175")

def resetsPlainly : Message := resettingLogon (ascii "63") [] 146 (ascii "146")

/-- The acceptor fills the gap up to 5 and sends its Logon with that number. -/
theorem announced_reset_goes_on :
    Event.accepted resetsAnnounced ∈ newEvents resumingAcceptor
        (step (World.plain.environment 0) (.received resetsAnnounced)
          resumingAcceptor).2 ∧
      (handedIn (newEvents resumingAcceptor (step (World.plain.environment 0)
        (.received resetsAnnounced) resumingAcceptor).2)).map
          (fun sent => (sent.MsgType, sent.MsgSeqNum)) =
        [(.ok MsgType.SequenceReset, .ok 1), (.ok MsgType.Logon, .ok 5)] ∧
      ¬ Renumbers World.plain resumingAcceptor resetsAnnounced := by
  refine ⟨by decide, by decide, ?_⟩
  intro renumbers
  have numbers := renumbers.numbers [] _ (fun input member => by cases member) rfl
  exact absurd numbers (by decide)

def unannouncedAcceptor : Session :=
  run (World.plain.environment 0) [.open]
    { announcingAcceptor with
      options := { announcingAcceptor.options with useNextExpectedMsgSeqNum := false }
      outgoingMsgSeqNum := 5 }

theorem reset_logon_renumbers_iff_plain :
    Renumbers World.plain unannouncedAcceptor resetsPlainly :=
  (@reset_logon_renumbers_iff World.plain resetsPlainly unannouncedAcceptor rfl rfl rfl
    (by decide)).mpr (.inl rfl)

end Session

end Crocofix

/-
What `message_received` tells the application.

The signal is raised for every message that the reader delivers, before
anything is checked.  Only the messages that the session goes on to accept have
passed the checks, and only their numbers increase.
-/

import Crocofix.Session.Carry
import Crocofix.Session.Disconnected
import Crocofix.Session.Incoming

namespace Crocofix

open Numeral

/-- The event neither resets the sequence numbers nor accepts a message. -/
def Event.IsPlain (event : Event) : Prop :=
  event.isQuiet ∨ ∃ received expected, event = .discarded received expected

theorem Event.IsPlain.ne_accepted {event : Event} (isPlain : event.IsPlain)
    (message : Message) : event ≠ .accepted message := by
  rintro rfl
  rcases isPlain with quiet | ⟨received, expected, same⟩
  · cases quiet
  · cases same

/-- The event marks that a message comes, or that one moves the incoming
number. -/
def Event.isAdmission : Event → Bool
  | .messageReceived _ | .accepted _ => true
  | _ => false

def Event.receipt : Event → Option Message
  | .messageReceived message => some message
  | _ => none

def Event.applicationNumber : Event → Option UInt32
  | .accepted message =>
      if message.IsApplication then message.MsgSeqNum.toOption else none
  | _ => none

namespace Session

open Call (Keeps keeps_pure)

def Input.receipt : Input → Option Message
  | .received message => some message
  | _ => none

theorem Input.eq_of_receipt {input : Input} {message : Message}
    (receipt : input.receipt = some message) : input = .received message := by
  cases input with
  | received other =>
      injection receipt with same
      rw [same]
  | _ => cases receipt

/-- The messages that the application is told of, the latest first. -/
def receipts (history : List Event) : List Message :=
  history.filterMap Event.receipt

/-- The numbers of the application messages accepted since the sequence numbers
were last reset, the latest first. -/
def numbersSinceReset (history : List Event) : List UInt32 :=
  (history.takeWhile fun event => !event.resets).filterMap
    Event.applicationNumber

/-! ### The events of a step -/

def Adds (permitted : Event → Prop) (before after : Session) : Prop :=
  ∃ newer, after.history = newer ++ before.history ∧
    ∀ event ∈ newer, permitted event

section Adding

variable {permitted : Event → Prop}

theorem Adds.of_same {before after : Session}
    (same : after.history = before.history) : Adds permitted before after := by
  refine ⟨[], same, ?_⟩
  intro event member
  cases member

theorem Adds.cons {event : Event} (permits : permitted event)
    {before after : Session} (grown : after.history = event :: before.history) :
    Adds permitted before after := by
  refine ⟨[event], grown, ?_⟩
  intro other member
  rw [List.mem_singleton.mp member]
  exact permits

instance : Std.Refl (Adds permitted) where
  refl _ := .of_same rfl

instance : IsTrans Session (Adds permitted) where
  trans := by
    rintro first second third ⟨early, earlyEq, earlyPermits⟩
      ⟨late, lateEq, latePermits⟩
    refine ⟨late ++ early, ?_, ?_⟩
    · rw [lateEq, earlyEq, List.append_assoc]
    · intro event member
      rcases List.mem_append.mp member with new | old
      · exact latePermits event new
      · exact earlyPermits event old

variable (permits : ∀ event, event.isAdmission = false → permitted event)

include permits

theorem record_adds {event : Event} (ordinary : event.isAdmission = false) :
    Keeps (Adds permitted) (record event) := by
  intro session
  exact .cons (permits event ordinary) rfl

theorem setState_adds (state : SessionState) :
    Keeps (Adds permitted) (setState state) := by
  intro session
  by_cases same : session.state = state
  · rw [setState_of_eq same]
    exact Std.Refl.refl session
  · rw [setState_of_ne same]
    exact .cons (permits _ rfl) rfl

omit permits in
theorem modify_adds {change : Session → Session}
    (same : ∀ session, (change session).history = session.history) :
    Keeps (Adds permitted) (Call.modify change : Action Unit) := by
  intro session
  exact .of_same (same session)

theorem restartSeqNums_adds : Keeps (Adds permitted) restartSeqNums := by
  apply (setState_adds permits .resetting).bind
  intro _
  apply Keeps.bind
  · apply Keeps.bind
    · exact modify_adds fun _ => rfl
    · intro _
      exact record_adds permits rfl
  · intro _
    exact modify_adds fun _ => rfl

variable (world : World)

theorem accept_adds (message : Message) (options : EncodeOptions) :
    Keeps (Adds permitted) (world.accept message options) := by
  apply Keeps.of_start
  intro session
  cases world.refusal session message options with
  | some exception =>
      exact ((record_adds permits rfl).bind fun _ =>
        Call.keeps_raise exception) session
  | none =>
      exact ((record_adds permits rfl).bind fun _ => keeps_pure _) session

theorem send_adds (message : Message) (options : EncodeOptions) :
    Keeps (Adds permitted) (send (world.environment 0) message options) := by
  have reads : Keeps (Adds permitted)
      (Call.ofExcept message.isResetLogon : Action Bool) :=
    Call.keeps_ofExcept _
  apply reads.bind
  intro resets
  apply Keeps.bind
  · apply Keeps.onlyIf
    intro _
    exact restartSeqNums_adds permits
  · intro _
    apply Keeps.of_start
    intro session
    have numbers : Keeps (Adds permitted)
        (number options (session.addressed options message.fields)) := by
      apply Keeps.ite
      · intro _
        apply Keeps.bind
        · intro before
          exact .of_same rfl
        · intro _
          exact keeps_pure _
      · intro _
        exact keeps_pure _
    refine (numbers.bind ?_) session
    intro fields
    apply Keeps.of_start
    intro between
    refine (Keeps.bind (accept_adds permits world _ options) ?_) between
    intro sent
    exact record_adds permits rfl

theorem carries_adds : Carries (world.environment 0) (Adds permitted) where
  remark session event isRemark := by
    refine .cons (permits event ?_) rfl
    cases event with
    | messageReceived message => cases isRemark
    | accepted message => cases isRemark
    | _ => rfl
  upkeep _ _ same := .of_same same.history
  left := setState_adds permits .disconnected
  unlogged := setState_adds permits .connected
  begun := setState_adds permits .loggingOn
  sent message options _ := send_adds permits world message options
  loggedOn := setState_adds permits .loggedOn
  resending := setState_adds permits .resending
  discarded _ _ := record_adds permits rfl
  assigned _ _ same := .of_same same.history
  restarted := restartSeqNums_adds permits
  resetLogon := by
    intro session
    exact send_adds permits world _ _ session

end Adding

def Admissible (input : Input) : Event → Prop
  | .messageReceived _ => False
  | .accepted message => input = .received message
  | _ => True

variable (world : World)

theorem step_adds (input : Input) (session : Session) :
    ∃ newer, (step (world.environment 0) input session).2.history =
        newer ++ (input.receipt.map Event.messageReceived).toList ++
          session.history ∧
      ∀ event ∈ newer, Admissible input event := by
  have permits : ∀ event, Event.isAdmission event = false →
      Admissible input event := by
    intro event ordinary
    cases event with
    | messageReceived message => cases ordinary
    | accepted message => cases ordinary
    | _ => trivial
  have carries := carries_adds permits world
  cases receipt : input.receipt with
  | some message =>
      have received := Input.eq_of_receipt receipt
      have allowed : Admissible input (.accepted message) := received
      have marked : Keeps (Adds (Admissible input)) (record (.accepted message)) :=
        fun before => .cons allowed rfl
      obtain ⟨newer, grown, admissible⟩ := afterReceipt_keeps carries.shifts
        carries.loggedOn marked
        { session with history := .messageReceived message :: session.history }
      refine ⟨newer, ?_, admissible⟩
      rw [received, List.append_assoc]
      exact grown
  | none =>
      have notReceived : ∀ message, input ≠ .received message := by
        rintro message rfl
        cases receipt
      obtain ⟨newer, grown, admissible⟩ := step_keeps carries.shifts carries.loggedOn
        (fun message received => absurd received (notReceived message))
        (fun message options _ => send_adds permits world message options) session
      refine ⟨newer, ?_, admissible⟩
      simpa using grown

/-- The application is told of every message once, in the order in which the
reader delivers them. -/
theorem receipts_run (inputs : List Input) (session : Session) :
    receipts (run (world.environment 0) inputs session).history =
      (inputs.filterMap Input.receipt).reverse ++ receipts session.history := by
  induction inputs generalizing session with
  | nil => rfl
  | cons input rest ih =>
      obtain ⟨newer, grown, admissible⟩ := step_adds world input session
      have untold : newer.filterMap Event.receipt = [] := by
        rw [List.filterMap_eq_nil_iff]
        intro event member
        have allowed := admissible event member
        cases event with
        | messageReceived message => exact False.elim allowed
        | _ => rfl
      have told : receipts (step (world.environment 0) input session).2.history =
          input.receipt.toList ++ receipts session.history := by
        unfold receipts
        rw [grown, List.filterMap_append, List.filterMap_append, untold]
        cases input.receipt with
        | none => rfl
        | some message => rfl
      change receipts (run _ rest (step _ input session).2).history = _
      rw [ih, told]
      cases receipt : input.receipt with
      | none => simp [receipt]
      | some message => simp [receipt]

/-! ### What is accepted -/

theorem not_resetLogon_of_isApplication {message : Message}
    (application : message.IsApplication) :
    message.isResetLogon ≠ .ok true ∧ message.MsgType ≠ .ok MsgType.Logon := by
  unfold Message.IsApplication Message.isAdmin at application
  unfold Message.isResetLogon
  cases typed : message.MsgType with
  | error exception =>
      rw [typed] at application
      cases application
  | ok msgType =>
      rw [typed] at application
      have notLogon : msgType ≠ MsgType.Logon := by
        rintro rfl
        exact absurd application (by decide)
      constructor
      · intro resets
        change (if msgType = MsgType.Logon then message.ResetSeqNumFlag
          else pure false) = .ok true at resets
        rw [if_neg notLogon] at resets
        cases resets
      · intro same
        injection same with equal
        exact notLogon equal

theorem logonReceived_of_isApplication {session : Session} {message : Message}
    (application : message.IsApplication)
    (acceptor : session.options.logonBehaviour = .acceptor)
    (first : session.AllowsFirst message) : session.logonReceived = true := by
  rcases first with (initiator | known) | ⟨msgType, typed, listed⟩
  · rw [acceptor] at initiator
    cases initiator
  · exact known
  · unfold Message.IsApplication Message.isAdmin at application
    rw [typed] at application
    rcases listed with rfl | rfl | rfl
    · exact absurd application (by decide)
    · exact absurd application (by decide)
    · exact absurd application (by decide)

theorem Quietly.adds {before after : Session}
    (quietly : Quietly before.history after.history) :
    Adds Event.IsPlain before after := by
  obtain ⟨newer, grown, quiet⟩ := quietly
  exact ⟨newer, grown, fun event member => .inl (quiet event member)⟩

theorem Discards.adds {number : UInt32} {before after : Session}
    (discards : Discards number before after) :
    Adds Event.IsPlain before after := by
  cases discards with
  | requested idle high incoming target nextExpected history =>
      obtain ⟨newer, request, between, grown, -, requestQuiet, newerQuiet,
        betweenQuiet⟩ := history
      refine ⟨newer ++ request :: (between ++
        [.discarded number before.incomingMsgSeqNum]), ?_, ?_⟩
      · rw [grown]
        simp
      · intro event member
        simp only [List.mem_append, List.mem_cons, List.not_mem_nil,
          or_false] at member
        rcases member with new | rfl | old | rfl
        · exact .inl (newerQuiet event new)
        · exact .inl requestQuiet
        · exact .inl (betweenQuiet event old)
        · exact .inr ⟨number, _, rfl⟩
  | extended recovering high same =>
      rw [same]
      exact .cons (.inr ⟨number, _, rfl⟩) rfl

theorem newEvents_adds {permitted : Event → Prop} {before after : Session}
    (adds : Adds permitted before after) :
    ∀ event ∈ newEvents before after, permitted event := by
  obtain ⟨newer, grown, permits⟩ := adds
  rw [newEvents_eq grown]
  exact permits

theorem ne_accepted_of_receipt {input : Input} {event : Event}
    (member : event ∈ (input.receipt.map Event.messageReceived).toList)
    (message : Message) : event ≠ .accepted message := by
  cases told : input.receipt with
  | none =>
      rw [told] at member
      cases member
  | some other =>
      rw [told] at member
      rw [List.mem_singleton.mp member]
      intro impossible
      cases impossible

theorem accepted_takes {session : Session} {input : Input} {message : Message}
    (member : Event.accepted message ∈
      newEvents session (step (world.environment 0) input session).2)
    (application : message.IsApplication) :
    input = .received message ∧
      session.Takes message session.incomingMsgSeqNum := by
  obtain ⟨notReset, notLogon⟩ := not_resetLogon_of_isApplication application
  have received : input = .received message := by
    obtain ⟨newer, grown, admissible⟩ := step_adds world input session
    rw [newEvents_eq grown] at member
    rcases List.mem_append.mp member with new | receipt
    · exact admissible _ new
    · exact absurd rfl (ne_accepted_of_receipt receipt message)
  have plain {permitted : Prop} (adds : Adds Event.IsPlain session
      (step (world.environment 0) input session).2) : permitted :=
    absurd rfl ((newEvents_adds adds _ member).ne_accepted message)
  refine ⟨received, ?_⟩
  cases step_outcome world input session with
  | steady steady => exact plain (Quietly.adds steady.history)
  | discarded middle number untouched discards =>
      exact plain (IsTrans.trans _ _ _ (Quietly.adds untouched.history)
        discards.adds)
  | filled middle number first greater last =>
      have filled : Adds Event.IsPlain middle
          (step (world.environment 0) input session).2 := by
        obtain ⟨newer, grown, permits⟩ := Quietly.adds last.history
        exact ⟨newer, grown, permits⟩
      exact plain (IsTrans.trans _ _ _ (Quietly.adds first.history) filled)
  | accepted other number middle otherReceived takes first last =>
      rw [received] at otherReceived
      cases otherReceived
      rcases takes.expected with ⟨resets, -⟩ | ⟨-, -, expected⟩
      · exact absurd resets notReset
      · rw [← expected notLogon]
        exact takes
  | restarted resets restarts => exact absurd (resets message received) notReset

theorem numbersSinceReset_append {newer : List Event}
    (kept : ∀ event ∈ newer, event.resets = false ∧
      event.applicationNumber = none) (history : List Event) :
    numbersSinceReset (newer ++ history) = numbersSinceReset history := by
  unfold numbersSinceReset
  rw [List.takeWhile_append_of_pos, List.filterMap_append]
  · have none_numbered : newer.filterMap Event.applicationNumber = [] := by
      rw [List.filterMap_eq_nil_iff]
      intro event member
      exact (kept event member).2
    rw [none_numbered, List.nil_append]
  · intro event member
    rw [(kept event member).1]
    rfl

theorem numbersSinceReset_accepted {message : Message} {number : UInt32}
    (notReset : Event.resets (.accepted message) = false)
    (read : message.MsgSeqNum = .ok number) (history : List Event) :
    numbersSinceReset (.accepted message :: history) =
      if message.IsApplication then number :: numbersSinceReset history
      else numbersSinceReset history := by
  unfold numbersSinceReset
  rw [List.takeWhile_cons, notReset]
  simp only [Bool.not_false, if_true, List.filterMap_cons,
    Event.applicationNumber, read]
  by_cases application : message.IsApplication
  · rw [if_pos application, if_pos application]
    rfl
  · rw [if_neg application, if_neg application]

theorem ne_succ (number : UInt32) : number ≠ number + 1 := by
  intro same
  have nats := congrArg UInt32.toNat same
  rw [UInt32.toNat_add] at nats
  have small := number.toNat_lt
  change _ = (_ + 1) % 2 ^ 32 at nats
  omega

theorem numbersSinceReset_of_reset {newer : List Event}
    (resets : ∃ event ∈ newer, event.resets)
    (kept : ∀ event ∈ newer, event.applicationNumber = none)
    (history : List Event) : numbersSinceReset (newer ++ history) = [] := by
  unfold numbersSinceReset
  rw [List.filterMap_eq_nil_iff]
  induction newer with
  | nil =>
      obtain ⟨event, impossible, -⟩ := resets
      cases impossible
  | cons first rest ih =>
      intro event member
      rw [List.cons_append, List.takeWhile_cons] at member
      by_cases reset : first.resets = true
      · rw [reset] at member
        cases member
      · rw [Bool.eq_false_of_not_eq_true reset] at member
        rcases List.mem_cons.mp member with here | later
        · rw [here]
          exact kept first List.mem_cons_self
        · apply ih _ (fun other inside => kept other (List.mem_cons_of_mem _ inside))
            event later
          obtain ⟨other, inside, isReset⟩ := resets
          rcases List.mem_cons.mp inside with rfl | deeper
          · exact absurd isReset reset
          · exact ⟨other, deeper, isReset⟩

theorem Adds.numbersSinceReset {before after : Session}
    (adds : Adds Event.IsPlain before after) :
    numbersSinceReset after.history = numbersSinceReset before.history := by
  obtain ⟨newer, grown, plain⟩ := adds
  rw [grown]
  apply numbersSinceReset_append
  intro event member
  rcases plain event member with quiet | ⟨received, expected, rfl⟩
  · refine ⟨Event.not_resets_of_isQuiet quiet, ?_⟩
    cases event with
    | accepted message => cases quiet
    | _ => rfl
  · exact ⟨rfl, rfl⟩

/-- The accepted numbers increase up to the expected one. -/
def Ascends (session : Session) : Prop :=
  (session.incomingMsgSeqNum :: numbersSinceReset session.history).Pairwise
    (· > ·)

theorem Ascends.of_le {before after : Session} (ascends : before.Ascends)
    (numbers : numbersSinceReset after.history = numbersSinceReset before.history)
    (forward : before.incomingMsgSeqNum ≤ after.incomingMsgSeqNum) :
    after.Ascends := by
  unfold Ascends at *
  rw [numbers]
  rw [List.pairwise_cons] at ascends ⊢
  refine ⟨?_, ascends.2⟩
  intro number member
  exact UInt32.lt_of_lt_of_le (ascends.1 number member) forward

/-- A message that is accepted without going back adds its number on top. -/
theorem Ascends.accepted {session middle after : Session} {message : Message}
    {number : UInt32} (ascends : session.Ascends) (takes : session.Takes message number)
    (high : message.isResetLogon ≠ .ok true →
      session.incomingMsgSeqNum ≤ number + 1)
    (first : Steady session middle)
    (last : Steady
      { middle with
        incomingMsgSeqNum := number + 1
        history := .accepted message :: middle.history } after) : after.Ascends := by
  have added := (Quietly.adds last.history).numbersSinceReset
  have earlier := (Quietly.adds first.history).numbersSinceReset
  have moved := last.incoming
  unfold Ascends at ascends ⊢
  rw [added, moved]
  rcases takes.expected with ⟨resets, -⟩ | ⟨ordinary, -, expected⟩
  · have isReset : Event.resets (.accepted message) = true := decide_eq_true resets
    have cleared : numbersSinceReset (.accepted message :: middle.history) = [] := by
      unfold numbersSinceReset
      rw [List.takeWhile_cons, isReset]
      rfl
    rw [cleared]
    exact List.pairwise_singleton _ _
  · have plain : message.isResetLogon ≠ .ok true := by
      rw [ordinary]
      decide
    have notReset : Event.resets (.accepted message) = false := decide_eq_false plain
    have high := high plain
    rw [numbersSinceReset_accepted notReset takes.read, earlier]
    rw [List.pairwise_cons] at ascends
    have above : ∀ other ∈ numbersSinceReset session.history,
        other < number + 1 := fun other member =>
      UInt32.lt_of_lt_of_le (ascends.1 other member) high
    split
    · next application =>
        have same := expected (not_resetLogon_of_isApplication application).2
        have next : number < number + 1 := by
          rw [← same] at high
          exact UInt32.lt_of_le_of_ne high (ne_succ number)
        rw [← same] at ascends
        refine List.pairwise_cons.mpr ⟨?_, List.pairwise_cons.mpr ascends⟩
        intro other member
        rcases List.mem_cons.mp member with rfl | old
        · exact next
        · exact above other old
    · exact List.pairwise_cons.mpr ⟨above, ascends.2⟩

/-- A restart leaves no number, as the Logon that resets is no application
message. -/
theorem ascends_of_restarts {session : Session} {input : Input}
    (resets : ∀ message, input = .received message →
      message.isResetLogon = .ok true)
    (restarts : Restarts session (step (world.environment 0) input session).2) :
    (step (world.environment 0) input session).2.Ascends := by
  obtain ⟨newer, grown, ⟨event, member, restarted⟩, -⟩ := restarts.history
  obtain ⟨added, addedGrown, admissible⟩ := step_adds world input session
  have cleared : numbersSinceReset
      (step (world.environment 0) input session).2.history = [] := by
    rw [grown]
    apply numbersSinceReset_of_reset
    · exact ⟨event, member, Event.resets_of_restarts restarted⟩
    · intro other inside
      rw [grown] at addedGrown
      rw [List.append_cancel_right addedGrown] at inside
      cases other with
      | accepted message =>
          have received : input = .received message := by
            rcases List.mem_append.mp inside with new | receipt
            · exact admissible _ new
            · exact absurd rfl (ne_accepted_of_receipt receipt message)
          have notApplication : ¬ message.IsApplication := by
            intro application
            exact (not_resetLogon_of_isApplication application).1
              (resets message received)
          exact if_neg notApplication
      | _ => rfl
  unfold Ascends
  rw [cleared]
  exact List.pairwise_singleton _ _

theorem step_ascends {session : Session} {input : Input}
    (forward : ¬ Rewinds session input) (ascends : session.Ascends) :
    (step (world.environment 0) input session).2.Ascends := by
  cases step_outcome world input session with
  | steady steady =>
      exact ascends.of_le (Quietly.adds steady.history).numbersSinceReset
        (UInt32.le_of_eq steady.incoming.symm)
  | discarded middle number untouched discards =>
      have adds : Adds Event.IsPlain session
          (step (world.environment 0) input session).2 :=
        IsTrans.trans _ _ _ (Quietly.adds untouched.history) discards.adds
      apply ascends.of_le adds.numbersSinceReset
      rw [← untouched.incoming]
      cases discards with
      | requested idle high incoming target nextExpected history =>
          exact UInt32.le_of_eq incoming.symm
      | extended recovering high same =>
          rw [same]
          exact UInt32.le_refl _
  | filled middle number first greater last =>
      have numbers := (Quietly.adds last.history).numbersSinceReset.trans
        (Quietly.adds first.history).numbersSinceReset
      apply ascends.of_le numbers
      rw [last.incoming]
      exact UInt32.le_of_lt greater
  | accepted message number middle received takes first last =>
      apply ascends.accepted takes _ first last
      intro plain
      apply UInt32.not_lt.mp
      intro low
      rcases takes.expected with ⟨resets, -⟩ | ⟨ordinary, -⟩
      · exact plain resets
      · exact forward ⟨message, number, received, takes, ordinary, low⟩
  | restarted resets restarts => exact ascends_of_restarts world resets restarts

theorem run_ascends {inputs : List Input} {session : Session}
    (forward : ∀ moment ∈ trace (world.environment 0) inputs session,
      ¬ Rewinds moment.1 moment.2) (ascends : session.Ascends) :
    (∀ moment ∈ trace (world.environment 0) inputs session, moment.1.Ascends) ∧
      (run (world.environment 0) inputs session).Ascends := by
  induction inputs generalizing session with
  | nil =>
      refine ⟨?_, ascends⟩
      intro moment member
      cases member
  | cons input rest ih =>
      have first := step_ascends world
        (forward (session, input) List.mem_cons_self) ascends
      obtain ⟨reached, last⟩ := ih
        (fun moment member => forward moment (List.mem_cons_of_mem _ member)) first
      refine ⟨?_, last⟩
      intro moment member
      rcases List.mem_cons.mp member with here | later
      · rw [here]
        exact ascends
      · exact reached moment later

/-- Every message is told of once and in order, and an application message that
is accepted has passed the checks, at an acceptor after a Logon.  In a run that
does not rewind the incoming number, the accepted numbers increase. -/
theorem receipts_and_acceptances (options : SessionOptions)
    (incoming outgoing : UInt32) (inputs : List Input) :
    receipts (run (world.environment 0) inputs
        (create options incoming outgoing)).history =
      (inputs.filterMap Input.receipt).reverse ∧
    (∀ moment ∈ trace (world.environment 0) inputs
        (create options incoming outgoing), ∀ message,
      Event.accepted message ∈ newEvents moment.1
          (step (world.environment 0) moment.2 moment.1).2 →
        message.IsApplication →
          moment.2 = .received message ∧ moment.1.Validates message ∧
          message.MsgSeqNum = .ok moment.1.incomingMsgSeqNum ∧
          (moment.1.options.logonBehaviour = .acceptor →
            moment.1.logonReceived = true)) ∧
    ((∀ moment ∈ trace (world.environment 0) inputs
        (create options incoming outgoing), ¬ Rewinds moment.1 moment.2) →
      (numbersSinceReset (run (world.environment 0) inputs
        (create options incoming outgoing)).history).Pairwise (· > ·)) := by
  refine ⟨?_, ?_, ?_⟩
  · rw [receipts_run]
    exact List.append_nil _
  · intro moment _ message accepted application
    obtain ⟨received, takes⟩ := accepted_takes world accepted application
    refine ⟨received, takes.validates, takes.read, ?_⟩
    intro acceptor
    exact logonReceived_of_isApplication application acceptor
      takes.validates.first
  · intro forward
    have initially : (create options incoming outgoing).Ascends :=
      List.pairwise_singleton _ _
    exact (List.pairwise_cons.mp (run_ascends world forward initially).2).2

/-! ### A message that is told of and not accepted -/

def orderWith (number : Bytes) (checksum : UInt32) (trailer : Bytes) : Message where
  fields :=
    [⟨Tag.BeginString, ascii "FIX.4.4"⟩, ⟨Tag.BodyLength, ascii "45"⟩,
      ⟨Tag.MsgType, MsgType.NewOrderSingle⟩, ⟨Tag.SenderCompID, ascii "A"⟩,
      ⟨Tag.TargetCompID, ascii "I"⟩, ⟨Tag.MsgSeqNum, number⟩,
      ⟨Tag.SendingTime, ascii "20260101-00:00:00.000"⟩, ⟨Tag.CheckSum, trailer⟩]
  decodeChecksum := checksum
  decodeChecksumValid := true

def fifthOrder : Message := orderWith (ascii "5") 83 (ascii "083")

/-- An order that comes twice, before the Logon and ahead of its number, is
told of twice. -/
theorem order_told_twice :
    fifthOrder.IsApplication ∧
    receipts (run (World.plain.environment 0)
        [.open, .received fifthOrder, .received fifthOrder]
        (create initiatorOptions 1 1)).history = [fifthOrder, fifthOrder] ∧
    (run (World.plain.environment 0)
        [.open, .received fifthOrder, .received fifthOrder]
        (create initiatorOptions 1 1)).logonReceived = false ∧
    (run (World.plain.environment 0)
        [.open, .received fifthOrder, .received fifthOrder]
        (create initiatorOptions 1 1)).incomingMsgSeqNum = 1 := by
  refine ⟨by decide, ?_, ?_, ?_⟩
  · decide
  · decide
  · decide

def twoOrders : List Input :=
  [.open, .received confirmingLogon,
    .received (orderWith (ascii "2") 80 (ascii "080")),
    .received (orderWith (ascii "3") 81 (ascii "081"))]

theorem receipts_and_acceptances_orders :
    numbersSinceReset (run (World.plain.environment 0) twoOrders
        (create initiatorOptions 1 1)).history = [3, 2] ∧
      (numbersSinceReset (run (World.plain.environment 0) twoOrders
        (create initiatorOptions 1 1)).history).Pairwise (· > ·) := by
  refine ⟨by decide, ?_⟩
  apply (receipts_and_acceptances World.plain initiatorOptions 1 1 twoOrders).2.2
  have ahead : ∀ moment ∈ trace (World.plain.environment 0) twoOrders
      (create initiatorOptions 1 1), moment.1.Ahead moment.2 := by decide
  intro moment member
  exact not_rewinds_of_ahead (ahead moment member)

end Session

end Crocofix

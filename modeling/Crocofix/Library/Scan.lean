/-
Restartable scanning of a stream that arrives in pieces.

A scanner looks at the symbols in front of it and either waits for more of
them, fails, or takes a non-empty prefix and moves to its next state; the last
take of a unit finishes the unit.  A decision may not depend on how much of the
stream has arrived: whatever a scanner takes or rejects, it takes or rejects
again when more symbols follow.  That alone makes every way of cutting the
stream give the same result.
-/

import Mathlib.Data.List.Basic

namespace Crocofix.Scan

variable {State Fault Symbol : Type}

/-- What a scanner makes of the symbols in front of it. -/
inductive Outcome (State Fault : Type)
  | wait
  | fail (fault : Fault)
  | take (next : State) (size : Nat) (last : Bool)

structure Scanner (State Fault Symbol : Type) where
  step : State → List Symbol → Outcome State Fault
  step_nil : ∀ state, step state [] = .wait
  size_pos : ∀ {state input next size last},
    step state input = .take next size last → 0 < size
  size_le : ∀ {state input next size last},
    step state input = .take next size last → size ≤ input.length
  take_append : ∀ {state input next size last} (more : List Symbol),
    step state input = .take next size last →
      step state (input ++ more) = .take next size last
  fail_append : ∀ {state input fault} (more : List Symbol),
    step state input = .fail fault → step state (input ++ more) = .fail fault

inductive Ending (Fault : Type)
  | waiting
  | failed (fault : Fault)
  | finished
deriving DecidableEq, Repr

structure Result (State Fault : Type) where
  state : State
  consumed : Nat
  ending : Ending Fault

def Result.advance (size : Nat) (result : Result State Fault) :
    Result State Fault :=
  { result with consumed := size + result.consumed }

@[simp] theorem Result.advance_state (size : Nat)
    (result : Result State Fault) :
    (result.advance size).state = result.state := rfl

@[simp] theorem Result.advance_consumed (size : Nat)
    (result : Result State Fault) :
    (result.advance size).consumed = size + result.consumed := rfl

theorem Result.advance_advance (first second : Nat)
    (result : Result State Fault) :
    (result.advance second).advance first = result.advance (first + second) := by
  simp [Result.advance, Nat.add_assoc]

theorem Result.advance_zero (result : Result State Fault) :
    result.advance 0 = result := by
  simp [Result.advance]

namespace Scanner

variable (scanner : Scanner State Fault Symbol)

/-- Take until the unit is finished, the scanner fails or it has to wait. -/
def runFuel : Nat → State → List Symbol → Result State Fault
  | 0, state, _ => ⟨state, 0, .waiting⟩
  | fuel + 1, state, input =>
      match scanner.step state input with
      | .wait => ⟨state, 0, .waiting⟩
      | .fail fault => ⟨state, 0, .failed fault⟩
      | .take next size true => ⟨next, size, .finished⟩
      | .take next size false =>
          (runFuel fuel next (input.drop size)).advance size

/-- Every take shortens the input, so its length is enough fuel. -/
def run (state : State) (input : List Symbol) : Result State Fault :=
  scanner.runFuel (input.length + 1) state input

theorem runFuel_congr (left right : Nat) (state : State) (input : List Symbol)
    (leftEnough : input.length < left) (rightEnough : input.length < right) :
    scanner.runFuel left state input = scanner.runFuel right state input := by
  induction left generalizing right state input with
  | zero => omega
  | succ left ih =>
      obtain ⟨right, rfl⟩ : ∃ fuel, right = fuel + 1 := ⟨right - 1, by omega⟩
      cases taken : scanner.step state input with
      | wait => simp [runFuel, taken]
      | fail fault => simp [runFuel, taken]
      | take next size last =>
          cases last with
          | true => simp [runFuel, taken]
          | false =>
              have positive := scanner.size_pos taken
              have bounded := scanner.size_le taken
              have shorter : (input.drop size).length = input.length - size :=
                List.length_drop
              simp only [runFuel, taken]
              rw [ih right next (input.drop size) (by omega) (by omega)]

theorem run_wait {state : State} {input : List Symbol}
    (waits : scanner.step state input = .wait) :
    scanner.run state input = ⟨state, 0, .waiting⟩ := by
  simp [run, runFuel, waits]

theorem run_fail {state : State} {input : List Symbol} {fault : Fault}
    (fails : scanner.step state input = .fail fault) :
    scanner.run state input = ⟨state, 0, .failed fault⟩ := by
  simp [run, runFuel, fails]

theorem run_last {state next : State} {input : List Symbol} {size : Nat}
    (taken : scanner.step state input = .take next size true) :
    scanner.run state input = ⟨next, size, .finished⟩ := by
  simp [run, runFuel, taken]

theorem run_take {state next : State} {input : List Symbol} {size : Nat}
    (taken : scanner.step state input = .take next size false) :
    scanner.run state input =
      (scanner.run next (input.drop size)).advance size := by
  have positive := scanner.size_pos taken
  have bounded := scanner.size_le taken
  have shorter : (input.drop size).length = input.length - size :=
    List.length_drop
  unfold run
  rw [runFuel]
  simp only [taken]
  rw [scanner.runFuel_congr input.length ((input.drop size).length + 1) next
    (input.drop size) (by omega) (by omega)]

theorem run_nil (state : State) :
    scanner.run state [] = ⟨state, 0, .waiting⟩ :=
  scanner.run_wait (scanner.step_nil state)

theorem run_induction {motive : State → List Symbol → Prop}
    (wait : ∀ state input, scanner.step state input = .wait → motive state input)
    (fail : ∀ state input fault,
      scanner.step state input = .fail fault → motive state input)
    (last : ∀ state input next size,
      scanner.step state input = .take next size true → motive state input)
    (take : ∀ state input next size,
      scanner.step state input = .take next size false →
        motive next (input.drop size) → motive state input)
    (state : State) (input : List Symbol) : motive state input := by
  induction bound : input.length using Nat.strongRecOn generalizing state input with
  | ind length ih =>
      cases taken : scanner.step state input with
      | wait => exact wait state input taken
      | fail fault => exact fail state input fault taken
      | take next size isLast =>
          cases isLast with
          | true => exact last state input next size taken
          | false =>
              have positive := scanner.size_pos taken
              have bounded := scanner.size_le taken
              have shorter : (input.drop size).length = input.length - size :=
                List.length_drop
              exact take state input next size taken
                (ih (input.drop size).length (by omega) next (input.drop size) rfl)

theorem consumed_le (state : State) (input : List Symbol) :
    (scanner.run state input).consumed ≤ input.length := by
  induction state, input using scanner.run_induction with
  | wait state input waits => simp [scanner.run_wait waits]
  | fail state input fault fails => simp [scanner.run_fail fails]
  | last state input next size taken =>
      simp only [scanner.run_last taken]
      exact scanner.size_le taken
  | take state input next size taken ih =>
      have bounded := scanner.size_le taken
      rw [scanner.run_take taken, Result.advance_consumed]
      rw [List.length_drop] at ih
      omega

theorem consumed_pos_of_finished {state : State} {input : List Symbol}
    (finished : (scanner.run state input).ending = .finished) :
    0 < (scanner.run state input).consumed := by
  cases taken : scanner.step state input with
  | wait => simp [scanner.run_wait taken] at finished
  | fail fault => simp [scanner.run_fail taken] at finished
  | take next size last =>
      have positive := scanner.size_pos taken
      cases last with
      | true => simpa [scanner.run_last taken] using positive
      | false =>
          rw [scanner.run_take taken, Result.advance_consumed]
          omega

theorem run_append_of_ended (state : State) (input more : List Symbol)
    (ended : (scanner.run state input).ending ≠ .waiting) :
    scanner.run state (input ++ more) = scanner.run state input := by
  induction state, input using scanner.run_induction with
  | wait state input waits => simp [scanner.run_wait waits] at ended
  | fail state input fault fails =>
      rw [scanner.run_fail fails, scanner.run_fail (scanner.fail_append more fails)]
  | last state input next size taken =>
      rw [scanner.run_last taken, scanner.run_last (scanner.take_append more taken)]
  | take state input next size taken ih =>
      rw [scanner.run_take taken] at ended ⊢
      rw [scanner.run_take (scanner.take_append more taken),
        List.drop_append_of_le_length (scanner.size_le taken), ih ended]

/-- A run that waits is resumed on its unconsumed tail and what follows. -/
theorem run_append_of_waiting (state : State) (input more : List Symbol)
    (waiting : (scanner.run state input).ending = .waiting) :
    scanner.run state (input ++ more) =
      (scanner.run (scanner.run state input).state
        (input.drop (scanner.run state input).consumed ++ more)).advance
          (scanner.run state input).consumed := by
  induction state, input using scanner.run_induction with
  | wait state input waits =>
      simp [scanner.run_wait waits, Result.advance_zero]
  | fail state input fault fails => simp [scanner.run_fail fails] at waiting
  | last state input next size taken => simp [scanner.run_last taken] at waiting
  | take state input next size taken ih =>
      rw [scanner.run_take taken] at waiting ⊢
      rw [scanner.run_take (scanner.take_append more taken),
        List.drop_append_of_le_length (scanner.size_le taken), ih waiting]
      simp only [Result.advance_state, Result.advance_consumed, List.drop_drop,
        Result.advance_advance]

theorem run_resume_of_waiting (state : State) (input : List Symbol)
    (waiting : (scanner.run state input).ending = .waiting) :
    scanner.run (scanner.run state input).state
        (input.drop (scanner.run state input).consumed) =
      ⟨(scanner.run state input).state, 0, .waiting⟩ := by
  induction state, input using scanner.run_induction with
  | wait state input waits =>
      simp only [scanner.run_wait waits, List.drop_zero]
  | fail state input fault fails => simp [scanner.run_fail fails] at waiting
  | last state input next size taken => simp [scanner.run_last taken] at waiting
  | take state input next size taken ih =>
      rw [scanner.run_take taken] at waiting ⊢
      simpa only [Result.advance_state, Result.advance_consumed,
        List.drop_drop] using ih waiting

/-! ### One unit, fed in pieces -/

/-- Feed the pieces one after the other, each call being given the unconsumed
tail of the previous one followed by the next piece. -/
def feed : State → List Symbol → List (List Symbol) → Result State Fault
  | state, _, [] => ⟨state, 0, .waiting⟩
  | state, tail, piece :: rest =>
      let called := scanner.run state (tail ++ piece)
      match called.ending with
      | .waiting =>
          (feed called.state ((tail ++ piece).drop called.consumed) rest).advance
            called.consumed
      | _ => called

theorem feed_eq_run_of_waiting (state : State) (tail : List Symbol)
    (pieces : List (List Symbol))
    (waits : scanner.run state tail = ⟨state, 0, .waiting⟩) :
    scanner.feed state tail pieces = scanner.run state (tail ++ pieces.flatten) := by
  induction pieces generalizing state tail with
  | nil => simpa [feed] using waits.symm
  | cons piece rest ih =>
      rw [List.flatten_cons, ← List.append_assoc]
      cases ending : (scanner.run state (tail ++ piece)).ending with
      | waiting =>
          rw [scanner.run_append_of_waiting state _ _ ending]
          simp only [feed, ending]
          rw [ih _ _ (scanner.run_resume_of_waiting state _ ending)]
      | failed fault =>
          rw [scanner.run_append_of_ended state _ _ (by simp [ending])]
          simp only [feed, ending]
      | finished =>
          rw [scanner.run_append_of_ended state _ _ (by simp [ending])]
          simp only [feed, ending]

/-- Every way of cutting the input into pieces gives the run on the whole. -/
theorem feed_eq_run (state : State) (pieces : List (List Symbol)) :
    scanner.feed state [] pieces = scanner.run state pieces.flatten := by
  simpa using scanner.feed_eq_run_of_waiting state [] pieces (scanner.run_nil state)

/-! ### A stream of units -/

/-- The units found in a stream, and where the scanner stands behind them. -/
structure Drained (State Fault Symbol : Type) where
  units : List State
  state : State
  rest : List Symbol
  fault : Option Fault

def Drained.prepend (units : List State)
    (drained : Drained State Fault Symbol) : Drained State Fault Symbol :=
  { drained with units := units ++ drained.units }

def drainFuel (fresh : State) :
    Nat → State → List Symbol → Drained State Fault Symbol
  | 0, state, input => ⟨[], state, input, none⟩
  | fuel + 1, state, input =>
      let unit := scanner.run state input
      match unit.ending with
      | .waiting => ⟨[], unit.state, input.drop unit.consumed, none⟩
      | .failed fault => ⟨[], unit.state, input.drop unit.consumed, some fault⟩
      | .finished =>
          (drainFuel fresh fuel fresh (input.drop unit.consumed)).prepend [unit.state]

def drain (fresh state : State) (input : List Symbol) :
    Drained State Fault Symbol :=
  scanner.drainFuel fresh (input.length + 1) state input

theorem drainFuel_congr (fresh : State) (left right : Nat) (state : State)
    (input : List Symbol)
    (leftEnough : input.length < left) (rightEnough : input.length < right) :
    scanner.drainFuel fresh left state input =
      scanner.drainFuel fresh right state input := by
  induction left generalizing right state input with
  | zero => omega
  | succ left ih =>
      obtain ⟨right, rfl⟩ : ∃ fuel, right = fuel + 1 := ⟨right - 1, by omega⟩
      cases ending : (scanner.run state input).ending with
      | waiting => simp [drainFuel, ending]
      | failed fault => simp [drainFuel, ending]
      | finished =>
          have positive := scanner.consumed_pos_of_finished ending
          have bounded := scanner.consumed_le state input
          simp only [drainFuel, ending]
          rw [ih right fresh _ (by rw [List.length_drop]; omega)
            (by rw [List.length_drop]; omega)]

theorem drain_waiting (fresh : State) {state : State} {input : List Symbol}
    (waiting : (scanner.run state input).ending = .waiting) :
    scanner.drain fresh state input =
      ⟨[], (scanner.run state input).state,
        input.drop (scanner.run state input).consumed, none⟩ := by
  simp [drain, drainFuel, waiting]

theorem drain_failed (fresh : State) {state : State} {input : List Symbol}
    {fault : Fault} (failed : (scanner.run state input).ending = .failed fault) :
    scanner.drain fresh state input =
      ⟨[], (scanner.run state input).state,
        input.drop (scanner.run state input).consumed, some fault⟩ := by
  simp [drain, drainFuel, failed]

theorem drain_finished (fresh : State) {state : State} {input : List Symbol}
    (finished : (scanner.run state input).ending = .finished) :
    scanner.drain fresh state input =
      (scanner.drain fresh fresh
        (input.drop (scanner.run state input).consumed)).prepend
          [(scanner.run state input).state] := by
  have positive := scanner.consumed_pos_of_finished finished
  have bounded := scanner.consumed_le state input
  unfold drain
  rw [drainFuel]
  simp only [finished]
  rw [scanner.drainFuel_congr fresh input.length
    ((input.drop (scanner.run state input).consumed).length + 1) fresh _
    (by rw [List.length_drop]; omega) (by omega)]

theorem drain_induction (fresh : State) {motive : State → List Symbol → Prop}
    (waiting : ∀ state input,
      (scanner.run state input).ending = .waiting → motive state input)
    (failed : ∀ state input fault,
      (scanner.run state input).ending = .failed fault → motive state input)
    (finished : ∀ state input,
      (scanner.run state input).ending = .finished →
        motive fresh (input.drop (scanner.run state input).consumed) →
          motive state input)
    (state : State) (input : List Symbol) : motive state input := by
  induction bound : input.length using Nat.strongRecOn generalizing state input with
  | ind length ih =>
      cases ending : (scanner.run state input).ending with
      | waiting => exact waiting state input ending
      | failed fault => exact failed state input fault ending
      | finished =>
          have positive := scanner.consumed_pos_of_finished ending
          have bounded := scanner.consumed_le state input
          exact finished state input ending
            (ih _ (by rw [List.length_drop]; omega) fresh _ rfl)

/-- Draining a stream that goes on: first the units of the part that has
arrived, then the units found from there. -/
theorem drain_append (fresh state : State) (input more : List Symbol)
    (sound : (scanner.drain fresh state input).fault = none) :
    scanner.drain fresh state (input ++ more) =
      (scanner.drain fresh (scanner.drain fresh state input).state
        ((scanner.drain fresh state input).rest ++ more)).prepend
          (scanner.drain fresh state input).units := by
  induction state, input using scanner.drain_induction fresh with
  | waiting state input waits =>
      have whole := scanner.run_append_of_waiting state input more waits
      rw [scanner.drain_waiting fresh waits]
      set here := scanner.run state input
      simp only [Drained.prepend, List.nil_append]
      cases ending : (scanner.run here.state
          (input.drop here.consumed ++ more)).ending with
      | waiting =>
          rw [scanner.drain_waiting fresh (by rw [whole]; exact ending),
            scanner.drain_waiting fresh ending, whole]
          simp only [Result.advance_state, Result.advance_consumed]
          rw [← List.drop_drop, List.drop_append_of_le_length
            (scanner.consumed_le state input)]
      | failed fault =>
          rw [scanner.drain_failed fresh (by rw [whole]; exact ending),
            scanner.drain_failed fresh ending, whole]
          simp only [Result.advance_state, Result.advance_consumed]
          rw [← List.drop_drop, List.drop_append_of_le_length
            (scanner.consumed_le state input)]
      | finished =>
          rw [scanner.drain_finished fresh (by rw [whole]; exact ending),
            scanner.drain_finished fresh ending, whole]
          simp only [Result.advance_state, Result.advance_consumed]
          rw [← List.drop_drop, List.drop_append_of_le_length
            (scanner.consumed_le state input)]
  | failed state input fault fails =>
      simp [scanner.drain_failed fresh fails] at sound
  | finished state input ends ih =>
      have whole := scanner.run_append_of_ended state input more (by simp [ends])
      rw [scanner.drain_finished fresh ends] at sound ⊢
      rw [scanner.drain_finished fresh (by rw [whole]; exact ends), whole,
        List.drop_append_of_le_length (scanner.consumed_le state input),
        ih sound]
      simp [Drained.prepend]

theorem drain_append_of_failed (fresh state : State) (input more : List Symbol)
    {fault : Fault}
    (failed : (scanner.drain fresh state input).fault = some fault) :
    (scanner.drain fresh state (input ++ more)).fault = some fault := by
  induction state, input using scanner.drain_induction fresh with
  | waiting state input waits => simp [scanner.drain_waiting fresh waits] at failed
  | failed state input thrown fails =>
      have whole := scanner.run_append_of_ended state input more (by simp [fails])
      rw [scanner.drain_failed fresh fails] at failed
      rw [scanner.drain_failed fresh (by rw [whole]; exact fails)]
      exact failed
  | finished state input ends ih =>
      have whole := scanner.run_append_of_ended state input more (by simp [ends])
      rw [scanner.drain_finished fresh ends] at failed
      rw [scanner.drain_finished fresh (by rw [whole]; exact ends), whole,
        List.drop_append_of_le_length (scanner.consumed_le state input)]
      exact ih failed

theorem drain_sound_of_append {fresh state : State} {input more : List Symbol}
    (sound : (scanner.drain fresh state (input ++ more)).fault = none) :
    (scanner.drain fresh state input).fault = none := by
  cases failed : (scanner.drain fresh state input).fault with
  | none => rfl
  | some fault =>
      rw [scanner.drain_append_of_failed fresh state input more failed] at sound
      cases sound

theorem step_of_run_waiting {state : State} {input : List Symbol}
    (waiting : scanner.run state input = ⟨state, 0, .waiting⟩) :
    scanner.step state input = .wait := by
  cases taken : scanner.step state input with
  | wait => rfl
  | fail fault => simp [scanner.run_fail taken] at waiting
  | take next size last =>
      have positive := scanner.size_pos taken
      have consumed := congrArg Result.consumed waiting
      cases last with
      | true =>
          rw [scanner.run_last taken] at consumed
          change size = 0 at consumed
          omega
      | false =>
          rw [scanner.run_take taken, Result.advance_consumed] at consumed
          change _ = 0 at consumed
          omega

/-- Behind the units it found, a scanner waits for more of the stream. -/
theorem step_drain (fresh state : State) (input : List Symbol)
    (sound : (scanner.drain fresh state input).fault = none) :
    scanner.step (scanner.drain fresh state input).state
      (scanner.drain fresh state input).rest = .wait := by
  induction state, input using scanner.drain_induction fresh with
  | waiting state input waits =>
      rw [scanner.drain_waiting fresh waits]
      exact scanner.step_of_run_waiting (scanner.run_resume_of_waiting state input waits)
  | failed state input fault fails =>
      simp [scanner.drain_failed fresh fails] at sound
  | finished state input ends ih =>
      rw [scanner.drain_finished fresh ends] at sound ⊢
      exact ih sound

theorem drain_suffix (fresh state : State) (input : List Symbol) :
    (scanner.drain fresh state input).rest <:+ input := by
  induction state, input using scanner.drain_induction fresh with
  | waiting state input waits =>
      rw [scanner.drain_waiting fresh waits]
      exact List.drop_suffix _ _
  | failed state input fault fails =>
      rw [scanner.drain_failed fresh fails]
      exact List.drop_suffix _ _
  | finished state input ends ih =>
      rw [scanner.drain_finished fresh ends]
      exact ih.trans (List.drop_suffix _ _)

/-! ### A limit on the size of one take -/

/-- A take does not look behind what it takes. -/
def Exact : Prop :=
  ∀ {state input next size last}, scanner.step state input = .take next size last →
    scanner.step state (input.take size) = .take next size last

/-- Wherever the scanner stands in the stream, what it takes next is within the
limit. -/
def TakesWithin (limit : Nat) (fresh : State) (stream : List Symbol) : Prop :=
  ∀ front back, front ++ back = stream → ∀ next size last,
    scanner.step (scanner.drain fresh fresh front).state
        ((scanner.drain fresh fresh front).rest ++ back) = .take next size last →
      size ≤ limit

theorem takesWithin_of_length {limit : Nat} (fresh : State)
    {stream : List Symbol} (short : stream.length ≤ limit) :
    scanner.TakesWithin limit fresh stream := by
  rintro front back rfl next size last taken
  have bounded := scanner.size_le taken
  have left := (scanner.drain_suffix fresh fresh front).length_le
  simp only [List.length_append] at bounded short
  omega

/-- A scanner that waits although it sees as much as one take may need has
found all there is in the stream. -/
theorem drain_of_limit {limit : Nat} {fresh : State} {front back : List Symbol}
    (exact : scanner.Exact)
    (sound : (scanner.drain fresh fresh (front ++ back)).fault = none)
    (within : scanner.TakesWithin limit fresh (front ++ back))
    (full : limit ≤ (scanner.drain fresh fresh front).rest.length) :
    (scanner.drain fresh fresh (front ++ back)).units =
        (scanner.drain fresh fresh front).units ∧
      limit ≤ (scanner.drain fresh fresh (front ++ back)).rest.length := by
  have frontSound := scanner.drain_sound_of_append sound
  have waits := scanner.step_drain fresh fresh front frontSound
  have takes := within front back rfl
  rw [scanner.drain_append fresh fresh front back frontSound] at sound ⊢
  generalize scanner.drain fresh fresh front = here at *
  have stuck : scanner.step here.state (here.rest ++ back) = .wait := by
    cases taken : scanner.step here.state (here.rest ++ back) with
    | wait => rfl
    | fail fault =>
        have fails : (scanner.run here.state (here.rest ++ back)).ending =
            .failed fault := by
          rw [scanner.run_fail taken]
        simp [Drained.prepend, scanner.drain_failed fresh fails] at sound
    | take next size last =>
        have small := takes next size last taken
        have alone := exact taken
        rw [List.take_append_of_le_length (by omega)] at alone
        have again := scanner.take_append (here.rest.drop size) alone
        rw [List.take_append_drop, waits] at again
        cases again
  rw [scanner.drain_waiting fresh (by rw [scanner.run_wait stuck]),
    scanner.run_wait stuck]
  refine ⟨List.append_nil _, ?_⟩
  simp only [Drained.prepend, List.drop_zero, List.length_append]
  omega

/-! ### Between two units -/

structure Drained.Settled (fresh : State) (drained : Drained State Fault Symbol) :
    Prop where
  state : drained.state = fresh
  rest : drained.rest = []
  sound : drained.fault = none

theorem Drained.settled_prepend_iff (fresh : State) (units : List State)
    (drained : Drained State Fault Symbol) :
    (drained.prepend units).Settled fresh ↔ drained.Settled fresh := by
  constructor
  · intro settled
    exact ⟨settled.state, settled.rest, settled.sound⟩
  · intro settled
    exact ⟨settled.state, settled.rest, settled.sound⟩

def Leaves (fresh : State) : Prop :=
  ∀ state input next size last,
    scanner.step state input = .take next size last → next ≠ fresh

theorem run_leaves {fresh : State} (leaves : scanner.Leaves fresh) (state : State)
    (input : List Symbol) (moved : 0 < (scanner.run state input).consumed) :
    (scanner.run state input).state ≠ fresh := by
  induction state, input using scanner.run_induction with
  | wait state input waits =>
      rw [scanner.run_wait waits] at moved
      exact absurd moved (Nat.lt_irrefl 0)
  | fail state input fault fails =>
      rw [scanner.run_fail fails] at moved
      exact absurd moved (Nat.lt_irrefl 0)
  | last state input next size taken =>
      rw [scanner.run_last taken]
      exact leaves state input next size true taken
  | take state input next size taken ih =>
      rw [scanner.run_take taken, Result.advance_state]
      by_cases later : 0 < (scanner.run next (input.drop size)).consumed
      · exact ih later
      · -- Nothing more is taken, so the run stands where this take led.
        have none : (scanner.run next (input.drop size)).consumed = 0 := by omega
        cases again : scanner.step next (input.drop size) with
        | wait =>
            rw [scanner.run_wait again]
            exact leaves state input next size false taken
        | fail fault =>
            rw [scanner.run_fail again]
            exact leaves state input next size false taken
        | take other more last =>
            have positive := scanner.size_pos again
            cases last with
            | true =>
                rw [scanner.run_last again] at none
                exact absurd none (Nat.ne_of_gt positive)
            | false =>
                rw [scanner.run_take again, Result.advance_consumed] at none
                omega

theorem nil_of_settled {fresh state : State} (leaves : scanner.Leaves fresh)
    {input : List Symbol}
    (waiting : (scanner.run state input).ending = .waiting)
    (settled : (scanner.drain fresh state input).Settled fresh) : input = [] := by
  rw [scanner.drain_waiting fresh waiting] at settled
  have still : (scanner.run state input).consumed = 0 := by
    by_contra moved
    exact scanner.run_leaves leaves state input (Nat.pos_of_ne_zero moved)
      settled.state
  have rest := settled.rest
  simp only [still, List.drop_zero] at rest
  exact rest

end Scanner

end Crocofix.Scan

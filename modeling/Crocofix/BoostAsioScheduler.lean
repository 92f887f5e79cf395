/-
The scheduler of timer callbacks.

A timer that expires, the handler of its wait, the function that the handler
posts and the call of that function are separate events.  Cancelling a timer
only ends a wait that has not expired.  The handler of a relative timer reads
its token through a reference to a variable that is gone, so what it reads is
left open here.
-/

import Crocofix.Library.Call
import Crocofix.Library.Numeral
import Mathlib.Logic.Function.Basic

namespace Crocofix

open Numeral

abbrev CancellationToken := UInt64

namespace BoostAsioScheduler

inductive Kind
  | relative
  | repeating
deriving DecidableEq, Repr

/-- A `system_timer`, with the wait that is pending on it. -/
structure Timer where
  wait : Option Kind
deriving DecidableEq, Repr

/-- What is queued in the `io_context`: the handler of a wait that has ended, or
a posted callback. -/
inductive Handler
  | wait (kind : Kind) (token : CancellationToken) (aborted : Bool)
  | callback (token : CancellationToken)
deriving DecidableEq, Repr

inductive Note
  | scheduled (kind : Kind) (token : CancellationToken)
  | cancelled (token : CancellationToken)
  | invoked (token : CancellationToken)
deriving DecidableEq, Repr

end BoostAsioScheduler

/-- The members of `boost_asio_scheduler`, the queue of its `io_context`, and
the history of its calls, the latest first. -/
structure BoostAsioScheduler where
  nextCancellationToken : CancellationToken
  timers : CancellationToken → Option BoostAsioScheduler.Timer
  queue : List BoostAsioScheduler.Handler
  history : List BoostAsioScheduler.Note

namespace BoostAsioScheduler

abbrev Action := Call Exception BoostAsioScheduler

def initial : BoostAsioScheduler where
  nextCancellationToken := 0
  timers _ := none
  queue := []
  history := []

/-! ### Timers -/

def waiting (scheduler : BoostAsioScheduler) (token : CancellationToken) :
    Option Kind :=
  (scheduler.timers token).bind Timer.wait

def store (token : CancellationToken) (timer : Option Timer)
    (scheduler : BoostAsioScheduler) : BoostAsioScheduler :=
  { scheduler with timers := Function.update scheduler.timers token timer }

def post (handler : Handler) (scheduler : BoostAsioScheduler) :
    BoostAsioScheduler :=
  { scheduler with queue := scheduler.queue ++ [handler] }

/-- The pending wait of a timer ends, and its handler is queued. -/
def complete (aborted : Bool) (token : CancellationToken)
    (scheduler : BoostAsioScheduler) : BoostAsioScheduler :=
  match scheduler.waiting token with
  | none => scheduler
  | some kind =>
      (scheduler.store token (some ⟨none⟩)).post (.wait kind token aborted)

/-- `m_timers.erase`; a timer that is destroyed aborts its wait. -/
def erase (token : CancellationToken) (scheduler : BoostAsioScheduler) :
    BoostAsioScheduler :=
  (scheduler.complete true token).store token none

/-! ### The member functions -/

/-- The shape shared by the two functions that schedule a callback. -/
def scheduleCallback (kind : Kind) : Action CancellationToken := do
  let scheduler ← Call.get
  let token := scheduler.nextCancellationToken
  Call.modify fun scheduler => { scheduler with nextCancellationToken := token + 1 }
  match scheduler.timers token with
  | some _ =>
      Call.raise ⟨.runtimeError,
        ascii "failed to insert timer with cancellation token " ++
          decimal token.toNat⟩
  | none => do
      Call.modify fun scheduler =>
        { scheduler.store token (some ⟨some kind⟩) with
          history := .scheduled kind token :: scheduler.history }
      pure token

def scheduleRelativeCallback : Action CancellationToken :=
  scheduleCallback .relative

def scheduleRepeatingCallback : Action CancellationToken :=
  scheduleCallback .repeating

def cancelCallback (token : CancellationToken) : Action Unit :=
  Call.modify fun scheduler =>
    { scheduler.complete true token with
      history := .cancelled token :: scheduler.history }

/-- The handler of a relative timer.  `erased` is what it reads as its token
when it erases the timer. -/
def relativeHandler (aborted : Bool) (token erased : CancellationToken) :
    Action Unit := do
  Call.onlyIf (aborted = false) (Call.modify (post (.callback token)))
  Call.modify (erase erased)

/-- `boost_asio_scheduler::handler`, of a repeating timer. -/
def handler (aborted : Bool) (token : CancellationToken) : Action Unit :=
  if aborted then Call.modify (erase token)
  else do
    Call.modify (post (.callback token))
    let scheduler ← Call.get
    match scheduler.timers token with
    | none =>
        Call.raise ⟨.runtimeError,
          ascii "unable to find timer with cancellation token " ++
            decimal token.toNat⟩
    | some _ =>
        -- Setting the expiry aborts what is pending.
        Call.modify fun scheduler =>
          (scheduler.complete true token).store token (some ⟨some .repeating⟩)

/-- The `io_context` takes a handler out of its queue and runs it. -/
def runHandler (erased : CancellationToken) : Handler → Action Unit
  | .wait .relative token aborted => relativeHandler aborted token erased
  | .wait .repeating token aborted => handler aborted token
  | .callback token =>
      Call.modify fun scheduler =>
        { scheduler with history := .invoked token :: scheduler.history }

/-- The events that can happen in any order.  The queue is not taken to be
served in its order. -/
inductive Event
  | scheduleRelative
  | scheduleRepeating
  | cancel (token : CancellationToken)
  | expire (token : CancellationToken)
  | run (handler : Handler) (erased : CancellationToken)
deriving DecidableEq, Repr

def step : Event → Action Unit
  | .scheduleRelative => do
      let _ ← scheduleRelativeCallback
      pure ()
  | .scheduleRepeating => do
      let _ ← scheduleRepeatingCallback
      pure ()
  | .cancel token => cancelCallback token
  | .expire token => Call.modify (complete false token)
  | .run handler erased => do
      let scheduler ← Call.get
      Call.onlyIf (handler ∈ scheduler.queue) do
        Call.modify fun scheduler =>
          { scheduler with queue := scheduler.queue.erase handler }
        runHandler erased handler

def run : List Event → BoostAsioScheduler → BoostAsioScheduler
  | [], scheduler => scheduler
  | event :: rest, scheduler => run rest (step event scheduler).2

/-- The states that a run goes through, each with the event that it meets. -/
def trace : List Event → BoostAsioScheduler → List (BoostAsioScheduler × Event)
  | [], _ => []
  | event :: rest, scheduler =>
      (scheduler, event) :: trace rest (step event scheduler).2

end BoostAsioScheduler

end Crocofix

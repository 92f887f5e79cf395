/-
Runs of a session in a world that decides what its writer does.

The writer refuses a message or accepts it.  While an accepted message waits,
the handlers that the writer runs may call the session again, to any depth.
-/

import Crocofix.Session.Frame

namespace Crocofix

open Numeral

namespace Session

/-- The choices of everything around a session. -/
structure World where
  refusal : Session → Message → EncodeOptions → Option Exception
  encoded : Message → EncodeOptions → Message
  handlers : Session → List Input
  timestampString : TimestampFormat → Session → Bytes
  cancellationToken : Session → UInt64
  orchestration : OrchestrationFieldCollection

def handle (environment : Environment) : List Input → Action Unit
  | [] => pure ()
  | input :: rest => do
      step environment input
      handle environment rest

/-- The inputs one after the other; an exception ends the step it leaves. -/
def run (environment : Environment) : List Input → Session → Session
  | [], session => session
  | input :: rest, session =>
      run environment rest (step environment input session).2

/-- The sessions that a run goes through, each with the input that it meets. -/
def trace (environment : Environment) :
    List Input → Session → List (Session × Input)
  | [], _ => []
  | input :: rest, session =>
      (session, input) :: trace environment rest (step environment input session).2

namespace World

def Accepts (world : World) : Prop :=
  ∀ session message options, world.refusal session message options = none

def accept (world : World) (message : Message) (options : EncodeOptions) :
    Action Message := do
  let session ← Call.get
  match world.refusal session message options with
  | some exception => do
      record (.refused message options exception)
      Call.raise exception
  | none => do
      record (.written message options)
      pure (world.encoded message options)

/-- The dictionary answers whether it has reasons for a rejection. -/
def Explains (world : World) : Prop :=
  ∃ defined, world.orchestration.isFieldDefined Tag.SessionRejectReason = .ok defined

theorem Accepts.accept {world : World} (accepts : world.Accepts) (message : Message)
    (options : EncodeOptions) (session : Session) :
    world.accept message options session =
      (.ok (world.encoded message options),
        { session with
          history := .written message options :: session.history }) := by
  unfold World.accept
  rw [Call.get_bind, accepts]
  rfl

def around (world : World)
    (write : Message → EncodeOptions → Action Message) : Environment where
  write
  timestampString := world.timestampString
  cancellationToken := world.cancellationToken
  orchestration := world.orchestration

/-- The environment of a session in which writes may be nested to a depth. -/
def environment (world : World) : Nat → Environment
  | 0 => world.around world.accept
  | depth + 1 => world.around fun message options => do
      let left ← world.accept message options
      let session ← Call.get
      handle (world.environment depth) (world.handlers session)
      pure left

/-- A world in which nothing goes wrong and nothing is nested. -/
def plain : World where
  refusal _ _ _ := none
  encoded message _ := message
  handlers _ := []
  timestampString _ _ := ascii "20260101-00:00:00.000"
  cancellationToken session := UInt64.ofNat session.history.length
  orchestration := OrchestrationFieldCollection.excerpt

end World

theorem handle_keeps {environment : Environment}
    {relation : Session → Session → Prop} [Std.Refl relation]
    [IsTrans Session relation] {inputs : List Input}
    (kept : ∀ input ∈ inputs, Call.Keeps relation (step environment input)) :
    Call.Keeps relation (handle environment inputs) := by
  induction inputs with
  | nil => exact Call.keeps_pure ()
  | cons input rest ih =>
      apply (kept input List.mem_cons_self).bind
      intro _
      exact ih fun other member => kept other (List.mem_cons_of_mem _ member)

theorem run_keeps {environment : Environment}
    {relation : Session → Session → Prop} [Std.Refl relation]
    [IsTrans Session relation] {inputs : List Input}
    (kept : ∀ input ∈ inputs, Call.Keeps relation (step environment input))
    (session : Session) : relation session (run environment inputs session) := by
  induction inputs generalizing session with
  | nil => exact Std.Refl.refl session
  | cons input rest ih =>
      have first := kept input List.mem_cons_self session
      exact IsTrans.trans _ _ _ first
        (ih (fun other member => kept other (List.mem_cons_of_mem _ member)) _)

theorem trace_invariant {environment : Environment} {holds : Session → Prop}
    {inputs : List Input} {session : Session} (initially : holds session)
    (preserved : ∀ moment ∈ trace environment inputs session, holds moment.1 →
      holds (step environment moment.2 moment.1).2) :
    ∀ moment ∈ trace environment inputs session, holds moment.1 := by
  induction inputs generalizing session with
  | nil =>
      intro moment member
      cases member
  | cons input rest ih =>
      intro moment member
      rcases List.mem_cons.mp member with here | later
      · rw [here]
        exact initially
      · have next := preserved (session, input) List.mem_cons_self initially
        exact ih next
          (fun other inside => preserved other (List.mem_cons_of_mem _ inside))
          moment later

end Session

end Crocofix

/-
How the pipeline comes to rest.

Handlers that wait inside each other never wait for one another: every write in
progress completes by itself.  So the pipeline always gets to where no handler is
running and everything has been sent, unless an exception ends it, and that is never
because of bytes that the other peer has not taken yet.
-/

import Crocofix.Pipeline.Relayed

namespace Crocofix

open Numeral

namespace Pipeline

variable {options : Options} {direction : Direction} {relay : Relay}

/-! ### What is left to do -/

/-- Every message that is unread takes its handler on by at most three steps. -/
def Relay.work (relay : Relay) : Nat :=
  4 * relay.reader.unread.length + relay.writer.work

def Phase.work : Phase → Nat
  | .decoding => 1
  | .waiting => 2

def work (pipeline : Pipeline) : Nat :=
  (pipeline.relay .initiatorRead).work + (pipeline.relay .acceptorRead).work +
    (pipeline.handlers.map fun handler => handler.2.work).sum

/-- What was received in a direction is decoded, and what the script has made of its
messages is sent. -/
def Drained (options : Options) (pipeline : Pipeline) (direction : Direction) : Prop :=
  (pipeline.relay direction).writer.transferred =
      (pipeline.relay direction).handled.flatMap Handled.encoding ∧
    ∃ rest, Message.decodeAll options.dictionary (pipeline.relay direction).received =
      .ok ((pipeline.relay direction).handled.map Handled.message, rest)

end Pipeline

end Crocofix

import Duplex.Scenario.Step
import Duplex.Session.Entry

/-!
What can be seen of a scenario: after each step its result, the events that it led to, how the
session stands, and who was woken.
-/

namespace Duplex.Scenario

inductive Polled
  | absent
  | busy
  | done
  | pending
  | resolved (o : Outcome)
  deriving Repr, DecidableEq

inductive Pulled
  | item | ended | pending | paused
  deriving Repr, DecidableEq

inductive Signal
  | absent
  | pending
  | resolved (o : Outcome)
  | taken
  deriving Repr, DecidableEq

inductive Result
  | built
  | nothing
  | flag (b : Bool)
  | outcome (o : Outcome)
  | tried (p : Pull)
  | pulled (p : Pull)
  | drained (l : List Pull)
  | polled (p : Polled)
  | signal (s : Signal)
  | message (m : Message)
  | info (s : Setting) (lookup : List String)
  | labels (session receive readiness : String)
  deriving Repr, DecidableEq

inductive Event
  | suspended
  | resumed
  | wrote (m : Message)
  | closed (s : CloseStatus)
  | allocated (capacity : Nat)
  | did (step : String) (r : Result)
  | pulled (task : String) (p : Pulled)
  | dropped (task : String)
  | polled (task : String) (p : Polled)
  | consumed (handle : String) (p : Pull)
  | logged (id : SessionId) (e : Entry)
  | framed (f : Wire.Frame)
  | hungUp
  deriving Repr, DecidableEq

structure Report where
  result : Result
  events : List Event
  isOpen : Bool
  progress : Progress
  ready : Bool
  available : Bool
  terminated : Bool
  woken : List String
  suspended : Option Bool := none
  deriving Repr, DecidableEq

end Duplex.Scenario

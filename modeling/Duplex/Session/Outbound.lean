import Duplex.Session.Inbound

/-!
The outbound side: the readiness flag that it shares with the transport, the controls through which
the session halts the writer, and the writer itself, which takes one message at a time from its
source and holds it until the transport is ready.
-/

namespace Duplex

inductive Progress
  | notStarted | sending | completed
  deriving Repr, DecidableEq

def Progress.label : Progress → String
  | .notStarted => "NotStarted"
  | .sending => "Sending"
  | .completed => "Completed"

structure Readiness where
  ready : Bool := true
  waker : Option Waker := none
  deriving Repr, DecidableEq

def Readiness.label (r : Readiness) : String :=
  Text.record "SendReadiness" [("ready", Text.flag r.ready)]

/-- What the session knows of the writer: whether it was told to stop, and how it ends. -/
structure Control where
  cancelled : Bool := false
  outcome : Option Outcome := none
  waker : Option Waker := none
  deriving Repr, DecidableEq

structure Writer where
  waker : Waker := 0
  attached : Bool := true
  current : Option Message := none
  drained : Bool := false
  deriving Repr, DecidableEq

/-- Whether the next step needs no readiness that is missing. The end, too, waits until the last
write has been acknowledged. -/
def Writer.canProceed (w : Writer) (r : Readiness) : Bool :=
  r.ready && (w.drained || w.current.isSome)

def Writer.detach (w : Writer) : Writer := { w with attached := false, current := none }

end Duplex

import Duplex.Link.Flow
import Duplex.Session.Action
import Duplex.Wire.Endpoint

/-!
A session's link to a WebSocket: the switch that pauses the reader, the commands that wait for the
writer, and the endpoint that both tasks share. Only the writer takes commands; once it has ended,
none is accepted.
-/

namespace Duplex

namespace Link

inductive Command
  | send (i : Wire.Item)
  | close (s : CloseStatus)
  | stop
  deriving Repr, DecidableEq

inductive ReaderStage
  | checking
  | enlisting
  | parked
  | reading
  | leaving
  | ended
  deriving Repr, DecidableEq

inductive WriterStage
  | taking
  | parked
  | flushing
  | closing
  | leaving
  | ended
  deriving Repr, DecidableEq

end Link

structure Link where
  endpoint : Wire.Endpoint
  inbound : Wire.Pipe
  outbound : Wire.Pipe
  flow : Link.Flow := {}
  commands : List Link.Command := []
  reader : Link.ReaderStage := .checking
  writer : Link.WriterStage := .taking
  deriving Repr, DecidableEq

namespace Link

def push (l : Link) (c : Command) : Option Link :=
  match l.writer with
  | .ended => none
  | .parked => some { l with commands := l.commands ++ [c], writer := .taking }
  | _ => some { l with commands := l.commands ++ [c] }

def pushed (l : Link) (c : Command) (accepted : Answer) : Link × Answer :=
  match l.push c with
  | some l => (l, accepted)
  | none => (l, .failed .connectionClosed)

/-- Whether readiness has to be lowered before a call is carried out: a write takes it away until
its frame has been flushed. -/
def lowersReadiness : Call → Bool
  | .write _ => true
  | _ => false

/-- Carries out what the session asks of its transport. Nothing here waits for the connection. -/
def carryOut (l : Link) : Call → Link × Answer
  | .suspend => ({ l with flow := l.flow.suspend }, .done)
  | .resume => ({ l with flow := l.flow.resume }, .done)
  | .write m => l.pushed (.send (.ofMessage m)) (.written true)
  | .close s => l.pushed (.close s) .done
  | .wake _ | .pull _ => (l, .done)

def isOver (l : Link) : Bool := l.reader = .ended && l.writer = .ended

def release (l : Link) : Link :=
  if l.isOver then { l with inbound := l.inbound.close, outbound := l.outbound.close } else l

end Link
end Duplex

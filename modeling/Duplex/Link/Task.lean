import Duplex.Link.State

/-!
The two tasks of a link, step by step. The reader hands one frame at a time to the session and waits
at the switch before the next; the writer carries out one command at a time and raises readiness
once the frame has been flushed. The end of either is reported to the session once.
-/

namespace Duplex.Link

/-- What the writer has asked of the endpoint, and what came of it. -/
inductive Contact
  | sent (i : Wire.Item) (fault : Option WebSocketFault)
  | flushed (result : Wire.Endpoint.Flush)
  deriving Repr, DecidableEq

/-- What a step of a task leads to: a call to the endpoint, lines of the log, then perhaps an
operation on the session that has to finish before the task's next step. A task at rest goes on when
it is woken. -/
structure Move where
  link : Link
  contact : Option Contact := none
  entries : List Entry := []
  op : Option Op := none
  rests : Bool := false
  deriving Repr, DecidableEq

def onRead (l : Link) : Wire.Endpoint.Read → Move
  | .blocked => { link := l, rests := true }
  | .item (.close body) =>
    { link := { l with reader := .leaving }
      op := some (.transportClose ((body.map Wire.CloseBody.status).getD .noStatusCode)) }
  | .item i =>
    { link := { l with reader := .checking }
      op := i.toMessage?.map .message }
  | .failed e =>
    { link := { l with reader := .leaving }
      entries := [.readFailed e]
      op := some (.transportError (.webSocket e)) }
  | .ended =>
    { link := { l with reader := .leaving }
      entries := [.streamEnded]
      op := some (.transportClose .noCloseFrame) }

def stepReader (l : Link) : Move :=
  match l.reader with
  | .checking =>
    { link := { l with reader := if l.flow.suspended then .enlisting else .reading } }
  | .enlisting =>
    let (flow, permitted) := l.flow.enlist
    { link := { l with flow, reader := if permitted then .checking else .parked } }
  | .parked =>
    if l.flow.waiter = .called then
      { link := { l with flow := l.flow.heed, reader := .checking } }
    else { link := l, rests := true }
  | .reading =>
    let (endpoint, inbound, outbound, r) := l.endpoint.read l.inbound l.outbound
    { l with endpoint, inbound, outbound }.onRead r
  | .leaving =>
    let l := (l.push .stop).getD l
    { link := { l with reader := .ended }.release, entries := [.readerTerminated] }
  | .ended => { link := l, rests := true }

def send (l : Link) (i : Wire.Item) (next : Link → Option WebSocketFault → Move) : Move :=
  let (endpoint, outbound, fault) := l.endpoint.send i l.outbound
  { next { l with endpoint, outbound } fault with contact := some (.sent i fault) }

def flush (l : Link) (next : Link → Wire.Endpoint.Flush → Move) : Move :=
  let (endpoint, outbound, result) := l.endpoint.flush l.outbound
  { next { l with endpoint, outbound } result with contact := some (.flushed result) }

def writeFailed (l : Link) (e : WebSocketFault) : Move :=
  { link := { l with writer := .leaving }
    entries := [.writeFailed e]
    op := some (.transportError (.webSocket e)) }

def closeNotSent (l : Link) (e : WebSocketFault) : Move :=
  { link := { l with writer := .leaving }, entries := [.closeNotSent e] }

def onCommand (l : Link) : Command → Move
  | .send i => l.send i fun
    | l, some e => l.writeFailed e
    | l, none => { link := { l with writer := .flushing } }
  | .close s => l.send (.close (Wire.CloseBody.ofStatus s)) fun
    | l, some e => l.closeNotSent e
    | l, none => { link := { l with writer := .closing } }
  | .stop => { link := { l with writer := .leaving } }

def stepWriter (l : Link) : Move :=
  match l.writer with
  | .taking =>
    match l.commands with
    | [] => { link := { l with writer := .parked } }
    | c :: rest => { l with commands := rest }.onCommand c
  | .parked => { link := l, rests := true }
  | .flushing => l.flush fun
    | l, .blocked => { link := l, rests := true }
    | l, .failed e => l.writeFailed e
    | l, .done | l, .finished =>
      { link := { l with writer := .taking }
        entries := [.frameFlushed]
        op := some (.setReady true) }
  | .closing => l.flush fun
    | l, .blocked => { link := l, rests := true }
    | l, .failed e => l.closeNotSent e
    | l, .done | l, .finished => { link := { l with writer := .leaving } }
  | .leaving =>
    { link := { l with writer := .ended, commands := [] }.release, entries := [.writerTerminated] }
  | .ended => { link := l, rests := true }

end Duplex.Link

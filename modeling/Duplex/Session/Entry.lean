import Duplex.CloseStatus
import Duplex.Fault
import Duplex.Message

/-!
What a session and its tasks write to the log: one constructor for each kind of line, and its level,
text and fields.
-/

namespace Duplex

inductive Level
  | trace | debug | warn | error
  deriving Repr, DecidableEq

def Level.name : Level → String
  | .trace => "TRACE"
  | .debug => "DEBUG"
  | .warn => "WARN"
  | .error => "ERROR"

inductive Entry
  | opened (uri : String) (capacity : Nat)
  | messageReceived (m : Message)
  | messageIgnored (m : Message)
  | messageRejected (e : Fault)
  | receiveCompleted (pending : Nat)
  | receiveFailed (e : Fault)
  | errorIgnored (e : Fault)
  | sendRepeated
  | outboundAttached
  | outboundCancelled
  | terminalAlreadyRecorded
  | writing (m : Message)
  | discarding (m : Message)
  | outboundFailed (e : Fault)
  | outboundCompleted
  | transportFailed (e : Fault)
  | transportClosed (s : CloseStatus)
  | alreadyCompleted
  | leavingOpen
  | closeFailed (e : Fault)
  | closing (s : CloseStatus)
  | alreadyClosed (s : CloseStatus)
  | readFailed (e : WebSocketFault)
  | streamEnded
  | readerTerminated
  | writeFailed (e : WebSocketFault)
  | frameFlushed
  | closeNotSent (e : WebSocketFault)
  | writerTerminated
  deriving Repr, DecidableEq

namespace Entry

def level : Entry → Level
  | .messageReceived _ | .errorIgnored _ | .terminalAlreadyRecorded | .writing _ | .discarding _
  | .alreadyCompleted | .leavingOpen | .alreadyClosed _ | .frameFlushed => .trace
  | .messageIgnored _ | .messageRejected _ | .sendRepeated | .outboundFailed _ | .closeFailed _
  | .writeFailed _ => .warn
  | .readFailed _ => .error
  | _ => .debug

def text : Entry → String
  | .opened _ _ => "Session opened"
  | .messageReceived _ => "Message received"
  | .messageIgnored _ => "Message after terminal signal ignored"
  | .messageRejected _ => "Inbound message rejected"
  | .receiveCompleted _ => "Receive stream completed"
  | .receiveFailed _ => "Receive stream failed"
  | .errorIgnored _ => "Error after terminal signal ignored"
  | .sendRepeated => "send() called more than once"
  | .outboundAttached => "Outbound stream attached"
  | .outboundCancelled => "Outbound stream cancelled"
  | .terminalAlreadyRecorded => "Outbound terminal signal already recorded"
  | .writing m => if m.isEmpty then "Writing empty frame" else "Writing message"
  | .discarding _ => "Discarding unwritten message"
  | .outboundFailed _ => "Outbound stream failed"
  | .outboundCompleted => "Outbound stream completed"
  | .transportFailed _ => "Transport error"
  | .transportClosed _ => "Transport closed"
  | .alreadyCompleted => "Session already completed"
  | .leavingOpen => "Outbound complete, leaving connection open"
  | .closeFailed _ => "Failed to close session"
  | .closing _ => "Closing session"
  | .alreadyClosed _ => "Session already closed"
  | .readFailed _ => "WebSocket read failed"
  | .streamEnded => "WebSocket stream ended"
  | .readerTerminated => "Reader task terminated"
  | .writeFailed _ => "WebSocket write failed"
  | .frameFlushed => "Frame flushed"
  | .closeNotSent _ => "Close frame not sent"
  | .writerTerminated => "Writer task terminated"

def details : Entry → List (String × String)
  | .opened uri capacity => [("uri", uri), ("receive_capacity", toString capacity)]
  | .messageReceived m | .messageIgnored m | .writing m | .discarding m => [("message", m.label)]
  | .messageRejected e | .receiveFailed e | .errorIgnored e | .outboundFailed e
  | .transportFailed e | .closeFailed e => [("error", e.message)]
  | .receiveCompleted pending => [("pending", toString pending)]
  | .transportClosed s | .closing s | .alreadyClosed s => [("status", s.display)]
  | .readFailed e | .writeFailed e | .closeNotSent e => [("error", e.message)]
  | _ => []

def fields (id : String) (e : Entry) : List (String × String) := ("session_id", id) :: e.details

end Entry
end Duplex

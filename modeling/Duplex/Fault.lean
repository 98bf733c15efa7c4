import Duplex.Json.Value

/-!
Everything that can go wrong with a session, by cause. The wording of each cause is what callers,
logs and close reasons show.
-/

namespace Duplex

inductive IoKind
  | brokenPipe | notFound | connectionReset | unexpectedEof | timedOut | permissionDenied | other
  deriving Repr, DecidableEq

def IoKind.message : IoKind → String
  | .brokenPipe => "broken pipe"
  | .notFound => "entity not found"
  | .connectionReset => "connection reset"
  | .unexpectedEof => "unexpected end of file"
  | .timedOut => "timed out"
  | .permissionDenied => "permission denied"
  | .other => "other error"

structure IoFault where
  kind : IoKind
  detail : Option String := none
  deriving Repr, DecidableEq

def IoFault.message (f : IoFault) : String := f.detail.getD f.kind.message

inductive ProtocolFault
  | resetWithoutClosing
  | sendAfterClosing
  | reservedBits
  | unmaskedFromClient
  | maskedFromServer
  | invalidOpcode (code : Nat)
  | fragmentedControl
  | controlTooBig
  | nothingToContinue
  | expectedFragment (kind : String)
  | invalidCloseSequence
  deriving Repr, DecidableEq

def ProtocolFault.message : ProtocolFault → String
  | .resetWithoutClosing => "Connection reset without closing handshake"
  | .sendAfterClosing => "Sending after closing is not allowed"
  | .reservedBits => "Reserved bits are non-zero"
  | .unmaskedFromClient => "Received an unmasked frame from client"
  | .maskedFromServer => "Received a masked frame from server"
  | .invalidOpcode code => "Encountered invalid opcode: " ++ toString code
  | .fragmentedControl => "Fragmented control frame"
  | .controlTooBig => "Control frame too big (payload must be 125 bytes or less)"
  | .nothingToContinue => "Continue frame but nothing to continue"
  | .expectedFragment kind => "While waiting for more fragments received: " ++ kind
  | .invalidCloseSequence => "Invalid close sequence"

inductive WebSocketFault
  | connectionClosed
  | alreadyClosed
  | attack
  | tooLong (size limit : Nat)
  | protocol (p : ProtocolFault)
  | utf8 (detail : String)
  | io (f : IoFault)
  deriving Repr, DecidableEq

def WebSocketFault.message : WebSocketFault → String
  | .connectionClosed => "Connection closed normally"
  | .alreadyClosed => "Trying to work with closed connection"
  | .attack => "Attack attempt detected"
  | .tooLong size limit =>
    "Space limit exceeded: Message too long: " ++ toString size ++ " > " ++ toString limit
  | .protocol p => "WebSocket protocol error: " ++ p.message
  | .utf8 detail => "UTF-8 encoding error: " ++ detail
  | .io f => "IO error: " ++ f.message

inductive Fault
  | illegalState (what : String)
  | writeRejected
  | transport (what : String)
  | connectionClosed
  | receiveOverflow (capacity : Nat)
  | config (what : String)
  | io (f : IoFault)
  | json (d : Json.Defect) (place : Option Json.Place := none)
  | webSocket (f : WebSocketFault)
  deriving Repr, DecidableEq

namespace Fault

def message : Fault → String
  | .illegalState what => "Illegal state: " ++ what
  | .writeRejected => "Transport rejected a write while ready to send"
  | .transport what => "Transport error: " ++ what
  | .connectionClosed => "Connection closed"
  | .receiveOverflow capacity =>
    "Receive buffer overflow: more than " ++ toString capacity ++ " pending messages"
  | .config what => "Configuration error: " ++ what
  | .io f => "IO error: " ++ f.message
  | .json d none => "JSON error: " ++ d.message
  | .json d (some place) => "JSON error: " ++ d.message ++ " at " ++ place.message
  | .webSocket f => "WebSocket error: " ++ f.message

def isProtocolViolation : Fault → Bool
  | .illegalState _ | .writeRejected => true
  | _ => false

def isTransport : Fault → Bool
  | .transport _ | .connectionClosed | .io _ | .webSocket _ => true
  | _ => false

def isOverflow : Fault → Bool
  | .receiveOverflow _ => true
  | _ => false

def deliveredWhileSuspended : Fault :=
  .illegalState "message delivered while receiving was suspended"

def streamTerminated : Fault := .illegalState "receive stream already terminated"

def alreadySending : Fault := .illegalState "send() has already been called"

def handshakeMissing : Fault := .config "handshake info is required"

def capacityTooSmall : Fault := .config "receive_buffer_capacity must be at least 1"

end Fault

inductive Outcome
  | success
  | failure (e : Fault)
  deriving Repr, DecidableEq

end Duplex

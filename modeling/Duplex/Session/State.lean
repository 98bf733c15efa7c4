import Duplex.BufferFactory
import Duplex.CloseStatus
import Duplex.Handshake
import Duplex.Session.Outbound
import Duplex.SessionId
import Duplex.SessionOptions

/-!
The state of a session. Only the session closes the connection, and it completes once: the first
result that reaches it decides what the completion signal receives and how the connection ends.
-/

namespace Duplex

structure Setting where
  id : SessionId
  handshake : Handshake
  options : SessionOptions := {}
  factory : BufferFactory := default
  suspendable : Bool := true
  deriving Repr, DecidableEq

/-- How many messages may be stored at once: one if the transport can pause. -/
def Setting.capacity (s : Setting) : Nat :=
  if s.suspendable then 1 else s.options.receiveBufferCapacity

/-- What a message does to a sequence that has no room for it. -/
def Setting.overflow (s : Setting) : Fault :=
  if s.suspendable then .deliveredWhileSuspended else .receiveOverflow s.capacity

inductive Completion
  | absent
  | waiting
  | resolved (o : Outcome)
  deriving Repr, DecidableEq

structure Session where
  setting : Setting
  inbound : Inbound := {}
  readiness : Readiness := {}
  progress : Progress := .notStarted
  transportOutcome : Option Outcome := none
  control : Option Control := none
  writer : Option Writer := none
  handlerAttached : Bool := false
  completion : Completion := .absent
  finalized : Bool := false
  closed : Bool := false
  deriving Repr, DecidableEq

namespace Session

def isOpen (s : Session) : Bool := !s.closed

/-- Whether somebody will bring a result: an attached source or a handler. -/
def hasOutboundTask (s : Session) : Bool := s.progress ≠ .notStarted || s.handlerAttached

/-- A session's creation: it needs a handshake and valid options, in this order. -/
def create (id : SessionId) (handshake : Option Handshake) (options : SessionOptions)
    (factory : BufferFactory) (suspendable : Bool) (completion : Bool) : Except Fault Session :=
  match handshake with
  | none => .error .handshakeMissing
  | some handshake =>
    match options.validate with
    | .failure e => .error e
    | .success =>
      .ok { setting := { id, handshake, options, factory, suspendable }
            completion := if completion then .waiting else .absent }

def label (s : Session) : String :=
  Text.openRecord "Session" [
    ("id", s.setting.id.label), ("uri", Text.quoted s.setting.handshake.uri.text),
    ("outbound_state", s.progress.label), ("open", Text.flag s.isOpen)]

def receiveLabel (s : Session) : String :=
  Text.record "Receive" [("adapter", Text.openRecord "ReceiveAdapter" [
    ("session_id", s.setting.id.label), ("capacity", toString s.setting.capacity),
    ("suspendable", Text.flag s.setting.suspendable)])]

def build (s : Session) (type : MessageType) (payload : Octets) : Message × Nat :=
  (⟨type, payload⟩, s.setting.factory.allocate (if type = .text then payload.length else 0))

end Session

def builderLabel (id : Option SessionId) (handshake : Option Handshake)
    (factory : Option BufferFactory) (completion : Bool) (options : SessionOptions) : String :=
  Text.record "SessionBuilder" [
    ("id", Text.optional (id.map SessionId.label)),
    ("handshake", Text.optional (handshake.map Handshake.label)),
    ("buffer_factory", Text.optional (factory.map BufferFactory.label)),
    ("completion", Text.flag completion), ("options", options.label)]

end Duplex

import Duplex.Utf8
import Duplex.Json.Record

/-!
Messages as the transport has already decoded them: a kind and payload bytes.
-/

namespace Duplex

inductive MessageType
  | text | binary | ping | pong | close
  deriving Repr, DecidableEq

namespace MessageType

def all : List MessageType := [.text, .binary, .ping, .pong, .close]

def name : MessageType → String
  | .text => "text"
  | .binary => "binary"
  | .ping => "ping"
  | .pong => "pong"
  | .close => "close"

def label : MessageType → String
  | .text => "Text"
  | .binary => "Binary"
  | .ping => "Ping"
  | .pong => "Pong"
  | .close => "Close"

def isControl : MessageType → Bool
  | .ping | .pong | .close => true
  | .text | .binary => false

def ofJson (text : String) : Except Json.Defect MessageType :=
  Json.readAll (Json.readVariant (all.map fun t => (t.name, t))) text

end MessageType

structure Message where
  type : MessageType
  payload : Octets
  deriving Repr, DecidableEq

namespace Message

def text (s : String) : Message := ⟨.text, Utf8.encode s⟩
def binary (b : Octets) : Message := ⟨.binary, b⟩
def ping (b : Octets) : Message := ⟨.ping, b⟩
def pong (b : Octets) : Message := ⟨.pong, b⟩

def length (m : Message) : Nat := m.payload.length

def isEmpty (m : Message) : Bool := m.payload.isEmpty

def asText (m : Message) : String := Utf8.decodeLossy m.payload

def label (m : Message) : String :=
  Text.record "Message" [("type", m.type.label), ("len", toString m.length)]

end Message
end Duplex

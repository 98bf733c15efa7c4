import Duplex.CloseStatus
import Duplex.Message

/-!
What travels over a WebSocket, as the endpoints hand it on: text, binary data, pings, pongs and a
close, which may say why. A message becomes an item and an item a message; a close is reported as a
status and not as a message.
-/

namespace Duplex.Wire

structure CloseBody where
  code : UInt16
  reason : String
  deriving Repr, DecidableEq

inductive Item
  | text (s : String)
  | binary (b : Octets)
  | ping (b : Octets)
  | pong (b : Octets)
  | close (body : Option CloseBody)
  deriving Repr, DecidableEq

namespace CloseBody

def reasonLimit : Nat := 123

def isReserved (code : UInt16) : Bool :=
  code = CloseStatus.noStatusCode.code || code = CloseStatus.noCloseFrame.code ||
    code = CloseStatus.tlsHandshakeFailure.code

/-- What a close with this status says: nothing for a reserved code, otherwise the code and as much
of the reason as fits. -/
def ofStatus (s : CloseStatus) : Option CloseBody :=
  if isReserved s.code then none
  else some ⟨s.code, Utf8.truncate reasonLimit (s.reason.getD "")⟩

def status (b : CloseBody) : CloseStatus :=
  ⟨b.code, if b.reason.isEmpty then none else some b.reason⟩

def payload (b : CloseBody) : Octets :=
  (b.code.toNat / 256).toUInt8 :: (b.code.toNat % 256).toUInt8 :: Utf8.encode b.reason

/-- Codes that a peer may send: the registered ones that are not reserved, and those for private
use. -/
def isAllowed (code : UInt16) : Bool :=
  let n := code.toNat
  (1000 ≤ n && n ≤ 1003) || (1007 ≤ n && n ≤ 1013) || (3000 ≤ n && n ≤ 4999)

end CloseBody

namespace Item

/-- A close message's payload is a code of two bytes and a reason. -/
def ofMessage (m : Message) : Item :=
  match m.type with
  | .text => .text m.asText
  | .binary => .binary m.payload
  | .ping => .ping m.payload
  | .pong => .pong m.payload
  | .close =>
    match m.payload with
    | high :: low :: reason =>
      .close (CloseBody.ofStatus
        ⟨(high.toNat * 256 + low.toNat).toUInt16, some (Utf8.decodeLossy reason)⟩)
    | _ => .close none

def toMessage? : Item → Option Message
  | .text s => some (.text s)
  | .binary b => some (.binary b)
  | .ping b => some (.ping b)
  | .pong b => some (.pong b)
  | .close _ => none

end Item
end Duplex.Wire

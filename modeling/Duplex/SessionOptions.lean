import Duplex.Fault
import Duplex.Json.Record

/-!
What a session lets its creator choose: how many messages may wait when the transport cannot pause,
and whether the connection closes once everything has been sent.
-/

namespace Duplex

structure SessionOptions where
  receiveBufferCapacity : Nat := 8192
  closeOnSendComplete : Bool := true
  deriving Repr, DecidableEq

namespace SessionOptions

def validate (o : SessionOptions) : Outcome :=
  if o.receiveBufferCapacity = 0 then .failure .capacityTooSmall else .success

def toJson (o : SessionOptions) : String :=
  "\x7b\"receive_buffer_capacity\":" ++ toString o.receiveBufferCapacity ++
    ",\"close_on_send_complete\":" ++ Text.flag o.closeOnSendComplete ++ "\x7d"

structure Draft where
  capacity : Option Nat := none
  close : Option Bool := none

def fields : List (Json.Field Draft) := [
  { name := "receive_buffer_capacity"
    fill := fun d cs => (Json.readNat Json.wordLimit "usize" cs).map fun v =>
      ({ d with capacity := some v.1 }, v.2)
    filled := fun d => d.capacity.isSome
    defaulted := true },
  { name := "close_on_send_complete"
    fill := fun d cs => (Json.readBool cs).map fun v => ({ d with close := some v.1 }, v.2)
    filled := fun d => d.close.isSome
    defaulted := true }]

def Draft.finish (d : Draft) : SessionOptions :=
  let o : SessionOptions := {}
  ⟨d.capacity.getD o.receiveBufferCapacity, d.close.getD o.closeOnSendComplete⟩

def readJson (text : String) : Except Json.Defect SessionOptions :=
  Json.readAll (Json.readRecord "SessionOptions" fields {} fun d => .ok d.finish) text

def ofJson (text : String) : Except Fault SessionOptions :=
  match readJson text with
  | .error d => .error (.json d)
  | .ok o =>
    match o.validate with
    | .success => .ok o
    | .failure e => .error e

def label (o : SessionOptions) : String :=
  Text.record "SessionOptions" [
    ("receive_buffer_capacity", toString o.receiveBufferCapacity),
    ("close_on_send_complete", Text.flag o.closeOnSendComplete)]

end SessionOptions
end Duplex

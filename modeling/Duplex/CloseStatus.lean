import Duplex.Utf8
import Duplex.Json.Record

/-!
Close statuses: a numeric code and, possibly, a reason. An absent reason and an empty one are
different values.
-/

namespace Duplex

structure CloseStatus where
  code : UInt16
  reason : Option String := none
  deriving Repr, DecidableEq

namespace CloseStatus

def normal : CloseStatus := ⟨1000, none⟩
def goingAway : CloseStatus := ⟨1001, none⟩
def protocolError : CloseStatus := ⟨1002, none⟩
def notAcceptable : CloseStatus := ⟨1003, none⟩
def noStatusCode : CloseStatus := ⟨1005, none⟩
def noCloseFrame : CloseStatus := ⟨1006, none⟩
def badData : CloseStatus := ⟨1007, none⟩
def policyViolation : CloseStatus := ⟨1008, none⟩
def tooBigToProcess : CloseStatus := ⟨1009, none⟩
def requiredExtension : CloseStatus := ⟨1010, none⟩
def serverError : CloseStatus := ⟨1011, none⟩
def serviceRestarted : CloseStatus := ⟨1012, none⟩
def serviceOverload : CloseStatus := ⟨1013, none⟩
def tlsHandshakeFailure : CloseStatus := ⟨1015, none⟩

def named : List (String × CloseStatus) := [
  ("NORMAL", normal), ("GOING_AWAY", goingAway), ("PROTOCOL_ERROR", protocolError),
  ("NOT_ACCEPTABLE", notAcceptable), ("NO_STATUS_CODE", noStatusCode),
  ("NO_CLOSE_FRAME", noCloseFrame), ("BAD_DATA", badData),
  ("POLICY_VIOLATION", policyViolation), ("TOO_BIG_TO_PROCESS", tooBigToProcess),
  ("REQUIRED_EXTENSION", requiredExtension), ("SERVER_ERROR", serverError),
  ("SERVICE_RESTARTED", serviceRestarted), ("SERVICE_OVERLOAD", serviceOverload),
  ("TLS_HANDSHAKE_FAILURE", tlsHandshakeFailure)]

def named? (name : String) : Option CloseStatus :=
  (named.find? fun n => n.1 = name).map Prod.snd

instance : Inhabited CloseStatus := ⟨normal⟩

def withReason (s : CloseStatus) (reason : String) : CloseStatus :=
  ⟨s.code, if reason.isEmpty then none else some reason⟩

def sameCode (a b : CloseStatus) : Bool := a.code = b.code

def display (s : CloseStatus) : String :=
  match s.reason with
  | some r => "CloseStatus[code=" ++ toString s.code.toNat ++ ", reason=" ++ r ++ "]"
  | none => "CloseStatus[code=" ++ toString s.code.toNat ++ "]"

def toJson (s : CloseStatus) : String :=
  let code := "\x7b\"code\":".toList ++ (toString s.code.toNat).toList
  let reason := match s.reason with
    | some r => ",\"reason\":".toList ++ Json.writeText r
    | none => []
  String.ofList (code ++ reason ++ ['\x7d'])

structure Draft where
  code : Option Nat := none
  reason : Option (Option String) := none

def fields : List (Json.Field Draft) := [
  { name := "code"
    fill := fun d cs => (Json.readNat 65535 "u16" cs).map fun v =>
      ({ d with code := some v.1 }, v.2)
    filled := fun d => d.code.isSome },
  { name := "reason"
    fill := fun d cs => (Json.readOption (Json.readString "a string") cs).map fun v =>
      ({ d with reason := some v.1 }, v.2)
    filled := fun d => d.reason.isSome
    defaulted := true }]

def Draft.finish (d : Draft) : Except Json.Defect CloseStatus :=
  match d.code with
  | none => .error (.missingField "code")
  | some code => .ok ⟨code.toUInt16, d.reason.getD none⟩

def ofJson (text : String) : Except Json.Defect CloseStatus :=
  Json.readAll (Json.readRecord "CloseStatus" fields {} Draft.finish) text

end CloseStatus
end Duplex

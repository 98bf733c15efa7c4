import Duplex.Headers
import Duplex.Json.Record
import Duplex.Uri.Reader

/-!
What is known of the request that opened a connection. Headers are added and looked up without
regard to the case of ASCII letters; under one name the last value counts.
-/

namespace Duplex

structure Handshake where
  uri : Uri
  headers : Headers := {}
  requestedProtocols : List String := []
  protocol : Option String := none
  extensions : List String := []
  deriving Repr, DecidableEq

namespace Handshake

def lowerCase (s : String) : String := s.map Char.toLower

def withHeader (h : Handshake) (name value : String) : Handshake :=
  { h with headers := h.headers.put (lowerCase name) value }

def withRequestedProtocols (h : Handshake) (protocols : List String) : Handshake :=
  { h with requestedProtocols := protocols }

def withProtocol (h : Handshake) (protocol : String) : Handshake :=
  { h with protocol := some protocol }

def withExtension (h : Handshake) (extension : String) : Handshake :=
  { h with extensions := h.extensions ++ [extension] }

def header (h : Handshake) (name : String) : Option String :=
  h.headers.get? (lowerCase name)

def joined (parts : List (List Char)) : List Char := [','].intercalate parts

def writeList (l : List String) : List Char :=
  '[' :: (joined (l.map Json.writeText) ++ [']'])

def writeField (name : String) (value : List Char) : List Char :=
  Json.writeText name ++ ':' :: value

def writeHeaders (l : List (String × String)) : List Char :=
  '\x7b' :: (joined (l.map fun e => writeField e.1 (Json.writeText e.2)) ++ ['\x7d'])

def toJson (h : Handshake) : String :=
  let protocol := match h.protocol with
    | some p => Json.writeText p
    | none => "null".toList
  String.ofList ('\x7b' :: (joined [
    writeField "uri" (Json.writeText h.uri.text),
    writeField "headers" (writeHeaders h.headers.entries),
    writeField "requested_protocols" (writeList h.requestedProtocols),
    writeField "protocol" protocol,
    writeField "extensions" (writeList h.extensions)] ++ ['\x7d']))

structure Draft where
  uri : Option Uri := none
  headers : Option Headers := none
  requestedProtocols : Option (List String) := none
  protocol : Option (Option String) := none
  extensions : Option (List String) := none

def readUri : Json.Reader Uri := fun cs => do
  let (s, rest) ← Json.readString "a string representing an URL" cs
  match Uri.read s with
  | .ok u => .ok (u, rest)
  | .error e => .error (.behind (.unusable (e.message ++ ": " ++ Text.quoted s)) rest)

def readStrings : Json.Reader (List String) := Json.readList (Json.readString "a string")

def fields : List (Json.Field Draft) := [
  { name := "uri"
    fill := fun d cs => (readUri cs).map fun v => ({ d with uri := some v.1 }, v.2)
    filled := fun d => d.uri.isSome },
  { name := "headers"
    fill := fun d cs => (Json.readTextMap {} Headers.put cs).map fun v =>
      ({ d with headers := some v.1 }, v.2)
    filled := fun d => d.headers.isSome },
  { name := "requested_protocols"
    fill := fun d cs => (readStrings cs).map fun v =>
      ({ d with requestedProtocols := some v.1 }, v.2)
    filled := fun d => d.requestedProtocols.isSome },
  { name := "protocol"
    fill := fun d cs => (Json.readOption (Json.readString "a string") cs).map fun v =>
      ({ d with protocol := some v.1 }, v.2)
    filled := fun d => d.protocol.isSome },
  { name := "extensions"
    fill := fun d cs => (readStrings cs).map fun v => ({ d with extensions := some v.1 }, v.2)
    filled := fun d => d.extensions.isSome }]

/-- The first field that is missing, in the order of declaration, is the defect. -/
def Draft.finish (d : Draft) : Except Json.Defect Handshake :=
  match d.uri, d.headers, d.requestedProtocols, d.extensions with
  | none, _, _, _ => .error (.missingField "uri")
  | _, none, _, _ => .error (.missingField "headers")
  | _, _, none, _ => .error (.missingField "requested_protocols")
  | _, _, _, none => .error (.missingField "extensions")
  | some uri, some headers, some requested, some extensions =>
    .ok ⟨uri, headers, requested, d.protocol.getD none, extensions⟩

def ofJson (text : String) : Except Json.Defect Handshake :=
  Json.readAll (Json.readRecord "HandshakeInfo" fields {} Draft.finish) text

def same (a b : Handshake) : Bool :=
  a.uri = b.uri && a.headers.same b.headers && a.requestedProtocols = b.requestedProtocols &&
    a.protocol = b.protocol && a.extensions = b.extensions

def roundTrips (h : Handshake) : Bool :=
  match ofJson h.toJson with
  | .ok h' => h.same h'
  | .error _ => false

def label (h : Handshake) : String :=
  Text.record "HandshakeInfo" [
    ("uri", h.uri.label),
    ("headers", h.headers.label),
    ("requested_protocols", Text.quotedList h.requestedProtocols),
    ("protocol", Text.quotedOption h.protocol),
    ("extensions", Text.quotedList h.extensions)]

end Handshake
end Duplex

import Duplex.Uri.Host

/-!
Absolute addresses in their normal form. A special scheme has a host, a default port that is never
written, and a path of segments; any other scheme may also have a path that is kept whole.
-/

namespace Duplex

inductive Uri.Path
  | whole (s : String)
  | segments (l : List String)
  deriving Repr, DecidableEq

structure Uri where
  scheme : String
  authority : Bool := false
  username : String := ""
  password : Option String := none
  host : Option Uri.Host := none
  port : Option Nat := none
  path : Uri.Path := .segments []
  query : Option String := none
  fragment : Option String := none
  deriving Repr, DecidableEq

namespace Uri

def defaultPort : String → Option Nat
  | "http" | "ws" => some 80
  | "https" | "wss" => some 443
  | "ftp" => some 21
  | _ => none

def isSpecial (scheme : String) : Bool := (defaultPort scheme).isSome || scheme = "file"

def hostText (u : Uri) : Option String :=
  match u.host with
  | none => none
  | some (.name "") => none
  | some h => some h.text

def pathText (u : Uri) : String :=
  match u.path with
  | .whole s => s
  | .segments l => String.join (l.map fun s => "/" ++ s)

def credentials (u : Uri) : String :=
  match u.username, u.password with
  | "", none => ""
  | user, none => user ++ "@"
  | user, some p => user ++ ":" ++ p ++ "@"

def marked (mark : String) (s : Option String) : String :=
  match s with
  | none => ""
  | some s => mark ++ s

/-- The address as text. A path that would read as a host is kept apart from the scheme by a dot. -/
def text (u : Uri) : String :=
  let place :=
    if u.authority then
      "//" ++ credentials u ++ ((u.host.map Host.text).getD "") ++
        marked ":" (u.port.map fun p => toString p)
    else
      match u.path with
      | .segments ("" :: _ :: _) => "/."
      | _ => ""
  u.scheme ++ ":" ++ place ++ u.pathText ++ marked "?" u.query ++ marked "#" u.fragment

def label (u : Uri) : String :=
  let whole := match u.path with
    | .whole _ => true
    | .segments _ => false
  let host := match u.host with
    | some (.name "") => none
    | h => h.map Host.label
  Text.record "Url" [
    ("scheme", Text.quoted u.scheme), ("cannot_be_a_base", Text.flag whole),
    ("username", Text.quoted u.username), ("password", Text.quotedOption u.password),
    ("host", Text.optional host), ("port", Text.optional (u.port.map fun p => toString p)),
    ("path", Text.quoted u.pathText), ("query", Text.quotedOption u.query),
    ("fragment", Text.quotedOption u.fragment)]

end Uri
end Duplex

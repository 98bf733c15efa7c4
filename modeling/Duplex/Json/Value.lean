import Duplex.Json.Reader

/-!
Any JSON value, read for its defects only, and the place where a defect shows. Brackets may be
nested up to a fixed depth.
-/

namespace Duplex.Json

def depthLimit : Nat := 127

def readAny : Nat → Nat → Reader Unit
  | 0, _ => fun cs => .error (.next .tooDeep cs)
  | fuel + 1, depth => fun cs =>
    match skipBlanks cs with
    | [] => .error (.next (.unfinished .value) [])
    | 'n' :: r => (readWord "ull".toList r).map fun r => ((), r)
    | 't' :: r => (readWord "rue".toList r).map fun r => ((), r)
    | 'f' :: r => (readWord "alse".toList r).map fun r => ((), r)
    | '"' :: r => (readText r).map fun t => ((), t.2)
    | '[' :: r =>
      if depth = 0 then .error (.next .tooDeep ('[' :: r))
      else do
        let (_, rest) ← readElements (readAny fuel (depth - 1)) true [] r (r.length + 1)
        .ok ((), ← endList rest)
    | '\x7b' :: r =>
      if depth = 0 then .error (.next .tooDeep ('\x7b' :: r))
      else do
        let (_, rest) ← readEntries
          (fun _ _ cs => do readAny fuel (depth - 1) (← readColon cs)) true () r (r.length + 1)
        .ok ((), ← endObject rest)
    | c :: r =>
      if c = '-' || c.isDigit then (readNumber (c :: r)).map fun n => ((), n.2)
      else .error (.next .expectedValue (c :: r))

structure Place where
  line : Nat
  column : Nat
  deriving Repr, DecidableEq

def Place.message (p : Place) : String :=
  "line " ++ toString p.line ++ " column " ++ toString p.column

def Place.behind (read : Octets) : Place :=
  ⟨1 + read.count 10, (read.reverse.takeWhile (· ≠ 10)).length⟩

def Breach.place (b : Breach) (text : String) : Place :=
  let all := Utf8.encode text
  let unread := Utf8.encode (String.ofList b.unread)
  .behind (all.take (all.length - unread.length + b.bytes))

def breach? (text : String) : Option (Defect × Place) :=
  match readWhole (readAny (text.length + 1) depthLimit) text with
  | .ok _ => none
  | .error b => some (b.defect, b.place text)

end Duplex.Json

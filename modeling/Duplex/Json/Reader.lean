import Duplex.Json.Number
import Duplex.Json.Text

/-!
Readers of single values. Each takes the rest of the text, passes over blanks and answers the value
and what follows it, or the first defect met from left to right and where it shows.
-/

namespace Duplex.Json

abbrev Reader (α : Type) := List Char → Except Breach (α × List Char)

def isBlank (c : Char) : Bool := c = ' ' || c = '\n' || c = '\t' || c = '\r'

def skipBlanks (cs : List Char) : List Char := cs.dropWhile isBlank

def readWord : List Char → List Char → Except Breach (List Char)
  | [], cs => .ok cs
  | _ :: _, [] => .error (.next (.unfinished .value) [])
  | w :: ws, c :: cs =>
    if c = w then readWord ws cs else .error (.next .expectedIdent (c :: cs))

def mismatch (expected : String) (cs : List Char) : Breach :=
  let found (r : Except Breach Found) : Breach :=
    match r with
    | .ok f => .behind (.wrongType f expected) cs
    | .error b => b
  match cs with
  | 'n' :: r => found ((readWord "ull".toList r).map fun _ => .null)
  | 't' :: r => found ((readWord "rue".toList r).map fun _ => .boolean true)
  | 'f' :: r => found ((readWord "alse".toList r).map fun _ => .boolean false)
  | '"' :: r => found ((readText r).map fun t => .string t.1)
  | '[' :: _ => found (.ok .sequence)
  | '\x7b' :: _ => found (.ok .map)
  | c :: r =>
    if c = '-' || c.isDigit then found ((readNumber (c :: r)).map fun n => n.1.found)
    else .next .expectedValue (c :: r)
  | [] => .next .expectedValue []

def readString (expected : String) : Reader String := fun cs =>
  match skipBlanks cs with
  | [] => .error (.next (.unfinished .value) [])
  | '"' :: r => readText r
  | r => .error (mismatch expected r)

def readBool : Reader Bool := fun cs =>
  match skipBlanks cs with
  | [] => .error (.next (.unfinished .value) [])
  | 't' :: r => (readWord "rue".toList r).map fun r => (true, r)
  | 'f' :: r => (readWord "alse".toList r).map fun r => (false, r)
  | r => .error (mismatch "a boolean" r)

def readNat (limit : Nat) (expected : String) : Reader Nat := fun cs =>
  match skipBlanks cs with
  | [] => .error (.next (.unfinished .value) [])
  | c :: r =>
    if c = '-' || c.isDigit then do
      let (n, rest) ← readNumber (c :: r)
      match n with
      | .unsigned n =>
        if n ≤ limit then .ok (n, rest)
        else .error (.behind (.wrongValue (.integer n) expected) rest)
      | .negative n => .error (.behind (.wrongValue (.integer (-(n : Int))) expected) rest)
      | .floating x =>
        .error (.behind (.wrongType (.floating (Decimal.floatText x)) expected) rest)
    else .error (mismatch expected (c :: r))

def readOption {α : Type} (read : Reader α) : Reader (Option α) := fun cs =>
  match skipBlanks cs with
  | 'n' :: r => (readWord "ull".toList r).map fun r => (none, r)
  | r => (read r).map fun v => (some v.1, v.2)

def readNull (expected : String) : Reader Unit := fun cs =>
  match skipBlanks cs with
  | [] => .error (.next (.unfinished .value) [])
  | 'n' :: r => (readWord "ull".toList r).map fun r => ((), r)
  | r => .error (mismatch expected r)

def readColon (cs : List Char) : Except Breach (List Char) :=
  match skipBlanks cs with
  | [] => .error (.next (.unfinished .object) [])
  | ':' :: r => .ok r
  | r => .error (.next .expectedColon r)

def nextElement (first : Bool) (cs : List Char) : Except Breach (Bool × List Char) :=
  match skipBlanks cs with
  | [] => .error (.next (.unfinished .list) [])
  | ']' :: r => .ok (false, ']' :: r)
  | c :: r =>
    if first then .ok (true, c :: r)
    else if c = ',' then
      match skipBlanks r with
      | [] => .error (.next (.unfinished .value) [])
      | ']' :: r => .error (.next .trailingComma (']' :: r))
      | r => .ok (true, r)
    else .error (.next .expectedListComma (c :: r))

def nextKey (first : Bool) (cs : List Char) : Except Breach (Bool × List Char) :=
  match skipBlanks cs with
  | [] => .error (.next (.unfinished .object) [])
  | '\x7d' :: r => .ok (false, '\x7d' :: r)
  | c :: r =>
    if first then if c = '"' then .ok (true, r) else .error (.next .keyNotString (c :: r))
    else if c = ',' then
      match skipBlanks r with
      | [] => .error (.next (.unfinished .value) [])
      | '"' :: r => .ok (true, r)
      | '\x7d' :: r => .error (.next .trailingComma ('\x7d' :: r))
      | r => .error (.next .keyNotString r)
    else .error (.next .expectedObjectComma (c :: r))

def endList (cs : List Char) : Except Breach (List Char) :=
  match skipBlanks cs with
  | [] => .error (.next (.unfinished .list) [])
  | ']' :: r => .ok r
  | ',' :: r =>
    match skipBlanks r with
    | ']' :: r => .error (.next .trailingComma (']' :: r))
    | r => .error (.next .trailingCharacters r)
  | r => .error (.next .trailingCharacters r)

def endObject (cs : List Char) : Except Breach (List Char) :=
  match skipBlanks cs with
  | [] => .error (.next (.unfinished .object) [])
  | '\x7d' :: r => .ok r
  | ',' :: r => .error (.next .trailingComma (',' :: r))
  | r => .error (.next .trailingCharacters r)

def readElements {α : Type} (read : Reader α) (first : Bool) (done : List α) (cs : List Char) :
    Nat → Except Breach (List α × List Char)
  | 0 => .error (.next .tooDeep cs)
  | fuel + 1 => do
    let (more, rest) ← nextElement first cs
    if more then
      let (v, rest) ← read rest
      readElements read false (v :: done) rest fuel
    else .ok (done.reverse, rest)

def readList {α : Type} (read : Reader α) : Reader (List α) := fun cs =>
  match skipBlanks cs with
  | [] => .error (.next (.unfinished .value) [])
  | '[' :: r => do
    let (vs, rest) ← readElements read true [] r (r.length + 1)
    .ok (vs, ← endList rest)
  | r => .error (mismatch "a sequence" r)

def readEntries {σ : Type} (entry : σ → String → List Char → Except Breach (σ × List Char))
    (first : Bool) (s : σ) (cs : List Char) : Nat → Except Breach (σ × List Char)
  | 0 => .error (.next .tooDeep cs)
  | fuel + 1 => do
    let (more, rest) ← nextKey first cs
    if more then
      let (key, rest) ← readText rest
      let (s, rest) ← entry s key rest
      readEntries entry false s rest fuel
    else .ok (s, rest)

def readWhole {α : Type} (read : Reader α) (text : String) : Except Breach α := do
  let (v, rest) ← read text.toList
  match skipBlanks rest with
  | [] => .ok v
  | r => .error (.next .trailingCharacters r)

def readAll {α : Type} (read : Reader α) (text : String) : Except Defect α :=
  (readWhole read text).mapError Breach.defect

end Duplex.Json

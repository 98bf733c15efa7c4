import Duplex.Json.Reader

/-!
Values that nobody asks for: they are passed over, at any depth, and still have to be well formed.
The brackets that stand open are kept on a stack, so nothing recurs.
-/

namespace Duplex.Json

inductive Bracket
  | list | object
  deriving Repr, DecidableEq

def skipExponent (cs : List Char) : Except Breach (List Char) :=
  let cs := match cs with
    | '+' :: r => r
    | '-' :: r => r
    | r => r
  match cs with
  | c :: r =>
    if c.isDigit then .ok (skipDigits r) else .error (.next .invalidNumber (c :: r))
  | [] => .error (.next .invalidNumber [])

def skipScale : List Char → Except Breach (List Char)
  | 'e' :: r => skipExponent r
  | 'E' :: r => skipExponent r
  | r => .ok r

def skipTail : List Char → Except Breach (List Char)
  | '.' :: c :: r =>
    if c.isDigit then skipScale (skipDigits r) else .error (.next .invalidNumber (c :: r))
  | ['.'] => .error (.next .invalidNumber [])
  | r => skipScale r

def skipNumber : List Char → Except Breach (List Char)
  | '0' :: c :: r =>
    if c.isDigit then .error (.next .invalidNumber (c :: r)) else skipTail (c :: r)
  | c :: r =>
    if c.isDigit then skipTail (skipDigits r) else .error (.next .invalidNumber (c :: r))
  | [] => .error (.next .invalidNumber [])

def skipStart (cs : List Char) : Except Breach (Option Bracket × List Char) :=
  match skipBlanks cs with
  | [] => .error (.next (.unfinished .value) [])
  | 'n' :: r => (readWord "ull".toList r).map fun r => (none, r)
  | 't' :: r => (readWord "rue".toList r).map fun r => (none, r)
  | 'f' :: r => (readWord "alse".toList r).map fun r => (none, r)
  | '-' :: r => (skipNumber r).map fun r => (none, r)
  | '"' :: r => (skipText r).map fun r => (none, r)
  | '[' :: r => .ok (some .list, r)
  | '\x7b' :: r => .ok (some .object, r)
  | c :: r =>
    if c.isDigit then (skipNumber (c :: r)).map fun r => (none, r)
    else .error (.next .expectedValue (c :: r))

/-- Closes as many of the open brackets as the text closes here. What is left open holds another
value next; nothing open means that the whole value has been passed over. -/
def closeBrackets (comma : Bool) (open_ : List Bracket) (cs : List Char) :
    Nat → Except Breach (List Bracket × List Char)
  | 0 => .error (.next .tooDeep cs)
  | fuel + 1 =>
    match open_ with
    | [] => .ok ([], cs)
    | b :: rest =>
      match b, skipBlanks cs with
      | .list, [] => .error (.next (.unfinished .list) [])
      | .object, [] => .error (.next (.unfinished .object) [])
      | .list, ']' :: r => closeBrackets true rest r fuel
      | .object, '\x7d' :: r => closeBrackets true rest r fuel
      | b, c :: r =>
        if comma then
          if c = ',' then .ok (b :: rest, r)
          else
            let due := match b with
              | .list => Defect.expectedListComma
              | .object => .expectedObjectComma
            .error (.next due (c :: r))
        else .ok (b :: rest, c :: r)

def skipKey (cs : List Char) : Except Breach (List Char) :=
  match skipBlanks cs with
  | [] => .error (.next (.unfinished .object) [])
  | '"' :: r => do readColon (← skipText r)
  | r => .error (.next .keyNotString r)

def skipFrom (open_ : List Bracket) (cs : List Char) : Nat → Except Breach (List Char)
  | 0 => .error (.next .tooDeep cs)
  | fuel + 1 => do
    let (opened, cs) ← skipStart cs
    let (comma, inside) := match opened with
      | some b => (false, b :: open_)
      | none => (true, open_)
    let (inside, cs) ← closeBrackets comma inside cs (cs.length + 1)
    match inside with
    | [] => .ok cs
    | .list :: _ => skipFrom inside cs fuel
    | .object :: _ => skipFrom inside (← skipKey cs) fuel

def skipValue (cs : List Char) : Except Breach (List Char) := skipFrom [] cs (cs.length + 1)

end Duplex.Json

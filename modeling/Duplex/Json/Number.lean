import Duplex.Json.Defect
import Duplex.Decimal.FloatText

/-!
Numbers as they stand in a JSON text. A number without point and exponent that fits into 64 bits is
an integer; every other one is a double, computed from its first digits and one power of ten.
-/

namespace Duplex.Json

inductive Number
  | unsigned (n : Nat)
  | negative (n : Nat)
  | floating (x : Float)

def Number.found : Number → Found
  | .unsigned n => .integer n
  | .negative n => .integer (-(n : Int))
  | .floating x => .floating (Decimal.floatText x)

def wordLimit : Nat := Nat.pow 2 64 - 1

def digit? (c : Char) : Option Nat := if c.isDigit then some (c.toNat - 48) else none

def skipDigits (cs : List Char) : List Char := cs.dropWhile Char.isDigit

structure Digits where
  value : Nat
  count : Nat
  rest : List Char
  full : Bool

def readDigits (limit : Nat) : Nat → Nat → List Char → Digits
  | value, count, [] => ⟨value, count, [], false⟩
  | value, count, c :: cs =>
    match digit? c with
    | none => ⟨value, count, c :: cs, false⟩
    | some d =>
      if limit < value * 10 + d then ⟨value, count, c :: cs, true⟩
      else readDigits limit (value * 10 + d) (count + 1) cs

def signed (positive : Bool) (x : Float) : Float := if positive then x else -x

def scaled (x : Float) (exponent : Int) : Nat → Except Defect Float
  | 0 => .ok x
  | fuel + 1 =>
    if exponent.natAbs ≤ 308 then
      let power := Float.ofScientific 1 false exponent.natAbs
      if 0 ≤ exponent then
        let y := x * power
        if y.isInf then .error .numberOutOfRange else .ok y
      else .ok (x / power)
    else if x == 0.0 then .ok x
    else if 0 ≤ exponent then .error .numberOutOfRange
    else scaled (x / Float.ofScientific 1 false 308) (exponent + 308) fuel

def ofParts (positive : Bool) (significand : Nat) (exponent : Int) (rest : List Char) :
    Except Breach (Number × List Char) :=
  match scaled significand.toUInt64.toFloat exponent 8 with
  | .ok x => .ok (.floating (signed positive x), rest)
  | .error d => .error (.behind d rest)

def exponentLimit : Nat := Nat.pow 2 31 - 1

def readExponent (positive : Bool) (significand : Nat) (start : Int) (cs : List Char) :
    Except Breach (Number × List Char) :=
  let (up, cs) := match cs with
    | '+' :: r => (true, r)
    | '-' :: r => (false, r)
    | r => (true, r)
  match cs with
  | [] => .error (.next (.unfinished .value) [])
  | c :: r =>
    match digit? c with
    | none => .error (.next .invalidNumber (c :: r))
    | some d =>
      let e := readDigits exponentLimit d 1 r
      if e.full then
        if significand ≠ 0 && up then .error (.next .numberOutOfRange e.rest)
        else .ok (.floating (signed positive 0.0), skipDigits e.rest)
      else ofParts positive significand (if up then start + e.value else start - e.value) e.rest

def readScale (positive : Bool) (significand : Nat) (exponent : Int) :
    List Char → Except Breach (Number × List Char)
  | 'e' :: r => readExponent positive significand exponent r
  | 'E' :: r => readExponent positive significand exponent r
  | r => ofParts positive significand exponent r

def readFraction (positive : Bool) (significand : Nat) (start : Int) (cs : List Char) :
    Except Breach (Number × List Char) :=
  let f := readDigits wordLimit significand 0 cs
  if f.full then readScale positive f.value (start - f.count) (skipDigits f.rest)
  else if f.count = 0 then
    .error (.next (if f.rest.isEmpty then .unfinished .value else .invalidNumber) f.rest)
  else readScale positive f.value (start - f.count) f.rest

def readTail (positive : Bool) (significand : Nat) :
    List Char → Except Breach (Number × List Char)
  | '.' :: r => readFraction positive significand 0 r
  | 'e' :: r => readExponent positive significand 0 r
  | 'E' :: r => readExponent positive significand 0 r
  | r =>
    if positive then .ok (.unsigned significand, r)
    else if significand = 0 ∨ Nat.pow 2 63 < significand then
      .ok (.floating (-significand.toUInt64.toFloat), r)
    else .ok (.negative significand, r)

def readUnsigned (positive : Bool) : List Char → Except Breach (Number × List Char)
  | [] => .error (.next (.unfinished .value) [])
  | c :: cs =>
    match digit? c with
    | none => .error (.next .invalidNumber (c :: cs))
    | some 0 =>
      match cs with
      | d :: _ =>
        if d.isDigit then .error (.next .invalidNumber cs) else readTail positive 0 cs
      | [] => readTail positive 0 cs
    | some d =>
      let s := readDigits wordLimit d 1 cs
      if s.full then
        let more := s.rest.takeWhile Char.isDigit
        match skipDigits s.rest with
        | '.' :: r => readFraction positive s.value more.length r
        | r => readScale positive s.value more.length r
      else readTail positive s.value s.rest

def readNumber : List Char → Except Breach (Number × List Char)
  | '-' :: cs => readUnsigned false cs
  | cs => readUnsigned true cs

end Duplex.Json

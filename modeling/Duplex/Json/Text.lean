import Duplex.Utf8
import Duplex.Json.Defect

/-!
Strings of a JSON text, after their opening quote, and their written form.
-/

namespace Duplex.Json

def hexFour? (a b c d : Char) : Option Nat := do
  let a ← Octets.hexValue? a
  let b ← Octets.hexValue? b
  let c ← Octets.hexValue? c
  let d ← Octets.hexValue? d
  some (((a * 16 + b) * 16 + c) * 16 + d)

def isLeading (n : Nat) : Bool := 0xD800 ≤ n && n ≤ 0xDBFF
def isTrailing (n : Nat) : Bool := 0xDC00 ≤ n && n ≤ 0xDFFF

def pairValue (high low : Nat) : Nat := (high - 0xD800) * 0x400 + (low - 0xDC00) + 0x10000

def hexBreach (cs : List Char) : Breach :=
  if 4 ≤ (cs.take 4).foldl (fun n c => n + (Utf8.encodeChar c).length) 0 then
    ⟨.invalidEscape, cs, 4⟩
  else .next (.unfinished .string) []

def escaped? : Char → Option Char
  | '"' => some '"'
  | '\\' => some '\\'
  | '/' => some '/'
  | 'b' => some '\x08'
  | 'f' => some '\x0c'
  | 'n' => some '\n'
  | 'r' => some '\r'
  | 't' => some '\t'
  | _ => none

def endless : Breach := .next (.unfinished .string) []

def readChars : List Char → List Char → Except Breach (List Char × List Char)
  | _, [] => .error endless
  | done, '"' :: rest => .ok (done.reverse, rest)
  | _, ['\\'] => .error endless
  | done, '\\' :: 'u' :: a :: b :: c :: d :: rest =>
    match hexFour? a b c d with
    | none => .error (hexBreach (a :: b :: c :: d :: rest))
    | some n =>
      if isTrailing n then .error (.behind .loneSurrogate rest)
      else if isLeading n then
        match rest with
        | '\\' :: 'u' :: a :: b :: c :: d :: rest =>
          match hexFour? a b c d with
          | none => .error (hexBreach (a :: b :: c :: d :: rest))
          | some m =>
            if isTrailing m then readChars (Char.ofNat (pairValue n m) :: done) rest
            else .error (.behind .loneSurrogate rest)
        | '\\' :: 'u' :: rest => .error (hexBreach rest)
        | '\\' :: c :: rest => .error (.next .unpairedSurrogate (c :: rest))
        | ['\\'] => .error endless
        | [] => .error endless
        | c :: rest => .error (.next .unpairedSurrogate (c :: rest))
      else readChars (Char.ofNat n :: done) rest
  | _, '\\' :: 'u' :: rest => .error (hexBreach rest)
  | done, '\\' :: c :: rest =>
    match escaped? c with
    | some e => readChars (e :: done) rest
    | none => .error (.next .invalidEscape (c :: rest))
  | done, c :: rest =>
    if c.toNat < 0x20 then .error (.next .controlCharacter (c :: rest))
    else readChars (c :: done) rest

def readText (cs : List Char) : Except Breach (String × List Char) :=
  (readChars [] cs).map fun r => (String.ofList r.1, r.2)

def skipText : List Char → Except Breach (List Char)
  | [] => .error endless
  | '"' :: rest => .ok rest
  | ['\\'] => .error endless
  | '\\' :: 'u' :: a :: b :: c :: d :: rest =>
    match hexFour? a b c d with
    | none => .error (hexBreach (a :: b :: c :: d :: rest))
    | some _ => skipText rest
  | '\\' :: 'u' :: rest => .error (hexBreach rest)
  | '\\' :: c :: rest =>
    match escaped? c with
    | some _ => skipText rest
    | none => .error (.next .invalidEscape (c :: rest))
  | c :: rest =>
    if c.toNat < 0x20 then .error (.next .controlCharacter (c :: rest)) else skipText rest

def writtenChar (c : Char) : List Char :=
  if c = '"' then ['\\', '"']
  else if c = '\\' then ['\\', '\\']
  else if c = '\n' then ['\\', 'n']
  else if c = '\r' then ['\\', 'r']
  else if c = '\t' then ['\\', 't']
  else if c = '\x08' then ['\\', 'b']
  else if c = '\x0c' then ['\\', 'f']
  else if c.toNat < 0x20 then
    ['\\', 'u', '0', '0', Octets.hexDigit (c.toNat / 16), Octets.hexDigit (c.toNat % 16)]
  else [c]

def writeText (s : String) : List Char := '"' :: (s.toList.flatMap writtenChar ++ ['"'])

end Duplex.Json

import Duplex.Octets

/-!
Text as bytes. Decoding is one pass that cuts the bytes into characters and broken pieces, a broken
piece being as many bytes as could still have begun a character. Everything else is read off the
pieces: the strict reading accepts when none is broken and otherwise says where the first one
starts, the lenient reading puts U+FFFD in the place of each.
-/

namespace Duplex.Utf8

def encodeChar (c : Char) : Octets :=
  let n := c.toNat
  if n < 0x80 then [n.toUInt8]
  else if n < 0x800 then [(0xC0 + n / 64).toUInt8, (0x80 + n % 64).toUInt8]
  else if n < 0x10000 then
    [(0xE0 + n / 4096).toUInt8, (0x80 + n / 64 % 64).toUInt8, (0x80 + n % 64).toUInt8]
  else
    [(0xF0 + n / 262144).toUInt8, (0x80 + n / 4096 % 64).toUInt8, (0x80 + n / 64 % 64).toUInt8,
      (0x80 + n % 64).toUInt8]

def encode (s : String) : Octets := s.toList.flatMap encodeChar

/-- A character that has begun: its bytes so far, latest first, its value so far, how many bytes it
still owes, and the bounds of the next one. -/
structure Begun where
  seen : Octets
  value : Nat
  owed : Nat
  low : Nat := 0x80
  high : Nat := 0xBF
  deriving Repr, DecidableEq

inductive Reading
  | complete (c : Char)
  | begun (p : Begun)
  | refused
  deriving Repr, DecidableEq

def Reading.first (b : UInt8) : Reading :=
  let n := b.toNat
  if n < 0x80 then .complete (Char.ofNat n)
  else if n < 0xC2 then .refused
  else if n < 0xE0 then .begun ⟨[b], n - 0xC0, 1, 0x80, 0xBF⟩
  else if n = 0xE0 then .begun ⟨[b], 0, 2, 0xA0, 0xBF⟩
  else if n = 0xED then .begun ⟨[b], 0xD, 2, 0x80, 0x9F⟩
  else if n < 0xF0 then .begun ⟨[b], n - 0xE0, 2, 0x80, 0xBF⟩
  else if n = 0xF0 then .begun ⟨[b], 0, 3, 0x90, 0xBF⟩
  else if n < 0xF4 then .begun ⟨[b], n - 0xF0, 3, 0x80, 0xBF⟩
  else if n = 0xF4 then .begun ⟨[b], 4, 3, 0x80, 0x8F⟩
  else .refused

def Begun.next (p : Begun) (b : UInt8) : Reading :=
  let n := b.toNat
  if p.low ≤ n ∧ n ≤ p.high then
    let value := p.value * 64 + (n - 0x80)
    if p.owed ≤ 1 then .complete (Char.ofNat value)
    else .begun ⟨b :: p.seen, value, p.owed - 1, 0x80, 0xBF⟩
  else .refused

inductive Piece
  | scalar (c : Char)
  | broken (bytes : Octets)
  deriving Repr, DecidableEq

structure Scan where
  pieces : List Piece := []
  begun : Option Begun := none
  deriving Repr, DecidableEq

def Scan.start (pieces : List Piece) (b : UInt8) : Scan :=
  match Reading.first b with
  | .complete c => ⟨.scalar c :: pieces, none⟩
  | .begun p => ⟨pieces, some p⟩
  | .refused => ⟨.broken [b] :: pieces, none⟩

def Scan.push (s : Scan) (b : UInt8) : Scan :=
  match s.begun with
  | none => .start s.pieces b
  | some p =>
    match p.next b with
    | .complete c => ⟨.scalar c :: s.pieces, none⟩
    | .begun p' => ⟨s.pieces, some p'⟩
    | .refused => .start (.broken p.seen.reverse :: s.pieces) b

def scan (b : Octets) : Scan := b.foldl Scan.push {}

def replacement : Char := '\uFFFD'

def Piece.char : Piece → Char
  | .scalar c => c
  | .broken _ => replacement

def Scan.finish (s : Scan) : List Piece :=
  match s.begun with
  | none => s.pieces.reverse
  | some p => (.broken p.seen.reverse :: s.pieces).reverse

def decodeLossy (b : Octets) : String := String.ofList ((scan b).finish.map Piece.char)

inductive Defect
  | invalid (length index : Nat)
  | incomplete (index : Nat)
  deriving Repr, DecidableEq

def Defect.message : Defect → String
  | .invalid length index =>
    "invalid utf-8 sequence of " ++ toString length ++ " bytes from index " ++ toString index
  | .incomplete index => "incomplete utf-8 byte sequence from index " ++ toString index

def firstBroken : Nat → List Piece → Option (Nat × Octets)
  | _, [] => none
  | n, .scalar c :: rest => firstBroken (n + (encodeChar c).length) rest
  | n, .broken b :: _ => some (n, b)

/-- The strict reading. A text that merely stops inside a character is incomplete, not invalid. -/
def decode (b : Octets) : Except Defect String :=
  let s := scan b
  match firstBroken 0 s.pieces.reverse, s.begun with
  | some (index, bytes), _ => .error (.invalid bytes.length index)
  | none, some p => .error (.incomplete (b.length - p.seen.length))
  | none, none => .ok (String.ofList (s.pieces.reverse.map Piece.char))

def beginning? : Nat → List Char → Option (List Char)
  | 0, _ => some []
  | _ + 1, [] => none
  | n + 1, c :: rest =>
    let size := (encodeChar c).length
    if size ≤ n + 1 then (beginning? (n + 1 - size) rest).map (c :: ·) else none

/-- A text up to a position in its bytes. There is none off a boundary. -/
def slice? (s : String) (n : Nat) : Option String := (beginning? n s.toList).map String.ofList

def isContinuation (b : UInt8) : Bool := b.toNat / 64 = 2

def isBoundary (b : Octets) (n : Nat) : Bool :=
  n = 0 || match b[n]? with
    | some x => !isContinuation x
    | none => n = b.length

/-- Goes down from a position to the first boundary, and finds none if it would have to go below
zero. -/
def descend (b : Octets) (n : Nat) : Option Nat :=
  if isBoundary b n then some n
  else
    match n with
    | 0 => none
    | n + 1 => descend b n

/-- A text cut to at most `limit` bytes, at the last boundary up to there. -/
def truncate (limit : Nat) (s : String) : String :=
  let b := encode s
  if b.length ≤ limit then s else ((descend b limit).bind (slice? s)).getD ""

end Duplex.Utf8

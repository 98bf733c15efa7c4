import Duplex.Wire.Item

/-!
Frames as bytes: a first byte with the final mark, three reserved bits and the opcode, then the mask
mark and the length in one of three widths, then a mask key if there is one, then the payload.
-/

namespace Duplex.Wire

structure Header where
  final : Bool := true
  reserved : Nat := 0
  opcode : Nat
  mask : Option Octets := none
  length : Nat
  deriving Repr, DecidableEq

structure Frame where
  header : Header
  payload : Octets
  deriving Repr, DecidableEq

namespace Opcode

def continuation : Nat := 0
def text : Nat := 1
def binary : Nat := 2
def close : Nat := 8
def ping : Nat := 9
def pong : Nat := 10

def names : List (String × Nat) := [
  ("cont", continuation), ("text", text), ("binary", binary), ("close", close), ("ping", ping),
  ("pong", pong)]

def named? (name : String) : Option Nat := (names.find? fun n => n.1 = name).map Prod.snd

def name (code : Nat) : String :=
  match names.find? fun n => n.2 = code with
  | some n => n.1
  | none => toString code

def isKnown (code : Nat) : Bool := names.any fun n => n.2 = code

def isControl (code : Nat) : Bool := 8 ≤ code

end Opcode

def bigEndian : Nat → Nat → Octets
  | 0, _ => []
  | width + 1, n => (n / 256 ^ width % 256).toUInt8 :: bigEndian width n

def ofBigEndian (b : Octets) : Nat := b.foldl (fun n x => n * 256 + x.toNat) 0

def mask (key : Octets) (b : Octets) : Octets :=
  match key with
  | [k0, k1, k2, k3] =>
    b.mapIdx fun i x =>
      x ^^^ (match i % 4 with
        | 0 => k0
        | 1 => k1
        | 2 => k2
        | _ => k3)
  | _ => b

namespace Header

def lengthBytes (masked : Bool) (length : Nat) : Octets :=
  let mark := if masked then 128 else 0
  if length < 126 then [(mark + length).toUInt8]
  else if length < 65536 then (mark + 126).toUInt8 :: bigEndian 2 length
  else (mark + 127).toUInt8 :: bigEndian 8 length

def bytes (h : Header) : Octets :=
  ((if h.final then 128 else 0) + h.reserved % 8 * 16 + h.opcode % 16).toUInt8 ::
    (lengthBytes h.mask.isSome h.length ++ h.mask.getD [])

def read? (b : Octets) : Option (Header × Nat) :=
  match b with
  | first :: second :: rest =>
    let short := second.toNat % 128
    let width := if short = 126 then 2 else if short = 127 then 8 else 0
    let keyWidth := if 128 ≤ second.toNat then 4 else 0
    let more := rest.take (width + keyWidth)
    if more.length < width + keyWidth then none
    else
      some ({ final := 128 ≤ first.toNat
              reserved := first.toNat / 16 % 8
              opcode := first.toNat % 16
              mask := if keyWidth = 0 then none else some (more.drop width)
              length := if width = 0 then short else ofBigEndian (more.take width) },
        2 + width + keyWidth)
  | _ => none

end Header

namespace Frame

def single (opcode : Nat) (payload : Octets) : Frame :=
  ⟨{ opcode, length := payload.length }, payload⟩

def withMask (f : Frame) (key : Octets) : Frame :=
  { f with header := { f.header with mask := some key } }

def bytes (f : Frame) : Octets :=
  f.header.bytes ++ (match f.header.mask with
    | some key => mask key f.payload
    | none => f.payload)

def ofItem : Item → Frame
  | .text s => single Opcode.text (Utf8.encode s)
  | .binary b => single Opcode.binary b
  | .ping b => single Opcode.ping b
  | .pong b => single Opcode.pong b
  | .close none => single Opcode.close []
  | .close (some b) => single Opcode.close b.payload

def readAll (b : Octets) : Nat → List Frame × Octets
  | 0 => ([], b)
  | fuel + 1 =>
    match Header.read? b with
    | none => ([], b)
    | some (h, size) =>
      let rest := b.drop size
      let payload := rest.take h.length
      if payload.length < h.length then ([], b)
      else
        let payload := match h.mask with
          | some key => mask key payload
          | none => payload
        let more := readAll (rest.drop h.length) fuel
        (⟨h, payload⟩ :: more.1, more.2)

end Frame
end Duplex.Wire

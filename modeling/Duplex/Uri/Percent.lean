import Duplex.Utf8

/-!
Percent encoding: bytes outside a component's own alphabet are written as a percent sign and two
digits. Bytes beyond ASCII are always encoded.
-/

namespace Duplex.Uri

abbrev Reserved := List Char

def opaqueReserved : Reserved := []
def fragmentReserved : Reserved := [' ', '"', '<', '>', '\x60']
def queryReserved : Reserved := [' ', '"', '#', '<', '>']
def specialQueryReserved : Reserved := '\'' :: queryReserved
def pathReserved : Reserved := fragmentReserved ++ ['#', '?', '\x7b', '\x7d']
def userReserved : Reserved :=
  pathReserved ++ ['/', ':', ';', '=', '@', '[', '\\', ']', '^', '|']

def upperHex (n : Nat) : Char :=
  if n < 10 then Char.ofNat (48 + n) else Char.ofNat (55 + n)

def encodeByte (b : UInt8) : List Char :=
  ['%', upperHex (b.toNat / 16), upperHex (b.toNat % 16)]

def mustEncode (reserved : Reserved) (c : Char) : Bool :=
  c.toNat < 0x20 || 0x7F ≤ c.toNat || reserved.contains c

def encodeChar (reserved : Reserved) (c : Char) : List Char :=
  if mustEncode reserved c then (Utf8.encodeChar c).flatMap encodeByte else [c]

def encodeAll (reserved : Reserved) (cs : List Char) : String :=
  String.ofList (cs.flatMap (encodeChar reserved))

def decodeBytes : List Char → Octets
  | '%' :: a :: b :: rest =>
    match Octets.hexValue? a, Octets.hexValue? b with
    | some x, some y => (x * 16 + y).toUInt8 :: decodeBytes rest
    | _, _ => 0x25 :: decodeBytes (a :: b :: rest)
  | c :: rest => Utf8.encodeChar c ++ decodeBytes rest
  | [] => []

end Duplex.Uri

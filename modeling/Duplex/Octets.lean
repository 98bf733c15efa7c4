/-!
Payload bytes and the two ways in which they are shown: in full as hexadecimal text while they are
short, by their length and a fingerprint beyond that.
-/

namespace Duplex

abbrev Octets := List UInt8

namespace Octets

def hexDigit (n : Nat) : Char :=
  if n < 10 then Char.ofNat (48 + n) else Char.ofNat (87 + n)

def hex (b : Octets) : String :=
  String.ofList (b.flatMap fun x => [hexDigit (x.toNat / 16), hexDigit (x.toNat % 16)])

def hexValue? (c : Char) : Option Nat :=
  let n := c.toNat
  if 48 ≤ n ∧ n ≤ 57 then some (n - 48)
  else if 97 ≤ n ∧ n ≤ 102 then some (n - 87)
  else if 65 ≤ n ∧ n ≤ 70 then some (n - 55)
  else none

def hexStep : Option (Option Nat × Octets) → Char → Option (Option Nat × Octets)
  | none, _ => none
  | some (none, b), c => (hexValue? c).map fun d => (some d, b)
  | some (some h, b), c => (hexValue? c).map fun d => (none, (h * 16 + d).toUInt8 :: b)

def ofHex? (s : String) : Option Octets :=
  match s.toList.foldl hexStep (some (none, [])) with
  | some (none, b) => some b.reverse
  | _ => none

def fingerprint (b : Octets) : UInt64 :=
  b.foldl (fun h x => (h ^^^ x.toUInt64) * 0x100000001b3) 0xcbf29ce484222325

def word (n : UInt64) : String :=
  String.ofList ((List.range 16).map fun i => hexDigit (n.toNat / Nat.pow 16 (15 - i) % 16))

inductive Shown
  | full (hex : String)
  | digest (length : Nat) (fingerprint : String)
  deriving Repr, DecidableEq

def shownLimit : Nat := 512

def shown (b : Octets) : Shown :=
  if b.length ≤ shownLimit then .full b.hex else .digest b.length (word b.fingerprint)

def times (b : Octets) (n : Nat) : Octets := (List.replicate n b).flatten

end Octets
end Duplex

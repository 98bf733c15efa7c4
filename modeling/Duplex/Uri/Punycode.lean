/-!
Punycode, the spelling of a label in ASCII: the label's own ASCII characters, then the others in
increasing order as distances, each a number of variable length whose digits adapt to the size of
the distances before it (RFC 3492).
-/

namespace Duplex.Uri.Punycode

def digitChar (d : Nat) : Char := if d < 26 then Char.ofNat (97 + d) else Char.ofNat (22 + d)

def digitValue? (c : Char) : Option Nat :=
  let n := c.toNat
  if 97 ≤ n ∧ n ≤ 122 then some (n - 97)
  else if 65 ≤ n ∧ n ≤ 90 then some (n - 65)
  else if 48 ≤ n ∧ n ≤ 57 then some (n - 22)
  else none

def threshold (k bias : Nat) : Nat := if k ≤ bias then 1 else min 26 (k - bias)

def adaptFrom (delta k : Nat) : Nat → Nat
  | 0 => k
  | fuel + 1 =>
    if 455 < delta then adaptFrom (delta / 35) (k + 36) fuel else k + 36 * delta / (delta + 38)

def adapt (delta count : Nat) (first : Bool) : Nat :=
  let d := if first then delta / 700 else delta / 2
  adaptFrom (d + d / count) 0 64

def distance (bias k q : Nat) : Nat → List Char
  | 0 => []
  | fuel + 1 =>
    let t := threshold k bias
    if q < t then [digitChar q]
    else digitChar (t + (q - t) % (36 - t)) :: distance bias (k + 36) ((q - t) / (36 - t)) fuel

structure Progress where
  out : List Char
  delta : Nat
  bias : Nat
  placed : Nat

def place (basic m : Nat) (s : Progress) (c : Char) : Progress :=
  if c.toNat < m then { s with delta := s.delta + 1 }
  else if c.toNat = m then
    { out := s.out ++ distance s.bias 36 s.delta 64
      delta := 0
      bias := adapt s.delta (s.placed + 1) (s.placed = basic)
      placed := s.placed + 1 }
  else s

def placeAll (label : List Char) (basic : Nat) : Progress → Nat → List Nat → Progress
  | s, _, [] => s
  | s, n, m :: rest =>
    let s := label.foldl (place basic m) { s with delta := s.delta + (m - n) * (s.placed + 1) }
    placeAll label basic { s with delta := s.delta + 1 } (m + 1) rest

def encode (label : List Char) : List Char :=
  let basic := label.filter fun c => c.toNat < 128
  let others := ((label.filter fun c => 128 ≤ c.toNat).map Char.toNat).mergeSort.eraseDups
  let s := placeAll label basic.length ⟨[], 0, 72, basic.length⟩ 128 others
  basic ++ (if basic.isEmpty then [] else ['-']) ++ s.out

def readDistance (bias k weight value : Nat) : List Char → Option (Nat × List Char)
  | [] => none
  | c :: rest => do
    let d ← digitValue? c
    let t := threshold k bias
    let value := value + d * weight
    if d < t then some (value, rest)
    else readDistance bias (k + 36) (weight * (36 - t)) value rest

def unplace (n i bias : Nat) (out : List Char) (digits : List Char) :
    Nat → Option (List Char)
  | 0 => none
  | fuel + 1 =>
    if digits.isEmpty then some out
    else do
      let (d, rest) ← readDistance bias 36 1 0 digits
      let count := out.length + 1
      let position := i + d
      let c := Char.ofNat (n + position / count)
      if c.toNat ≠ n + position / count then none
      else
        let placed := out.take (position % count) ++ c :: out.drop (position % count)
        unplace (n + position / count) (position % count + 1) (adapt d count (i = 0)) placed rest
          fuel

def decode (spelling : List Char) : Option (List Char) :=
  let tail := (spelling.reverse.takeWhile (· ≠ '-')).reverse
  let basic := (spelling.take (spelling.length - tail.length)).dropLast
  if basic.any fun c => 128 ≤ c.toNat then none
  else unplace 128 0 72 basic tail (spelling.length + 1)

end Duplex.Uri.Punycode

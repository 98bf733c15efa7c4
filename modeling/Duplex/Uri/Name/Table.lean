import Duplex.Octets

/-!
Tables of characters as text: entries apart by blanks, every number a code point in hexadecimal.

An entry of ranges is a code point or the first and the last of a run, joined by a dash. An entry of
images belongs to the code point after the one before; `n=` goes on at `n`, and a dash leaves a code
point without image. An image is one or more code points joined by dots; two joined by a tilde are
the images of the first and the last of a run that moves together.
-/

namespace Duplex.Uri.Name

def entries (lines : List String) : List (List Char) :=
  lines.flatMap fun l => l.toList.splitOn ' '

def codePoint (cs : List Char) : Nat :=
  cs.foldl (fun n c => n * 16 + (Octets.hexValue? c).getD 0) 0

abbrev Ranges := List (Nat × Nat)

def Ranges.ofText (lines : List String) : Ranges :=
  (entries lines).map fun e =>
    match e.splitOn '-' with
    | [first, last] => (codePoint first, codePoint last)
    | _ => (codePoint e, codePoint e)

def Ranges.hold (r : Ranges) (c : Char) : Bool := r.any fun x => x.1 ≤ c.toNat && c.toNat ≤ x.2

structure Image where
  first : Nat
  last : Nat
  image : List Nat

abbrev Images := List Image

def Images.read (done : Nat × Images) (e : List Char) : Nat × Images :=
  let (next, images) := done
  match e.splitOn '=', e.splitOn '~' with
  | [start, _], _ => (codePoint start, images)
  | _, [first, last] =>
    let more := codePoint last - codePoint first
    (next + more + 1, ⟨next, next + more, [codePoint first]⟩ :: images)
  | _, _ =>
    if e = ['-'] then (next + 1, images)
    else (next + 1, ⟨next, next, (e.splitOn '.').map codePoint⟩ :: images)

def Images.ofText (lines : List String) : Images :=
  ((entries lines).foldl Images.read (0, [])).2.reverse

def Images.of? (l : Images) (c : Char) : Option (List Char) :=
  (l.find? fun i => i.first ≤ c.toNat && c.toNat ≤ i.last).map fun i =>
    i.image.map fun n => Char.ofNat (n + (c.toNat - i.first))

def Images.source? (l : Images) (image : List Char) : Option Char :=
  (l.find? fun i => i.image = image.map Char.toNat).map fun i => Char.ofNat i.first

end Duplex.Uri.Name

import Duplex.Uri.Name.Label
import Duplex.Utf8

/-!
Names of hosts in ASCII. A name is folded and composed as a whole, and each of its labels is then
written for itself. Where one of them runs from right to left, all of them have to keep their order.
-/

namespace Duplex.Uri.Name

def hostForbidden : List Char :=
  ['\x00', '\t', '\n', '\r', ' ', '#', '/', ':', '<', '>', '?', '@', '[', '\\', ']', '^', '|']

def isForbidden (c : Char) : Bool :=
  c.toNat < 0x20 || c.toNat = 0x7F || c = '%' || hostForbidden.contains c

def labels? (name : List Char) : Option (List Label) := do
  let folded ← name.mapM fold?
  ((composed folded.flatten).splitOn '.').mapM Label.of?

def toAscii? (bytes : Octets) : Option (List Char) := do
  let text ← (Utf8.decode bytes).toOption
  let labels ← labels? text.toList
  let ordered := labels.all (fun l => !l.shown.any runsBack) ||
    labels.all fun l => keepsOrder l.shown
  let written := ['.'].intercalate (labels.map Label.written)
  if ordered && !written.any isForbidden then some written else none

end Duplex.Uri.Name

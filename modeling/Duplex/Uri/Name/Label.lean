import Duplex.Uri.Name.Composed
import Duplex.Uri.Name.Direction
import Duplex.Uri.Name.Folding
import Duplex.Uri.Name.Joiner
import Duplex.Uri.Punycode

/-!
The labels of a name. Each is shown in its own characters and written in ASCII: a label beyond ASCII
is spelled after a mark of its own, and one that bears the mark is read back and has to be what is
spelled that way.
-/

namespace Duplex.Uri.Name

structure Label where
  shown : List Char
  written : List Char
  deriving Repr, DecidableEq

def isAscii (cs : List Char) : Bool := cs.all fun c => c.toNat < 128

def spellingMark : List Char := "xn--".toList

def shownLimit : Nat := 1000

def spellingLimit : Nat := 2000

def isSpellable (label : List Char) : Bool :=
  !isAscii label && !label.head?.any isMark && joinersFit [] label && label.length ≤ shownLimit

def spelled? (spelling : List Char) : Option (List Char) := do
  if spellingLimit < spelling.length then none
  let label ← Punycode.decode spelling
  if isSpellable label && label.all isFolded && composed label = label &&
      Punycode.encode label = spelling then
    some label
  else none

def Label.of? (label : List Char) : Option Label :=
  if spellingMark.isPrefixOf label then
    if isAscii label then
      (spelled? (label.drop spellingMark.length)).map fun shown => ⟨shown, label⟩
    else none
  else if isAscii label then some ⟨label, label⟩
  else if isSpellable label then some ⟨label, spellingMark ++ Punycode.encode label⟩
  else none

end Duplex.Uri.Name

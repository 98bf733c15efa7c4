import Duplex.Text.Quoted
import Duplex.Utf8

/-!
Headers by name. They are kept in the order in which their names first came, and shown in the order
of the slots of a table with open addressing: a name's hash says where the search for a free slot
begins, and a table that is nearly full grows and is filled anew, slot by slot.
-/

namespace Duplex

structure Headers where
  entries : List (String × String) := []
  slots : Nat := 0
  deriving Repr, DecidableEq

namespace Headers

def replace : List (String × String) → String → String → List (String × String)
  | [], name, value => [(name, value)]
  | (n, v) :: rest, name, value =>
    if n = name then (n, value) :: rest else (n, v) :: replace rest name value

def room (slots : Nat) : Nat := if slots ≤ 8 then slots - 1 else slots / 8 * 7

def grown (slots : Nat) : Nat := if slots = 0 then 4 else 2 * slots

def put (h : Headers) (name value : String) : Headers :=
  { entries := replace h.entries name value
    slots := if room h.slots ≤ h.entries.length then grown h.slots else h.slots }

def get? (h : Headers) (name : String) : Option String :=
  (h.entries.find? fun e => e.1 = name).map Prod.snd

def sorted (h : Headers) : List (String × String) :=
  h.entries.mergeSort fun a b => !(b.1 < a.1)

def same (a b : Headers) : Bool :=
  a.entries.length = b.entries.length && a.entries.all fun e => b.entries.contains e

def blend (x y : UInt64) : UInt64 :=
  let product := x.toNat * y.toNat
  (product % Nat.pow 2 64).toUInt64 ^^^ (product / Nat.pow 2 64).toUInt64

def word (b : Octets) : UInt64 := (b.foldr (fun x (n : Nat) => n * 256 + x.toNat) 0).toUInt64

def firstSeed : UInt64 := 0x243f6a8885a308d3
def secondSeed : UInt64 := 0x13198a2e03707344

def guardWord : UInt64 := 0xa4093822299f31d0

def multiplier : UInt64 := 0xf1357aea2e62a9c5

def absorb (s : UInt64 × UInt64) (b : Octets) : UInt64 × UInt64 :=
  if 16 < b.length then
    absorb (s.2, blend (s.1 ^^^ word (b.take 8)) (guardWord ^^^ word ((b.drop 8).take 8)))
      (b.drop 16)
  else s
termination_by b.length
decreasing_by simp only [List.length_drop]; omega

def last (n : Nat) (b : Octets) : Octets := b.drop (b.length - n)

def ends (b : Octets) : UInt64 × UInt64 :=
  let n := b.length
  if 16 < n then (word ((last 16 b).take 8), word (last 8 b))
  else if 8 ≤ n then (word (b.take 8), word (last 8 b))
  else if 4 ≤ n then (word (b.take 4), word (last 4 b))
  else (word (b.take 1), word ((b.drop (n / 2)).take 1 ++ last 1 b))

def digest (b : Octets) : UInt64 :=
  let (s, t) := absorb (firstSeed, secondSeed) b
  let (x, y) := ends b
  blend (s ^^^ x) (t ^^^ y) ^^^ b.length.toUInt64

def hash (name : String) : UInt64 :=
  let h := (digest (Utf8.encode name) * multiplier + 0xff) * multiplier
  h <<< 26 ||| h >>> 38

abbrev Slots := List (Option (String × String))

/-- The slots where a search that starts at `start` looks, in groups of sixteen in a row that lie
further and further apart. -/
def route (start slots : Nat) : List Nat :=
  (List.range (slots / 16 + 1)).flatMap fun group =>
    (List.range 16).map fun i => (start + 8 * group * (group + 1) + i) % slots

def place (l : Slots) (e : String × String) : Slots :=
  match (route (hash e.1).toNat l.length).find? fun i => l[i]? = some none with
  | some i => l.set i (some e)
  | none => l

def enlarge (l : Slots) : Slots :=
  (l.filterMap id).foldl place (List.replicate (grown l.length) none)

def enter (l : Slots) (e : String × String) : Slots :=
  place (if room l.length ≤ l.countP Option.isSome then enlarge l else l) e

def arranged (h : Headers) : List (String × String) :=
  let l := h.entries.foldl enter []
  (if l.length < h.slots then enlarge l else l).filterMap id

def label (h : Headers) : String :=
  let shown := h.arranged.map fun e => Text.quoted e.1 ++ ": " ++ Text.quoted e.2
  "\x7b" ++ ", ".intercalate shown ++ "\x7d"

end Headers
end Duplex

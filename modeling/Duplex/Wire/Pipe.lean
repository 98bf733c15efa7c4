import Duplex.Octets

/-!
One direction of a connection: bytes in order, up to a capacity. Once either side has gone, nothing
can be written any more, and what is left can be read up to the end.
-/

namespace Duplex.Wire

structure Pipe where
  capacity : Nat
  content : Octets := []
  closed : Bool := false
  deriving Repr, DecidableEq

namespace Pipe

def room (p : Pipe) : Nat := p.capacity - p.content.length

def write (p : Pipe) (b : Octets) : Pipe × Octets :=
  ({ p with content := p.content ++ b.take p.room }, b.drop p.room)

def read (p : Pipe) (limit : Option Nat) : Octets × Pipe :=
  match limit with
  | none => (p.content, { p with content := [] })
  | some n => (p.content.take n, { p with content := p.content.drop n })

def close (p : Pipe) : Pipe := { p with closed := true }

def isExhausted (p : Pipe) : Bool := p.closed && p.content.isEmpty

end Pipe
end Duplex.Wire

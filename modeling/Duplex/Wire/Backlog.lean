import Duplex.Octets

/-!
Bytes that arrive in small pieces and are taken in larger ones. A piece is put in front of those
that came late, so that it costs no more than its own length; they are put in order when bytes are
taken.
-/

namespace Duplex.Wire

structure Backlog where
  early : Octets := []
  late : Octets := []
  size : Nat := 0
  deriving Repr, DecidableEq

namespace Backlog

def toList (b : Backlog) : Octets := b.early ++ b.late.reverse

def push (b : Backlog) (piece : Octets) : Backlog :=
  { b with late := piece.reverse ++ b.late, size := b.size + piece.length }

def arranged (b : Backlog) : Backlog :=
  match b.late with
  | [] => b
  | late => { b with early := b.early ++ late.reverse, late := [] }

def drop (b : Backlog) (n : Nat) : Backlog :=
  { early := b.arranged.early.drop n, size := b.size - n }

end Backlog
end Duplex.Wire

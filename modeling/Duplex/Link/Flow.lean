/-!
The switch that pauses reading. Opening it wakes the reader that waits at it; if none waits, one
permit is left behind, and a reader that is about to wait takes the permit instead. A second permit
is never stored.
-/

namespace Duplex.Link

inductive Waiter
  | absent
  | enlisted
  | called
  deriving Repr, DecidableEq

structure Flow where
  suspended : Bool := false
  permit : Bool := false
  waiter : Waiter := .absent
  deriving Repr, DecidableEq

namespace Flow

def suspend (f : Flow) : Flow := { f with suspended := true }

def release (f : Flow) : Flow := { f with suspended := false }

def signal (f : Flow) : Flow :=
  match f.waiter with
  | .enlisted => { f with waiter := .called }
  | .absent | .called => { f with permit := true }

def resume (f : Flow) : Flow := f.release.signal

def enlist (f : Flow) : Flow × Bool :=
  if f.permit then ({ f with permit := false }, true) else ({ f with waiter := .enlisted }, false)

def heed (f : Flow) : Flow := { f with waiter := .absent }

end Flow
end Duplex.Link

import Duplex.Text.Quoted

/-!
Where the payloads that a session builds get their room from: a factory that allocates what is asked
for and a default size when nothing is asked, or one that only takes note of the requests.
-/

namespace Duplex

inductive BufferFactory
  | standard (defaultCapacity : Nat)
  | recording
  deriving Repr, DecidableEq

namespace BufferFactory

def defaultCapacity : Nat := 256

instance : Inhabited BufferFactory := ⟨.standard defaultCapacity⟩

def allocate (f : BufferFactory) (capacity : Nat) : Nat :=
  match f with
  | .standard d => if capacity = 0 then d else capacity
  | .recording => capacity

def isDefault (f : BufferFactory) : Bool := f = .standard defaultCapacity

def label : BufferFactory → String
  | .standard d => Text.record "DefaultBufferFactory" [("default_capacity", toString d)]
  | .recording => "RecordingFactory"

end BufferFactory
end Duplex

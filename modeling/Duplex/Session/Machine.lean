import Duplex.Session.Action

/-!
A session at work: its state and the agenda of what is still to be done, innermost operation first.
Whoever drives the machine lets it perform actions, answers its calls and may begin an operation at
any moment, also while a call waits for its answer.
-/

namespace Duplex

structure Machine where
  session : Session
  agenda : Agenda := []
  deriving Repr, DecidableEq

namespace Machine

def isIdle (m : Machine) : Bool := m.agenda.isEmpty

def call? (m : Machine) : Option Call :=
  match m.agenda with
  | .wait w :: _ => some w.call
  | _ => none

def start (m : Machine) (op : Op) : Machine :=
  { m with agenda := op.actions.map .act ++ m.agenda }

def advance (m : Machine) : Option (Machine × List Notice) :=
  match m.agenda with
  | .act a :: rest =>
    let e := a.perform m.session
    some (⟨e.session, e.next ++ rest⟩, e.notices)
  | _ => none

def answer (m : Machine) (a : Answer) : Machine :=
  match m.agenda with
  | .wait w :: rest => { m with agenda := (w.resume a).map .act ++ rest }
  | _ => m

end Machine

/-- The actions of a poll of the attached send, up to its answer. -/
def Action.ofPoll : Action → Bool
  | .register _ | .inspect | .checkCancelled | .request | .hold _ | .drain | .gate
  | .watchReadiness | .recheck | .emit | .release | .finish _ | .reply (.polled _) => true
  | _ => false

def Wait.ofPoll : Wait → Bool
  | .pulling _ | .writing _ => true
  | _ => false

def Frame.ofPoll : Frame → Bool
  | .act a => a.ofPoll
  | .wait w => w.ofPoll

namespace Machine

def isPolling (m : Machine) : Bool := m.agenda.any Frame.ofPoll

/-- The surroundings have control: nothing is in progress, or a call waits for its answer. -/
def isYielding (m : Machine) : Bool := m.isIdle || m.call?.isSome

/-- Whether an operation can begin. The attached send has one owner, who polls it or gives it up
only while it is there and no poll of it is in progress. -/
def admits (m : Machine) : Op → Bool
  | .poll _ | .abandon => m.session.writer.isSome && !m.isPolling
  | _ => true

end Machine

/-- A step of a session at work. An operation is begun by surroundings that have control, or it
comes between two actions of another one, as from another thread. -/
inductive Happening
  | began (op : Op)
  | intruded (op : Op)
  | acted (s : Session) (a : Action)
  | answered (w : Wait) (a : Answer)
  deriving Repr, DecidableEq

inductive Machine.Step : Machine → Happening → Machine → Prop
  | began {m : Machine} {op : Op} (control : m.isYielding) (admitted : m.admits op) :
    Step m (.began op) (m.start op)
  | intruded {m : Machine} {op : Op} (control : m.isYielding = false) (admitted : m.admits op) :
    Step m (.intruded op) (m.start op)
  | acted {s : Session} {a : Action} {rest : Agenda} {m : Machine} {notices : List Notice}
    (h : Machine.advance ⟨s, .act a :: rest⟩ = some (m, notices)) :
    Step ⟨s, .act a :: rest⟩ (.acted s a) m
  | answered (s : Session) (w : Wait) (rest : Agenda) (a : Answer) :
    Step ⟨s, .wait w :: rest⟩ (.answered w a) (Machine.answer ⟨s, .wait w :: rest⟩ a)

inductive Machine.Run : Machine → List Happening → Machine → Prop
  | nil (m : Machine) : Run m [] m
  | snoc {m n k : Machine} {hs : List Happening} {h : Happening} (run : Run m hs n)
    (step : Step n h k) : Run m (hs ++ [h]) k

end Duplex

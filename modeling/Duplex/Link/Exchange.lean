import Duplex.Link.Task
import Duplex.Session.Machine
import Mathlib.Data.Fintype.Sum
import Mathlib.Logic.Function.Basic
import Mathlib.Tactic.DeriveFintype

/-!
A session at work over a link, with everybody who works on it at the same time: the reader, the
writer, and any number of users on threads of their own. Each of them has an agenda; what one does
next is done at once and as things stand then, and between two such steps anybody else may come in.
A call to the transport that does two things does them in two steps.
-/

namespace Duplex

inductive Party (ι : Type)
  | reader
  | writer
  | user (i : ι)
  deriving DecidableEq, Fintype

/-- What a party has still to do, and whether it has carried out the first half of a call. -/
structure Hand where
  agenda : Agenda := []
  midway : Bool := false

structure Exchange (ι : Type) where
  session : Session
  link : Link
  hands : Party ι → Hand

namespace Link

def isTwofold : Call → Bool
  | .resume | .write _ => true
  | _ => false

/-- The first half of a call, as far as the link takes part in it. -/
def prepare (l : Link) : Call → Link
  | .resume => { l with flow := l.flow.release }
  | _ => l

def conclude (l : Link) : Call → Link × Answer
  | .resume => ({ l with flow := l.flow.signal }, .done)
  | c => l.carryOut c

end Link

def Wait.isForeign : Wait → Bool
  | .waking _ | .pulling _ => true
  | _ => false

namespace Exchange

variable {ι : Type} [DecidableEq ι]

def put (x : Exchange ι) (p : Party ι) (hand : Hand) : Exchange ι :=
  { x with hands := Function.update x.hands p hand }

/-- Whether a party can begin an operation: a user who is doing nothing else, and anybody who is
asked to wake or to yield something. -/
def isFree (x : Exchange ι) (p : Party ι) : Bool :=
  match (x.hands p).agenda, p with
  | [], .user _ => true
  | .wait w :: _, _ => w.isForeign
  | _, _ => false

/-- Polls are made one at a time, and only while the attached send is there. -/
def Admits (x : Exchange ι) : Op → Prop
  | .poll _ | .abandon => x.session.writer.isSome ∧ ∀ p, ∀ f ∈ (x.hands p).agenda, f.ofPoll = false
  | _ => True

def moved (x : Exchange ι) (p : Party ι) (m : Link.Move) : Exchange ι :=
  { x.put p { agenda := (m.op.map fun op => op.actions.map Frame.act).getD [] } with
    link := m.link }

end Exchange

/-- What is done with an exchange: a party takes a step of the session, readiness is taken away
before a write is queued, the switch is opened before the reader is told, the reader reads or does
something else, the writer takes a step of its own, the connection below goes its way. -/
inductive Deed (ι : Type)
  | did (p : Party ι) (h : Happening)
  | lowered (p : Party ι)
  | released (p : Party ι)
  | read (r : Wire.Endpoint.Read)
  | tended
  | wrote (m : Link.Move)
  | shifted

inductive Exchange.Step {ι : Type} [DecidableEq ι] : Exchange ι → Deed ι → Exchange ι → Prop
  | begins {x : Exchange ι} {p : Party ι} {op : Op} (free : x.isFree p) (admitted : x.Admits op) :
    Step x (.did p (.began op))
      (x.put p { x.hands p with agenda := op.actions.map .act ++ (x.hands p).agenda })
  | acts {x : Exchange ι} {p : Party ι} {a : Action} {rest : Agenda}
    (next : (x.hands p).agenda = .act a :: rest) :
    Step x (.did p (.acted x.session a))
      { x.put p { x.hands p with agenda := (a.perform x.session).next ++ rest } with
        session := (a.perform x.session).session }
  | hears {x : Exchange ι} {p : Party ι} {w : Wait} {rest : Agenda}
    (next : (x.hands p).agenda = .wait w :: rest) (foreign : w.isForeign) (a : Answer) :
    Step x (.did p (.answered w a))
      (x.put p { x.hands p with agenda := (w.resume a).map .act ++ rest })
  | lowers {x : Exchange ι} {p : Party ι} {m : Message} {rest : Agenda}
    (next : (x.hands p).agenda = .wait (.writing m) :: rest)
    (first : (x.hands p).midway = false) :
    Step x (.lowered p)
      (x.put p { agenda := (Op.setReady false).actions.map .act ++ (x.hands p).agenda,
                 midway := true })
  | releases {x : Exchange ι} {p : Party ι} {m : Message} {rest : Agenda}
    (next : (x.hands p).agenda = .wait (.resuming m) :: rest)
    (first : (x.hands p).midway = false) :
    Step x (.released p)
      { x.put p { x.hands p with midway := true } with link := x.link.prepare .resume }
  | serves {x : Exchange ι} {p : Party ι} {w : Wait} {rest : Agenda}
    (next : (x.hands p).agenda = .wait w :: rest) (ours : w.isForeign = false)
    (prepared : Link.isTwofold w.call → (x.hands p).midway) :
    Step x (.did p (.answered w (x.link.conclude w.call).2))
      { x.put p { agenda := (w.resume (x.link.conclude w.call).2).map .act ++ rest } with
        link := (x.link.conclude w.call).1 }
  | reads {x : Exchange ι} (idle : (x.hands .reader).agenda = [])
    (stage : x.link.reader = .reading) (endpoint : Wire.Endpoint) (inbound outbound : Wire.Pipe)
    (r : Wire.Endpoint.Read) :
    Step x (.read r) (x.moved .reader ({ x.link with endpoint, inbound, outbound }.onRead r))
  | tends {x : Exchange ι} (idle : (x.hands .reader).agenda = [])
    (stage : x.link.reader ≠ .reading) : Step x .tended (x.moved .reader x.link.stepReader)
  | writes {x : Exchange ι} (idle : (x.hands .writer).agenda = []) :
    Step x (.wrote x.link.stepWriter) (x.moved .writer x.link.stepWriter)
  | shifts {x : Exchange ι} (endpoint : Wire.Endpoint) (inbound outbound : Wire.Pipe) :
    Step x .shifted { x with link := { x.link with endpoint, inbound, outbound } }

inductive Exchange.Run {ι : Type} [DecidableEq ι] :
    Exchange ι → List (Deed ι) → Exchange ι → Prop
  | nil (x : Exchange ι) : Run x [] x
  | snoc {x y z : Exchange ι} {ds : List (Deed ι)} {d : Deed ι} (run : Run x ds y)
    (step : Step y d z) : Run x (ds ++ [d]) z

end Duplex

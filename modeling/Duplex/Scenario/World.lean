import Duplex.Link.Task
import Duplex.Scenario.Peer
import Duplex.Scenario.Report
import Duplex.Session.Machine

/-!
Everything around a session in a scenario: tasks that poll, sources that are polled, handles that
receive, and the transport, which follows a script or is a link to a peer. Tasks and handles are
known by name, and so are their wakers: one that was handed out wakes whoever bears the name by
then.
-/

namespace Duplex.Scenario

inductive Job
  | send
  | refused
  | handler (begun : Bool) (steps : List Step) (result : Option Outcome) (waiting : Bool)

inductive Owner
  | task (name : String)
  | handle (name : String)
  deriving Repr, DecidableEq

structure Task where
  number : Nat
  waker : Waker
  name : String
  job : Job
  eager : Bool
  finished : Bool := false
  busy : Bool := false
  woken : Bool := false
  givenUp : Bool := false

inductive Source
  | echo
  | items (l : List (Feed Step)) (ends : Bool) (waiting : Bool)

structure Supply where
  number : Nat
  waker : Waker
  task : String
  attached : Bool
  source : Source

structure Handle where
  waker : Waker
  name : String
  woken : Bool := false
  consuming : Bool := false
  busy : Bool := false

inductive Worker
  | reader | writer
  deriving Repr, DecidableEq

structure Line where
  link : Link
  peer : Peer
  queue : List Worker := [.reader, .writer]

def Line.ready (l : Line) (tasks : List Worker) : Line :=
  { l with queue := l.queue ++ tasks.filter fun t => !l.queue.contains t }

def Line.rouse (l : Line) : Line := l.ready [.reader, .writer]

def Line.sever (l : Line) : Line :=
  let link := { l.link with inbound := l.link.inbound.close, outbound := l.link.outbound.close }
  { l with link, peer := l.peer.vanish }.rouse

inductive Transport
  | script (s : Script)
  | line (l : Line)

def Transport.suspendable : Transport → Bool
  | .script s => s.suspendable
  | .line _ => true

structure Calls where
  suspend : Nat := 0
  resume : Nat := 0
  write : Nat := 0
  close : Nat := 0

structure World where
  machine : Machine
  transport : Transport
  logging : Bool := false
  events : List Event := []
  tasks : List Task := []
  supplies : List Supply := []
  handles : List Handle := []
  calls : Calls := {}
  unfinished : Nat := 0
  receiver : Option Bool := none
  owners : List Owner := []
  nextNumber : Nat := 0

namespace World

def session (w : World) : Session := w.machine.session

def emit (w : World) (e : Event) : World := { w with events := e :: w.events }

def log (w : World) (e : Entry) : World :=
  if w.logging then w.emit (.logged w.session.setting.id e) else w

def updateTask (w : World) (number : Nat) (f : Task → Task) : World :=
  { w with tasks := w.tasks.map fun t => if t.number = number then f t else t }

def updateHandle (w : World) (name : String) (f : Handle → Handle) : World :=
  { w with handles := w.handles.map fun h => if h.name = name then f h else h }

def setSource (w : World) (number : Nat) (s : Source) : World :=
  { w with supplies := w.supplies.map fun u =>
      if u.number = number then { u with source := s } else u }

def task? (w : World) (number : Nat) : Option Task := w.tasks.find? fun t => t.number = number

def taskNamed? (w : World) (name : String) : Option Task :=
  w.tasks.find? fun t => t.name = name && !t.givenUp

def handle? (w : World) (name : String) : Option Handle := w.handles.find? fun h => h.name = name

def attached? (w : World) : Option Supply := w.supplies.find? Supply.attached

def supplyNamed? (w : World) (name : String) : Option Supply :=
  w.supplies.reverse.find? fun u => u.task = name

def attachedName? (w : World) : Option String := do
  let u ← w.attached?
  match u.source with
  | .echo => none
  | .items _ _ _ => some u.task

def note (w : World) : Notice → World × Option Reply
  | .logged e => (w.log e, none)
  | .sourceDropped =>
    (match w.attachedName? with
      | some name => w.emit (.dropped name)
      | none => w, none)
  | .completed _ => (w, none)
  | .returned r => (w, some r)

def noteAll (w : World) (notices : List Notice) : World × Option Reply :=
  notices.foldl (fun (w, r) n => let (w, r') := w.note n; (w, r.or r')) (w, none)

def fresh (w : World) : World × Nat := ({ w with nextNumber := w.nextNumber + 1 }, w.nextNumber)

def wakerOf (w : World) (o : Owner) : World × Waker :=
  match w.owners.findIdx? (· = o) with
  | some n => (w, n)
  | none => ({ w with owners := w.owners ++ [o] }, w.owners.length)

def handle (w : World) (name : String) : World × Handle :=
  match w.handle? name with
  | some h => (w, h)
  | none =>
    let (w, waker) := w.wakerOf (.handle name)
    let h : Handle := { waker, name }
    ({ w with handles := w.handles ++ [h] }, h)

def place (w : World) (link : Link) : World :=
  match w.transport with
  | .script _ => w
  | .line l =>
    let called := l.link.flow.waiter ≠ .called && link.flow.waiter = .called
    let commanded := l.link.writer = .parked && link.writer = .taking
    let ready := (if called then [Worker.reader] else []) ++ (if commanded then [.writer] else [])
    { w with transport := .line ({ l with link }.ready ready) }

def showsPoll (w : World) (p : Polled) : Bool :=
  match w.transport with
  | .script _ => true
  | .line _ => p ≠ .pending

def woken (w : World) : List String :=
  let tasks := w.tasks.filter fun t => t.woken && !t.finished && !t.givenUp
  let handles := w.handles.filter Handle.woken
  (tasks.map Task.name ++ handles.map Handle.name).mergeSort fun a b => !(b < a)

def report (w : World) (result : Result) : Report × World :=
  let s := w.session
  ({ result
     events := w.events.reverse
     isOpen := s.isOpen
     progress := s.progress
     ready := s.readiness.ready
     available := s.inbound.isAvailable
     terminated := s.inbound.isTerminated
     woken := w.woken
     suspended := match w.transport with
       | .script _ => none
       | .line l => some l.link.flow.suspended }, { w with events := [] })

end World
end Duplex.Scenario

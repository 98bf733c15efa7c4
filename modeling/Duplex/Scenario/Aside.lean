import Duplex.Scenario.World

/-!
The steps that need no answer from the session: some are a single operation of which nobody learns
anything, others only look at the session, at a handle or at the completion signal, or tell the peer
what to do.
-/

namespace Duplex.Scenario

abbrev Play := StateM World

def Play.update (f : World → World × α) : Play α := modifyGet fun w => (f w).swap

def Step.op? : Step → Option Op
  | .message m => some (.message m)
  | .transportError e => some (.transportError e)
  | .transportClose s => some (.transportClose s)
  | .setReady ready | .raiseShared ready => some (.setReady ready)
  | _ => none

def Step.instruction? : Step → Option (Line → Line)
  | .peerFrame f => some fun l => { l with peer := l.peer.say (l.peer.frameBytes f) }
  | .peerFrames fs => some fun l => { l with peer := l.peer.say (fs.flatMap l.peer.frameBytes) }
  | .peerRaw b => some fun l => { l with peer := l.peer.say b }
  | .peerShutdown => some fun l => { l with peer := { l.peer with shut := true } }
  | .peerDrop => some Line.sever
  | .peerRead limit => some fun l => { l with peer := { l.peer with budget := limit } }
  | _ => none

namespace World

def askSignal (w : World) : World × Signal :=
  match w.receiver, w.session.completion with
  | none, _ => (w, .absent)
  | some true, _ => (w, .taken)
  | some false, .resolved o => ({ w with receiver := some true }, .resolved o)
  | some false, _ => (w, .pending)

def build (w : World) (type : MessageType) (payload : Octets) : World × Message :=
  let (m, capacity) := w.session.build type payload
  (if w.session.setting.factory = .recording then w.emit (.allocated capacity) else w, m)

def look (w : World) (handle : String) (f : Inbound → Bool) : World × Result :=
  ((w.handle handle).1, .flag (f w.session.inbound))

def glance (w : World) : Step → World × Result
  | .receive name => ((w.handle name).1, .nothing)
  | .available name => w.look name Inbound.isAvailable
  | .terminated name => w.look name Inbound.isTerminated
  | .completion =>
    let (w, s) := w.askSignal
    (w, .signal s)
  | .dropCompletion => ({ w with receiver := none }, .flag w.receiver.isSome)
  | .factory type payload =>
    let (w, m) := w.build type payload
    (w, .message m)
  | .info lookup => (w, .info w.session.setting lookup)
  | .debug => (w, .labels w.session.label w.session.receiveLabel w.session.readiness.label)
  | s =>
    match s.instruction?, w.transport with
    | some f, .line l => ({ w with transport := .line (f l) }, .nothing)
    | _, _ => (w, .nothing)

end World
end Duplex.Scenario

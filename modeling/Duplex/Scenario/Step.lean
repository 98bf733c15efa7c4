import Duplex.Session.State
import Duplex.Wire.Frame

/-!
What a scenario consists of: the steps that an application, a transport or a peer takes around one
session, and how a transport that follows a script answers the session's calls.
-/

namespace Duplex.Scenario

/-- What a source has in store: a message, before which steps are taken, or a pause in which it
has nothing yet and asks to be polled again. -/
inductive Feed (σ : Type)
  | item (m : Message) (steps : List σ)
  | pause

structure PeerFrame where
  opcode : Nat
  payload : Octets
  final : Bool := true
  reserved : Nat := 0
  masked : Option Bool := none
  key : Octets := [0, 0, 0, 0]
  deriving Repr, DecidableEq

inductive Step
  | message (m : Message)
  | transportError (e : Fault)
  | transportClose (s : CloseStatus)
  | setReady (ready : Bool)
  | raiseShared (ready : Bool)
  | completeWrite
  | receive (handle : String)
  | tryNext (handle : String)
  | pollNext (handle : String)
  | drain (handle : String)
  | consume (handle : String)
  | available (handle : String)
  | terminated (handle : String)
  | sendEcho (task : String) (eager : Bool)
  | sendItems (task : String) (eager : Bool) (items : List (Feed Step)) (ends : Bool)
  | push (task : String) (item : Feed Step)
  | finish (task : String)
  | poll (task : String)
  | dropTask (task : String)
  | handler (task : String) (eager : Bool) (steps : List Step) (result : Option Outcome)
  | resolve (task : String) (result : Outcome)
  | close
  | closeWith (s : CloseStatus)
  | completion
  | dropCompletion
  | factory (type : MessageType) (payload : Octets)
  | clone
  | info (lookup : List String)
  | debug
  | peerFrame (f : PeerFrame)
  | peerFrames (l : List PeerFrame)
  | peerRaw (b : Octets)
  | peerShutdown
  | peerDrop
  | peerRead (limit : Option Nat)
  | settle

instance {σ : Type} : Inhabited (Feed σ) := ⟨.pause⟩

namespace Step

instance : Inhabited Step := ⟨.settle⟩

def name : Step → String
  | .message _ => "message"
  | .transportError _ => "transport_error"
  | .transportClose _ => "transport_close"
  | .setReady _ => "set_ready"
  | .raiseShared _ => "raise_shared"
  | .completeWrite => "complete_write"
  | .receive _ => "receive"
  | .tryNext _ => "try_next"
  | .pollNext _ => "poll_next"
  | .drain _ => "drain"
  | .consume _ => "consume"
  | .available _ => "available"
  | .terminated _ => "terminated"
  | .sendEcho _ _ | .sendItems _ _ _ _ => "send"
  | .push _ _ => "push"
  | .finish _ => "finish"
  | .poll _ => "poll"
  | .dropTask _ => "drop_task"
  | .handler _ _ _ _ => "handler"
  | .resolve _ _ => "resolve"
  | .close => "close"
  | .closeWith _ => "close_with"
  | .completion => "completion"
  | .dropCompletion => "drop_completion"
  | .factory _ _ => "factory"
  | .clone => "clone"
  | .info _ => "info"
  | .debug => "debug"
  | .peerFrame _ => "peer_frame"
  | .peerFrames _ => "peer_frames"
  | .peerRaw _ => "peer_raw"
  | .peerShutdown => "peer_shutdown"
  | .peerDrop => "peer_drop"
  | .peerRead _ => "peer_read"
  | .settle => "settle"

end Step

inductive WriteScript
  | accept
  | later
  | cycle
  | lower
  | reject
  | fail (e : Fault)
  deriving Repr, DecidableEq

/-- The steps that are taken inside the first, second, … call of each kind. -/
structure Hooks where
  suspend : List (List Step) := []
  resume : List (List Step) := []
  write : List (List Step) := []
  close : List (List Step) := []

structure Script where
  suspendable : Bool := true
  writes : List WriteScript := []
  otherWrites : WriteScript := .accept
  closeFault : Option Fault := none
  hooks : Hooks := {}

structure Config where
  id : Option SessionId := none
  otherwise : SessionId := ⟨""⟩
  handshake : Option Handshake
  options : Option SessionOptions := none
  completion : Bool := false
  recording : Bool := false
  logging : Bool := false

end Duplex.Scenario

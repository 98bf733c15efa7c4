import Duplex.Link.State
import Duplex.Scenario.Step

/-!
The other end of a link, which writes whatever it is told to and reads as much as it may.
-/

namespace Duplex.Scenario

structure Peer where
  role : Wire.Role
  outgoing : Octets := []
  shut : Bool := false
  gone : Bool := false
  budget : Option Nat := none
  incoming : Wire.Backlog := {}
  sawEnd : Bool := false
  deriving Repr, DecidableEq

namespace Peer

def frameBytes (p : Peer) (f : PeerFrame) : Octets :=
  let masked := f.masked.getD (p.role = .client)
  (Wire.Frame.mk { final := f.final, reserved := f.reserved, opcode := f.opcode
                   mask := if masked then some f.key else none, length := f.payload.length }
    f.payload).bytes

def say (p : Peer) (b : Octets) : Peer :=
  if p.shut || p.gone then p else { p with outgoing := p.outgoing ++ b }

def feed (p : Peer) (pipe : Wire.Pipe) : Peer × Wire.Pipe :=
  if pipe.closed then ({ p with outgoing := [] }, pipe)
  else
    let (pipe, outgoing) := pipe.write p.outgoing
    ({ p with outgoing }, if p.shut && outgoing.isEmpty then pipe.close else pipe)

def listen (p : Peer) (pipe : Wire.Pipe) : Peer × Wire.Pipe :=
  if p.gone then (p, pipe)
  else
    let (b, pipe) := pipe.read p.budget
    ({ p with incoming := p.incoming.push b, budget := p.budget.map (· - b.length) }, pipe)

def vanish (p : Peer) : Peer := { p with gone := true, outgoing := [] }

def takeFrames (p : Peer) : Peer × List Wire.Frame :=
  let (frames, rest) := Wire.Frame.readAll p.incoming.toList p.incoming.size
  ({ p with incoming := { early := rest, size := rest.length } }, frames)

def seesEnd (p : Peer) (pipe : Wire.Pipe) : Bool :=
  !p.gone && !p.sawEnd && p.budget ≠ some 0 && pipe.isExhausted

end Peer
end Duplex.Scenario

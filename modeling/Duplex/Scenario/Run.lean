import Duplex.Scenario.Play

/-!
Runs a scenario from the creation of its session to its last step. Over a link everything that can
move does so after each step: the tasks that are ready run in turn, and once none is, bytes pass
between the pipes and the peer.
-/

namespace Duplex.Scenario

def Worker.step : Worker → Link → Link.Move
  | .reader, l => l.stepReader
  | .writer, l => l.stepWriter

namespace Play

def enough : Nat := 1000000

def line? : Play (Option Line) := do
  match (← get).transport with
  | .script _ => pure none
  | .line l => pure (some l)

def work : Nat → Worker → Play Unit
  | 0, _ => pure ()
  | effort + 1, t => do
    match ← line? with
    | none => pure ()
    | some l =>
      let move := t.step l.link
      modify fun w => move.entries.foldl World.log (w.place move.link)
      if let some op := move.op then
        let _ ← operate enough op
      if !move.rests then work effort t

def exchange : Play Bool := do
  match ← line? with
  | none => pure false
  | some l =>
    let (peer, inbound) := l.peer.feed l.link.inbound
    let (peer, outbound) := peer.listen l.link.outbound
    let moved := inbound ≠ l.link.inbound || outbound ≠ l.link.outbound
    let l := { l with link := { l.link with inbound, outbound }, peer }
    modify fun w => { w with transport := .line (if moved then l.rouse else l) }
    pure moved

def settle : Nat → Play Unit
  | 0 => pure ()
  | effort + 1 => do
    match ← line? with
    | none => pure ()
    | some { queue := t :: rest, link, peer } =>
      modify fun w => { w with transport := .line { queue := rest, link, peer } }
      work enough t
      settle effort
    | some { queue := [], .. } =>
      if ← exchange then settle effort

def observe : Play Unit := do
  match ← line? with
  | none => pure ()
  | some l =>
    let (peer, frames) := l.peer.takeFrames
    frames.forM fun f => emit (.framed f)
    let sees := peer.seesEnd l.link.outbound
    if sees then emit .hungUp
    modify fun w =>
      { w with transport := .line { l with peer := { peer with sawEnd := peer.sawEnd || sees } } }

def conclude (r : Result) : Play Report := do
  settle enough
  observe
  update fun w => (w.report r).swap

def steps : List Step → Play (List Report)
  | [] => pure []
  | s :: rest => do
    let r ← conclude (← take enough s)
    return r :: (← steps rest)

def all (l : List Step) : Play (List Report) := do
  modify fun w =>
    w.log (.opened w.session.setting.handshake.uri.text w.session.setting.capacity)
  let built ← conclude .built
  return built :: (← steps l)

end Play

def run (config : Config) (transport : Transport) (steps : List Step) :
    Except Fault (List Report) :=
  let id := config.id.getD config.otherwise
  let factory := if config.recording then BufferFactory.recording else default
  match Session.create id config.handshake (config.options.getD {}) factory
    transport.suspendable config.completion with
  | .error e => .error e
  | .ok s =>
    .ok (Play.all steps { machine := { session := s }, transport, logging := config.logging
                          receiver := if config.completion then some false else none }).1

def Config.label (c : Config) : String :=
  builderLabel c.id c.handshake (if c.recording then some .recording else none) c.completion
    (c.options.getD {})

end Duplex.Scenario

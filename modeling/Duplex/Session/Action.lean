import Duplex.Session.Entry
import Duplex.Session.State

/-!
What a session does, cut into atomic actions. An operation is a list of them. Where an action hands
control to the surroundings (the transport, a source, whoever is woken) it ends in a wait, and
the surroundings may begin other operations on the same session before they answer.
-/

namespace Duplex

inductive Op
  | message (m : Message)
  | transportError (e : Fault)
  | transportClose (s : CloseStatus)
  | pull (p : Puller)
  | send
  | poll (w : Waker)
  | abandon
  | beginHandler
  | endHandler (o : Outcome)
  | setReady (ready : Bool)
  | close (s : CloseStatus)
  deriving Repr, DecidableEq

inductive Reply
  | unit
  | pulled (p : Pull)
  | attached (accepted : Bool)
  | polled (o : Option Outcome)
  | closed (o : Outcome)
  deriving Repr, DecidableEq

inductive Call
  | suspend
  | resume
  | wake (w : Waker)
  | pull (w : Waker)
  | write (m : Message)
  | close (s : CloseStatus)
  deriving Repr, DecidableEq

inductive Answer
  | done
  | item (m : Message)
  | pending
  | ended
  | written (accepted : Bool)
  | failed (e : Fault)
  deriving Repr, DecidableEq

inductive Notice
  | logged (e : Entry)
  | sourceDropped
  | completed (o : Outcome)
  | returned (r : Reply)
  deriving Repr, DecidableEq

inductive Action
  | log (e : Entry)
  | reply (r : Reply)
  | receive (m : Message)
  | store (m : Message)
  | take (p : Puller)
  | failInbound (e : Fault)
  | completeInbound
  | setReady (ready : Bool)
  | wakeWriter
  | attach
  | openWriter
  | abandon
  | register (w : Waker)
  | inspect
  | checkCancelled
  | request
  | hold (m : Message)
  | drain
  | gate
  | watchReadiness
  | recheck
  | emit
  | release
  | finish (o : Outcome)
  | conclude (o : Outcome)
  | markClosed
  | record (o : Outcome)
  | cancel
  | terminate (o : Outcome)
  | finalizeUnattended (o : Outcome)
  | attachHandler
  | finalize (o : Outcome)
  | resolve (o : Outcome)
  | settle (o : Outcome)
  | close (s : CloseStatus) (finalizing : Bool)
  deriving Repr, DecidableEq

inductive Wait
  | suspending (m : Message)
  | resuming (m : Message)
  | waking (w : Waker)
  | pulling (w : Waker)
  | writing (m : Message)
  | closing (s : CloseStatus) (finalizing : Bool)
  deriving Repr, DecidableEq

inductive Frame
  | act (a : Action)
  | wait (w : Wait)
  deriving Repr, DecidableEq

abbrev Agenda := List Frame

def Wait.call : Wait → Call
  | .suspending _ => .suspend
  | .resuming _ => .resume
  | .waking w => .wake w
  | .pulling w => .pull w
  | .writing m => .write m
  | .closing s _ => .close s

/-- What follows once the surroundings have answered. An answer of the wrong kind counts as plain
consent, for a source as having nothing yet. -/
def Wait.resume : Wait → Answer → List Action
  | .suspending m, _ => [.store m]
  | .resuming m, _ => [.reply (.pulled (.item m))]
  | .waking _, _ => []
  | .pulling _, .item m => [.hold m]
  | .pulling _, .ended => [.drain]
  | .pulling _, _ => [.reply (.polled none)]
  | .writing _, .written false => [.finish (.failure .writeRejected)]
  | .writing _, .failed e => [.finish (.failure e)]
  | .writing _, _ => [.release]
  | .closing _ false, .failed e => [.reply (.closed (.failure e))]
  | .closing _ false, _ => [.reply (.closed .success)]
  | .closing _ true, .failed e => [.log (.closeFailed e)]
  | .closing _ true, _ => []

def Op.actions : Op → List Action
  | .message m => [.receive m, .reply .unit]
  | .transportError e =>
    [.log (.transportFailed e), .failInbound e, .record (.failure e), .reply .unit]
  | .transportClose s =>
    [.log (.transportClosed s), .markClosed, .completeInbound, .record .success, .reply .unit]
  | .pull p => [.take p]
  | .send => [.attach]
  | .poll w => [.register w]
  | .abandon => [.abandon, .reply .unit]
  | .beginHandler => [.attachHandler, .reply .unit]
  | .endHandler o => [.finalize o, .reply .unit]
  | .setReady ready => [.setReady ready, .reply .unit]
  | .close s => [.close s false]

/-- What an action does: the session after it, what it lets be known, and what comes next. -/
structure Effect where
  session : Session
  notices : List Notice := []
  next : Agenda := []
  deriving Repr, DecidableEq

def wakeFrames : Option Waker → Agenda
  | none => []
  | some w => [.wait (.waking w)]

def Session.failInbound (s : Session) (e : Fault) : Effect :=
  if s.inbound.isLive then
    { session := { s with inbound := s.inbound.fail e }
      notices := [.logged (.receiveFailed e)]
      next := wakeFrames s.inbound.waker }
  else { session := s, notices := [.logged (.errorIgnored e)] }

/-- Stores a message, or fails the sequence that has no room for it. -/
def Session.store (s : Session) (m : Message) : Effect :=
  if !s.inbound.isLive then { session := s, notices := [.logged (.messageIgnored m)] }
  else if s.setting.capacity ≤ s.inbound.pending.length then
    { session := { s with inbound := s.inbound.fail s.setting.overflow }
      notices := [.logged (.messageRejected s.setting.overflow)]
      next := wakeFrames s.inbound.waker }
  else
    { session := { s with inbound := s.inbound.store m }
      notices := [.logged (.messageReceived m)]
      next := wakeFrames s.inbound.waker }

def Session.take (s : Session) (p : Puller) : Effect :=
  match s.inbound.pending with
  | m :: rest =>
    { session := { s with inbound := { s.inbound with pending := rest } }
      next := [.wait (.resuming m)] }
  | [] =>
    let (inbound, pull) := s.inbound.report p
    { session := { s with inbound }, next := [.act (.reply (.pulled pull))] }

theorem Session.failInbound_of_live {s : Session} (e : Fault) (live : s.inbound.isLive) :
    s.failInbound e =
      { session := { s with inbound := s.inbound.fail e }
        notices := [.logged (.receiveFailed e)]
        next := wakeFrames s.inbound.waker } := if_pos live

theorem Session.failInbound_of_ended {s : Session} (e : Fault) (ended : s.inbound.isLive = false) :
    s.failInbound e = { session := s, notices := [.logged (.errorIgnored e)] } := by
  simp [failInbound, ended]

theorem Session.store_of_ended {s : Session} (m : Message) (ended : s.inbound.isLive = false) :
    s.store m = { session := s, notices := [.logged (.messageIgnored m)] } := by
  simp [store, ended]

theorem Session.store_of_full {s : Session} (m : Message) (live : s.inbound.isLive)
    (full : s.setting.capacity ≤ s.inbound.pending.length) :
    s.store m =
      { session := { s with inbound := s.inbound.fail s.setting.overflow }
        notices := [.logged (.messageRejected s.setting.overflow)]
        next := wakeFrames s.inbound.waker } := by
  simp [store, live, full]

theorem Session.store_of_room {s : Session} (m : Message) (live : s.inbound.isLive)
    (room : s.inbound.pending.length < s.setting.capacity) :
    s.store m =
      { session := { s with inbound := s.inbound.store m }
        notices := [.logged (.messageReceived m)]
        next := wakeFrames s.inbound.waker } := by
  simp [store, live, Nat.not_le.mpr room]

theorem Session.take_of_cons {s : Session} (p : Puller) {m : Message} {rest : List Message}
    (queue : s.inbound.pending = m :: rest) :
    s.take p =
      { session := { s with inbound := { s.inbound with pending := rest } }
        next := [.wait (.resuming m)] } := by
  simp [take, queue]

theorem Session.take_of_nil {s : Session} (p : Puller) (queue : s.inbound.pending = []) :
    s.take p =
      { session := { s with inbound := (s.inbound.report p).1 }
        next := [.act (.reply (.pulled (s.inbound.report p).2))] } := by
  simp [take, queue]

/-- Attaches the first source that is offered. The writer learns of an outcome that the transport
has reported before. -/
def Session.openWriter (s : Session) : Effect :=
  let cancelled := match s.transportOutcome with
    | some _ => [Notice.logged .outboundCancelled]
    | none => []
  { session := { s with
      control := some { cancelled := s.transportOutcome.isSome, outcome := s.transportOutcome }
      writer := some {} }
    notices := cancelled ++ [.logged .outboundAttached]
    next := [.act (.reply (.attached true))] }

def Writer.detachNotices (w : Writer) : List Notice :=
  (match w.current with
    | some m => [.logged (.discarding m)]
    | none => []) ++ (if w.attached then [.sourceDropped] else [])

/-- Ends the attached send. An outcome recorded before decides, whatever the writer met with. -/
def Session.finish (s : Session) (o : Outcome) : Effect :=
  let control := s.control.getD {}
  let o := control.outcome.getD o
  let dropped := match s.writer with
    | some w => w.detachNotices
    | none => []
  let entry := match o with
    | .success => Entry.outboundCompleted
    | .failure e => .outboundFailed e
  { session := { s with control := some { control with outcome := some o }, writer := none }
    notices := dropped ++ [.logged entry]
    next := [.act (.conclude o), .act (.reply (.polled (some o)))] }

def Session.settle (s : Session) (o : Outcome) : Effect :=
  match o with
  | .success =>
    if s.setting.options.closeOnSendComplete then
      { session := s, next := [.act (.close .normal true)] }
    else { session := s, notices := [.logged .leavingOpen] }
  | .failure e =>
    let status := CloseStatus.serverError.withReason e.message
    { session := s, next := [.act (.failInbound e), .act (.close status true)] }

/-- Closes the connection unless it is closed; the transport is asked only once. -/
def Session.close (s : Session) (status : CloseStatus) (finalizing : Bool) : Effect :=
  if s.closed then
    { session := s
      notices := [.logged (.alreadyClosed status)]
      next := if finalizing then [] else [.act (.reply (.closed .success))] }
  else
    { session := { s with closed := true }
      notices := [.logged (.closing status)]
      next := [.wait (.closing status finalizing)] }

/-- An action of the writer, which does nothing once the send has resolved or was given up. -/
def Session.withWriter (s : Session) (f : Writer → Effect) : Effect :=
  match s.writer with
  | some w => f w
  | none => { session := s, next := [.act (.reply (.polled none))] }

def Action.perform (s : Session) : Action → Effect
  | .log e => { session := s, notices := [.logged e] }
  | .reply r => { session := s, notices := [.returned r] }
  | .receive m =>
    if s.inbound.isLive then { session := s, next := [.wait (.suspending m)] }
    else { session := s, notices := [.logged (.messageIgnored m)] }
  | .store m => s.store m
  | .take p => s.take p
  | .failInbound e => s.failInbound e
  | .completeInbound =>
    if s.inbound.isLive then
      { session := { s with inbound := s.inbound.complete }
        notices := [.logged (.receiveCompleted s.inbound.pending.length)]
        next := wakeFrames s.inbound.waker }
    else { session := s }
  | .setReady ready =>
    { session := { s with readiness := { s.readiness with ready } }
      next := if ready then [.act .wakeWriter] else [] }
  | .wakeWriter =>
    { session := { s with readiness := { s.readiness with waker := none } }
      next := wakeFrames s.readiness.waker }
  | .attach =>
    if s.progress = .notStarted then
      { session := { s with progress := .sending }, next := [.act .openWriter] }
    else
      { session := s
        notices := [.logged .sendRepeated]
        next := [.act (.reply (.attached false))] }
  | .openWriter => s.openWriter
  | .abandon =>
    { session := { s with writer := none }
      notices := match s.writer with
        | some w => if w.attached then [.sourceDropped] else []
        | none => [] }
  | .register w =>
    s.withWriter fun writer =>
      { session := { s with
          writer := some { writer with waker := w }
          control := some { s.control.getD {} with waker := some w } }
        next := [.act .inspect] }
  | .inspect =>
    match (s.control.getD {}).outcome with
    | some o => { session := s, next := [.act (.finish o)] }
    | none => { session := s, next := [.act .checkCancelled] }
  | .checkCancelled =>
    if (s.control.getD {}).cancelled then
      s.withWriter fun writer =>
        { session := { s with writer := some writer.detach }
          notices := writer.detachNotices
          next := [.act (.reply (.polled none))] }
    else { session := s, next := [.act .request] }
  | .request =>
    s.withWriter fun writer =>
      if writer.current.isSome || writer.drained then { session := s, next := [.act .gate] }
      else if writer.attached then { session := s, next := [.wait (.pulling writer.waker)] }
      else { session := s, next := [.act (.reply (.polled none))] }
  | .hold m =>
    s.withWriter fun writer =>
      { session := { s with writer := some { writer with current := some m } }
        next := [.act .gate] }
  | .drain =>
    s.withWriter fun writer =>
      { session := { s with writer := some { writer with drained := true, attached := false } }
        notices := if writer.attached then [.sourceDropped] else []
        next := [.act .gate] }
  | .gate =>
    s.withWriter fun writer =>
      { session := s
        next := [.act (if writer.canProceed s.readiness then .emit else .watchReadiness)] }
  | .watchReadiness =>
    s.withWriter fun writer =>
      { session := { s with readiness := { s.readiness with waker := some writer.waker } }
        next := [.act .recheck] }
  | .recheck =>
    s.withWriter fun writer =>
      { session := s
        next := [.act (if writer.canProceed s.readiness then .emit else .reply (.polled none))] }
  | .emit =>
    s.withWriter fun writer =>
      if writer.drained then { session := s, next := [.act (.finish .success)] }
      else
        match writer.current with
        | some m =>
          { session := s, notices := [.logged (.writing m)], next := [.wait (.writing m)] }
        | none => { session := s, next := [.act .inspect] }
  | .release =>
    s.withWriter fun writer =>
      { session := { s with writer := some { writer with current := none } }
        next := [.act .inspect] }
  | .finish o => s.finish o
  | .conclude o =>
    { session := { s with progress := .completed }, next := [.act (.finalize o)] }
  | .markClosed => { session := { s with closed := true } }
  | .record o =>
    { session := { s with transportOutcome := s.transportOutcome.or (some o) }
      next := if s.control.isSome then [.act .cancel, .act (.terminate o)]
        else [.act (.finalizeUnattended o)] }
  | .cancel =>
    match s.control with
    | none => { session := s }
    | some c =>
      { session := { s with control := some { c with cancelled := true, waker := none } }
        notices := if c.cancelled then [] else [.logged .outboundCancelled]
        next := wakeFrames c.waker }
  | .terminate o =>
    match s.control with
    | none => { session := s }
    | some c =>
      if c.outcome.isSome then { session := s, notices := [.logged .terminalAlreadyRecorded] }
      else
        { session := { s with control := some { c with outcome := some o, waker := none } }
          next := wakeFrames c.waker }
  | .finalizeUnattended o =>
    { session := s, next := if s.hasOutboundTask then [] else [.act (.finalize o)] }
  | .attachHandler => { session := { s with handlerAttached := true } }
  | .finalize o =>
    if s.finalized then { session := s, notices := [.logged .alreadyCompleted] }
    else { session := { s with finalized := true }, next := [.act (.resolve o)] }
  | .resolve o =>
    match s.completion with
    | .waiting =>
      { session := { s with completion := .resolved o }
        notices := [.completed o]
        next := [.act (.settle o)] }
    | _ => { session := s, next := [.act (.settle o)] }
  | .settle o => s.settle o
  | .close status finalizing => s.close status finalizing

end Duplex

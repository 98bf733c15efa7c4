import Duplex.Session.Machine

/-!
What an action makes of a session, told once: one case for each action that changes something, under
what it has found. What the other fields keep is read off the cases, a field at a time.
-/

namespace Duplex

def Action.onInbound : Action → Bool
  | .store _ | .take _ | .failInbound _ | .completeInbound => true
  | _ => false

/-- The session that an action leaves behind. -/
inductive Changes (s : Session) : Action → Session → Prop
  | same (a : Action) : Changes s a s
  | receives {a : Action} (i : Inbound) (own : a.onInbound) : Changes s a { s with inbound := i }
  | flags (ready : Bool) :
    Changes s (.setReady ready) { s with readiness := { s.readiness with ready } }
  | wakes : Changes s .wakeWriter { s with readiness := { s.readiness with waker := none } }
  | watches (v : Waker) :
    Changes s .watchReadiness { s with readiness := { s.readiness with waker := some v } }
  | starts (fresh : s.progress = .notStarted) : Changes s .attach { s with progress := .sending }
  | opens : Changes s .openWriter s.openWriter.session
  | abandons : Changes s .abandon { s with writer := none }
  | registers (v : Waker) {w : Writer} (here : s.writer = some w) :
    Changes s (.register v) { s with
      writer := some { w with waker := v }
      control := some { s.control.getD {} with waker := some v } }
  | detaches {w : Writer} (here : s.writer = some w) (cancelled : (s.control.getD {}).cancelled) :
    Changes s .checkCancelled { s with writer := some w.detach }
  | holds (m : Message) {w : Writer} (here : s.writer = some w) :
    Changes s (.hold m) { s with writer := some { w with current := some m } }
  | drains {w : Writer} (here : s.writer = some w) :
    Changes s .drain { s with writer := some { w with drained := true, attached := false } }
  | releases {w : Writer} (here : s.writer = some w) :
    Changes s .release { s with writer := some { w with current := none } }
  | finishes (o : Outcome) : Changes s (.finish o) (s.finish o).session
  | concludes (o : Outcome) : Changes s (.conclude o) { s with progress := .completed }
  | marks : Changes s .markClosed { s with closed := true }
  | records (o : Outcome) :
    Changes s (.record o) { s with transportOutcome := s.transportOutcome.or (some o) }
  | cancels {c : Control} (here : s.control = some c) :
    Changes s .cancel { s with control := some { c with cancelled := true, waker := none } }
  | terminates (o : Outcome) {c : Control} (here : s.control = some c)
    (undecided : c.outcome = none) :
    Changes s (.terminate o) { s with control := some { c with outcome := some o, waker := none } }
  | enlists : Changes s .attachHandler { s with handlerAttached := true }
  | finalizes (o : Outcome) : Changes s (.finalize o) { s with finalized := true }
  | resolves (o : Outcome) : Changes s (.resolve o) { s with completion := .resolved o }
  | closes (status : CloseStatus) (finalizing : Bool) (unclosed : s.closed = false) :
    Changes s (.close status finalizing) { s with closed := true }

theorem changes_perform (s : Session) (a : Action) : Changes s a (a.perform s).session := by
  cases a with
  | store | take | failInbound | completeInbound =>
    simp only [Action.perform, Session.store, Session.take, Session.failInbound]
    repeat' split
    all_goals first | exact .same _ | exact .receives _ rfl
  | _ =>
    simp only [Action.perform, Session.withWriter, Session.settle, Session.close]
    repeat' split
    all_goals first
      | exact .same _
      | constructor <;> simp_all

namespace Changes

variable {s t : Session} {a : Action}

theorem setting_eq (change : Changes s a t) : t.setting = s.setting := by
  cases change <;> rfl

theorem inbound_eq (change : Changes s a t) (other : a.onInbound = false) :
    t.inbound = s.inbound := by
  cases change with
  | receives i own => simp [other] at own
  | _ => rfl

theorem ready_eq (change : Changes s a t) (other : ∀ ready, a ≠ .setReady ready) :
    t.readiness.ready = s.readiness.ready := by
  cases change with
  | flags ready => exact absurd rfl (other ready)
  | _ => rfl

theorem readiness_eq (change : Changes s a t) (other : a.ofPoll = false)
    (sets : ∀ ready, a ≠ .setReady ready) (wakes : a ≠ .wakeWriter) :
    t.readiness = s.readiness := by
  cases change with
  | flags ready => exact absurd rfl (sets ready)
  | wakes => exact absurd rfl wakes
  | watches v => simp [Action.ofPoll] at other
  | _ => rfl

theorem transportOutcome_eq (change : Changes s a t) (other : ∀ o, a ≠ .record o) :
    t.transportOutcome = s.transportOutcome := by
  cases change with
  | records o => exact absurd rfl (other o)
  | _ => rfl

theorem transportOutcome_isSome (change : Changes s a t) (reported : s.transportOutcome.isSome) :
    t.transportOutcome.isSome := by
  cases change with
  | records o => simp
  | _ => exact reported

theorem progress_eq (change : Changes s a t) (attaches : a ≠ .attach)
    (concludes : ∀ o, a ≠ .conclude o) : t.progress = s.progress := by
  cases change with
  | starts => exact absurd rfl attaches
  | concludes o => exact absurd rfl (concludes o)
  | _ => rfl

theorem progress_ne (change : Changes s a t) (begun : s.progress ≠ .notStarted) :
    t.progress ≠ .notStarted := by
  cases change with
  | starts | concludes => simp
  | _ => exact begun

theorem handlerAttached_eq (change : Changes s a t) (other : a ≠ .attachHandler) :
    t.handlerAttached = s.handlerAttached := by
  cases change with
  | enlists => exact absurd rfl other
  | _ => rfl

theorem hasOutboundTask (change : Changes s a t) (tasked : s.hasOutboundTask) :
    t.hasOutboundTask := by
  cases change with
  | starts | concludes | enlists => simp [Session.hasOutboundTask]
  | _ => exact tasked

theorem writer_eq (change : Changes s a t) (other : a.ofPoll = false) (opens : a ≠ .openWriter)
    (gives_up : a ≠ .abandon) : t.writer = s.writer := by
  cases change with
  | opens => exact absurd rfl opens
  | abandons => exact absurd rfl gives_up
  | registers | detaches | holds | drains | releases | finishes => simp [Action.ofPoll] at other
  | _ => rfl

theorem writer_eq_none (change : Changes s a t) (gone : s.writer = none) (opens : a ≠ .openWriter) :
    t.writer = none := by
  cases change with
  | opens => exact absurd rfl opens
  | abandons | finishes => rfl
  | registers _ here | detaches here | holds _ here | drains here | releases here =>
    simp [gone] at here
  | _ => exact gone

theorem control_eq (change : Changes s a t) (other : a.ofPoll = false) (opens : a ≠ .openWriter)
    (cancels : a ≠ .cancel) (tells : ∀ o, a ≠ .terminate o) : t.control = s.control := by
  cases change with
  | opens => exact absurd rfl opens
  | cancels => exact absurd rfl cancels
  | terminates o => exact absurd rfl (tells o)
  | registers | finishes => simp [Action.ofPoll] at other
  | _ => rfl

theorem control_isSome_eq (change : Changes s a t) (other : a.ofPoll = false)
    (opens : a ≠ .openWriter) : t.control.isSome = s.control.isSome := by
  cases change with
  | opens => exact absurd rfl opens
  | cancels here => simp [here]
  | terminates o here => simp [here]
  | registers | finishes => simp [Action.ofPoll] at other
  | _ => rfl

theorem control_isSome (change : Changes s a t) (attached : s.control.isSome) :
    t.control.isSome := by
  cases change with
  | opens | registers | finishes | cancels | terminates => rfl
  | _ => exact attached

theorem completion_eq (change : Changes s a t) (other : ∀ o, a ≠ .resolve o) :
    t.completion = s.completion := by
  cases change with
  | resolves o => exact absurd rfl (other o)
  | _ => rfl

theorem finalized_eq (change : Changes s a t) (other : ∀ o, a ≠ .finalize o) :
    t.finalized = s.finalized := by
  cases change with
  | finalizes o => exact absurd rfl (other o)
  | _ => rfl

theorem finalized (change : Changes s a t) (final : s.finalized) : t.finalized := by
  cases change with
  | finalizes o => rfl
  | _ => exact final

theorem closed_eq (change : Changes s a t) (unmarked : a ≠ .markClosed)
    (unclosing : ∀ status finalizing, a ≠ .close status finalizing) : t.closed = s.closed := by
  cases change with
  | marks => exact absurd rfl unmarked
  | closes status finalizing => exact absurd rfl (unclosing status finalizing)
  | _ => rfl

end Changes

end Duplex

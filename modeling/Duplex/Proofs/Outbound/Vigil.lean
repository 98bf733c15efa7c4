import Duplex.Proofs.Outbound.Cancellation
import Duplex.Proofs.Outbound.Course

/-!
What a poll of the send leaves behind when it comes away with nothing. It has seen why it could not
go on: its source had nothing yet, or readiness was missing, or the writer had been told to stop.
Whatever changes that afterwards finds the poll's waker where the poll has put it.
-/

namespace Duplex

def Woken (hs : List Happening) (w : Waker) : Prop := ∃ g ∈ hs, g.call? = some (.wake w)

theorem Woken.snoc {hs : List Happening} {w : Waker} (woken : Woken hs w) (h : Happening) :
    Woken (hs ++ [h]) w := by
  obtain ⟨g, mem, call⟩ := woken
  exact ⟨g, by simp [mem], call⟩

theorem woken_of_last (hs : List Happening) {h : Happening} {w : Waker}
    (call : h.call? = some (.wake w)) : Woken (hs ++ [h]) w := ⟨h, by simp, call⟩

def Happening.startsPoll : Happening → Bool
  | .began (.poll _) | .intruded (.poll _) => true
  | _ => false

def Answer.yields : Answer → Bool
  | .item _ | .ended => true
  | _ => false

def Happening.defers? : Happening → Option Waker
  | .answered (.pulling w) a => if a.yields then none else some w
  | _ => none

theorem resume_pulling {a : Answer} (nothing : a.yields = false) (w : Waker) :
    (Wait.pulling w).resume a = [.reply (.polled none)] := by
  cases a <;> first | rfl | simp [Answer.yields] at nothing

def Session.sendWaker? (s : Session) : Option Waker := s.control.bind Control.waker

def Session.isLoaded (s : Session) : Bool := s.writer.any fun x => x.current.isSome || x.drained

structure Session.Knows (s : Session) (w : Waker) : Prop where
  named : ∀ x, s.writer = some x → x.waker = w
  registered : s.sendWaker? = some w

inductive Rest (w : Waker) (hs : List Happening) (m : Machine) : Prop
  | cancelled (cancelled : m.session.isCancelled)
  | unattached (empty : m.session.isLoaded = false) (sourceless : m.session.hasSource = false)
  | deferred (empty : m.session.isLoaded = false)
    (deferred : ∃ pre g post, hs = pre ++ g :: post ∧ g.defers? = some w ∧
      ∀ k ∈ post, k.pulls = false)
  -- Readiness is raised first and told of afterwards: until then somebody else has that to do.
  | blocked (loaded : m.session.isLoaded) (listens : m.session.readiness.waker = some w)
    (raised : m.session.readiness.ready → .act .wakeWriter ∈ m.agenda)

def Frame.isPast : Frame → Bool
  | .act .checkCancelled | .act .request | .act (.hold _) | .act .drain | .act .emit
  | .act .release | .wait (.writing _) => true
  | _ => false

/-- The stages of the latest poll, each with what keeps the poll's waker on the watch. -/
inductive Vigil (w : Waker) (hs : List Happening) (m : Machine) : Agenda → Prop
  | begins : Vigil w hs m [.act (.register w)]
  | looks (knows : m.session.Knows w) : Vigil w hs m [.act .inspect]
  | finishes (o : Outcome) : Vigil w hs m [.act (.finish o)]
  | goes {f : Frame} (past : f.isPast) (knows : m.session.Knows w)
    (undecided : m.session.outcome? = none) : Vigil w hs m [f]
  | asks (knows : m.session.Knows w) (undecided : m.session.outcome? = none)
    (empty : m.session.isLoaded = false) : Vigil w hs m [.wait (.pulling w)]
  | gates {a : Action} (gate : a = .gate ∨ a = .watchReadiness) (knows : m.session.Knows w)
    (undecided : m.session.outcome? = none) (loaded : m.session.isLoaded) : Vigil w hs m [.act a]
  | rechecks (knows : m.session.Knows w) (undecided : m.session.outcome? = none)
    (loaded : m.session.isLoaded) (listens : m.session.readiness.waker = some w) :
    Vigil w hs m [.act .recheck]
  | rests {stage : Agenda} (ended : stage = [.act (.reply (.polled none))] ∨ stage = [])
    (knows : m.session.Knows w) (undecided : m.session.outcome? = none) (rest : Rest w hs m) :
    Vigil w hs m stage

def Watched (w : Waker) (hs : List Happening) (m : Machine) : Prop :=
  Woken hs w ∨ m.session.writer = none ∨ Vigil w hs m (polls m.agenda)

structure Undisturbed (w : Waker) (m n : Machine) : Prop where
  writer : n.session.writer = m.session.writer
  control : n.session.control = m.session.control
  listens : m.session.readiness.waker = some w → n.session.readiness.waker = some w ∧
    ((m.session.readiness.ready → .act .wakeWriter ∈ m.agenda) →
      n.session.readiness.ready → .act .wakeWriter ∈ n.agenda)

theorem perform_control {s : Session} {a : Action} {w : Waker} (other : a.ofPoll = false)
    (opens : a ≠ .openWriter) (registered : s.sendWaker? = some w) :
    (Happening.acted s a).call? = some (.wake w) ∨ (a.perform s).session.control = s.control := by
  obtain ⟨c, attached, waker⟩ := Option.bind_eq_some_iff.mp registered
  cases a with
  | openWriter => exact absurd rfl opens
  | cancel => exact .inl (wakes_of_next (by simp [Action.perform, attached, waker]))
  | terminate o =>
    cases decided : c.outcome with
    | none => exact .inl (wakes_of_next (by simp [Action.perform, attached, decided, waker]))
    | some p => exact .inr (by simp [Action.perform, attached, decided])
  | _ => exact .inr ((changes_perform s _).control_eq other opens (by simp) (by simp))

theorem perform_listens {s : Session} {a : Action} {w : Waker} (rest : Agenda)
    (other : a.ofPoll = false) (listens : s.readiness.waker = some w) :
    (Happening.acted s a).call? = some (.wake w) ∨
      (a.perform s).session.readiness.waker = some w ∧
        ((s.readiness.ready → .act .wakeWriter ∈ .act a :: rest) →
          (a.perform s).session.readiness.ready →
            .act .wakeWriter ∈ (a.perform s).next ++ rest) := by
  cases a with
  | wakeWriter => exact .inl (wakes_of_next (by simp [Action.perform, listens]))
  | setReady ready =>
    refine .inr ⟨listens, fun _ raised => ?_⟩
    have raised : ready = true := raised
    simp [Action.perform, raised]
  | _ =>
    right
    rw [(changes_perform s _).readiness_eq other (by simp) (by simp)]
    refine ⟨listens, fun told ready => ?_⟩
    have due : .act .wakeWriter ∈ rest := by simpa using told ready
    simp [due]

section

variable {gs hs : List Happening} {s : Session} {m n : Machine} {h : Happening} {w : Waker}

theorem undisturbed_of_step (attachment : Attachment gs m) (step : Machine.Step m h n)
    (other : h.ofPoll = false) (registered : m.session.sendWaker? = some w) :
    h.call? = some (.wake w) ∨ n.session.writer = none ∨ Undisturbed w m n := by
  cases step using Machine.Step.kinds with
  | began m op | intruded m op =>
    refine .inr (.inr ⟨rfl, rfl, fun listens => ⟨listens, fun told ready => ?_⟩⟩)
    exact List.mem_append_right _ (told ready)
  | answered s v rest a =>
    refine .inr (.inr ⟨rfl, rfl, fun listens => ⟨listens, fun told ready => ?_⟩⟩)
    have due : .act .wakeWriter ∈ rest := by simpa using told ready
    exact List.mem_append_right _ due
  | acted s a rest =>
    have opens : a ≠ .openWriter := by
      rintro rfl
      have unattached : s.control = none := attachment.opens.1
      simp [Session.sendWaker?, unattached] at registered
    by_cases gives_up : a = .abandon
    · subst gives_up
      exact .inr (.inl rfl)
    have writer := (changes_perform s a).writer_eq other opens gives_up
    rcases perform_control other opens registered with woken | control
    · exact .inl woken
    by_cases listens : s.readiness.waker = some w
    · rcases perform_listens rest other listens with woken | goes_on
      · exact .inl woken
      · exact .inr (.inr ⟨writer, control, fun _ => goes_on⟩)
    · exact .inr (.inr ⟨writer, control, fun listens' => absurd listens' listens⟩)

theorem Session.Knows.of_same {t : Session} (knows : s.Knows w) (writer : t.writer = s.writer)
    (control : t.control = s.control) : t.Knows w :=
  ⟨by rw [writer]; exact knows.named, by rw [Session.sendWaker?, control]; exact knows.registered⟩

theorem Session.Knows.with_writer {x y : Writer} (knows : s.Knows w) (here : s.writer = some x)
    (same : y.waker = x.waker) : ({ s with writer := some y } : Session).Knows w := by
  refine ⟨?_, knows.registered⟩
  rintro z ⟨⟩
  rw [same, knows.named x here]

theorem Rest.aside (rest : Rest w hs m) (same : Undisturbed w m n) (quiet : h.pulls = false) :
    Rest w (hs ++ [h]) n := by
  obtain ⟨writer, control, listens⟩ := same
  cases rest with
  | cancelled cancelled => exact .cancelled (by rwa [Session.isCancelled, control])
  | unattached empty sourceless =>
    exact .unattached (by rwa [Session.isLoaded, writer]) (by rwa [Session.hasSource, writer])
  | deferred empty deferred =>
    obtain ⟨pre, g, post, rfl, defers, last⟩ := deferred
    exact .deferred (by rwa [Session.isLoaded, writer])
      ⟨pre, g, post ++ [h], by simp, defers, forall_mem_snoc last quiet⟩
  | blocked loaded here raised =>
    obtain ⟨still, told⟩ := listens here
    exact .blocked (by rwa [Session.isLoaded, writer]) still (told raised)

theorem pulls_of_other (other : h.ofPoll = false) : h.pulls = false := by
  by_contra pulls
  obtain ⟨s, -, rfl, -⟩ := pulls_cases (by simpa using pulls)
  simp [Happening.ofPoll, Action.ofPoll] at other

theorem Vigil.aside {stage : Agenda} (ok : Vigil w hs m stage) (attachment : Attachment gs m)
    (step : Machine.Step m h n) (other : h.ofPoll = false) :
    Woken (hs ++ [h]) w ∨ n.session.writer = none ∨ Vigil w (hs ++ [h]) n stage := by
  have go_on (knows : m.session.Knows w) (goes : Undisturbed w m n → n.session.Knows w →
      Vigil w (hs ++ [h]) n stage) :
      Woken (hs ++ [h]) w ∨ n.session.writer = none ∨ Vigil w (hs ++ [h]) n stage := by
    rcases undisturbed_of_step attachment step other knows.registered with woken | gone | same
    · exact .inl (woken_of_last hs woken)
    · exact .inr (.inl gone)
    · exact .inr (.inr (goes same (knows.of_same same.writer same.control)))
  have undecided (same : Undisturbed w m n) (before : m.session.outcome? = none) :
      n.session.outcome? = none := by rwa [Session.outcome?, same.control]
  have loaded (same : Undisturbed w m n) : n.session.isLoaded = m.session.isLoaded := by
    rw [Session.isLoaded, same.writer, Session.isLoaded]
  cases ok with
  | begins => exact .inr (.inr .begins)
  | finishes o => exact .inr (.inr (.finishes o))
  | looks knows => exact go_on knows fun _ => .looks
  | goes past knows open_ =>
    exact go_on knows fun same knows => .goes past knows (undecided same open_)
  | asks knows open_ empty =>
    exact go_on knows fun same knows => .asks knows (undecided same open_) (loaded same ▸ empty)
  | gates gate knows open_ full =>
    exact go_on knows fun same knows =>
      .gates gate knows (undecided same open_) (loaded same ▸ full)
  | rechecks knows open_ full listens =>
    exact go_on knows fun same knows =>
      .rechecks knows (undecided same open_) (loaded same ▸ full) (same.listens listens).1
  | rests ended knows open_ rest =>
    exact go_on knows fun same knows =>
      .rests ended knows (undecided same open_) (rest.aside same (pulls_of_other other))

end

section

variable {s : Session} {x : Writer}

theorem perform_register (here : s.writer = some x) (w : Waker) :
    (Action.register w).perform s =
      { session := { s with
          writer := some { x with waker := w }
          control := some { s.control.getD {} with waker := some w } }
        next := [.act .inspect] } := by
  simp [Action.perform, Session.withWriter, here]

theorem perform_inspect_undecided (undecided : s.outcome? = none) :
    Action.inspect.perform s = { session := s, next := [.act .checkCancelled] } := by
  simp [Action.perform, outcome_control, undecided]

theorem perform_checkCancelled_cancelled (here : s.writer = some x) (cancelled : s.isCancelled) :
    Action.checkCancelled.perform s =
      { session := { s with writer := some x.detach }
        notices := x.detachNotices
        next := [.act (.reply (.polled none))] } := by
  simp [Action.perform, cancelled_control, cancelled, Session.withWriter, here]

theorem perform_checkCancelled_uncancelled (uncancelled : s.isCancelled = false) :
    Action.checkCancelled.perform s = { session := s, next := [.act .request] } := by
  simp [Action.perform, cancelled_control, uncancelled]

theorem perform_request_loaded (here : s.writer = some x) (loaded : s.isLoaded) :
    Action.request.perform s = { session := s, next := [.act .gate] } := by
  have busy : x.current.isSome || x.drained := by simpa [Session.isLoaded, here] using loaded
  simp [Action.perform, Session.withWriter, here, busy]

theorem perform_request_unloaded (here : s.writer = some x) (unloaded : s.isLoaded = false) :
    Action.request.perform s =
      { session := s
        next := [if s.hasSource then .wait (.pulling x.waker)
          else .act (.reply (.polled none))] } := by
  obtain ⟨empty, undrained⟩ : x.current = none ∧ x.drained = false := by
    simpa [Session.isLoaded, here] using unloaded
  cases attached : x.attached <;>
    simp [Action.perform, Session.withWriter, Session.hasSource, here, empty, undrained, attached]

theorem canProceed_of_loaded (here : s.writer = some x) (loaded : s.isLoaded) :
    x.canProceed s.readiness = s.readiness.ready := by
  have loaded : x.current.isSome || x.drained := by simpa [Session.isLoaded, here] using loaded
  rw [Writer.canProceed, Bool.or_comm, loaded, Bool.and_true]

theorem perform_gate (here : s.writer = some x) (loaded : s.isLoaded) :
    Action.gate.perform s =
      { session := s
        next := [.act (if s.readiness.ready then .emit else .watchReadiness)] } := by
  rw [← canProceed_of_loaded here loaded]
  simp [Action.perform, Session.withWriter, here]

theorem perform_watchReadiness (here : s.writer = some x) :
    Action.watchReadiness.perform s =
      { session := { s with readiness := { s.readiness with waker := some x.waker } }
        next := [.act .recheck] } := by
  simp [Action.perform, Session.withWriter, here]

theorem perform_recheck (here : s.writer = some x) (loaded : s.isLoaded) :
    Action.recheck.perform s =
      { session := s
        next := [.act (if s.readiness.ready then .emit else .reply (.polled none))] } := by
  rw [← canProceed_of_loaded here loaded]
  simp [Action.perform, Session.withWriter, here]

end

structure Follows (m : Machine) (a : Action) (n : Machine) : Prop where
  after : n.session = (a.perform m.session).session
  next : polls n.agenda = polls (a.perform m.session).next
  told : .act .wakeWriter ∈ m.agenda → .act .wakeWriter ∈ n.agenda

section

variable {hs : List Happening} {m n : Machine} {w : Waker} {a : Action} {x : Writer}

theorem Follows.effect {e : Effect} (follows : Follows m a n) (effect : a.perform m.session = e) :
    n.session = e.session ∧ polls n.agenda = polls e.next :=
  effect ▸ ⟨follows.after, follows.next⟩

theorem Follows.goes {notices : List Notice} {f : Frame} (follows : Follows m a n)
    (effect : a.perform m.session = { session := m.session, notices, next := [f] })
    (past : f.isPast) (knows : m.session.Knows w) (open_ : m.session.outcome? = none) :
    Vigil w hs n (polls n.agenda) := by
  obtain ⟨after, next⟩ := follows.effect effect
  have own : f.ofPoll := by
    unfold Frame.isPast at past
    split at past <;> first | rfl | simp at past
  have stage : polls n.agenda = [f] := by simp [next, own]
  rw [stage]
  exact .goes past (after ▸ knows) (after ▸ open_)

theorem Vigil.register (here : m.session.writer = some x) (follows : Follows m (.register w) n) :
    Vigil w hs n (polls n.agenda) := by
  obtain ⟨after, next⟩ := follows.effect (perform_register here w)
  rw [next]
  refine .looks ⟨?_, ?_⟩ <;> simp [after, Session.sendWaker?]

theorem Vigil.inspect (knows : m.session.Knows w) (follows : Follows m .inspect n) :
    Vigil w hs n (polls n.agenda) := by
  cases open_ : m.session.outcome? with
  | some o =>
    have effect : Action.inspect.perform m.session =
        { session := m.session, next := [.act (.finish o)] } := by
      simp [Action.perform, outcome_control, open_]
    rw [(follows.effect effect).2]
    exact .finishes o
  | none => exact follows.goes (perform_inspect_undecided open_) rfl knows open_

theorem Vigil.checkCancelled (here : m.session.writer = some x) (knows : m.session.Knows w)
    (open_ : m.session.outcome? = none) (follows : Follows m .checkCancelled n) :
    Vigil w hs n (polls n.agenda) := by
  cases cancelled : m.session.isCancelled with
  | false => exact follows.goes (perform_checkCancelled_uncancelled cancelled) rfl knows open_
  | true =>
    obtain ⟨after, next⟩ := follows.effect (perform_checkCancelled_cancelled here cancelled)
    rw [next]
    refine .rests (.inl rfl) ?_ ?_ (.cancelled ?_) <;> rw [after]
    · exact knows.with_writer here rfl
    · exact open_
    · exact cancelled

theorem Vigil.request (here : m.session.writer = some x) (knows : m.session.Knows w)
    (open_ : m.session.outcome? = none) (follows : Follows m .request n) :
    Vigil w hs n (polls n.agenda) := by
  cases loaded : m.session.isLoaded with
  | true =>
    obtain ⟨after, next⟩ := follows.effect (perform_request_loaded here loaded)
    rw [next]
    exact .gates (.inl rfl) (after ▸ knows) (after ▸ open_) (after ▸ loaded)
  | false =>
    obtain ⟨after, next⟩ := follows.effect (perform_request_unloaded here loaded)
    rw [next, knows.named x here]
    cases attached : m.session.hasSource with
    | true => exact .asks (after ▸ knows) (after ▸ open_) (after ▸ loaded)
    | false =>
      exact .rests (.inl rfl) (after ▸ knows) (after ▸ open_)
        (.unattached (after ▸ loaded) (after ▸ attached))

theorem Vigil.hold {y : Message} (here : m.session.writer = some x) (knows : m.session.Knows w)
    (open_ : m.session.outcome? = none) (follows : Follows m (.hold y) n) :
    Vigil w hs n (polls n.agenda) := by
  have effect : (Action.hold y).perform m.session =
      { session := { m.session with writer := some { x with current := some y } }
        next := [.act .gate] } := by
    simp [Action.perform, Session.withWriter, here]
  obtain ⟨after, next⟩ := follows.effect effect
  rw [next]
  refine .gates (.inl rfl) ?_ ?_ ?_ <;> rw [after]
  · exact knows.with_writer here rfl
  · exact open_
  · simp [Session.isLoaded]

theorem Vigil.drain (here : m.session.writer = some x) (knows : m.session.Knows w)
    (open_ : m.session.outcome? = none) (follows : Follows m .drain n) :
    Vigil w hs n (polls n.agenda) := by
  have effect : Action.drain.perform m.session =
      { session := { m.session with writer := some { x with drained := true, attached := false } }
        notices := if x.attached then [.sourceDropped] else []
        next := [.act .gate] } := by
    simp [Action.perform, Session.withWriter, here]
  obtain ⟨after, next⟩ := follows.effect effect
  rw [next]
  refine .gates (.inl rfl) ?_ ?_ ?_ <;> rw [after]
  · exact knows.with_writer here rfl
  · exact open_
  · simp [Session.isLoaded]

theorem Vigil.gate (here : m.session.writer = some x) (knows : m.session.Knows w)
    (open_ : m.session.outcome? = none) (loaded : m.session.isLoaded) (follows : Follows m .gate n) :
    Vigil w hs n (polls n.agenda) := by
  obtain ⟨after, next⟩ := follows.effect (perform_gate here loaded)
  rw [next]
  cases m.session.readiness.ready with
  | true => exact .goes rfl (after ▸ knows) (after ▸ open_)
  | false => exact .gates (.inr rfl) (after ▸ knows) (after ▸ open_) (after ▸ loaded)

theorem Vigil.watchReadiness (here : m.session.writer = some x) (knows : m.session.Knows w)
    (open_ : m.session.outcome? = none) (loaded : m.session.isLoaded)
    (follows : Follows m .watchReadiness n) : Vigil w hs n (polls n.agenda) := by
  obtain ⟨after, next⟩ := follows.effect (perform_watchReadiness here)
  rw [next]
  refine .rechecks ⟨?_, ?_⟩ ?_ ?_ ?_ <;> rw [after]
  · exact knows.named
  · exact knows.registered
  · exact open_
  · exact loaded
  · rw [knows.named x here]

theorem Vigil.recheck (here : m.session.writer = some x) (knows : m.session.Knows w)
    (open_ : m.session.outcome? = none) (loaded : m.session.isLoaded)
    (listens : m.session.readiness.waker = some w) (follows : Follows m .recheck n) :
    Vigil w hs n (polls n.agenda) := by
  obtain ⟨after, next⟩ := follows.effect (perform_recheck here loaded)
  rw [next]
  cases ready : m.session.readiness.ready with
  | true => exact .goes rfl (after ▸ knows) (after ▸ open_)
  | false =>
    refine .rests (.inl rfl) (after ▸ knows) (after ▸ open_)
      (.blocked (after ▸ loaded) (after ▸ listens) ?_)
    simp [after, ready]

theorem Vigil.emit (here : m.session.writer = some x) (knows : m.session.Knows w)
    (open_ : m.session.outcome? = none) (follows : Follows m .emit n) :
    Vigil w hs n (polls n.agenda) := by
  cases drained : x.drained with
  | true =>
    have effect : Action.emit.perform m.session =
        { session := m.session, next := [.act (.finish .success)] } := by
      simp [Action.perform, Session.withWriter, here, drained]
    rw [(follows.effect effect).2]
    exact .finishes .success
  | false =>
    cases held : x.current with
    | some y =>
      have effect : Action.emit.perform m.session =
          { session := m.session
            notices := [.logged (.writing y)]
            next := [.wait (.writing y)] } := by
        simp [Action.perform, Session.withWriter, here, drained, held]
      exact follows.goes effect rfl knows open_
    | none =>
      have effect : Action.emit.perform m.session =
          { session := m.session, next := [.act .inspect] } := by
        simp [Action.perform, Session.withWriter, here, drained, held]
      obtain ⟨after, next⟩ := follows.effect effect
      rw [next]
      exact .looks (after ▸ knows)

theorem Vigil.release (here : m.session.writer = some x) (knows : m.session.Knows w)
    (follows : Follows m .release n) : Vigil w hs n (polls n.agenda) := by
  have effect : Action.release.perform m.session =
      { session := { m.session with writer := some { x with current := none } }
        next := [.act .inspect] } := by
    simp [Action.perform, Session.withWriter, here]
  obtain ⟨after, next⟩ := follows.effect effect
  rw [next]
  refine .looks ?_
  rw [after]
  exact knows.with_writer here rfl

theorem Vigil.reply (knows : m.session.Knows w) (open_ : m.session.outcome? = none)
    (rest : Rest w hs m) (follows : Follows m (.reply (.polled none)) n) :
    Vigil w (hs ++ [.acted m.session (.reply (.polled none))]) n (polls n.agenda) := by
  have after : n.session = m.session := follows.after
  have next : polls n.agenda = [] := follows.next
  have same : Undisturbed w m n := by
    refine ⟨by rw [after], by rw [after], fun listens => ⟨by rw [after, listens], ?_⟩⟩
    exact fun told ready => follows.told (told (after ▸ ready))
  rw [next]
  exact .rests (.inr rfl) (after ▸ knows) (after ▸ open_) (rest.aside same rfl)

theorem Vigil.act (ok : Vigil w hs m [.act a]) (follows : Follows m a n)
    (here : m.session.writer = some x) :
    n.session.writer = none ∨ Vigil w (hs ++ [.acted m.session a]) n (polls n.agenda) := by
  cases ok with
  | begins => exact .inr (.register here follows)
  | looks knows => exact .inr (.inspect knows follows)
  | finishes o => exact .inl (by rw [follows.after]; rfl)
  | goes past knows open_ =>
    cases a with
    | checkCancelled => exact .inr (.checkCancelled here knows open_ follows)
    | request => exact .inr (.request here knows open_ follows)
    | hold y => exact .inr (.hold here knows open_ follows)
    | drain => exact .inr (.drain here knows open_ follows)
    | emit => exact .inr (.emit here knows open_ follows)
    | release => exact .inr (.release here knows follows)
    | _ => simp [Frame.isPast] at past
  | gates gate knows open_ loaded =>
    rcases gate with rfl | rfl
    · exact .inr (.gate here knows open_ loaded follows)
    · exact .inr (.watchReadiness here knows open_ loaded follows)
  | rechecks knows open_ loaded listens =>
    exact .inr (.recheck here knows open_ loaded listens follows)
  | rests ended knows open_ rest =>
    obtain rfl : a = .reply (.polled none) := by simpa using ended
    exact .inr (.reply knows open_ rest follows)

theorem Vigil.hear {v : Wait} {b : Answer} (ok : Vigil w hs m [.wait v])
    (same : n.session = m.session) (next : polls n.agenda = polls ((v.resume b).map .act)) :
    Vigil w (hs ++ [.answered v b]) n (polls n.agenda) := by
  rw [next]
  cases ok with
  | goes past knows open_ =>
    cases v with
    | writing y =>
      rw [resume_writing]
      cases b.refusal? with
      | some f => exact .finishes _
      | none => exact .goes rfl (same ▸ knows) (same ▸ open_)
    | _ => simp [Frame.isPast] at past
  | asks knows open_ empty =>
    cases yields : b.yields with
    | true =>
      cases b with
      | item y => exact .goes rfl (same ▸ knows) (same ▸ open_)
      | ended => exact .goes rfl (same ▸ knows) (same ▸ open_)
      | _ => simp [Answer.yields] at yields
    | false =>
      rw [resume_pulling yields]
      exact .rests (.inl rfl) (same ▸ knows) (same ▸ open_)
        (.deferred (same ▸ empty) ⟨hs, _, [], rfl, by simp [Happening.defers?, yields], by simp⟩)
  | rests ended => simp at ended

end

section

variable {gs hs : List Happening} {m n : Machine} {h : Happening} {w : Waker}

theorem Watched.step (attachment : Attachment gs m) (attached : m.session.control.isSome)
    (single : (polls m.agenda).length ≤ 1) (ok : Watched w hs m) (step : Machine.Step m h n)
    (latest : h.startsPoll = false) : Watched w (hs ++ [h]) n := by
  rcases ok with woken | gone | ok
  · exact .inl (woken.snoc h)
  · refine .inr (.inl ?_)
    cases step using Machine.Step.kinds with
    | began | intruded | answered => exact gone
    | acted s a rest =>
      refine (changes_perform s a).writer_eq_none gone ?_
      rintro rfl
      have unattached : s.control = none := attachment.opens.1
      simp [unattached] at attached
  cases polled_of_step step single with
  | aside other same =>
    unfold Watched
    rw [same]
    exact ok.aside attachment step other
  | starts v op => rcases op with rfl | rfl <;> simp [Happening.startsPoll] at latest
  | acts s a eq own here stage after next =>
    subst here eq
    have follows : Follows m a n := by
      refine ⟨after, next, fun mem => ?_⟩
      cases step using Machine.Step.kinds with
      | acted s a rest =>
        rcases List.mem_cons.mp mem with same | mem
        · cases same
          simp [Action.ofPoll] at own
        · exact List.mem_append_right _ mem
    cases here : m.session.writer with
    | none =>
      have opens : a ≠ .openWriter := by
        rintro rfl
        simp [Action.ofPoll] at own
      exact .inr (.inl (after ▸ (changes_perform _ a).writer_eq_none here opens))
    | some x => exact .inr ((stage ▸ ok).act follows here)
  | hears v b eq own stage same next =>
    subst eq
    exact .inr (.inr ((stage ▸ ok).hear same next))

theorem Watched.run (attachment : Attachment gs m) (attached : m.session.control.isSome)
    (single : (polls m.agenda).length ≤ 1) (begins : Watched w [] m) (run : Machine.Run m hs n)
    (latest : ∀ g ∈ hs, g.startsPoll = false) :
    Watched w hs n ∧ (polls n.agenda).length ≤ 1 := by
  induction run with
  | nil => exact ⟨begins, single⟩
  | snoc run step ih =>
    obtain ⟨ok, single⟩ := ih fun g mem => latest g (by simp [mem])
    exact ⟨ok.step (attachment.after run) (attached_run run attached) single step
      (latest _ (by simp)), single_step step single⟩

end

end Duplex

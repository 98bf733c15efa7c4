import Duplex.Proofs.Outbound.Vigil

/-!
No send is left asleep. When a poll of the attached send has come away with nothing and, at rest,
another one would pull a message, begin a write or resolve, whoever polled last has been woken: by
the session, or by the source.
-/

namespace Duplex

/-- A source, as one who watches the session sees it. -/
structure Upstream where
  answer : List Happening → Answer
  rouses : List Happening → Waker → Bool

def Upstream.Wakes (u : Upstream) (pre since : List Happening) (w : Waker) : Prop :=
  Woken since w ∨ ∃ mid, mid <+: since ∧ u.rouses (pre ++ mid) w

/-- A source that had nothing for whoever asked it last, and has something now, has seen to it that
they are woken. -/
def Upstream.Honours (u : Upstream) (hs : List Happening) : Prop :=
  ∀ pre g since w, hs = pre ++ g :: since → g.defers? = some w → (∀ k ∈ since, k.pulls = false) →
    (u.answer hs).yields → u.Wakes (pre ++ [g]) since w

/-- A message is pulled, a write begins, or the send resolves. -/
def Happening.achieves (h : Happening) : Bool :=
  h.yielded?.isSome || h.written?.isSome || h.resolution?.isSome

def Happening.goesOn (b : Answer) : Happening → Bool
  | .intruded _ | .acted _ (.reply (.polled none)) => false
  | .answered (.pulling _) a => a = b
  | _ => true

/-- The poll in progress can achieve something. -/
def Machine.Achieves (m : Machine) (b : Answer) : Prop :=
  ∃ gs k, Machine.Run m gs k ∧ (∀ g ∈ gs, g.goesOn b) ∧ ∃ g ∈ gs, g.achieves

theorem Upstream.Wakes.since {u : Upstream} {pre mid post : List Happening} {w : Waker}
    (wakes : u.Wakes (pre ++ mid) post w) : u.Wakes pre (mid ++ post) w := by
  rcases wakes with ⟨g, mem, call⟩ | ⟨later, first, rouses⟩
  · exact .inl ⟨g, by simp [mem], call⟩
  · refine .inr ⟨mid ++ later, (List.prefix_append_right_inj mid).mpr first, ?_⟩
    rwa [← List.append_assoc]

theorem Happening.IsSilent.achieves {h : Happening} (silent : h.IsSilent) : h.achieves = false := by
  obtain ⟨yielded, written, -, resolution⟩ := silent
  simp [Happening.achieves, yielded, written, resolution]

section

variable {s : Session} {rest : Agenda} {b : Answer} {w : Waker} {x : Writer}

theorem Machine.Achieves.act {a : Action} {e : Effect}
    (achieves : Machine.Achieves ⟨s, .act a :: rest⟩ b) (effect : a.perform s = e)
    (writes : a ≠ .emit) (resolves : ∀ o, a ≠ .reply (.polled (some o))) :
    Machine.Achieves ⟨e.session, e.next ++ rest⟩ b := by
  subst effect
  have idle := (Happening.IsSilent.acted s writes resolves).achieves
  obtain ⟨gs, k, run, goes, g, mem, achieves⟩ := achieves
  cases gs with
  | nil => simp at mem
  | cons h gs =>
    obtain ⟨first, later⟩ := List.forall_mem_cons.mp goes
    obtain ⟨n, step, run⟩ := run.uncons
    cases step with
    | began control => simp [Machine.isYielding, Machine.isIdle, Machine.call?] at control
    | intruded => simp [Happening.goesOn] at first
    | acted performed =>
      cases performed
      have mem : g ∈ gs := by
        refine (List.mem_cons.mp mem).resolve_left ?_
        rintro rfl
        simp [idle] at achieves
      exact ⟨gs, k, run, later, g, mem, achieves⟩

theorem not_achieves_reply : ¬ Machine.Achieves ⟨s, .act (.reply (.polled none)) :: rest⟩ b := by
  rintro ⟨gs, k, run, goes, g, mem, -⟩
  cases gs with
  | nil => simp at mem
  | cons h gs =>
    obtain ⟨first, -⟩ := List.forall_mem_cons.mp goes
    obtain ⟨n, step, run⟩ := run.uncons
    cases step with
    | began control => simp [Machine.isYielding, Machine.isIdle, Machine.call?] at control
    | intruded | acted => simp [Happening.goesOn] at first

theorem Machine.Achieves.yields (achieves : Machine.Achieves ⟨s, [.wait (.pulling w)]⟩ b) :
    b.yields := by
  obtain ⟨gs, k, run, goes, g, mem, achieves⟩ := achieves
  by_contra nothing
  have nothing : b.yields = false := by simpa using nothing
  have vain : (∀ g ∈ gs, g.achieves = false) ∧ (polls k.agenda = [.wait (.pulling w)] ∨
      polls k.agenda = [.act (.reply (.polled none))]) := by
    clear mem achieves
    induction run with
    | nil => exact ⟨by simp, .inl rfl⟩
    | snoc run step ih =>
      rename_i n k gs h
      obtain ⟨before, last⟩ := List.forall_mem_append.mp goes
      have last : h.goesOn b := last h (by simp)
      obtain ⟨vain, stage⟩ := ih before
      have single : (polls n.agenda).length ≤ 1 := by
        rcases stage with stage | stage <;> simp [stage]
      cases polled_of_step step single with
      | aside other same =>
        rw [same]
        exact ⟨forall_mem_snoc vain (Happening.IsSilent.of_other other).achieves, stage⟩
      | starts v op idle => simp [idle] at stage
      | acts t a eq own here due =>
        subst eq
        obtain rfl : a = .reply (.polled none) := by simpa [due] using stage
        simp [Happening.goesOn] at last
      | hears v a eq own due same next =>
        subst eq
        obtain rfl : v = .pulling w := by simpa [due] using stage
        obtain rfl : a = b := by simpa [Happening.goesOn] using last
        rw [resume_pulling nothing] at next
        refine ⟨forall_mem_snoc vain ?_, .inr next⟩
        cases a <;> first | rfl | simp [Answer.yields] at nothing
  simp [vain.1 g mem] at achieves

theorem not_achieves_of_cancelled (here : s.writer = some x) (undecided : s.outcome? = none)
    (cancelled : s.isCancelled) : ¬ Machine.Achieves ⟨s, [.act .inspect]⟩ b := by
  intro would
  have would := would.act (perform_inspect_undecided undecided) (by simp) (by simp)
  have would := would.act (perform_checkCancelled_cancelled here cancelled) (by simp) (by simp)
  exact not_achieves_reply would

theorem Machine.Achieves.request (would : Machine.Achieves ⟨s, [.act .inspect]⟩ b)
    (here : s.writer = some x) (undecided : s.outcome? = none) :
    Machine.Achieves ⟨s, [.act .request]⟩ b := by
  cases cancelled : s.isCancelled with
  | true => exact absurd would (not_achieves_of_cancelled here undecided cancelled)
  | false =>
    have would := would.act (perform_inspect_undecided undecided) (by simp) (by simp)
    exact would.act (perform_checkCancelled_uncancelled cancelled) (by simp) (by simp)

theorem not_achieves_of_unready (here : s.writer = some x) (loaded : s.isLoaded)
    (unready : s.readiness.ready = false) : ¬ Machine.Achieves ⟨s, [.act .request]⟩ b := by
  intro would
  have would := would.act (perform_request_loaded here loaded) (by simp) (by simp)
  have would := would.act (perform_gate here loaded) (by simp) (by simp)
  rw [unready] at would
  have would := would.act (perform_watchReadiness here) (by simp) (by simp)
  -- The waker is registered by now, which makes no difference to what the poll sees.
  have would := would.act (perform_recheck here loaded) (by simp) (by simp)
  simp only [unready] at would
  exact not_achieves_reply would

theorem yields_of_achieves (here : s.writer = some x) (unloaded : s.isLoaded = false)
    (would : Machine.Achieves ⟨s, [.act .request]⟩ b) : b.yields ∧ s.hasSource := by
  have would := would.act (perform_request_unloaded here unloaded) (by simp) (by simp)
  cases attached : s.hasSource with
  | true =>
    rw [attached] at would
    exact ⟨would.yields, rfl⟩
  | false =>
    rw [attached] at would
    exact absurd would not_achieves_reply

theorem register_keeps (here : s.writer = some x) (v : Waker) :
    ∃ t, (Action.register v).perform s = { session := t, next := [.act .inspect] } ∧
      t.writer = some { x with waker := v } ∧ t.readiness = s.readiness ∧
      t.outcome? = s.outcome? ∧ (s.isCancelled → t.isCancelled) := by
  refine ⟨_, perform_register here v, rfl, rfl, ?_, ?_⟩ <;>
    cases attached : s.control <;> simp [Session.outcome?, Session.isCancelled, attached]

theorem Rest.deferred_of_achieves {hs : List Happening} {v : Waker} (rest : Rest w hs ⟨s, []⟩)
    (undecided : s.outcome? = none) (here : s.writer = some x)
    (would : Machine.Achieves ⟨s, [.act (.register v)]⟩ b) :
    b.yields ∧ ∃ pre g post, hs = pre ++ g :: post ∧ g.defers? = some w ∧
      ∀ k ∈ post, k.pulls = false := by
  obtain ⟨t, effect, now, readiness, outcome, cancels⟩ := register_keeps here v
  have would : Machine.Achieves ⟨t, [.act .inspect]⟩ b := would.act effect (by simp) (by simp)
  have undecided : t.outcome? = none := outcome.trans undecided
  have loads : t.isLoaded = s.isLoaded := by simp [Session.isLoaded, now, here]
  have sources : t.hasSource = s.hasSource := by simp [Session.hasSource, now, here]
  cases rest with
  | cancelled cancelled =>
    exact absurd would (not_achieves_of_cancelled now undecided (cancels cancelled))
  | unattached empty sourceless =>
    have attached := (yields_of_achieves now (loads.trans empty) (would.request now undecided)).2
    simp [sources, sourceless] at attached
  | deferred empty deferred =>
    exact ⟨(yields_of_achieves now (loads.trans empty) (would.request now undecided)).1, deferred⟩
  | blocked loaded listens raised =>
    -- A raise would still have to be told, but nothing is in progress.
    have unready : t.readiness.ready = false := by
      rw [readiness]
      simpa using raised
    exact absurd (would.request now undecided)
      (not_achieves_of_unready now (loads.trans loaded) unready)

end

theorem poll_begins {m n : Machine} {h : Happening} {w : Waker} (step : Machine.Step m h n)
    (begins : h.op? = some (.poll w)) :
    m.session.writer.isSome ∧ n.session = m.session ∧ polls n.agenda = [.act (.register w)] := by
  have admitted : m.admits (.poll w) := by
    cases step with
    | began _ admitted | intruded _ admitted =>
      cases begins
      exact admitted
    | acted | answered => simp [Happening.op?] at begins
  obtain ⟨attached, unpolled⟩ : m.session.writer.isSome ∧ m.isPolling = false := by
    simpa [Machine.admits] using admitted
  obtain rfl := step_start step begins
  exact ⟨attached, rfl, by
    simp [Machine.start, polls_actions, (polls_eq_nil_iff m).mpr unpolled]⟩

/-- Once the latest poll of the attached send has come away with nothing and nothing is in progress
any more, another poll achieves something only if whoever polled last has been woken since that poll
began. A poll that resolves leaves no send to poll, so every poll that can be followed by another
one came away with nothing. -/
theorem send_woken {u : Upstream} {s : Session} {pre since : List Happening} {h : Happening}
    {m : Machine} {w v : Waker} (new : s.IsNew)
    (run : Machine.Run ⟨s, []⟩ (pre ++ h :: since) m) (begins : h.op? = some (.poll w))
    (latest : ∀ g ∈ since, g.startsPoll = false) (idle : m.isIdle)
    (honours : u.Honours (pre ++ h :: since)) (admitted : m.admits (.poll v))
    (would : (m.start (.poll v)).Achieves (u.answer (pre ++ h :: since))) :
    u.Wakes (pre ++ [h]) since w := by
  obtain ⟨k, n, before, step, after⟩ := run.split
  have attachment := Attachment.run new before
  obtain ⟨attached, same, stage⟩ := poll_begins step begins
  have controlled : n.session.control.isSome := by
    rw [same]
    by_contra unattached
    simp [(attachment.untouched (by simpa using unattached)).1] at attached
  have starts : Watched w [] n := .inr (.inr (stage ▸ .begins))
  obtain ⟨ok, -⟩ :=
    Watched.run (attachment.step step) controlled (by simp [stage]) starts after latest
  obtain ⟨t, agenda⟩ := m
  obtain rfl : agenda = [] := List.isEmpty_iff.mp idle
  have there : t.writer.isSome := by simpa [Machine.admits, Machine.isPolling] using admitted
  obtain ⟨x, here⟩ := Option.isSome_iff_exists.mp there
  rcases ok with woken | gone | ok
  · exact .inl woken
  · simp [show t.writer = none from gone] at here
  · cases ok with
    | rests ended knows undecided rest =>
      obtain ⟨yields, before, g, later, rfl, defers, last⟩ :=
        rest.deferred_of_achieves undecided here would
      have woken := honours (pre ++ h :: before) g later w (by simp) defers last yields
      have woken : u.Wakes ((pre ++ [h]) ++ (before ++ [g])) later w := by simpa using woken
      simpa using woken.since

/-- A message is held back until readiness is raised, and whoever polled for it is woken then. -/
theorem send_woken_ready :
    let a := Message.binary [1]
    let u : Upstream := ⟨fun _ => .item a, fun _ _ => false⟩
    let s := Session.sample true {}
    let raise : List Machine.Cue :=
      [.start (.setReady true), .perform, .perform, .answer .done, .perform]
    let r := Machine.play ⟨s, []⟩ (holding a ++ raise)
    let again := (r.2.start (.poll 8)).play (List.replicate 6 .perform)
    s.IsNew ∧ r.1 = r.1.take 7 ++ .began (.poll 7) :: r.1.drop 8 ∧ r.2.isIdle ∧
      History.written again.1 = [a] ∧ u.Honours r.1 ∧
      u.Wakes (r.1.take 7 ++ [.began (.poll 7)]) (r.1.drop 8) 7 := by
  intro a u s raise r again
  have new : s.IsNew := Session.isNew_sample true rfl
  have split : r.1 = r.1.take 7 ++ .began (.poll 7) :: r.1.drop 8 := by decide +kernel
  have run : Machine.Run ⟨s, []⟩ (r.1.take 7 ++ .began (.poll 7) :: r.1.drop 8) r.2 := by
    rw [← split]
    exact Machine.run_play _ _
  have undeferred : ∀ g ∈ r.1, g.defers? = none := by decide +kernel
  have honours : u.Honours r.1 := by
    intro pre g since w same defers
    simp [undeferred g (by simp [same])] at defers
  have would : (r.2.start (.poll 8)).Achieves (.item a) :=
    ⟨again.1, again.2, Machine.run_play _ _, by decide +kernel, by decide +kernel⟩
  have latest : ∀ g ∈ r.1.drop 8, g.startsPoll = false := by decide +kernel
  exact ⟨new, split, by decide +kernel, by decide +kernel, honours,
    send_woken new run rfl latest (by decide +kernel) (split ▸ honours) (by decide +kernel) would⟩

end Duplex

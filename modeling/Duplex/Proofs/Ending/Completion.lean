import Duplex.Proofs.Ending.Finalization
import Duplex.Proofs.Ending.Late

/-!
What the completion signal hears once the transport's end has been reported. Whoever looks for an
outbound task in vain finalizes the session at once; otherwise that is left to the task, which may be
given up instead of coming to its end. So the session completes exactly if it is brought a result.
-/

namespace Duplex

open History

/-- Somebody means to become the session's outbound task. -/
def Op.enlists : Op → Bool
  | .send | .beginHandler => true
  | _ => false

def Frame.enlists : Frame → Bool
  | .act .attach | .act .attachHandler => true
  | _ => false

def Happening.beginsTask (h : Happening) : Bool := h.op?.any Op.enlists

section

variable {s : Session} {hs : List Happening} {m : Machine}

theorem enlists_eq_of_leads {a : Action} {f : Frame} (leads : Leads a f) : f.enlists = false := by
  cases leads with
  | poll a b _ stage => cases b <;> simp_all [Frame.enlists, Action.ofPoll]
  | _ => rfl

theorem beginsTask_of_enlists (run : Machine.Run ⟨s, []⟩ hs m) (enlisted : ∃ h ∈ hs, h.enlists) :
    ∃ h ∈ hs, h.beginsTask := by
  have balance : hs.countP Happening.enlists + m.agenda.countP Frame.enlists =
      hs.countP Happening.beginsTask := by
    refine run.balance ?_ ?_ ?_
    · intro h op begins
      have none_yet : h.enlists = false := by cases h <;> simp_all [Happening.op?, Happening.enlists]
      have raised : h.beginsTask = op.enlists := by simp [Happening.beginsTask, begins]
      rw [none_yet, raised]
      cases op <;> rfl
    · intro t a
      rw [countP_next t fun f => enlists_eq_of_leads]
      cases a <;> rfl
    · intro w a
      unfold Wait.resume
      split <;> rfl
  have some_enlisted := List.countP_pos_iff.mpr enlisted
  exact List.countP_pos_iff.mp (by omega)

theorem result_cases {h : Happening} {o : Outcome} (result : h.result? = some o) :
    (∃ u, h = .acted u (.conclude o)) ∨ h.op? = some (.endHandler o) ∨
      ∃ u, h = .acted u (.finalizeUnattended o) ∧ u.hasOutboundTask = false := by
  unfold Happening.result? at result
  split at result
  · cases result
    exact .inr (.inl rfl)
  · cases result
    exact .inr (.inl rfl)
  · cases result
    exact .inl ⟨_, rfl⟩
  · split at result
    · simp at result
    · rename_i unattended
      cases result
      exact .inr (.inr ⟨_, rfl, by simpa using unattended⟩)
  · simp at result

theorem finalized_iff (new : s.IsNew) (run : Machine.Run ⟨s, []⟩ hs m)
    (arrived : brought m.agenda = []) : m.session.finalized ↔ results hs ≠ [] := by
  have perm := results_perm run
  rw [arrived, List.append_nil] at perm
  rw [(Settled.run new run).finalized, List.isSome_head?, ne_eq, ne_eq, ← List.length_eq_zero_iff,
    perm.length_eq, List.length_eq_zero_iff]

theorem Settlement.resolved_iff {options : SessionOptions} {first : Option Outcome}
    {frames : Agenda} {k : Completion} {rs : List Outcome} {cs : List CloseStatus}
    (ok : Settlement .waiting options first frames k rs cs)
    (received : ∀ r, .act (.resolve r) ∉ frames) : first.isSome ↔ ∃ o, k = .resolved o := by
  cases ok with
  | open_ => simp
  | resolving r => simp at received
  | settling | closing | done => simp [Completion.after]

theorem brought_of_control (run : Machine.Run ⟨s, []⟩ hs m)
    (control : m.isIdle ∨ m.isYielding ∧ ∀ op, .intruded op ∉ hs) :
    brought m.agenda = [] ∧ ∀ r, .act (.resolve r) ∉ m.agenda := by
  have lagging : ∀ f ∈ m.agenda, Machine.lags f := by
    rcases control with idle | ⟨yielding, alone⟩
    · simp [List.isEmpty_iff.mp idle]
    · exact lags_of_isYielding yielding (Machine.lags_run run alone)
  refine ⟨brought_of_lags lagging, fun r mem => ?_⟩
  simpa [Machine.lags] using lagging _ mem

end

/-- Once a transport callback has returned, the session is finalized and its completion signal
resolved exactly if a result was brought: the send's future has come to its end, a handler has
ended, or a callback found no outbound task and brought its own, as it does if nobody ever was to
become one. Tasks that are all given up leave the signal waiting. -/
theorem resolved_after_transport_end {s t : Session} {m n k : Machine} {hs w v : List Happening}
    {h : Happening} {op : Op} (new : s.IsNew) (before : Machine.Run ⟨s, []⟩ hs m)
    (call : Machine.Step m h n) (begins : h.op? = some op) (ends : op.isTransportEnd)
    (during : Machine.Run n w ⟨t, m.agenda⟩) (after : Machine.Run ⟨t, m.agenda⟩ v k) :
    ((∀ g ∈ hs ++ h :: w ++ v, g.beginsTask = false) → results (hs ++ h :: w ++ v) ≠ []) ∧
    (∀ u o, .acted u (.reply (.polled (some o))) ∈ hs ++ h :: w ++ v →
      o ∈ results (hs ++ h :: w ++ v)) ∧
    (∀ g ∈ hs ++ h :: w ++ v, ∀ o, g.op? = some (.endHandler o) →
      o ∈ results (hs ++ h :: w ++ v)) ∧
    (∀ o ∈ results (hs ++ h :: w ++ v), (∃ u, .acted u (.conclude o) ∈ hs ++ h :: w ++ v) ∨
      (∃ g ∈ hs ++ h :: w ++ v, g.op? = some (.endHandler o)) ∨
      ∃ u, .acted u (.finalizeUnattended o) ∈ hs ++ h :: w ++ v ∧ u.hasOutboundTask = false) ∧
    (k.isIdle ∨ k.isYielding ∧ (∀ p, .intruded p ∉ hs ++ h :: w ++ v) →
      (k.session.finalized ↔ results (hs ++ h :: w ++ v) ≠ []) ∧
      (s.completion = .waiting →
        (k.session.finalized ↔ ∃ o, k.session.completion = .resolved o))) := by
  obtain rfl := step_start call begins
  have returned : Machine.Run ⟨s, []⟩ (hs ++ h :: w) ⟨t, m.agenda⟩ :=
    before.append (during.cons call)
  have attachment := (Attachment.run new before).step call
  have past := (over_on_return attachment ends during).run (attachment.after during) after
  have run := returned.append after
  generalize hs ++ h :: w ++ v = all at run
  refine ⟨fun unbegun none => ?_, fun u o mem => ?_, fun g mem o ended => ?_, fun o mem => ?_,
    fun control => ?_⟩
  · have perm := results_perm run
    rw [none] at perm
    have unreached := (List.append_eq_nil_iff.mp perm.eq_nil).1
    have unfinal : k.session.finalized = false := by
      rw [(Settled.run new run).finalized, unreached]
      rfl
    -- Nothing was finalized, so the callback found somebody to leave that to.
    have tasked : k.session.hasOutboundTask := past.answered.resolve_right (by simp [unfinal])
    obtain ⟨g, mem, begun⟩ := beginsTask_of_enlists run ((tasked_iff new run).mp tasked)
    simp [unbegun g mem] at begun
  · obtain ⟨pre, post, rest, rfl, earlier⟩ := run.before_action mem
    obtain ⟨x, concluded⟩ := concluded_before earlier
    exact List.mem_filterMap.mpr ⟨_, List.mem_append_left _ concluded, rfl⟩
  · refine List.mem_filterMap.mpr ⟨g, mem, ?_⟩
    cases g <;> simp [Happening.op?] at ended <;> subst ended <;> rfl
  · obtain ⟨g, mem, result⟩ := List.mem_filterMap.mp mem
    rcases result_cases result with ⟨u, rfl⟩ | ended | ⟨u, rfl, unattended⟩
    · exact .inl ⟨u, mem⟩
    · exact .inr (.inl ⟨g, mem, ended⟩)
    · exact .inr (.inr ⟨u, mem, unattended⟩)
  · obtain ⟨arrived, received⟩ := brought_of_control run control
    refine ⟨finalized_iff new run arrived, fun waiting => ?_⟩
    obtain ⟨course, finalized, -⟩ := Settled.run new run
    rw [finalized]
    rw [waiting] at course
    exact course.resolved_iff fun r mem => received r ((List.mem_filter.mp mem).1)

def givingUp : List Machine.Cue :=
  [.start .send, .perform, .perform, .perform, .start .abandon, .perform, .perform]

theorem resolved_after_transport_end_handled :
    let s := Session.sample true {}
    let op := Op.transportClose .normal
    let r := Machine.play ⟨s, []⟩
      (.start .beginHandler :: .perform :: .perform :: givingUp)
    let d := (r.2.start op).play (List.replicate 7 .perform)
    let l := Machine.play ⟨d.2.session, r.2.agenda⟩
      [.start (.endHandler .success), .perform, .perform, .perform, .perform, .perform]
    s.IsNew ∧ s.completion = .waiting ∧ d.2.agenda = r.2.agenda ∧
      d.2.session.finalized = false ∧ l.2.isIdle ∧ l.2.session.finalized ∧
      ∃ o, l.2.session.completion = .resolved o := by
  intro s op r d l
  have new : s.IsNew := Session.isNew_sample true rfl
  have before : Machine.Run ⟨s, []⟩ r.1 r.2 := Machine.run_play _ _
  have call : Machine.Step r.2 (.began op) (r.2.start op) := .began (by decide +kernel) rfl
  have returns : d.2.agenda = r.2.agenda := by decide +kernel
  have during : Machine.Run (r.2.start op) d.1 ⟨d.2.session, r.2.agenda⟩ :=
    Machine.run_play_to returns
  have after : Machine.Run ⟨d.2.session, r.2.agenda⟩ l.1 l.2 := Machine.run_play _ _
  have idle : l.2.isIdle := by decide +kernel
  have ended : .began (.endHandler .success) ∈ r.1 ++ .began op :: d.1 ++ l.1 := by decide +kernel
  obtain ⟨-, -, handled, -, rests⟩ :=
    resolved_after_transport_end new before call rfl rfl during after
  obtain ⟨finalized, resolved⟩ := rests (.inl idle)
  have final := finalized.mpr (List.ne_nil_of_mem (handled _ ended .success rfl))
  exact ⟨new, rfl, returns, by decide +kernel, idle, final, (resolved rfl).mp final⟩

/-- A send was given up before the transport closed: nobody is left to bring a result, and the
completion signal is still waiting. -/
theorem resolved_after_transport_end_forsaken :
    ¬ ∀ (s : Session) (hs : List Happening) (m : Machine), s.IsNew → s.completion = .waiting →
      Machine.Run ⟨s, []⟩ hs m → m.isIdle →
      (∃ h ∈ hs, ∃ op, h.op? = some op ∧ op.isTransportEnd) → m.session.writer = none →
      (∀ h ∈ hs, h.op? ≠ some .beginHandler) →
      m.session.finalized ∧ ∃ o, m.session.completion = .resolved o := by
  intro always
  let r := Machine.play ⟨Session.sample true {}, []⟩
    (givingUp ++ .start (.transportClose .normal) :: List.replicate 7 .perform)
  have ended : .began (.transportClose .normal) ∈ r.1 := by decide +kernel
  obtain ⟨final, -⟩ := always (.sample true {}) r.1 r.2 (Session.isNew_sample true rfl) rfl
    (Machine.run_play _ _) (by decide +kernel) ⟨_, ended, _, rfl, rfl⟩ (by decide +kernel)
    (by decide +kernel)
  have unfinal : r.2.session.finalized = false := by decide +kernel
  exact absurd final (by rw [unfinal]; decide)

end Duplex

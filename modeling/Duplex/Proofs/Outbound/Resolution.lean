import Duplex.Proofs.Outbound.Course
import Duplex.Proofs.Outbound.Heard

/-!
What the attached send resolves with: the first end that the transport reported before the send
finished, else the refusal of the last write, else success, and then everything that the source had
to give was written and accepted.
-/

namespace Duplex

open History

theorem ready_run {m n : Machine} {hs : List Happening} (run : Machine.Run m hs n)
    (unlowered : ∀ h ∈ hs, h.lowers = false) (ready : m.session.readiness.ready) :
    n.session.readiness.ready := by
  induction run with
  | nil => exact ready
  | snoc run step ih =>
    have before := ih fun h mem => unlowered h (by simp [mem])
    cases step using Machine.Step.kinds with
    | began | intruded | answered => exact before
    | acted s a rest =>
      by_cases sets : ∃ ready, a = .setReady ready
      · obtain ⟨ready, rfl⟩ := sets
        cases ready with
        | true => rfl
        | false => simpa [Happening.lowers] using unlowered (.acted s (.setReady false)) (by simp)
      · rw [(changes_perform s a).ready_eq fun ready same => sets ⟨ready, same⟩]
        exact before

theorem unasked_after_report {s v : Session} {m : Machine} {a b : List Happening} (new : s.IsNew)
    (run : Machine.Run ⟨s, []⟩ (a ++ .acted v .openWriter :: b) m) (reported : recorded a ≠ []) :
    written (a ++ .acted v .openWriter :: b) = [] ∧
      ∀ h ∈ a ++ .acted v .openWriter :: b, h.pulls = false := by
  obtain ⟨n, n', before, step, after⟩ := run.split
  have attachment := Attachment.run new before
  have later := after.cons step
  have kept := transportOutcome_eq new before
  cases step
  rename_i rest _ _
  have unattached : v.control = none := attachment.opens.1
  obtain ⟨-, unpolled, others⟩ := attachment.untouched unattached
  have halted : v.IsHalted := by
    refine ⟨?_, by simp [unattached]⟩
    rw [show v.transportOutcome = _ from kept, Option.isSome_iff_ne_none]
    simpa using reported
  have heeds : heedless (.act .openWriter :: rest) = 0 := by
    have few := heedless_le_polls (.act .openWriter :: rest)
    rw [unpolled] at few
    simpa using few
  obtain ⟨unwritten, unasked⟩ := halted_idle attachment halted later heeds
  constructor
  · have nothing : written a = [] := by
      simpa [ledger] using congrArg Ledger.written (ledger_others others)
    rw [written_append, nothing, unwritten]
    rfl
  · refine List.forall_mem_append.mpr ⟨fun h mem => ?_, unasked⟩
    by_contra pulls
    obtain ⟨t, w, rfl, -⟩ := pulls_cases (by simpa using pulls)
    have other := others _ mem
    simp [Happening.ofPoll, Action.ofPoll] at other

theorem recorded_of_disturbed {hs : List Happening} (disturbed : Disturbed hs) :
    recorded hs ≠ [] := by
  obtain ⟨pre, t, r, op, post, rfl⟩ := disturbed
  simp [recorded, Happening.recorded?]

/-- Everything that the source had to give has been written and accepted. -/
structure Delivered (hs : List Happening) : Prop where
  exhausted : hs.any Happening.exhausts
  complete : written hs = yielded hs
  answered : (answers hs).length = (written hs).length
  accepted : ∀ a ∈ answers hs, a.refusal? = none

theorem course_at_finish {s t : Session} {hs : List Happening} {p : Outcome} {rest : Agenda}
    (new : s.IsNew) (run : Machine.Run ⟨s, []⟩ hs ⟨t, .act (.finish p) :: rest⟩)
    (unfinished : ∀ h ∈ hs, h.finishes = false) (undecided : t.outcome? = none) :
    (p = .success ∧ Delivered hs) ∨
      ∃ before a f, p = .failure f ∧ answers hs = before ++ [a] ∧ a.refusal? = some f := by
  have busy := polls_eq_of_mem (f := .act (.finish p)) (single_run run) rfl (by simp)
  have course := Course.run new run unfinished
  rw [busy] at course
  cases course with
  | calm calm => simp [isCalm] at calm
  | finishing _ answered ends =>
    rcases ends with stands | ends
    · simp [undecided] at stands
    · cases ends with
      | drained exhausted even accepted => exact .inl ⟨rfl, exhausted, even, answered, accepted⟩
      | refused before a f last refusal => exact .inr ⟨before, a, f, rfl, last, refusal⟩

/-- A future that resolves tells the first end that the transport reported before the send finished;
without one, the refusal of the last write; and else success, with all that the source had to give
delivered and the flag raised when the send finished. The source is gone by then, and was left alone
if it came after the transport's end. Where another thread is named, it came between two actions
that are otherwise done together. -/
theorem send_result {s u : Session} {o : Outcome} {pre post : List Happening} {m : Machine}
    (new : s.IsNew)
    (run : Machine.Run ⟨s, []⟩ (pre ++ .acted u (.reply (.polled (some o))) :: post) m)
    (apart : Unnested pre) :
    (∃ before t p since, pre = before ++ .acted t (.finish p) :: since ∧
      (∀ h ∈ since, h.ofPoll = false) ∧
      (∀ q, (recorded before).head? = some q →
        (∃ h ∈ before, h.op?.bind Op.report? = some q) ∧ (o = q ∨ Disturbed before)) ∧
      (recorded before = [] → ∀ a f, (answers before).getLast? = some a → a.refusal? = some f →
        o = .failure f) ∧
      (recorded before = [] → (∀ a, (answers before).getLast? = some a → a.refusal? = none) →
        o = .success ∧ Delivered before ∧
        (∃ earlier g later, before = earlier ++ g :: later ∧ g.checks ∧
          (t.readiness.ready ∨ ∃ op, .intruded op ∈ later)) ∧
        (t.readiness.ready → (∀ h ∈ since, h.lowers = false) → u.readiness.ready)) ∧
      drops (before ++ [.acted t (.finish p)]) = 1) ∧
    ∀ a v b, pre ++ .acted u (.reply (.polled (some o))) :: post = a ++ .acted v .openWriter :: b →
      recorded a ≠ [] →
        written (a ++ .acted v .openWriter :: b) = [] ∧
          ∀ h ∈ a ++ .acted v .openWriter :: b, h.pulls = false := by
  refine ⟨?_, fun a v b split reported => unasked_after_report new (split ▸ run) reported⟩
  obtain ⟨k, k', resolving, step, -⟩ := run.split
  cases step
  have stage := polls_eq_of_mem (f := .act (.reply (.polled (some o)))) (single_run resolving) rfl
    (by simp)
  obtain ⟨before, t, p, rest, since, rfl, finish, settled, others⟩ := finish_before resolving stage
  have busy := polls_eq_of_mem (f := .act (.finish p)) (single_run finish) rfl (by simp)
  have unfinished := unfinished_before new finish busy
  have agrees (undisturbed : ¬ Disturbed before) : t.outcome? = (recorded before).head? :=
    outcome_at_finish new finish apart.before undisturbed unfinished
  have undecided (unreported : recorded before = []) : t.outcome? = none := by
    rw [agrees fun disturbed => recorded_of_disturbed disturbed unreported, unreported]
    rfl
  refine ⟨before, t, p, since, rfl, others, fun q first => ?_, fun unreported a f last refusal => ?_,
    fun unreported accepted => ?_, ?_⟩
  · refine ⟨report_of_recorded finish (List.mem_of_mem_head? first), ?_⟩
    by_cases disturbed : Disturbed before
    · exact .inr disturbed
    · left
      rw [settled, agrees disturbed, first]
      rfl
  · have own : o = p := by simpa [undecided unreported] using settled
    rcases course_at_finish new finish unfinished (undecided unreported) with
      ⟨rfl, delivered⟩ | ⟨_, b, g, rfl, split, refusal_last⟩
    · simp [delivered.accepted a (List.mem_of_getLast? last)] at refusal
    · obtain rfl : b = a := by simpa [split] using last
      obtain rfl : g = f := by simpa [refusal_last] using refusal
      exact own
  · have own : o = p := by simpa [undecided unreported] using settled
    rcases course_at_finish new finish unfinished (undecided unreported) with
      ⟨rfl, delivered⟩ | ⟨_, b, g, rfl, split, refusal_last⟩
    · refine ⟨own, delivered, ?_, ?_⟩
      · obtain ⟨earlier, g, later, split, checks, here⟩ :=
          Cleared.run new finish busy (undecided unreported)
        exact ⟨earlier, g, later, split, checks, here.imp_left And.left⟩
      · intro ready unlowered
        obtain ⟨n, n', -, finishing, waiting⟩ := resolving.split
        refine ready_run waiting unlowered ?_
        cases finishing using Machine.Step.kinds with
        | acted =>
          rw [(changes_perform t _).ready_eq (by simp)]
          exact ready
    · simp [accepted b (by simp [split])] at refusal_last
  · have held := source_run new (finish.snoc (.act t (.finish p) rest))
    simpa [Action.perform, Session.finish, Session.hasSource] using held

def contradicted (x : Message) (e : Fault) : List Machine.Cue :=
  [.start .send, .perform, .perform, .perform, .start (.poll 7), .perform, .perform, .perform,
    .perform, .answer (.item x), .perform, .perform, .perform, .start (.transportError e), .perform,
    .perform, .perform, .perform, .answer .done, .perform, .perform, .answer (.written false),
    .perform, .perform, .perform, .perform, .perform, .perform, .perform, .answer .done]

theorem send_result_contradicted :
    let e := Fault.transport "reset"
    let s := Session.sample true {}
    let r := Machine.play ⟨s, []⟩ (contradicted (.binary [1]) e)
    let h := Happening.acted r.2.session (.reply (.polled (some (.failure e))))
    s.IsNew ∧ Machine.Run ⟨s, []⟩ (r.1 ++ [h]) ⟨r.2.session, []⟩ ∧ Unnested r.1 ∧
      recorded r.1 = [.failure e] ∧ answers r.1 = [.written false] ∧
      ∃ before t p since, r.1 = before ++ .acted t (.finish p) :: since ∧
        drops (before ++ [.acted t (.finish p)]) = 1 := by
  intro e s r h
  have new : s.IsNew := Session.isNew_sample true rfl
  have resolving :
      Machine.Run ⟨s, []⟩ r.1 ⟨r.2.session, [.act (.reply (.polled (some (.failure e))))]⟩ :=
    Machine.run_play_to (by decide +kernel)
  have run : Machine.Run ⟨s, []⟩ (r.1 ++ [h]) ⟨r.2.session, []⟩ := resolving.replied
  have apart : Unnested r.1 := by
    unfold Unnested
    decide +kernel
  obtain ⟨⟨before, t, p, since, split, -, -, -, -, dropped⟩, -⟩ := send_result new run apart
  exact ⟨new, run, apart, by decide +kernel, by decide +kernel, before, t, p, since, split, dropped⟩

def lowering : List Machine.Cue :=
  [.start .send, .perform, .perform, .perform, .start (.poll 7), .perform, .perform, .perform,
    .perform, .answer .ended, .perform, .perform, .perform, .perform, .perform, .perform, .perform,
    .perform, .perform, .start (.setReady false), .perform, .perform, .answer .done]

/-- The flag can be lowered again between the step in which the send finishes and the return of its
future: the session closes the connection in between. -/
theorem send_result_lowered :
    ¬ ∀ (s u : Session) (pre : List Happening) (m : Machine), s.IsNew →
      Machine.Run ⟨s, []⟩ (pre ++ [.acted u (.reply (.polled (some .success)))]) m →
      Unnested pre → recorded pre = [] → u.readiness.ready := by
  intro always
  let s := Session.sample true {}
  let r := Machine.play ⟨s, []⟩ lowering
  have resolving : Machine.Run ⟨s, []⟩ r.1 ⟨r.2.session, [.act (.reply (.polled (some .success)))]⟩ :=
    Machine.run_play_to (by decide +kernel)
  have apart : Unnested r.1 := by
    unfold Unnested
    decide +kernel
  have ready := always s r.2.session r.1 _ (Session.isNew_sample true rfl)
    resolving.replied apart (by decide +kernel)
  have lowered : r.2.session.readiness.ready = false := by decide +kernel
  simp [lowered] at ready

end Duplex

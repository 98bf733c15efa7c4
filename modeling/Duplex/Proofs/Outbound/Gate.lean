import Duplex.Proofs.Outbound.Order

/-!
Readiness gates every write: the step of the poll before it saw the flag raised. With a transport
that lowers the flag in every write and raises it only when a write has completed, one write at
most is in flight.
-/

namespace Duplex

open History

namespace Happening

def checks : Happening → Bool
  | .acted s .gate | .acted s .recheck => s.readiness.ready
  | _ => false

def raises : Happening → Bool
  | .acted _ (.setReady true) => true
  | _ => false

def lowers : Happening → Bool
  | .acted _ (.setReady false) => true
  | _ => false

def returns : Happening → Bool
  | .answered (.writing _) _ => true
  | _ => false

end Happening

namespace History

def raises (hs : List Happening) : Nat := hs.countP Happening.raises

def lowered (hs : List Happening) : Bool :=
  hs.foldl (fun before h => h.written? = none && (before || h.lowers)) false

theorem raises_snoc (hs : List Happening) (h : Happening) :
    raises (hs ++ [h]) = raises hs + if h.raises then 1 else 0 := by
  simp [raises, List.countP_append, List.countP_cons]

theorem lowered_snoc (hs : List Happening) (h : Happening) :
    lowered (hs ++ [h]) = (h.written? = none && (lowered hs || h.lowers)) := by
  simp [lowered, List.foldl_append]

end History

theorem ready_of_emits {s : Session} {a : Action} (emits : polls (a.perform s).next = [.act .emit]) :
    (a = .gate ∨ a = .recheck) ∧ s.readiness.ready ∧ (a.perform s).next = [.act .emit] := by
  cases own : a.ofPoll with
  | false => simp [polls_next_other s own] at emits
  | true =>
    have step := pollStep_perform s own
    generalize (a.perform s).session = t, (a.perform s).next = next at step emits ⊢
    cases step with
    | passes looks here proceeds =>
      rw [Writer.canProceed, Bool.and_eq_true] at proceeds
      exact ⟨looks, proceeds.1, rfl⟩
    | _ => simp [Action.ofPoll, Wait.ofPoll] at emits

theorem polls_resume_ne_emit (w : Wait) (a : Answer) :
    polls ((w.resume a).map .act) ≠ [.act .emit] := by
  unfold Wait.resume
  split <;> simp [Action.ofPoll]

/-- A poll that is about to emit has seen the flag raised in its last step, and the flag is still
raised unless another thread came in right after that. -/
def Gated (hs : List Happening) (m : Machine) : Prop :=
  polls m.agenda = [.act .emit] →
    ∃ before g since, hs = before ++ g :: since ∧ g.checks ∧ (∀ k ∈ since, k.ofPoll = false) ∧
      ((since = [] ∧ m.session.readiness.ready ∧ m.agenda.head? = some (.act .emit)) ∨
        ∃ op, since.head? = some (.intruded op))

theorem intruded_of_overtakes {m n : Machine} {h : Happening} {a : Action} (step : Machine.Step m h n)
    (other : h.ofPoll = false) (own : a.ofPoll) (next : m.agenda.head? = some (.act a)) :
    ∃ op, h = .intruded op := by
  cases step using Machine.Step.kinds with
  | began m op control =>
    rcases m with ⟨s, _ | ⟨f, rest⟩⟩
    · simp at next
    · obtain rfl : f = .act a := by simpa using next
      simp [Machine.isYielding, Machine.isIdle, Machine.call?] at control
  | intruded m op => exact ⟨op, rfl⟩
  | acted s b rest =>
    obtain rfl : b = a := by simpa using next
    simp [Happening.ofPoll, own] at other
  | answered s w rest a => simp at next

theorem Gated.aside {hs : List Happening} {m n : Machine} {h : Happening} (ok : Gated hs m)
    (step : Machine.Step m h n) (other : h.ofPoll = false)
    (same : polls n.agenda = polls m.agenda) : Gated (hs ++ [h]) n := by
  intro emits
  obtain ⟨before, g, since, rfl, checks, apart, here⟩ := ok (same ▸ emits)
  refine ⟨before, g, since ++ [h], by simp, checks, forall_mem_snoc apart other, .inr ?_⟩
  rcases here with ⟨rfl, -, next⟩ | ⟨op, first⟩
  · obtain ⟨op, rfl⟩ := intruded_of_overtakes step other rfl next
    exact ⟨op, rfl⟩
  · exact ⟨op, by simp [List.head?_append, first]⟩

theorem Gated.step {hs : List Happening} {m n : Machine} {h : Happening}
    (single : (polls m.agenda).length ≤ 1) (ok : Gated hs m) (step : Machine.Step m h n) :
    Gated (hs ++ [h]) n := by
  cases polled_of_step step single with
  | aside other same => exact ok.aside step other same
  | starts v op idle begun => simp [Gated, begun]
  | acts s a eq own here stage after next =>
    intro emit
    obtain ⟨check, ready, only⟩ := ready_of_emits (next ▸ emit)
    subst eq
    have unset : ∀ ready, a ≠ .setReady ready := by
      intro ready sets
      simp [sets] at check
    refine ⟨hs, _, [], rfl, ?_, by simp, .inl ⟨rfl, ?_, ?_⟩⟩
    · rcases check with rfl | rfl <;> exact ready
    · rw [after, (changes_perform s a).ready_eq unset]
      exact ready
    · cases step using Machine.Step.kinds with
      | acted s a rest => simp [only]
  | hears w a eq own stage same next => simp [Gated, next, polls_resume_ne_emit]

theorem Gated.run {s : Session} {hs : List Happening} {m : Machine}
    (run : Machine.Run ⟨s, []⟩ hs m) : Gated hs m := by
  induction run with
  | nil => simp [Gated]
  | snoc run step ih => exact ih.step (single_run run) step

/-- The transport lowers readiness in every write and raises it only when one of the writes begun
so far has completed. -/
structure Asynchronous (hs : List Happening) : Prop where
  lowers : ∀ k (inside : k < hs.length), hs[k].returns → lowered (hs.take k)
  raises : ∀ k (inside : k < hs.length), hs[k].raises →
    raises (hs.take k) < (written (hs.take k)).length

theorem Asynchronous.before {hs : List Happening} {h : Happening}
    (paced : Asynchronous (hs ++ [h])) : Asynchronous hs := by
  constructor
  · intro k inside returns
    have here := paced.lowers k (by simp; omega)
    rw [List.getElem_append_left inside, List.take_append_of_le_length (Nat.le_of_lt inside)] at here
    exact here returns
  · intro k inside raises
    have here := paced.raises k (by simp; omega)
    rw [List.getElem_append_left inside, List.take_append_of_le_length (Nat.le_of_lt inside)] at here
    exact here raises

def Happening.IsPaced (hs : List Happening) (h : Happening) : Prop :=
  (h.returns → lowered hs) ∧ (h.raises → History.raises hs < (written hs).length)

theorem Asynchronous.last {hs : List Happening} {h : Happening}
    (paced : Asynchronous (hs ++ [h])) : h.IsPaced hs := by
  unfold Happening.IsPaced
  have lowers := paced.lowers hs.length (by simp)
  have raises := paced.raises hs.length (by simp)
  simp only [List.getElem_concat_length, List.take_left'] at lowers raises
  exact ⟨lowers, raises⟩

structure Flight (hs : List Happening) (m : Machine) : Prop where
  begun : raises hs ≤ (written hs).length
  single : (written hs).length ≤ raises hs + 1
  closed : raises hs < (written hs).length → m.session.readiness.ready = false ∨
    (lowered hs = false ∧ ∃ x, polls m.agenda = [.wait (.writing x)])
  clear : polls m.agenda = [.act .emit] → raises hs = (written hs).length

theorem Flight.raise {hs : List Happening} {m n : Machine} {s : Session} (ok : Flight hs m)
    (paced : (Happening.acted s (.setReady true)).IsPaced hs) :
    Flight (hs ++ [.acted s (.setReady true)]) n := by
  have room := paced.2 rfl
  have single := ok.single
  have raised : raises (hs ++ [.acted s (.setReady true)]) = raises hs + 1 := raises_snoc _ _
  have written_eq : written (hs ++ [.acted s (.setReady true)]) = written hs := by
    have silent := Happening.IsSilent.acted s (a := .setReady true) (by simp) (by simp)
    simp [written_snoc, silent.written]
  constructor <;> rw [raised, written_eq] <;> omega

theorem Flight.write {hs : List Happening} {m n : Machine} {h : Happening} {x : Message}
    (ok : Flight hs m) (stage : polls m.agenda = [.act .emit])
    (next : polls n.agenda = [.wait (.writing x)]) (written_eq : h.written? = some x)
    (unraised : h.raises = false) : Flight (hs ++ [h]) n := by
  have clear := ok.clear stage
  have raised : raises (hs ++ [h]) = raises hs := by simp [raises_snoc, unraised]
  have length : (written (hs ++ [h])).length = (written hs).length + 1 := by
    simp [written_snoc, written_eq]
  refine ⟨?_, ?_, fun _ => .inr ⟨by simp [lowered_snoc, written_eq], x, next⟩, by simp [next]⟩
  · rw [raised]
    omega
  · rw [raised]
    omega

theorem Flight.quiet {hs : List Happening} {m n : Machine} {h : Happening} (ok : Flight hs m)
    (unraised : h.raises = false) (unwritten : h.written? = none)
    (closed : m.session.readiness.ready = false → n.session.readiness.ready = false)
    (writing : lowered hs = false → ∀ x, polls m.agenda = [.wait (.writing x)] →
      n.session.readiness.ready = false ∨
        (lowered (hs ++ [h]) = false ∧ polls n.agenda = [.wait (.writing x)]))
    (clear : polls n.agenda = [.act .emit] → raises hs = (written hs).length) :
    Flight (hs ++ [h]) n := by
  have raised : raises (hs ++ [h]) = raises hs := by simp [raises_snoc, unraised]
  have written_eq : written (hs ++ [h]) = written hs := by simp [written_snoc, unwritten]
  refine ⟨?_, ?_, ?_, ?_⟩ <;> rw [raised, written_eq]
  · exact ok.begun
  · exact ok.single
  · intro behind
    rcases ok.closed behind with down | ⟨unlowered, x, stage⟩
    · exact .inl (closed down)
    · rcases writing unlowered x stage with down | ⟨still, same⟩
      · exact .inl down
      · exact .inr ⟨still, x, same⟩
  · exact clear

theorem Flight.aside {hs : List Happening} {m n : Machine} {h : Happening} (ok : Flight hs m)
    (step : Machine.Step m h n) (paced : h.IsPaced hs) (other : h.ofPoll = false)
    (same : polls n.agenda = polls m.agenda) : Flight (hs ++ [h]) n := by
  have unwritten := (Happening.IsSilent.of_other other).written
  have clear (emits : polls n.agenda = [.act .emit]) := ok.clear (same ▸ emits)
  have calm (unlowers : h.lowers = false) (down : lowered hs = false) :
      lowered (hs ++ [h]) = false := by
    simp [lowered_snoc, down, unlowers]
  cases step using Machine.Step.kinds with
  | began | intruded | answered =>
    exact ok.quiet rfl unwritten id
      (fun down x stage => .inr ⟨calm rfl down, same.trans stage⟩) clear
  | acted s a rest =>
    by_cases sets : ∃ ready, a = .setReady ready
    · obtain ⟨ready, rfl⟩ := sets
      cases ready with
      | true => exact ok.raise paced
      | false => exact ok.quiet rfl unwritten (fun _ => rfl) (fun _ _ _ => .inl rfl) clear
    · have unset : ∀ ready, a ≠ .setReady ready := fun ready eq => sets ⟨ready, eq⟩
      have unraised : (Happening.acted s a).raises = false := by
        unfold Happening.raises
        split <;> simp_all
      have unlowers : (Happening.acted s a).lowers = false := by
        unfold Happening.lowers
        split <;> simp_all
      refine ok.quiet unraised unwritten ?_
        (fun down x stage => .inr ⟨calm unlowers down, same.trans stage⟩) clear
      rw [(changes_perform s a).ready_eq unset]
      exact id

theorem Flight.acts {hs : List Happening} {m n : Machine} {s : Session} {a : Action}
    (ok : Flight hs m) (own : a.ofPoll) (here : m.session = s) (stage : polls m.agenda = [.act a])
    (after : n.session = (a.perform s).session)
    (next : polls n.agenda = polls (a.perform s).next) : Flight (hs ++ [.acted s a]) n := by
  have unset : ∀ ready, a ≠ .setReady ready := by
    intro ready sets
    simp [sets, Action.ofPoll] at own
  have unraised : (Happening.acted s a).raises = false := by
    unfold Happening.raises
    split <;> simp_all
  cases written : (Happening.acted s a).written? with
  | some x =>
    obtain ⟨t, w, eq, attached, held, undrained⟩ := written_cases written
    cases eq
    refine ok.write stage ?_ written unraised
    simp [next, Action.perform, Session.withWriter, attached, held, undrained, Wait.ofPoll]
  | none =>
    refine ok.quiet unraised written ?_ (by simp [stage]) fun emit => ?_
    · rw [here, after, (changes_perform s a).ready_eq unset]
      exact id
    · -- The flag was seen raised, so no write can be in flight.
      obtain ⟨-, ready, -⟩ := ready_of_emits (next ▸ emit)
      by_contra behind
      have begun := ok.begun
      rcases ok.closed (by omega) with down | ⟨-, x, writing⟩
      · rw [here] at down
        simp [ready] at down
      · simp [stage] at writing

theorem Flight.step {hs : List Happening} {m n : Machine} {h : Happening}
    (single : (polls m.agenda).length ≤ 1) (ok : Flight hs m) (step : Machine.Step m h n)
    (paced : h.IsPaced hs) : Flight (hs ++ [h]) n := by
  cases polled_of_step step single with
  | aside other same => exact ok.aside step paced other same
  | starts v op idle begun attached same =>
    refine ok.quiet ?_ ?_ (by rw [same]; exact id) (by simp [idle]) (by simp [begun])
    · rcases op with rfl | rfl <;> rfl
    · rcases op with rfl | rfl <;> rfl
  | acts s a eq own here stage after next =>
    rw [eq]
    exact ok.acts own here stage after next
  | hears w a eq own stage same next =>
    subst eq
    refine ok.quiet rfl rfl ?_ (fun unlowered x writing => ?_)
      (by simp [next, polls_resume_ne_emit])
    · rw [same]
      exact id
    · obtain rfl : w = .writing x := by simpa [stage] using writing
      simp [paced.1 rfl] at unlowered

theorem Flight.perm {hs : List Happening} {s : Session} {a b : Agenda} (ok : Flight hs ⟨s, a⟩)
    (mixed : a.Perm b) (single : (polls a).length ≤ 1) : Flight hs ⟨s, b⟩ := by
  have same := polls_perm mixed single
  refine ⟨ok.begun, ok.single, ?_, ?_⟩ <;> dsimp only <;> rw [same]
  · exact ok.closed
  · exact ok.clear

theorem Flight.run {s : Session} {hs : List Happening} {m : Machine}
    (run : Machine.Run ⟨s, []⟩ hs m) (paced : Asynchronous hs) : Flight hs m := by
  induction run with
  | nil => exact ⟨by simp [raises], by simp [written], by simp [raises, written], by simp⟩
  | snoc run step ih => exact (ih paced.before).step (single_run run) step paced.last

/-- Messages are written in the order in which they were yielded, one message behind at most, and
the source is asked only while there is nothing left to write. A write begins with the flag raised:
the poll's step before it saw so, and only another thread, right after that step, can have come
between. -/
theorem outbound_order {s : Session} {hs : List Happening} {m : Machine} (new : s.IsNew)
    (run : Machine.Run ⟨s, []⟩ hs m) :
    written hs <+: yielded hs ∧ (yielded hs).length ≤ (written hs).length + 1 ∧
    (∀ pre h post, hs = pre ++ h :: post → h.pulls →
      yielded pre = written pre ∧ (∀ g ∈ pre, g.exhausts = false) ∧
        ∀ g ∈ pre, g.resolution? = none) ∧
    (∀ pre t a post, hs = pre ++ .acted t a :: post → (Happening.acted t a).written?.isSome →
      ∃ before g since, pre = before ++ g :: since ∧ g.checks ∧ (∀ k ∈ since, k.ofPoll = false) ∧
        (t.readiness.ready ∨ ∃ op, since.head? = some (.intruded op))) ∧
    (Asynchronous hs → raises hs ≤ (written hs).length ∧ (written hs).length ≤ raises hs + 1) := by
  have ok := Ordered.run new run
  refine ⟨ok.order, ok.ahead, ?_, ?_, fun paced => ?_⟩
  · intro pre h post split pulls
    subst split
    obtain ⟨n, n', before, step, -⟩ := run.split
    obtain ⟨even, unexhausted, unresolved⟩ :=
      (Ordered.run new before).asks (single_run before) step pulls
    exact ⟨even, by simpa [ledger] using unexhausted, by simpa [ledger] using unresolved⟩
  · intro pre t a post split writes
    subst split
    obtain ⟨x, written⟩ := Option.isSome_iff_exists.mp writes
    obtain ⟨u, w, eq, -⟩ := written_cases written
    cases eq
    obtain ⟨n, n', before, step, -⟩ := run.split
    cases polled_of_step step (single_run before) with
    | aside other => simp [Happening.ofPoll, Action.ofPoll] at other
    | starts v op => simp at op
    | hears v b eq => simp at eq
    | acts u b eq own here stage =>
      cases eq
      obtain ⟨earlier, g, since, split, checks, apart, last⟩ := Gated.run before stage
      refine ⟨earlier, g, since, split, checks, apart, ?_⟩
      rcases last with ⟨-, ready, -⟩ | intruded
      · exact .inl (here ▸ ready)
      · exact .inr intruded
  · have flight := Flight.run run paced
    exact ⟨flight.begun, flight.single⟩

/-- The transport lowers readiness in the first write; the second message is pulled and held until
that write has completed. -/
theorem outbound_order_asynchronous :
    let a := Message.binary [1]
    let b := Message.binary [2]
    let s := Session.sample true {}
    let poll := [.start (.poll 7), .perform, .perform, .perform, .perform]
    let first := [.answer (.item a), .perform, .perform, .perform, .start (.setReady false),
      .perform, .perform, .answer (.written true), .perform, .perform, .perform, .perform]
    let r := Machine.play ⟨s, []⟩ ([.start .send, .perform, .perform, .perform] ++ poll ++ first ++
      [.answer (.item b), .perform, .perform, .perform, .perform, .perform])
    s.IsNew ∧ Machine.Run ⟨s, []⟩ r.1 r.2 ∧ Asynchronous r.1 ∧ r.2.isIdle ∧
      yielded r.1 = [a, b] ∧ written r.1 = [a] ∧ (written r.1).length ≤ raises r.1 + 1 := by
  intro a b s poll first r
  have new : s.IsNew := Session.isNew_sample true rfl
  have run : Machine.Run ⟨s, []⟩ r.1 r.2 := Machine.run_play _ _
  have paced : Asynchronous r.1 := ⟨by decide +kernel, by decide +kernel⟩
  obtain ⟨-, -, -, -, flight⟩ := outbound_order new run
  exact ⟨new, run, paced, by decide +kernel, by decide +kernel, by decide +kernel, (flight paced).2⟩

end Duplex

import Duplex.Proofs.Outbound.Failure
import Duplex.Proofs.Outbound.Gate

/-!
How the attached send comes to its own end. A poll finishes because an outcome stands, because the
source has ended and everything it yielded was written and accepted, or because the last write was
refused. It finishes once, and what the future resolves with is settled in that step.
-/

namespace Duplex

/-- Why the transport did not take a message. An answer that says nothing about it counts as
consent. -/
def Answer.refusal? : Answer → Option Fault
  | .written false => some .writeRejected
  | .failed e => some e
  | _ => none

def Happening.writeAnswer? : Happening → Option Answer
  | .answered (.writing _) a => some a
  | _ => none

namespace History

def answers (hs : List Happening) : List Answer := hs.filterMap Happening.writeAnswer?

theorem answers_snoc (hs : List Happening) (h : Happening) :
    answers (hs ++ [h]) = answers hs ++ h.writeAnswer?.toList := filterMap_snoc _ hs h

end History

open History

theorem writeAnswer?_of_other {h : Happening} (other : h.ofPoll = false) :
    h.writeAnswer? = none := by
  cases h with
  | answered w a => cases w <;> first | rfl | simp [Happening.ofPoll, Wait.ofPoll] at other
  | _ => rfl

theorem resume_writing (x : Message) (a : Answer) :
    (Wait.writing x).resume a =
      match a.refusal? with
      | some f => [.finish (.failure f)]
      | none => [.release] := by
  cases a with
  | written accepted => cases accepted <;> rfl
  | _ => rfl

section

variable (l : Ledger) (as : List Answer)

inductive Ends : Outcome → Prop
  | drained (exhausted : l.exhausted) (even : l.written = l.yielded)
    (accepted : ∀ a ∈ as, a.refusal? = none) : Ends .success
  | refused (before : List Answer) (a : Answer) (f : Fault) (last : as = before ++ [a])
    (refusal : a.refusal? = some f) : Ends (.failure f)

structure Paced (writer : Option Writer) : Prop where
  accepted : ∀ a ∈ as, a.refusal? = none
  drained : ∀ w, writer = some w → w.drained →
    l.exhausted ∧ l.written = l.yielded ∧ w.current = none

def isCalm : Agenda → Bool
  | .wait _ :: _ | .act (.hold _) :: _ | .act .drain :: _ | .act (.finish _) :: _
  | .act (.reply (.polled (some _))) :: _ => false
  | _ => true

/-- How far a send has come that has not finished. -/
inductive Course (writer : Option Writer) (outcome : Option Outcome) : Agenda → Prop
  | calm {stage : Agenda} (calm : isCalm stage) (answered : as.length = l.written.length)
    (paced : Paced l as writer) : Course writer outcome stage
  | pulling (v : Waker) (answered : as.length = l.written.length) (paced : Paced l as writer)
    (undrained : ∀ w, writer = some w → w.drained = false) :
    Course writer outcome [.wait (.pulling v)]
  | holding (x : Message) (answered : as.length = l.written.length) (paced : Paced l as writer)
    (undrained : ∀ w, writer = some w → w.drained = false) :
    Course writer outcome [.act (.hold x)]
  | draining (answered : as.length = l.written.length) (paced : Paced l as writer)
    (exhausted : l.exhausted) (even : l.written = l.yielded)
    (empty : ∀ w, writer = some w → w.current = none) : Course writer outcome [.act .drain]
  | writing (x : Message) (answered : as.length + 1 = l.written.length)
    (paced : Paced l as writer) : Course writer outcome [.wait (.writing x)]
  | finishing (p : Outcome) (answered : as.length = l.written.length)
    (ends : outcome = some p ∨ Ends l as p) : Course writer outcome [.act (.finish p)]

end

inductive Proceeds (s : Session) (a : Action) : Prop
  | stays (calm : isCalm (polls (a.perform s).next))
    (unwritten : (Happening.acted s a).written? = none)
    (keeps : ∀ w, (a.perform s).session.writer = some w → w.drained →
      ∃ v, s.writer = some v ∧ v.drained ∧ (v.current = none → w.current = none))
  | pulls (v : Waker) (next : polls (a.perform s).next = [.wait (.pulling v)])
    (unwritten : (Happening.acted s a).written? = none)
    (same : (a.perform s).session = s)
    (undrained : ∀ w, s.writer = some w → w.drained = false)
  | writes (x : Message) (next : polls (a.perform s).next = [.wait (.writing x)])
    (written : (Happening.acted s a).written? = some x) (same : (a.perform s).session = s)
    (undrained : ∀ w, s.writer = some w → w.drained = false)
  | ends (p : Outcome) (next : polls (a.perform s).next = [.act (.finish p)])
    (unwritten : (Happening.acted s a).written? = none) (same : (a.perform s).session = s)
    (why : s.outcome? = some p ∨ p = .success ∧ ∃ w, s.writer = some w ∧ w.drained)

theorem proceeds_of_calm {s : Session} {a : Action} (own : a.ofPoll) (calm : isCalm [.act a]) :
    Proceeds s a := by
  have written := written?_acted s a
  have step := pollStep_perform s own
  generalize after : (a.perform s).session = t, frames : (a.perform s).next = next at step written
  have stays (calm : isCalm (polls next)) (unwritten : writing? next = none)
      (keeps : ∀ w, t.writer = some w → w.drained →
        ∃ v, s.writer = some v ∧ v.drained ∧ (v.current = none → w.current = none)) :
      Proceeds s a := .stays (frames ▸ calm) (written.trans unwritten) (after ▸ keeps)
  cases step with
  | decided decided =>
    exact .ends _ (by rw [frames]; rfl) written after (.inl (outcome_control s ▸ decided))
  | ends here drained =>
    exact .ends _ (by rw [frames]; rfl) written after (.inr ⟨rfl, _, here, drained⟩)
  | pulls here empty undrained =>
    exact .pulls _ (by rw [frames]; rfl) written after (by simp [here, undrained])
  | writes here undrained =>
    exact .writes _ (by rw [frames]; rfl) written after (by simp [here, undrained])
  | registers v here | halts here | releases here =>
    refine stays rfl rfl fun w now drained => ⟨_, here, ?_⟩
    obtain rfl := Option.some.inj now
    exact ⟨drained, by simp [Writer.detach]⟩
  | holds | drains | finishes => simp [isCalm] at calm
  | _ => exact stays rfl rfl fun w here drained => ⟨w, here, drained, id⟩

theorem Paced.keeps {l : Ledger} {as : List Answer} {writer next : Option Writer}
    (ok : Paced l as writer)
    (keeps : ∀ w, next = some w → w.drained →
      ∃ v, writer = some v ∧ v.drained ∧ (v.current = none → w.current = none)) :
    Paced l as next := by
  refine ⟨ok.accepted, fun w here drained => ?_⟩
  obtain ⟨v, before, known, empty⟩ := keeps w here drained
  obtain ⟨exhausted, even, nothing⟩ := ok.drained v before known
  exact ⟨exhausted, even, empty nothing⟩

theorem ledger_acted (hs : List Happening) (s : Session) {a : Action}
    (unresolved : ∀ o, a ≠ .reply (.polled (some o))) :
    ledger (hs ++ [.acted s a]) =
      { ledger hs with
        written := (ledger hs).written ++ (Happening.acted s a).written?.toList } := by
  rw [ledger_snoc, Happening.resolution?_acted s unresolved]
  simp [Happening.yielded?, Happening.exhausts]

section

variable {hs : List Happening} {s : Session} {writer : Option Writer} {outcome : Option Outcome}
  {stage : Agenda}

theorem Course.proceed {a : Action} (own : a.ofPoll) (calm : isCalm [.act a])
    (answered : (answers hs).length = (ledger hs).written.length)
    (paced : Paced (ledger hs) (answers hs) s.writer) :
    Course (ledger (hs ++ [.acted s a])) (answers (hs ++ [.acted s a])) (a.perform s).session.writer
      (a.perform s).session.outcome? (polls (a.perform s).next) := by
  have unresolved : ∀ o, a ≠ .reply (.polled (some o)) := by
    rintro o rfl
    simp [isCalm] at calm
  have unasked : answers (hs ++ [.acted s a]) = answers hs := by
    simp [answers_snoc, Happening.writeAnswer?]
  rw [ledger_acted hs s unresolved, unasked]
  cases proceeds_of_calm own calm with
  | stays calm unwritten keeps =>
    rw [unwritten]
    simpa using .calm calm answered (paced.keeps keeps)
  | pulls v next unwritten same undrained =>
    rw [unwritten, next, same]
    simpa using .pulling v answered paced undrained
  | writes x next written same undrained =>
    rw [written, next, same]
    refine .writing x (by simp [answered]) ⟨paced.accepted, fun w here drained => ?_⟩
    simp [undrained w here] at drained
  | ends p next unwritten same why =>
    rw [unwritten, next, same]
    have ends : s.outcome? = some p ∨ Ends (ledger hs) (answers hs) p := by
      rcases why with stands | ⟨rfl, w, here, drained⟩
      · exact .inl stands
      · obtain ⟨exhausted, even, -⟩ := paced.drained w here drained
        exact .inr (.drained exhausted even paced.accepted)
    simpa using .finishing p answered ends

theorem Course.perform {a : Action} (own : a.ofPoll) (unfinished : ∀ p, a ≠ .finish p)
    (ok : Course (ledger hs) (answers hs) s.writer s.outcome? [.act a]) :
    Course (ledger (hs ++ [.acted s a])) (answers (hs ++ [.acted s a])) (a.perform s).session.writer
      (a.perform s).session.outcome? (polls (a.perform s).next) := by
  have unasked : answers (hs ++ [.acted s a]) = answers hs := by
    simp [answers_snoc, Happening.writeAnswer?]
  cases ok with
  | calm calm answered paced => exact .proceed own calm answered paced
  | finishing p => exact absurd rfl (unfinished p)
  | holding x answered paced undrained =>
    rw [unasked, ledger_silent (.acted s (by simp) (by simp))]
    cases here : s.writer with
    | none =>
      refine .calm ?_ answered ⟨paced.accepted, ?_⟩ <;>
        simp [Action.perform, Session.withWriter, here, Action.ofPoll, isCalm]
    | some w =>
      have undrained := undrained w here
      refine .calm ?_ answered ⟨paced.accepted, ?_⟩ <;>
        simp [Action.perform, Session.withWriter, here, Action.ofPoll, isCalm, undrained]
  | draining answered paced exhausted even empty =>
    rw [unasked, ledger_silent (.acted s (by simp) (by simp))]
    cases here : s.writer with
    | none =>
      refine .calm ?_ answered ⟨paced.accepted, ?_⟩ <;>
        simp [Action.perform, Session.withWriter, here, Action.ofPoll, isCalm]
    | some w =>
      have empty := empty w here
      refine .calm ?_ answered ⟨paced.accepted, ?_⟩ <;>
        simp [Action.perform, Session.withWriter, here, Action.ofPoll, isCalm, exhausted, even,
          empty]

theorem Course.hear {w : Wait} (own : w.ofPoll) (order : Ordered (ledger hs) writer [.wait w])
    (ok : Course (ledger hs) (answers hs) writer outcome [.wait w]) (a : Answer) :
    Course (ledger (hs ++ [.answered w a])) (answers (hs ++ [.answered w a])) writer outcome
      (polls ((w.resume a).map .act)) := by
  cases ok with
  | calm calm => simp [isCalm] at calm
  | pulling v answered paced undrained =>
    have even : (ledger hs).yielded = (ledger hs).written := by simpa using order.held [] rfl
    have unasked : answers (hs ++ [.answered (.pulling v) a]) = answers hs := by
      simp [answers_snoc, Happening.writeAnswer?]
    rw [unasked, ledger_snoc]
    -- A source that is still asked has not come to its end, whatever the answer will be.
    have none_drained {l : Ledger} : Paced l (answers hs) writer := by
      refine ⟨paced.accepted, fun w here drained => ?_⟩
      simp [undrained w here] at drained
    cases a with
    | item m =>
      exact .holding m (by simp [Happening.written?, Happening.call?, answered]) none_drained
        undrained
    | ended =>
      refine .draining ?_ none_drained ?_ ?_ fun w here => order.empty v w rfl here <;>
        simp [Happening.written?, Happening.call?, Happening.yielded?, Happening.exhausts, answered,
          even]
    | done | pending | written | failed =>
      exact .calm rfl (by simp [Happening.written?, Happening.call?, answered]) none_drained
  | writing x answered paced =>
    have heard : answers (hs ++ [.answered (.writing x) a]) = answers hs ++ [a] := by
      simp [answers_snoc, Happening.writeAnswer?]
    rw [heard, ledger_silent ⟨rfl, rfl, rfl, rfl⟩, resume_writing]
    cases refusal : a.refusal? with
    | some f => exact .finishing _ (by simpa using answered) (.inr (.refused _ a f rfl refusal))
    | none =>
      refine .calm rfl (by simpa using answered) ⟨?_, paced.drained⟩
      exact List.forall_mem_append.mpr ⟨paced.accepted, List.forall_mem_singleton.mpr refusal⟩

theorem Course.aside {l : Ledger} {as : List Answer} {next : Option Writer}
    {later : Option Outcome} (ok : Course l as writer outcome stage)
    (keeps : ∀ w, next = some w → writer = some w)
    (stands : ∀ p, outcome = some p → later = some p) : Course l as next later stage := by
  have goes_on (paced : Paced l as writer) : Paced l as next :=
    paced.keeps fun w here drained => ⟨w, keeps w here, drained, id⟩
  cases ok with
  | calm calm answered paced => exact .calm calm answered (goes_on paced)
  | pulling v answered paced undrained =>
    exact .pulling v answered (goes_on paced) fun w here => undrained w (keeps w here)
  | holding x answered paced undrained =>
    exact .holding x answered (goes_on paced) fun w here => undrained w (keeps w here)
  | draining answered paced exhausted even empty =>
    exact .draining answered (goes_on paced) exhausted even fun w here => empty w (keeps w here)
  | writing x answered paced => exact .writing x answered (goes_on paced)
  | finishing p answered ends => exact .finishing p answered (ends.imp_left (stands p))

end

section

variable {s : Session} {hs : List Happening} {m n : Machine} {h : Happening}

theorem answers_others (others : ∀ h ∈ hs, h.ofPoll = false) : answers hs = [] := by
  rw [answers, List.filterMap_eq_nil_iff]
  exact fun h mem => writeAnswer?_of_other (others h mem)

theorem Course.step (attachment : Attachment hs m) (single : (polls m.agenda).length ≤ 1)
    (order : Ordered (ledger hs) m.session.writer (polls m.agenda))
    (ok : Course (ledger hs) (answers hs) m.session.writer m.session.outcome? (polls m.agenda))
    (step : Machine.Step m h n) (unfinished : h.finishes = false) :
    Course (ledger (hs ++ [h])) (answers (hs ++ [h])) n.session.writer n.session.outcome?
      (polls n.agenda) := by
  have stands (p : Outcome) : m.session.outcome? = some p → n.session.outcome? = some p :=
    outcome_step attachment step
  cases polled_of_step step single with
  | aside other same =>
    have silent : answers (hs ++ [h]) = answers hs := by
      simp [answers_snoc, writeAnswer?_of_other other]
    rw [same, silent, ledger_silent (.of_other other)]
    cases step using Machine.Step.kinds with
    | began | intruded | answered => exact ok
    | acted t a rest =>
      by_cases opens : a = .openWriter
      · subst opens
        obtain ⟨-, unpolled, others⟩ := attachment.untouched attachment.opens.1
        rw [unpolled, ledger_others others, answers_others others]
        exact .calm rfl rfl ⟨by simp, by simp [Action.perform, Session.openWriter]⟩
      refine ok.aside (fun w here => ?_) stands
      by_cases gives_up : a = .abandon
      · simp [gives_up, Action.perform] at here
      · rw [← here]
        exact ((changes_perform t a).writer_eq other opens gives_up).symm
  | starts v op idle begun attached same =>
    have other : h.ofPoll = false := by
      rcases op with op | op <;> rw [op] <;> rfl
    have silent : answers (hs ++ [h]) = answers hs := by
      simp [answers_snoc, writeAnswer?_of_other other]
    rw [ledger_silent (.of_other other), silent, same, begun]
    rw [idle] at ok
    cases ok with
    | calm _ answered paced => exact .calm rfl answered paced
  | acts t a eq own here stage after next =>
    rw [stage, here] at ok
    rw [eq, after, next]
    apply ok.perform own
    rintro p rfl
    simp [eq, Happening.finishes] at unfinished
  | hears w a eq own stage same next =>
    rw [stage] at ok order
    rw [eq, same, next]
    exact ok.hear own order a

theorem Course.woven (new : s.IsNew) (run : Machine.Woven ⟨s, []⟩ hs m)
    (unfinished : ∀ h ∈ hs, h.finishes = false) :
    Course (ledger hs) (answers hs) m.session.writer m.session.outcome? (polls m.agenda) := by
  induction run with
  | nil =>
    obtain ⟨g, c, rfl, -, -⟩ := new.cases
    exact .calm rfl rfl ⟨by simp [answers], by simp⟩
  | snoc run mixed step ih =>
    have before := ih fun h mem => unfinished h (by simp [mem])
    have single := single_woven run
    have same := polls_perm mixed single
    exact Course.step ((Attachment.woven new run).perm mixed single) (same ▸ single)
      (same ▸ Ordered.woven new run) (same ▸ before) step (unfinished _ (by simp))

theorem Course.run (new : s.IsNew) (run : Machine.Run ⟨s, []⟩ hs m)
    (unfinished : ∀ h ∈ hs, h.finishes = false) :
    Course (ledger hs) (answers hs) m.session.writer m.session.outcome? (polls m.agenda) :=
  .woven new run.woven unfinished

end

structure Machine.IsConcluded (m : Machine) : Prop where
  gone : m.session.writer = none
  attached : m.session.control.isSome
  answers : ∀ f ∈ polls m.agenda, ∃ o, f = .act (.reply (.polled o))

section

variable {s : Session} {gs hs : List Happening} {m n : Machine} {h : Happening}

theorem Machine.IsConcluded.step (attachment : Attachment gs m)
    (single : (polls m.agenda).length ≤ 1)
    (ok : m.IsConcluded) (step : Machine.Step m h n) : n.IsConcluded := by
  have attached := attached_step step ok.attached
  cases polled_of_step step single with
  | aside other same =>
    refine ⟨?_, attached, by rw [same]; exact ok.answers⟩
    cases step using Machine.Step.kinds with
    | began | intruded | answered => exact ok.gone
    | acted t a rest =>
      refine (changes_perform t a).writer_eq_none ok.gone ?_
      rintro rfl
      have unattached : t.control = none := attachment.opens.1
      have before : t.control.isSome := ok.attached
      simp [unattached] at before
  | starts w op idle begun here => simp [ok.gone] at here
  | acts t a eq own here stage after next =>
    obtain ⟨o, same⟩ := ok.answers (.act a) (by simp [stage])
    obtain rfl : a = .reply (.polled o) := by simpa using same
    exact ⟨by rw [after, ← here]; exact ok.gone, attached, by simp [next, Action.perform]⟩
  | hears w a eq own stage => simpa using ok.answers (.wait w) (by simp [stage])

theorem Machine.IsConcluded.run (attachment : Attachment gs m)
    (single : (polls m.agenda).length ≤ 1)
    (ok : m.IsConcluded) (run : Machine.Run m hs n) :
    n.IsConcluded ∧ (polls n.agenda).length ≤ 1 := by
  induction run with
  | nil => exact ⟨ok, single⟩
  | snoc run step ih =>
    obtain ⟨here, single⟩ := ih
    exact ⟨here.step (attachment.after run) single step, single_step step single⟩

theorem concluded_of_finish {t : Session} {p : Outcome} (single : (polls m.agenda).length ≤ 1)
    (step : Machine.Step m (.acted t (.finish p)) n) : n.IsConcluded := by
  cases step with
  | acted performed =>
    cases performed
    refine ⟨rfl, rfl, ?_⟩
    rename_i rest
    have below : polls rest = [] := by simpa [Action.ofPoll] using single
    simp [Action.perform, Session.finish, Action.ofPoll, below]

theorem unfinished_before {p : Outcome} (new : s.IsNew) (run : Machine.Run ⟨s, []⟩ hs m)
    (stage : polls m.agenda = [.act (.finish p)]) : ∀ h ∈ hs, h.finishes = false := by
  intro h mem
  by_contra finishes
  cases h with
  | began | intruded | answered => simp [Happening.finishes] at finishes
  | acted t a =>
    cases a with
    | finish q =>
      obtain ⟨pre, post, rfl⟩ := List.append_of_mem mem
      obtain ⟨k, k', before, step, after⟩ := run.split
      have attachment := (Attachment.run new before).step step
      have concluded := concluded_of_finish (single_run before) step
      have later := (concluded.run attachment (single_run (before.snoc step)) after).1.answers
      simp [stage] at later
    | _ => simp [Happening.finishes] at finishes

theorem finish_of_resolves {a : Action} {o : Outcome}
    (resolves : polls (a.perform s).next = [.act (.reply (.polled (some o)))]) :
    ∃ p, a = .finish p ∧ o = s.outcome?.getD p := by
  cases own : a.ofPoll with
  | false => simp [polls_next_other s own] at resolves
  | true =>
    have step := pollStep_perform s own
    generalize (a.perform s).session = t, (a.perform s).next = next at step resolves
    cases step with
    | finishes p =>
      exact ⟨p, rfl, by simpa [Action.ofPoll, outcome_control, eq_comm] using resolves⟩
    | _ => simp [Action.ofPoll, Wait.ofPoll] at resolves

theorem polls_resume_ne_resolved (w : Wait) (a : Answer) (o : Outcome) :
    polls ((w.resume a).map .act) ≠ [.act (.reply (.polled (some o)))] := by
  unfold Wait.resume
  split <;> simp [Action.ofPoll]

theorem finish_before {o : Outcome} (run : Machine.Run ⟨s, []⟩ hs m)
    (stage : polls m.agenda = [.act (.reply (.polled (some o)))]) :
    ∃ before t p rest since, hs = before ++ .acted t (.finish p) :: since ∧
      Machine.Run ⟨s, []⟩ before ⟨t, .act (.finish p) :: rest⟩ ∧ o = t.outcome?.getD p ∧
      ∀ h ∈ since, h.ofPoll = false := by
  induction run with
  | nil => simp at stage
  | snoc run step ih =>
    cases polled_of_step step (single_run run) with
    | aside other same =>
      obtain ⟨before, t, p, rest, since, rfl, earlier, settled, apart⟩ := ih (same ▸ stage)
      exact ⟨before, t, p, rest, since ++ [_], by simp, earlier, settled,
        forall_mem_snoc apart other⟩
    | starts w op idle begun => simp [begun] at stage
    | acts t a eq own here busy after next =>
      obtain ⟨p, rfl, settled⟩ := finish_of_resolves (next ▸ stage)
      subst eq
      cases step using Machine.Step.kinds with
      | acted t a rest => exact ⟨_, _, p, rest, [], rfl, run, settled, by simp⟩
    | hears w a eq own busy same next =>
      exact absurd (next ▸ stage) (polls_resume_ne_resolved w a o)

end

/-- The session lets go of the source. -/
def Happening.drops : Happening → Bool
  | .acted s a => (a.perform s).notices.contains .sourceDropped
  | _ => false

def History.drops (hs : List Happening) : Nat := hs.countP Happening.drops

theorem drops_snoc (hs : List Happening) (h : Happening) :
    drops (hs ++ [h]) = drops hs + h.drops.toNat := by
  cases here : h.drops <;> simp [drops, here]

def Session.hasSource (s : Session) : Bool := s.writer.any Writer.attached

theorem perform_source (s : Session) {a : Action} (opens : a ≠ .openWriter) :
    (Happening.acted s a).drops.toNat + (a.perform s).session.hasSource.toNat =
      s.hasSource.toNat := by
  have detaches (w : Writer) : .sourceDropped ∈ w.detachNotices ↔ w.attached := by
    cases held : w.current <;> cases attached : w.attached <;>
      simp [Writer.detachNotices, held, attached]
  cases a with
  | openWriter => exact absurd rfl opens
  | abandon | checkCancelled | drain =>
    simp only [Happening.drops, Action.perform, Session.withWriter, Session.hasSource]
    (repeat' split) <;> simp_all [Writer.detach]
  | finish p =>
    cases here : s.writer with
    | none =>
      simp [Happening.drops, Action.perform, Session.finish, Session.hasSource, here]
    | some w =>
      cases attached : w.attached <;>
        simp [Happening.drops, Action.perform, Session.finish, Session.hasSource, here, detaches,
          attached]
  | _ =>
    simp only [Happening.drops, Action.perform, Session.withWriter, Session.store, Session.take,
      Session.failInbound, Session.settle, Session.close, Session.hasSource]
    repeat' split
    all_goals simp_all

theorem source_run {s : Session} {hs : List Happening} {m : Machine} (new : s.IsNew)
    (run : Machine.Run ⟨s, []⟩ hs m) :
    drops hs + m.session.hasSource.toNat = m.session.control.isSome.toNat := by
  induction run with
  | nil =>
    obtain ⟨g, c, rfl, -, -⟩ := new.cases
    rfl
  | snoc run step ih =>
    rename_i n k hs h
    have attachment := Attachment.run new run
    rw [drops_snoc]
    cases step using Machine.Step.kinds with
    | began | intruded | answered => exact ih
    | acted s a rest =>
      by_cases opens : a = .openWriter
      · subst opens
        have unattached : s.control = none := attachment.opens.1
        have gone : s.writer = none := (attachment.untouched unattached).1
        have keeps : (Happening.acted s .openWriter).drops = false := by
          cases reported : s.transportOutcome <;>
            simp [Happening.drops, Action.perform, Session.openWriter, reported]
        have none_dropped : drops hs = 0 := by
          simpa [Session.hasSource, gone, unattached] using ih
        rw [keeps, none_dropped]
        rfl
      have moved := perform_source s opens
      have before : drops hs + s.hasSource.toNat = s.control.isSome.toNat := ih
      rw [attachment.perform_attached opens]
      dsimp only
      omega

theorem drained_ends {s : Session} {a : Action} (undecided : s.outcome? = none)
    (ends : polls (a.perform s).next = [.act (.finish .success)]) :
    a = .emit ∧ (a.perform s).session = s ∧ (a.perform s).next = [.act (.finish .success)] := by
  cases own : a.ofPoll with
  | false => simp [polls_next_other s own] at ends
  | true =>
    have step := pollStep_perform s own
    generalize (a.perform s).session = t, (a.perform s).next = next at step ends ⊢
    cases step with
    | ends => exact ⟨rfl, rfl, rfl⟩
    | decided decided => simp [outcome_control, undecided] at decided
    | _ => simp [Action.ofPoll, Wait.ofPoll] at ends

theorem polls_resume_ne_drained (w : Wait) (a : Answer) :
    polls ((w.resume a).map .act) ≠ [.act (.finish .success)] := by
  unfold Wait.resume
  split <;> simp [Action.ofPoll]

def Cleared (hs : List Happening) (m : Machine) : Prop :=
  polls m.agenda = [.act (.finish .success)] → m.session.outcome? = none →
    ∃ before g since, hs = before ++ g :: since ∧ g.checks ∧
      ((m.session.readiness.ready ∧ m.agenda.head? = some (.act (.finish .success))) ∨
        ∃ op, .intruded op ∈ since)

theorem Cleared.run {s : Session} {hs : List Happening} {m : Machine} (new : s.IsNew)
    (run : Machine.Run ⟨s, []⟩ hs m) : Cleared hs m := by
  induction run with
  | nil => simp [Cleared]
  | snoc run step ih =>
    rename_i n k hs h
    intro stage undecided
    have before : n.session.outcome? = none := by
      by_contra decided
      obtain ⟨o, decided⟩ := Option.ne_none_iff_exists'.mp decided
      simp [outcome_step (.run new run) step decided] at undecided
    cases polled_of_step step (single_run run) with
    | aside other same =>
      obtain ⟨earlier, g, since, rfl, checks, here⟩ := ih (same ▸ stage) before
      refine ⟨earlier, g, since ++ [h], by simp, checks, .inr ?_⟩
      rcases here with ⟨-, next⟩ | ⟨op, mem⟩
      · obtain ⟨op, rfl⟩ := intruded_of_overtakes step other rfl next
        exact ⟨op, by simp⟩
      · exact ⟨op, by simp [mem]⟩
    | starts w op idle begun => simp [begun] at stage
    | acts t a eq own here busy after next =>
      -- Only a writer with nothing left leads here, straight from its last look at the flag.
      obtain ⟨rfl, same, frames⟩ := drained_ends (here ▸ before) (next ▸ stage)
      obtain ⟨earlier, g, since, rfl, checks, -, last⟩ := Gated.run run busy
      refine ⟨earlier, g, since ++ [h], by simp, checks, ?_⟩
      rcases last with ⟨-, ready, -⟩ | ⟨op, first⟩
      · left
        subst eq
        cases step using Machine.Step.kinds with
        | acted t a rest => exact ⟨by rw [same]; exact ready, by simp [frames]⟩
      · exact .inr ⟨op, by simp [List.mem_of_mem_head? first]⟩
    | hears w a eq own busy same next => exact absurd (next ▸ stage) (polls_resume_ne_drained w a)

end Duplex

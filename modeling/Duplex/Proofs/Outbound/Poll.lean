import Duplex.Proofs.Session.Agenda
import Duplex.Proofs.Session.Call
import Duplex.Proofs.Session.New
import Duplex.Proofs.Session.Weave

/-!
One poll of the attached send at a time, and one attachment in a session's life. A step either
leaves the poll in progress where it is, begins one while there is none, or is the poll's own next
step.
-/

namespace Duplex

def polls (agenda : Agenda) : Agenda := agenda.filter Frame.ofPoll

@[simp] theorem polls_nil : polls [] = [] := rfl

@[simp] theorem polls_cons (f : Frame) (rest : Agenda) :
    polls (f :: rest) = if f.ofPoll then f :: polls rest else polls rest := List.filter_cons

@[simp] theorem polls_append (a b : Agenda) : polls (a ++ b) = polls a ++ polls b :=
  List.filter_append a b

@[simp] theorem ofPoll_act (a : Action) : (Frame.act a).ofPoll = a.ofPoll := rfl
@[simp] theorem ofPoll_wait (w : Wait) : (Frame.wait w).ofPoll = w.ofPoll := rfl

theorem polls_eq_nil_iff (m : Machine) : polls m.agenda = [] ↔ m.isPolling = false := by
  simp [polls, Machine.isPolling, List.filter_eq_nil_iff]

@[simp] theorem polls_wakeFrames (w : Option Waker) : polls (wakeFrames w) = [] := by
  cases w <;> rfl

theorem polls_actions (op : Op) : polls (op.actions.map .act) =
    match op with
    | .poll w => [.act (.register w)]
    | _ => [] := by
  cases op <;> rfl

theorem ofPoll_of_leads {a : Action} {f : Frame} (leads : Leads a f) (stage : f.ofPoll) :
    a.ofPoll := by
  cases leads with
  | poll _ _ own => exact own
  | pull | write | conclude => rfl
  | _ => simp [Action.ofPoll, Wait.ofPoll] at stage

theorem polls_next_other (s : Session) {a : Action} (other : a.ofPoll = false) :
    polls (a.perform s).next = [] := by
  refine filter_next s fun f leads => ?_
  by_contra stage
  simp [ofPoll_of_leads leads (by simpa using stage)] at other

/-- A poll's own step, under what it has found: the session it leaves behind and what comes next. -/
inductive PollStep (s : Session) : Action → Session → Agenda → Prop
  | gone (a : Action) (gone : s.writer = none) : PollStep s a s [.act (.reply (.polled none))]
  | registers (v : Waker) {w : Writer} (here : s.writer = some w) :
    PollStep s (.register v)
      { s with
        writer := some { w with waker := v }
        control := some { s.control.getD {} with waker := some v } }
      [.act .inspect]
  | decided {o : Outcome} (decided : (s.control.getD {}).outcome = some o) :
    PollStep s .inspect s [.act (.finish o)]
  | undecided (undecided : (s.control.getD {}).outcome = none) :
    PollStep s .inspect s [.act .checkCancelled]
  | halts {w : Writer} (here : s.writer = some w) (cancelled : (s.control.getD {}).cancelled) :
    PollStep s .checkCancelled { s with writer := some w.detach } [.act (.reply (.polled none))]
  | goesOn (uncancelled : (s.control.getD {}).cancelled = false) :
    PollStep s .checkCancelled s [.act .request]
  | loaded {w : Writer} (here : s.writer = some w) (loaded : w.current.isSome || w.drained) :
    PollStep s .request s [.act .gate]
  | pulls {w : Writer} (here : s.writer = some w) (empty : w.current = none)
    (undrained : w.drained = false) (attached : w.attached) :
    PollStep s .request s [.wait (.pulling w.waker)]
  | detached {w : Writer} (here : s.writer = some w) (empty : w.current = none)
    (undrained : w.drained = false) (detached : w.attached = false) :
    PollStep s .request s [.act (.reply (.polled none))]
  | holds (m : Message) {w : Writer} (here : s.writer = some w) :
    PollStep s (.hold m) { s with writer := some { w with current := some m } } [.act .gate]
  | drains {w : Writer} (here : s.writer = some w) :
    PollStep s .drain { s with writer := some { w with drained := true, attached := false } }
      [.act .gate]
  | passes {a : Action} (looks : a = .gate ∨ a = .recheck) {w : Writer} (here : s.writer = some w)
    (proceeds : w.canProceed s.readiness) : PollStep s a s [.act .emit]
  | stops {w : Writer} (here : s.writer = some w) (stops : w.canProceed s.readiness = false) :
    PollStep s .gate s [.act .watchReadiness]
  | watches {w : Writer} (here : s.writer = some w) :
    PollStep s .watchReadiness { s with readiness := { s.readiness with waker := some w.waker } }
      [.act .recheck]
  | waits {w : Writer} (here : s.writer = some w) (stops : w.canProceed s.readiness = false) :
    PollStep s .recheck s [.act (.reply (.polled none))]
  | ends {w : Writer} (here : s.writer = some w) (drained : w.drained) :
    PollStep s .emit s [.act (.finish .success)]
  | writes {w : Writer} {m : Message} (here : s.writer = some w) (undrained : w.drained = false)
    (held : w.current = some m) : PollStep s .emit s [.wait (.writing m)]
  | empty {w : Writer} (here : s.writer = some w) (undrained : w.drained = false)
    (empty : w.current = none) : PollStep s .emit s [.act .inspect]
  | releases {w : Writer} (here : s.writer = some w) :
    PollStep s .release { s with writer := some { w with current := none } } [.act .inspect]
  | finishes (p : Outcome) : PollStep s (.finish p) (s.finish p).session
      (let o := (s.control.getD {}).outcome.getD p
       [.act (.conclude o), .act (.reply (.polled (some o)))])
  | replies (o : Option Outcome) : PollStep s (.reply (.polled o)) s []

theorem withWriter_none {s : Session} (gone : s.writer = none) (f : Writer → Effect) :
    s.withWriter f = { session := s, next := [.act (.reply (.polled none))] } := by
  rw [Session.withWriter, gone]

theorem withWriter_some {s : Session} {w : Writer} (here : s.writer = some w)
    (f : Writer → Effect) : s.withWriter f = f w := by
  rw [Session.withWriter, here]

theorem pollStep_perform (s : Session) {a : Action} (own : a.ofPoll) :
    PollStep s a (a.perform s).session (a.perform s).next := by
  have gone (f : Writer → Effect) (gone : s.writer = none) :
      PollStep s a (s.withWriter f).session (s.withWriter f).next := by
    rw [withWriter_none gone]
    exact .gone a gone
  cases a with
  | finish p => exact .finishes p
  | reply r =>
    cases r with
    | polled o => exact .replies o
    | _ => simp [Action.ofPoll] at own
  | inspect =>
    rw [Action.perform]
    split
    · exact .decided ‹_›
    · exact .undecided ‹_›
  | checkCancelled =>
    rw [Action.perform]
    cases cancelled : (s.control.getD {}).cancelled with
    | false => exact .goesOn cancelled
    | true =>
      cases here : s.writer with
      | none => exact gone _ here
      | some w =>
        rw [if_pos rfl, withWriter_some here]
        exact .halts here cancelled
  | register | hold | drain | watchReadiness | release =>
    cases here : s.writer with
    | none => exact gone _ here
    | some w =>
      rw [Action.perform, withWriter_some here]
      constructor
      exact here
  | request =>
    cases here : s.writer with
    | none => exact gone _ here
    | some w =>
      rw [Action.perform, withWriter_some here]
      cases empty : w.current <;> cases undrained : w.drained <;> cases attached : w.attached
      case none.false.false => exact .detached here empty undrained attached
      case none.false.true => exact .pulls here empty undrained attached
      all_goals exact .loaded here (by simp [empty, undrained])
  | gate | recheck =>
    cases here : s.writer with
    | none => exact gone _ here
    | some w =>
      rw [Action.perform, withWriter_some here]
      cases proceeds : w.canProceed s.readiness with
      | true => exact .passes (by simp) here proceeds
      | false => first | exact .stops here proceeds | exact .waits here proceeds
  | emit =>
    cases here : s.writer with
    | none => exact gone _ here
    | some w =>
      rw [Action.perform, withWriter_some here]
      cases drained : w.drained with
      | true => exact .ends here drained
      | false =>
        cases held : w.current with
        | none => exact .empty here drained held
        | some m => exact .writes here drained held
  | _ => simp [Action.ofPoll] at own

theorem polls_next (s : Session) (a : Action) : (polls (a.perform s).next).length ≤ 1 := by
  by_cases own : a.ofPoll
  · have step := pollStep_perform s own
    generalize (a.perform s).session = t, (a.perform s).next = next at step ⊢
    cases step <;> simp [Action.ofPoll, Wait.ofPoll]
  · simp [polls_next_other s (Bool.not_eq_true _ ▸ own)]

theorem polls_resume_other {w : Wait} (a : Answer) (other : w.ofPoll = false) :
    polls ((w.resume a).map .act) = [] := by
  unfold Wait.resume
  split <;> first | rfl | simp [Wait.ofPoll] at other

theorem polls_resume (w : Wait) (a : Answer) : (polls ((w.resume a).map .act)).length ≤ 1 := by
  unfold Wait.resume
  split <;> simp [Action.ofPoll]

def Happening.ofPoll : Happening → Bool
  | .acted _ a => a.ofPoll
  | .answered w _ => w.ofPoll
  | _ => false

inductive Polled (m n : Machine) (h : Happening) : Prop
  | aside (other : h.ofPoll = false) (same : polls n.agenda = polls m.agenda)
  | starts (w : Waker) (op : h = .began (.poll w) ∨ h = .intruded (.poll w))
    (idle : polls m.agenda = [])
    (begun : polls n.agenda = [.act (.register w)]) (attached : m.session.writer.isSome)
    (same : n.session = m.session)
  | acts (s : Session) (a : Action) (eq : h = .acted s a) (own : a.ofPoll) (here : m.session = s)
    (stage : polls m.agenda = [.act a]) (after : n.session = (a.perform s).session)
    (next : polls n.agenda = polls (a.perform s).next)
  | hears (w : Wait) (a : Answer) (eq : h = .answered w a) (own : w.ofPoll)
    (stage : polls m.agenda = [.wait w]) (same : n.session = m.session)
    (next : polls n.agenda = polls ((w.resume a).map .act))

theorem polled_of_start {m : Machine} {op : Op} {h : Happening} (admitted : m.admits op)
    (begins : h = .began op ∨ h = .intruded op) : Polled m (m.start op) h := by
  have start : polls (m.start op).agenda = polls (op.actions.map .act) ++ polls m.agenda :=
    polls_append _ _
  rw [polls_actions] at start
  cases op with
  | poll w =>
    obtain ⟨attached, unpolled⟩ : m.session.writer.isSome ∧ m.isPolling = false := by
      simpa [Machine.admits] using admitted
    have idle := (polls_eq_nil_iff m).mpr unpolled
    rw [idle] at start
    exact .starts w begins idle start attached rfl
  | _ =>
    refine .aside ?_ start
    rcases begins with rfl | rfl <;> rfl

theorem polled_of_step {m n : Machine} {h : Happening} (step : Machine.Step m h n)
    (single : (polls m.agenda).length ≤ 1) : Polled m n h := by
  have alone {f : Frame} {rest : Agenda} (own : f.ofPoll)
      (single : (polls (f :: rest)).length ≤ 1) : polls rest = [] := by
    simpa [own] using single
  cases step using Machine.Step.kinds with
  | began m op control admitted => exact polled_of_start admitted (.inl rfl)
  | intruded m op control admitted => exact polled_of_start admitted (.inr rfl)
  | acted s a rest =>
    by_cases own : a.ofPoll
    · have below := alone (f := .act a) own single
      exact .acts s a rfl own rfl (by simp [own, below]) rfl (by simp [below])
    · have other : a.ofPoll = false := by simpa using own
      exact .aside other (by simp [other, polls_next_other s other])
  | answered s w rest a =>
    by_cases own : w.ofPoll
    · have below := alone (f := .wait w) own single
      exact .hears w a rfl own (by simp [own, below]) rfl (by simp [below])
    · have other : w.ofPoll = false := by simpa using own
      exact .aside other (by simp [other, polls_resume_other a other])

theorem single_step {m n : Machine} {h : Happening} (step : Machine.Step m h n)
    (single : (polls m.agenda).length ≤ 1) : (polls n.agenda).length ≤ 1 := by
  cases polled_of_step step single with
  | aside other same => rwa [same]
  | starts w op idle begun => simp [begun]
  | acts s a eq own here stage after next =>
    rw [next]
    exact polls_next s a
  | hears w a eq own stage same next =>
    rw [next]
    exact polls_resume w a

theorem polls_perm {a b : Agenda} (mixed : a.Perm b) (single : (polls a).length ≤ 1) :
    polls b = polls a := by
  have same : (polls a).Perm (polls b) := mixed.filter _
  cases stage : polls a with
  | nil =>
    rw [stage] at same
    exact same.symm.eq_nil
  | cons f rest =>
    obtain rfl : rest = [] := by simpa [stage] using single
    rw [stage] at same
    exact same.symm.eq_singleton

theorem single_woven {s : Session} {hs : List Happening} {m : Machine}
    (run : Machine.Woven ⟨s, []⟩ hs m) : (polls m.agenda).length ≤ 1 := by
  induction run with
  | nil => simp
  | snoc run mixed step ih => exact single_step step (polls_perm mixed ih ▸ ih)

theorem single_run {s : Session} {hs : List Happening} {m : Machine}
    (run : Machine.Run ⟨s, []⟩ hs m) : (polls m.agenda).length ≤ 1 := single_woven run.woven

end Duplex

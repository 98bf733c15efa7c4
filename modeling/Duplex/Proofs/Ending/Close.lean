import Duplex.Proofs.Session.Agenda
import Duplex.Proofs.Session.Call
import Duplex.Proofs.Session.Change
import Duplex.Proofs.Session.Nesting
import Duplex.Proofs.Session.New

/-!
The transport is asked to close at most once, and not after it has reported its own close. The
session is open until either happens. Of all the calls that close it, the one that reaches the
transport returns what the transport answers, and the others succeed and change nothing.
-/

namespace Duplex

def Op.isTransportClose : Op → Bool
  | .transportClose _ => true
  | _ => false

namespace Happening

def closes? (h : Happening) : Option CloseStatus :=
  match h.call? with
  | some (.close status) => some status
  | _ => none

def marks : Happening → Bool
  | .acted _ .markClosed => true
  | _ => false

def closed? : Happening → Option Outcome
  | .acted _ (.reply (.closed o)) => some o
  | _ => none

def reports (h : Happening) : Bool := h.op?.any Op.isTransportClose

end Happening

namespace History

def closes (hs : List Happening) : List CloseStatus := hs.filterMap Happening.closes?

def marks (hs : List Happening) : Nat := hs.countP Happening.marks

def reports (hs : List Happening) : Nat := hs.countP Happening.reports

theorem closes_snoc (hs : List Happening) (h : Happening) :
    closes (hs ++ [h]) = closes hs ++ h.closes?.toList := filterMap_snoc _ hs h

theorem marks_snoc (hs : List Happening) (h : Happening) :
    marks (hs ++ [h]) = marks hs + if h.marks then 1 else 0 := by
  simp [marks, List.countP_append, List.countP_cons]

end History

open History

theorem reports_cases {h : Happening} (reports : h.reports) :
    ∃ status, h.op? = some (.transportClose status) := by
  unfold Happening.reports at reports
  cases begins : h.op? with
  | none => simp [begins] at reports
  | some op => cases op <;> simp [begins, Op.isTransportClose] at reports ⊢

theorem closes?_close (s : Session) (status : CloseStatus) (finalizing : Bool) :
    (Happening.acted s (.close status finalizing)).closes? =
      if s.closed then none else some status := by
  cases closed : s.closed <;> cases finalizing <;>
    simp [Happening.closes?, Happening.call?, Action.perform, Session.close, closed, Effect.call?,
      Wait.call]

theorem closes_cases {h : Happening} {status : CloseStatus} (closes : h.closes? = some status) :
    ∃ s finalizing, h = .acted s (.close status finalizing) ∧ s.closed = false := by
  cases h with
  | began | intruded | answered => simp [Happening.closes?, Happening.call?] at closes
  | acted s a =>
    unfold Happening.closes? at closes
    split at closes
    · rename_i asked call
      obtain rfl : asked = status := by simpa using closes
      cases begins_of_call call with
      | close _ finalizing unclosed => exact ⟨s, finalizing, rfl, unclosed⟩
    · simp at closes

theorem perform_close_of_closed {s : Session} (status : CloseStatus) (closed : s.closed) :
    (Action.close status false).perform s =
      { session := s
        notices := [.logged (.alreadyClosed status)]
        next := [.act (.reply (.closed .success))] } := by
  simp [Action.perform, Session.close, closed]

theorem closes?_other (s : Session) {a : Action}
    (other : ∀ status finalizing, a ≠ .close status finalizing) :
    (Happening.acted s a).closes? = none := by
  cases closes : (Happening.acted s a).closes? with
  | none => rfl
  | some status =>
    obtain ⟨t, finalizing, same, -⟩ := closes_cases closes
    cases same
    exact absurd rfl (other status finalizing)

theorem perform_closed (s : Session) (a : Action) :
    (a.perform s).session.closed =
      (s.closed || (Happening.acted s a).closes?.isSome || (Happening.acted s a).marks) := by
  have closed_eq := (changes_perform s a).closed_eq
  cases a with
  | close status finalizing =>
    rw [closes?_close]
    cases closed : s.closed <;> simp [Action.perform, Session.close, closed, Happening.marks]
  | markClosed => simp [Action.perform, Happening.marks]
  | _ =>
    rw [closes?_other s (by simp), closed_eq (by simp) (by simp)]
    simp [Happening.marks]

structure Shut (hs : List Happening) (s : Session) : Prop where
  once : (closes hs).length ≤ 1
  unclosed : s.closed = false ↔ closes hs = [] ∧ marks hs = 0

theorem Shut.aside {hs : List Happening} {h : Happening} {s : Session} (ok : Shut hs s)
    (unasked : h.closes? = none) (unmarked : h.marks = false) : Shut (hs ++ [h]) s := by
  constructor
  · simpa [closes_snoc, unasked] using ok.once
  · simpa [closes_snoc, marks_snoc, unasked, unmarked] using ok.unclosed

theorem Shut.perform {hs : List Happening} {s : Session} (ok : Shut hs s) (a : Action) :
    Shut (hs ++ [.acted s a]) (a.perform s).session := by
  have before := ok.unclosed
  constructor
  · rw [closes_snoc]
    cases asks : (Happening.acted s a).closes? with
    | none => simpa using ok.once
    | some status =>
      -- Who asks the transport has found the session open, so nobody has asked before.
      obtain ⟨t, finalizing, same, unclosed⟩ := closes_cases asks
      cases same
      simp [(before.mp unclosed).1]
  · rw [perform_closed, closes_snoc, marks_snoc]
    cases (Happening.acted s a).closes? <;> cases (Happening.acted s a).marks <;> simp [before]

theorem Shut.run {s : Session} {hs : List Happening} {m : Machine} (new : s.IsNew)
    (run : Machine.Run ⟨s, []⟩ hs m) : Shut hs m.session := by
  induction run with
  | nil =>
    obtain ⟨g, c, rfl, -, -⟩ := new.cases
    exact ⟨by simp [closes], by simp [closes, marks]⟩
  | snoc run step ih =>
    cases step using Machine.Step.kinds with
    | began | intruded | answered => exact ih.aside rfl rfl
    | acted s a rest => exact ih.perform a

def Frame.marks : Frame → Bool
  | .act .markClosed => true
  | _ => false

theorem marks_next (s : Session) (a : Action) : (a.perform s).next.countP Frame.marks = 0 := by
  refine countP_next s fun f leads => ?_
  unfold Frame.marks
  split
  · cases leads with
    | poll _ _ _ stage => simp [Action.ofPoll] at stage
  · rfl

theorem marks_run {s : Session} {hs : List Happening} {m : Machine}
    (run : Machine.Run ⟨s, []⟩ hs m) :
    marks hs + m.agenda.countP Frame.marks = reports hs := by
  refine run.balance ?_ ?_ ?_
  · intro h op begins
    cases h with
    | acted | answered => simp [Happening.op?] at begins
    | began p | intruded p => cases p <;> cases begins <;> rfl
  · intro t a
    rw [marks_next]
    cases a <;> rfl
  · intro w a
    unfold Wait.resume
    split <;> rfl

theorem closed_run {m n : Machine} {hs : List Happening} (run : Machine.Run m hs n)
    (closed : m.session.closed) : n.session.closed ∧ closes hs = [] := by
  induction run with
  | nil => exact ⟨closed, rfl⟩
  | snoc run step ih =>
    obtain ⟨before, unasked⟩ := ih
    rw [closes_snoc, unasked]
    cases step using Machine.Step.kinds with
    | began | intruded | answered => exact ⟨before, rfl⟩
    | acted s a rest =>
      refine ⟨by rw [perform_closed]; simp [show s.closed = true from before], ?_⟩
      cases asks : (Happening.acted s a).closes? with
      | none => rfl
      | some status =>
        obtain ⟨t, finalizing, same, unclosed⟩ := closes_cases asks
        cases same
        simp [show s.closed = true from before] at unclosed

theorem alone_acts {s : Session} {a : Action} {rest : Agenda} {n : Machine} {h : Happening}
    (step : Machine.Step ⟨s, .act a :: rest⟩ h n) (alone : ∀ op, h ≠ .intruded op) :
    h = .acted s a ∧ n = ⟨(a.perform s).session, (a.perform s).next ++ rest⟩ := by
  cases step with
  | began control => simp [Machine.isYielding, Machine.isIdle, Machine.call?] at control
  | intruded => exact absurd rfl (alone _)
  | acted performed =>
    cases performed
    exact ⟨rfl, rfl⟩

theorem closes_after_report {m n : Machine} {hs : List Happening} {status : CloseStatus}
    (run : Machine.Run (m.start (.transportClose status)) hs n)
    (alone : ∀ op, .intruded op ∉ hs.take 2) :
    closes hs = [] ∧ (n.isYielding → n.session.closed) := by
  -- The first action logs the report, the second notes it.
  cases hs with
  | nil =>
    obtain rfl := run.of_nil
    simp [closes, Machine.start, Op.actions, Machine.isYielding, Machine.isIdle, Machine.call?]
  | cons h hs =>
    obtain ⟨k, step, run⟩ := run.uncons
    obtain ⟨rfl, rfl⟩ := alone_acts step fun op same => alone op (by simp [same])
    cases hs with
    | nil =>
      obtain rfl := run.of_nil
      simp [closes, Happening.closes?, Happening.call?, Action.perform, Effect.call?,
        Machine.isYielding, Machine.isIdle, Machine.call?]
    | cons h hs =>
      obtain ⟨k, step, run⟩ := run.uncons
      obtain ⟨rfl, rfl⟩ := alone_acts step fun op same => alone op (by simp [same])
      obtain ⟨closed, unasked⟩ := closed_run run rfl
      exact ⟨unasked, fun _ => closed⟩

def Answer.outcome : Answer → Outcome
  | .failed e => .failure e
  | _ => .success

theorem resume_closing (status : CloseStatus) (a : Answer) :
    (Wait.closing status false).resume a = [.reply (.closed a.outcome)] := by
  cases a <;> rfl

/-- How a call to close came by its result: it found the session closed, or it asked the transport
and passed its answer on. -/
inductive Closing (status : CloseStatus) (s : Session) (during : List Happening) : Outcome → Prop
  | repeated (closed : s.closed)
    (unchanged : (Action.close status false).perform s =
      { session := s
        notices := [.logged (.alreadyClosed status)]
        next := [.act (.reply (.closed .success))] }) : Closing status s during .success
  | asked (a : Answer) (unclosed : s.closed = false)
    (asks : (Happening.acted s (.close status false)).closes? = some status)
    (answer : .answered (.closing status false) a ∈ during) : Closing status s during a.outcome

theorem close_returns {m n : Machine} {hs : List Happening} {status : CloseStatus}
    (run : Machine.Run (m.start (.close status)) hs n) (returned : n.agenda = m.agenda) :
    ∃ a s during t o c,
      hs = a ++ .acted s (.close status false) :: (during ++ .acted t (.reply (.closed o)) :: c) ∧
        Closing status s during o := by
  have gone (f : Frame) (upper : Agenda) : n.agenda ≠ upper ++ f :: m.agenda :=
    Machine.gone_of_length (by simp [returned]) upper
  obtain ⟨a, s, later, rfl, -, after⟩ := run.performs [] rfl (gone _)
  cases closed : s.closed with
  | true =>
    rw [perform_close_of_closed status closed] at after
    obtain ⟨during, t, c, rfl, -, -⟩ := after.performs [] rfl (gone _)
    exact ⟨a, s, during, t, .success, c, rfl,
      .repeated closed (perform_close_of_closed status closed)⟩
  | false =>
    have asks := closes?_close s status false
    simp only [closed, Bool.false_eq_true, if_false] at asks
    have waits :
        ((Action.close status false).perform s).next = [.wait (.closing status false)] := by
      simp [Action.perform, Session.close, closed]
    rw [waits] at after
    obtain ⟨b, t, x, later, rfl, -, after⟩ := after.hears [] rfl (gone _)
    rw [resume_closing] at after
    obtain ⟨b', t', c, rfl, -, -⟩ := after.performs [] rfl (gone _)
    refine ⟨a, s, b ++ .answered (.closing status false) x :: b', t', x.outcome, c, by simp, ?_⟩
    exact .asked x closed asks (by simp)

/-- The transport is asked to close once at most, however the session is closed, and the session is
open as long as neither that nor the transport's own close has happened. Every other call to close
returns at once, without a change. -/
theorem close_at_most_once {s : Session} {hs : List Happening} {m : Machine} (new : s.IsNew)
    (run : Machine.Run ⟨s, []⟩ hs m) :
    (closes hs).length ≤ 1 ∧
    (m.session.isOpen ↔ closes hs = [] ∧ marks hs = 0) ∧
    marks hs + m.agenda.countP Frame.marks = reports hs ∧
    (∀ gs n, Machine.Run m gs n → m.session.isOpen = false →
      n.session.isOpen = false ∧ closes gs = []) ∧
    (∀ h k gs n, Machine.Step m h k → h.reports → Machine.Run k gs n →
      (∀ op, .intruded op ∉ gs.take 2) →
        closes gs = [] ∧ (n.isYielding → n.session.isOpen = false)) ∧
    ∀ h k gs n status, Machine.Step m h k → h.op? = some (.close status) → Machine.Run k gs n →
      n.agenda = m.agenda →
        ∃ a t during u o c,
          gs = a ++ .acted t (.close status false) ::
            (during ++ .acted u (.reply (.closed o)) :: c) ∧ Closing status t during o := by
  have ok := Shut.run new run
  refine ⟨ok.once, ?_, marks_run run, ?_, ?_, ?_⟩
  · rw [← ok.unclosed]
    simp [Session.isOpen]
  · intro gs n later shut
    obtain ⟨closed, unasked⟩ := closed_run later (by simpa [Session.isOpen] using shut)
    exact ⟨by simp [Session.isOpen, closed], unasked⟩
  · intro h k gs n step reports later alone
    obtain ⟨status, begins⟩ := reports_cases reports
    obtain rfl := step_start step begins
    obtain ⟨unasked, closed⟩ := closes_after_report later alone
    exact ⟨unasked, fun control => by simp [Session.isOpen, closed control]⟩
  · intro h k gs n status step begins later returned
    obtain rfl := step_start step begins
    exact close_returns later returned

/-- The transport reports its close and the session is closed again while the transport is being
asked to close, which then fails: only the outer call hears of it. -/
theorem close_at_most_once_nested :
    let s := Session.sample true {}
    let r := Machine.play ⟨s, []⟩ ([.start (.close .goingAway), .perform,
      .start (.transportClose .normal)] ++ List.replicate 10 .perform ++
      [.start (.close .normal), .perform, .perform, .answer (.failed .connectionClosed), .perform])
    s.IsNew ∧ Machine.Run ⟨s, []⟩ r.1 r.2 ∧ r.2.isIdle ∧ closes r.1 = [.goingAway] ∧
      (closes r.1).length ≤ 1 ∧ r.2.session.isOpen = false ∧
      (r.1.filterMap Happening.closed?) =
        [.success, .failure .connectionClosed] := by
  intro s r
  have new : s.IsNew := Session.isNew_sample true rfl
  have run : Machine.Run ⟨s, []⟩ r.1 r.2 := Machine.run_play _ _
  obtain ⟨once, open_iff, -⟩ := close_at_most_once new run
  have asked : closes r.1 = [.goingAway] := by decide +kernel
  refine ⟨new, run, by decide +kernel, asked, once, ?_, by decide +kernel⟩
  by_contra stays
  have unasked := (open_iff.mp (by simpa using stays)).1
  simp [asked] at unasked

end Duplex

import Duplex.Proofs.Ending.Finalization
import Duplex.Proofs.Exchange.Sink
import Duplex.Proofs.Outbound.Resolution

/-!
How the outbound side comes to its end. Until the send finishes, nobody has begun to end the session.
The poll that finishes it ends the session in a chain of actions on its own hand, before it answers;
and once it has answered, nothing is left of all that.
-/

namespace Duplex

open History

variable {ι : Type}

def Frame.isWindup : Frame → Bool
  | .act (.conclude _) | .act (.finalize _) | .act (.finalizeUnattended _) | .act (.resolve _)
  | .act (.settle _) | .act (.close _ _) | .wait (.closing _ _)
  | .act (.reply (.polled (some _))) => true
  | _ => false

def Frame.isReport : Frame → Bool
  | .act .markClosed | .act (.record _) | .act .cancel | .act (.terminate _) => true
  | _ => false

section

variable {s : Session} {a : Action}

theorem late_next (early : (Frame.act a).isWindup = false) (unfinished : ∀ o, a ≠ .finish o)
    (attended : (∃ o, a = .record o) → s.control.isSome) :
    ∀ f ∈ (a.perform s).next, f.isWindup = false := by
  intro f mem
  have leads := leads_next mem
  by_contra late
  unfold Frame.isWindup at late
  split at late
  case h_8 o =>
    have own : a.ofPoll := ofPoll_of_leads leads rfl
    have few := polls_next s a
    obtain ⟨p, rfl, -⟩ := finish_of_resolves (s := s) (a := a) (o := o) (polls_eq_of_mem few rfl mem)
    exact unfinished p rfl
  case h_3 o =>
    cases leads with
    | unattended =>
      simp [Action.perform, attended ⟨o, rfl⟩] at mem
    | poll _ _ _ stage => simp [Action.ofPoll] at stage
  all_goals
    cases leads <;> simp_all [Frame.isWindup, Action.ofPoll]

theorem report_next (other : ∀ o, a ≠ .record o) :
    ∀ f ∈ (a.perform s).next, f.isReport = false := by
  intro f mem
  have leads := leads_next mem
  cases leads <;> simp_all [Frame.isReport]
  rename_i b own stage
  cases b <;> simp_all [Action.ofPoll]

theorem ofPoll_next (other : a.ofPoll = false) : ∀ f ∈ (a.perform s).next, f.ofPoll = false := by
  intro f mem
  by_contra own
  simp [ofPoll_of_leads (leads_next mem) (by simpa using own)] at other

end

structure Session.IsFresh (s : Session) : Prop where
  unfinal : s.finalized = false
  unclosed : s.closed = false
  unreported : s.transportOutcome = none
  undecided : s.outcome? = none

section

variable {s : Session} {a : Action}

theorem ofFinalization_of_early (early : (Frame.act a).isWindup = false) :
    a.ofFinalization = false := by
  cases a <;> simp_all [Frame.isWindup, Action.ofFinalization]

theorem perform_closed_early (early : (Frame.act a).isWindup = false) (unmarked : a ≠ .markClosed) :
    (a.perform s).session.closed = s.closed := by
  have unclosing : (Happening.acted s a).closes? = none := by
    by_contra closes
    obtain ⟨status, closes⟩ := Option.ne_none_iff_exists'.mp closes
    obtain ⟨t, finalizing, same, -⟩ := closes_cases closes
    obtain ⟨rfl, rfl⟩ := Happening.acted.inj same
    simp [Frame.isWindup] at early
  have unmarking : (Happening.acted s a).marks = false := by
    unfold Happening.marks
    split
    · simp_all
    · rfl
  simp [perform_closed, unclosing, unmarking]

theorem Session.IsFresh.perform (fresh : s.IsFresh) (early : (Frame.act a).isWindup = false)
    (calm : (Frame.act a).isReport = false) (unfinished : ∀ o, a ≠ .finish o) :
    (a.perform s).session.IsFresh := by
  obtain ⟨unfinal, unclosed, unreported, undecided⟩ := fresh
  have unmarked : a ≠ .markClosed := by
    rintro rfl
    simp [Frame.isReport] at calm
  have unrecorded : ∀ o, a ≠ .record o := by
    rintro o rfl
    simp [Frame.isReport] at calm
  refine ⟨?_, ?_, ?_, ?_⟩
  · rw [(bystands_of_other s (ofFinalization_of_early early)).finalized, unfinal]
  · rw [perform_closed_early early unmarked, unclosed]
  · rw [(changes_perform s a).transportOutcome_eq unrecorded, unreported]
  · by_cases opens : a = .openWriter
    · simp [opens, Action.perform, Session.openWriter, Session.outcome?, unreported]
    · rw [(changes_perform s a).outcome_eq opens unfinished, undecided]
      rintro o rfl
      simp [Frame.isReport] at calm

/-- The end of the session, link by link: the frame that comes next on the hand that ends it. -/
inductive Chain (s : Session) : Agenda → Prop
  | concluding (unfinal : s.finalized = false) (unclosed : s.closed = false) :
    Chain s [.act (.conclude .success)]
  | finalizing (unfinal : s.finalized = false) (unclosed : s.closed = false) :
    Chain s [.act (.finalize .success)]
  | resolving (unclosed : s.closed = false) : Chain s [.act (.resolve .success)]
  | settling (unclosed : s.closed = false) : Chain s [.act (.settle .success)]
  | closing (due : s.setting.options.closeOnSendComplete) (unclosed : s.closed = false) :
    Chain s [.act (.close .normal true)]
  | asking (due : s.setting.options.closeOnSendComplete) : Chain s [.wait (.closing .normal true)]
  | told : Chain s []

theorem Chain.act (chain : Chain s [.act a]) :
    Chain (a.perform s).session (a.perform s).next ∧
      ((a.perform s).next = [] → s.setting.options.closeOnSendComplete = false) := by
  cases chain with
  | concluding unfinal unclosed => exact ⟨.finalizing unfinal unclosed, by simp [Action.perform]⟩
  | finalizing unfinal unclosed =>
    have after : (Action.finalize .success).perform s =
        { session := { s with finalized := true }, next := [.act (.resolve .success)] } := by
      simp [Action.perform, unfinal]
    rw [after]
    exact ⟨.resolving unclosed, by simp⟩
  | resolving unclosed =>
    simp only [Action.perform]
    split <;> exact ⟨.settling unclosed, by simp⟩
  | settling unclosed =>
    simp only [Action.perform, Session.settle]
    split
    · rename_i due
      exact ⟨.closing due unclosed, by simp⟩
    · rename_i undue
      exact ⟨.told, by simpa using undue⟩
  | closing due unclosed =>
    have after : (Action.close .normal true).perform s =
        { session := { s with closed := true }, notices := [.logged (.closing .normal)],
          next := [.wait (.closing .normal true)] } := by
      simp [Action.perform, Session.close, unclosed]
    rw [after]
    exact ⟨.asking due, by simp⟩

theorem Chain.beside {front : Agenda} (chain : Chain s front)
    (early : (Frame.act a).isWindup = false) (calm : (Frame.act a).isReport = false) :
    Chain (a.perform s).session front := by
  have unmarked : a ≠ .markClosed := by
    rintro rfl
    simp [Frame.isReport] at calm
  have finalized := (bystands_of_other s (ofFinalization_of_early early)).finalized
  have closed := perform_closed_early (s := s) early unmarked
  have setting := (changes_perform s a).setting_eq
  cases chain with
  | concluding unfinal unclosed =>
    exact .concluding (finalized.trans unfinal) (closed.trans unclosed)
  | finalizing unfinal unclosed =>
    exact .finalizing (finalized.trans unfinal) (closed.trans unclosed)
  | resolving unclosed => exact .resolving (closed.trans unclosed)
  | settling unclosed => exact .settling (closed.trans unclosed)
  | closing due unclosed => exact .closing (setting ▸ due) (closed.trans unclosed)
  | asking due => exact .asking (setting ▸ due)
  | told => exact .told

theorem Chain.cases {front : Agenda} (chain : Chain s front) :
    front = [] ∨ (∃ a, front = [.act a] ∧ (Frame.act a).isWindup) ∨
      front = [.wait (.closing .normal true)] := by
  cases chain <;> simp [Frame.isWindup]

end

end Duplex

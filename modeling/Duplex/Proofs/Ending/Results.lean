import Duplex.Proofs.Outbound.Cancellation
import Duplex.Proofs.Outbound.Course
import Duplex.Proofs.Session.Weave

/-!
The results that are brought to the session's finalization: the end of the attached send, the end of
a handler, and what the transport reports while nobody else will bring a result. Each of them
reaches finalization once, in the order in which they come unless another thread comes between.
-/

namespace Duplex

namespace Happening

def result? : Happening → Option Outcome
  | .began (.endHandler o) | .intruded (.endHandler o) | .acted _ (.conclude o) => some o
  | .acted s (.finalizeUnattended o) => if s.hasOutboundTask then none else some o
  | _ => none

def finalization? : Happening → Option Outcome
  | .acted _ (.finalize o) => some o
  | _ => none

/-- Somebody becomes the session's outbound task, or tries to. -/
def enlists : Happening → Bool
  | .acted _ .attach | .acted _ .attachHandler => true
  | _ => false

end Happening

def Frame.finalization? : Frame → Option Outcome
  | .act (.finalize o) => some o
  | _ => none

namespace History

def results (hs : List Happening) : List Outcome := hs.filterMap Happening.result?

def finalizations (hs : List Happening) : List Outcome := hs.filterMap Happening.finalization?

theorem finalizations_snoc (hs : List Happening) (h : Happening) :
    finalizations (hs ++ [h]) = finalizations hs ++ h.finalization?.toList := filterMap_snoc _ hs h

end History

open History

/-- The results that are on their way to finalization. -/
def brought (agenda : Agenda) : List Outcome := agenda.filterMap Frame.finalization?

theorem brought_actions {op : Op} {h : Happening} (begins : h = .began op ∨ h = .intruded op) :
    brought (op.actions.map .act) = h.result?.toList := by
  rcases begins with rfl | rfl <;> cases op <;> rfl

theorem brought_resume (w : Wait) (a : Answer) : brought ((w.resume a).map .act) = [] := by
  unfold Wait.resume
  split <;> rfl

theorem brought_next (s : Session) (a : Action) :
    brought (a.perform s).next = (Happening.acted s a).result?.toList := by
  have unled (other : ∀ o, a ≠ .conclude o ∧ a ≠ .finalizeUnattended o) :
      brought (a.perform s).next = [] := by
    refine filterMap_next s fun f leads => ?_
    unfold Frame.finalization?
    split
    · cases leads with
      | bring => exact absurd rfl (other _).1
      | report => exact absurd rfl (other _).2
      | poll _ _ _ stage => simp [Action.ofPoll] at stage
    · rfl
  cases a with
  | conclude o => rfl
  | finalizeUnattended o =>
    cases tasked : s.hasOutboundTask <;>
      simp [Action.perform, Happening.result?, tasked, brought, Frame.finalization?]
  | _ => exact unled (by simp)

theorem finalization?_act (s : Session) (a : Action) :
    (Happening.acted s a).finalization? = (Frame.act a).finalization? := by
  cases a <;> rfl

section

variable {s : Session} {hs : List Happening} {m n : Machine}

theorem results_perm (run : Machine.Run ⟨s, []⟩ hs m) :
    (finalizations hs ++ brought m.agenda).Perm (results hs) := by
  refine run.woven.settles ?_ ?_ ?_
  · intro h op begins
    have begins : h = .began op ∨ h = .intruded op := by
      cases h <;> simp [Happening.op?] at begins <;> simp [begins]
    have none_yet : h.finalization? = none := by
      rcases begins with rfl | rfl <;> rfl
    rw [none_yet, ← brought_actions begins]
    exact .refl _
  · intro t a
    rw [finalization?_act, ← brought_next]
    exact .refl _
  · intro w a
    exact List.Perm.of_eq (congrArg _ (brought_resume w a))

theorem brought_of_lags {agenda : Agenda} (lagging : ∀ f ∈ agenda, Machine.lags f) :
    brought agenda = [] := by
  rw [brought, List.filterMap_eq_nil_iff]
  intro f mem
  have lags := lagging f mem
  unfold Frame.finalization?
  split
  · simp [Machine.lags] at lags
  · rfl

theorem concluded_before {u : Session} {o : Outcome} {rest : Agenda}
    (run : Machine.Run ⟨s, []⟩ hs ⟨u, .act (.reply (.polled (some o))) :: rest⟩) :
    ∃ t, .acted t (.conclude o) ∈ hs := by
  have single := single_run run
  have stage := polls_eq_of_mem (f := .act (.reply (.polled (some o)))) single rfl (by simp)
  obtain ⟨before, t, p, -, since, rfl, -, settled, -⟩ := finish_before run stage
  obtain ⟨n, n', -, finishing, waiting⟩ := run.split
  cases finishing using Machine.Step.kinds with
  | acted _ _ below =>
    have next : (Action.perform t (.finish p)).next =
        [.act (.conclude o), .act (.reply (.polled (some o)))] := by
      simp [Action.perform, Session.finish, outcome_control, settled]
    rw [next] at waiting
    -- The poll would be in progress twice if the reply were due and the conclusion still were, too.
    have gone (upper : Agenda) : .act (.reply (.polled (some o))) :: rest ≠
        upper ++ .act (.conclude o) :: .act (.reply (.polled (some o))) :: below := by
      intro same
      cases upper with
      | nil => simp at same
      | cons f upper =>
        obtain ⟨rfl, rfl⟩ := List.cons.inj same
        simp [Action.ofPoll] at single
    obtain ⟨a, v, b, rfl, -, -⟩ := waiting.performs [] rfl gone
    exact ⟨v, by simp⟩

theorem started_of_conclude {o : Outcome} (new : s.IsNew) (run : Machine.Run ⟨s, []⟩ hs m)
    (due : .act (.conclude o) ∈ m.agenda) : m.session.progress ≠ .notStarted := by
  induction run with
  | nil => simp at due
  | snoc run step ih =>
    have attachment := Attachment.run new run
    cases step using Machine.Step.kinds with
    | began _ op | intruded _ op =>
      have other : .act (.conclude o) ∉ op.actions.map Frame.act := by
        cases op <;> simp [Op.actions]
      exact ih ((List.mem_append.mp due).resolve_left other)
    | answered t w rest a =>
      have other : .act (.conclude o) ∉ (w.resume a).map Frame.act := by
        unfold Wait.resume
        split <;> simp
      exact ih (List.mem_cons_of_mem _ ((List.mem_append.mp due).resolve_left other))
    | acted t a rest =>
      apply (changes_perform t a).progress_ne
      rcases List.mem_append.mp due with due | due
      · have own : a.ofPoll := by
          cases leads_next due with
          | conclude => rfl
          | poll _ _ own => exact own
        exact attachment.begun (attachment.attached own)
      · exact ih (List.mem_cons_of_mem _ due)

theorem tasks_eq {s t : Session} {a : Action} (change : Changes s a t)
    (other : (Happening.acted s a).enlists = false) (concludes : ∀ o, a ≠ .conclude o) :
    t.progress = s.progress ∧ t.handlerAttached = s.handlerAttached := by
  have attaches : a ≠ .attach ∧ a ≠ .attachHandler := by
    constructor <;> rintro rfl <;> simp [Happening.enlists] at other
  exact ⟨change.progress_eq attaches.1 concludes, change.handlerAttached_eq attaches.2⟩

theorem perform_tasked {t : Session} {a : Action}
    (started : ∀ o, a = .conclude o → t.progress ≠ .notStarted) :
    (a.perform t).session.hasOutboundTask =
      (t.hasOutboundTask || (Happening.acted t a).enlists) := by
  cases enlists : (Happening.acted t a).enlists with
  | true =>
    cases a with
    | attach =>
      by_cases fresh : t.progress = .notStarted <;>
        simp [Action.perform, Session.hasOutboundTask, fresh]
    | attachHandler => simp [Action.perform, Session.hasOutboundTask]
    | _ => simp [Happening.enlists] at enlists
  | false =>
    by_cases concludes : ∃ o, a = .conclude o
    · obtain ⟨o, rfl⟩ := concludes
      have started := started o rfl
      simp [Action.perform, Session.hasOutboundTask, started]
    · obtain ⟨progress, handler⟩ :=
        tasks_eq (changes_perform t a) enlists fun o same => concludes ⟨o, same⟩
      simp [Session.hasOutboundTask, progress, handler]

theorem tasked_iff (new : s.IsNew) (run : Machine.Run ⟨s, []⟩ hs m) :
    m.session.hasOutboundTask ↔ ∃ h ∈ hs, h.enlists := by
  have any : m.session.hasOutboundTask = hs.any Happening.enlists := by
    induction run with
    | nil =>
      obtain ⟨g, c, rfl, -, -⟩ := new.cases
      rfl
    | snoc run step ih =>
      rw [List.any_append]
      cases step using Machine.Step.kinds with
      | began | intruded => simpa [Happening.enlists, Machine.start] using ih
      | answered => simpa [Happening.enlists] using ih
      | acted t a rest =>
        -- To conclude is progress, too, but there is nothing to conclude before the attachment.
        rw [perform_tasked]
        · rw [show t.hasOutboundTask = _ from ih]
          simp
        · rintro o rfl
          exact started_of_conclude (o := o) new run (by simp)
  rw [any, List.any_eq_true]

end

end Duplex

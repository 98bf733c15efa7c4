import Duplex.Proofs.Outbound.Order

/-!
The outcome of the attached send. The first one recorded stands for good, and everything that the
session does with the send's end (the answer of the poll, the completion, the close) follows it.
-/

namespace Duplex

/-- The outcome that stands for the attached send. -/
def Session.outcome? (s : Session) : Option Outcome := s.control.bind Control.outcome

theorem outcome_control (s : Session) : (s.control.getD {}).outcome = s.outcome? := by
  cases attached : s.control <;> simp [Session.outcome?, attached]

def Outcome.closing : Outcome → CloseStatus
  | .success => .normal
  | .failure e => CloseStatus.serverError.withReason e.message

theorem closing_ne_normal (e : Fault) : (Outcome.failure e).closing ≠ .normal := by
  intro same
  have codes := congrArg CloseStatus.code same
  simp [Outcome.closing, CloseStatus.withReason, CloseStatus.serverError, CloseStatus.normal]
    at codes

theorem outcome_finish (s : Session) (o : Outcome) :
    (s.finish o).session.outcome? = some (s.outcome?.getD o) := by
  rw [← outcome_control s]
  rfl

namespace Changes

variable {s t : Session} {a : Action}

theorem outcome_eq (change : Changes s a t) (opens : a ≠ .openWriter)
    (finishes : ∀ o, a ≠ .finish o) (tells : ∀ o, a ≠ .terminate o) :
    t.outcome? = s.outcome? := by
  cases change with
  | opens => exact absurd rfl opens
  | finishes o => exact absurd rfl (finishes o)
  | terminates o => exact absurd rfl (tells o)
  | registers => exact outcome_control s
  | cancels here => simp [Session.outcome?, here]
  | _ => rfl

theorem outcome_eq_some (change : Changes s a t) {o : Outcome} (opens : a ≠ .openWriter)
    (decided : s.outcome? = some o) : t.outcome? = some o := by
  cases change with
  | opens => exact absurd rfl opens
  | finishes p => simp [outcome_finish, decided]
  | terminates p here undecided => simp [Session.outcome?, here, undecided] at decided
  | registers => exact (outcome_control s).trans decided
  | cancels here => simpa [Session.outcome?, here] using decided
  | _ => exact decided

end Changes

def Session.agrees (s : Session) : Action → Prop
  | .conclude o | .finalize o | .resolve o | .settle o | .reply (.polled (some o)) =>
    s.outcome? = some o
  | .close status true => ∃ o, s.outcome? = some o ∧ status = o.closing
  | .record _ => s.control.isSome
  | .finalizeUnattended _ => False
  | _ => True

theorem agrees_mono {s t : Session} {a : Action} (ok : s.agrees a)
    (outcome : ∀ o, s.outcome? = some o → t.outcome? = some o)
    (attached : s.control.isSome → t.control.isSome) : t.agrees a := by
  unfold Session.agrees at ok ⊢
  split at ok
  · exact outcome _ ok
  · exact outcome _ ok
  · exact outcome _ ok
  · exact outcome _ ok
  · exact outcome _ ok
  · obtain ⟨o, decided, status⟩ := ok
    exact ⟨o, outcome o decided, status⟩
  · exact attached ok
  · exact ok
  · trivial

theorem agrees_next {s : Session} {a : Action} (ok : s.agrees a) :
    ∀ b, .act b ∈ (a.perform s).next → (a.perform s).session.agrees b := by
  cases a with
  | finish o =>
    intro b mem
    let final := (s.control.getD {}).outcome.getD o
    have next : b = .conclude final ∨ b = .reply (.polled (some final)) := by
      simpa [Action.perform, Session.finish] using mem
    rcases next with rfl | rfl
    · rfl
    · rfl
  | conclude o =>
    intro b mem
    obtain rfl : b = .finalize o := by simpa [Action.perform] using mem
    exact ok
  | finalize o =>
    cases final : s.finalized with
    | true => simp [Action.perform, final]
    | false =>
      simp only [Action.perform, final, Bool.false_eq_true, if_false]
      intro b mem
      obtain rfl : b = .resolve o := by simpa using mem
      exact ok
  | resolve o =>
    intro b mem
    have next : b = .settle o ∧ (Action.perform s (.resolve o)).session.control = s.control := by
      simp only [Action.perform] at mem ⊢
      split at mem <;> simpa using mem
    obtain ⟨rfl, same⟩ := next
    exact agrees_mono ok (by simp [Session.outcome?, same]) (by simp [same])
  | settle o =>
    intro b mem
    cases o with
    | success =>
      cases closes : s.setting.options.closeOnSendComplete with
      | true =>
        simp only [Action.perform, Session.settle, closes, if_true] at mem ⊢
        obtain rfl : b = .close .normal true := by simpa using mem
        exact ⟨_, ok, rfl⟩
      | false => simp [Action.perform, Session.settle, closes] at mem
    | failure e =>
      have next : b = .failInbound e ∨
          b = .close (CloseStatus.serverError.withReason e.message) true := by
        simpa [Action.perform, Session.settle] using mem
      rcases next with rfl | rfl
      · trivial
      · exact ⟨_, ok, rfl⟩
  | close status finalizing =>
    cases closed : s.closed <;> cases finalizing <;>
      simp [Action.perform, Session.close, closed, Session.agrees]
  | record o =>
    have attached : s.control.isSome := ok
    simp [Action.perform, attached, Session.agrees]
  | finalizeUnattended o => exact absurd ok id
  | register | inspect | checkCancelled | request | hold | drain | gate | watchReadiness | recheck
  | emit | release | reply =>
    intro b mem
    cases leads_next mem with
    | poll _ _ own =>
      have step := pollStep_perform s own
      generalize (Action.perform s _).session = t, (Action.perform s _).next = next at step mem ⊢
      cases step <;> simp_all [Session.agrees]
  | _ =>
    intro b mem
    cases leads_next mem with
    | poll _ _ own => simp [Action.ofPoll] at own
    | _ => trivial

def Op.isTransportEnd : Op → Bool
  | .transportError _ | .transportClose _ => true
  | _ => false

def Op.isHandlerEnd : Op → Bool
  | .endHandler _ => true
  | _ => false

theorem agrees_actions {s : Session} {op : Op} (attached : op.isTransportEnd → s.control.isSome)
    (unhandled : op.isHandlerEnd = false) : ∀ a ∈ op.actions, s.agrees a := by
  cases op with
  | endHandler o => simp [Op.isHandlerEnd] at unhandled
  | transportError e => simpa [Op.actions, Session.agrees] using attached rfl
  | transportClose status => simpa [Op.actions, Session.agrees] using attached rfl
  | _ => simp [Op.actions, Session.agrees]

theorem agrees_resume (s : Session) (w : Wait) (a : Answer) : ∀ b ∈ w.resume a, s.agrees b := by
  unfold Wait.resume
  split <;> simp [Session.agrees]

theorem attached_step {m n : Machine} {h : Happening} (step : Machine.Step m h n)
    (attached : m.session.control.isSome) : n.session.control.isSome := by
  cases step using Machine.Step.kinds with
  | began | intruded | answered => exact attached
  | acted s a rest => exact (changes_perform s a).control_isSome attached

theorem outcome_step {gs : List Happening} {m n : Machine} {h : Happening} {o : Outcome}
    (attachment : Attachment gs m) (step : Machine.Step m h n)
    (decided : m.session.outcome? = some o) : n.session.outcome? = some o := by
  cases step using Machine.Step.kinds with
  | began | intruded | answered => exact decided
  | acted s a rest =>
    refine (changes_perform s a).outcome_eq_some ?_ decided
    intro opens
    subst opens
    have unattached := attachment.opens.1
    simp [Session.outcome?, unattached] at decided

def Machine.Agrees (m : Machine) : Prop := ∀ a, .act a ∈ m.agenda → m.session.agrees a

theorem Machine.Agrees.step {gs : List Happening} {m n : Machine} {h : Happening}
    (attachment : Attachment gs m) (ok : m.Agrees) (step : Machine.Step m h n)
    (ends : ∀ op ∈ h.op?, op.isTransportEnd → m.session.control.isSome)
    (unhandled : ∀ op ∈ h.op?, op.isHandlerEnd = false) : n.Agrees := by
  have outcome (o : Outcome) := outcome_step (o := o) attachment step
  have attached := attached_step step
  have start (op : Op) (here : h.op? = some op) (same : n = m.start op) : n.Agrees := by
    subst same
    intro a mem
    have due : a ∈ op.actions ∨ .act a ∈ m.agenda := by simpa [Machine.start] using mem
    rcases due with mem | mem
    · exact agrees_actions (ends op here) (unhandled op here) a mem
    · exact ok a mem
  cases step using Machine.Step.kinds with
  | began m op => exact start op rfl rfl
  | intruded m op => exact start op rfl rfl
  | acted s a rest =>
    intro b mem
    rcases List.mem_append.mp mem with mem | mem
    · exact agrees_next (ok a (by simp)) b mem
    · exact agrees_mono (ok b (by simp [mem])) outcome attached
  | answered s w rest a =>
    intro b mem
    have due : b ∈ w.resume a ∨ .act b ∈ rest := by simpa using mem
    rcases due with mem | mem
    · exact agrees_resume s w a b mem
    · exact ok b (by simp [mem])

theorem attached_run {m n : Machine} {hs : List Happening} (run : Machine.Run m hs n)
    (attached : m.session.control.isSome) : n.session.control.isSome :=
  run.keeps (p := fun s => s.control.isSome) (fun s a => (changes_perform s a).control_isSome)
    attached

theorem outcome_run {gs hs : List Happening} {m n : Machine} {o : Outcome}
    (attachment : Attachment gs m) (run : Machine.Run m hs n)
    (decided : m.session.outcome? = some o) : n.session.outcome? = some o := by
  induction run with
  | nil => exact decided
  | snoc run step ih => exact outcome_step (attachment.after run) step ih

theorem Machine.Agrees.run {gs hs : List Happening} {m n : Machine} (attachment : Attachment gs m)
    (ok : m.Agrees) (run : Machine.Run m hs n)
    (ends : ∀ g ∈ hs, ∀ op ∈ g.op?, op.isTransportEnd → m.session.control.isSome)
    (unhandled : ∀ g ∈ hs, ∀ op ∈ g.op?, op.isHandlerEnd = false) : n.Agrees := by
  induction run with
  | nil => exact ok
  | snoc run step ih =>
    have before := ih (fun g mem => ends g (by simp [mem])) (fun g mem => unhandled g (by simp [mem]))
    refine before.step (attachment.after run) step ?_ (unhandled _ (by simp))
    intro op here isEnd
    exact attached_run run (ends _ (by simp) op here isEnd)

theorem Machine.Agrees.acted {gs hs : List Happening} {m n : Machine} {s : Session} {a : Action}
    (attachment : Attachment gs m) (ok : m.Agrees) (run : Machine.Run m hs n)
    (ends : ∀ g ∈ hs, ∀ op ∈ g.op?, op.isTransportEnd → m.session.control.isSome)
    (unhandled : ∀ g ∈ hs, ∀ op ∈ g.op?, op.isHandlerEnd = false) (acted : .acted s a ∈ hs) :
    s.agrees a ∧ ∀ o, s.outcome? = some o → n.session.outcome? = some o := by
  obtain ⟨pre, post, rfl⟩ := List.append_of_mem acted
  obtain ⟨k, k', before, step, after⟩ := run.split
  have then_on : Machine.Run k (.acted s a :: post) n := after.cons step
  have here : k.Agrees := ok.run attachment before (fun g mem => ends g (by simp [mem]))
    (fun g mem => unhandled g (by simp [mem]))
  cases step
  exact ⟨here a (by simp), fun o decided => outcome_run (attachment.after before) then_on decided⟩

end Duplex

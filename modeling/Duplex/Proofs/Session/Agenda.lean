import Duplex.Proofs.Session.Run

/-!
What can follow what: the frames that an action can put on the agenda.
-/

namespace Duplex

/-- Many actions can wake whoever waits; a poll goes from stage to stage; everything else that an
action can lead to is its own. -/
inductive Leads : Action → Frame → Prop
  | suspend (m : Message) : Leads (.receive m) (.wait (.suspending m))
  | resume (p : Puller) (m : Message) : Leads (.take p) (.wait (.resuming m))
  | pulled (p : Puller) (x : Pull) : Leads (.take p) (.act (.reply (.pulled x)))
  | rouse (ready : Bool) : Leads (.setReady ready) (.act .wakeWriter)
  | open_ : Leads .attach (.act .openWriter)
  | refused : Leads .attach (.act (.reply (.attached false)))
  | opened : Leads .openWriter (.act (.reply (.attached true)))
  | pull (w : Waker) : Leads .request (.wait (.pulling w))
  | write (m : Message) : Leads .emit (.wait (.writing m))
  | conclude (o p : Outcome) : Leads (.finish o) (.act (.conclude p))
  | bring (o : Outcome) : Leads (.conclude o) (.act (.finalize o))
  | cancel (o : Outcome) : Leads (.record o) (.act .cancel)
  | terminate (o : Outcome) : Leads (.record o) (.act (.terminate o))
  | unattended (o : Outcome) : Leads (.record o) (.act (.finalizeUnattended o))
  | report (o : Outcome) : Leads (.finalizeUnattended o) (.act (.finalize o))
  | resolve (o : Outcome) : Leads (.finalize o) (.act (.resolve o))
  | settle (o : Outcome) : Leads (.resolve o) (.act (.settle o))
  | fail (o : Outcome) (e : Fault) : Leads (.settle o) (.act (.failInbound e))
  | finish (o : Outcome) (status : CloseStatus) : Leads (.settle o) (.act (.close status true))
  | close (status : CloseStatus) (finalizing : Bool) :
    Leads (.close status finalizing) (.wait (.closing status finalizing))
  | closed (status : CloseStatus) (o : Outcome) :
    Leads (.close status false) (.act (.reply (.closed o)))
  | wake (a : Action) (w : Waker) : Leads a (.wait (.waking w))
  | poll (a b : Action) (own : a.ofPoll) (stage : b.ofPoll) : Leads a (.act b)

theorem leads_next {s : Session} {a : Action} {f : Frame} (mem : f ∈ (a.perform s).next) :
    Leads a f := by
  have wakes (w : Option Waker) (mem : f ∈ wakeFrames w) : Leads a f := by
    cases w with
    | none => simp [wakeFrames] at mem
    | some v =>
      obtain rfl : f = .wait (.waking v) := by simpa [wakeFrames] using mem
      exact .wake a v
  cases a with
  | take p =>
    cases queue : s.inbound.pending with
    | nil =>
      obtain rfl : f = .act (.reply (.pulled (s.inbound.report p).2)) := by
        simpa [Action.perform, Session.take_of_nil p queue] using mem
      exact .pulled p _
    | cons m rest =>
      obtain rfl : f = .wait (.resuming m) := by
        simpa [Action.perform, Session.take_of_cons p queue] using mem
      exact .resume p m
  | close status finalizing =>
    cases closed : s.closed <;> cases finalizing <;>
      simp [Action.perform, Session.close, closed] at mem <;> subst mem <;> constructor
  | _ =>
    simp only [Action.perform, Session.withWriter, Session.store, Session.failInbound,
      Session.openWriter, Session.finish, Session.settle] at mem
    repeat' split at mem
    all_goals first
      | exact wakes _ mem
      | exact absurd mem List.not_mem_nil
      | obtain rfl := List.mem_singleton.mp mem
        constructor <;> rfl
      | rcases List.mem_cons.mp mem with rfl | mem
        · constructor
        · obtain rfl := List.mem_singleton.mp mem
          constructor <;> rfl

theorem not_leads_record (a : Action) (o : Outcome) : ¬ Leads a (.act (.record o)) := by
  intro leads
  cases leads with
  | poll _ _ _ stage => simp [Action.ofPoll] at stage

theorem eq_of_leads_terminate {a : Action} {o : Outcome} (leads : Leads a (.act (.terminate o))) :
    a = .record o := by
  cases leads with
  | terminate => rfl
  | poll _ _ _ stage => simp [Action.ofPoll] at stage

inductive Trails : Frame → Prop
  | answer (o : Outcome) : Trails (.act (.reply (.polled (some o))))
  | terminate (o : Outcome) : Trails (.act (.terminate o))
  | close (status : CloseStatus) : Trails (.act (.close status true))

theorem trails_next {s : Session} {a : Action} {f : Frame} (below : f ∈ (a.perform s).next.tail) :
    Trails f := by
  have woken (w : Option Waker) : (wakeFrames w).tail = [] := by cases w <;> rfl
  cases a with
  | finish o =>
    obtain rfl := List.mem_singleton.mp below
    exact .answer _
  | settle o =>
    cases o with
    | failure e =>
      obtain rfl := List.mem_singleton.mp below
      exact .close _
    | success =>
      simp only [Action.perform, Session.settle] at below
      split at below <;> simp at below
  | record o =>
    cases attached : s.control.isSome with
    | false => simp [Action.perform, attached] at below
    | true =>
      obtain rfl : f = .act (.terminate o) := by simpa [Action.perform, attached] using below
      exact .terminate o
  | _ =>
    simp only [Action.perform, Session.withWriter, Session.store, Session.take, Session.failInbound,
      Session.openWriter, Session.close] at below
    repeat' split at below
    all_goals simp [woken] at below

section

variable {a : Action} (s : Session)

theorem countP_next {p : Frame → Bool} (unled : ∀ f, Leads a f → p f = false) :
    (a.perform s).next.countP p = 0 := by
  rw [List.countP_eq_zero]
  intro f mem
  simp [unled f (leads_next mem)]

theorem filter_next {p : Frame → Bool} (unled : ∀ f, Leads a f → p f = false) :
    (a.perform s).next.filter p = [] := by
  rw [List.filter_eq_nil_iff]
  intro f mem
  simp [unled f (leads_next mem)]

theorem filterMap_next {α : Type} {p : Frame → Option α} (unled : ∀ f, Leads a f → p f = none) :
    (a.perform s).next.filterMap p = [] := by
  rw [List.filterMap_eq_nil_iff]
  intro f mem
  exact unled f (leads_next mem)

end

end Duplex

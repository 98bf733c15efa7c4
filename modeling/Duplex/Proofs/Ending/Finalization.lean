import Duplex.Proofs.Ending.Close
import Duplex.Proofs.Ending.Results
import Duplex.Proofs.Inbound.Turn

/-!
Finalization happens once. The first result that reaches it is what the completion signal receives
and decides how the connection ends; later ones change nothing.
-/

namespace Duplex

/-- What the completion signal of a session is after a result. -/
def Completion.after (c : Completion) (o : Outcome) : Completion :=
  match c with
  | .waiting => .resolved o
  | c => c

def Completion.receipts (c : Completion) (o : Outcome) : List Outcome :=
  match c with
  | .waiting => [o]
  | _ => []

/-- The close to which a result leads. -/
def Outcome.close? (o : Outcome) (options : SessionOptions) : Option CloseStatus :=
  match o with
  | .success => if options.closeOnSendComplete then some .normal else none
  | .failure _ => some o.closing

namespace History

def completions (hs : List Happening) : List Outcome := hs.filterMap Happening.completion?

/-- The closes to which finalization comes, whether or not the session is closed by then. -/
def finalCloses (hs : List Happening) : List CloseStatus := hs.filterMap Happening.finalClose?

theorem completions_snoc (hs : List Happening) (h : Happening) :
    completions (hs ++ [h]) = completions hs ++ h.completion?.toList := filterMap_snoc _ hs h

theorem finalCloses_snoc (hs : List Happening) (h : Happening) :
    finalCloses (hs ++ [h]) = finalCloses hs ++ h.finalClose?.toList := filterMap_snoc _ hs h

end History

open History

def Frame.finalizes : Frame → Bool
  | .act (.resolve _) | .act (.settle _) | .act (.close _ true) => true
  | _ => false

def finals (agenda : Agenda) : Agenda := agenda.filter Frame.finalizes

@[simp] theorem finals_nil : finals [] = [] := rfl

@[simp] theorem finals_cons (f : Frame) (rest : Agenda) :
    finals (f :: rest) = if f.finalizes then f :: finals rest else finals rest := List.filter_cons

@[simp] theorem finals_append (a b : Agenda) : finals (a ++ b) = finals a ++ finals b :=
  List.filter_append a b

theorem finals_actions (op : Op) : finals (op.actions.map .act) = [] := by cases op <;> rfl

theorem finals_resume (w : Wait) (a : Answer) : finals ((w.resume a).map .act) = [] := by
  unfold Wait.resume
  split <;> rfl

def Action.ofFinalization : Action → Bool
  | .finalize _ | .resolve _ | .settle _ | .close _ true => true
  | _ => false

structure Bystands (s : Session) (a : Action) : Prop where
  completion : (a.perform s).session.completion = s.completion
  finalized : (a.perform s).session.finalized = s.finalized
  frames : finals (a.perform s).next = []
  reached : (Happening.acted s a).finalization? = none
  completed : (Happening.acted s a).completion? = none
  closed : (Happening.acted s a).finalClose? = none

theorem ofFinalization_of_leads {a : Action} {f : Frame} (leads : Leads a f) (own : f.finalizes) :
    a.ofFinalization := by
  cases leads with
  | resolve | settle | finish => rfl
  | poll _ b _ stage =>
    unfold Frame.finalizes at own
    split at own <;> simp_all [Action.ofPoll]
  | _ => simp [Frame.finalizes] at own

theorem bystands_of_other (s : Session) {a : Action} (other : a.ofFinalization = false) :
    Bystands s a := by
  have frames : finals (a.perform s).next = [] := by
    refine filter_next s fun f leads => ?_
    by_contra own
    simp [ofFinalization_of_leads leads (by simpa using own)] at other
  have completion := (changes_perform s a).completion_eq
  have finalized := (changes_perform s a).finalized_eq
  cases a with
  | finalize | resolve | settle => simp [Action.ofFinalization] at other
  | close status finalizing =>
    cases finalizing with
    | true => simp [Action.ofFinalization] at other
    | false =>
      exact ⟨completion (by simp), finalized (by simp), frames, rfl, rfl, rfl⟩
  | _ => exact ⟨completion (by simp), finalized (by simp), frames, rfl, rfl, rfl⟩

section

variable (c : Completion) (options : SessionOptions)

/-- How far finalization has come: its result, what is still to be done, the completion signal,
what that has received, and the closes to which finalization has come. -/
inductive Settlement : Option Outcome → Agenda → Completion → List Outcome → List CloseStatus → Prop
  | open_ : Settlement none [] c [] []
  | resolving (r : Outcome) : Settlement (some r) [.act (.resolve r)] c [] []
  | settling (r : Outcome) :
    Settlement (some r) [.act (.settle r)] (c.after r) (c.receipts r) []
  | closing (r : Outcome) (status : CloseStatus) (due : r.close? options = some status) :
    Settlement (some r) [.act (.close status true)] (c.after r) (c.receipts r) []
  | done (r : Outcome) :
    Settlement (some r) [] (c.after r) (c.receipts r) (r.close? options).toList

structure Settled (hs : List Happening) (m : Machine) : Prop where
  course : Settlement c options (finalizations hs).head? (finals m.agenda) m.session.completion
    (completions hs) (finalCloses hs)
  finalized : m.session.finalized = (finalizations hs).head?.isSome
  options_eq : m.session.setting.options = options

end

section

variable {c : Completion} {options : SessionOptions} {s : Session} {hs : List Happening}
  {m n : Machine}

theorem Settled.snoc {h : Happening}
    (course : Settlement c options ((finalizations hs).head?.or h.finalization?) (finals n.agenda)
      n.session.completion (completions hs ++ h.completion?.toList)
      (finalCloses hs ++ h.finalClose?.toList))
    (finalized : n.session.finalized = ((finalizations hs).head?.or h.finalization?).isSome)
    (options_eq : n.session.setting.options = options) : Settled c options (hs ++ [h]) n := by
  have first : (finalizations (hs ++ [h])).head? = (finalizations hs).head?.or h.finalization? := by
    rw [finalizations_snoc, List.head?_append]
    cases h.finalization? <;> rfl
  constructor
  · rwa [first, completions_snoc, finalCloses_snoc]
  · rwa [first]
  · exact options_eq

theorem Settled.aside {h : Happening} (ok : Settled c options hs m)
    (frames : finals n.agenda = finals m.agenda)
    (completion : n.session.completion = m.session.completion)
    (finalized : n.session.finalized = m.session.finalized)
    (setting : n.session.setting = m.session.setting) (reached : h.finalization? = none)
    (completed : h.completion? = none) (closed : h.finalClose? = none) :
    Settled c options (hs ++ [h]) n := by
  apply Settled.snoc
  · rw [frames, completion, reached, completed, closed]
    simpa using ok.course
  · rw [finalized, reached]
    simpa using ok.finalized
  · rw [setting]
    exact ok.options_eq

theorem Settlement.of_none {frames : Agenda} {k : Completion} {rs : List Outcome}
    {cs : List CloseStatus} (ok : Settlement c options none frames k rs cs) :
    frames = [] ∧ k = c ∧ rs = [] ∧ cs = [] := by
  cases ok
  simp

theorem Settlement.of_resolve {first : Option Outcome} {r : Outcome} {below : Agenda}
    {k : Completion} {rs : List Outcome} {cs : List CloseStatus}
    (ok : Settlement c options first (.act (.resolve r) :: below) k rs cs) :
    first = some r ∧ below = [] ∧ k = c ∧ rs = [] ∧ cs = [] := by
  cases ok
  simp

theorem Settlement.of_settle {first : Option Outcome} {r : Outcome} {below : Agenda}
    {k : Completion} {rs : List Outcome} {cs : List CloseStatus}
    (ok : Settlement c options first (.act (.settle r) :: below) k rs cs) :
    first = some r ∧ below = [] ∧ k = c.after r ∧ rs = c.receipts r ∧ cs = [] := by
  cases ok
  simp

theorem Settlement.of_close {first : Option Outcome} {status : CloseStatus} {below : Agenda}
    {k : Completion} {rs : List Outcome} {cs : List CloseStatus}
    (ok : Settlement c options first (.act (.close status true) :: below) k rs cs) :
    ∃ r, r.close? options = some status ∧ first = some r ∧ below = [] ∧ k = c.after r ∧
      rs = c.receipts r ∧ cs = [] := by
  cases ok with
  | closing r _ due => exact ⟨r, due, by simp⟩

theorem Settled.finalize {r : Outcome} {rest : Agenda}
    (ok : Settled c options hs ⟨s, .act (.finalize r) :: rest⟩) :
    Settled c options (hs ++ [.acted s (.finalize r)])
      ⟨((Action.finalize r).perform s).session, ((Action.finalize r).perform s).next ++ rest⟩ := by
  obtain ⟨course, finalized, options_eq⟩ := ok
  cases first : (finalizations hs).head? with
  | some q =>
    have final : s.finalized = true := finalized.trans (by simp [first])
    have after : (Action.finalize r).perform s =
        { session := s, notices := [.logged .alreadyCompleted] } := by
      simp [Action.perform, final]
    rw [after]
    apply Settled.snoc
    · simpa [first, Happening.finalization?, Happening.completion?, Happening.finalClose?,
        Frame.finalizes] using course
    · simpa [first] using finalized
    · exact options_eq
  | none =>
    have unfinal : s.finalized = false := finalized.trans (by simp [first])
    rw [first] at course
    obtain ⟨below, completion, received, closed⟩ := course.of_none
    have below : finals rest = [] := by simpa [Frame.finalizes] using below
    have completion : s.completion = c := completion
    have after : (Action.finalize r).perform s =
        { session := { s with finalized := true }, next := [.act (.resolve r)] } := by
      simp [Action.perform, unfinal]
    rw [after]
    apply Settled.snoc
    · simpa [first, received, closed, Happening.finalization?, Happening.completion?,
        Happening.finalClose?, Frame.finalizes, below, completion] using Settlement.resolving r
    · simp [first, Happening.finalization?]
    · exact options_eq

theorem perform_resolve (s : Session) (r : Outcome) :
    ((Action.resolve r).perform s).next = [.act (.settle r)] ∧
      ((Action.resolve r).perform s).session = { s with completion := s.completion.after r } := by
  cases signal : s.completion <;> simp [Action.perform, signal, Completion.after]
  all_goals rw [← signal]

theorem Settled.resolve {r : Outcome} {rest : Agenda}
    (ok : Settled c options hs ⟨s, .act (.resolve r) :: rest⟩) :
    Settled c options (hs ++ [.acted s (.resolve r)])
      ⟨((Action.resolve r).perform s).session, ((Action.resolve r).perform s).next ++ rest⟩ := by
  obtain ⟨course, finalized, options_eq⟩ := ok
  obtain ⟨first, below, completion, received, closed⟩ := course.of_resolve
  have below : finals rest = [] := below
  have completion : s.completion = c := completion
  have receives : (Happening.acted s (.resolve r)).completion?.toList = c.receipts r := by
    rw [← completion]
    cases signal : s.completion <;> simp [Happening.completion?, signal, Completion.receipts]
  obtain ⟨next, session⟩ := perform_resolve s r
  rw [next, session]
  apply Settled.snoc
  · simpa [first, received, closed, receives, Happening.finalization?, Happening.finalClose?,
      Frame.finalizes, below, completion] using Settlement.settling r
  · simpa [Happening.finalization?] using finalized
  · exact options_eq

theorem Settled.settle {r : Outcome} {rest : Agenda}
    (ok : Settled c options hs ⟨s, .act (.settle r) :: rest⟩) :
    Settled c options (hs ++ [.acted s (.settle r)])
      ⟨((Action.settle r).perform s).session, ((Action.settle r).perform s).next ++ rest⟩ := by
  obtain ⟨course, finalized, options_eq⟩ := ok
  obtain ⟨first, below, completion, received, closed⟩ := course.of_settle
  have below : finals rest = [] := below
  have completion : s.completion = c.after r := completion
  have options_eq : s.setting.options = options := options_eq
  obtain ⟨session, next⟩ : ((Action.settle r).perform s).session = s ∧
      finals ((Action.settle r).perform s).next =
        (r.close? options).toList.map fun status => .act (.close status true) := by
    rw [← options_eq]
    cases r with
    | success =>
      cases closes : s.setting.options.closeOnSendComplete <;>
        simp [Action.perform, Session.settle, closes, Outcome.close?, Frame.finalizes]
    | failure e =>
      simp [Action.perform, Session.settle, Outcome.close?, Outcome.closing, Frame.finalizes]
  rw [session]
  apply Settled.snoc
  · rw [finals_append, next]
    cases due : r.close? options with
    | none =>
      -- No close is due to a success that leaves the connection open: that is all.
      have course : Settlement c options (some r) [] _ _ (r.close? options).toList := .done r
      simpa [due, first, received, closed, Happening.finalization?, Happening.completion?,
        Happening.finalClose?, below, completion] using course
    | some status =>
      simpa [first, received, closed, Happening.finalization?, Happening.completion?,
        Happening.finalClose?, below, completion] using Settlement.closing r status due
  · simpa [Happening.finalization?] using finalized
  · exact options_eq

theorem Settled.close {status : CloseStatus} {rest : Agenda}
    (ok : Settled c options hs ⟨s, .act (.close status true) :: rest⟩) :
    Settled c options (hs ++ [.acted s (.close status true)])
      ⟨((Action.close status true).perform s).session,
        ((Action.close status true).perform s).next ++ rest⟩ := by
  obtain ⟨course, finalized, options_eq⟩ := ok
  obtain ⟨r, due, first, below, completion, received, unclosed⟩ := course.of_close
  have below : finals rest = [] := below
  have completion : s.completion = c.after r := completion
  obtain ⟨completion_eq, finalized_eq, next⟩ :
      ((Action.close status true).perform s).session.completion = s.completion ∧
        ((Action.close status true).perform s).session.finalized = s.finalized ∧
        finals ((Action.close status true).perform s).next = [] := by
    cases shut : s.closed <;> simp [Action.perform, Session.close, shut, Frame.finalizes]
  apply Settled.snoc
  · have course : Settlement c options (some r) [] _ _ (r.close? options).toList := .done r
    simpa [due, first, received, unclosed, next, completion_eq, Happening.finalization?,
      Happening.completion?, Happening.finalClose?, below, completion] using course
  · rw [finalized_eq]
    simpa [Happening.finalization?] using finalized
  · rw [(changes_perform _ _).setting_eq]
    exact options_eq

theorem Settled.step {h : Happening} (ok : Settled c options hs m) (step : Machine.Step m h n) :
    Settled c options (hs ++ [h]) n := by
  cases step using Machine.Step.kinds with
  | began _ op | intruded _ op =>
    exact ok.aside (by rw [Machine.start, finals_append, finals_actions, List.nil_append])
      rfl rfl rfl rfl rfl rfl
  | answered s w rest a =>
    exact ok.aside (by simp [finals_resume, Frame.finalizes]) rfl rfl rfl rfl rfl rfl
  | acted s a rest =>
    cases own : a.ofFinalization with
    | false =>
      obtain ⟨completion, finalized, frames, reached, completed, closed⟩ := bystands_of_other s own
      have setting := (changes_perform s a).setting_eq
      refine ok.aside ?_ completion finalized setting reached completed closed
      have still : (Frame.act a).finalizes = false := by
        unfold Frame.finalizes
        split <;> first | rfl | simp_all [Action.ofFinalization]
      simp [frames, still]
    | true =>
      cases a with
      | finalize r => exact ok.finalize
      | resolve r => exact ok.resolve
      | settle r => exact ok.settle
      | close status finalizing =>
        cases finalizing with
        | true => exact ok.close
        | false => simp [Action.ofFinalization] at own
      | _ => simp [Action.ofFinalization] at own

theorem Settled.run (new : s.IsNew) (run : Machine.Run ⟨s, []⟩ hs m) :
    Settled s.completion s.setting.options hs m := by
  induction run with
  | nil =>
    obtain ⟨g, c, rfl, -, -⟩ := new.cases
    exact ⟨.open_, rfl, rfl⟩
  | snoc run step ih => exact ih.step step

theorem Settlement.within {first : Option Outcome} {frames : Agenda} {k : Completion}
    {rs : List Outcome} {cs : List CloseStatus} {r : Outcome}
    (ok : Settlement c options first frames k rs cs) (here : first = some r) :
    rs <+: c.receipts r ∧ cs <+: (r.close? options).toList ∧
      (frames = [] → k = c.after r ∧ rs = c.receipts r ∧ cs = (r.close? options).toList) := by
  cases ok <;> simp_all

theorem Settlement.unresolved {first : Option Outcome} {frames : Agenda} {k : Completion}
    {cs : List CloseStatus} (ok : Settlement c options first frames k [] cs) : k = c := by
  generalize unreceived : [] = rs at ok
  cases ok with
  | open_ | resolving => rfl
  | settling | closing | done =>
    cases c <;> simp [Completion.receipts, Completion.after] at unreceived ⊢

def Outcome.ending : Outcome → Agenda
  | .success => []
  | .failure e => [.act (.failInbound e)]

end

end Duplex

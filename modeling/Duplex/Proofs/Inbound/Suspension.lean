import Duplex.Proofs.Inbound.Turn
import Duplex.Proofs.Session.Call
import Duplex.Proofs.Session.New

/-!
The transport is suspended when a message is let in and resumed when one is taken. Between the two,
as long as the sequence has not ended with nothing left to take, a message is there to be taken or
about to be stored. Once it has ended that way, the transport hears neither call again.
-/

namespace Duplex

def Call.isFlow : Call → Bool
  | .suspend | .resume => true
  | _ => false

namespace Happening

def flow? (h : Happening) : Option Call := h.call?.filter Call.isFlow

/-- The sequence ends with nothing left to take. -/
def spends : Happening → Bool
  | .acted s a =>
    s.inbound.isLive && !(a.perform s).session.inbound.isLive &&
      !(a.perform s).session.inbound.isAvailable
  | _ => false

theorem spends_acted {s : Session} {a : Action} :
    (acted s a).spends = true ↔ s.inbound.isLive ∧ (a.perform s).session.IsSpent := by
  constructor
  · intro spends
    simp only [Happening.spends, Bool.and_eq_true, Bool.not_eq_true', Inbound.isAvailable,
      Bool.not_eq_false', List.isEmpty_iff] at spends
    obtain ⟨⟨live, ended⟩, empty⟩ := spends
    exact ⟨live, ended, empty⟩
  · intro spends
    obtain ⟨live, ended, empty⟩ := spends
    simp [Happening.spends, live, ended, Inbound.isAvailable, empty]

end Happening

theorem flow_cases {s : Session} {a : Action} {c : Call}
    (flow : (Happening.acted s a).flow? = some c) :
    (c = .suspend ∧ s.inbound.isLive ∧ ∃ x, a = .receive x) ∨
      (c = .resume ∧ s.inbound.pending ≠ []) := by
  obtain ⟨call, flows⟩ := Option.filter_eq_some_iff.mp flow
  cases begins_of_call call with
  | suspend x live => exact .inl ⟨rfl, live, x, rfl⟩
  | resume p resident => exact .inr ⟨rfl, resident⟩
  | wake | pull | write | close => simp [Call.isFlow] at flows

def Machine.Owes (m : Machine) : Prop :=
  ∃ x, .wait (.suspending x) ∈ m.agenda ∨ .act (.store x) ∈ m.agenda

def History.spent (hs : List Happening) : Bool := hs.any Happening.spends

theorem History.spent_snoc (hs : List Happening) (h : Happening) :
    spent (hs ++ [h]) = (spent hs || h.spends) := by
  simp [spent]

/-- What a run since the last suspension says about the machine that it leads to. -/
structure Suspended (hs : List Happening) (m : Machine) : Prop where
  resident : History.spent hs = false →
    m.session.inbound.pending ≠ [] ∨ (m.session.inbound.isLive ∧ m.Owes)
  spent : History.spent hs → m.session.IsSpent

theorem Suspended.start {m n : Machine} {h : Happening} (step : Machine.Step m h n)
    (suspended : h.flow? = some .suspend) : Suspended [] n := by
  refine ⟨fun _ => .inr ?_, by simp [History.spent]⟩
  cases step using Machine.Step.kinds with
  | began | intruded | answered => simp [Happening.flow?, Happening.call?] at suspended
  | acted s a rest =>
    rcases flow_cases suspended with ⟨-, live, x, rfl⟩ | ⟨wrong, -⟩
    · simp only [Action.perform, live, if_true, Machine.Owes]
      exact ⟨trivial, x, .inl (by simp)⟩
    · simp at wrong

theorem Suspended.of_agenda {hs : List Happening} {h : Happening} {s : Session} {old new : Agenda}
    (ok : Suspended hs ⟨s, old⟩) (quiet : h.spends = false)
    (owes : Machine.Owes ⟨s, old⟩ → Machine.Owes ⟨s, new⟩) : Suspended (hs ++ [h]) ⟨s, new⟩ := by
  have same : History.spent (hs ++ [h]) = History.spent hs := by
    simp [History.spent_snoc, quiet]
  constructor <;> rw [same]
  · intro unspent
    rcases ok.resident unspent with resident | ⟨live, owing⟩
    · exact .inl resident
    · exact .inr ⟨live, owes owing⟩
  · exact ok.spent

theorem Machine.Owes.tail {s t : Session} {f : Frame} {rest : Agenda} (owes : Owes ⟨s, f :: rest⟩)
    (let_in : ∀ x, f ≠ .wait (.suspending x)) (other : ∀ x, f ≠ .act (.store x)) (next : Agenda) :
    Owes ⟨t, next ++ rest⟩ := by
  rcases owes with ⟨x, waits | stores⟩
  · have later : .wait (.suspending x) ∈ rest := by simpa [(let_in x).symm] using waits
    exact ⟨x, .inl (by simp [later])⟩
  · have later : .act (.store x) ∈ rest := by simpa [(other x).symm] using stores
    exact ⟨x, .inr (by simp [later])⟩

theorem Suspended.perform {hs : List Happening} {s : Session} {a : Action} {rest : Agenda}
    (ok : Suspended hs ⟨s, .act a :: rest⟩) (silent : (Happening.acted s a).flow? = none) :
    Suspended (hs ++ [.acted s a]) ⟨(a.perform s).session, (a.perform s).next ++ rest⟩ := by
  constructor <;> rw [History.spent_snoc]
  · intro unspent
    obtain ⟨earlier, now⟩ : History.spent hs = false ∧ (Happening.acted s a).spends = false := by
      simpa using unspent
    have lasting : ¬ (s.inbound.isLive ∧ (a.perform s).session.IsSpent) := by
      rw [← Happening.spends_acted]
      simp [now]
    cases turn_perform s a with
    | quiet same stays ignored =>
      rcases ok.resident earlier with resident | ⟨live, owing⟩
      · exact .inl (by rwa [same])
      by_cases resident : s.inbound.pending = []
      · -- The sequence goes on, for it would have ended with nothing left to take.
        refine .inr ⟨?_, owing.tail (by simp) ?_ _⟩
        · by_contra ended
          exact lasting ⟨live, by simpa using ended, same.trans resident⟩
        · intro x stores
          cases stores
          simp [ignored x rfl] at live
      · exact .inl (by rwa [same])
    | stores m live room grown => exact .inl (by simp [grown])
    | takes m oldest same resumes =>
      simp [Happening.flow?, Happening.call?, Effect.call?, resumes, Wait.call, Call.isFlow]
        at silent
    | fails e live lost ended =>
      exact absurd ⟨live, by simp [Inbound.isLive, ended], lost⟩ lasting
  · intro spent
    rcases Bool.or_eq_true_iff.mp spent with earlier | now
    · exact ((ok.spent earlier).perform a).1
    · exact (Happening.spends_acted.mp now).2

theorem Suspended.step {hs : List Happening} {m n : Machine} {h : Happening}
    (ok : Suspended hs m) (step : Machine.Step m h n) (silent : h.flow? = none) :
    Suspended (hs ++ [h]) n := by
  cases step using Machine.Step.kinds with
  | began _ op | intruded _ op =>
    apply ok.of_agenda rfl
    intro owes
    rcases owes with ⟨x, waits | stores⟩
    · exact ⟨x, .inl (List.mem_append_right _ waits)⟩
    · exact ⟨x, .inr (List.mem_append_right _ stores)⟩
  | acted s a rest => exact ok.perform silent
  | answered s w rest a =>
    apply ok.of_agenda rfl
    intro owing
    by_cases lets_in : ∃ x, w = .suspending x
    · obtain ⟨x, rfl⟩ := lets_in
      exact ⟨x, .inr (by simp [Wait.resume])⟩
    · refine owing.tail ?_ (by simp) _
      intro x waits
      cases waits
      exact lets_in ⟨x, rfl⟩

theorem Suspended.run {n k : Machine} {hs : List Happening} (start : Suspended [] n)
    (run : Machine.Run n hs k) (silent : ∀ g ∈ hs, g.flow? = none) : Suspended hs k := by
  induction run with
  | nil => exact start
  | snoc run last ih =>
    have before := ih (fun g mem => silent g (by simp [mem]))
    exact before.step last (silent _ (by simp))

theorem Session.IsSpent.flow? {m n : Machine} {h : Happening} (spent : m.session.IsSpent)
    (step : Machine.Step m h n) : h.flow? = none := by
  cases step using Machine.Step.kinds with
  | began | intruded | answered => rfl
  | acted s a rest =>
    cases flow : (Happening.acted s a).flow? with
    | none => rfl
    | some c =>
      rcases flow_cases flow with ⟨-, live, -⟩ | ⟨-, resident⟩
      · simp [spent.ended] at live
      · exact absurd spent.empty resident

theorem Session.IsSpent.silent {m n : Machine} {hs : List Happening} (spent : m.session.IsSpent)
    (run : Machine.Run m hs n) : ∀ g ∈ hs, g.flow? = none := by
  intro g mem
  obtain ⟨pre, post, rfl⟩ := List.append_of_mem mem
  obtain ⟨k, k', before, step, -⟩ := run.split
  exact (spent.run before).1.flow? step

theorem spends_of_failure {g : Happening} {e : Fault} (failed : g.failure? = some e) :
    g.spends := by
  cases g with
  | began | intruded | answered => simp [Happening.failure?] at failed
  | acted s a =>
    cases turn_perform s a with
    | quiet same stays ignored stored_eq taken_eq failure_eq => simp [failure_eq] at failed
    | stores m live room grown stored_eq taken_eq failure_eq => simp [failure_eq] at failed
    | takes m oldest same resumes stored_eq taken_eq failure_eq => simp [failure_eq] at failed
    | fails e live lost ended =>
      exact Happening.spends_acted.mpr ⟨live, by simp [Inbound.isLive, ended], lost⟩

/-- At rest after a suspension, a message is there exactly if the sequence has not ended with
nothing left to take, as it does with every failure. If none is there, the transport stays
suspended for good. -/
theorem suspended_at_rest {m n : Machine} {pre post : List Happening} {h : Happening}
    (run : Machine.Run m (pre ++ h :: post) n) (suspended : h.flow? = some .suspend)
    (last : ∀ g ∈ post, g.flow? = none) (idle : n.isIdle) :
    (n.session.inbound.pending ≠ [] ↔ ∀ g ∈ post, g.spends = false) ∧
    (History.failures post ≠ [] → n.session.inbound.pending = []) ∧
    (n.session.inbound.pending ≠ [] →
      ∀ p, (Happening.acted n.session (.take p)).flow? = some .resume) ∧
    (n.session.inbound.pending = [] →
      ∀ gs k, Machine.Run n gs k → ∀ g ∈ gs, g.flow? = none) := by
  obtain ⟨before, after, -, step, since⟩ := run.split
  have ok := (Suspended.start step suspended).run since last
  have settled : ¬ n.Owes := by
    intro owes
    obtain ⟨x, owing⟩ := owes
    simp [List.isEmpty_iff.mp idle] at owing
  have resident_iff : n.session.inbound.pending ≠ [] ↔ History.spent post = false := by
    constructor
    · intro resident
      by_contra spent
      exact resident (ok.spent (by simpa using spent)).empty
    · intro unspent
      rcases ok.resident unspent with resident | ⟨-, owes⟩
      · exact resident
      · exact absurd owes settled
  have spent (empty : n.session.inbound.pending = []) : History.spent post := by
    by_contra unspent
    exact resident_iff.mpr (by simpa using unspent) empty
  refine ⟨by simpa [History.spent] using resident_iff, ?_, ?_, ?_⟩
  · intro failed
    obtain ⟨e, rest, failures⟩ := List.exists_cons_of_ne_nil failed
    have mem : e ∈ History.failures post := by simp [failures]
    obtain ⟨g, mem, failure⟩ := List.mem_filterMap.mp mem
    exact (ok.spent (List.any_eq_true.mpr ⟨g, mem, spends_of_failure failure⟩)).empty
  · intro resident p
    obtain ⟨x, rest, queue⟩ := List.exists_cons_of_ne_nil resident
    simp [Happening.flow?, Happening.call?, Action.perform, Session.take_of_cons p queue,
      Effect.call?, Wait.call, Call.isFlow]
  · intro empty gs k later
    exact (ok.spent (spent empty)).silent later

/-- A normal end leaves the message where it is. -/
theorem suspended_at_rest_closed :
    let s := Session.sample true {}
    let a := Message.text "a"
    let r := Machine.play ⟨s, []⟩ ([.start (.message a), .perform, .answer .done, .perform, .perform,
      .start (.transportClose .normal)] ++ List.replicate 10 .perform)
    let post := r.1.drop 2
    s.IsNew ∧ Machine.Run ⟨s, []⟩ ([.began (.message a)] ++ .acted s (.receive a) :: post) r.2 ∧
      r.2.isIdle ∧ r.2.session.inbound.pending ≠ [] := by
  intro s a r post
  have new : s.IsNew := Session.isNew_sample true rfl
  have run : Machine.Run ⟨s, []⟩ ([.began (.message a)] ++ .acted s (.receive a) :: post) r.2 := by
    have whole : r.1 = [.began (.message a)] ++ .acted s (.receive a) :: post := by decide +kernel
    rw [← whole]
    exact Machine.run_play _ _
  have idle : r.2.isIdle := by decide +kernel
  obtain ⟨resident, -⟩ := suspended_at_rest run rfl (by decide +kernel) idle
  exact ⟨new, run, idle, resident.mpr (by decide +kernel)⟩

/-- A failure takes the message away, and nobody resumes the transport. -/
theorem suspended_at_rest_failed :
    ¬ ∀ (s : Session) (m : Machine) (pre post : List Happening) (h : Happening), s.IsNew →
      s.setting.suspendable → Machine.Run ⟨s, []⟩ (pre ++ h :: post) m →
      h.flow? = some .suspend → (∀ g ∈ post, g.flow? = none) → m.isIdle →
      m.session.inbound.pending ≠ [] := by
  intro always
  let s := Session.sample true {}
  let a := Message.text "a"
  let r := Machine.play ⟨s, []⟩ ([.start (.message a), .perform, .answer .done, .perform, .perform,
    .start (.transportError (.transport "reset"))] ++ List.replicate 9 .perform ++
    [.answer .done, .perform])
  have run : Machine.Run ⟨s, []⟩ ([.began (.message a)] ++ .acted s (.receive a) :: r.1.drop 2)
      r.2 := by
    have whole : r.1 = [.began (.message a)] ++ .acted s (.receive a) :: r.1.drop 2 := by
      decide +kernel
    rw [← whole]
    exact Machine.run_play _ _
  have resident := always s r.2 _ _ _ (Session.isNew_sample true rfl) rfl run rfl
    (by decide +kernel) (by decide +kernel)
  exact resident (by decide +kernel)

end Duplex

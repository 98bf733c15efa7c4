import Duplex.Proofs.Inbound.Fidelity
import Duplex.Proofs.Session.Call

/-!
Suspensions and resumptions balance. The transport is resumed once for every message that a pull
takes and suspended once for every message that finds the sequence live. As long as it is live, the
suspensions that have not been made up for are the messages that wait in the queue and those that
are on their way to it. The balance breaks only once the sequence has ended, and then only by
messages that were let in and never taken.
-/

namespace Duplex

open History

namespace Happening

def isDelivery (h : Happening) : Bool :=
  match h.op? with
  | some (.message _) => true
  | _ => false

/-- A delivery looks whether the sequence is live. -/
def enters : Happening → Bool
  | .acted _ (.receive _) => true
  | _ => false

/-- A delivery finds the sequence live. -/
def admits : Happening → Bool
  | .acted s (.receive _) => s.inbound.isLive
  | _ => false

def arrives : Happening → Bool
  | .acted _ (.store _) => true
  | _ => false

end Happening

namespace Frame

def enters : Frame → Bool
  | .act (.receive _) => true
  | _ => false

/-- A message that was let in is on its way to the queue. -/
def arrives : Frame → Bool
  | .wait (.suspending _) | .act (.store _) => true
  | _ => false

end Frame

/-- How often the surroundings were called in this way. -/
def History.calls (c : Call) (hs : List Happening) : Nat := hs.countP (·.call? = some c)

theorem resumes_iff (h : Happening) : h.call? = some .resume ↔ h.taken?.isSome := by
  constructor
  · intro call
    cases h with
    | acted s a =>
      cases begins_of_call call with
      | resume p resident => exact List.isSome_head?.mpr resident
    | _ => simp [Happening.call?] at call
  · intro taken
    cases h with
    | acted s a =>
      cases a with
      | take p =>
        obtain ⟨x, rest, queue⟩ := List.exists_cons_of_ne_nil (List.isSome_head?.mp taken)
        simp [Happening.call?, Action.perform, Session.take_of_cons p queue, Effect.call?, Wait.call]
      | _ => simp [Happening.taken?] at taken
    | _ => simp [Happening.taken?] at taken

theorem suspends_iff (h : Happening) : h.call? = some .suspend ↔ h.admits := by
  constructor
  · intro call
    cases h with
    | acted s a =>
      cases begins_of_call call with
      | suspend x live => exact live
    | _ => simp [Happening.call?] at call
  · intro admitted
    cases h with
    | acted s a =>
      cases a with
      | receive x =>
        have live : s.inbound.isLive := admitted
        simp [Happening.call?, Action.perform, live, Effect.call?, Wait.call]
      | _ => simp [Happening.admits] at admitted
    | _ => simp [Happening.admits] at admitted

theorem calls_resume (hs : List Happening) : calls .resume hs = (taken hs).length := by
  rw [calls, taken, List.length_filterMap_eq_countP]
  exact List.countP_congr fun h _ => by simpa using resumes_iff h

theorem calls_suspend (hs : List Happening) : calls .suspend hs = hs.countP Happening.admits :=
  List.countP_congr fun h _ => by simpa using suspends_iff h

theorem enters_next (s : Session) (a : Action) : (a.perform s).next.countP Frame.enters = 0 := by
  refine countP_next s fun f leads => ?_
  cases leads with
  | poll _ b _ stage => cases b <;> first | rfl | simp [Action.ofPoll] at stage
  | _ => rfl

theorem arrives_next (s : Session) (a : Action) :
    (a.perform s).next.countP Frame.arrives = (Happening.acted s a).admits.toNat := by
  cases a with
  | receive x =>
    cases live : s.inbound.isLive <;> simp [Action.perform, live, Happening.admits, Frame.arrives]
  | _ =>
    refine countP_next s fun f leads => ?_
    cases leads with
    | poll _ b _ stage => cases b <;> first | rfl | simp [Action.ofPoll] at stage
    | _ => rfl

section

variable {s : Session} {hs : List Happening} {m n : Machine}

theorem enters_run (run : Machine.Run ⟨s, []⟩ hs m) :
    hs.countP Happening.enters + m.agenda.countP Frame.enters = hs.countP Happening.isDelivery := by
  refine run.balance ?_ ?_ ?_
  · intro h op begins
    cases h with
    | acted | answered => simp [Happening.op?] at begins
    | began p | intruded p => cases p <;> cases begins <;> rfl
  · intro t a
    rw [enters_next]
    cases a <;> rfl
  · intro w a
    unfold Wait.resume
    split <;> rfl

theorem arrives_run (run : Machine.Run ⟨s, []⟩ hs m) :
    hs.countP Happening.arrives + m.agenda.countP Frame.arrives = hs.countP Happening.admits := by
  refine run.balance ?_ ?_ ?_
  · intro h op begins
    cases h with
    | acted | answered => simp [Happening.op?] at begins
    | began p | intruded p => cases p <;> cases begins <;> rfl
  · intro t a
    rw [arrives_next]
    cases a <;> rfl
  · intro w a
    unfold Wait.resume
    split <;> rfl

theorem stored_le_arrives (hs : List Happening) :
    (stored hs).length ≤ hs.countP Happening.arrives := by
  rw [stored, List.length_filterMap_eq_countP]
  refine List.countP_mono_left fun h _ stores => ?_
  unfold Happening.stored? at stores
  split at stores <;> simp_all [Happening.arrives]

theorem arrives_eq_stored (run : Machine.Run m hs n) (live : n.session.inbound.isLive) :
    hs.countP Happening.arrives = (stored hs).length := by
  rw [stored, List.length_filterMap_eq_countP]
  refine List.countP_congr fun h mem => ?_
  obtain ⟨pre, post, rfl⟩ := List.append_of_mem mem
  obtain ⟨k, k', -, step, after⟩ := run.split
  have still : k'.session.inbound.isLive := by
    by_contra ended
    simp [ended_run after (by simpa using ended)] at live
  cases step using Machine.Step.kinds with
  | began | intruded | answered => simp [Happening.arrives, Happening.stored?]
  | acted t a rest =>
    cases a with
    | store x =>
      cases turn_perform t (.store x) with
      | quiet same stays ignored =>
        have ended := stays (ignored x rfl)
        simp [ended] at still
      | stores y _ _ _ stored_eq => simp [Happening.arrives, stored_eq]
      | takes y _ _ resumes stored_eq taken_eq => simp [Happening.taken?] at taken_eq
      | fails e _ _ ended => simp [Inbound.isLive, ended] at still
    | _ => simp [Happening.arrives, Happening.stored?]

theorem enters_first {pre post : List Happening} {x : Message}
    (run : Machine.Run m (pre ++ .began (.message x) :: post) n) :
    ∃ k, Machine.Run m pre k ∧ (post = [] ∨ (∃ later, post = .acted k.session (.receive x) :: later) ∨
      ∃ op later, post = .intruded op :: later) := by
  obtain ⟨k, k', before, step, after⟩ := run.split
  obtain rfl := step_start step rfl
  refine ⟨k, before, ?_⟩
  cases post with
  | nil => exact .inl rfl
  | cons h later =>
    obtain ⟨i, next, -⟩ := after.uncons
    rw [Machine.start, Op.actions] at next
    cases next with
    | began control => simp [Machine.isYielding, Machine.isIdle, Machine.call?] at control
    | intruded => exact .inr (.inr ⟨_, later, rfl⟩)
    | acted => exact .inr (.inl ⟨later, rfl⟩)

end

/-- The transport is resumed once for every message taken and suspended once for every delivery that
finds the sequence live. While it is live, the suspensions exceed the resumptions by the messages
in the queue and on their way to it; at rest, none is on its way. Once it has ended, they never
fall short of that. -/
theorem flow_accounting {s : Session} {hs : List Happening} {m : Machine} (new : s.IsNew)
    (run : Machine.Run ⟨s, []⟩ hs m) :
    calls .resume hs = (taken hs).length ∧
    calls .suspend hs = hs.countP Happening.admits ∧
    hs.countP Happening.enters + m.agenda.countP Frame.enters = hs.countP Happening.isDelivery ∧
    (∀ pre x post, hs = pre ++ .began (.message x) :: post →
      ∃ n, Machine.Run ⟨s, []⟩ pre n ∧ (post = [] ∨
        (∃ later, post = .acted n.session (.receive x) :: later) ∨
        ∃ op later, post = .intruded op :: later)) ∧
    calls .resume hs + m.session.inbound.pending.length + m.agenda.countP Frame.arrives ≤
      calls .suspend hs ∧
    (m.session.inbound.isLive → calls .suspend hs =
      calls .resume hs + m.session.inbound.pending.length + m.agenda.countP Frame.arrives) ∧
    (m.isIdle → m.agenda.countP Frame.enters = 0 ∧ m.agenda.countP Frame.arrives = 0 ∧
      (handed hs).Perm (taken hs)) := by
  have fresh : s.inbound.pending = [] := by
    obtain ⟨g, c, rfl, -⟩ := new.cases
    rfl
  have faithful := Faithful.run fresh run
  have arrived := arrives_run run
  have few : (taken hs).length + m.session.inbound.pending.length ≤ (stored hs).length := by
    by_cases failed : failures hs = []
    · simp [← faithful.kept failed]
    · obtain ⟨spent, order⟩ := faithful.lost failed
      simpa [spent.empty] using order.length_le
  have stored_few := stored_le_arrives hs
  refine ⟨calls_resume hs, calls_suspend hs, enters_run run, ?_, ?_, ?_, ?_⟩
  · rintro pre x post rfl
    exact enters_first run
  · rw [calls_resume, calls_suspend]
    omega
  · intro live
    have unfailed : failures hs = [] := faithful.no_failures fun spent => by
      simp [spent.ended] at live
    have kept := congrArg List.length (faithful.kept unfailed)
    have all_stored := arrives_eq_stored run live
    rw [List.length_append] at kept
    rw [calls_resume, calls_suspend]
    omega
  · intro idle
    have none_due : m.agenda = [] := List.isEmpty_iff.mp idle
    have handed_back := handed_perm run
    rw [none_due] at handed_back ⊢
    exact ⟨rfl, rfl, by simpa using handed_back⟩

/-- A second message delivered from within the call that is to hold it back, and a third from within
the call that lets one in again: a transport that cannot pause is told all the same. -/
theorem flow_accounting_nested :
    let s := Session.sample false {}
    let r := Machine.play ⟨s, []⟩ [.start (.message (.text "a")), .perform,
      .start (.message (.text "b")), .perform, .answer .done, .perform, .perform,
      .start (.pull .once), .perform, .start (.message (.text "c")), .perform, .answer .done,
      .perform, .perform, .answer .done, .perform, .answer .done, .perform, .perform]
    s.IsNew ∧ Machine.Run ⟨s, []⟩ r.1 r.2 ∧ r.2.isIdle ∧ taken r.1 = [.text "b"] ∧
      r.2.session.inbound.pending = [.text "c", .text "a"] ∧ calls .resume r.1 = 1 ∧
      calls .suspend r.1 = 3 := by
  intro s r
  have new : s.IsNew := Session.isNew_sample false rfl
  have run : Machine.Run ⟨s, []⟩ r.1 r.2 := Machine.run_play _ _
  have idle : r.2.isIdle := by decide +kernel
  have took : taken r.1 = [.text "b"] := by decide +kernel
  have queue : r.2.session.inbound.pending = [.text "c", .text "a"] := by decide +kernel
  obtain ⟨resumes, -, -, -, -, balance, rest⟩ := flow_accounting new run
  obtain ⟨-, none_left, -⟩ := rest idle
  have balance := balance (by decide +kernel)
  rw [took] at resumes
  rw [resumes, queue, none_left] at balance
  exact ⟨new, run, idle, took, queue, resumes, balance⟩

end Duplex

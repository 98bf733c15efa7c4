import Duplex.Proofs.Session.Change
import Duplex.Proofs.Session.Run

/-!
What one action can do to the inbound sequence. Four actions can change it, in four ways: nothing
moves, a message is stored behind the others, the oldest one is taken, or a live sequence fails and
loses what it holds. A sequence that has ended with nothing left to take stays that way.
-/

namespace Duplex

namespace Happening

def stored? : Happening → Option Message
  | .acted s (.store m) =>
    if (s.store m).session.inbound.pending = s.inbound.pending ++ [m] then some m else none
  | _ => none

def taken? : Happening → Option Message
  | .acted s (.take _) => s.inbound.pending.head?
  | _ => none

def failure? : Happening → Option Fault
  | .acted s a => if s.inbound.isLive then (a.perform s).session.inbound.failure? else none
  | _ => none

end Happening

namespace History

def stored (hs : List Happening) : List Message := hs.filterMap Happening.stored?

def taken (hs : List Happening) : List Message := hs.filterMap Happening.taken?

def failures (hs : List Happening) : List Fault := hs.filterMap Happening.failure?

theorem stored_snoc (hs : List Happening) (h : Happening) :
    stored (hs ++ [h]) = stored hs ++ h.stored?.toList := filterMap_snoc _ hs h

theorem taken_snoc (hs : List Happening) (h : Happening) :
    taken (hs ++ [h]) = taken hs ++ h.taken?.toList := filterMap_snoc _ hs h

theorem failures_snoc (hs : List Happening) (h : Happening) :
    failures (hs ++ [h]) = failures hs ++ h.failure?.toList := filterMap_snoc _ hs h

end History

/-- What an action does to the inbound sequence. -/
inductive Turn (s : Session) (a : Action) : Prop
  | quiet (same : (a.perform s).session.inbound.pending = s.inbound.pending)
    (stays : s.inbound.isLive = false → (a.perform s).session.inbound.isLive = false)
    (ignored : ∀ m, a = .store m → s.inbound.isLive = false)
    (stored_eq : (Happening.acted s a).stored? = none) (taken_eq : (Happening.acted s a).taken? = none)
    (failure_eq : (Happening.acted s a).failure? = none)
  | stores (m : Message) (live : s.inbound.isLive)
    (room : s.inbound.pending.length < s.setting.capacity)
    (grown : (a.perform s).session.inbound.pending = s.inbound.pending ++ [m])
    (stored_eq : (Happening.acted s a).stored? = some m)
    (taken_eq : (Happening.acted s a).taken? = none)
    (failure_eq : (Happening.acted s a).failure? = none)
  | takes (m : Message) (oldest : s.inbound.pending = m :: (a.perform s).session.inbound.pending)
    (same : (a.perform s).session.inbound.phase = s.inbound.phase)
    (resumes : (a.perform s).next = [.wait (.resuming m)])
    (stored_eq : (Happening.acted s a).stored? = none)
    (taken_eq : (Happening.acted s a).taken? = some m)
    (failure_eq : (Happening.acted s a).failure? = none)
  | fails (e : Fault) (live : s.inbound.isLive)
    (lost : (a.perform s).session.inbound.pending = [])
    (ended : (a.perform s).session.inbound.phase = .failed e)
    (stored_eq : (Happening.acted s a).stored? = none) (taken_eq : (Happening.acted s a).taken? = none)
    (failure_eq : (Happening.acted s a).failure? = some e)

theorem failure?_acted {s : Session} {a : Action}
    (none : (a.perform s).session.inbound.isLive = s.inbound.isLive) :
    (Happening.acted s a).failure? = Option.none := by
  simp only [Happening.failure?]
  split
  · rename_i live
    exact Inbound.failure?_of_isLive (none.trans live)
  · rfl

theorem turn_of_other (s : Session) {a : Action} (other : a.onInbound = false) : Turn s a := by
  have same := (changes_perform s a).inbound_eq other
  refine .quiet (by rw [same]) (by rw [same]; exact id) ?_ ?_ ?_ (failure?_acted (by rw [same]))
  · intro m store
    simp [store, Action.onInbound] at other
  · cases a <;> first | rfl | simp [Action.onInbound] at other
  · cases a <;> first | rfl | simp [Action.onInbound] at other

theorem turn_of_store (s : Session) (m : Message) : Turn s (.store m) := by
  cases live : s.inbound.isLive with
  | false =>
    have after := Session.store_of_ended m live
    refine .quiet ?_ ?_ ?_ ?_ rfl (failure?_acted ?_) <;>
      simp [Action.perform, after, Happening.stored?, live]
  | true =>
    by_cases room : s.inbound.pending.length < s.setting.capacity
    · have after := Session.store_of_room m live room
      refine .stores m live room ?_ ?_ rfl (failure?_acted ?_) <;>
        simp [Action.perform, after, Happening.stored?]
    · have after := Session.store_of_full m live (Nat.not_lt.mp room)
      refine .fails s.setting.overflow live ?_ ?_ ?_ rfl ?_ <;>
        simp [Action.perform, after, Happening.stored?, Happening.failure?, live]

theorem turn_of_take (s : Session) (p : Puller) : Turn s (.take p) := by
  cases queue : s.inbound.pending with
  | cons m rest =>
    have after := Session.take_of_cons p queue
    refine .takes m ?_ ?_ ?_ rfl ?_ (failure?_acted ?_) <;>
      simp [Action.perform, after, queue, Happening.taken?, Inbound.isLive]
  | nil =>
    have after := Session.take_of_nil p queue
    refine .quiet ?_ ?_ (by simp) rfl ?_ (failure?_acted ?_) <;>
      simp [Action.perform, after, queue, Happening.taken?]

theorem turn_of_failInbound (s : Session) (e : Fault) : Turn s (.failInbound e) := by
  cases live : s.inbound.isLive with
  | false =>
    have after := Session.failInbound_of_ended e live
    refine .quiet ?_ ?_ (by simp) rfl rfl (failure?_acted ?_) <;> simp [Action.perform, after, live]
  | true =>
    have after := Session.failInbound_of_live e live
    refine .fails e live ?_ ?_ rfl rfl ?_ <;>
      simp [Action.perform, after, Happening.failure?, live]

theorem turn_of_completeInbound (s : Session) : Turn s .completeInbound := by
  cases live : s.inbound.isLive with
  | false =>
    refine .quiet ?_ ?_ (by simp) rfl rfl (failure?_acted ?_) <;> simp [Action.perform, live]
  | true =>
    refine .quiet ?_ ?_ (by simp) rfl rfl ?_ <;>
      simp [Action.perform, live, Happening.failure?]

theorem turn_perform (s : Session) (a : Action) : Turn s a := by
  cases a with
  | store m => exact turn_of_store s m
  | take p => exact turn_of_take s p
  | failInbound e => exact turn_of_failInbound s e
  | completeInbound => exact turn_of_completeInbound s
  | _ => exact turn_of_other s rfl

theorem perform_ended {s : Session} (ended : s.inbound.isLive = false) (a : Action) :
    (a.perform s).session.inbound.isLive = false := by
  cases turn_perform s a with
  | quiet same stays => exact stays ended
  | stores m live => simp [ended] at live
  | takes m oldest same => simpa [Inbound.isLive, same] using ended
  | fails e live => simp [ended] at live

theorem ended_run {m n : Machine} {hs : List Happening} (run : Machine.Run m hs n)
    (ended : m.session.inbound.isLive = false) : n.session.inbound.isLive = false :=
  run.keeps (p := fun s => s.inbound.isLive = false) (fun _ a ended => perform_ended ended a) ended

structure Session.IsSpent (s : Session) : Prop where
  ended : s.inbound.isLive = false
  empty : s.inbound.pending = []

theorem Session.IsSpent.perform {s : Session} (spent : s.IsSpent) (a : Action) :
    (a.perform s).session.IsSpent ∧ (Happening.acted s a).taken? = none := by
  cases turn_perform s a with
  | quiet same stays ignored stored_eq taken_eq failure_eq =>
    exact ⟨⟨stays spent.ended, same.trans spent.empty⟩, taken_eq⟩
  | stores m live => simp [spent.ended] at live
  | takes m oldest => simp [spent.empty] at oldest
  | fails e live => simp [spent.ended] at live

theorem Session.IsSpent.step {m n : Machine} {h : Happening} (spent : m.session.IsSpent)
    (step : Machine.Step m h n) : n.session.IsSpent ∧ h.taken? = none := by
  cases step using Machine.Step.kinds with
  | began | intruded | answered => exact ⟨spent, rfl⟩
  | acted s a rest => exact spent.perform a

theorem Session.IsSpent.run {m n : Machine} {hs : List Happening} (spent : m.session.IsSpent)
    (run : Machine.Run m hs n) : n.session.IsSpent ∧ History.taken hs = [] := by
  induction run with
  | nil => exact ⟨spent, rfl⟩
  | snoc run step ih =>
    obtain ⟨here, before⟩ := ih
    obtain ⟨after, untouched⟩ := here.step step
    refine ⟨after, ?_⟩
    rw [History.taken_snoc, before, untouched]
    rfl

end Duplex

import Duplex.Proofs.Inbound.Fidelity
import Duplex.Proofs.Session.Call

/-!
No reader is left asleep. A reader that is registered to be woken waits for something that has not
come yet, and it is struck off only when it is woken or when another one takes its place. So by the
time there is something to hear, the last reader that came away with nothing has been woken.
-/

namespace Duplex

open History

/-- Whom a pull that comes away with nothing leaves to be woken. -/
def Happening.waits? (h : Happening) : Option Waker :=
  match h.pulled? with
  | some (.waiting w, .nothing) => some w
  | _ => none

/-- Whoever is registered waits for something that has not come yet. -/
def Inbound.IsExpectant (i : Inbound) : Prop := i.waker.isSome → i.pending = [] ∧ i.isLive

inductive Attends (s : Session) (a : Action) : Prop
  | keeps (same : (a.perform s).session.inbound.waker = s.inbound.waker)
    (expectant : (a.perform s).session.inbound.IsExpectant)
  | wakes (call : ∀ w, s.inbound.waker = some w → (Happening.acted s a).call? = some (.wake w))
    (gone : (a.perform s).session.inbound.waker = none)
  | registers (v : Waker) (waits : (Happening.acted s a).waits? = some v)
    (now : (a.perform s).session.inbound.waker = some v)
    (expectant : (a.perform s).session.inbound.IsExpectant)

section

variable {s : Session}

theorem wakes_of_performed {t : Session} {a : Action} {notices : List Notice}
    (after : a.perform s = ⟨t, notices, wakeFrames s.inbound.waker⟩) (w : Waker)
    (registered : s.inbound.waker = some w) : (Happening.acted s a).call? = some (.wake w) :=
  wakes_of_next (by rw [after, registered])

theorem attends_of_same {a : Action} (ok : s.inbound.IsExpectant)
    (same : (a.perform s).session.inbound = s.inbound) : Attends s a :=
  .keeps (by rw [same]) (by rw [same]; exact ok)

theorem attends_of_store (ok : s.inbound.IsExpectant) (m : Message) : Attends s (.store m) := by
  cases live : s.inbound.isLive with
  | false => exact attends_of_same ok (by simp [Action.perform, Session.store_of_ended m live])
  | true =>
    by_cases room : s.inbound.pending.length < s.setting.capacity
    · have after := Session.store_of_room m live room
      exact .wakes (wakes_of_performed after) (by simp [Action.perform, after, Inbound.store])
    · have after := Session.store_of_full m live (Nat.not_lt.mp room)
      exact .wakes (wakes_of_performed after) (by simp [Action.perform, after, Inbound.fail])

theorem attends_of_take (ok : s.inbound.IsExpectant) (p : Puller) : Attends s (.take p) := by
  cases queue : s.inbound.pending with
  | cons m rest =>
    have after := Session.take_of_cons p queue
    have nobody : s.inbound.waker = none := by
      by_contra registered
      simpa [queue] using (ok (Option.isSome_iff_ne_none.mpr registered)).1
    refine .keeps ?_ ?_ <;> simp [Action.perform, after, Inbound.IsExpectant, nobody]
  | nil =>
    have after := Session.take_of_nil p queue
    cases phase : s.inbound.phase with
    | live =>
      cases p with
      | once => exact attends_of_same ok (by simp [Action.perform, after, Inbound.report, phase])
      | waiting w =>
        refine .registers w ?_ ?_ ?_ <;>
          simp [Action.perform, after, Happening.waits?, Happening.pulled?, queue, Inbound.report,
            phase, Inbound.IsExpectant, Inbound.isLive]
    | completed | failed | terminated =>
      have nobody : s.inbound.waker = none := by
        by_contra registered
        simpa [Inbound.isLive, phase] using (ok (Option.isSome_iff_ne_none.mpr registered)).2
      refine .keeps ?_ ?_ <;> cases p <;>
        simp [Action.perform, after, Inbound.report, phase, Inbound.IsExpectant, nobody]

theorem attends_perform (ok : s.inbound.IsExpectant) (a : Action) : Attends s a := by
  cases a with
  | store m => exact attends_of_store ok m
  | take p => exact attends_of_take ok p
  | failInbound e =>
    cases live : s.inbound.isLive with
    | false => exact attends_of_same ok (by simp [Action.perform, Session.failInbound_of_ended e live])
    | true =>
      have after := Session.failInbound_of_live e live
      exact .wakes (wakes_of_performed after) (by simp [Action.perform, after, Inbound.fail])
  | completeInbound =>
    cases live : s.inbound.isLive with
    | false => exact attends_of_same ok (by simp [Action.perform, live])
    | true =>
      have after : Action.completeInbound.perform s =
          { session := { s with inbound := s.inbound.complete }
            notices := [.logged (.receiveCompleted s.inbound.pending.length)]
            next := wakeFrames s.inbound.waker } := by
        simp [Action.perform, live]
      exact .wakes (wakes_of_performed after) (by simp [after, Inbound.complete])
  | _ => exact attends_of_same ok ((changes_perform s _).inbound_eq rfl)

theorem Inbound.IsExpectant.perform (ok : s.inbound.IsExpectant) (a : Action) :
    (a.perform s).session.inbound.IsExpectant := by
  cases attends_perform ok a with
  | keeps same expectant => exact expectant
  | wakes call gone => simp [Inbound.IsExpectant, gone]
  | registers v waits now expectant => exact expectant

end

section

variable {s : Session} {hs : List Happening} {m n : Machine} {h : Happening} {w : Waker}

theorem expectant_run (new : s.IsNew) (run : Machine.Run ⟨s, []⟩ hs m) :
    m.session.inbound.IsExpectant := by
  obtain ⟨g, c, rfl, -, -⟩ := new.cases
  exact run.keeps (p := fun s => s.inbound.IsExpectant) (fun _ a ok => ok.perform a)
    (by simp [Inbound.IsExpectant])

theorem waker_step (ok : m.session.inbound.IsExpectant) (step : Machine.Step m h n)
    (registered : m.session.inbound.waker = some w) :
    n.session.inbound.waker = some w ∨ h.call? = some (.wake w) ∨
      ∃ v, h.waits? = some v ∧ n.session.inbound.waker = some v := by
  cases step using Machine.Step.kinds with
  | began | intruded | answered => exact .inl registered
  | acted s a rest =>
    cases attends_perform ok a with
    | keeps same => exact .inl (same.trans registered)
    | wakes call => exact .inr (.inl (call w registered))
    | registers v waits now => exact .inr (.inr ⟨v, waits, now⟩)

theorem waker_run (ok : m.session.inbound.IsExpectant) (run : Machine.Run m hs n)
    (registered : m.session.inbound.waker = some w) (last : ∀ g ∈ hs, g.waits? = none) :
    n.session.inbound.waker = some w ∨ ∃ g ∈ hs, g.call? = some (.wake w) := by
  induction run with
  | nil => exact .inl registered
  | snoc run step ih =>
    rename_i n k hs h
    have vigilant : n.session.inbound.IsExpectant :=
      run.keeps (p := fun s => s.inbound.IsExpectant) (fun _ a ok => ok.perform a) ok
    rcases ih fun g mem => last g (by simp [mem]) with still | ⟨g, mem, woken⟩
    · rcases waker_step vigilant step still with same | woken | ⟨v, waits, -⟩
      · exact .inl same
      · exact .inr ⟨h, by simp, woken⟩
      · simp [last h (by simp)] at waits
    · exact .inr ⟨g, by simp [mem], woken⟩

theorem waits_of_waits? (step : Machine.Step m h n) (waits : h.waits? = some w) :
    n.session.inbound.waker = some w := by
  cases step using Machine.Step.kinds with
  | began | intruded | answered => simp [Happening.waits?, Happening.pulled?] at waits
  | acted s a rest =>
    cases a with
    | take p =>
      cases queue : s.inbound.pending with
      | cons x later => simp [Happening.waits?, Happening.pulled?, queue] at waits
      | nil =>
        cases phase : s.inbound.phase <;> cases p <;>
          simp_all [Happening.waits?, Happening.pulled?, Inbound.report, Action.perform,
            Session.take]
    | _ => simp [Happening.waits?, Happening.pulled?] at waits

theorem unready_of_registered (ok : s.inbound.IsExpectant) (registered : s.inbound.waker = some w)
    (p : Puller) : (Happening.acted s (.take p)).pulled? = some (p, .nothing) := by
  obtain ⟨empty, live⟩ := ok (by simp [registered])
  have phase := (Inbound.isLive_iff _).mp live
  cases p <;> simp [Happening.pulled?, empty, Inbound.report, phase]

end

/-- A reader is registered only while there is nothing to hear, and it stays so until it is woken or
another one takes its place. Once a pull would hear something, the last reader that came away with
nothing has been woken, and that call has returned if nothing is in progress. -/
theorem reader_woken {s : Session} {hs : List Happening} {m : Machine} (new : s.IsNew)
    (run : Machine.Run ⟨s, []⟩ hs m) :
    (m.session.inbound.waker.isSome → m.session.inbound.pending = [] ∧ m.session.inbound.isLive) ∧
    (∀ w h n, m.session.inbound.waker = some w → Machine.Step m h n →
      n.session.inbound.waker = some w ∨ h.call? = some (.wake w) ∨
        ∃ v, h.waits? = some v ∧ n.session.inbound.waker = some v) ∧
    ∀ pre poll since w p x, hs = pre ++ poll :: since → poll.waits? = some w →
      (∀ g ∈ since, g.waits? = none) →
      (Happening.acted m.session (.take p)).pulled? = some (p, x) → x ≠ .nothing →
      ∃ before g after, since = before ++ g :: after ∧ g.call? = some (.wake w) ∧
        (m.isIdle → ∃ a, .answered (.waking w) a ∈ after) := by
  have ok := expectant_run new run
  refine ⟨ok, fun w h n registered step => waker_step ok step registered, ?_⟩
  rintro pre poll since w p x rfl waits last hears something
  obtain ⟨k, k', before, step, after⟩ := run.split
  have registered : k'.session.inbound.waker = some w := waits_of_waits? step waits
  have then_ok : k'.session.inbound.IsExpectant := expectant_run new (before.snoc step)
  rcases waker_run then_ok after registered last with still | ⟨g, mem, woken⟩
  · -- Still registered, it would hear nothing.
    rw [unready_of_registered ok still p] at hears
    simp only [Option.some.injEq, Prod.mk.injEq, true_and] at hears
    exact absurd hears.symm something
  · obtain ⟨earlier, later, rfl⟩ := List.append_of_mem mem
    refine ⟨earlier, g, later, rfl, woken, fun idle => ?_⟩
    obtain ⟨v, a, call, answered⟩ := after.answered woken idle
    obtain rfl : v = .waking w := by cases v <;> simp_all [Wait.call]
    exact ⟨a, answered⟩

/-- A message wakes the reader that waits for it, and another one takes it away. The reader hears of
the end that comes next only if it asks, but it has been told to. -/
theorem reader_woken_robbed :
    let s := Session.sample true {}
    let cues : List Machine.Cue := [.start (.pull (.waiting 7)), .perform, .perform,
      .start (.message (.text "a")), .perform, .answer .done, .perform, .start (.pull .once),
      .perform, .answer .done, .perform, .answer .done, .perform,
      .start (.transportClose .normal)]
    let r := Machine.play ⟨s, []⟩ (cues ++ List.replicate 12 .perform)
    let poll := Happening.acted s (.take (.waiting 7))
    s.IsNew ∧ Machine.Run ⟨s, []⟩ (Happening.began (.pull (.waiting 7)) :: poll :: r.1.drop 2) r.2 ∧
      r.2.isIdle ∧ r.2.session.inbound.waker = none ∧ poll.waits? = some 7 ∧
      (∀ g ∈ r.1.drop 2, g.waits? = none) ∧
      (Happening.acted r.2.session (.take (.waiting 7))).pulled? = some (.waiting 7, .ended) ∧
      ∃ (before : List Happening) (g : Happening) (after : List Happening),
        r.1.drop 2 = before ++ g :: after ∧ g.call? = some (.wake 7) ∧
          (r.2.isIdle → ∃ a, .answered (.waking 7) a ∈ after) := by
  intro s cues r poll
  have new : s.IsNew := Session.isNew_sample true rfl
  have run : Machine.Run ⟨s, []⟩ (Happening.began (.pull (.waiting 7)) :: poll :: r.1.drop 2) r.2 := by
    have whole : r.1 = .began (.pull (.waiting 7)) :: poll :: r.1.drop 2 := by decide +kernel
    rw [← whole]
    exact Machine.run_play _ _
  have waits : poll.waits? = some 7 := by decide +kernel
  have last : ∀ g ∈ r.1.drop 2, g.waits? = none := by decide +kernel
  have hears : (Happening.acted r.2.session (.take (.waiting 7))).pulled? =
      some (.waiting 7, .ended) := by decide +kernel
  obtain ⟨-, -, woken⟩ := reader_woken new run
  exact ⟨new, run, by decide +kernel, by decide +kernel, waits, last, hears,
    woken [_] poll _ 7 _ _ rfl waits last hears (by simp)⟩

end Duplex

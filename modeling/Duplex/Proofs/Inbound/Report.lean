import Duplex.Proofs.Inbound.Fidelity

/-!
The end of the inbound sequence is told once. The first end or failure that comes to the sequence is
the one that a pull hears of, after every message stored before a normal end and instead of those
that a failure discards. Every pull after that hears that there is nothing more.
-/

namespace Duplex

open History

def Outcome.fault? : Outcome → Option Fault
  | .success => none
  | .failure e => some e

/-- What the pull that hears of an end is told. -/
def Outcome.report : Outcome → Pull
  | .success => .ended
  | .failure e => .failed e

def Outcome.phase : Outcome → Phase
  | .success => .completed
  | .failure e => .failed e

/-- What a pull hears once the end has been told. -/
def Puller.afterwards : Puller → Pull
  | .once => .failed .streamTerminated
  | .waiting _ => .ended

def Pull.goesOn : Pull → Bool
  | .item _ | .nothing => true
  | .ended | .failed _ => false

namespace Happening

/-- An end or a failure that comes to the inbound sequence, be it the first or a later one. -/
def end? : Happening → Option Outcome
  | .acted _ (.failInbound e) => some (.failure e)
  | .acted _ .completeInbound => some .success
  | .acted s (.store _) =>
    if s.inbound.isLive ∧ s.setting.capacity ≤ s.inbound.pending.length then
      some (.failure s.setting.overflow)
    else none
  | _ => none

end Happening

namespace History

def ends (hs : List Happening) : List Outcome := hs.filterMap Happening.end?

theorem ends_snoc (hs : List Happening) (h : Happening) :
    (ends (hs ++ [h])).head? = (ends hs).head?.or h.end? := by
  rw [ends, filterMap_snoc, List.head?_append]
  cases h.end? <;> rfl

end History

theorem report_of_phase {i : Inbound} {o : Outcome} (ended : i.phase = o.phase) (p : Puller) :
    i.report p = ({ i with phase := .terminated }, o.report) := by
  cases o <;> simp [Inbound.report, ended, Outcome.phase, Outcome.report]

theorem report_of_live {i : Inbound} (live : i.phase = .live) (p : Puller) :
    (i.report p).1.phase = .live ∧ (i.report p).2 = .nothing := by
  cases p <;> simp [Inbound.report, live]

theorem report_of_terminated {i : Inbound} (ended : i.phase = .terminated) (p : Puller) :
    i.report p = (i, p.afterwards) := by
  cases p <;> simp [Inbound.report, ended, Puller.afterwards]

/-- What the pulls so far have heard of the first end. -/
inductive Telling (first : Option Outcome) (pulls : List (Puller × Pull)) (i : Inbound) : Prop
  | live (unended : first = none) (live : i.phase = .live) (going : ∀ x ∈ pulls, x.2.goesOn)
  | due (o : Outcome) (decided : first = some o) (ended : i.phase = o.phase)
    (lost : o ≠ .success → i.pending = []) (going : ∀ x ∈ pulls, x.2.goesOn)
  | told (o : Outcome) (going : List (Puller × Pull)) (p : Puller) (later : List (Puller × Pull))
    (decided : first = some o) (split : pulls = going ++ (p, o.report) :: later)
    (ended : i.phase = .terminated) (empty : i.pending = []) (before : ∀ x ∈ going, x.2.goesOn)
    (afterwards : ∀ x ∈ later, x.2 = x.1.afterwards)

section

variable {first : Option Outcome} {pulls : List (Puller × Pull)} {s : Session}

theorem forall_mem_concat {α : Type} {p : α → Prop} {xs : List α} {x : α} (before : ∀ y ∈ xs, p y)
    (last : p x) : ∀ y ∈ xs ++ [x], p y :=
  List.forall_mem_append.mpr ⟨before, List.forall_mem_singleton.mpr last⟩

theorem Telling.late (ok : Telling first pulls s.inbound) (ended : s.inbound.isLive = false)
    (o : Option Outcome) : Telling (first.or o) pulls s.inbound := by
  cases ok with
  | live unended live => simp [Inbound.isLive, live] at ended
  | due o decided => rw [decided]; exact .due o rfl ‹_› ‹_› ‹_›
  | told o going p later decided => rw [decided]; exact .told o going p later rfl ‹_› ‹_› ‹_› ‹_› ‹_›

theorem Telling.of_live (ok : Telling first pulls s.inbound) (live : s.inbound.isLive) :
    first = none ∧ ∀ x ∈ pulls, x.2.goesOn := by
  have phase := (Inbound.isLive_iff _).mp live
  cases ok with
  | live unended live going => exact ⟨unended, going⟩
  | due o decided ended => cases o <;> simp [phase, Outcome.phase] at ended
  | told o going p later decided split ended => simp [phase] at ended

theorem Telling.store (ok : Telling first pulls s.inbound) (m : Message) :
    Telling (first.or (Happening.acted s (.store m)).end?) pulls (s.store m).session.inbound := by
  cases live : s.inbound.isLive with
  | false =>
    rw [Session.store_of_ended m live]
    exact ok.late live _
  | true =>
    obtain ⟨unended, going⟩ := ok.of_live live
    by_cases room : s.inbound.pending.length < s.setting.capacity
    · rw [Session.store_of_room m live room]
      have never : (Happening.acted s (.store m)).end? = none := by
        simp [Happening.end?, Nat.not_le.mpr room]
      exact .live (by simp [unended, never]) ((Inbound.isLive_iff _).mp live) going
    · have full := Nat.not_lt.mp room
      rw [Session.store_of_full m live full]
      exact .due (.failure s.setting.overflow) (by simp [unended, Happening.end?, live, full]) rfl
        (fun _ => rfl) going

theorem Telling.failInbound (ok : Telling first pulls s.inbound) (e : Fault) :
    Telling (first.or (some (.failure e))) pulls (s.failInbound e).session.inbound := by
  cases live : s.inbound.isLive with
  | false =>
    rw [Session.failInbound_of_ended e live]
    exact ok.late live _
  | true =>
    obtain ⟨unended, going⟩ := ok.of_live live
    rw [Session.failInbound_of_live e live]
    exact .due (.failure e) (by simp [unended]) rfl (fun _ => rfl) going

theorem Telling.completeInbound (ok : Telling first pulls s.inbound) :
    Telling (first.or (some .success)) pulls
      (Action.completeInbound.perform s).session.inbound := by
  cases live : s.inbound.isLive with
  | false =>
    simp only [Action.perform, live, Bool.false_eq_true, if_false]
    exact ok.late live _
  | true =>
    obtain ⟨unended, going⟩ := ok.of_live live
    simp only [Action.perform, live, if_true]
    exact .due .success (by simp [unended]) rfl (fun wrong => absurd rfl wrong) going

theorem Telling.take (ok : Telling first pulls s.inbound) (p : Puller) :
    Telling first (pulls ++ (Happening.acted s (.take p)).pulled?.toList)
      (s.take p).session.inbound := by
  cases queue : s.inbound.pending with
  | cons m rest =>
    simp only [Happening.pulled?, queue, Option.toList_some, Session.take_of_cons p queue]
    cases ok with
    | live unended live going => exact .live unended live (forall_mem_concat going rfl)
    | due o decided ended lost going =>
      refine .due o decided ended (fun failed => ?_) (forall_mem_concat going rfl)
      simp [queue] at lost
      exact absurd lost failed
    | told o going p later decided split ended empty => simp [queue] at empty
  | nil =>
    simp only [Happening.pulled?, queue, Option.toList_some, Session.take_of_nil p queue]
    cases ok with
    | live unended live going =>
      obtain ⟨still, nothing⟩ := report_of_live live p
      exact .live unended still (forall_mem_concat going (by rw [nothing]; rfl))
    | due o decided ended lost going =>
      rw [report_of_phase ended p]
      exact .told o pulls p [] decided rfl rfl queue going (by simp)
    | told o going q later decided split ended empty before afterwards =>
      rw [report_of_terminated ended p, split, List.append_assoc]
      exact .told o going q (later ++ [(p, p.afterwards)]) decided rfl ended empty before
        (forall_mem_concat afterwards rfl)

theorem Telling.perform (ok : Telling first pulls s.inbound) (a : Action) :
    Telling (first.or (Happening.acted s a).end?) (pulls ++ (Happening.acted s a).pulled?.toList)
      (a.perform s).session.inbound := by
  cases a with
  | store m => simpa [Happening.pulled?, Action.perform] using ok.store m
  | failInbound e => simpa [Happening.pulled?, Happening.end?, Action.perform] using ok.failInbound e
  | completeInbound => simpa [Happening.pulled?, Happening.end?] using ok.completeInbound
  | take p => simpa [Happening.end?, Action.perform] using ok.take p
  | _ =>
    rw [(changes_perform s _).inbound_eq rfl]
    simpa [Happening.end?, Happening.pulled?] using ok

end

section

variable {s : Session} {hs gs : List Happening} {m n : Machine}

theorem Telling.after {first : Option Outcome} {pulls : List (Puller × Pull)}
    (ok : Telling first pulls m.session.inbound) (run : Machine.Run m gs n) :
    Telling (first.or (ends gs).head?) (pulls ++ pulled gs) n.session.inbound := by
  induction run with
  | nil => simpa [ends, pulled] using ok
  | snoc run step ih =>
    rw [ends_snoc, pulled_snoc, ← Option.or_assoc, ← List.append_assoc]
    cases step using Machine.Step.kinds with
    | began | intruded | answered =>
      simpa [Happening.end?, Happening.pulled?, Machine.start] using ih
    | acted s a rest => exact ih.perform a

theorem Telling.run (new : s.IsNew) (run : Machine.Run ⟨s, []⟩ hs m) :
    Telling (ends hs).head? (pulled hs) m.session.inbound := by
  obtain ⟨g, c, rfl, -, -⟩ := new.cases
  have start : Telling none [] ({} : Inbound) := .live rfl rfl (by simp)
  exact start.after run

theorem Telling.isLive_iff {first : Option Outcome} {pulls : List (Puller × Pull)} {i : Inbound}
    (ok : Telling first pulls i) : i.isLive ↔ first = none := by
  cases ok with
  | live unended live => simp [Inbound.isLive, live, unended]
  | due o decided ended => cases o <;> simp [Inbound.isLive, ended, Outcome.phase, decided]
  | told o going p later decided split ended => simp [Inbound.isLive, ended, decided]

theorem failure?_of_live {s : Session} (live : s.inbound.isLive) (a : Action) :
    (Happening.acted s a).failure? = (Happening.acted s a).end?.bind Outcome.fault? := by
  cases a with
  | store x =>
    by_cases room : s.inbound.pending.length < s.setting.capacity
    · have kept : ¬ s.setting.capacity ≤ s.inbound.pending.length := by omega
      rw [failure?_acted (by simp [Action.perform, Session.store_of_room x live room])]
      simp [Happening.end?, kept]
    · have full := Nat.not_lt.mp room
      simp [Happening.failure?, Happening.end?, Action.perform, Session.store_of_full x live full,
        live, full, Outcome.fault?]
  | failInbound e =>
    simp [Happening.failure?, Happening.end?, Action.perform, Session.failInbound_of_live e live,
      live, Outcome.fault?]
  | completeInbound =>
    simp [Happening.failure?, Happening.end?, Action.perform, live, Outcome.fault?]
  | take p =>
    have same : (s.take p).session.inbound.isLive = s.inbound.isLive := by
      cases queue : s.inbound.pending with
      | cons x rest => rw [Session.take_of_cons p queue]; rfl
      | nil => rw [Session.take_of_nil p queue]; exact Inbound.isLive_report s.inbound p
    rw [failure?_acted (a := .take p) same]
    rfl
  | _ =>
    rw [failure?_acted (by rw [(changes_perform s _).inbound_eq rfl])]
    simp [Happening.end?]

theorem failure?_of_ended {s : Session} (ended : s.inbound.isLive = false) (a : Action) :
    (Happening.acted s a).failure? = none := by
  simp [Happening.failure?, ended]

theorem Telling.failures {pulls : List (Puller × Pull)}
    (told : Telling (ends hs).head? pulls s.inbound)
    (before : History.failures hs = ((ends hs).head?.bind Outcome.fault?).toList) (a : Action) :
    History.failures (hs ++ [.acted s a]) =
      ((ends (hs ++ [.acted s a])).head?.bind Outcome.fault?).toList := by
  rw [failures_snoc, ends_snoc, before]
  cases live : s.inbound.isLive with
  | true => simp [told.isLive_iff.mp live, failure?_of_live live]
  | false =>
    obtain ⟨o, decided⟩ := Option.ne_none_iff_exists'.mp (told.isLive_iff.not.mp (by simp [live]))
    simp [decided, failure?_of_ended live]

end

end Duplex

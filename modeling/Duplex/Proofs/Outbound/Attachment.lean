import Duplex.Proofs.Outbound.Poll
import Duplex.Proofs.Session.Change

/-!
The only attachment of a session. A writer appears once, when its opening is due, and no poll takes
a step before that; once it is gone it never comes back.
-/

namespace Duplex

def openings (agenda : Agenda) : Nat := agenda.count (.act .openWriter)

@[simp] theorem openings_append (a b : Agenda) : openings (a ++ b) = openings a + openings b :=
  List.count_append

theorem openings_actions (op : Op) : openings (op.actions.map .act) = 0 := by
  cases op <;> rfl

theorem openings_resume (w : Wait) (a : Answer) : openings ((w.resume a).map .act) = 0 := by
  unfold Wait.resume
  split <;> rfl

theorem openings_cons (f : Frame) (rest : Agenda) :
    openings (f :: rest) = openings rest + if f = .act .openWriter then 1 else 0 := by
  simp [openings, List.count_cons]

theorem openings_next (s : Session) {a : Action}
    (other : ¬ (a = .attach ∧ s.progress = .notStarted)) : openings (a.perform s).next = 0 := by
  refine List.count_eq_zero.mpr fun mem => ?_
  cases leads_next mem with
  | open_ =>
    have started : s.progress ≠ .notStarted := fun fresh => other ⟨rfl, fresh⟩
    simp [Action.perform, if_neg started] at mem
  | poll _ _ _ stage => simp [Action.ofPoll] at stage

structure Attachment (hs : List Happening) (m : Machine) : Prop where
  once : openings m.agenda ≤ 1
  due : openings m.agenda = 1 → m.session.control = none ∧ m.session.progress ≠ .notStarted
  begun : m.session.control.isSome → m.session.progress ≠ .notStarted
  untouched : m.session.control = none →
    m.session.writer = none ∧ polls m.agenda = [] ∧ ∀ h ∈ hs, h.ofPoll = false

theorem Attachment.of_agenda {hs : List Happening} {h : Happening} {m n : Machine}
    (ok : Attachment hs m) (same : n.session = m.session)
    (opening : openings n.agenda = openings m.agenda)
    (idle : m.session.control = none → polls n.agenda = [] ∧ h.ofPoll = false) :
    Attachment (hs ++ [h]) n := by
  refine ⟨opening ▸ ok.once, same ▸ opening ▸ ok.due, same ▸ ok.begun, ?_⟩
  rw [same]
  intro unattached
  obtain ⟨gone, -, before⟩ := ok.untouched unattached
  obtain ⟨unpolled, other⟩ := idle unattached
  exact ⟨gone, unpolled, forall_mem_snoc before other⟩

theorem Attachment.perform_unattached {hs : List Happening} {s : Session} {a : Action}
    {rest : Agenda} (ok : Attachment hs ⟨s, .act a :: rest⟩) (opens : a ≠ .openWriter)
    (unattached : s.control = none) :
    a.ofPoll = false ∧ polls rest = [] ∧ (a.perform s).session.control = none := by
  obtain ⟨-, unpolled, -⟩ := ok.untouched unattached
  have other : a.ofPoll = false := by
    by_contra own
    simp [Bool.not_eq_false _ ▸ own] at unpolled
  have same := (changes_perform s a).control_isSome_eq other opens
  exact ⟨other, by simpa [other] using unpolled, by simpa [unattached] using same⟩

theorem Attachment.perform_attached {hs : List Happening} {s : Session} {a : Action} {rest : Agenda}
    (ok : Attachment hs ⟨s, .act a :: rest⟩) (opens : a ≠ .openWriter) :
    (a.perform s).session.control.isSome = s.control.isSome := by
  cases attached : s.control with
  | none => simp [(ok.perform_unattached opens attached).2.2]
  | some c =>
    have before : s.control.isSome := by simp [attached]
    simp [(changes_perform s a).control_isSome before]

theorem Attachment.attached {hs : List Happening} {s : Session} {a : Action} {rest : Agenda}
    (ok : Attachment hs ⟨s, .act a :: rest⟩) (own : a.ofPoll) : s.control.isSome := by
  by_contra unattached
  obtain ⟨-, unpolled, -⟩ := ok.untouched (by simpa using unattached)
  simp [own] at unpolled

theorem Attachment.opens {hs : List Happening} {s : Session} {rest : Agenda}
    (ok : Attachment hs ⟨s, .act .openWriter :: rest⟩) :
    s.control = none ∧ s.progress ≠ .notStarted ∧ openings rest = 0 := by
  have before : openings (.act .openWriter :: rest) = openings rest + 1 := openings_cons _ _
  have once : openings (.act .openWriter :: rest) ≤ 1 := ok.once
  have now : openings (.act .openWriter :: rest) = 1 := by omega
  obtain ⟨unattached, started⟩ := ok.due now
  exact ⟨unattached, started, by omega⟩

theorem Attachment.open_writer {hs : List Happening} {s : Session} {rest : Agenda}
    (ok : Attachment hs ⟨s, .act .openWriter :: rest⟩) :
    Attachment (hs ++ [.acted s .openWriter]) ⟨s.openWriter.session, s.openWriter.next ++ rest⟩ := by
  obtain ⟨-, started, last⟩ := ok.opens
  have none_due : openings (s.openWriter.next ++ rest) = 0 := by
    rw [openings_append, last]
    rfl
  refine ⟨by rw [none_due]; omega, by rw [none_due]; omega, fun _ => started, ?_⟩
  intro unattached
  simp [Session.openWriter] at unattached

theorem Attachment.attach {hs : List Happening} {s : Session} {rest : Agenda}
    (ok : Attachment hs ⟨s, .act .attach :: rest⟩) (fresh : s.progress = .notStarted) :
    Attachment (hs ++ [.acted s .attach])
      ⟨{ s with progress := .sending }, .act .openWriter :: rest⟩ := by
  have before : openings (.act .attach :: rest) = openings rest := openings_cons _ _
  have after : openings (.act .openWriter :: rest) = openings rest + 1 := openings_cons _ _
  have once : openings (.act .attach :: rest) ≤ 1 := ok.once
  have unattached : s.control = none := by
    by_contra attached
    exact ok.begun (Option.isSome_iff_ne_none.mpr attached) fresh
  have none_due : openings rest = 0 := by
    by_contra some_due
    have now : openings (.act .attach :: rest) = 1 := by omega
    exact (ok.due now).2 fresh
  obtain ⟨gone, unpolled, others⟩ := ok.untouched unattached
  refine ⟨?_, fun _ => ⟨unattached, by simp⟩, fun _ => by simp,
    fun _ => ⟨gone, unpolled, forall_mem_snoc others rfl⟩⟩
  change openings (.act .openWriter :: rest) ≤ 1
  omega

theorem Attachment.perform {hs : List Happening} {s : Session} {a : Action} {rest : Agenda}
    (ok : Attachment hs ⟨s, .act a :: rest⟩) :
    Attachment (hs ++ [.acted s a]) ⟨(a.perform s).session, (a.perform s).next ++ rest⟩ := by
  by_cases opens : a = .openWriter
  · subst opens
    exact ok.open_writer
  by_cases fresh : a = .attach ∧ s.progress = .notStarted
  · obtain ⟨rfl, fresh⟩ := fresh
    rw [Action.perform, if_pos fresh]
    exact ok.attach fresh
  have same : openings ((a.perform s).next ++ rest) = openings (.act a :: rest) := by
    rw [openings_append, openings_next s fresh, openings_cons, if_neg (by simpa using opens)]
    omega
  have before (unattached : (a.perform s).session.control = none) : s.control = none := by
    by_contra attached
    have still := (changes_perform s a).control_isSome (Option.isSome_iff_ne_none.mpr attached)
    simp [unattached] at still
  refine ⟨same ▸ ok.once, fun due => ?_, fun attached => ?_, fun unattached => ?_⟩
  · obtain ⟨unattached, started⟩ := ok.due (same ▸ due)
    exact ⟨(ok.perform_unattached opens unattached).2.2, (changes_perform s a).progress_ne started⟩
  · apply (changes_perform s a).progress_ne
    apply ok.begun
    by_contra none
    have still := (ok.perform_unattached opens (by simpa using none)).2.2
    simp [still] at attached
  · obtain ⟨other, unpolled, -⟩ := ok.perform_unattached opens (before unattached)
    obtain ⟨gone, -, others⟩ := ok.untouched (before unattached)
    exact ⟨(changes_perform s a).writer_eq_none gone opens,
      by simp [polls_next_other s other, unpolled], forall_mem_snoc others other⟩

theorem Attachment.start {hs : List Happening} {m : Machine} {op : Op} {h : Happening}
    (ok : Attachment hs m) (admitted : m.admits op) (begins : h = .began op ∨ h = .intruded op) :
    Attachment (hs ++ [h]) (m.start op) := by
  have other : h.ofPoll = false := by
    rcases begins with rfl | rfl <;> rfl
  refine ok.of_agenda rfl ?_ fun unattached => ?_
  · change openings (op.actions.map .act ++ m.agenda) = _
    rw [openings_append, openings_actions, Nat.zero_add]
  · obtain ⟨gone, unpolled, -⟩ := ok.untouched unattached
    cases polled_of_start admitted begins with
    | aside other same => exact ⟨same.trans unpolled, other⟩
    | starts w op idle begun attached => simp [gone] at attached
    | acts s a eq own | hears w a eq own => simp [eq, Happening.ofPoll, own] at other

theorem Attachment.step {hs : List Happening} {m n : Machine} {h : Happening}
    (ok : Attachment hs m) (step : Machine.Step m h n) : Attachment (hs ++ [h]) n := by
  cases step using Machine.Step.kinds with
  | began m op control admitted => exact ok.start admitted (.inl rfl)
  | intruded m op control admitted => exact ok.start admitted (.inr rfl)
  | acted s a rest => exact ok.perform
  | answered s w rest a =>
    refine ok.of_agenda rfl ?_ fun unattached => ?_
    · change openings ((w.resume a).map .act ++ rest) = openings (.wait w :: rest)
      rw [openings_append, openings_resume, openings_cons]
      simp
    · obtain ⟨-, unpolled, -⟩ := ok.untouched unattached
      cases own : w.ofPoll with
      | true => simp [own] at unpolled
      | false =>
        have below : polls rest = [] := by simpa [own] using unpolled
        exact ⟨by simp [polls_resume_other a own, below], own⟩

theorem Attachment.after {gs hs : List Happening} {m n : Machine} (ok : Attachment gs m)
    (run : Machine.Run m hs n) : Attachment (gs ++ hs) n := by
  induction run with
  | nil => simpa using ok
  | snoc run step ih =>
    rw [← List.append_assoc]
    exact ih.step step

theorem Attachment.perm {hs : List Happening} {s : Session} {a b : Agenda}
    (ok : Attachment hs ⟨s, a⟩) (mixed : a.Perm b) (single : (polls a).length ≤ 1) :
    Attachment hs ⟨s, b⟩ := by
  have same : openings b = openings a := mixed.symm.count_eq _
  refine ⟨same ▸ ok.once, same ▸ ok.due, ok.begun, ?_⟩
  rw [polls_perm mixed single]
  exact ok.untouched

theorem Attachment.woven {s : Session} {hs : List Happening} {m : Machine} (new : s.IsNew)
    (run : Machine.Woven ⟨s, []⟩ hs m) : Attachment hs m := by
  induction run with
  | nil =>
    obtain ⟨g, c, rfl, -, -⟩ := new.cases
    exact ⟨by simp [openings], by simp [openings], by simp, fun _ => ⟨rfl, rfl, by simp⟩⟩
  | snoc run mixed step ih => exact (ih.perm mixed (single_woven run)).step step

theorem Attachment.run {s : Session} {hs : List Happening} {m : Machine} (new : s.IsNew)
    (run : Machine.Run ⟨s, []⟩ hs m) : Attachment hs m := .woven new run.woven

end Duplex

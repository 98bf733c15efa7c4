import Duplex.Proofs.Outbound.Cancellation

/-!
The first end that the transport reports and the outcome that stands for the send. The session keeps
the report, then cancels the writer, then tells it. As long as reports are not nested, nothing but
another thread between the first two can let a poll finish before the writer has been told, so the
two agree when the send finishes.
-/

namespace Duplex

/-- The end that a callback of the transport reports. -/
def Op.report? : Op → Option Outcome
  | .transportError e => some (.failure e)
  | .transportClose _ => some .success
  | _ => none

namespace Happening

def recorded? : Happening → Option Outcome
  | .acted _ (.record o) => some o
  | _ => none

def reportsEnd (h : Happening) : Bool := h.op?.any Op.isTransportEnd

def delivers : Happening → Bool
  | .acted _ (.terminate _) | .acted _ (.finalizeUnattended _) => true
  | _ => false

end Happening

def Frame.delivers : Frame → Bool
  | .act (.record _) | .act (.terminate _) | .act (.finalizeUnattended _) => true
  | _ => false

namespace History

def recorded (hs : List Happening) : List Outcome := hs.filterMap Happening.recorded?

theorem recorded_snoc (hs : List Happening) (h : Happening) :
    recorded (hs ++ [h]) = recorded hs ++ h.recorded?.toList := filterMap_snoc _ hs h

/-- No end of the transport is reported while another one is being reported. -/
def Unnested (hs : List Happening) : Prop :=
  ∀ k (inside : k < hs.length), hs[k].reportsEnd →
    (hs.take k).countP Happening.reportsEnd = (hs.take k).countP Happening.delivers

/-- Another thread came in right after a report was kept. -/
def Disturbed (hs : List Happening) : Prop :=
  ∃ pre t r op post, hs = pre ++ .acted t (.record r) :: .intruded op :: post

end History

open History

section

variable {s : Session} {gs hs : List Happening} {m n : Machine} {h : Happening} {q : Outcome}

theorem recorded?_acted (s : Session) {a : Action} (other : ∀ o, a ≠ .record o) :
    (Happening.acted s a).recorded? = none := by
  unfold Happening.recorded?
  split
  · rename_i same
    cases same
    exact absurd rfl (other _)
  · rfl

theorem transportOutcome_eq (new : s.IsNew) (run : Machine.Run ⟨s, []⟩ hs m) :
    m.session.transportOutcome = (recorded hs).head? := by
  induction run with
  | nil =>
    obtain ⟨g, c, rfl, -, -⟩ := new.cases
    rfl
  | snoc run step ih =>
    rw [recorded_snoc]
    cases step using Machine.Step.kinds with
    | began | intruded => simpa [Happening.recorded?, Machine.start] using ih
    | answered => simpa [Happening.recorded?] using ih
    | acted t a rest =>
      by_cases records : ∃ o, a = .record o
      · obtain ⟨o, rfl⟩ := records
        simp only [Action.perform, Happening.recorded?]
        rw [show t.transportOutcome = _ from ih]
        simp [List.head?_append]
      · have other : ∀ o, a ≠ .record o := fun o same => records ⟨o, same⟩
        rw [recorded?_acted t other, (changes_perform t a).transportOutcome_eq other]
        simpa using ih

theorem report_of_due {o : Outcome} (run : Machine.Run ⟨s, []⟩ hs m)
    (due : .act (.record o) ∈ m.agenda) : ∃ h ∈ hs, h.op?.bind Op.report? = some o := by
  induction run with
  | nil => simp at due
  | snoc run step ih =>
    rename_i n k hs h
    have earlier (still : .act (.record o) ∈ n.agenda) :
        ∃ g ∈ hs ++ [h], g.op?.bind Op.report? = some o := by
      obtain ⟨g, mem, reports⟩ := ih still
      exact ⟨g, by simp [mem], reports⟩
    have begins (op : Op) (here : h.op? = some op)
        (due : .act (.record o) ∈ op.actions.map Frame.act) :
        ∃ g ∈ hs ++ [h], g.op?.bind Op.report? = some o := by
      refine ⟨h, by simp, ?_⟩
      cases op <;> simp_all [Op.actions, Op.report?]
    cases step using Machine.Step.kinds with
    | began _ op | intruded _ op =>
      rcases List.mem_append.mp due with due | due
      · exact begins op rfl due
      · exact earlier due
    | acted t a rest =>
      refine earlier (List.mem_cons_of_mem _ ((List.mem_append.mp due).resolve_left fun next => ?_))
      obtain rfl := tells_next (.inl next)
      cases attached : t.control <;> simp [Action.perform, attached] at next
    | answered t w rest a =>
      refine earlier (List.mem_cons_of_mem _ ((List.mem_append.mp due).resolve_left fun next => ?_))
      unfold Wait.resume at next
      split at next <;> simp at next

theorem report_of_recorded {o : Outcome} (run : Machine.Run ⟨s, []⟩ hs m) (kept : o ∈ recorded hs) :
    ∃ h ∈ hs, h.op?.bind Op.report? = some o := by
  obtain ⟨g, mem, records⟩ := List.mem_filterMap.mp kept
  obtain ⟨t, rfl⟩ : ∃ t, g = .acted t (.record o) := by
    unfold Happening.recorded? at records
    split at records
    · simp_all
    · simp at records
  obtain ⟨pre, post, rest, rfl, before⟩ := run.before_action mem
  obtain ⟨h, earlier, reports⟩ := report_of_due (o := o) before (by simp)
  exact ⟨h, by simp [earlier], reports⟩

theorem History.Unnested.before (apart : Unnested (hs ++ gs)) : Unnested hs := by
  intro k inside reports
  have here := apart k (by simp; omega)
  rw [List.getElem_append_left inside, List.take_append_of_le_length (Nat.le_of_lt inside)] at here
  exact here reports

theorem History.Unnested.last (apart : Unnested (hs ++ [h])) (reports : h.reportsEnd) :
    hs.countP Happening.reportsEnd = hs.countP Happening.delivers := by
  have here := apart hs.length (by simp)
  simp only [List.getElem_concat_length, List.take_left'] at here
  exact here reports

theorem History.Disturbed.append (disturbed : Disturbed hs) (gs : List Happening) :
    Disturbed (hs ++ gs) := by
  obtain ⟨pre, t, r, op, post, rfl⟩ := disturbed
  exact ⟨pre, t, r, op, post ++ gs, by simp⟩

theorem delivers_next (s : Session) (a : Action) :
    (Happening.acted s a).delivers.toNat + (a.perform s).next.countP Frame.delivers =
      (Frame.act a).delivers.toNat := by
  by_cases records : ∃ o, a = .record o
  · obtain ⟨o, rfl⟩ := records
    cases attached : s.control <;>
      simp [Action.perform, attached, Frame.delivers, Happening.delivers]
  have undelivered : (a.perform s).next.countP Frame.delivers = 0 := by
    refine countP_next s fun f leads => ?_
    unfold Frame.delivers
    split
    · exact absurd leads (not_leads_record a _)
    · exact absurd ⟨_, eq_of_leads_terminate leads⟩ records
    · cases leads with
      | unattended => exact absurd ⟨_, rfl⟩ records
      | poll _ _ _ stage => simp [Action.ofPoll] at stage
    · rfl
  rw [undelivered]
  cases a with
  | record o => exact absurd ⟨o, rfl⟩ records
  | _ => rfl

theorem delivers_run (run : Machine.Run ⟨s, []⟩ hs m) :
    hs.countP Happening.delivers + m.agenda.countP Frame.delivers =
      hs.countP Happening.reportsEnd := by
  refine run.balance ?_ ?_ ?_
  · intro h op begins
    cases h with
    | acted | answered => simp [Happening.op?] at begins
    | began p | intruded p => cases p <;> cases begins <;> rfl
  · exact delivers_next
  · intro w a
    unfold Wait.resume
    split <;> rfl

theorem single_report (run : Machine.Run ⟨s, []⟩ hs m) (apart : Unnested hs) :
    m.agenda.countP Frame.delivers ≤ 1 := by
  induction run with
  | nil => simp
  | snoc run step ih =>
    rename_i n k hs h
    have few := ih apart.before
    have before := delivers_run run
    have after := delivers_run (run.snoc step)
    rw [List.countP_append, List.countP_append, List.countP_singleton, List.countP_singleton]
      at after
    cases reports : h.reportsEnd with
    | true =>
      have none_due := apart.last reports
      simp only [reports, if_true] at after
      omega
    | false =>
      simp only [reports, Bool.false_eq_true, if_false] at after
      omega

def Frame.isMild : Frame → Bool
  | .act (.register _) | .act .inspect | .act .checkCancelled | .act (.reply _) => true
  | f => !f.ofPoll

inductive Due (hs : List Happening) (q : Outcome) (m : Machine) : Prop
  | kept (undecided : m.session.outcome? = none) (t : Session) (r : Outcome)
    (last : hs.getLast? = some (.acted t (.record r))) (below : Agenda)
    (agenda : m.agenda = .act .cancel :: .act (.terminate q) :: below)
  | cancelled (undecided : m.session.outcome? = none) (cancelled : m.session.isCancelled)
    (above below : Agenda) (agenda : m.agenda = above ++ .act (.terminate q) :: below)
    (mild : ∀ f ∈ above, f.isMild)

/-- What a run says about the end that the session keeps and the outcome of the send, as long as no
poll has finished. -/
structure Heard (hs : List Happening) (m : Machine) : Prop where
  free : m.session.transportOutcome = none → m.session.outcome? = none
  known : ∀ o, .act (.terminate o) ∈ m.agenda → m.session.transportOutcome.isSome
  told : ∀ q, m.session.transportOutcome = some q → m.session.control.isSome →
    m.session.outcome? = some q ∨ Due hs q m

theorem mild_of_other {agenda : Agenda} (other : polls agenda = []) : ∀ f ∈ agenda, f.isMild := by
  intro f mem
  have unpolled : f.ofPoll = false := by
    have none_due := List.filter_eq_nil_iff.mp other f mem
    simpa using none_due
  unfold Frame.isMild
  split <;> first | rfl | simp [unpolled]

theorem mild_actions (op : Op) : ∀ f ∈ op.actions.map Frame.act, f.isMild := by
  cases op <;> simp [Op.actions, Frame.isMild, Action.ofPoll]

theorem mild_next {s : Session} {a : Action} (mild : (Frame.act a).isMild)
    (undecided : s.outcome? = none) (cancelled : s.isCancelled) :
    ∀ f ∈ (a.perform s).next, f.isMild := by
  cases own : a.ofPoll with
  | false => exact mild_of_other (polls_next_other s own)
  | true =>
    have step := pollStep_perform s own
    generalize (a.perform s).session = t, (a.perform s).next = next at step ⊢
    cases step with
    | decided decided => simp [outcome_control, undecided] at decided
    | goesOn uncancelled => simp [cancelled_control, cancelled] at uncancelled
    | passes looks => rcases looks with rfl | rfl <;> simp [Frame.isMild, Action.ofPoll] at mild
    | _ => simp_all [Frame.isMild, Action.ofPoll]

theorem mild_resume {w : Wait} (mild : (Frame.wait w).isMild) (a : Answer) :
    ∀ f ∈ (w.resume a).map Frame.act, f.isMild := by
  have other : w.ofPoll = false := by simpa [Frame.isMild] using mild
  exact mild_of_other (polls_resume_other a other)

theorem Due.mem (due : Due hs q m) : .act (.terminate q) ∈ m.agenda := by
  cases due with
  | kept _ t r last below agenda => simp [agenda]
  | cancelled _ _ above below agenda => simp [agenda]

theorem Due.undecided (due : Due hs q m) : m.session.outcome? = none := by
  cases due <;> assumption

theorem alone_of_single {above below : Agenda} (single : m.agenda.countP Frame.delivers ≤ 1)
    (agenda : m.agenda = above ++ .act (.terminate q) :: below) :
    ∀ f ∈ above, f.delivers = false := by
  rw [agenda, List.countP_append, List.countP_cons] at single
  have none_above : above.countP Frame.delivers = 0 := by
    simp [Frame.delivers] at single
    omega
  simpa [List.countP_eq_zero] using none_above

theorem Due.start {op : Op} (due : Due hs q m)
    (unkept : ∀ t r, hs.getLast? = some (.acted t (.record r)) → ∀ below,
      m.agenda ≠ .act .cancel :: below) : Due (hs ++ [h]) q (m.start op) := by
  cases due with
  | kept _ t r last below agenda => exact absurd agenda (unkept t r last _)
  | cancelled undecided cancelled above below agenda mild =>
    exact .cancelled undecided cancelled (op.actions.map .act ++ above) below
      (by simp [Machine.start, agenda]) (List.forall_mem_append.mpr ⟨mild_actions op, mild⟩)

theorem terminate_undecided {s : Session} (attached : s.control.isSome)
    (undecided : s.outcome? = none) :
    ((Action.terminate q).perform s).session.outcome? = some q := by
  obtain ⟨c, here⟩ := Option.isSome_iff_exists.mp attached
  have stands : c.outcome = none := by simpa [Session.outcome?, here] using undecided
  simp [Action.perform, here, stands, Session.outcome?]

theorem Due.perform {s : Session} {a : Action} {rest : Agenda}
    (attachment : Attachment gs ⟨s, .act a :: rest⟩)
    (single : (Frame.act a :: rest).countP Frame.delivers ≤ 1) (attached : s.control.isSome)
    (due : Due hs q ⟨s, .act a :: rest⟩) :
    (a.perform s).session.outcome? = some q ∨
      Due (hs ++ [h]) q ⟨(a.perform s).session, (a.perform s).next ++ rest⟩ := by
  cases due with
  | kept undecided t r last below agenda =>
    obtain ⟨rfl, rfl⟩ : a = .cancel ∧ rest = .act (.terminate q) :: below := by simpa using agenda
    obtain ⟨c, here⟩ := Option.isSome_iff_exists.mp attached
    refine .inr (.cancelled ?_ (cancel_cancels attached) (wakeFrames c.waker) below ?_ ?_)
    · rw [(changes_perform s _).outcome_eq (by simp) (by simp) (by simp)]
      exact undecided
    · simp [Action.perform, here]
    · exact mild_of_other (polls_wakeFrames c.waker)
  | cancelled undecided cancelled above below agenda mild =>
    have opens : a ≠ .openWriter := by
      rintro rfl
      have unattached : s.control = none := attachment.opens.1
      simp [unattached] at attached
    cases above with
    | nil =>
      obtain ⟨rfl, rfl⟩ : a = .terminate q ∧ rest = below := by simpa using agenda
      exact .inl (terminate_undecided attached undecided)
    | cons f above =>
      obtain ⟨rfl, rfl⟩ : .act a = f ∧ rest = above ++ .act (.terminate q) :: below := by
        simpa using agenda
      have quiet := alone_of_single (m := ⟨s, _⟩) single agenda (.act a) (by simp)
      have mild_here := mild (.act a) (by simp)
      refine .inr (.cancelled ?_ ((changes_perform s a).isCancelled opens cancelled)
        ((a.perform s).next ++ above) below (by simp) ?_)
      · rw [(changes_perform s a).outcome_eq opens]
        · exact undecided
        · rintro o rfl
          simp [Frame.isMild, Action.ofPoll] at mild_here
        · rintro o rfl
          simp [Frame.delivers] at quiet
      · refine List.forall_mem_append.mpr ⟨mild_next mild_here undecided cancelled, ?_⟩
        exact fun f mem => mild f (by simp [mem])

theorem Due.hear {s : Session} {w : Wait} {rest : Agenda} (due : Due hs q ⟨s, .wait w :: rest⟩)
    (a : Answer) : Due (hs ++ [h]) q ⟨s, (w.resume a).map .act ++ rest⟩ := by
  cases due with
  | kept _ t r last below agenda => simp at agenda
  | cancelled undecided cancelled above below agenda mild =>
    cases above with
    | nil => simp at agenda
    | cons f above =>
      obtain ⟨rfl, rfl⟩ : .wait w = f ∧ rest = above ++ .act (.terminate q) :: below := by
        simpa using agenda
      refine .cancelled undecided cancelled ((w.resume a).map .act ++ above) below (by simp) ?_
      refine List.forall_mem_append.mpr ⟨mild_resume (mild _ (by simp)) a, ?_⟩
      exact fun f mem => mild f (by simp [mem])

theorem Due.step (attachment : Attachment gs m) (single : m.agenda.countP Frame.delivers ≤ 1)
    (attached : m.session.control.isSome) (due : Due hs q m) (step : Machine.Step m h n)
    (undisturbed : ¬ Disturbed (hs ++ [h])) :
    n.session.outcome? = some q ∨ Due (hs ++ [h]) q n := by
  cases step using Machine.Step.kinds with
  | began m op control =>
    refine .inr (due.start fun t r _ below agenda => ?_)
    simp [Machine.isYielding, Machine.isIdle, Machine.call?, agenda] at control
  | intruded m op =>
    refine .inr (due.start fun t r last _ _ => undisturbed ?_)
    obtain ⟨pre, rfl⟩ := List.getLast?_eq_some_iff.mp last
    exact ⟨pre, t, r, op, [], by simp⟩
  | acted s a rest => exact due.perform attachment single attached
  | answered s w rest a => exact .inr (due.hear a)

theorem known_step (ok : ∀ o, .act (.terminate o) ∈ m.agenda → m.session.transportOutcome.isSome)
    (step : Machine.Step m h n) :
    ∀ o, .act (.terminate o) ∈ n.agenda → n.session.transportOutcome.isSome := by
  intro o due
  cases step using Machine.Step.kinds with
  | began m op | intruded m op =>
    have unstarted : .act (.terminate o) ∉ op.actions.map Frame.act := by
      cases op <;> simp [Op.actions]
    exact ok o ((List.mem_append.mp due).resolve_left unstarted)
  | answered s w rest a =>
    have unheard : .act (.terminate o) ∉ (w.resume a).map Frame.act := by
      unfold Wait.resume
      split <;> simp
    exact ok o (List.mem_cons_of_mem _ ((List.mem_append.mp due).resolve_left unheard))
  | acted s a rest =>
    rcases List.mem_append.mp due with due | due
    · obtain rfl := tells_next (.inr due)
      simp [Action.perform]
    · exact (changes_perform s a).transportOutcome_isSome (ok o (List.mem_cons_of_mem _ due))

theorem Heard.free_step {s : Session} {a : Action} {rest : Agenda}
    (ok : Heard hs ⟨s, .act a :: rest⟩) (unfinished : ∀ p, a ≠ .finish p)
    (unreported : (a.perform s).session.transportOutcome = none) :
    (a.perform s).session.outcome? = none := by
  have before : s.transportOutcome = none := by
    by_contra reported
    have after :=
      (changes_perform s a).transportOutcome_isSome (Option.isSome_iff_ne_none.mpr reported)
    simp [unreported] at after
  by_cases opens : a = .openWriter
  · subst opens
    simp [Action.perform, Session.openWriter, Session.outcome?, before]
  rw [(changes_perform s a).outcome_eq opens unfinished]
  · exact ok.free before
  · rintro o rfl
    have known : s.transportOutcome.isSome := ok.known o (by simp)
    simp [before] at known

theorem Heard.told_perform {s : Session} {a : Action} {rest : Agenda}
    (attachment : Attachment gs ⟨s, .act a :: rest⟩)
    (single : (Frame.act a :: rest).countP Frame.delivers ≤ 1) (ok : Heard hs ⟨s, .act a :: rest⟩)
    (reported : (a.perform s).session.transportOutcome = some q)
    (attached : (a.perform s).session.control.isSome) :
    (a.perform s).session.outcome? = some q ∨
      Due (hs ++ [.acted s a]) q ⟨(a.perform s).session, (a.perform s).next ++ rest⟩ := by
  cases before : s.transportOutcome with
  | none =>
    obtain ⟨o, rfl⟩ : ∃ o, a = .record o := by
      by_contra other
      have same := (changes_perform s a).transportOutcome_eq fun o records => other ⟨o, records⟩
      simp [same, before] at reported
    obtain rfl : o = q := by simpa [Action.perform, before] using reported
    have here : s.control.isSome := attached
    have undecided : s.outcome? = none := ok.free before
    exact .inr (.kept undecided s o (by simp) rest (by simp [Action.perform, here]))
  | some r =>
    obtain rfl : r = q := by
      by_cases records : ∃ o, a = .record o
      · obtain ⟨o, rfl⟩ := records
        simpa [Action.perform, before] using reported
      · have same := (changes_perform s a).transportOutcome_eq fun o same => records ⟨o, same⟩
        simpa [same, before] using reported
    by_cases opens : a = .openWriter
    -- A writer that is attached now learns of the end as it opens.
    · subst opens
      exact .inl before
    have here : s.control.isSome := attachment.perform_attached opens ▸ attached
    rcases ok.told r before here with decided | due
    · exact .inl ((changes_perform s a).outcome_eq_some opens decided)
    · exact due.perform attachment single here

theorem Heard.step (attachment : Attachment gs m) (single : m.agenda.countP Frame.delivers ≤ 1)
    (ok : Heard hs m) (step : Machine.Step m h n) (unfinished : h.finishes = false)
    (undisturbed : ¬ Disturbed (hs ++ [h])) : Heard (hs ++ [h]) n := by
  refine ⟨?_, known_step ok.known step, ?_⟩
  · cases step using Machine.Step.kinds with
    | began | intruded | answered => exact ok.free
    | acted s a rest =>
      refine ok.free_step ?_
      rintro p rfl
      simp [Happening.finishes] at unfinished
  · intro q reported attached
    have goes_on (same : n.session = m.session) :
        n.session.outcome? = some q ∨ Due (hs ++ [h]) q n := by
      rw [same] at reported attached
      rcases ok.told q reported attached with decided | due
      · exact .inl (same ▸ decided)
      · exact due.step attachment single attached step undisturbed
    cases step using Machine.Step.kinds with
    | began | intruded | answered => exact goes_on rfl
    | acted s a rest => exact ok.told_perform attachment single reported attached

theorem Heard.run (new : s.IsNew) (run : Machine.Run ⟨s, []⟩ hs m) (apart : Unnested hs)
    (unfinished : ∀ h ∈ hs, h.finishes = false) (undisturbed : ¬ Disturbed hs) : Heard hs m := by
  induction run with
  | nil =>
    obtain ⟨g, c, rfl, -, -⟩ := new.cases
    exact ⟨fun _ => rfl, by simp, by simp⟩
  | snoc run step ih =>
    have before := ih apart.before (fun h mem => unfinished h (by simp [mem]))
      fun disturbed => undisturbed (disturbed.append _)
    exact before.step (.run new run) (single_report run apart.before) step (unfinished _ (by simp))
      undisturbed

theorem outcome_at_finish {t : Session} {p : Outcome} {rest : Agenda} (new : s.IsNew)
    (run : Machine.Run ⟨s, []⟩ hs ⟨t, .act (.finish p) :: rest⟩) (apart : Unnested hs)
    (undisturbed : ¬ Disturbed hs) (unfinished : ∀ h ∈ hs, h.finishes = false) :
    t.outcome? = (recorded hs).head? := by
  have ok := Heard.run new run apart unfinished undisturbed
  have attached : t.control.isSome := (Attachment.run new run).attached rfl
  rw [← transportOutcome_eq new run]
  cases reported : t.transportOutcome with
  | none => simpa [reported] using ok.free reported
  | some q =>
    rcases ok.told q reported attached with decided | due
    · simpa [reported] using decided
    · cases due with
      | kept _ _ _ _ below agenda => simp at agenda
      | cancelled _ _ above below agenda mild =>
        cases above with
        | nil => simp at agenda
        | cons f above =>
          obtain ⟨rfl, -⟩ : .act (.finish p) = f ∧ _ := by simpa using agenda
          have wild := mild (.act (.finish p)) (by simp)
          simp [Frame.isMild, Action.ofPoll] at wild

end

end Duplex

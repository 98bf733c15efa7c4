import Duplex.Proofs.Exchange.Inward
import Duplex.Proofs.Inbound.Report

/-!
How the end of the connection comes to the session. Until the reader has read it, nobody knows of an
end or a failure; it is the reader who tells the inbound sequence, before anybody else can.
-/

namespace Duplex

open History Exchange

structure Session.IsCalm (s : Session) : Prop where
  live : s.inbound.isLive
  unreported : s.transportOutcome = none
  unfailed : ∀ e, s.outcome? ≠ some (.failure e)

section

variable {s : Session} {a : Action}

theorem live_perform (live : s.inbound.isLive) (mild : (Frame.act a).isGrave = false)
    (fits : ∀ m, a = .store m → s.inbound.pending.length < s.setting.capacity) :
    (a.perform s).session.inbound.isLive := by
  cases a with
  | store m => rwa [Action.perform, Session.store_of_room m live (fits m rfl)]
  | take p =>
    cases queue : s.inbound.pending with
    | cons m rest => rwa [Action.perform, Session.take_of_cons p queue]
    | nil =>
      rw [Action.perform, Session.take_of_nil p queue]
      exact (Inbound.isLive_report _ p).trans live
  | failInbound | completeInbound => simp [Frame.isGrave] at mild
  | _ => rwa [(changes_perform s _).inbound_eq rfl]

theorem outcome_perform (unreported : s.transportOutcome = none)
    (mild : (Frame.act a).isGrave = false) (other : ∀ o, a ≠ .finish o) :
    (a.perform s).session.outcome? = s.outcome? ∨ (a.perform s).session.outcome? = none := by
  by_cases opens : a = .openWriter
  · subst opens
    exact .inr unreported
  · refine .inl ((changes_perform s a).outcome_eq opens other ?_)
    rintro o rfl
    simp [Frame.isGrave] at mild

theorem finish_of_calm (calm : s.IsCalm) {o : Outcome} (orderly : (Action.finish o).isOrderly s) :
    s.outcome?.getD o = .success := by
  cases decided : s.outcome? with
  | some r =>
    cases r with
    | success => rfl
    | failure e => exact absurd decided (calm.unfailed e)
  | none =>
    cases o with
    | success => rfl
    | failure e => simp [Action.isOrderly, decided] at orderly

theorem Session.IsCalm.perform (calm : s.IsCalm) (mild : (Frame.act a).isGrave = false)
    (fits : ∀ m, a = .store m → s.inbound.pending.length < s.setting.capacity)
    (orderly : a.isOrderly s) : (a.perform s).session.IsCalm := by
  have unrecorded : ∀ o, a ≠ .record o := by
    rintro o rfl
    simp [Frame.isGrave] at mild
  refine ⟨live_perform calm.live mild fits,
    ((changes_perform s a).transportOutcome_eq unrecorded).trans calm.unreported, ?_⟩
  intro e failed
  by_cases other : ∀ o, a ≠ .finish o
  · rcases outcome_perform calm.unreported mild other with same | none
    · exact calm.unfailed e (same.symm.trans failed)
    · simp [none] at failed
  · obtain ⟨o, rfl⟩ : ∃ o, a = .finish o := by simpa using other
    rw [Action.perform, outcome_finish, finish_of_calm calm orderly] at failed
    simp at failed

theorem not_grave_next (calm : s.IsCalm) (mild : (Frame.act a).isGrave = false)
    (orderly : a.isOrderly s) : ∀ f ∈ (a.perform s).next, f.isGrave = false := by
  intro f mem
  cases a with
  | finish o =>
    have next : (s.finish o).next = [.act (.conclude (s.outcome?.getD o)),
        .act (.reply (.polled (some (s.outcome?.getD o))))] := by
      rw [← outcome_control s]
      rfl
    rw [Action.perform, next, finish_of_calm calm orderly] at mem
    rcases List.mem_pair.mp mem with rfl | rfl <;> rfl
  | conclude o | finalize o | resolve o | settle o =>
    cases o with
    | failure e => simp [Frame.isGrave] at mild
    | success =>
      simp only [Action.perform, Session.settle] at mem
      repeat' split at mem
      all_goals first
        | exact absurd mem List.not_mem_nil
        | obtain rfl := List.mem_singleton.mp mem
          rfl
  | _ =>
    cases leads_next mem with
    | poll _ b _ stage => cases b <;> first | rfl | simp [Action.ofPoll] at stage
    | _ => first | rfl | simp [Frame.isGrave] at mild

theorem end?_of_mild (mild : (Frame.act a).isGrave = false)
    (fits : ∀ m, a = .store m → s.inbound.pending.length < s.setting.capacity) :
    (Happening.acted s a).end? = none := by
  cases a with
  | store m =>
    have room := fits m rfl
    simp [Happening.end?, Nat.not_le.mpr room]
  | failInbound | completeInbound => simp [Frame.isGrave] at mild
  | _ => rfl

theorem mild_of_isPrelude (s : Session) (first : a.isPrelude) : (Frame.act a).isGrave = false ∧
    (a.perform s).next = [] ∧ ∀ m, a ≠ .store m := by
  cases a <;> simp_all [Action.isPrelude, Frame.isGrave, Action.perform]

end

variable {ι : Type} {ds : List (Deed ι)} {d : Deed ι}

namespace History

def reads (ds : List (Deed ι)) : List Wire.Endpoint.Read := ds.filterMap Deed.result?

theorem reads_snoc (ds : List (Deed ι)) (d : Deed ι) :
    reads (ds ++ [d]) = reads ds ++ d.result?.toList := by
  simp [reads, filterMap_cons_toList]

end History

/-- Nothing is read after an end. -/
def EndsWith (rs : List Wire.Endpoint.Read) (o : Outcome) : Prop :=
  ∃ before r, rs = before ++ [r] ∧ r.end? = some o ∧ ∀ q ∈ before, q.end? = none

variable [DecidableEq ι] {x y : Exchange ι}

/-- How far the end of the connection has come. -/
inductive Tide (ds : List (Deed ι)) (x : Exchange ι) : Prop
  | flowing (stage : x.link.reader ≠ .leaving ∧ x.link.reader ≠ .ended) (calm : x.session.IsCalm)
    (mild : ∀ p, ∀ f ∈ (x.hands p).agenda, f.isGrave = false)
    (going : ∀ r ∈ reads ds, r.end? = none) (unended : ends (work ds) = [])
  | turning (stage : x.link.reader = .leaving) (calm : x.session.IsCalm)
    (o : Outcome) (pre : List Action) (quiet : ∀ a ∈ pre, a.isPrelude)
    (agenda : (x.hands .reader).agenda =
      (pre ++ [o.endAction, .record o, .reply .unit]).map .act)
    (mild : ∀ p, p ≠ .reader → ∀ f ∈ (x.hands p).agenda, f.isGrave = false)
    (read : EndsWith (reads ds) o) (unended : ends (work ds) = [])
  | ebbed (stage : x.link.reader = .leaving ∨ x.link.reader = .ended)
    (o : Outcome) (read : EndsWith (reads ds) o) (decided : (ends (work ds)).head? = some o)

theorem not_grave_of_plain {f : Frame} (plain : f.isPlain) : f.isGrave = false := by
  simp_all [Frame.isPlain]

theorem mild_put {S : Party ι → Prop} {p : Party ι} {hand : Hand}
    (mild : ∀ q, S q → ∀ f ∈ (x.hands q).agenda, f.isGrave = false)
    (own : S p → ∀ f ∈ hand.agenda, f.isGrave = false) :
    ∀ q, S q → ∀ f ∈ ((x.put p hand).hands q).agenda, f.isGrave = false :=
  forall_put (P := fun q h => S q → ∀ f ∈ h.agenda, f.isGrave = false) (fun q _ => mild q) own

theorem mild_step {S : Party ι → Prop} (calm : x.session.IsCalm)
    (mild : ∀ p, S p → ∀ f ∈ (x.hands p).agenda, f.isGrave = false) (step : Inward x d y)
    (orderly : d.isOrderly) (unread : d.result? = none) :
    ∀ p, S p → ∀ f ∈ (y.hands p).agenda, f.isGrave = false := by
  cases step with
  | aside p aside =>
    intro q here f mem
    by_cases same : q = p
    · subst same
      rcases aside.frames f mem with old | plain
      · exact mild q here f old
      · exact not_grave_of_plain plain
    · rw [aside.others q same] at mem
      exact mild q here f mem
  | @acts p a rest next =>
    refine mild_put mild fun here => ?_
    have old := mild p here
    rw [next] at old
    obtain ⟨own, later⟩ := List.forall_mem_cons.mp old
    exact List.forall_mem_append.mpr ⟨not_grave_next calm own orderly, later⟩
  | @suspends p m rest next | @signals p m rest next =>
    refine mild_put mild fun here => ?_
    have old := mild p here
    rw [next] at old
    exact List.forall_mem_cons.mpr ⟨rfl, (List.forall_mem_cons.mp old).2⟩
  | @releases p m rest next =>
    exact mild_put mild (mild p)
  | reads l flow r move reading =>
    cases reading with
    | blocked =>
      exact mild_put mild (by simp)
    | message => simp [Deed.result?] at unread
    | ended r o said => cases r <;> simp_all [Deed.result?, Wire.Endpoint.Read.end?]
  | tends idle stage =>
    refine mild_put mild fun _ => ?_
    simp [Link.stepReader_op stage]

theorem calm_step (calm : x.session.IsCalm) (step : Inward x d y) (orderly : d.isOrderly)
    (own : ∀ p a rest, d = .did p (.acted x.session a) → (x.hands p).agenda = .act a :: rest →
      (Frame.act a).isGrave = false)
    (fits : ∀ p m rest, (x.hands p).agenda = .act (.store m) :: rest →
      x.session.inbound.pending.length < x.session.setting.capacity) :
    y.session.IsCalm ∧ d.work?.bind Happening.end? = none := by
  cases step with
  | aside p aside silent =>
    refine ⟨aside.session ▸ calm, ?_⟩
    rcases silent with none | ⟨w, a, answered⟩
    · rw [none]
      rfl
    · rw [answered]
      rfl
  | @acts p a rest next =>
    have mild := own p a rest rfl next
    have room : ∀ m, a = .store m →
        x.session.inbound.pending.length < x.session.setting.capacity := by
      rintro m rfl
      exact fits p m rest next
    exact ⟨calm.perform mild room orderly, end?_of_mild mild room⟩
  | suspends | signals | releases | reads | tends => exact ⟨calm, rfl⟩

theorem stage_flowing (stage : x.link.reader ≠ .leaving ∧ x.link.reader ≠ .ended)
    (step : Inward x d y) (unread : d.result? = none) :
    y.link.reader ≠ .leaving ∧ y.link.reader ≠ .ended := by
  cases step with
  | aside p aside => rwa [aside.reader]
  | acts | suspends | signals | releases => exact stage
  | reads l flow r move reading same =>
    cases reading with
    | blocked => simpa [moved, same] using stage
    | message => simp [Deed.result?] at unread
    | ended r o said => cases r <;> simp_all [Deed.result?, Wire.Endpoint.Read.end?]
  | tends idle other =>
    simp only [moved]
    cases here : x.link.reader with
    | reading => exact absurd here other
    | leaving => exact absurd here stage.1
    | ended => exact absurd here stage.2
    | checking => simp only [Link.stepReader, here]; split <;> simp
    | enlisting => simp only [Link.stepReader, here]; split <;> simp
    | parked => simp only [Link.stepReader, here]; split <;> simp [here]

theorem stage_busy (busy : (x.hands .reader).agenda ≠ []) (step : Inward x d y) :
    y.link.reader = x.link.reader ∧ d.result? = none := by
  cases step with
  | aside p aside silent unread => exact ⟨aside.reader, unread⟩
  | acts | suspends | signals | releases => exact ⟨rfl, rfl⟩
  | reads _ _ _ _ _ _ idle => exact absurd idle busy
  | tends idle => exact absurd idle busy

theorem reader_acting {a : Action} {rest : Agenda} (next : (x.hands .reader).agenda = .act a :: rest)
    (step : Inward x d y) :
    (y.hands .reader = x.hands .reader ∧ ∀ b, d ≠ .did .reader (.acted x.session b)) ∨
      d = .did .reader (.acted x.session a) ∧ y.session = (a.perform x.session).session ∧
        (y.hands .reader).agenda = (a.perform x.session).next ++ rest ∧
        ∀ q ≠ .reader, y.hands q = x.hands q := by
  have waits {p : Party ι} {w : Wait} {later : Agenda}
      (here : (x.hands p).agenda = .wait w :: later) : .reader ≠ p := by
    rintro rfl
    simp [next] at here
  cases step with
  | aside p aside silent =>
    refine .inl ⟨aside.others _ ?_, ?_⟩
    · rintro rfl
      obtain ⟨w, later, here⟩ := aside.asked rfl
      exact waits here rfl
    · rintro b rfl
      simp [Deed.work?] at silent
  | @acts p b later here =>
    by_cases own : .reader = p
    · subst own
      obtain ⟨rfl, rfl⟩ : a = b ∧ rest = later := by simpa [next] using here
      exact .inr ⟨rfl, rfl, by simp, fun q other => hands_put_of_ne other _⟩
    · exact .inl ⟨hands_put_of_ne own _, by simp [Ne.symm own]⟩
  | suspends here | signals here | releases here =>
    exact .inl ⟨hands_put_of_ne (waits here) _, by simp⟩
  | reads _ _ _ _ _ _ idle => simp [next] at idle
  | tends idle => simp [next] at idle

section

variable (step : Inward x d y) (orderly : d.isOrderly)
  (fits : ∀ p m rest, (x.hands p).agenda = .act (.store m) :: rest →
    x.session.inbound.pending.length < x.session.setting.capacity)

include step orderly fits

theorem tide_flowing (stage : x.link.reader ≠ .leaving ∧ x.link.reader ≠ .ended)
    (calm : x.session.IsCalm) (mild : ∀ p, ∀ f ∈ (x.hands p).agenda, f.isGrave = false)
    (going : ∀ r ∈ reads ds, r.end? = none) (unended : ends (work ds) = []) :
    Tide (ds ++ [d]) y := by
  have own : ∀ p a rest, d = .did p (.acted x.session a) →
      (x.hands p).agenda = .act a :: rest → (Frame.act a).isGrave = false := by
    intro p a rest _ next
    exact mild p _ (by simp [next])
  obtain ⟨still, silent⟩ := calm_step calm step orderly own fits
  have unended : ends (work (ds ++ [d])) = [] := by
    rw [ends, work, filterMap_filterMap_snoc, ← work, silent]
    simpa [ends] using unended
  by_cases unread : d.result? = none
  · refine .flowing (stage_flowing stage step unread) still ?_ ?_ unended
    · intro p
      exact mild_step (S := fun _ => True) calm (fun p _ => mild p) step orderly unread p trivial
    · simpa [reads_snoc, unread] using going
  · cases step with
    | aside p aside silent none => exact absurd none unread
    | acts | suspends | signals | releases | tends => exact absurd rfl unread
    | reads l flow r move reading =>
      have known : reads (ds ++ [.read r]) = reads ds ++ [r] := by
        rw [reads_snoc]
        cases r <;> simp_all [Deed.result?]
      cases reading with
      | blocked => simp [Deed.result?] at unread
      | message i m data =>
        refine .flowing (by simp [moved]) still ?_ ?_ unended
        · exact forall_put (P := fun _ h => ∀ f ∈ h.agenda, f.isGrave = false) (fun q _ => mild q)
            (by simp [Op.actions, Frame.isGrave])
        · rw [known]
          refine List.forall_mem_append.mpr ⟨going, List.forall_mem_singleton.mpr ?_⟩
          cases i <;> simp_all [Wire.Endpoint.Read.end?, Wire.Item.toMessage?]
      | ended r o said entries op pre quiet actions =>
        refine .turning rfl still o pre quiet ?_ ?_ ⟨reads ds, r, known, said, going⟩ unended
        · simp [moved, actions]
        · exact mild_put (S := fun q => q ≠ .reader) (fun q _ => mild q) (by simp)

theorem tide_turning (stage : x.link.reader = .leaving) (calm : x.session.IsCalm)
    {o : Outcome} {pre : List Action} (quiet : ∀ a ∈ pre, a.isPrelude)
    (agenda : (x.hands .reader).agenda =
      (pre ++ [o.endAction, .record o, .reply .unit]).map .act)
    (mild : ∀ p, p ≠ .reader → ∀ f ∈ (x.hands p).agenda, f.isGrave = false)
    (read : EndsWith (reads ds) o) (unended : ends (work ds) = []) : Tide (ds ++ [d]) y := by
  obtain ⟨same, unread⟩ := stage_busy (by simp [agenda]) step
  have stage : y.link.reader = .leaving := same.trans stage
  have read : EndsWith (reads (ds ++ [d])) o := by simpa [reads_snoc, unread] using read
  have told : ends (work (ds ++ [d])) = (d.work?.bind Happening.end?).toList := by
    rw [ends, work, filterMap_filterMap_snoc, ← work, ← ends, unended, List.nil_append]
  obtain ⟨a, later, split⟩ :
      ∃ a later, pre ++ [o.endAction, .record o, .reply .unit] = a :: later := by
    cases pre <;> simp
  -- Somebody else comes in, or the reader goes on with its report.
  rcases reader_acting (agenda.trans (by rw [split]; rfl)) step with
    ⟨kept, others⟩ | ⟨rfl, session, after, others⟩
  · have own : ∀ p b rest, d = .did p (.acted x.session b) →
        (x.hands p).agenda = .act b :: rest → (Frame.act b).isGrave = false := by
      rintro p b rest rfl next
      exact mild p (fun same => others b (by rw [same])) _ (by simp [next])
    obtain ⟨still, silent⟩ := calm_step calm step orderly own fits
    exact .turning stage still o pre quiet (by rw [kept, agenda])
      (mild_step calm mild step orderly unread) read (by rw [told, silent]; rfl)
  · cases pre with
    | nil =>
      obtain ⟨rfl, -⟩ : o.endAction = a ∧ _ := by simpa using split
      refine .ebbed (.inl stage) o read ?_
      rw [told]
      cases o <;> rfl
    | cons b pre =>
      obtain ⟨rfl, rfl⟩ : b = a ∧ _ = later := by simpa using split
      obtain ⟨first, quiet⟩ := List.forall_mem_cons.mp quiet
      obtain ⟨harmless, next, unstored⟩ := mild_of_isPrelude x.session first
      have still : (b.perform x.session).session.IsCalm :=
        calm.perform harmless (fun m store => absurd store (unstored m)) orderly
      refine .turning stage (session ▸ still) o pre quiet (by simp [after, next]) ?_ read ?_
      · intro p other
        rw [others p other]
        exact mild p other
      · rw [told]
        have silent := end?_of_mild (s := x.session) harmless fun m store => absurd store (unstored m)
        exact congrArg Option.toList silent

omit orderly fits in
theorem tide_ebbed (stage : x.link.reader = .leaving ∨ x.link.reader = .ended) {o : Outcome}
    (read : EndsWith (reads ds) o) (decided : (ends (work ds)).head? = some o) :
    Tide (ds ++ [d]) y := by
  have unread : d.result? = none ∧ (y.link.reader = .leaving ∨ y.link.reader = .ended) := by
    cases step with
    | aside p aside silent unread => exact ⟨unread, by rwa [aside.reader]⟩
    | acts | suspends | signals | releases => exact ⟨rfl, stage⟩
    | reads _ _ _ _ _ _ _ reading => simp [reading] at stage
    | tends =>
      refine ⟨rfl, .inr ?_⟩
      rcases stage with here | here <;> simp [moved, Link.stepReader, here]
  refine .ebbed unread.2 o (by simpa [reads_snoc, unread.1] using read) ?_
  rw [ends, work, filterMap_filterMap_snoc, ← work, List.head?_append, ← ends, decided]
  rfl

end

theorem Tide.step (ok : Tide ds x) (step : Inward x d y) (orderly : d.isOrderly)
    (fits : ∀ p m rest, (x.hands p).agenda = .act (.store m) :: rest →
      x.session.inbound.pending.length < x.session.setting.capacity) : Tide (ds ++ [d]) y := by
  cases ok with
  | flowing stage calm mild going unended =>
    exact tide_flowing step orderly fits stage calm mild going unended
  | turning stage calm o pre quiet agenda mild read unended =>
    exact tide_turning step orderly fits stage calm quiet agenda mild read unended
  | ebbed stage o read decided => exact tide_ebbed step stage read decided

end Duplex

import Duplex.Proofs.Ending.Results
import Duplex.Proofs.Scenario.Refusal

/-!
The session's only outbound attachment. The first send attaches and every other is refused; how far
the session has come says exactly whether a send was called and whether its future has an outcome,
and it never goes back.
-/

namespace Duplex

namespace Happening

def offers : Happening → Bool
  | .acted _ .attach => true
  | _ => false

def attaches : Happening → Bool
  | .acted _ .openWriter => true
  | _ => false

/-- The outcome of the attached send is taken note of. -/
def conclusion? : Happening → Option Outcome
  | .acted _ (.conclude o) => some o
  | _ => none

/-- The outcome with which the driver finishes. -/
def settlement? : Happening → Option Outcome
  | .acted s (.finish o) => some (s.outcome?.getD o)
  | _ => none

end Happening

namespace Frame

def conclusion? : Frame → Option Outcome
  | .act (.conclude o) => some o
  | _ => none

def resolution? : Frame → Option Outcome
  | .act (.reply (.polled (some o))) => some o
  | _ => none

end Frame

namespace History

def offers (hs : List Happening) : Nat := hs.countP Happening.offers

def attachments (hs : List Happening) : Nat := hs.countP Happening.attaches

def conclusions (hs : List Happening) : List Outcome := hs.filterMap Happening.conclusion?

def settlements (hs : List Happening) : List Outcome := hs.filterMap Happening.settlement?

def resolutions (hs : List Happening) : List Outcome := hs.filterMap Happening.resolution?

theorem offers_snoc (hs : List Happening) (h : Happening) :
    offers (hs ++ [h]) = offers hs + h.offers.toNat := by
  cases here : h.offers <;> simp [offers, here]

theorem attachments_snoc (hs : List Happening) (h : Happening) :
    attachments (hs ++ [h]) = attachments hs + h.attaches.toNat := by
  cases here : h.attaches <;> simp [attachments, here]

theorem conclusions_snoc (hs : List Happening) (h : Happening) :
    conclusions (hs ++ [h]) = conclusions hs ++ h.conclusion?.toList := filterMap_snoc _ hs h

theorem settlements_snoc (hs : List Happening) (h : Happening) :
    settlements (hs ++ [h]) = settlements hs ++ h.settlement?.toList := filterMap_snoc _ hs h

end History

open History

inductive Proceeding (s : Session) : Action → Progress → Prop
  | same (a : Action) (unconcluding : ∀ o, a ≠ .conclude o)
    (unoffered : a = .attach → s.progress ≠ .notStarted) : Proceeding s a s.progress
  | starts (fresh : s.progress = .notStarted) : Proceeding s .attach .sending
  | concludes (o : Outcome) : Proceeding s (.conclude o) .completed

theorem proceeding_perform (s : Session) (a : Action) :
    Proceeding s a (a.perform s).session.progress := by
  cases a with
  | conclude o => exact .concludes o
  | attach =>
    by_cases fresh : s.progress = .notStarted
    · rw [Action.perform, if_pos fresh]
      exact .starts fresh
    · rw [perform_refused fresh]
      exact .same _ (by simp) fun _ => fresh
  | attachHandler => exact .same _ (by simp) (by simp)
  | _ =>
    rw [(changes_perform s _).progress_eq (by simp) (by simp)]
    exact .same _ (by simp) (by simp)

section

variable {s : Session} {hs : List Happening} {m n : Machine}

theorem conclusion?_eq_none {s : Session} {a : Action} (other : ∀ o, a ≠ .conclude o) :
    (Happening.acted s a).conclusion? = none := by
  cases a <;> first | rfl | exact absurd rfl (other _)

structure Progressed (hs : List Happening) (p : Progress) : Prop where
  notStarted : p = .notStarted ↔ offers hs = 0
  completed : p = .completed ↔ conclusions hs ≠ []

theorem Progressed.aside {p : Progress} {h : Happening} (ok : Progressed hs p)
    (unoffered : h.offers = true → p ≠ .notStarted) (unconcluded : h.conclusion? = none) :
    Progressed (hs ++ [h]) p := by
  obtain ⟨notStarted, completed⟩ := ok
  constructor
  · rw [offers_snoc]
    cases offered : h.offers with
    | false => simpa using notStarted
    | true => simpa using unoffered offered
  · simpa [conclusions_snoc, unconcluded] using completed

theorem Progressed.perform {p : Progress} {a : Action} (ok : Progressed hs s.progress)
    (moved : Proceeding s a p) (started : ∀ o, a = .conclude o → s.progress ≠ .notStarted) :
    Progressed (hs ++ [.acted s a]) p := by
  cases moved with
  | same _ unconcluding unoffered =>
    refine ok.aside (fun offered => unoffered ?_) (conclusion?_eq_none unconcluding)
    cases a <;> first | rfl | simp [Happening.offers] at offered
  | starts fresh =>
    have unconcluded : conclusions hs = [] := by
      by_contra some
      simp [ok.completed.mpr some] at fresh
    exact ⟨by simp [offers_snoc, Happening.offers],
      by simp [conclusions_snoc, unconcluded, Happening.conclusion?]⟩
  | concludes o =>
    have offered : offers hs ≠ 0 := fun none => started o rfl (ok.notStarted.mpr none)
    exact ⟨by simp [offers_snoc, offered], by simp [conclusions_snoc, Happening.conclusion?]⟩

theorem Progressed.run (new : s.IsNew) (run : Machine.Run ⟨s, []⟩ hs m) :
    Progressed hs m.session.progress := by
  induction run with
  | nil =>
    obtain ⟨g, c, rfl, -, -⟩ := new.cases
    exact ⟨by simp [offers], by simp [conclusions]⟩
  | snoc run step ih =>
    cases step using Machine.Step.kinds with
    | began | intruded | answered => exact ih.aside (by simp [Happening.offers]) rfl
    | acted t a rest =>
      refine ih.perform (proceeding_perform t a) ?_
      rintro o rfl
      exact started_of_conclude (o := o) new run (by simp)

theorem Proceeding.notStarted_iff {a : Action} {p : Progress} (moved : Proceeding s a p)
    (started : ∀ o, a = .conclude o → s.progress ≠ .notStarted)
    (other : ¬ (a = .attach ∧ s.progress = .notStarted)) :
    p = .notStarted ↔ s.progress = .notStarted := by
  cases moved with
  | same => exact Iff.rfl
  | starts fresh => exact absurd ⟨rfl, fresh⟩ other
  | concludes o => simp [started o rfl]

theorem attachments_run (new : s.IsNew) (run : Machine.Run ⟨s, []⟩ hs m) :
    attachments hs + openings m.agenda = if m.session.progress = .notStarted then 0 else 1 := by
  induction run with
  | nil =>
    obtain ⟨g, c, rfl, -, -⟩ := new.cases
    rfl
  | snoc run step ih =>
    rename_i hs _
    rw [attachments_snoc]
    cases step using Machine.Step.kinds with
    | began _ op | intruded _ op =>
      rw [Machine.start, openings_append, openings_actions, Nat.zero_add]
      exact ih
    | answered t w rest a =>
      rw [openings_append, openings_resume, Nat.zero_add]
      rw [openings_cons, if_neg (by simp)] at ih
      exact ih
    | acted t a rest =>
      rw [openings_cons] at ih
      rw [openings_append]
      by_cases fresh : a = .attach ∧ t.progress = .notStarted
      · obtain ⟨rfl, fresh⟩ := fresh
        have before : attachments hs + openings rest = 0 := by simpa [fresh] using ih
        have started : Action.attach.perform t =
            { session := { t with progress := .sending }, next := [.act .openWriter] } :=
          if_pos fresh
        rw [started]
        change attachments hs + 0 + (1 + openings rest) = 1
        omega
      · have opened : (Happening.acted t a).attaches.toNat =
            if Frame.act a = .act .openWriter then 1 else 0 := by
          cases a <;> rfl
        have started (o : Outcome) (same : a = .conclude o) : t.progress ≠ .notStarted :=
          started_of_conclude (o := o) new run (by simp [same])
        rw [openings_next t fresh, opened, Nat.zero_add]
        simp only [(proceeding_perform t a).notStarted_iff started fresh]
        rw [Nat.add_assoc, Nat.add_comm _ (openings rest)]
        exact ih

theorem attachments_le (new : s.IsNew) (run : Machine.Run ⟨s, []⟩ hs m) : attachments hs ≤ 1 := by
  have all := attachments_run new run
  split at all <;> omega

theorem settlement?_eq_none {a : Action} (other : ∀ o, a ≠ .finish o) :
    (Happening.acted s a).settlement? = none := by
  cases a <;> first | rfl | exact absurd rfl (other _)

theorem finish_next (s : Session) (o : Outcome) :
    ((Action.finish o).perform s).next = [.act (.conclude (s.outcome?.getD o)),
      .act (.reply (.polled (some (s.outcome?.getD o))))] := by
  simp [Action.perform, Session.finish, outcome_control]

theorem conclusions_next (s : Session) (a : Action) :
    (a.perform s).next.filterMap Frame.conclusion? = (Happening.acted s a).settlement?.toList := by
  by_cases finishes : ∃ o, a = .finish o
  · obtain ⟨o, rfl⟩ := finishes
    rw [finish_next]
    rfl
  · have other (o : Outcome) (same : a = .finish o) : False := finishes ⟨o, same⟩
    rw [settlement?_eq_none other]
    refine filterMap_next s fun f leads => ?_
    unfold Frame.conclusion?
    split
    · cases leads with
      | conclude => exact (other _ rfl).elim
      | poll _ _ _ stage => simp [Action.ofPoll] at stage
    · rfl

theorem resolutions_next (s : Session) (a : Action) :
    (a.perform s).next.filterMap Frame.resolution? = (Happening.acted s a).settlement?.toList := by
  by_cases finishes : ∃ o, a = .finish o
  · obtain ⟨o, rfl⟩ := finishes
    rw [finish_next]
    rfl
  · have other (o : Outcome) (same : a = .finish o) : False := finishes ⟨o, same⟩
    rw [settlement?_eq_none other, Option.toList_none, List.filterMap_eq_nil_iff]
    intro f mem
    by_contra some
    unfold Frame.resolution? at some
    split at some
    -- Only a driver that finishes puts an answer with an outcome on the agenda.
    · obtain ⟨p, same, -⟩ := finish_of_resolves (polls_eq_of_mem (polls_next s a) rfl mem)
      exact other p same
    · exact some rfl

theorem settles_once {paid : Happening → Option Outcome} {due : Frame → Option Outcome}
    (unopened : ∀ op, paid (.began op) = none ∧ paid (.intruded op) = none ∧
      (op.actions.map Frame.act).filterMap due = [])
    (same : ∀ s a, paid (.acted s a) = due (.act a))
    (next : ∀ s a, (a.perform s).next.filterMap due = (Happening.acted s a).settlement?.toList)
    (unheard : ∀ w a, paid (.answered w a) = none ∧ due (.wait w) = none ∧
      ((w.resume a).map Frame.act).filterMap due = [])
    (run : Machine.Run ⟨s, []⟩ hs m) :
    (hs.filterMap paid ++ m.agenda.filterMap due).Perm (settlements hs) := by
  refine run.woven.settles ?_ ?_ ?_
  · intro h op begins
    obtain ⟨began, intruded, frames⟩ := unopened op
    cases h with
    | acted | answered => simp [Happening.op?] at begins
    | began p | intruded p =>
      cases begins
      simp [began, intruded, frames, Happening.settlement?]
  · intro t a
    rw [same, next]
  · intro w a
    obtain ⟨paid, waits, frames⟩ := unheard w a
    simp [paid, waits, frames, Happening.settlement?]

theorem conclusions_perm (run : Machine.Run ⟨s, []⟩ hs m) :
    (conclusions hs ++ m.agenda.filterMap Frame.conclusion?).Perm (settlements hs) := by
  refine settles_once (fun op => ⟨rfl, rfl, ?_⟩) (fun s a => ?_) conclusions_next
    (fun w a => ⟨rfl, rfl, ?_⟩) run
  · cases op <;> rfl
  · cases a <;> rfl
  · unfold Wait.resume
    split <;> rfl

theorem resolutions_perm (run : Machine.Run ⟨s, []⟩ hs m) :
    (resolutions hs ++ m.agenda.filterMap Frame.resolution?).Perm (settlements hs) := by
  refine settles_once (fun op => ⟨rfl, rfl, ?_⟩) (fun s a => ?_) resolutions_next
    (fun w a => ⟨rfl, rfl, ?_⟩) run
  · cases op <;> rfl
  · rcases a with _ | ⟨_ | _ | _ | (_ | _) | _⟩ <;> rfl
  · unfold Wait.resume
    split <;> rfl

theorem settlements_le (new : s.IsNew) (run : Machine.Run ⟨s, []⟩ hs m) :
    (settlements hs).length ≤ 1 := by
  induction run with
  | nil => simp [settlements]
  | snoc run step ih =>
    rename_i hs h
    rw [settlements_snoc]
    by_cases finishes : ∃ t p, h = .acted t (.finish p)
    · obtain ⟨t, p, rfl⟩ := finishes
      have stage : polls _ = [.act (.finish p)] :=
        polls_eq_of_mem (single_run run) rfl (by cases step; simp)
      have unfinished := unfinished_before new run stage
      have none : settlements hs = [] := by
        refine List.filterMap_eq_nil_iff.mpr fun g mem => ?_
        have other := unfinished g mem
        unfold Happening.settlement?
        split
        · simp [Happening.finishes] at other
        · rfl
      simp [none, Happening.settlement?]
    · have other : h.settlement? = none := by
        unfold Happening.settlement?
        split
        · exact absurd ⟨_, _, rfl⟩ finishes
        · rfl
      simpa [other] using ih

theorem eq_singleton_of_mem {α : Type} {l : List α} {x : α} (few : l.length ≤ 1) (mem : x ∈ l) :
    l = [x] := by
  obtain ⟨y, rfl⟩ :=
    List.length_eq_one_iff.mp (Nat.le_antisymm few (List.length_pos_of_mem mem))
  rw [List.mem_singleton.mp mem]

theorem resolutions_first (new : s.IsNew) (run : Machine.Run ⟨s, []⟩ hs m) :
    (conclusions hs).length ≤ 1 ∧ resolutions hs <+: conclusions hs ∧
      ∀ o ∈ conclusions hs, o ∈ resolutions hs ∨ .act (.reply (.polled (some o))) ∈ m.agenda := by
  have once := settlements_le new run
  have concluding := conclusions_perm run
  have resolving := resolutions_perm run
  have few {l agenda : List Outcome} (all : (l ++ agenda).Perm (settlements hs)) :
      l.length ≤ 1 := by
    have same := all.length_eq
    rw [List.length_append] at same
    omega
  refine ⟨few concluding, ?_, fun o concluded => ?_⟩
  · rcases eq : resolutions hs with _ | ⟨o, later⟩
    · exact List.nil_prefix
    · have mem : o ∈ resolutions hs := by simp [eq]
      obtain ⟨g, seen, resolved⟩ := List.mem_filterMap.mp mem
      obtain ⟨u, rfl⟩ := resolution_cases resolved
      obtain ⟨pre, post, rest, rfl, before⟩ := run.before_action seen
      obtain ⟨t, concludes⟩ := concluded_before before
      have concluded : o ∈ conclusions (pre ++ .acted u (.reply (.polled (some o))) :: post) :=
        List.mem_filterMap.mpr ⟨_, List.mem_append_left _ concludes, rfl⟩
      refine ⟨[], ?_⟩
      rw [List.append_nil, ← eq, eq_singleton_of_mem (few resolving) mem,
        eq_singleton_of_mem (few concluding) concluded]
  · have settled : o ∈ settlements hs :=
      concluding.mem_iff.mp (List.mem_append_left _ concluded)
    rcases List.mem_append.mp (resolving.mem_iff.mpr settled) with resolved | due
    · exact .inl resolved
    · obtain ⟨f, mem, answers⟩ := List.mem_filterMap.mp due
      unfold Frame.resolution? at answers
      split at answers
      · cases answers
        exact .inr mem
      · simp at answers

end

/-- How a call of send came by its answer: it was the first one and attached its source, or a source
had been offered before and the call left the session as it was. -/
inductive Attaching (before : List Happening) (t : Session) (during : List Happening) : Bool → Prop
  | first (unoffered : offers before = 0) (fresh : t.progress = .notStarted)
    (attached : attachments during = 1) : Attaching before t during true
  | refused (offered : offers before ≠ 0) (begun : t.progress ≠ .notStarted)
    (unchanged : Action.attach.perform t =
      { session := t
        notices := [.logged .sendRepeated]
        next := [.act (.reply (.attached false))] }) : Attaching before t during false

section

variable {s : Session} {hs : List Happening} {m : Machine}

theorem forsaken_run {gs : List Happening} {n : Machine} (new : s.IsNew)
    (run : Machine.Run ⟨s, []⟩ hs m) (gone : m.session.writer = none)
    (attached : m.session.control.isSome) (free : m.isPolling = false)
    (unresolved : m.session.progress = .sending) (later : Machine.Run m gs n) :
    n.session.progress = .sending := by
  have attachment := Attachment.run new run
  have idle := (polls_eq_nil_iff m).mpr free
  have concluded : m.IsConcluded := ⟨gone, attached, by simp [idle]⟩
  have progressed := Progressed.run new run
  have none_yet : conclusions hs = [] := by
    by_contra some
    simp [progressed.completed.mpr some] at unresolved
  -- What had been settled by now would be on its way back to whoever polls.
  have unsettled : settlements hs = [] := by
    have returned : resolutions hs = [] :=
      List.prefix_nil.mp (none_yet ▸ (resolutions_first new run).2.1)
    have due : m.agenda.filterMap Frame.resolution? = [] := by
      refine List.filterMap_eq_nil_iff.mpr fun f mem => ?_
      unfold Frame.resolution?
      split
      · simpa [idle] using polls_eq_of_mem (single_run run) rfl mem
      · rfl
    have all := resolutions_perm run
    rw [returned, due] at all
    exact all.symm.eq_nil
  have unsettling : settlements gs = [] := by
    refine List.filterMap_eq_nil_iff.mpr fun g mem => ?_
    unfold Happening.settlement?
    split
    · rename_i t p
      obtain ⟨pre, post, rest, rfl, before⟩ := later.before_action mem
      have answers := (concluded.run attachment (single_run run) before).1.answers
      simpa using answers (.act (.finish p)) (by simp [Action.ofPoll])
    · rfl
  have none_at_all : settlements (hs ++ gs) = [] := by
    rw [settlements, List.filterMap_append]
    exact List.append_eq_nil_iff.mpr ⟨unsettled, unsettling⟩
  have all := conclusions_perm (run.append later)
  rw [none_at_all] at all
  have unconcluded : conclusions (hs ++ gs) = [] := (List.append_eq_nil_iff.mp all.eq_nil).1
  have whole := Progressed.run new (run.append later)
  cases now : n.session.progress with
  | sending => rfl
  | completed => exact absurd unconcluded (whole.completed.mp now)
  | notStarted =>
    have unoffered : offers hs + offers gs = 0 := by
      rw [offers, offers, ← List.countP_append]
      exact whole.notStarted.mp now
    simp [progressed.notStarted.mpr (by omega)] at unresolved

theorem send_returns {gs : List Happening} {n : Machine} (new : s.IsNew)
    (run : Machine.Run ⟨s, []⟩ hs (m.start .send)) (later : Machine.Run (m.start .send) gs n)
    (returned : n.agenda = m.agenda) :
    ∃ a t during u accepted c,
      gs = a ++ .acted t .attach :: (during ++ .acted u (.reply (.attached accepted)) :: c) ∧
        Attaching (hs ++ a) t during accepted := by
  have gone (f : Frame) (upper : Agenda) : n.agenda ≠ upper ++ f :: m.agenda :=
    Machine.gone_of_length (by simp [returned]) upper
  obtain ⟨a, t, rest, rfl, before, after⟩ := later.performs [] rfl (gone _)
  have progressed := Progressed.run new (run.append before)
  by_cases fresh : t.progress = .notStarted
  · have started : (Action.attach.perform t).next = [.act .openWriter] := by
      simp [Action.perform, fresh]
    rw [started] at after
    obtain ⟨b, v, rest, rfl, -, after⟩ := after.performs [] rfl (gone _)
    obtain ⟨b', u, c, rfl, -, -⟩ := after.performs [] rfl (gone _)
    refine ⟨a, t, b ++ .acted v .openWriter :: b', u, true, c, by simp, .first ?_ fresh ?_⟩
    · exact progressed.notStarted.mp fresh
    · have few := attachments_le new (run.append later)
      simp only [attachments, List.countP_append, List.countP_cons, Happening.attaches, if_true,
        Bool.false_eq_true, if_false] at few ⊢
      omega
  · rw [perform_refused fresh] at after
    obtain ⟨during, u, c, rfl, -, -⟩ := after.performs [] rfl (gone _)
    refine ⟨a, t, during, u, false, c, rfl, .refused ?_ fresh (perform_refused fresh)⟩
    exact fun unoffered => fresh (progressed.notStarted.mpr unoffered)

theorem unpolled_of_unattached (new : s.IsNew) (run : Machine.Run ⟨s, []⟩ hs m)
    (unattached : attachments hs = 0) : ∀ h ∈ hs, h.ofPoll = false := by
  have attachment := Attachment.run new run
  have all := attachments_run new run
  refine (attachment.untouched ?_).2.2
  by_contra attached
  have started := attachment.begun (Option.isSome_iff_ne_none.mpr attached)
  rw [if_neg started, unattached] at all
  exact attached (attachment.due (by omega)).1

/-- However often and whenever send is called, the first call attaches its source and all others
leave the session as it is and return a future that has failed. The session says at any time whether
send was called and whether the attached send has an outcome, and goes only forward. -/
theorem single_outbound_attachment (new : s.IsNew) (run : Machine.Run ⟨s, []⟩ hs m) :
    (m.session.progress = .notStarted ↔ offers hs = 0) ∧
    (m.session.progress = .completed ↔ conclusions hs ≠ []) ∧
    ((conclusions hs).length ≤ 1 ∧ resolutions hs <+: conclusions hs ∧
      ∀ o ∈ conclusions hs, o ∈ resolutions hs ∨ .act (.reply (.polled (some o))) ∈ m.agenda) ∧
    (∀ gs n, Machine.Run m gs n →
      (m.session.progress ≠ .notStarted → n.session.progress ≠ .notStarted) ∧
      (m.session.progress = .completed → n.session.progress = .completed) ∧
      (m.session.progress = .sending → m.session.control.isSome → m.session.writer = none →
        m.isPolling = false → n.session.progress = .sending)) ∧
    attachments hs + openings m.agenda = (if offers hs = 0 then 0 else 1) ∧
    (attachments hs = 0 → ∀ h ∈ hs, h.ofPoll = false) ∧
    (∀ h k gs n, Machine.Step m h k → h.op? = some .send → Machine.Run k gs n →
      n.agenda = m.agenda →
        ∃ a t during u accepted c,
          gs = a ++ .acted t .attach :: (during ++ .acted u (.reply (.attached accepted)) :: c) ∧
            Attaching (hs ++ h :: a) t during accepted) ∧
    (∀ (w : Scenario.World) (effort : Nat) (name : String) (eager : Bool)
      (source : Scenario.Source), w.machine = m → offers hs ≠ 0 → w.taskNamed? name = none →
        ∃ w', StateT.run (Scenario.Play.send (effort + 4) name eager source) w = pure ((), w') ∧
          Scenario.Refused w name eager source w') ∧
    ∀ (w : Scenario.World) (effort number : Nat) (t : Scenario.Task), w.task? number = some t →
      t.job = .refused → t.busy = false → t.finished = false →
        ∃ tasks, StateT.run (Scenario.Play.poll (effort + 3) number) w =
          pure (.resolved (.failure .alreadySending), { w with tasks }) := by
  have progressed := Progressed.run new run
  refine ⟨progressed.notStarted, progressed.completed, resolutions_first new run, ?_, ?_,
    unpolled_of_unattached new run, ?_, ?_, ?_⟩
  · intro gs n later
    have whole := Progressed.run new (run.append later)
    refine ⟨fun begun => ?_, fun done => ?_, fun unresolved attached gone free =>
      forsaken_run new run gone attached free unresolved later⟩
    · exact later.keeps (p := fun t => t.progress ≠ .notStarted)
        (fun s a => (changes_perform s a).progress_ne) begun
    · have concluded := progressed.completed.mp done
      refine whole.completed.mpr fun none => concluded ?_
      rw [conclusions, List.filterMap_append] at none
      exact (List.append_eq_nil_iff.mp none).1
  · rw [attachments_run new run]
    exact if_congr progressed.notStarted rfl rfl
  · intro h k gs n step begins later returned
    obtain rfl := step_start step begins
    obtain ⟨a, t, during, u, accepted, c, rfl, attaching⟩ :=
      send_returns new (run.snoc step) later returned
    rw [List.append_assoc] at attaching
    exact ⟨a, t, during, u, accepted, c, rfl, attaching⟩
  · rintro w effort name eager source rfl offered fresh
    exact Scenario.send_refused effort eager source
      (fun unstarted => offered (progressed.notStarted.mp unstarted)) fresh
  · intro w effort number t here refused free unfinished
    exact Scenario.poll_refused effort here refused free unfinished

def offering : List Machine.Cue :=
  [.start .send, .perform, .perform, .perform, .start (.poll 7), .perform, .perform, .perform,
    .perform, .start .send, .perform, .perform, .answer .ended, .perform, .perform, .perform,
    .perform, .perform, .perform, .perform, .perform, .perform, .answer .done, .perform,
    .start .send, .perform, .perform]

theorem single_outbound_attachment_repeated :
    let s := Session.sample true {}
    let r := Machine.play ⟨s, []⟩ offering
    s.IsNew ∧ Machine.Run ⟨s, []⟩ r.1 r.2 ∧ r.2.isIdle ∧ offers r.1 = 3 ∧ attachments r.1 = 1 ∧
      resolutions r.1 = [.success] ∧ r.2.session.progress = .completed := by
  intro s r
  have new : s.IsNew := Session.isNew_sample true rfl
  have run : Machine.Run ⟨s, []⟩ r.1 r.2 := Machine.run_play _ _
  obtain ⟨-, completed, -⟩ := single_outbound_attachment new run
  exact ⟨new, run, by decide +kernel, by decide +kernel, by decide +kernel, by decide +kernel,
    completed.mpr (by decide +kernel)⟩

end

end Duplex

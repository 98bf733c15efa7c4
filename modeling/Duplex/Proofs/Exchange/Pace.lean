import Duplex.Proofs.Exchange.Hand
import Duplex.Proofs.Exchange.Weave
import Duplex.Proofs.Outbound.Resolution

/-!
One write at a time. A write takes readiness away before its frame is queued, and what raises it
again comes after a write; so a send that comes to its end finds that nothing is on its way.
-/

namespace Duplex

open History

variable {ι : Type}

theorem lowered_keeps {hs : List Happening} {h : Happening} (before : lowered hs)
    (unwritten : h.written? = none) : lowered (hs ++ [h]) := by
  simp [lowered_snoc, before, unwritten]

def Happening.accepted? : Happening → Option Message
  | .answered (.writing m) a => if a.refusal? = none then some m else none
  | _ => none

namespace History

def accepted (hs : List Happening) : List Message := hs.filterMap Happening.accepted?

theorem accepted_snoc (hs : List Happening) (h : Happening) :
    accepted (hs ++ [h]) = accepted hs ++ h.accepted?.toList := filterMap_snoc _ hs h

end History

def unanswered : Agenda → List Message
  | .wait (.writing m) :: _ => [m]
  | _ => []

theorem unanswered_next {s : Session} {a : Action} :
    unanswered (polls (a.perform s).next) = (Happening.acted s a).written?.toList := by
  cases written : (Happening.acted s a).written? with
  | some x =>
    obtain ⟨t, w, same, here, held, undrained⟩ := written_cases written
    obtain ⟨rfl, rfl⟩ := Happening.acted.inj same
    simp [Action.perform, Session.withWriter, here, held, undrained, Wait.ofPoll, unanswered]
  | none =>
    unfold unanswered
    split
    · rename_i m rest stage
      have mem : .wait (.writing m) ∈ polls (a.perform s).next := by simp [stage]
      cases leads_next (List.mem_filter.mp mem).1 with
      | write =>
        obtain ⟨w, here⟩ : ∃ w, s.writer = some w := by
          cases here : s.writer with
          | some w => exact ⟨w, rfl⟩
          | none => simp [Action.perform, Session.withWriter, here, Action.ofPoll] at stage
        cases drained : w.drained <;> cases held : w.current <;>
          simp [Action.perform, Session.withWriter, here, drained, held, Action.ofPoll,
            Wait.ofPoll] at stage
        simp [Happening.written?, Happening.call?, Action.perform, Session.withWriter, here,
          drained, held, Effect.call?, Wait.call] at written
    · rfl

theorem written_woven {s : Session} {hs : List Happening} {m : Machine}
    (run : Machine.Woven ⟨s, []⟩ hs m) (unrefused : ∀ a ∈ answers hs, a.refusal? = none) :
    written hs = accepted hs ++ unanswered (polls m.agenda) := by
  induction run with
  | nil => rfl
  | snoc run mixed step ih =>
    rename_i n k agenda hs h
    rw [answers_snoc] at unrefused
    obtain ⟨earlier, last⟩ := List.forall_mem_append.mp unrefused
    have before := ih earlier
    have single := single_woven run
    have same := polls_perm mixed single
    rw [← same] at before single
    rw [written_snoc, accepted_snoc, before]
    cases polled_of_step step single with
    | aside other kept =>
      have unaccepted : h.accepted? = none := by
        unfold Happening.accepted?
        split <;> simp_all [Happening.ofPoll, Wait.ofPoll]
      rw [kept, (Happening.IsSilent.of_other other).written, unaccepted]
      simp
    | starts w op idle begun =>
      rw [idle, begun]
      rcases op with rfl | rfl <;> rfl
    | acts t a eq own here stage after next =>
      rw [stage, next, unanswered_next, eq]
      simp [unanswered, Happening.accepted?]
    | hears w a eq own stage kept next =>
      rw [stage, next, eq]
      cases w with
      | pulling v => cases a <;> rfl
      | writing x =>
        have taken : a.refusal? = none := by
          apply last
          simp [eq, Happening.writeAnswer?]
        rw [resume_writing, taken]
        simp [unanswered, Happening.accepted?, taken, Happening.written?, Happening.call?,
          Action.ofPoll]
      | _ => simp [Wait.ofPoll] at own

def Hand.IsPaced (lowered : Bool) (h : Hand) : Prop :=
  h.midway → ∀ m rest, h.agenda = .wait (.writing m) :: rest ∨
    h.agenda = .act (.reply .unit) :: .wait (.writing m) :: rest → lowered

theorem Hand.IsPaced.goes {s : Session} {old new : Hand} {h : Option Happening}
    {before after : Bool} (sound : old.IsSound) (ok : old.IsPaced before)
    (goes : Exchange.Goes s old h new)
    (keeps : ∀ m, .wait (.writing m) ∈ old.agenda → before → after)
    (lowers : ∀ t, h = some (.acted t (.setReady false)) → after) : new.IsPaced after := by
  intro midway m rest top
  cases goes with
  | stays =>
    have mem : .wait (.writing m) ∈ old.agenda := by rcases top with top | top <;> simp [top]
    exact keeps m mem (ok midway m rest top)
  | begins op free => simp [sound.first free] at midway
  | hears w below next foreign => simp [sound.first (.inr ⟨w, below, next, foreign⟩)] at midway
  | acts a below next =>
    have halfway := sound.half midway
    rw [next] at halfway
    cases halfway with
    | lowering => exact lowers s rfl
    | lowered n below => exact keeps n (by simp [next]) (ok midway n below (.inr next))
  | lowers => simp [Op.actions] at top
  | releases n below next => simp [next] at top
  | serves | tasked => simp at midway

namespace Exchange

variable [DecidableEq ι] {x y : Exchange ι} {ds : List (Deed ι)} {d : Deed ι}

theorem Step.acting (step : Step x d y) {s : Session} {a : Action}
    (work : d.work? = some (.acted s a)) :
    s = x.session ∧ ∃ p rest, (x.hands p).agenda = .act a :: rest := by
  cases step with
  | @acts p b rest next =>
    obtain ⟨rfl, rfl⟩ : x.session = s ∧ b = a := by simpa [Deed.work?] using work
    exact ⟨rfl, p, rest, next⟩
  | _ => simp [Deed.work?] at work

theorem Step.writing (step : Step x d y) {m : Message} {a : Answer}
    (work : d.work? = some (.answered (.writing m) a)) :
    ∃ p rest, (x.hands p).agenda = .wait (.writing m) :: rest ∧ (x.hands p).midway := by
  cases step with
  | @serves p w rest next ours prepared =>
    obtain ⟨rfl, -⟩ : w = .writing m ∧ _ := by simpa [Deed.work?] using work
    exact ⟨p, rest, next, prepared rfl⟩
  | hears next foreign =>
    obtain ⟨rfl, -⟩ : _ = Wait.writing m ∧ _ := by simpa [Deed.work?] using work
    simp [Wait.isForeign] at foreign
  | _ => simp [Deed.work?] at work

variable [Fintype ι] {s : Session} {hs : List Happening} {agenda : Agenda}

omit [DecidableEq ι] in
theorem Shows.single (shows : Shows s ds x hs agenda) : (polls agenda).length ≤ 1 :=
  single_woven shows.run

omit [DecidableEq ι] in
theorem Shows.stage (shows : Shows s ds x hs agenda) {p : Party ι} {f : Frame}
    (mem : f ∈ (x.hands p).agenda) (own : f.ofPoll) : polls agenda = [f] := by
  refine polls_eq_of_mem shows.single own ?_
  rw [← Multiset.mem_coe, shows.frames]
  exact mem_frames.mpr ⟨p, mem⟩

theorem Shows.alone (shows : Shows s ds x hs agenda) {p : Party ι} {f : Frame} {rest : Agenda}
    (next : (x.hands p).agenda = f :: rest) (own : f.ofPoll) :
    (∀ g ∈ rest, g.ofPoll = false) ∧ ∀ q ≠ p, ∀ g ∈ (x.hands q).agenda, g.ofPoll = false := by
  have few : (x.total fun h => h.agenda.countP Frame.ofPoll) ≤ 1 := by
    rw [total_countP shows.frames, List.countP_eq_length_filter]
    exact shows.single
  rw [total_split x p, next, List.countP_cons, if_pos own] at few
  have below : rest.countP Frame.ofPoll = 0 := by omega
  have others : ∑ q ∈ Finset.univ.erase p, (x.hands q).agenda.countP Frame.ofPoll = 0 := by omega
  refine ⟨by simpa using List.countP_eq_zero.mp below, fun q other g mem => ?_⟩
  have here := Finset.sum_eq_zero_iff.mp others q (Finset.mem_erase.mpr ⟨other, Finset.mem_univ q⟩)
  simpa using List.countP_eq_zero.mp here g mem

structure Pace (s : Session) (ds : List (Deed ι)) (x : Exchange ι) (hs : List Happening)
    (agenda : Agenda) : Prop where
  shows : Shows s ds x hs agenda
  flight : Flight hs ⟨x.session, agenda⟩
  even : polls agenda = [.act (.finish .success)] → x.session.outcome? = none →
    raises hs = (written hs).length
  lowers : ∀ p, (x.hands p).IsPaced (lowered hs)

theorem even_step {gs : List Happening} {m n : Machine} {h : Happening}
    (attachment : Attachment gs m) (single : (polls m.agenda).length ≤ 1) (flight : Flight hs m)
    (even : polls m.agenda = [.act (.finish .success)] → m.session.outcome? = none →
      raises hs = (written hs).length)
    (step : Machine.Step m h n) (later : Flight (hs ++ [h]) n)
    (stage : polls n.agenda = [.act (.finish .success)]) (undecided : n.session.outcome? = none) :
    raises (hs ++ [h]) = (written (hs ++ [h])).length := by
  have open_ : m.session.outcome? = none := by
    by_contra decided
    obtain ⟨o, decided⟩ := Option.ne_none_iff_exists'.mp decided
    simp [outcome_step attachment step decided] at undecided
  have few := later.begun
  cases polled_of_step step single with
  | aside other same =>
    have before := even (same ▸ stage) open_
    have unwritten : h.written? = none := (Happening.IsSilent.of_other other).written
    simp only [raises_snoc, written_snoc, unwritten, Option.toList_none, List.append_nil] at few ⊢
    omega
  | starts w op idle begun => simp [begun] at stage
  | acts t a eq own here busy after next =>
    obtain ⟨rfl, same, frames⟩ := drained_ends (here ▸ open_) (next ▸ stage)
    have unwritten : (Happening.acted t .emit).written? = none := by
      rw [written?_acted, frames]
      rfl
    simpa [raises_snoc, written_snoc, unwritten, eq, Happening.raises] using flight.clear busy
  | hears w a eq own busy same next => exact absurd (next ▸ stage) (polls_resume_ne_drained w a)

theorem Pace.step (new : s.IsNew) (sound : ∀ p, (x.hands p).IsSound) (ok : Pace s ds x hs agenda)
    (step : Step x d y)
    (raises : ∀ t, d.work? = some (.acted t (.setReady true)) →
      History.raises hs < (written hs).length) :
    ∃ hs' agenda', Pace s (ds ++ [d]) y hs' agenda' := by
  obtain ⟨shows, flight, even, lowers⟩ := ok
  have single := shows.single
  have hands {after : Bool}
      (keeps : ∀ p m, .wait (.writing m) ∈ (x.hands p).agenda → lowered hs → after)
      (own : ∀ t, d.work? = some (.acted t (.setReady false)) → after) (p : Party ι) :
      (y.hands p).IsPaced after := by
    obtain ⟨q, others, goes⟩ := step.hand
    by_cases same : p = q
    · subst same
      exact (lowers p).goes (sound p) goes (keeps p) fun t here => own t (work?_of_workOf? here)
    · rw [(others p same).1]
      exact (lowers p).goes (s := x.session) (sound p) .stays (keeps p) (by simp)
  cases step.echo shows.frames with
  | silent session frames work =>
    have none_lower : ∀ t, d.work? = some (.acted t (.setReady false)) → lowered hs := by simp [work]
    refine ⟨hs, agenda, ⟨?_, frames, ?_⟩, ?_, ?_, hands (fun _ _ _ => id) none_lower⟩
    · rw [session]
      exact shows.run
    · rw [work_snoc, work, shows.work]
      simp
    · rw [session]
      exact flight
    · rw [session]
      exact even
  | step mixed perm h below machine frames work =>
    have known (isWork : h.isWork) : d.work? = some h := by simpa [isWork] using work
    have paced : h.IsPaced hs := by
      refine ⟨fun returns => ?_, fun raised => ?_⟩
      · unfold Happening.returns at returns
        split at returns
        · obtain ⟨p, rest, next, midway⟩ := step.writing (known rfl)
          exact lowers p midway _ rest (.inl next)
        · simp at returns
      · unfold Happening.raises at raised
        split at raised
        · exact raises _ (known rfl)
        · simp at raised
    have attachment := (Attachment.woven new shows.run).perm perm single
    have stage := polls_perm perm single
    have alone : (polls mixed).length ≤ 1 := stage ▸ single
    have before := flight.perm perm single
    have later := before.step alone machine paced
    refine ⟨hs ++ [h], below, ⟨shows.run.snoc perm machine, frames, ?_⟩, later,
      even_step attachment alone before (by rw [stage]; exact even) machine later, hands ?_ ?_⟩
    · rw [List.filter_append, shows.work, work_snoc, work]
    · -- No write begins while another one waits for its answer.
      intro p m mem down
      refine lowered_keeps down ?_
      by_contra writes
      obtain ⟨x', writes⟩ := Option.ne_none_iff_exists'.mp writes
      obtain ⟨t, w, rfl, -⟩ := written_cases writes
      obtain ⟨-, q, rest, next⟩ := step.acting (known rfl)
      have emits := shows.stage (p := q) (f := .act .emit) (by simp [next]) rfl
      rw [shows.stage mem rfl] at emits
      simp at emits
    · intro t lowered
      obtain rfl : h = .acted t (.setReady false) := by
        cases isWork : h.isWork with
        | true => exact Option.some.inj ((known isWork).symm.trans lowered)
        | false => simp [isWork, lowered] at work
      simp [lowered_snoc, Happening.lowers, Happening.written?, Happening.call?, Action.perform,
        Effect.call?]

end Exchange

end Duplex

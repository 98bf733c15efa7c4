import Duplex.Proofs.Exchange.Switch
import Duplex.Proofs.Exchange.Tide

/-!
The way in, from the connection to the consumer. The reader never reads while a message is on its
way or waits to be taken, so nothing is refused for lack of room; and it comes to the end of the
connection with everything taken, so nothing is lost to it.
-/

namespace Duplex

open History Exchange

variable {ι : Type} {ds : List (Deed ι)} {d : Deed ι}

namespace History

def surfaced (ds : List (Deed ι)) : List Message := ds.filterMap Deed.surfaced?

theorem surfaced_snoc (ds : List (Deed ι)) (d : Deed ι) :
    surfaced (ds ++ [d]) = surfaced ds ++ d.surfaced?.toList := by
  simp [surfaced, filterMap_cons_toList]

theorem surfaced_eq (ds : List (Deed ι)) :
    surfaced ds = (reads ds).filterMap Wire.Endpoint.Read.message? := by
  rw [surfaced, reads, List.filterMap_filterMap]
  rfl

end History

variable [DecidableEq ι]

namespace Exchange

def carried (x : Exchange ι) : List (Message × Bool) :=
  (x.hands .reader).agenda.filterMap Frame.carried?

theorem carried_put {x : Exchange ι} {p : Party ι} {hand : Hand}
    (same : hand.agenda.filterMap Frame.carried? =
      (x.hands p).agenda.filterMap Frame.carried?) : (x.put p hand).carried = x.carried := by
  unfold carried
  by_cases reader : p = .reader
  · subst reader
    rw [hands_put_self, same]
  · rw [hands_put_of_ne (Ne.symm reader)]

theorem apart_put {x : Exchange ι} {p : Party ι} {hand : Hand}
    (apart : ∀ q ≠ .reader, (x.hands q).agenda.filterMap Frame.carried? = [])
    (own : p ≠ .reader → hand.agenda.filterMap Frame.carried? = []) :
    ∀ q ≠ .reader, ((x.put p hand).hands q).agenda.filterMap Frame.carried? = [] :=
  forall_put (P := fun q h => q ≠ .reader → h.agenda.filterMap Frame.carried? = [])
    (fun q _ => apart q) own

variable [Fintype ι]

def view (x : Exchange ι) : View where
  pending := x.session.inbound.pending
  carried := x.carried
  unreleased := x.total Hand.unreleased
  suspended := x.link.flow.suspended

theorem view_put (x : Exchange ι) (p : Party ι) (hand : Hand) (l : Link) :
    view { x.put p hand with link := l } = ⟨x.session.inbound.pending, (x.put p hand).carried,
      (x.put p hand).total Hand.unreleased, l.flow.suspended⟩ := rfl

theorem view_moved {x : Exchange ι} (idle : (x.hands .reader).agenda = []) (m : Link.Move) :
    (x.moved .reader m).view = ⟨x.session.inbound.pending,
      ((m.op.map fun op => op.actions.map Frame.act).getD []).filterMap Frame.carried?,
      x.total Hand.unreleased, m.link.flow.suspended⟩ := by
  have carries : (x.moved .reader m).carried =
      ((m.op.map fun op => op.actions.map Frame.act).getD []).filterMap Frame.carried? := by
    rw [moved, carried, hands_put_self]
  rw [← carries, ← total_moved idle m Hand.unreleased_of_none]
  rfl

end Exchange

variable [Fintype ι] {x y : Exchange ι}

structure Inflow (ds : List (Deed ι)) (x : Exchange ι) : Prop where
  sound : ∀ p, (x.hands p).IsSound
  capacity : x.session.setting.capacity = 1
  apart : ∀ p ≠ .reader, (x.hands p).agenda.filterMap Frame.carried? = []
  slot : Slot (taken (work ds)) (surfaced ds) x.view
  busy : (x.hands .reader).agenda ≠ [] → x.link.reader = .checking ∨ x.link.reader = .leaving
  clear : x.link.reader.isThrough → x.view = ⟨[], [], 0, false⟩
  roused : Roused x.link.flow (x.total Hand.loosening) x.link.reader
  telling : Telling (ends (work ds)).head? (pulled (work ds)) x.session.inbound
  tide : Tide ds x
  failed : failures (work ds) = ((ends (work ds)).head?.bind Outcome.fault?).toList

namespace Inflow

theorem carried_of_next (ok : Inflow ds x) {p : Party ι} {f : Frame} {rest : Agenda}
    (next : (x.hands p).agenda = f :: rest) (carries : f.carried? ≠ none) :
    p = .reader ∧ x.carried = f.carried?.toList ++ rest.filterMap Frame.carried? ∧
      x.session.inbound.isLive := by
  have own : p = .reader := by
    by_contra other
    have nothing := ok.apart p other
    rw [next, List.filterMap_eq_nil_iff] at nothing
    exact carries (nothing f List.mem_cons_self)
  subst own
  have all : x.carried = f.carried?.toList ++ rest.filterMap Frame.carried? := by
    rw [carried, next, filterMap_cons_toList]
  refine ⟨rfl, all, ?_⟩
  have some_carried : x.carried ≠ [] := by
    rw [all]
    simpa using fun none => absurd none carries
  have unclear (through : x.link.reader.isThrough) : False := by
    have empty := congrArg View.carried (ok.clear through)
    exact some_carried empty
  cases ok.tide with
  | flowing stage calm => exact calm.live
  | turning stage => exact (unclear (by simp [stage, Link.ReaderStage.isThrough])).elim
  | ebbed stage =>
    rcases stage with here | here <;>
      exact (unclear (by simp [here, Link.ReaderStage.isThrough])).elim

omit [DecidableEq ι] in
theorem pending_of_failInbound (ok : Inflow ds x) {p : Party ι} {e : Fault} {rest : Agenda}
    (next : (x.hands p).agenda = .act (.failInbound e) :: rest) (live : x.session.inbound.isLive) :
    x.session.inbound.pending = [] := by
  cases ok.tide with
  | flowing _ _ mild =>
    have other := mild p (.act (.failInbound e)) (by simp [next])
    simp [Frame.isGrave] at other
  | turning stage =>
    have clear := ok.clear (by simp [stage, Link.ReaderStage.isThrough])
    exact congrArg View.pending clear
  | ebbed _ o _ decided => simp [ok.telling.isLive_iff.mp live] at decided

theorem pending_of_store (ok : Inflow ds x) {p : Party ι} {m : Message} {rest : Agenda}
    (next : (x.hands p).agenda = .act (.store m) :: rest) :
    x.session.inbound.pending = [] := by
  obtain ⟨-, all, -⟩ := ok.carried_of_next next (by simp [Frame.carried?])
  have known : x.view.carried = (m, true) :: rest.filterMap Frame.carried? := all
  have slot := ok.slot
  generalize seen : x.view = v at slot known
  have same : x.session.inbound.pending = v.pending := congrArg View.pending seen
  rw [same]
  cases slot with
  | storing => rfl
  | clear | resident | leaving => simp at known
  | arriving => simp at known

theorem slides_act (ok : Inflow ds x) {p : Party ι} {a : Action} {rest : Agenda}
    (next : (x.hands p).agenda = .act a :: rest) :
    Slides x.view
      (view { x.put p { x.hands p with agenda := (a.perform x.session).next ++ rest } with
        session := (a.perform x.session).session })
      (Happening.acted x.session a).taken? none := by
  have sound := ok.sound p
  have total := total_put x p { x.hands p with agenda := (a.perform x.session).next ++ rest }
    Hand.unreleased
  rw [Hand.unreleased_act sound next,
    Hand.unreleased_of_none (Hand.resuming_of_other sound next rfl), Nat.add_zero] at total
  have moved : view { x.put p { x.hands p with agenda := (a.perform x.session).next ++ rest } with
      session := (a.perform x.session).session } =
      ⟨(a.perform x.session).session.inbound.pending,
        (x.put p { x.hands p with agenda := (a.perform x.session).next ++ rest }).carried,
        x.total Hand.unreleased + (Happening.acted x.session a).taken?.toList.length,
        x.link.flow.suspended⟩ := by
    rw [← total]
    rfl
  rw [moved]
  have kept (other : ∀ m, a ≠ .receive m ∧ a ≠ .store m) :
      (x.put p { x.hands p with agenda := (a.perform x.session).next ++ rest }).carried =
        x.carried := by
    refine carried_put ?_
    rw [List.filterMap_append, carried_next_other _ fun m => (other m).1, next,
      filterMap_cons_toList]
    cases a <;> simp_all [Frame.carried?]
  cases a with
  | receive m =>
    obtain ⟨-, -, live⟩ := ok.carried_of_next next (by simp [Frame.carried?])
    have after : Action.perform x.session (.receive m) =
        { session := x.session, next := [.wait (.suspending m)] } := if_pos live
    have same : (x.put p { x.hands p with
        agenda := (Action.perform x.session (.receive m)).next ++ rest }).carried = x.carried := by
      refine carried_put ?_
      rw [after, next]
      rfl
    rw [same, after]
    exact .stays
  | store m =>
    obtain ⟨own, all, live⟩ := ok.carried_of_next next (by simp [Frame.carried?])
    -- A message that is still on its way means that none is stored.
    have empty := ok.pending_of_store next
    have below : rest.filterMap Frame.carried? = [] := ok.slot.only all
    have room : x.session.inbound.pending.length < x.session.setting.capacity := by
      simp [empty, ok.capacity]
    have after := Session.store_of_room m live room
    have gone : (x.put p { x.hands p with
        agenda := (Action.perform x.session (.store m)).next ++ rest }).carried = [] := by
      subst own
      rw [carried, hands_put_self, List.filterMap_append, below,
        carried_next_other x.session (by simp)]
      rfl
    rw [gone, Action.perform, after]
    exact .stores m (by rw [view, all, below]; rfl)
  | take q =>
    rw [kept (by simp)]
    cases queue : x.session.inbound.pending with
    | cons m later =>
      have taken : (Happening.acted x.session (.take q)).taken? = some m := by
        simp [Happening.taken?, queue]
      rw [taken, Action.perform, Session.take_of_cons q queue]
      exact .takes m later queue
    | nil =>
      have taken : (Happening.acted x.session (.take q)).taken? = none := by
        simp [Happening.taken?, queue]
      rw [taken, Action.perform, Session.take_of_nil q queue, Inbound.pending_report]
      exact .stays
  | failInbound e =>
    rw [kept (by simp), Action.perform]
    cases live : x.session.inbound.isLive with
    | false =>
      rw [Session.failInbound_of_ended e live]
      exact .stays
    | true =>
      rw [Session.failInbound_of_live e live, Inbound.pending_fail,
        ← ok.pending_of_failInbound next live]
      exact .stays
  | completeInbound =>
    have same : (Action.perform x.session .completeInbound).session.inbound.pending =
        x.session.inbound.pending := by
      simp only [Action.perform]
      split <;> rfl
    rw [kept (by simp), same]
    exact .stays
  | _ =>
    rw [kept (by simp), (changes_perform x.session _).inbound_eq rfl]
    exact .stays

theorem slides (ok : Inflow ds x) (step : Inward x d y) :
    Slides x.view y.view d.taken? d.surfaced? := by
  cases step with
  | aside p aside silent unread =>
    have same : y.view = x.view := by
      have total : y.total Hand.unreleased = x.total Hand.unreleased := by
        refine total_congr fun q => ?_
        by_cases own : q = p
        · rw [own, aside.unreleased]
        · rw [aside.others q own]
      have carried : y.carried = x.carried := by
        by_cases own : .reader = p
        · subst own
          exact aside.carried
        · rw [carried, aside.others _ own, ← carried]
      rw [view, aside.session, aside.flow, total, carried, ← view]
    have untaken : d.taken? = none := by
      rcases silent with none | ⟨w, a, answered⟩
      · rw [Deed.taken?, none]
        rfl
      · rw [Deed.taken?, answered]
        rfl
    have unsurfaced : d.surfaced? = none := by
      rw [Deed.surfaced?, unread]
      rfl
    rw [same, untaken, unsurfaced]
    exact .stays
  | acts next => exact ok.slides_act next
  | @suspends p m rest next =>
    obtain ⟨own, all, -⟩ := ok.carried_of_next next (by simp [Frame.carried?])
    have below : rest.filterMap Frame.carried? = [] := ok.slot.only all
    have total : (x.put p { agenda := .act (.store m) :: rest }).total Hand.unreleased =
        x.total Hand.unreleased := by
      apply total_put_same
      rw [Hand.unreleased_of_none (Hand.resuming_of_other (ok.sound p) next rfl)]
      exact Hand.unreleased_of_none (Hand.resuming_cons (ok.sound p) next rfl)
    have carries : (x.put p { agenda := .act (.store m) :: rest }).carried = [(m, true)] := by
      subst own
      rw [carried, hands_put_self, filterMap_cons_toList, below]
      rfl
    rw [view_put, total, carries]
    exact .shuts m (by rw [view, all, below]; rfl)
  | @releases p m rest next first =>
    have count := Hand.resuming_of_resuming (ok.sound p) next
    have before : (x.hands p).unreleased = 1 := by simpa [Hand.unreleased, first] using count
    have after : Hand.unreleased { x.hands p with midway := true } = 0 := rfl
    have moved := total_put x p { x.hands p with midway := true } Hand.unreleased
    rw [before, after, Nat.add_zero] at moved
    have same : (x.put p { x.hands p with midway := true }).carried = x.carried := carried_put rfl
    rw [view_put, same]
    exact .opens _ moved.symm
  | @signals p m rest next second =>
    have total : (x.put p { agenda := .act (.reply (.pulled (.item m))) :: rest }).total
        Hand.unreleased = x.total Hand.unreleased := by
      apply total_put_same
      have before : (x.hands p).unreleased = 0 := by simp [Hand.unreleased, second]
      rw [before]
      exact Hand.unreleased_of_none (Hand.resuming_cons (ok.sound p) next rfl)
    have same : (x.put p { agenda := .act (.reply (.pulled (.item m))) :: rest }).carried =
        x.carried := carried_put (by rw [next]; rfl)
    have open_still : x.link.flow.signal.suspended = x.link.flow.suspended := by
      unfold Link.Flow.signal
      split <;> rfl
    rw [view_put, total, same, open_still]
    exact .stays
  | reads l flow r move reading same idle stage =>
    have clear := ok.clear (by simp [stage, Link.ReaderStage.isThrough])
    have pending : x.session.inbound.pending = [] := congrArg View.pending clear
    have unreleased : x.total Hand.unreleased = 0 := congrArg View.unreleased clear
    have suspended : l.flow.suspended = false := by
      rw [flow]
      exact congrArg View.suspended clear
    rw [clear, view_moved idle move, pending, unreleased]
    cases reading with
    | blocked =>
      rw [suspended]
      exact .stays
    | message i m data =>
      have surfaced : (Deed.read (.item i) : Deed ι).surfaced? = some m := data
      simp only [surfaced, suspended]
      exact .arrives m rfl
    | ended r o said entries op pre prelude actions =>
      have other : ∀ m, op ≠ .message m := by
        rintro m rfl
        have lengths := congrArg List.length actions
        simp [Op.actions] at lengths
      simp only [surfaced?_of_end said, suspended, Option.map_some, Option.getD_some,
        carried_actions other]
      exact .stays
  | tends idle stage =>
    have empty : x.carried = [] := by rw [carried, idle]; rfl
    have same : (x.moved .reader x.link.stepReader).view = x.view := by
      rw [view_moved idle, Link.stepReader_op stage, Link.stepReader_suspended stage, view, empty]
      rfl
    rw [same]
    exact .stays

theorem step_capacity (ok : Inflow ds x) (step : Inward x d y) :
    y.session.setting.capacity = 1 := by
  cases step with
  | aside p aside => rw [aside.session, ok.capacity]
  | @acts p a =>
    have setting := (changes_perform x.session a).setting_eq
    exact (congrArg Setting.capacity setting).trans ok.capacity
  | suspends | releases | signals | reads | tends => exact ok.capacity

theorem step_apart (ok : Inflow ds x) (step : Inward x d y) :
    ∀ p ≠ .reader, (y.hands p).agenda.filterMap Frame.carried? = [] := by
  cases step with
  | aside p aside =>
    intro q other
    by_cases own : q = p
    · rw [own, aside.carried]
      exact ok.apart p (own ▸ other)
    · rw [aside.others q own]
      exact ok.apart q other
  | @acts p a rest next =>
    refine apart_put ok.apart fun other => ?_
    have nothing := ok.apart p other
    rw [next, filterMap_cons_toList] at nothing
    obtain ⟨own, below⟩ := List.append_eq_nil_iff.mp nothing
    have fresh : ∀ m, a ≠ .receive m := by
      rintro m rfl
      simp [Frame.carried?] at own
    rw [List.filterMap_append, carried_next_other x.session fresh, below]
    rfl
  | @suspends p m rest next =>
    obtain ⟨own, -⟩ := ok.carried_of_next next (by simp [Frame.carried?])
    exact apart_put ok.apart fun other => absurd own other
  | @releases p m rest next first =>
    exact apart_put ok.apart (ok.apart p)
  | @signals p m rest next second =>
    refine apart_put ok.apart fun other => ?_
    have nothing := ok.apart p other
    rw [next] at nothing
    exact nothing
  | reads | tends =>
    exact apart_put ok.apart fun other => absurd rfl other

theorem step_busy (ok : Inflow ds x) (step : Inward x d y)
    (busy : (y.hands .reader).agenda ≠ []) :
    y.link.reader = .checking ∨ y.link.reader = .leaving := by
  by_cases idle : (x.hands .reader).agenda = []
  · have apart {p : Party ι} {f : Frame} {rest : Agenda} (next : (x.hands p).agenda = f :: rest) :
        .reader ≠ p := by
      rintro rfl
      simp [idle] at next
    have kept (same : y.hands .reader = x.hands .reader) : False := busy (by rw [same, idle])
    cases step with
    | aside p aside =>
      refine (kept (aside.others _ ?_)).elim
      rintro rfl
      obtain ⟨w, rest, next⟩ := aside.asked rfl
      exact apart next rfl
    | acts next | suspends next | releases next | signals next =>
      exact (kept (hands_put_of_ne (apart next) _)).elim
    | reads l flow r move reading =>
      cases reading with
      | blocked => simp [moved] at busy
      | message => exact .inl rfl
      | ended => exact .inr rfl
    | tends _ stage => simp [moved, Link.stepReader_op stage] at busy
  · rw [(stage_busy idle step).1]
    exact ok.busy idle

theorem step_clear (ok : Inflow ds x) (step : Inward x d y) (through : y.link.reader.isThrough) :
    y.view = ⟨[], [], 0, false⟩ := by
  have unsurfaced : d.surfaced? = none := by
    cases surfaced : d.surfaced? with
    | none => rfl
    | some m =>
      simp [checking_of_surfaced step surfaced, Link.ReaderStage.isThrough] at through
  have slides := ok.slides step
  have before : x.view = ⟨[], [], 0, false⟩ := by
    by_cases already : x.link.reader.isThrough
    · exact ok.clear already
    · obtain ⟨-, opened, idle⟩ := step_through step (by simpa using already) through
      exact ok.slot.clear_of_open opened (by rw [view, carried, idle]; rfl)
  rw [before, unsurfaced] at slides
  exact slides.clear

theorem step_telling (ok : Inflow ds x) (step : Inward x d y) :
    Telling (ends (work (ds ++ [d]))).head? (pulled (work (ds ++ [d]))) y.session.inbound ∧
      failures (work (ds ++ [d])) =
        ((ends (work (ds ++ [d]))).head?.bind Outcome.fault?).toList := by
  rw [work_snoc]
  have quiet {h : Option Happening} (silent : h = none ∨ ∃ w a, h = some (.answered w a)) :
      Telling (ends (work ds ++ h.toList)).head? (pulled (work ds ++ h.toList))
        x.session.inbound ∧ failures (work ds ++ h.toList) =
          ((ends (work ds ++ h.toList)).head?.bind Outcome.fault?).toList := by
    have same : ends (work ds ++ h.toList) = ends (work ds) ∧
        pulled (work ds ++ h.toList) = pulled (work ds) ∧
        failures (work ds ++ h.toList) = failures (work ds) := by
      rcases silent with rfl | ⟨w, a, rfl⟩ <;>
        simp [ends, pulled, failures, Happening.end?, Happening.pulled?, Happening.failure?]
    rw [same.1, same.2.1, same.2.2]
    exact ⟨ok.telling, ok.failed⟩
  cases step with
  | aside p aside silent =>
    rw [aside.session]
    exact quiet silent
  | @acts p a =>
    refine ⟨?_, ok.telling.failures ok.failed a⟩
    rw [show (Deed.did p (.acted x.session a)).work?.toList = [.acted x.session a] from rfl,
      ends_snoc, pulled_snoc]
    exact ok.telling.perform a
  | suspends | signals => exact quiet (.inr ⟨_, _, rfl⟩)
  | releases | reads | tends => exact quiet (.inl rfl)

theorem step (ok : Inflow ds x) (step : Step x d y) (orderly : d.isOrderly) :
    Inflow (ds ++ [d]) y := by
  have inward := step.inward ok.sound orderly
  obtain ⟨telling, failed⟩ := ok.step_telling inward
  refine ⟨step.keeps (fun _ _ _ _ ok => ok.goes) ok.sound, ok.step_capacity inward,
    ok.step_apart inward, ?_, ok.step_busy inward, ok.step_clear inward,
    ok.roused.step ok.sound inward, telling, ?_, failed⟩
  · rw [surfaced_snoc, taken, work, filterMap_filterMap_snoc]
    exact ok.slot.slides (ok.slides inward)
  · refine ok.tide.step inward orderly fun p m rest next => ?_
    simp [ok.pending_of_store next, ok.capacity]

omit [DecidableEq ι] in
theorem start (opened : x.IsOpened) : Inflow [] x := by
  obtain ⟨g, c, session, -⟩ := opened.session.cases
  have nothing (p : Party ι) : (x.hands p).agenda = [] := by rw [opened.hands p]
  have none_of (n : Hand → Nat) (empty : n {} = 0) : x.total n = 0 :=
    Finset.sum_eq_zero fun p _ => by rw [opened.hands p, empty]
  refine ⟨fun p => ?_, ?_, fun p _ => by simp [nothing p], ?_, by simp [nothing], ?_, ?_, ?_, ?_,
    rfl⟩
  · exact ⟨by simp [nothing p], by simp [opened.hands p]⟩
  · simp [Setting.capacity, opened.suspendable]
  · have clear : x.view = ⟨[], [], 0, false⟩ := by
      simp [view, carried, session, nothing, none_of Hand.unreleased rfl, opened.flow]
    rw [clear]
    exact .clear rfl
  · simp [opened.reader, Link.ReaderStage.isThrough]
  · rw [opened.reader]
    exact .elsewhere _ (by simp) (by simp [opened.flow])
  · rw [session]
    exact .live rfl rfl (by simp [pulled])
  · refine .flowing (by simp [opened.reader]) ?_ (by simp [nothing]) (by simp [reads]) rfl
    rw [session]
    exact ⟨rfl, rfl, by simp [Session.outcome?]⟩

theorem run (opened : x.IsOpened) (run : Run x ds y) (orderly : ∀ d ∈ ds, d.isOrderly) :
    Inflow ds y := by
  induction run with
  | nil => exact start opened
  | snoc run step ih =>
    exact (ih fun d mem => orderly d (by simp [mem])).step step (orderly _ (by simp))

end Inflow

end Duplex

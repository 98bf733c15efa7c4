import Duplex.Proofs.Ending.Close
import Duplex.Proofs.Outbound.Single
import Duplex.Proofs.Outbound.Vigil

/-!
Writes after the transport was asked to close. To close says nothing to the send: a session that is
closed goes on writing unless its send is over, was told to stop or has nothing left, and that is
also exactly when nothing is written any more.
-/

namespace Duplex

open History

/-- Nothing will be written any more: the transport's end stands before a source is attached, or the
send was told to stop or has its outcome while no poll is past its look at them, or the send is over
or has nothing left to write. -/
inductive Machine.IsMute (m : Machine) : Prop
  | late (reported : m.session.transportOutcome.isSome) (unattached : m.session.control = none)
  | cancelled (cancelled : m.session.isCancelled) (heeds : ∀ f ∈ m.agenda, f.heedless = false)
  | decided (decided : m.session.outcome?.isSome)
    (heeds : ∀ f ∈ m.agenda, f.heedless = false ∧ f ≠ .act .checkCancelled)
  | spent (attached : m.session.control.isSome) (spent : m.session.writer.all Writer.drained)

section

variable {s : Session} {a : Action}

theorem heeds_next_other (s : Session) (other : a.ofPoll = false) :
    ∀ f ∈ (a.perform s).next, f.heedless = false ∧ f ≠ .act .checkCancelled := by
  intro f mem
  have stage : f.ofPoll = false := by
    by_contra own
    have due : f ∈ polls (a.perform s).next := List.mem_filter.mpr ⟨mem, by simpa using own⟩
    simp [polls_next_other s other] at due
  refine ⟨?_, fun same => by simp [same, Action.ofPoll] at stage⟩
  by_contra heedless
  simp [ofPoll_of_heedless (by simpa using heedless)] at stage

theorem heeds_of_cancelled (cancelled : s.isCancelled) (stage : (Frame.act a).heedless = false) :
    ∀ f ∈ (a.perform s).next, f.heedless = false := by
  cases own : a.ofPoll with
  | false => exact fun f mem => (heeds_next_other s own f mem).1
  | true =>
    have step := pollStep_perform s own
    generalize (a.perform s).session = t, (a.perform s).next = next at step ⊢
    cases step with
    | goesOn uncancelled => simp [cancelled_control, cancelled] at uncancelled
    | passes looks => rcases looks with rfl | rfl <;> simp [Frame.heedless] at stage
    | _ => simp [Frame.heedless] at stage ⊢

theorem heeds_of_decided (decided : s.outcome?.isSome)
    (stage : (Frame.act a).heedless = false ∧ Frame.act a ≠ .act .checkCancelled) :
    ∀ f ∈ (a.perform s).next, f.heedless = false ∧ f ≠ .act .checkCancelled := by
  cases own : a.ofPoll with
  | false => exact heeds_next_other s own
  | true =>
    have step := pollStep_perform s own
    generalize (a.perform s).session = t, (a.perform s).next = next at step ⊢
    cases step with
    | undecided undecided => simp [← outcome_control, undecided] at decided
    | passes looks => rcases looks with rfl | rfl <;> simp [Frame.heedless] at stage
    | _ => simp [Frame.heedless] at stage ⊢

theorem unwritten_of_heedful (stage : (Frame.act a).heedless = false) :
    (Happening.acted s a).written? = none := by
  refine Happening.written?_of_ne_emit fun t same => ?_
  cases same
  simp [Frame.heedless] at stage

theorem Changes.drained {t : Session} (change : Changes s a t) (opens : a ≠ .openWriter)
    (spent : s.writer.all Writer.drained) : t.writer.all Writer.drained := by
  cases change with
  | opens => exact absurd rfl opens
  | abandons | finishes | drains => rfl
  | registers _ here | detaches here | holds _ here | releases here =>
    simpa [here, Writer.detach] using spent
  | _ => exact spent

theorem unwritten_of_spent (spent : s.writer.all Writer.drained) :
    (Happening.acted s a).written? = none := by
  cases written : (Happening.acted s a).written? with
  | none => rfl
  | some x =>
    obtain ⟨t, w, same, here, -, undrained⟩ := written_cases written
    cases same
    simp [here, undrained] at spent

end

section

variable {gs hs : List Happening} {m n : Machine}

theorem heeds_actions (op : Op) :
    ∀ f ∈ op.actions.map Frame.act, f.heedless = false ∧ f ≠ .act .checkCancelled := by
  cases op <;> simp [Op.actions, Frame.heedless]

theorem heeds_resume {w : Wait} (x : Answer) (stage : (Frame.wait w).heedless = false) :
    ∀ f ∈ (w.resume x).map Frame.act, f.heedless = false ∧ f ≠ .act .checkCancelled := by
  unfold Wait.resume
  split <;> simp_all [Frame.heedless]

theorem Machine.IsMute.start (mute : m.IsMute) (op : Op) : (m.start op).IsMute := by
  cases mute with
  | late reported unattached => exact .late reported unattached
  | cancelled cancelled heeds =>
    exact .cancelled cancelled
      (List.forall_mem_append.mpr ⟨fun f mem => (heeds_actions op f mem).1, heeds⟩)
  | decided decided heeds =>
    exact .decided decided (List.forall_mem_append.mpr ⟨heeds_actions op, heeds⟩)
  | spent attached spent => exact .spent attached spent

theorem Machine.IsMute.answer {s : Session} {w : Wait} {rest : Agenda}
    (mute : Machine.IsMute ⟨s, .wait w :: rest⟩) (x : Answer) :
    Machine.IsMute ⟨s, (w.resume x).map Frame.act ++ rest⟩ := by
  cases mute with
  | late reported unattached => exact .late reported unattached
  | cancelled cancelled heeds =>
    obtain ⟨stage, below⟩ := List.forall_mem_cons.mp heeds
    exact .cancelled cancelled
      (List.forall_mem_append.mpr ⟨fun f mem => (heeds_resume x stage f mem).1, below⟩)
  | decided decided heeds =>
    obtain ⟨⟨stage, -⟩, below⟩ := List.forall_mem_cons.mp heeds
    exact .decided decided (List.forall_mem_append.mpr ⟨heeds_resume x stage, below⟩)
  | spent attached spent => exact .spent attached spent

theorem Machine.IsMute.perform {s : Session} {a : Action} {rest : Agenda}
    (attachment : Attachment gs ⟨s, .act a :: rest⟩) (mute : Machine.IsMute ⟨s, .act a :: rest⟩) :
    Machine.IsMute ⟨(a.perform s).session, (a.perform s).next ++ rest⟩ ∧
      (Happening.acted s a).written? = none := by
  have opens (attached : s.control.isSome) : a ≠ .openWriter := by
    rintro rfl
    have unattached : s.control = none := attachment.opens.1
    simp [unattached] at attached
  cases mute with
  | late reported unattached =>
    by_cases opening : a = .openWriter
    · subst opening
      obtain ⟨-, unpolled, -⟩ := attachment.untouched unattached
      have none_heedless : heedless rest = 0 := by
        have few := heedless_le_polls (.act .openWriter :: rest)
        rw [unpolled] at few
        simpa [Frame.heedless] using few
      refine ⟨.cancelled (by simpa [Action.perform, Session.openWriter, Session.isCancelled]) ?_,
        unwritten_of_heedful rfl⟩
      exact List.forall_mem_cons.mpr ⟨rfl, (heedless_eq_zero_iff rest).mp none_heedless⟩
    · obtain ⟨other, -, still⟩ := attachment.perform_unattached opening unattached
      exact ⟨.late ((changes_perform s a).transportOutcome_isSome reported) still,
        (Happening.IsSilent.of_other (h := .acted s a) other).written⟩
  | cancelled cancelled heeds =>
    obtain ⟨stage, below⟩ := List.forall_mem_cons.mp heeds
    have attached : s.control.isSome := by
      cases here : s.control <;> simp [Session.isCancelled, here] at cancelled ⊢
    exact ⟨.cancelled ((changes_perform s a).isCancelled (opens attached) cancelled)
      (List.forall_mem_append.mpr ⟨heeds_of_cancelled cancelled stage, below⟩),
      unwritten_of_heedful stage⟩
  | decided decided heeds =>
    obtain ⟨stage, below⟩ := List.forall_mem_cons.mp heeds
    obtain ⟨o, outcome⟩ := Option.isSome_iff_exists.mp decided
    have outcome : s.outcome? = some o := outcome
    obtain ⟨c, here, -⟩ := Option.bind_eq_some_iff.mp outcome
    have still := (changes_perform s a).outcome_eq_some (opens (by simp [here])) outcome
    exact ⟨.decided (by simp [still])
      (List.forall_mem_append.mpr ⟨heeds_of_decided decided stage, below⟩),
      unwritten_of_heedful stage.1⟩
  | spent attached spent =>
    have change := changes_perform s a
    exact ⟨.spent (change.control_isSome attached) (change.drained (opens attached) spent),
      unwritten_of_spent spent⟩

theorem Machine.IsMute.run (attachment : Attachment gs m) (mute : m.IsMute)
    (run : Machine.Run m hs n) : n.IsMute ∧ written hs = [] := by
  induction run with
  | nil => exact ⟨mute, rfl⟩
  | snoc run step ih =>
    obtain ⟨mute, unwritten⟩ := ih
    have attachment := attachment.after run
    rw [written_snoc, unwritten]
    cases step using Machine.Step.kinds with
    | began _ op | intruded _ op => exact ⟨mute.start op, rfl⟩
    | answered s w rest x => exact ⟨mute.answer x, rfl⟩
    | acted s a rest =>
      obtain ⟨mute, silent⟩ := mute.perform attachment
      exact ⟨mute, by simp [silent]⟩

end

/-- Some continuation writes. -/
def Machine.CanWrite (m : Machine) : Prop := ∃ gs n, Machine.Run m gs n ∧ written gs ≠ []

theorem Machine.CanWrite.before {m n : Machine} {h : Happening} (step : Machine.Step m h n)
    (writes : n.CanWrite) : m.CanWrite := by
  obtain ⟨gs, k, run, some⟩ := writes
  refine ⟨h :: gs, k, run.cons step, fun none => some ?_⟩
  exact (List.append_eq_nil_iff.mp (written_append [h] gs ▸ none)).2

def Session.IsSupplied (s : Session) : Prop :=
  ∀ w, s.writer = some w → w.attached ∨ w.drained ∨ s.isCancelled

theorem Changes.isSupplied {s t : Session} {a : Action} (change : Changes s a t)
    (kept : s.IsSupplied) : t.IsSupplied := by
  intro w here
  cases change with
  | opens =>
    obtain rfl : {} = w := by simpa [Session.openWriter] using here
    exact .inl rfl
  | abandons | finishes => simp [Session.finish] at here
  | registers v before =>
    obtain rfl := Option.some.inj here
    exact (kept _ before).imp_right (Or.imp_right fun told => (cancelled_control s).trans told)
  | @holds _ v before | @releases v before =>
    obtain rfl := Option.some.inj here
    exact kept v before
  | drains before =>
    obtain rfl := Option.some.inj here
    exact .inr (.inl rfl)
  | detaches before cancelled => exact .inr (.inr ((cancelled_control s).symm.trans cancelled))
  | cancels => exact .inr (.inr rfl)
  | terminates o before => simpa [Session.isCancelled, before] using kept w here
  | _ => exact kept w here

theorem supplied_run {s : Session} {hs : List Happening} {m : Machine} (new : s.IsNew)
    (run : Machine.Run ⟨s, []⟩ hs m) : m.session.IsSupplied := by
  refine run.keeps (p := Session.IsSupplied) (fun s a => (changes_perform s a).isSupplied) ?_
  obtain ⟨g, c, rfl, -, -⟩ := new.cases
  simp [Session.IsSupplied]

section

variable {t : Session} {w : Writer} {rest : Agenda}

theorem writes_at_gate {x : Message} (here : t.writer = some w) (held : w.current = some x)
    (undrained : w.drained = false) (ready : t.readiness.ready) :
    Machine.CanWrite ⟨t, .act .gate :: rest⟩ := by
  have passes : Action.gate.perform t = { session := t, next := [.act .emit] } := by
    simp [Action.perform, Session.withWriter, here, Writer.canProceed, ready, held]
  have writes : (Happening.acted t .emit).written? = some x := by
    simp [Happening.written?, Happening.call?, Effect.call?, Wait.call, Action.perform,
      Session.withWriter, here, held, undrained]
  have gate := Machine.Step.act t .gate rest
  rw [passes] at gate
  refine .before gate ⟨[.acted t .emit], _, .cons (.act t .emit rest) (.nil _), ?_⟩
  simp [written, writes]

theorem writes_at_request (here : t.writer = some w) (stocked : w.current.isSome ∨ w.attached)
    (undrained : w.drained = false) (ready : t.readiness.ready) :
    Machine.CanWrite ⟨t, .act .request :: rest⟩ := by
  have request := Machine.Step.act t .request rest
  cases held : w.current with
  | some x =>
    have passes : Action.request.perform t = { session := t, next := [.act .gate] } := by
      simp [Action.perform, Session.withWriter, here, held]
    rw [passes] at request
    exact .before request (writes_at_gate here held undrained ready)
  | none =>
    have attached : w.attached := by simpa [held] using stocked
    have asks : Action.request.perform t =
        { session := t, next := [.wait (.pulling w.waker)] } := by
      simp [Action.perform, Session.withWriter, here, held, undrained, attached]
    rw [asks] at request
    have yields := Machine.Step.answered t (.pulling w.waker) rest (.item (.text "a"))
    have hold := Machine.Step.act t (.hold (.text "a")) rest
    have holds : (Action.hold (.text "a")).perform t =
        { session := { t with writer := some { w with current := some (.text "a") } }
          next := [.act .gate] } := by
      simp [Action.perform, Session.withWriter, here]
    rw [holds] at hold
    exact .before request (.before yields (.before hold (writes_at_gate rfl rfl undrained ready)))

theorem writes_when_polled {c : Control} (admitted : Machine.admits ⟨t, rest⟩ (.poll 0))
    (here : t.writer = some w) (attached : t.control = some c) (uncancelled : c.cancelled = false)
    (undecided : c.outcome = none) (stocked : w.current.isSome ∨ w.attached)
    (undrained : w.drained = false) (ready : t.readiness.ready) : Machine.CanWrite ⟨t, rest⟩ := by
  obtain ⟨h, -, poll⟩ := Machine.step_of_admits admitted
  let u : Session :=
    { t with writer := some { w with waker := 0 }, control := some { c with waker := some 0 } }
  have register := Machine.Step.act t (.register 0) rest
  have registers : (Action.register 0).perform t = { session := u, next := [.act .inspect] } := by
    simp [Action.perform, Session.withWriter, here, attached, u]
  rw [registers] at register
  have inspect := Machine.Step.act u .inspect rest
  have looks : Action.inspect.perform u = { session := u, next := [.act .checkCancelled] } := by
    simp [Action.perform, u, undecided]
  rw [looks] at inspect
  have check := Machine.Step.act u .checkCancelled rest
  have goes_on : Action.checkCancelled.perform u = { session := u, next := [.act .request] } := by
    simp [Action.perform, u, uncancelled]
  rw [goes_on] at check
  have request : Machine.CanWrite ⟨u, .act .request :: rest⟩ :=
    writes_at_request rfl stocked undrained ready
  exact .before poll (.before register (.before inspect (.before check request)))

theorem writes_of_writer {c : Control} (free : Machine.isPolling ⟨t, rest⟩ = false)
    (here : t.writer = some w) (attached : t.control = some c) (uncancelled : c.cancelled = false)
    (undecided : c.outcome = none) (stocked : w.current.isSome ∨ w.attached)
    (undrained : w.drained = false) : Machine.CanWrite ⟨t, rest⟩ := by
  have admitted : Machine.admits ⟨t, rest⟩ (.setReady true) := rfl
  obtain ⟨h, -, raise⟩ := Machine.step_of_admits admitted
  let u : Session := { t with readiness := { t.readiness with ready := true } }
  have raised := Machine.Step.act t (.setReady true) (.act (.reply .unit) :: rest)
  refine .before raise (.before raised (writes_when_polled (t := u) ?_ here attached uncancelled
    undecided stocked undrained rfl))
  have free : rest.any Frame.ofPoll = false := free
  simp [Machine.admits, Machine.isPolling, Action.perform, u, here, free, Frame.ofPoll,
    Action.ofPoll]

theorem writes_when_offered (free : Machine.isPolling ⟨t, rest⟩ = false)
    (fresh : t.progress = .notStarted) (unreported : t.transportOutcome = none) :
    Machine.CanWrite ⟨t, rest⟩ := by
  have admitted : Machine.admits ⟨t, rest⟩ .send := rfl
  obtain ⟨h, -, send⟩ := Machine.step_of_admits admitted
  let u : Session := { t with progress := .sending }
  let v : Session := { u with control := some {}, writer := some {} }
  have attach := Machine.Step.act t .attach rest
  have starts : Action.attach.perform t = { session := u, next := [.act .openWriter] } :=
    if_pos fresh
  rw [starts] at attach
  have opening := Machine.Step.act u .openWriter rest
  have opens : Action.openWriter.perform u =
      { session := v
        notices := [.logged .outboundAttached]
        next := [.act (.reply (.attached true))] } := by
    simp [Action.perform, Session.openWriter, u, v, unreported]
  rw [opens] at opening
  refine .before send (.before attach (.before opening
    (writes_of_writer (t := v) ?_ rfl rfl rfl rfl (.inr rfl) rfl)))
  have free : rest.any Frame.ofPoll = false := free
  simp [Machine.isPolling, free, Action.ofPoll]

end

theorem unattached_run {m n : Machine} {hs : List Happening} (run : Machine.Run m hs n)
    (unattached : n.session.control = none) : attachments hs = 0 := by
  refine List.countP_eq_zero.mpr fun h mem attaches => ?_
  unfold Happening.attaches at attaches
  split at attaches
  · obtain ⟨pre, post, rfl⟩ := List.append_of_mem mem
    obtain ⟨k, k', -, step, after⟩ := run.split
    cases step using Machine.Step.kinds with
    | acted t a rest =>
      have attached := attached_run after rfl
      simp [unattached] at attached
  · simp at attaches

theorem mute_iff {s : Session} {hs : List Happening} {m : Machine} (new : s.IsNew)
    (run : Machine.Run ⟨s, []⟩ hs m) (free : m.isPolling = false)
    (settled : openings m.agenda = 0) : m.IsMute ↔ ¬ m.CanWrite := by
  have attachment := Attachment.run new run
  constructor
  · rintro mute ⟨gs, n, later, some⟩
    exact some (mute.run attachment later).2
  · intro silent
    have unpolled : ∀ f ∈ m.agenda, f.ofPoll = false := by
      simpa [Machine.isPolling] using free
    have heeds (f : Frame) (mem : f ∈ m.agenda) :
        f.heedless = false ∧ f ≠ .act .checkCancelled := by
      have other := unpolled f mem
      refine ⟨?_, fun same => by simp [same, Action.ofPoll] at other⟩
      by_contra heedless
      simp [ofPoll_of_heedless (by simpa using heedless)] at other
    by_contra loud
    refine silent ?_
    cases attached : m.session.control with
    | none =>
      have unreported : m.session.transportOutcome = none := by
        by_contra reported
        exact loud (.late (Option.isSome_iff_ne_none.mpr reported) attached)
      have fresh : m.session.progress = .notStarted := by
        by_contra started
        have all := attachments_run new run
        rw [unattached_run run attached, settled, if_neg started] at all
        simp at all
      exact writes_when_offered free fresh unreported
    | some c =>
      have uncancelled : m.session.isCancelled = false := by
        by_contra cancelled
        exact loud (.cancelled (by simpa using cancelled) fun f mem => (heeds f mem).1)
      have undecided : m.session.outcome? = none := by
        by_contra decided
        exact loud (.decided (Option.isSome_iff_ne_none.mpr decided) heeds)
      obtain ⟨w, here, undrained⟩ : ∃ w, m.session.writer = some w ∧ w.drained = false := by
        by_contra spent
        refine loud (.spent (by simp [attached]) ?_)
        cases here : m.session.writer with
        | none => rfl
        | some w => simpa [here] using spent
      have stocked : w.current.isSome ∨ w.attached :=
        .inr ((supplied_run new run w here).resolve_right (by simp [undrained, uncancelled]))
      exact writes_of_writer free here attached
        (by simpa [Session.isCancelled, attached] using uncancelled)
        (by simpa [Session.outcome?, attached] using undecided) stocked undrained

theorem gone_of_completed {s : Session} {hs : List Happening} {m : Machine} (new : s.IsNew)
    (run : Machine.Run ⟨s, []⟩ hs m) (completed : m.session.progress = .completed) :
    m.IsMute := by
  have concluded := (Progressed.run new run).completed.mp completed
  obtain ⟨o, mem⟩ := List.exists_mem_of_ne_nil _ concluded
  have settled : o ∈ settlements hs :=
    (conclusions_perm run).mem_iff.mp (List.mem_append_left _ mem)
  obtain ⟨g, seen, settles⟩ := List.mem_filterMap.mp settled
  unfold Happening.settlement? at settles
  split at settles
  · obtain ⟨pre, post, rfl⟩ := List.append_of_mem seen
    obtain ⟨k, k', before, step, after⟩ := run.split
    have ended := concluded_of_finish (single_run before) step
    obtain ⟨gone, attached, -⟩ :=
      (ended.run ((Attachment.run new before).step step) (single_run (before.snoc step)) after).1
    exact .spent attached (by simp [gone])
  · simp at settles

theorem closed_of_closes {m k : Machine} {g : Happening} {status : CloseStatus}
    (step : Machine.Step m g k) (closes : g.closes? = some status) : k.session.closed := by
  obtain ⟨t, finalizing, rfl, -⟩ := closes_cases closes
  cases step using Machine.Step.kinds with
  | acted =>
    rw [perform_closed, closes]
    simp

/-- A session that has asked its transport to close, and does so no more, writes nothing if it is
mute by then, as it is once the attached send has its outcome, or if no source is ever offered. That
it is closed keeps nobody from writing: whenever no poll is in progress, it writes nothing in any
continuation exactly if it is mute. -/
theorem writes_after_close {s : Session} {pre post : List Happening} {g : Happening}
    {status : CloseStatus} {k m : Machine} (new : s.IsNew)
    (before : Machine.Run ⟨s, []⟩ (pre ++ [g]) k) (closes : g.closes? = some status)
    (later : Machine.Run k post m) :
    m.session.closed ∧ History.closes post = [] ∧
    (k.IsMute → written post = []) ∧
    (k.session.progress = .completed → k.IsMute) ∧
    (offers (pre ++ g :: post) = 0 → written post = []) ∧
    (m.isPolling = false → openings m.agenda = 0 →
      (m.IsMute ↔ ∀ gs n, Machine.Run m gs n → written gs = [])) := by
  have whole : Machine.Run ⟨s, []⟩ (pre ++ g :: post) m := by
    simpa using before.append later
  obtain ⟨n, -, step⟩ := before.unsnoc
  obtain ⟨closed, unasked⟩ := closed_run later (closed_of_closes step closes)
  refine ⟨closed, unasked, fun mute => (mute.run (Attachment.run new before) later).2,
    gone_of_completed new before, fun unoffered => ?_, fun free settled => ?_⟩
  · have fresh := (Progressed.run new whole).notStarted.mpr unoffered
    have all := attachments_run new whole
    rw [if_pos fresh] at all
    have unpolled := unpolled_of_unattached new whole (by omega)
    refine List.filterMap_eq_nil_iff.mpr fun h mem => ?_
    exact (Happening.IsSilent.of_other (unpolled h (by simp [mem]))).written
  · rw [mute_iff new whole free settled]
    constructor
    · intro silent gs n run
      by_contra some
      exact silent ⟨gs, n, run, some⟩
    · rintro silent ⟨gs, n, run, some⟩
      exact some (silent gs n run)

def failing (e : Fault) : List Machine.Cue :=
  [.start .send, .perform, .perform, .perform, .start (.poll 7), .perform, .perform, .perform,
    .perform, .answer .pending, .perform, .start (.transportError e), .perform, .perform, .perform,
    .perform, .answer .done, .perform, .perform, .start (.close .normal), .perform]

/-- The send hears of the failure when it is polled next, and writes nothing. -/
theorem writes_after_close_failed :
    let s := Session.sample true {}
    let e := Fault.transport "reset"
    let r := Machine.play ⟨s, []⟩ (failing e)
    let p := Machine.play r.2 ([.answer .done, .perform, .start (.poll 7)] ++
      List.replicate 10 .perform)
    s.IsNew ∧ Machine.Run ⟨s, []⟩ r.1 r.2 ∧ closes r.1 = [.normal] ∧ r.2.IsMute ∧
      Machine.Run r.2 p.1 p.2 ∧ resolutions p.1 = [.failure e] ∧ written p.1 = [] := by
  intro s e r p
  let g := Happening.acted { r.2.session with closed := false } (.close .normal false)
  have new : s.IsNew := Session.isNew_sample true rfl
  have last : r.1.dropLast ++ [g] = r.1 := by decide +kernel
  have run : Machine.Run ⟨s, []⟩ r.1 r.2 := Machine.run_play _ _
  have later : Machine.Run r.2 p.1 p.2 := Machine.run_play _ _
  have mute : r.2.IsMute := .cancelled (by decide +kernel) (by decide +kernel)
  obtain ⟨-, -, unwritten, -⟩ := writes_after_close (g := g) new (last ▸ run) rfl later
  exact ⟨new, run, by decide +kernel, mute, later, by decide +kernel, unwritten mute⟩

/-- A send that waits for its source goes on after the session is closed: the close does not tell
it. -/
theorem writes_after_close_heedless :
    ¬ ∀ (s : Session) (pre post : List Happening) (g : Happening) (status : CloseStatus)
      (m : Machine), s.IsNew → Machine.Run ⟨s, []⟩ (pre ++ g :: post) m →
      g.closes? = some status → written post = [] := by
  intro always
  let s := Session.sample true {}
  let r := Machine.play ⟨s, []⟩ ([.start .send, .perform, .perform, .perform,
    .start (.close .normal), .perform, .answer .done, .perform, .start (.poll 7), .perform,
    .perform, .perform, .perform, .answer (.item (.text "a")), .perform, .perform, .perform])
  let t : Session := { s with progress := .sending, control := some {}, writer := some {} }
  have split : r.1 = r.1.take 5 ++ .acted t (.close .normal false) :: r.1.drop 6 := by
    decide +kernel
  have unwritten := always s (r.1.take 5) (r.1.drop 6) (.acted t (.close .normal false)) .normal r.2
    (Session.isNew_sample true rfl) (split ▸ Machine.run_play _ _) rfl
  have writes : written (r.1.drop 6) = [.text "a"] := by decide +kernel
  simp [writes] at unwritten

end Duplex

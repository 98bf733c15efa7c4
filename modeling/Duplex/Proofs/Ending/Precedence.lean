import Duplex.Proofs.Ending.Late

/-!
The first report of the transport's end decides. Whatever reports come after one has returned, the
same run without them is possible: the same is asked of the session and answered to it, and pulls,
the send and the completion signal are told the same.
-/

namespace Duplex

open History

section

variable (s : Session) (closes wakes : Bool)

@[simp] theorem inbound_nudge : (s.nudge closes wakes).inbound = s.inbound := rfl
@[simp] theorem setting_nudge : (s.nudge closes wakes).setting = s.setting := rfl
@[simp] theorem readiness_nudge : (s.nudge closes wakes).readiness = s.readiness := rfl
@[simp] theorem progress_nudge : (s.nudge closes wakes).progress = s.progress := rfl
@[simp] theorem writer_nudge : (s.nudge closes wakes).writer = s.writer := rfl
@[simp] theorem completion_nudge : (s.nudge closes wakes).completion = s.completion := rfl
@[simp] theorem finalized_nudge : (s.nudge closes wakes).finalized = s.finalized := rfl
@[simp] theorem closed_nudge : (s.nudge closes wakes).closed = (s.closed || closes) := rfl
@[simp] theorem hasOutboundTask_nudge :
    (s.nudge closes wakes).hasOutboundTask = s.hasOutboundTask := rfl
@[simp] theorem transportOutcome_nudge :
    (s.nudge closes wakes).transportOutcome = s.transportOutcome := rfl

@[simp] theorem control_isSome_nudge :
    (s.nudge closes wakes).control.isSome = s.control.isSome := by
  cases wakes <;> simp [Session.nudge]

@[simp] theorem outcome_nudge :
    ((s.nudge closes wakes).control.getD {}).outcome = (s.control.getD {}).outcome := by
  cases wakes <;> cases control : s.control <;> simp [Session.nudge, control]

@[simp] theorem cancelled_nudge :
    ((s.nudge closes wakes).control.getD {}).cancelled = (s.control.getD {}).cancelled := by
  cases wakes <;> cases control : s.control <;> simp [Session.nudge, control]

end

def Action.minds : Action → Bool
  | .register _ | .openWriter | .finish _ | .cancel | .terminate _ | .markClosed | .close .. => true
  | _ => false

theorem perform_nudge (s : Session) (closes wakes : Bool) {a : Action} (heedless : a.minds = false) :
    a.perform (s.nudge closes wakes) =
      { a.perform s with session := (a.perform s).session.nudge closes wakes } := by
  cases a with
  | register | openWriter | finish | cancel | terminate | markClosed | close =>
    simp [Action.minds] at heedless
  | store m =>
    rw [Action.perform, Action.perform]
    cases live : s.inbound.isLive with
    | false =>
      rw [Session.store_of_ended m live, Session.store_of_ended (s := s.nudge closes wakes) m live]
    | true =>
      by_cases room : s.inbound.pending.length < s.setting.capacity
      · rw [Session.store_of_room m live room,
          Session.store_of_room (s := s.nudge closes wakes) m live room]
        rfl
      · have full := Nat.not_lt.mp room
        rw [Session.store_of_full m live full,
          Session.store_of_full (s := s.nudge closes wakes) m live full]
        rfl
  | _ =>
    simp only [Action.perform, Session.withWriter, Session.take,
      Session.failInbound, Session.settle, inbound_nudge, setting_nudge, readiness_nudge,
      progress_nudge, writer_nudge, completion_nudge, finalized_nudge, hasOutboundTask_nudge,
      transportOutcome_nudge, control_isSome_nudge, outcome_nudge, cancelled_nudge]
    repeat' split
    all_goals first | rfl | (simp_all; done) | (simp_all; rfl)

def Wait.isBystander : Wait → Bool
  | .waking _ | .closing .. => true
  | _ => false

structure Parallel (full kept : Effect) : Prop where
  session : ∃ closes wakes, full.session = kept.session.nudge closes wakes
  told : full.notices.filter Notice.tells = kept.notices.filter Notice.tells
  next : full.next = kept.next ∨
    ∃ w, w.isBystander ∧ kept.next = [.wait w] ∧ full.next = (w.resume .done).map .act

theorem parallel_close (s : Session) (closes wakes : Bool) (status : CloseStatus)
    (finalizing : Bool) :
    Parallel ((s.nudge closes wakes).close status finalizing) (s.close status finalizing) := by
  cases closed : s.closed with
  | true => exact ⟨⟨closes, wakes, by simp [Session.close, closed]⟩,
      by simp [Session.close, closed], .inl (by simp [Session.close, closed])⟩
  | false =>
    cases closes with
    | false => exact ⟨⟨false, wakes, by simp [Session.close, closed, Session.nudge]⟩,
        by simp [Session.close, closed], .inl (by simp [Session.close, closed])⟩
    | true =>
      -- Here the transport is asked only if no late report has closed the session.
      refine ⟨⟨true, wakes, ?_⟩, ?_, .inr ⟨.closing status finalizing, rfl, ?_, ?_⟩⟩
      · simp [Session.close, closed, Session.nudge]
      · simp [Session.close, closed, Notice.tells]
      · simp [Session.close, closed]
      · cases finalizing <;> simp [Session.close, Wait.resume]

theorem parallel_wakeFrames (w : Option Waker) :
    wakeFrames none = wakeFrames w ∨ ∃ v, v.isBystander ∧ wakeFrames w = [.wait v] ∧
      wakeFrames none = (v.resume .done).map Frame.act := by
  cases w with
  | none => exact .inl rfl
  | some v => exact .inr ⟨.waking v, rfl, rfl, rfl⟩

theorem parallel_perform (s : Session) (closes wakes : Bool) (a : Action) :
    Parallel (a.perform (s.nudge closes wakes)) (a.perform s) := by
  by_cases heedless : a.minds = false
  · rw [perform_nudge s closes wakes heedless]
    exact ⟨⟨closes, wakes, rfl⟩, rfl, .inl rfl⟩
  cases a with
  | close status finalizing => exact parallel_close s closes wakes status finalizing
  | markClosed => exact ⟨⟨closes, wakes, by simp [Action.perform, Session.nudge]⟩, rfl, .inl rfl⟩
  | openWriter => exact ⟨⟨closes, false, rfl⟩, rfl, .inl rfl⟩
  | register v =>
    cases writer : s.writer with
    | none =>
      refine ⟨⟨closes, wakes, ?_⟩, ?_, .inl ?_⟩ <;>
        simp [Action.perform, Session.withWriter, writer]
    | some w =>
      refine ⟨⟨closes, false, ?_⟩, ?_, .inl ?_⟩ <;>
        cases wakes <;> cases control : s.control <;>
        simp [Action.perform, Session.withWriter, writer, Session.nudge, control]
  | finish o =>
    refine ⟨⟨closes, wakes, ?_⟩, ?_, .inl ?_⟩ <;>
      cases wakes <;> cases control : s.control <;>
      simp [Action.perform, Session.finish, Session.nudge, control]
  | cancel =>
    cases control : s.control with
    | none =>
      refine ⟨⟨closes, wakes, ?_⟩, ?_, .inl ?_⟩ <;>
        cases wakes <;> simp [Action.perform, Session.nudge, control]
    | some c =>
      refine ⟨⟨closes, wakes, ?_⟩, ?_, ?_⟩ <;> cases wakes
      case refine_3.true =>
        simpa [Action.perform, Session.nudge, control] using parallel_wakeFrames c.waker
      all_goals simp [Action.perform, Session.nudge, control]
  | terminate o =>
    cases control : s.control with
    | none =>
      refine ⟨⟨closes, wakes, ?_⟩, ?_, .inl ?_⟩ <;>
        cases wakes <;> simp [Action.perform, Session.nudge, control]
    | some c =>
      cases decided : c.outcome with
      | some p =>
        refine ⟨⟨closes, wakes, ?_⟩, ?_, .inl ?_⟩ <;>
          cases wakes <;> simp [Action.perform, Session.nudge, control, decided]
      | none =>
        refine ⟨⟨closes, wakes, ?_⟩, ?_, ?_⟩ <;> cases wakes
        case refine_3.true =>
          simpa [Action.perform, Session.nudge, control, decided] using parallel_wakeFrames c.waker
        all_goals simp [Action.perform, Session.nudge, control, decided]
  | _ => simp [Action.minds] at heedless

inductive Thinned (finalized : Bool) : Agenda → Agenda → Prop
  | nil : Thinned finalized [] []
  | keep {full kept : Agenda} (f : Frame) (rest : Thinned finalized full kept) :
    Thinned finalized (f :: full) (f :: kept)
  | drop {full kept : Agenda} {f : Frame} (late : f.isLate finalized)
    (rest : Thinned finalized full kept) : Thinned finalized (f :: full) kept

namespace Thinned

variable {b : Bool} {full kept : Agenda}

theorem refl (b : Bool) (agenda : Agenda) : Thinned b agenda agenda := by
  induction agenda with
  | nil => exact .nil
  | cons f rest ih => exact .keep f ih

theorem keeps (new : Agenda) (rest : Thinned b full kept) :
    Thinned b (new ++ full) (new ++ kept) := by
  induction new with
  | nil => exact rest
  | cons f new ih => exact .keep f ih

theorem drops {new : Agenda} (late : ∀ f ∈ new, f.isLate b) (rest : Thinned b full kept) :
    Thinned b (new ++ full) kept := by
  induction new with
  | nil => exact rest
  | cons f new ih =>
    obtain ⟨first, others⟩ := List.forall_mem_cons.mp late
    exact .drop first (ih others)

theorem mono {c : Bool} (later : b → c) (thin : Thinned b full kept) : Thinned c full kept := by
  induction thin with
  | nil => exact .nil
  | keep f rest ih => exact .keep f ih
  | drop late rest ih =>
    refine .drop ?_ ih
    unfold Frame.isLate at late ⊢
    split at late <;> simp_all

theorem isPolling (thin : Thinned b full kept) : full.any Frame.ofPoll = kept.any Frame.ofPoll := by
  induction thin with
  | nil => rfl
  | keep f rest ih => simp [ih]
  | drop late rest ih =>
    rename_i f
    have other : f.ofPoll = false := by
      cases f with
      | act a =>
        cases a with
        | reply r => cases r <;> simp_all [Frame.isLate, Action.reportsEnd, Action.ofPoll]
        | _ => simp_all [Frame.isLate, Action.reportsEnd, Action.ofPoll]
      | wait w => cases w <;> simp_all [Frame.isLate, Wait.ofPoll]
    simp [ih, other]

end Thinned

/-- What the surroundings answer, but for answers to being woken and to a close. -/
def Happening.heard? : Happening → Option (Wait × Answer)
  | .answered w a => if w.isBystander then none else some (w, a)
  | _ => none

namespace History

def begun (hs : List Happening) : List Op := hs.filterMap Happening.op?

def heard (hs : List Happening) : List (Wait × Answer) := hs.filterMap Happening.heard?

def told (hs : List Happening) : List Notice := hs.flatMap Happening.told

end History

/-- The same happens in two runs, but for the reports of the transport's end. -/
structure Alike (full kept : List Happening) : Prop where
  begun : begun kept = (begun full).filter (!·.isTransportEnd)
  heard : heard kept = heard full
  told : told kept = told full

theorem Alike.nil : Alike [] [] := ⟨rfl, rfl, rfl⟩

theorem Alike.append {hs gs js ks : List Happening} (first : Alike hs gs) (second : Alike js ks) :
    Alike (hs ++ js) (gs ++ ks) := by
  obtain ⟨begun, heard, told⟩ := first
  obtain ⟨begun', heard', told'⟩ := second
  constructor <;> simp_all [History.begun, History.heard, History.told]

theorem Alike.acted {s t : Session} {a : Action}
    (same : (Happening.acted s a).told = (Happening.acted t a).told) :
    Alike [.acted s a] [.acted t a] := ⟨rfl, rfl, by simp [History.told, same]⟩

theorem Alike.untold {s : Session} {a : Action} (nothing : (Happening.acted s a).told = []) :
    Alike [.acted s a] [] := ⟨rfl, rfl, by simp [History.told, nothing]⟩

theorem Alike.answered (w : Wait) (a : Answer) : Alike [.answered w a] [.answered w a] :=
  ⟨rfl, rfl, rfl⟩

theorem Alike.consent {w : Wait} (bystander : w.isBystander) (a : Answer) :
    Alike [] [.answered w a] :=
  ⟨rfl, by simp [History.heard, Happening.heard?, bystander], rfl⟩

/-- A machine, and the same without what late reports have done to it. -/
structure Erased (full kept : Machine) : Prop where
  session : ∃ closes wakes, full.session = kept.session.nudge closes wakes
  agenda : Thinned full.session.finalized full.agenda kept.agenda

section

variable {full kept n : Machine} {h : Happening}

theorem Erased.admits (ok : Erased full kept) {op : Op} (admitted : full.admits op) :
    kept.admits op := by
  obtain ⟨⟨closes, wakes, same⟩, thin⟩ := ok
  have writer : full.session.writer = kept.session.writer := by rw [same]; rfl
  have polling : full.isPolling = kept.isPolling := thin.isPolling
  cases op <;> simp_all [Machine.admits]

theorem Erased.start (ok : Erased full kept) {op : Op} (admitted : full.admits op)
    (begins : h.op? = some op) :
    ∃ gs k, Machine.Run kept gs k ∧ Erased (full.start op) k ∧ Alike [h] gs := by
  have unheard {g : Happening} (opens : g.op? = some op) : g.heard? = none ∧ g.told = [] := by
    cases g <;> simp_all [Happening.op?, Happening.heard?, Happening.told]
  cases ends : op.isTransportEnd with
  | true =>
    refine ⟨[], kept, .nil kept, ⟨ok.session, ok.agenda.drops (isLate_actions ends _)⟩, ?_⟩
    constructor <;> simp [begun, heard, told, begins, ends, unheard begins]
  | false =>
    obtain ⟨g, opens, step⟩ := Machine.step_of_admits (ok.admits admitted)
    refine ⟨[g], _, .snoc (.nil kept) step, ⟨ok.session, ok.agenda.keeps _⟩, ?_⟩
    constructor <;> simp [begun, heard, told, begins, opens, ends, unheard begins, unheard opens]

theorem Erased.perform {s : Session} {a : Action} {rest : Agenda} (past : s.IsOver)
    (ok : Erased ⟨s, .act a :: rest⟩ kept) :
    ∃ gs k, Machine.Run kept gs k ∧
      Erased ⟨(a.perform s).session, (a.perform s).next ++ rest⟩ k ∧ Alike [.acted s a] gs := by
  rcases kept with ⟨t, agenda⟩
  obtain ⟨⟨closes, wakes, same⟩, thin⟩ := ok
  obtain rfl : s = t.nudge closes wakes := same
  cases thin with
  | keep _ thin =>
    rename_i below
    obtain ⟨session, told_eq, next⟩ := parallel_perform t closes wakes a
    have thin := thin.mono (changes_perform _ a).finalized
    have first : Machine.Run ⟨t, .act a :: below⟩ [.acted t a] _ :=
      .snoc (.nil _) (.act t a below)
    rcases next with next | ⟨w, bystander, waits, next⟩
    · refine ⟨_, _, first, ⟨session, ?_⟩, ?_⟩
      · rw [next]
        exact thin.keeps _
      · exact .acted told_eq
    · rw [waits] at first
      refine ⟨_, _, first.snoc (.answered _ w below .done), ⟨session, ?_⟩, ?_⟩
      · rw [next]
        exact thin.keeps _
      · exact .append (.acted told_eq) (.consent bystander .done)
  | drop late thin =>
    have harmless := past.harmless late
    obtain ⟨closes', wakes', after⟩ := harmless.nudges
    refine ⟨[], _, .nil _, ⟨⟨_, _, by rw [after, nudge_nudge]⟩, ?_⟩, ?_⟩
    · have final : (a.perform (t.nudge closes wakes)).session.finalized = t.finalized := by
        rw [after]
        rfl
      dsimp only
      rw [final]
      exact thin.drops harmless.next
    · exact .untold harmless.untold

theorem Erased.hear {s : Session} {w : Wait} {rest : Agenda}
    (ok : Erased ⟨s, .wait w :: rest⟩ kept) (a : Answer) :
    ∃ gs k, Machine.Run kept gs k ∧ Erased ⟨s, (w.resume a).map .act ++ rest⟩ k ∧
      Alike [.answered w a] gs := by
  rcases kept with ⟨t, agenda⟩
  obtain ⟨session, thin⟩ := ok
  cases thin with
  | keep _ thin =>
    exact ⟨_, _, .snoc (.nil _) (.answered t w _ a), ⟨session, thin.keeps _⟩, .answered w a⟩
  | drop late thin =>
    cases w with
    | waking v => exact ⟨[], _, .nil _, ⟨session, thin⟩, ⟨rfl, rfl, rfl⟩⟩
    | _ => simp [Frame.isLate] at late

theorem Erased.step {m : Machine} (past : m.session.IsOver) (ok : Erased m kept)
    (step : Machine.Step m h n) :
    ∃ gs k, Machine.Run kept gs k ∧ Erased n k ∧ Alike [h] gs := by
  cases step using Machine.Step.kinds with
  | began m op control admitted => exact ok.start admitted rfl
  | intruded m op control admitted => exact ok.start admitted rfl
  | acted s a rest => exact ok.perform past
  | answered s w rest a => exact ok.hear a

theorem Erased.run {gs hs : List Happening} {m : Machine} (attachment : Attachment gs m)
    (past : m.session.IsOver) (run : Machine.Run m hs n) :
    ∃ js k, Machine.Run m js k ∧ Erased n k ∧ Alike hs js := by
  induction run with
  | nil => exact ⟨[], m, .nil m, ⟨⟨false, false, by simp⟩, .refl _ _⟩, .nil⟩
  | snoc run step ih =>
    obtain ⟨js, k, before, ok, alike⟩ := ih
    obtain ⟨ks, k', after, ok', alike'⟩ := ok.step (past.run attachment run) step
    exact ⟨js ++ ks, k', before.append after, ok', alike.append alike'⟩

end

/-- Once a transport callback has returned, a further one, begun at any later moment, comes back with
no call but wakes, having at most closed the session and used up the send's waker; each of its actions
does no more wherever other operations come between; and what follows could have happened just so
without any of them. -/
theorem first_transport_end_wins {s t : Session} {m n k : Machine} {hs w v : List Happening}
    {h : Happening} {op : Op} (new : s.IsNew) (before : Machine.Run ⟨s, []⟩ hs m)
    (call : Machine.Step m h n) (begins : h.op? = some op) (ends : op.isTransportEnd)
    (during : Machine.Run n w ⟨t, m.agenda⟩) (after : Machine.Run ⟨t, m.agenda⟩ v k) :
    (∀ late : Op, late.isTransportEnd → ∃ gs closes wakes,
      Machine.Run (k.start late) gs ⟨k.session.nudge closes wakes, k.agenda⟩ ∧
      ∀ g ∈ gs, g.op? = none ∧ g.told = [] ∧ ∀ c, g.call? = some c → ∃ x, c = .wake x) ∧
    (∀ u a, .acted u a ∈ v → (Frame.act a).isLate u.finalized → Harmless u a ∧
      ∀ c, (Happening.acted u a).call? = some c → ∃ x, c = .wake x) ∧
    ∃ js kept, Machine.Run ⟨t, m.agenda⟩ js kept ∧ Alike v js ∧ Erased k kept := by
  obtain rfl := step_start call begins
  have attachment := (Attachment.run new before).step call
  have past := over_on_return attachment ends during
  have attachment := attachment.after during
  refine ⟨fun late isEnd => ?_, fun u a acted late => ?_, ?_⟩
  · have here : k.session.IsOver := past.run attachment after
    exact late_returns here _ k.agenda (isLate_actions isEnd _)
  · obtain ⟨pre, post, rest, -, earlier⟩ := after.before_action acted
    have harmless := (past.run attachment earlier).harmless late
    exact ⟨harmless, fun c => harmless.call⟩
  · obtain ⟨js, kept, run, erased, alike⟩ := Erased.run attachment past after
    exact ⟨js, kept, run, alike, erased⟩

/-- A failure is reported with nothing attached, then a close, then the consumer looks: it hears of
the failure, as it does if the close is never reported. -/
theorem first_transport_end_wins_unattended :
    let s := Session.sample true {}
    let op := Op.transportError .writeRejected
    let d := (Machine.start ⟨s, []⟩ op).play [.perform, .perform, .perform, .perform, .perform,
      .perform, .perform, .perform, .perform, .answer .done, .perform]
    let l := Machine.play ⟨d.2.session, []⟩ [.start (.transportClose .normal), .perform, .perform,
      .perform, .perform, .perform, .perform, .perform, .start (.pull .once), .perform, .perform]
    s.IsNew ∧ d.2.agenda = [] ∧ begun l.1 = [.transportClose .normal, .pull .once] ∧
      ∃ js kept, Machine.Run ⟨d.2.session, []⟩ js kept ∧ begun js = [.pull .once] ∧
        told js = [.returned (.pulled (.failed .writeRejected))] := by
  intro s op d l
  have new : s.IsNew := Session.isNew_sample true rfl
  have call : Machine.Step ⟨s, []⟩ (.began op) (Machine.start ⟨s, []⟩ op) := .began rfl rfl
  have during : Machine.Run (Machine.start ⟨s, []⟩ op) d.1 ⟨d.2.session, []⟩ :=
    Machine.run_play_to (by decide +kernel)
  have after : Machine.Run ⟨d.2.session, []⟩ l.1 l.2 := Machine.run_play _ _
  obtain ⟨-, -, js, kept, run, alike, -⟩ :=
    first_transport_end_wins new (.nil _) call rfl rfl during after
  have both : begun l.1 = [.transportClose .normal, .pull .once] := by decide +kernel
  refine ⟨new, by decide +kernel, both, js, kept, run, ?_, ?_⟩
  · rw [alike.begun, both]
    rfl
  · rw [alike.told]
    decide +kernel

end Duplex

import Duplex.Proofs.Inbound.Turn
import Duplex.Proofs.Outbound.Cancellation

/-!
Reports of the transport's end that come late. Once one of them has returned, the session has taken
in all that it will take in of the transport's end; a later report closes the session at most, and
wakes whoever waits for the send.
-/

namespace Duplex

open History

structure Session.IsOver (s : Session) : Prop where
  halted : s.IsHalted
  ended : s.inbound.isLive = false
  answered : s.hasOutboundTask ∨ s.finalized

/-- All that a late report can do to a session: to close it, and to use up the send's waker. -/
def Session.nudge (s : Session) (closes wakes : Bool) : Session :=
  { s with
    closed := s.closed || closes
    control := if wakes then s.control.map ({ · with waker := none }) else s.control }

def Action.reportsEnd : Action → Bool
  | .log _ | .failInbound _ | .markClosed | .completeInbound | .record _ | .cancel | .terminate _
  | .finalizeUnattended _ | .reply .unit => true
  | _ => false

/-- The frames of a report that comes late. -/
def Frame.isLate (finalized : Bool) : Frame → Bool
  | .act (.finalize _) => finalized
  | .act a => a.reportsEnd
  | .wait (.waking _) => true
  | .wait _ => false

def Notice.tells : Notice → Bool
  | .completed _ | .returned (.pulled _) | .returned (.polled _) => true
  | _ => false

def Happening.told : Happening → List Notice
  | .acted s a => (a.perform s).notices.filter Notice.tells
  | _ => []

section

variable {s : Session}

theorem failInbound_stops (e : Fault) (s : Session) :
    ((Action.failInbound e).perform s).session.inbound.isLive = false := by
  cases live : s.inbound.isLive with
  | false => rw [Action.perform, Session.failInbound_of_ended e live, live]
  | true =>
    rw [Action.perform, Session.failInbound_of_live e live]
    rfl

theorem completeInbound_stops (s : Session) :
    (Action.completeInbound.perform s).session.inbound.isLive = false := by
  cases live : s.inbound.isLive <;> simp [Action.perform, live]

variable {gs hs : List Happening} {m n : Machine}

theorem answered_run (run : Machine.Run m hs n)
    (answered : m.session.hasOutboundTask ∨ m.session.finalized) :
    n.session.hasOutboundTask ∨ n.session.finalized :=
  run.keeps (p := fun s => s.hasOutboundTask ∨ s.finalized)
    (fun s a => .imp (changes_perform s a).hasOutboundTask (changes_perform s a).finalized) answered

theorem Session.IsOver.run (attachment : Attachment gs m) (past : m.session.IsOver)
    (run : Machine.Run m hs n) : n.session.IsOver :=
  ⟨(halted_run attachment past.halted run).1, ended_run run past.ended,
    answered_run run past.answered⟩

theorem answered_after_unattended {u t : Session} {o : Outcome} {rest agenda : Agenda}
    (run : Machine.Run ⟨((Action.finalizeUnattended o).perform u).session,
      ((Action.finalizeUnattended o).perform u).next ++ rest⟩ hs ⟨t, agenda⟩)
    (short : agenda.length ≤ rest.length) : t.hasOutboundTask ∨ t.finalized := by
  cases tasked : u.hasOutboundTask with
  | true => exact answered_run run (.inl tasked)
  | false =>
    simp only [Action.perform, tasked, Bool.false_eq_true, if_false, List.singleton_append] at run
    obtain ⟨pre, v, post, rfl, -, after⟩ := run.performs [] rfl (Machine.gone_of_length short)
    refine answered_run after (.inr ?_)
    cases final : v.finalized <;> simp [Action.perform, final]

theorem over_on_return {op : Op} {t : Session} (attachment : Attachment gs (m.start op))
    (ends : op.isTransportEnd) (during : Machine.Run (m.start op) hs ⟨t, m.agenda⟩) :
    t.IsOver := by
  have halted := halted_on_return attachment ends during
  obtain ⟨above, a, o, actions, stops⟩ : ∃ above a o,
      op.actions = above ++ [a, .record o, .reply .unit] ∧
        ∀ u, (Action.perform u a).session.inbound.isLive = false := by
    cases op with
    | transportError e => exact ⟨[_], .failInbound e, .failure e, rfl, failInbound_stops e⟩
    | transportClose status => exact ⟨[_, _], .completeInbound, .success, rfl, completeInbound_stops⟩
    | _ => simp [Op.isTransportEnd] at ends
  have here : (m.start op).agenda = above.map .act ++
      .act a :: .act (.record o) :: .act (.reply .unit) :: m.agenda := by
    simp [Machine.start, actions]
  obtain ⟨pre, u, post, rfl, before, after⟩ :=
    during.performs _ here (Machine.gone_of_length (by simp; omega))
  have ended : t.inbound.isLive = false := ended_run after (stops u)
  have attachment := (attachment.after before).step (.act u a _)
  obtain ⟨pre, v, post, rfl, before, after⟩ :=
    after.performs _ rfl (Machine.gone_of_length (by simp))
  have attachment := attachment.after before
  refine ⟨halted, ended, ?_⟩
  cases attached : v.control with
  | some c =>
    have started := attachment.begun (by simp [attached])
    have tasked : v.hasOutboundTask := by simp [Session.hasOutboundTask, started]
    exact answered_run after (.inl ((changes_perform _ _).hasOutboundTask tasked))
  | none =>
    have next : ((Action.record o).perform v).next = [.act (.finalizeUnattended o)] := by
      simp [Action.perform, attached]
    rw [next] at after
    obtain ⟨pre, x, post, rfl, -, after⟩ :=
      after.performs [] rfl (Machine.gone_of_length (by simp))
    exact answered_after_unattended after (by simp)

end

def Frame.delay : Frame → Nat
  | .act (.record _) => 5
  | .act .cancel | .act (.terminate _) | .act (.finalizeUnattended _) => 2
  | _ => 1

theorem Frame.delay_pos (f : Frame) : 0 < f.delay := by
  unfold Frame.delay
  split <;> omega

def delay : Agenda → Nat
  | [] => 0
  | f :: rest => f.delay + delay rest

theorem delay_append (as bs : Agenda) : delay (as ++ bs) = delay as + delay bs := by
  induction as with
  | nil => simp [delay]
  | cons f as ih => simp [delay, ih, Nat.add_assoc]

section

variable {s : Session}

@[simp] theorem nudge_idle (s : Session) : s.nudge false false = s := by
  simp [Session.nudge]

theorem nudge_nudge (s : Session) (b c d e : Bool) :
    (s.nudge b c).nudge d e = s.nudge (b || d) (c || e) := by
  cases control : s.control <;> cases c <;> cases e <;>
    simp [Session.nudge, control, Bool.or_assoc]

theorem Session.IsOver.nudge (past : s.IsOver) (closes wakes : Bool) :
    (s.nudge closes wakes).IsOver := by
  obtain ⟨⟨reported, told⟩, ended, answered⟩ := past
  refine ⟨⟨reported, fun attached => ?_⟩, ended, answered⟩
  cases wakes <;> cases control : s.control <;>
    simp_all [Session.nudge, Session.isCancelled, Session.outcome?]

/-- What an action of a late report is to the session. -/
structure Harmless (s : Session) (a : Action) : Prop where
  nudges : ∃ closes wakes, (a.perform s).session = s.nudge closes wakes
  next : ∀ f ∈ (a.perform s).next, f.isLate s.finalized
  shorter : delay (a.perform s).next < (Frame.act a).delay
  untold : (Happening.acted s a).told = []

theorem isLate_wakeFrames (b : Bool) (w : Option Waker) : ∀ f ∈ wakeFrames w, f.isLate b := by
  cases w <;> simp [wakeFrames, Frame.isLate]

theorem delay_wakeFrames (w : Option Waker) : delay (wakeFrames w) < 2 := by
  cases w <;> simp [wakeFrames, delay, Frame.delay]

theorem Session.IsOver.harmless {a : Action} (past : s.IsOver)
    (late : (Frame.act a).isLate s.finalized) : Harmless s a := by
  have quiet {e : Effect} (after : a.perform s = e) (same : e.session = s) (last : e.next = [])
      (untold : ∀ x ∈ e.notices, x.tells = false) : Harmless s a := by
    subst after
    exact ⟨⟨false, false, by rw [same, nudge_idle]⟩, by simp [last],
      by simpa [last, delay] using Frame.delay_pos _, by simpa [Happening.told] using untold⟩
  cases a with
  | log e => exact quiet rfl rfl rfl (by simp [Action.perform, Notice.tells])
  | reply r =>
    cases r with
    | unit => exact quiet rfl rfl rfl (by simp [Action.perform, Notice.tells])
    | _ => simp [Frame.isLate, Action.reportsEnd] at late
  | failInbound e =>
    exact quiet (Session.failInbound_of_ended e past.ended) rfl rfl (by simp [Notice.tells])
  | completeInbound =>
    exact quiet (if_neg (by simp [past.ended])) rfl rfl (by simp)
  | markClosed =>
    exact ⟨⟨true, false, by simp [Action.perform, Session.nudge]⟩, by simp [Action.perform],
      by simp [Action.perform, delay, Frame.delay], rfl⟩
  | record o =>
    obtain ⟨p, recorded⟩ := Option.isSome_iff_exists.mp past.halted.reported
    have same : ((Action.record o).perform s).session = s := by
      simp only [Action.perform]
      rw [recorded, Option.some_or, ← recorded]
    refine ⟨⟨false, false, by rw [same, nudge_idle]⟩, ?_, ?_, rfl⟩ <;>
      cases attached : s.control <;>
      simp [Action.perform, attached, Frame.isLate, Action.reportsEnd, delay, Frame.delay]
  | cancel =>
    cases attached : s.control with
    | none =>
      have after : Action.cancel.perform s = { session := s } := by simp [Action.perform, attached]
      exact quiet after rfl rfl (by simp)
    | some c =>
      have cancelled : c.cancelled = true := by
        simpa [Session.isCancelled, attached] using (past.halted.told (by simp [attached])).1
      refine ⟨⟨false, true, ?_⟩, ?_, ?_, ?_⟩
      · simp [Action.perform, attached, Session.nudge, cancelled]
      · simpa [Action.perform, attached] using isLate_wakeFrames s.finalized c.waker
      · simpa [Action.perform, attached, Frame.delay] using delay_wakeFrames c.waker
      · simp [Happening.told, Action.perform, attached, cancelled]
  | terminate o =>
    cases attached : s.control with
    | none =>
      have after : (Action.terminate o).perform s = { session := s } := by
        simp [Action.perform, attached]
      exact quiet after rfl rfl (by simp)
    | some c =>
      have decided : c.outcome.isSome := by
        simpa [Session.outcome?, attached] using (past.halted.told (by simp [attached])).2
      have after : (Action.terminate o).perform s =
          { session := s, notices := [.logged .terminalAlreadyRecorded] } := by
        simp [Action.perform, attached, decided]
      exact quiet after rfl rfl (by simp [Notice.tells])
  | finalizeUnattended o =>
    refine ⟨⟨false, false, by simp [Action.perform]⟩, ?_, ?_, rfl⟩ <;>
      cases tasked : s.hasOutboundTask
    · have final : s.finalized := past.answered.resolve_left (by simp [tasked])
      simp [Action.perform, tasked, Frame.isLate, final]
    all_goals simp [Action.perform, tasked, delay, Frame.delay]
  | finalize o =>
    have final : s.finalized := late
    exact quiet (if_pos final) rfl rfl (by simp [Notice.tells])
  | _ => simp [Frame.isLate, Action.reportsEnd] at late

theorem isLate_actions {op : Op} (ends : op.isTransportEnd) (b : Bool) :
    ∀ f ∈ op.actions.map Frame.act, f.isLate b := by
  cases op <;> simp_all [Op.isTransportEnd, Op.actions, Frame.isLate, Action.reportsEnd]

theorem Harmless.call {a : Action} {c : Call} (harmless : Harmless s a)
    (call : (Happening.acted s a).call? = some c) : ∃ w, c = .wake w := by
  have late := harmless.next
  change (a.perform s).call? = some c at call
  unfold Effect.call? at call
  split at call
  · rename_i w rest next
    have late := late (.wait w) (by simp [next])
    cases w with
    | waking v => exact ⟨v, by simpa [Wait.call] using call.symm⟩
    | _ => simp [Frame.isLate] at late
  · simp at call

theorem late_returns (past : s.IsOver) (frames rest : Agenda)
    (late : ∀ f ∈ frames, f.isLate s.finalized) :
    ∃ hs closes wakes, Machine.Run ⟨s, frames ++ rest⟩ hs ⟨s.nudge closes wakes, rest⟩ ∧
      ∀ h ∈ hs, h.op? = none ∧ h.told = [] ∧ ∀ c, h.call? = some c → ∃ w, c = .wake w := by
  induction left : delay frames using Nat.strongRecOn generalizing s frames with
  | _ total ih =>
  cases frames with
  | nil => exact ⟨[], false, false, by simpa using Machine.Run.nil _, by simp⟩
  | cons f frames =>
    obtain ⟨first, others⟩ := List.forall_mem_cons.mp late
    cases f with
    | act a =>
      have harmless := past.harmless first
      obtain ⟨closes, wakes, same⟩ := harmless.nudges
      have shorter : delay ((a.perform s).next ++ frames) < delay (.act a :: frames) := by
        have fewer := harmless.shorter
        simp only [delay, delay_append]
        omega
      obtain ⟨hs, closes', wakes', run, quiet⟩ := ih _ (left ▸ shorter) (past.nudge closes wakes) _
        (List.forall_mem_append.mpr ⟨harmless.next, others⟩) rfl
      rw [nudge_nudge, ← same, List.append_assoc] at run
      exact ⟨.acted s a :: hs, _, _, run.cons (.act s a (frames ++ rest)),
        List.forall_mem_cons.mpr ⟨⟨rfl, harmless.untold, fun c => harmless.call⟩, quiet⟩⟩
    | wait w =>
      cases w with
      | waking v =>
        have shorter : delay frames < delay (.wait (.waking v) :: frames) := by
          simp [delay, Frame.delay]
        obtain ⟨hs, closes, wakes, run, quiet⟩ := ih _ (left ▸ shorter) past _ others rfl
        exact ⟨.answered (.waking v) .done :: hs, closes, wakes,
          run.cons (.answered s (.waking v) (frames ++ rest) .done),
          List.forall_mem_cons.mpr ⟨⟨rfl, rfl, by simp [Happening.call?]⟩, quiet⟩⟩
      | _ => simp [Frame.isLate] at first

end

end Duplex

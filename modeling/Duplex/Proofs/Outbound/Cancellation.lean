import Duplex.Proofs.Outbound.Failure
import Duplex.Proofs.Session.Nesting

/-!
Writes after the transport has reported its end. From then on every look at the outcome ends the
send, so only a poll that had already looked can write, and that once. Such a poll is in the middle
of its source's own code when the report comes, or another thread brought the report.
-/

namespace Duplex

open History

/-- The stages of a poll between its look at the outcome and its next write. -/
def Frame.heedless : Frame → Bool
  | .act .request | .wait (.pulling _) | .act (.hold _) | .act .drain | .act .gate
  | .act .watchReadiness | .act .recheck | .act .emit => true
  | _ => false

def heedless (agenda : Agenda) : Nat := agenda.countP Frame.heedless

@[simp] theorem heedless_nil : heedless [] = 0 := rfl

@[simp] theorem heedless_cons (f : Frame) (rest : Agenda) :
    heedless (f :: rest) = heedless rest + if f.heedless then 1 else 0 := List.countP_cons

@[simp] theorem heedless_append (a b : Agenda) : heedless (a ++ b) = heedless a + heedless b :=
  List.countP_append

theorem heedless_eq_zero_iff (agenda : Agenda) :
    heedless agenda = 0 ↔ ∀ f ∈ agenda, f.heedless = false := by
  simp [heedless, List.countP_eq_zero]

theorem ofPoll_of_heedless {f : Frame} (heedless : f.heedless) : f.ofPoll := by
  unfold Frame.heedless at heedless
  split at heedless <;> first | rfl | simp at heedless

theorem heedless_le_polls (agenda : Agenda) : heedless agenda ≤ (polls agenda).length := by
  rw [polls, ← List.countP_eq_length_filter]
  exact List.countP_mono_left fun f _ => ofPoll_of_heedless

theorem heedless_actions (op : Op) : heedless (op.actions.map .act) = 0 := by
  cases op <;> rfl

theorem heedless_resume (w : Wait) (a : Answer) :
    heedless ((w.resume a).map .act) ≤ if (Frame.wait w).heedless then 1 else 0 := by
  unfold Wait.resume
  split <;> simp [Frame.heedless]

def Session.isCancelled (s : Session) : Bool := s.control.any Control.cancelled

theorem cancelled_control (s : Session) : (s.control.getD {}).cancelled = s.isCancelled := by
  cases attached : s.control <;> simp [Session.isCancelled, attached]

/-- The transport's end is recorded, and the writer, if there is one, was told. -/
structure Session.IsHalted (s : Session) : Prop where
  reported : s.transportOutcome.isSome
  told : s.control.isSome → s.isCancelled ∧ s.outcome?.isSome

theorem Changes.isCancelled {s t : Session} {a : Action} (change : Changes s a t)
    (opens : a ≠ .openWriter) (cancelled : s.isCancelled) : t.isCancelled := by
  cases change with
  | opens => exact absurd rfl opens
  | registers | finishes => exact (cancelled_control s).trans cancelled
  | cancels => rfl
  | terminates o here => simpa [Session.isCancelled, here] using cancelled
  | _ => exact cancelled

theorem cancel_cancels {s : Session} (attached : s.control.isSome) :
    (Action.cancel.perform s).session.isCancelled := by
  obtain ⟨c, here⟩ := Option.isSome_iff_exists.mp attached
  simp [Action.perform, here, Session.isCancelled]

section

variable {gs hs : List Happening} {m n : Machine}

theorem reported_run (run : Machine.Run m hs n) (reported : m.session.transportOutcome.isSome) :
    n.session.transportOutcome.isSome :=
  run.keeps (p := fun s => s.transportOutcome.isSome)
    (fun s a => (changes_perform s a).transportOutcome_isSome) reported

theorem cancelled_run (attachment : Attachment gs m) (run : Machine.Run m hs n)
    (cancelled : m.session.isCancelled) : n.session.isCancelled := by
  induction run with
  | nil => exact cancelled
  | snoc run step ih =>
    have attachment := attachment.after run
    cases step using Machine.Step.kinds with
    | began | intruded | answered => exact ih
    | acted s a rest =>
      refine (changes_perform s a).isCancelled ?_ ih
      intro opens
      subst opens
      have unattached : s.control = none := attachment.opens.1
      simp [Session.isCancelled, unattached] at ih

theorem Session.IsHalted.perform {s : Session} {a : Action} {rest : Agenda}
    (attachment : Attachment gs ⟨s, .act a :: rest⟩) (halted : s.IsHalted) :
    (a.perform s).session.IsHalted := by
  refine ⟨(changes_perform s a).transportOutcome_isSome halted.reported, fun attached => ?_⟩
  by_cases opens : a = .openWriter
  · subst opens
    simp [Action.perform, Session.openWriter, Session.isCancelled, Session.outcome?,
      halted.reported]
  have before : s.control.isSome := attachment.perform_attached opens ▸ attached
  obtain ⟨cancelled, decided⟩ := halted.told before
  obtain ⟨o, decided⟩ := Option.isSome_iff_exists.mp decided
  exact ⟨(changes_perform s a).isCancelled opens cancelled,
    by simp [(changes_perform s a).outcome_eq_some opens decided]⟩

theorem heedless_perform {s : Session} {a : Action} (halted : s.IsHalted)
    (attached : a.ofPoll → s.control.isSome) :
    (Happening.acted s a).written?.toList.length + heedless (a.perform s).next ≤
      if (Frame.act a).heedless then 1 else 0 := by
  cases own : a.ofPoll with
  | true =>
    obtain ⟨cancelled, decided⟩ := halted.told (attached own)
    have step := pollStep_perform s own
    rw [written?_acted]
    generalize (a.perform s).session = t, (a.perform s).next = next at step ⊢
    cases step with
    | undecided undecided => simp [← outcome_control, undecided] at decided
    | goesOn uncancelled => simp [cancelled_control, cancelled] at uncancelled
    | passes looks => rcases looks with rfl | rfl <;> simp [writing?, Frame.heedless]
    | _ => simp [writing?, Frame.heedless]
  | false =>
    have silent := (Happening.IsSilent.of_other (h := .acted s a) own).written
    have idle : heedless (a.perform s).next = 0 := by
      have few := heedless_le_polls (a.perform s).next
      rw [polls_next_other s own] at few
      simpa using few
    simp [silent, idle]

theorem halted_run (attachment : Attachment gs m) (halted : m.session.IsHalted)
    (run : Machine.Run m hs n) :
    n.session.IsHalted ∧ (written hs).length + heedless n.agenda ≤ heedless m.agenda := by
  induction run with
  | nil => exact ⟨halted, by simp [written]⟩
  | snoc run step ih =>
    obtain ⟨halted, few⟩ := ih
    have attachment := attachment.after run
    rw [written_snoc, List.length_append]
    cases step using Machine.Step.kinds with
    | began _ op | intruded _ op =>
      refine ⟨halted, ?_⟩
      rw [Machine.start, heedless_append, heedless_actions, Nat.zero_add]
      exact few
    | acted s a rest =>
      refine ⟨halted.perform attachment, ?_⟩
      have moved : _ + heedless (a.perform s).next ≤ _ :=
        heedless_perform halted attachment.attached
      rw [heedless_cons] at few
      rw [heedless_append]
      omega
    | answered s w rest a =>
      refine ⟨halted, ?_⟩
      have moved := heedless_resume w a
      have unwritten : (Happening.written? (.answered w a)).toList.length = 0 := rfl
      rw [heedless_cons] at few
      rw [heedless_append]
      omega

theorem halted_idle (attachment : Attachment gs m) (halted : m.session.IsHalted)
    (run : Machine.Run m hs n) (heeds : heedless m.agenda = 0) :
    written hs = [] ∧ ∀ h ∈ hs, h.pulls = false := by
  refine ⟨?_, fun h mem => ?_⟩
  · have few := (halted_run attachment halted run).2
    exact List.eq_nil_of_length_eq_zero (by omega)
  · by_contra pulls
    obtain ⟨s, w, rfl, -⟩ := pulls_cases (by simpa using pulls)
    obtain ⟨pre, post, rest, rfl, before⟩ := run.before_action mem
    have few := (halted_run attachment halted before).2
    simp [Frame.heedless] at few
    omega

theorem halted_on_return {op : Op} {t : Session} (attachment : Attachment gs (m.start op))
    (ends : op.isTransportEnd) (during : Machine.Run (m.start op) hs ⟨t, m.agenda⟩) :
    t.IsHalted := by
  obtain ⟨above, o, actions⟩ : ∃ above o, op.actions = above ++ [.record o, .reply .unit] := by
    cases op with
    | transportError e => exact ⟨[_, _], _, rfl⟩
    | transportClose status => exact ⟨[_, _, _], _, rfl⟩
    | _ => simp [Op.isTransportEnd] at ends
  have gone (below : Agenda) (deep : m.agenda.length ≤ below.length) (a : Action)
      (upper : Agenda) : m.agenda ≠ upper ++ .act a :: below :=
    Machine.gone_of_length deep upper
  have here : (m.start op).agenda =
      above.map .act ++ .act (.record o) :: .act (.reply .unit) :: m.agenda := by
    simp [Machine.start, actions]
  obtain ⟨pre, u, post, rfl, before, after⟩ := during.performs _ here (gone _ (by simp) _)
  have at_record := attachment.after before
  have attachment := at_record.step (.act u _ _)
  have reported : ((Action.record o).perform u).session.transportOutcome.isSome := by
    simp [Action.perform]
  cases attached : u.control with
  | none =>
    -- There is no writer to tell. One that is attached later learns of the end at once.
    have halted : ((Action.record o).perform u).session.IsHalted := by
      refine ⟨reported, ?_⟩
      simp [Action.perform, attached]
    exact (halted_run attachment halted after).1
  | some c =>
    refine ⟨reported_run after reported, fun _ => ?_⟩
    have attached : ((Action.record o).perform u).session.control.isSome := by
      simp [Action.perform, attached]
    have next : ((Action.record o).perform u).next = [.act .cancel, .act (.terminate o)] := by
      simp [Action.perform, show u.control.isSome from attached]
    rw [next] at attachment after
    -- The writer is cancelled and told in two actions, and what comes between undoes neither.
    obtain ⟨pre, v, post, rfl, before, after⟩ :=
      after.performs [] rfl (gone _ (by simp; omega) _)
    have attached := attached_run before attached
    have attachment := (attachment.after before).step (.act v _ _)
    have cancelled := cancel_cancels attached
    have attached := (changes_perform _ .cancel).control_isSome attached
    obtain ⟨pre, x, post, rfl, before, after⟩ := after.performs _ rfl (gone _ (by simp) _)
    have cancelled := cancelled_run attachment before cancelled
    have attachment := (attachment.after before).step (.act x _ _)
    obtain ⟨p, decided⟩ := Option.isSome_iff_exists.mp
      (terminate_decides o (attached_run before attached))
    have stays := outcome_run attachment after decided
    have still := (changes_perform x (.terminate o)).isCancelled (by simp) cancelled
    exact ⟨cancelled_run attachment after still, by simp [stays]⟩

end

theorem heedless_of_lags {agenda : Agenda} (lagging : ∀ f ∈ agenda, Machine.lags f)
    (unasked : ∀ x, .wait (.pulling x) ∉ agenda) : ∀ f ∈ agenda, f.heedless = false := by
  intro f mem
  have lags := lagging f mem
  cases f with
  | act a => cases a <;> first | rfl | simp [Machine.lags] at lags
  | wait w =>
    cases w with
    | pulling x => exact absurd mem (unasked x)
    | _ => rfl

theorem lags_of_isYielding {m : Machine} (control : m.isYielding)
    (below : ∀ f ∈ m.agenda.tail, Machine.lags f) : ∀ f ∈ m.agenda, Machine.lags f := by
  rcases m with ⟨s, _ | ⟨f, rest⟩⟩
  · simp
  · cases f with
    | act a => simp [Machine.isYielding, Machine.isIdle, Machine.call?] at control
    | wait w => exact List.forall_mem_cons.mpr ⟨rfl, below⟩

theorem yields_of_begins {m n : Machine} {h : Happening} {op : Op} (call : Machine.Step m h n)
    (begins : h.op? = some op) (alone : ∀ p, h ≠ .intruded p) : m.isYielding := by
  cases call with
  | began control => exact control
  | intruded => exact absurd rfl (alone _)
  | acted | answered => simp [Happening.op?] at begins

theorem polls_eq_of_mem {agenda : Agenda} {f : Frame} (single : (polls agenda).length ≤ 1)
    (own : f.ofPoll) (mem : f ∈ agenda) : polls agenda = [f] := by
  have due : f ∈ polls agenda := List.mem_filter.mpr ⟨mem, own⟩
  obtain ⟨g, only⟩ :=
    List.length_eq_one_iff.mp (Nat.le_antisymm single (List.length_pos_of_mem due))
  obtain rfl : f = g := by simpa [only] using due
  exact only

/-- Once a transport callback has returned, one more write can begin at most, and none if no poll of
the send was past its look at the outcome when the callback was made. Without other threads, only a
poll that is asking its source can be, and it writes what the source yields to it. -/
theorem writes_after_transport_end {s t : Session} {m n k : Machine} {hs w v : List Happening}
    {h : Happening} {op : Op} (new : s.IsNew) (before : Machine.Run ⟨s, []⟩ hs m)
    (call : Machine.Step m h n) (begins : h.op? = some op) (ends : op.isTransportEnd)
    (during : Machine.Run n w ⟨t, m.agenda⟩) (after : Machine.Run ⟨t, m.agenda⟩ v k) :
    (written v).length ≤ 1 ∧
    ((∀ f ∈ m.agenda, f.heedless = false) → written v = []) ∧
    (∀ x, .wait (.pulling x) ∈ m.agenda → written v <+: yielded v) ∧
    ((∀ p, .intruded p ∉ hs ++ [h]) → (∀ x, .wait (.pulling x) ∉ m.agenda) →
      written v = []) := by
  obtain rfl := step_start call begins
  have attachment := (Attachment.run new before).step call
  have returned : Machine.Run ⟨s, []⟩ (hs ++ h :: w) ⟨t, m.agenda⟩ :=
    before.append (during.cons call)
  have halted := halted_on_return attachment ends during
  have few := (halted_run (attachment.after during) halted after).2
  have single : (polls m.agenda).length ≤ 1 := single_run before
  have unheeding : (∀ f ∈ m.agenda, f.heedless = false) → written v = [] := by
    intro heeds
    rw [(heedless_eq_zero_iff m.agenda).mpr heeds] at few
    exact List.eq_nil_of_length_eq_zero (by omega)
  refine ⟨?_, unheeding, ?_, ?_⟩
  · have bound := heedless_le_polls m.agenda
    dsimp at few
    omega
  · intro x asking
    have stage := polls_eq_of_mem single rfl asking
    have ok := Ordered.run new returned
    rw [show polls (Machine.agenda ⟨t, m.agenda⟩) = _ from stage] at ok
    have even : yielded (hs ++ h :: w) = written (hs ++ h :: w) := by
      simpa [ledger] using ok.held [] rfl
    have order : written (hs ++ h :: w ++ v) <+: yielded (hs ++ h :: w ++ v) :=
      (Ordered.run new (returned.append after)).order
    rw [written_append, yielded_append, even] at order
    exact (List.prefix_append_right_inj _).mp order
  · intro alone unasked
    have below := Machine.lags_run before fun p mem => alone p (by simp [mem])
    have control := yields_of_begins call begins fun p same => alone p (by simp [same])
    exact unheeding (heedless_of_lags (lags_of_isYielding control below) unasked)

def holding (x : Message) : List Machine.Cue :=
  [.start (.setReady false), .perform, .perform, .start .send, .perform, .perform, .perform,
    .start (.poll 7), .perform, .perform, .perform, .perform, .answer (.item x), .perform, .perform,
    .perform, .perform, .perform]

def repulling (x : Message) : List Machine.Cue :=
  [.start (.message x), .perform, .answer .done, .perform, .perform, .start .send, .perform,
    .perform, .perform, .start (.poll 7), .perform, .perform, .perform, .perform,
    .start (.pull (.waiting 7)), .perform]

def hearing : List Machine.Cue :=
  [.perform, .perform, .perform, .perform, .perform, .answer .done, .perform, .perform]

theorem writes_after_transport_end_held :
    let a := Message.binary [1]
    let s := Session.sample true {}
    let op := Op.transportClose .normal
    let r := Machine.play ⟨s, []⟩ (holding a)
    let d := (r.2.start op).play hearing
    let l := Machine.play ⟨d.2.session, r.2.agenda⟩ [.start (.setReady true), .perform, .perform,
      .answer .done, .perform, .start (.poll 7), .perform, .perform, .perform, .perform, .perform,
      .perform, .perform, .perform, .perform]
    s.IsNew ∧ yielded r.1 = [a] ∧ written r.1 = [] ∧
      l.1.filterMap Happening.resolution? = [.success] ∧ written l.1 = [] := by
  intro a s op r d l
  have new : s.IsNew := Session.isNew_sample true rfl
  have before : Machine.Run ⟨s, []⟩ r.1 r.2 := Machine.run_play _ _
  have call : Machine.Step r.2 (.began op) (r.2.start op) := .began (by decide +kernel) rfl
  have during : Machine.Run (r.2.start op) d.1 ⟨d.2.session, r.2.agenda⟩ :=
    Machine.run_play_to (by decide +kernel)
  have after : Machine.Run ⟨d.2.session, r.2.agenda⟩ l.1 l.2 := Machine.run_play _ _
  obtain ⟨-, unheeding, -, -⟩ := writes_after_transport_end new before call rfl rfl during after
  exact ⟨new, by decide +kernel, by decide +kernel, by decide +kernel, unheeding (by decide +kernel)⟩

/-- The transport reports its close while the source pulls from the session; what the source then
yields is written. -/
theorem writes_after_transport_end_pulling :
    ¬ ∀ (s t : Session) (m n k : Machine) (hs w v : List Happening) (h : Happening) (op : Op),
      s.IsNew → Machine.Run ⟨s, []⟩ hs m → Machine.Step m h n → h.op? = some op →
      op.isTransportEnd → Machine.Run n w ⟨t, m.agenda⟩ → Machine.Run ⟨t, m.agenda⟩ v k →
      written v = [] := by
  intro always
  let a := Message.binary [1]
  let s := Session.sample true {}
  let op := Op.transportClose .normal
  let r := Machine.play ⟨s, []⟩ (repulling a)
  let d := (r.2.start op).play hearing
  let l := Machine.play ⟨d.2.session, r.2.agenda⟩
    [.answer .done, .perform, .answer (.item a), .perform, .perform, .perform]
  have during : Machine.Run (r.2.start op) d.1 ⟨d.2.session, r.2.agenda⟩ :=
    Machine.run_play_to (by decide +kernel)
  have unwritten := always s d.2.session r.2 _ _ r.1 d.1 l.1 (.began op) op
    (Session.isNew_sample true rfl) (Machine.run_play _ _) (.began (by decide +kernel) rfl) rfl rfl
    during (Machine.run_play _ _)
  have writes : written l.1 = [a] := by decide +kernel
  simp [writes] at unwritten

end Duplex

import Duplex.Proofs.Outbound.Verdict

/-!
A transport error while a source is attached. By the time the callback returns, an outcome stands
for the send, and nothing that happens later changes it. It is the transport's error unless a poll
of the send came to its own end first: the callback fails the inbound sequence, and wakes whoever
reads it, before it tells the writer.
-/

namespace Duplex

namespace Happening

/-- The outcome that comes to stand for the send where none stood. -/
def settled? : Happening → Option Outcome
  | .acted s a => if s.outcome? = none then (a.perform s).session.outcome? else none
  | _ => none

/-- A poll of the send comes to its end. -/
def finishes : Happening → Bool
  | .acted _ (.finish _) => true
  | _ => false

def completion? : Happening → Option Outcome
  | .acted s (.resolve o) => if s.completion = .waiting then some o else none
  | _ => none

def finalClose? : Happening → Option CloseStatus
  | .acted _ (.close status true) => some status
  | _ => none

end Happening

/-- The send, the completion signal and the final close all report the failure. -/
structure FailsWith (e : Fault) (hs : List Happening) : Prop where
  resolution : ∀ h ∈ hs, ∀ o ∈ h.resolution?, o = .failure e
  completion : ∀ h ∈ hs, ∀ o ∈ h.completion?, o = .failure e
  close : ∀ h ∈ hs, h.finalClose? ≠ some .normal

theorem resolution_cases {h : Happening} {o : Outcome} (resolution : h.resolution? = some o) :
    ∃ s, h = .acted s (.reply (.polled (some o))) := by
  unfold Happening.resolution? at resolution
  split at resolution
  · rename_i s p
    obtain rfl : p = o := by simpa using resolution
    exact ⟨s, rfl⟩
  · simp at resolution

theorem settled?_of_run {s : Session} {hs : List Happening} {m : Machine} {o : Outcome}
    (new : s.IsNew) (run : Machine.Run ⟨s, []⟩ hs m) (decided : m.session.outcome? = some o) :
    ∃ h ∈ hs, h.settled? = some o := by
  induction run with
  | nil =>
    obtain ⟨g, c, rfl, -, -⟩ := new.cases
    simp [Session.outcome?] at decided
  | snoc run step ih =>
    rename_i n k hs h
    cases stands : n.session.outcome? with
    | some p =>
      have same := outcome_step (.run new run) step stands
      obtain rfl : p = o := by simpa [same] using decided
      obtain ⟨g, mem, settled⟩ := ih stands
      exact ⟨g, by simp [mem], settled⟩
    | none =>
      refine ⟨h, by simp, ?_⟩
      cases step using Machine.Step.kinds with
      | began m op => simp [stands, Machine.start] at decided
      | intruded m op => simp [stands, Machine.start] at decided
      | answered t w rest a => simp [stands] at decided
      | acted t a rest => simpa [Happening.settled?, stands] using decided

theorem outcome_of_settled {s : Session} {hs : List Happening} {m : Machine} {h : Happening}
    {o : Outcome} (new : s.IsNew) (run : Machine.Run ⟨s, []⟩ hs m) (mem : h ∈ hs)
    (settled : h.settled? = some o) : m.session.outcome? = some o := by
  obtain ⟨pre, post, rfl⟩ := List.append_of_mem mem
  obtain ⟨k, k', before, step, after⟩ := run.split
  refine outcome_run ((Attachment.run new before).step step) after ?_
  cases step using Machine.Step.kinds with
  | began | intruded | answered => simp [Happening.settled?] at settled
  | acted t a rest =>
    have both : t.outcome? = none ∧ (a.perform t).session.outcome? = some o := by
      simpa [Happening.settled?] using settled
    exact both.2

theorem terminate_decides {s : Session} (o : Outcome) (attached : s.control.isSome) :
    ((Action.terminate o).perform s).session.outcome?.isSome := by
  obtain ⟨c, here⟩ := Option.isSome_iff_exists.mp attached
  cases stands : c.outcome <;> simp [Action.perform, here, stands, Session.outcome?]

def Machine.IsTelling (n : Machine) (e : Fault) (below : Agenda) : Prop :=
  ∃ above rest f, n.agenda = above ++ .act f :: (rest ++ below) ∧
    (f = .record (.failure e) ∨ f = .terminate (.failure e))

theorem telling_step {n k : Machine} {h : Happening} {e : Fault} {below : Agenda}
    (attached : n.session.control.isSome) (telling : n.IsTelling e below)
    (step : Machine.Step n h k) : k.session.outcome?.isSome ∨ k.IsTelling e below := by
  obtain ⟨above, rest, f, agenda, tells⟩ := telling
  cases step using Machine.Step.kinds with
  | began m op | intruded m op =>
    exact .inr ⟨op.actions.map .act ++ above, rest, f, by simp [Machine.start, agenda], tells⟩
  | answered s w tail a =>
    cases above with
    | nil => simp at agenda
    | cons g above =>
      obtain ⟨-, rfl⟩ : .wait w = g ∧ tail = _ := by simpa using agenda
      exact .inr ⟨(w.resume a).map .act ++ above, rest, f, by simp, tells⟩
  | acted s a tail =>
    cases above with
    | cons g above =>
      obtain ⟨-, rfl⟩ : .act a = g ∧ tail = _ := by simpa using agenda
      exact .inr ⟨(a.perform s).next ++ above, rest, f, by simp, tells⟩
    | nil =>
      obtain ⟨rfl, rfl⟩ : a = f ∧ tail = rest ++ below := by simpa using agenda
      rcases tells with rfl | rfl
      · refine .inr ⟨[.act .cancel], rest, .terminate (.failure e), ?_, .inr rfl⟩
        simp [Action.perform, attached]
      · exact .inl (terminate_decides _ attached)

theorem decides_or_tells {gs hs : List Happening} {m n : Machine} {e : Fault}
    (attachment : Attachment gs (m.start (.transportError e)))
    (attached : m.session.control.isSome)
    (during : Machine.Run (m.start (.transportError e)) hs n) :
    n.session.outcome?.isSome ∨ n.IsTelling e m.agenda := by
  induction during with
  | nil =>
    refine .inr ⟨[.act (.log (.transportFailed e)), .act (.failInbound e)],
      [.act (.reply .unit)], .record (.failure e), ?_, .inl rfl⟩
    simp [Machine.start, Op.actions]
  | snoc run step ih =>
    rcases ih with decided | telling
    · obtain ⟨o, decided⟩ := Option.isSome_iff_exists.mp decided
      exact .inl (by simp [outcome_step (attachment.after run) step decided])
    · exact telling_step (attached_run run attached) telling step

theorem callback_decides {gs hs : List Happening} {m n : Machine} {e : Fault}
    (attachment : Attachment gs (m.start (.transportError e)))
    (attached : m.session.control.isSome)
    (during : Machine.Run (m.start (.transportError e)) hs n) (returned : n.agenda = m.agenda) :
    n.session.outcome?.isSome := by
  rcases decides_or_tells attachment attached during with decided | ⟨above, rest, f, agenda, -⟩
  · exact decided
  · have longer := congrArg List.length (returned.symm.trans agenda)
    simp at longer
    omega

theorem failsWith_of_agrees {hs : List Happening} {m : Machine} {e : Fault}
    (agrees : ∀ s a, .acted s a ∈ hs →
      s.agrees a ∧ ∀ o, s.outcome? = some o → m.session.outcome? = some o)
    (decided : m.session.outcome? = some (.failure e)) : FailsWith e hs := by
  have same {s : Session} {a : Action} {o : Outcome} (mem : .acted s a ∈ hs)
      (stands : s.outcome? = some o) : o = .failure e := by
    have later := (agrees s a mem).2 o stands
    simpa [decided, eq_comm] using later
  refine ⟨fun h mem o resolves => ?_, fun h mem o completes => ?_, fun h mem closes => ?_⟩
  · obtain ⟨s, rfl⟩ := resolution_cases resolves
    exact same mem (agrees _ _ mem).1
  · unfold Happening.completion? at completes
    split at completes
    · rename_i s p
      obtain ⟨-, rfl⟩ : s.completion = .waiting ∧ p = o := by simpa using completes
      exact same mem (agrees _ _ mem).1
    · simp at completes
  · unfold Happening.finalClose? at closes
    split at closes
    · rename_i s status
      obtain rfl : status = .normal := by simpa using closes
      obtain ⟨o, stands, closing⟩ := (agrees _ _ mem).1
      obtain rfl := same mem stands
      exact closing_ne_normal e closing.symm
    · simp at closes

theorem Machine.Agrees.new (s : Session) : Machine.Agrees ⟨s, []⟩ := by
  intro a due
  simp at due

theorem agrees_throughout {s : Session} {m k : Machine} {hs gs : List Happening} (new : s.IsNew)
    (before : Machine.Run ⟨s, []⟩ hs m) (attached : m.session.control.isSome)
    (first : ∀ g ∈ hs, ∀ op ∈ g.op?, op.isTransportEnd = false)
    (later : Machine.Run m gs k) (unhandled : ∀ g ∈ hs ++ gs, ∀ op ∈ g.op?, op.isHandlerEnd = false)
    {t : Session} {a : Action} (acted : .acted t a ∈ hs ++ gs) :
    t.agrees a ∧ ∀ o, t.outcome? = some o → k.session.outcome? = some o := by
  have start : Attachment [] ⟨s, []⟩ := .run new (.nil _)
  have ends (g : Happening) (mem : g ∈ hs) (op : Op) (here : g.op? = some op)
      (isEnd : op.isTransportEnd) : s.control.isSome := by
    simp [first g mem op here] at isEnd
  have quiet (g : Happening) (mem : g ∈ hs) := unhandled g (by simp [mem])
  have rest := (Machine.Agrees.new s).run start before ends quiet
  have attachment := Attachment.run new before
  rcases List.mem_append.mp acted with mem | mem
  · obtain ⟨agrees, stands⟩ := (Machine.Agrees.new s).acted start before ends quiet mem
    exact ⟨agrees, fun o decided => outcome_run attachment later (stands o decided)⟩
  · exact rest.acted attachment later (fun _ _ _ _ _ => attached)
      (fun g mem => unhandled g (by simp [mem])) mem

theorem settled_cases {s : Session} {a : Action} {o : Outcome}
    (settled : (Happening.acted s a).settled? = some o) :
    (a = .openWriter ∧ s.transportOutcome = some o) ∨ (∃ p, a = .finish p) ∨ a = .terminate o := by
  obtain ⟨before, after⟩ : s.outcome? = none ∧ (a.perform s).session.outcome? = some o := by
    simpa [Happening.settled?] using settled
  by_cases opens : a = .openWriter
  · subst opens
    exact .inl ⟨rfl, after⟩
  by_cases finishes : ∃ p, a = .finish p
  · exact .inr (.inl finishes)
  by_cases tells : ∃ p, a = .terminate p
  · obtain ⟨p, rfl⟩ := tells
    cases attached : s.control with
    | none => simp [Action.perform, attached, Session.outcome?] at after
    | some c =>
      have stands : c.outcome = none := by simpa [Session.outcome?, attached] using before
      obtain rfl : p = o := by
        simpa [Action.perform, attached, stands, Session.outcome?] using after
      exact .inr (.inr rfl)
  · have same := (changes_perform s a).outcome_eq opens (fun p eq => finishes ⟨p, eq⟩)
      (fun p eq => tells ⟨p, eq⟩)
    simp [same, before] at after

def Machine.TellsOnly (P : Outcome → Prop) (m : Machine) : Prop :=
  ∀ o, (.act (.record o) ∈ m.agenda → P o) ∧ (.act (.terminate o) ∈ m.agenda → P o)

theorem tells_next {s : Session} {a : Action} {o : Outcome}
    (tells : .act (.record o) ∈ (a.perform s).next ∨ .act (.terminate o) ∈ (a.perform s).next) :
    a = .record o := by
  rcases tells with mem | mem
  · exact absurd (leads_next mem) (not_leads_record a o)
  · exact eq_of_leads_terminate (leads_next mem)

theorem TellsOnly.step {P : Outcome → Prop} {m n : Machine} {h : Happening} (ok : m.TellsOnly P)
    (step : Machine.Step m h n) (calm : ∀ op ∈ h.op?, op.isTransportEnd = false) :
    n.TellsOnly P := by
  have start (op : Op) (here : h.op? = some op) : (m.start op).TellsOnly P := by
    have quiet := calm op here
    intro o
    cases op <;> simp only [Op.isTransportEnd, Bool.true_eq_false] at quiet <;>
      simpa [Machine.start, Op.actions] using ok o
  cases step using Machine.Step.kinds with
  | began m op => exact start op rfl
  | intruded m op => exact start op rfl
  | answered s w rest a =>
    have untold (o : Outcome) : .record o ∉ w.resume a ∧ .terminate o ∉ w.resume a := by
      unfold Wait.resume
      split <;> simp
    intro o
    simpa [(untold o).1, (untold o).2] using ok o
  | acted s a rest =>
    intro o
    have here (records : a = .record o) : P o := (ok o).1 (by simp [records])
    constructor
    · intro due
      rcases List.mem_append.mp due with due | due
      · exact here (tells_next (.inl due))
      · exact (ok o).1 (by simp [due])
    · intro due
      rcases List.mem_append.mp due with due | due
      · exact here (tells_next (.inr due))
      · exact (ok o).2 (by simp [due])

theorem TellsOnly.run {P : Outcome → Prop} {m n : Machine} {hs : List Happening}
    (ok : m.TellsOnly P) (run : Machine.Run m hs n)
    (calm : ∀ g ∈ hs, ∀ op ∈ g.op?, op.isTransportEnd = false) : n.TellsOnly P := by
  induction run with
  | nil => exact ok
  | snoc run step ih =>
    have before := ih fun g mem => calm g (by simp [mem])
    exact TellsOnly.step before step (calm _ (by simp))

theorem TellsOnly.acted {P : Outcome → Prop} {m n : Machine} {hs : List Happening} {s : Session}
    {o : Outcome} (ok : m.TellsOnly P) (run : Machine.Run m hs n)
    (calm : ∀ g ∈ hs, ∀ op ∈ g.op?, op.isTransportEnd = false)
    (acted : .acted s (.record o) ∈ hs ∨ .acted s (.terminate o) ∈ hs) : P o := by
  have due (a : Action) (acted : .acted s a ∈ hs) :
      ∃ k : Machine, k.TellsOnly P ∧ .act a ∈ k.agenda := by
    obtain ⟨pre, post, rest, rfl, before⟩ := run.before_action acted
    exact ⟨_, TellsOnly.run ok before fun g mem => calm g (by simp [mem]), by simp⟩
  rcases acted with acted | acted
  · obtain ⟨k, here, mem⟩ := due _ acted
    exact (here o).1 mem
  · obtain ⟨k, here, mem⟩ := due _ acted
    exact (here o).2 mem

theorem transportOutcome_run {m n : Machine} {hs : List Happening} (run : Machine.Run m hs n)
    (unrecorded : ∀ s o, .acted s (.record o) ∉ hs) :
    n.session.transportOutcome = m.session.transportOutcome := by
  induction run with
  | nil => rfl
  | snoc run step ih =>
    have before := ih fun s o mem => unrecorded s o (by simp [mem])
    cases step using Machine.Step.kinds with
    | began | intruded | answered => exact before
    | acted s a rest =>
      rw [(changes_perform s a).transportOutcome_eq, before]
      intro o records
      exact unrecorded s o (by simp [records])

theorem settled_before {s : Session} {m : Machine} {hs : List Happening} {g : Happening}
    {o : Outcome} (new : s.IsNew) (run : Machine.Run ⟨s, []⟩ hs m)
    (first : ∀ g ∈ hs, ∀ op ∈ g.op?, op.isTransportEnd = false) (mem : g ∈ hs)
    (settled : g.settled? = some o) : g.finishes := by
  have untold : Machine.TellsOnly (fun _ => False) ⟨s, []⟩ := by simp [Machine.TellsOnly]
  cases g with
  | began | intruded | answered => simp [Happening.settled?] at settled
  | acted u a =>
    rcases settled_cases settled with ⟨rfl, recorded⟩ | ⟨p, rfl⟩ | rfl
    · obtain ⟨pre, post, rest, rfl, before⟩ := run.before_action mem
      have same := transportOutcome_run before fun t p mem => TellsOnly.acted untold before
        (fun g mem => first g (by simp [mem])) (.inl mem)
      obtain ⟨g, c, rfl, -, -⟩ := new.cases
      simp [recorded] at same
    · rfl
    · exact (TellsOnly.acted untold run first (.inr mem)).elim

theorem settled_during {gs w : List Happening} {m n : Machine} {g : Happening} {e : Fault}
    {o : Outcome} (attachment : Attachment gs (m.start (.transportError e)))
    (attached : m.session.control.isSome) (untold : m.TellsOnly fun _ => False)
    (during : Machine.Run (m.start (.transportError e)) w n)
    (alone : ∀ g ∈ w, ∀ op ∈ g.op?, op.isTransportEnd = false) (mem : g ∈ w)
    (settled : g.settled? = some o) : o = .failure e ∨ g.finishes := by
  have tells : (m.start (.transportError e)).TellsOnly (· = .failure e) := by
    intro p
    have unrecorded : .act (.record p) ∉ m.agenda := (untold p).1
    have unterminated : .act (.terminate p) ∉ m.agenda := (untold p).2
    simp [Machine.start, Op.actions, unrecorded, unterminated]
  cases g with
  | began | intruded | answered => simp [Happening.settled?] at settled
  | acted u a =>
    rcases settled_cases settled with ⟨rfl, -⟩ | ⟨p, rfl⟩ | rfl
    · obtain ⟨pre, post, rest, rfl, before⟩ := during.before_action mem
      have still := attached_run before attached
      simp [(attachment.after before).opens.1] at still
    · exact .inr rfl
    · exact .inl (TellsOnly.acted (P := fun p => p = .failure e) tells during alone (.inr mem))

/-- A transport error reaches the send exactly if nothing else has settled the send by the time the
callback returns. So it does if by then no poll of the send has come to its end and no other end of
the transport has come in between. -/
theorem transport_error_outcome {s t : Session} {m n k : Machine} {hs w v : List Happening}
    {h : Happening} {e : Fault} (new : s.IsNew) (before : Machine.Run ⟨s, []⟩ hs m)
    (attached : m.session.control.isSome)
    (first : ∀ g ∈ hs, ∀ op ∈ g.op?, op.isTransportEnd = false)
    (call : Machine.Step m h n) (error : h.op? = some (.transportError e))
    (during : Machine.Run n w ⟨t, m.agenda⟩) (after : Machine.Run ⟨t, m.agenda⟩ v k)
    (unhandled : ∀ g ∈ hs ++ h :: (w ++ v), ∀ op ∈ g.op?, op.isHandlerEnd = false) :
    ((∃ g ∈ hs ++ h :: (w ++ v), g.resolution?.isSome) →
      (FailsWith e (hs ++ h :: (w ++ v)) ↔
        ∀ g ∈ hs ++ h :: w, ∀ o ∈ g.settled?, o = .failure e)) ∧
    ((∀ g ∈ hs ++ h :: w, g.finishes = false) →
      (∀ g ∈ w, ∀ op ∈ g.op?, op.isTransportEnd = false) →
      FailsWith e (hs ++ h :: (w ++ v))) := by
  obtain rfl := step_start call error
  have later : Machine.Run m (h :: (w ++ v)) k := (during.append after).cons call
  have agrees {u : Session} {a : Action} := agrees_throughout (t := u) (a := a) new before attached
    first later unhandled
  have attachment := (Attachment.run new before).step call
  have returned : Machine.Run ⟨s, []⟩ (hs ++ h :: w) ⟨t, m.agenda⟩ :=
    before.append (during.cons call)
  have suffices_settled
      (only : ∀ g ∈ hs ++ h :: w, ∀ o ∈ g.settled?, o = .failure e) :
      FailsWith e (hs ++ h :: (w ++ v)) := by
    obtain ⟨o, decided⟩ := Option.isSome_iff_exists.mp
      (callback_decides attachment attached during rfl)
    obtain ⟨g, mem, settled⟩ := settled?_of_run new returned decided
    obtain rfl := only g mem o settled
    have final := outcome_run (.run new returned) after decided
    exact failsWith_of_agrees (fun u a mem => agrees mem) final
  refine ⟨fun resolves => ⟨fun fails g mem o settled => ?_, suffices_settled⟩,
    fun unfinished alone => suffices_settled fun g mem o settled => ?_⟩
  · have settles : k.session.outcome? = some o :=
      outcome_run (.run new returned) after (outcome_of_settled new returned mem settled)
    obtain ⟨r, mem, resolution⟩ := resolves
    obtain ⟨p, resolution⟩ := Option.isSome_iff_exists.mp resolution
    obtain rfl := fails.resolution r mem p resolution
    obtain ⟨u, rfl⟩ := resolution_cases resolution
    obtain ⟨stood, stays⟩ := agrees mem
    have final : k.session.outcome? = some (.failure e) := stays _ stood
    simpa [settles] using final
  · have untold : m.TellsOnly fun _ => False :=
      TellsOnly.run (by simp [Machine.TellsOnly]) before first
    rcases List.mem_append.mp mem with mem' | mem'
    · have finishes := settled_before new before first mem' settled
      simp [unfinished g mem] at finishes
    · rcases List.mem_cons.mp mem' with rfl | mem'
      · cases g with
        | began | intruded | answered => simp [Happening.settled?] at settled
        | acted => simp [Happening.op?] at error
      · have settles := settled_during attachment attached untold during alone mem' settled
        rcases settles with here | finishes
        · exact here
        · simp [unfinished g mem] at finishes

def echoing : List Machine.Cue :=
  [.start .send, .perform, .perform, .perform, .start (.poll 7), .perform, .perform, .perform,
    .perform, .start (.pull (.waiting 7)), .perform, .perform, .answer .pending, .perform]

/-- The writer is polled only after the callback has returned, and fails. -/
theorem transport_error_outcome_later :
    let e := Fault.transport "reset"
    let s := Session.sample true {}
    let r := Machine.play ⟨s, []⟩ echoing
    let d := (r.2.start (.transportError e)).play [.perform, .perform, .answer .done, .perform,
      .perform, .answer .done, .perform, .perform]
    let l := Machine.play ⟨d.2.session, r.2.agenda⟩
      (.start (.poll 7) :: List.replicate 9 .perform ++ [.answer .done, .perform])
    s.IsNew ∧ (l.1.filterMap Happening.resolution?) = [.failure e] ∧
      FailsWith e (r.1 ++ .began (.transportError e) :: (d.1 ++ l.1)) := by
  intro e s r d l
  have new : s.IsNew := Session.isNew_sample true rfl
  have before : Machine.Run ⟨s, []⟩ r.1 r.2 := Machine.run_play _ _
  have during : Machine.Run (r.2.start (.transportError e)) d.1 ⟨d.2.session, r.2.agenda⟩ :=
    Machine.run_play_to (by decide +kernel)
  have call : Machine.Step r.2 (.began (.transportError e)) (r.2.start (.transportError e)) :=
    .began (by decide +kernel) rfl
  have after : Machine.Run ⟨d.2.session, r.2.agenda⟩ l.1 l.2 := Machine.run_play _ _
  have outcome := transport_error_outcome new before (by decide +kernel) (by decide +kernel) call
    rfl during after (by decide +kernel)
  have settled : ∀ g ∈ r.1 ++ .began (.transportError e) :: d.1, ∀ o ∈ g.settled?,
      o = .failure e := by
    decide +kernel
  exact ⟨new, by decide +kernel, (outcome.1 (by decide +kernel)).mpr settled⟩

/-- Woken by the callback, the writer finds its source at an end before it hears of the error. -/
theorem transport_error_outcome_meanwhile :
    ¬ ∀ (s t : Session) (m n k : Machine) (hs w v : List Happening) (h : Happening) (e : Fault),
      s.IsNew → Machine.Run ⟨s, []⟩ hs m → m.session.control.isSome →
      (∀ g ∈ hs, g.resolution? = none) → (∀ g ∈ hs, ∀ op ∈ g.op?, op.isTransportEnd = false) →
      Machine.Step m h n → h.op? = some (.transportError e) →
      Machine.Run n w ⟨t, m.agenda⟩ → Machine.Run ⟨t, m.agenda⟩ v k →
      (∀ g ∈ hs ++ h :: (w ++ v), ∀ op ∈ g.op?, op.isHandlerEnd = false) →
      FailsWith e (hs ++ h :: (w ++ v)) := by
  intro always
  let e := Fault.transport "reset"
  let s := Session.sample true {}
  let r := Machine.play ⟨s, []⟩ echoing
  let d := (r.2.start (.transportError e)).play ([.perform, .perform, .start (.poll 7), .perform,
    .perform, .perform, .perform, .start (.pull (.waiting 7)), .perform, .perform,
    .start (.pull (.waiting 7)), .perform, .perform, .answer .ended] ++ List.replicate 9 .perform ++
    [.answer .done, .perform, .answer .done, .perform, .perform, .answer .done, .perform, .perform])
  have during : Machine.Run (r.2.start (.transportError e)) d.1 ⟨d.2.session, r.2.agenda⟩ :=
    Machine.run_play_to (by decide +kernel)
  have fails := always s d.2.session r.2 _ _ r.1 d.1 [] (.began (.transportError e)) e
    (Session.isNew_sample true rfl) (Machine.run_play _ _) (by decide +kernel)
    (by decide +kernel) (by decide +kernel) (.began (by decide +kernel) rfl) rfl during (.nil _)
    (by decide +kernel)
  have succeeds : ∃ g ∈ d.1, g.resolution? = some .success := by decide +kernel
  obtain ⟨g, mem, resolution⟩ := succeeds
  have wrong := fails.resolution g (by simp [mem]) .success resolution
  simp at wrong

end Duplex

import Duplex.Proofs.Session.Agenda

/-!
Calls nest. Whatever is put on the agenda goes on top, so a frame that has gone was dealt with while
it lay on top, and everything above it before that. Where no other thread comes in, an operation can
begin only while a call waits, and most actions are performed as soon as they are put on the agenda.
-/

namespace Duplex.Machine

variable {s : Session} {rest : Agenda} {hs : List Happening} {m n : Machine}

theorem Run.deals {f : Frame} (run : Run m hs n) (above : Agenda)
    (here : m.agenda = above ++ f :: rest) :
    (∃ upper, n.agenda = upper ++ f :: rest) ∨
      ∃ pre h post t k, hs = pre ++ h :: post ∧ Run m pre ⟨t, f :: rest⟩ ∧
        Step ⟨t, f :: rest⟩ h k ∧ h.op? = none ∧ Run k post n := by
  induction run with
  | nil => exact .inl ⟨above, here⟩
  | snoc run step ih =>
    rcases ih with ⟨upper, agenda⟩ | ⟨pre, g, post, t, k, rfl, before, dealt, own, after⟩
    -- What lies above the frame may grow and shrink; the frame goes once nothing is left above it.
    · cases step using Step.kinds with
      | began _ op | intruded _ op =>
        exact .inl ⟨op.actions.map .act ++ upper, by simp [start, agenda]⟩
      | acted t a tail =>
        cases upper with
        | nil =>
          obtain ⟨rfl, rfl⟩ : .act a = f ∧ tail = rest := by simpa using agenda
          exact .inr ⟨_, _, [], t, _, rfl, run, .act t a tail, rfl, .nil _⟩
        | cons g upper =>
          obtain ⟨-, rfl⟩ : .act a = g ∧ tail = upper ++ f :: rest := by simpa using agenda
          exact .inl ⟨(a.perform t).next ++ upper, by simp⟩
      | answered t w tail x =>
        cases upper with
        | nil =>
          obtain ⟨rfl, rfl⟩ : .wait w = f ∧ tail = rest := by simpa using agenda
          exact .inr ⟨_, _, [], t, _, rfl, run, .answered t w tail x, rfl, .nil _⟩
        | cons g upper =>
          obtain ⟨-, rfl⟩ : .wait w = g ∧ tail = upper ++ f :: rest := by simpa using agenda
          exact .inl ⟨(w.resume x).map .act ++ upper, by simp⟩
    · exact .inr ⟨pre, g, post ++ [_], t, k, by simp, before, dealt, own, after.snoc step⟩

theorem Run.performs {a : Action} (run : Run m hs n) (above : Agenda)
    (here : m.agenda = above ++ .act a :: rest)
    (gone : ∀ upper, n.agenda ≠ upper ++ .act a :: rest) :
    ∃ pre t post, hs = pre ++ .acted t a :: post ∧ Run m pre ⟨t, .act a :: rest⟩ ∧
      Run ⟨(a.perform t).session, (a.perform t).next ++ rest⟩ post n := by
  rcases run.deals above here with
    ⟨upper, agenda⟩ | ⟨pre, h, post, t, k, split, before, step, own, after⟩
  · exact absurd agenda (gone upper)
  · cases step with
    | began | intruded => simp [Happening.op?] at own
    | acted performed =>
      cases performed
      exact ⟨pre, t, post, split, before, after⟩

theorem Run.hears {w : Wait} (run : Run m hs n) (above : Agenda)
    (here : m.agenda = above ++ .wait w :: rest)
    (gone : ∀ upper, n.agenda ≠ upper ++ .wait w :: rest) :
    ∃ pre t x post, hs = pre ++ .answered w x :: post ∧ Run m pre ⟨t, .wait w :: rest⟩ ∧
      Run ⟨t, (w.resume x).map .act ++ rest⟩ post n := by
  rcases run.deals above here with
    ⟨upper, agenda⟩ | ⟨pre, h, post, t, k, split, before, step, own, after⟩
  · exact absurd agenda (gone upper)
  · cases step with
    | began | intruded => simp [Happening.op?] at own
    | answered _ _ _ x => exact ⟨pre, t, x, post, split, before, after⟩

theorem gone_of_length {f : Frame} {agenda : Agenda} (short : agenda.length ≤ rest.length)
    (upper : Agenda) : agenda ≠ upper ++ f :: rest := by
  intro same
  have longer := congrArg List.length same
  simp at longer
  omega

theorem Run.answered {pre post : List Happening} {g : Happening} {c : Call}
    (run : Run m (pre ++ g :: post) n) (call : g.call? = some c) (idle : n.isIdle) :
    ∃ w x, w.call = c ∧ .answered w x ∈ post := by
  obtain ⟨k, k', -, step, after⟩ := run.split
  cases step using Step.kinds with
  | began | intruded | answered => simp [Happening.call?] at call
  | acted t a rest =>
    obtain ⟨w, later, next, rfl⟩ : ∃ w later, (a.perform t).next = .wait w :: later ∧ w.call = c := by
      simp only [Happening.call?, Effect.call?] at call
      split at call
      · exact ⟨_, _, ‹_›, by simpa using call⟩
      · simp at call
    have none_left (upper : Agenda) : n.agenda ≠ upper ++ .wait w :: (later ++ rest) := by
      simp [List.isEmpty_iff.mp idle]
    obtain ⟨before, u, x, since, rfl, -, -⟩ := after.hears [] (by simp [next]) none_left
    exact ⟨w, x, rfl, by simp⟩

/-- What every step raises is paid later or still due: it is enough to say so step by step. -/
theorem Run.balance {due : Frame → Bool} {paid raised : Happening → Bool}
    (opens : ∀ h op, h.op? = some op →
      (paid h).toNat + (op.actions.map Frame.act).countP due = (raised h).toNat)
    (acts : ∀ s a, (paid (.acted s a)).toNat + (a.perform s).next.countP due =
      (due (.act a)).toNat + (raised (.acted s a)).toNat)
    (hears : ∀ w a, (paid (.answered w a)).toNat + ((w.resume a).map Frame.act).countP due =
      (due (.wait w)).toNat + (raised (.answered w a)).toNat)
    (run : Run ⟨s, []⟩ hs n) : hs.countP paid + n.agenda.countP due = hs.countP raised := by
  have one (p : Happening → Bool) (gs : List Happening) (h : Happening) :
      (gs ++ [h]).countP p = gs.countP p + (p h).toNat := by
    cases here : p h <;> simp [here]
  have cons (f : Frame) (agenda : Agenda) :
      (f :: agenda).countP due = (due f).toNat + agenda.countP due := by
    cases here : due f <;> simp [here, Nat.add_comm]
  induction run with
  | nil => rfl
  | snoc run step ih =>
    rw [one, one]
    cases step using Step.kinds with
    | began m op =>
      have raised_now := opens (.began op) op rfl
      rw [start, List.countP_append]
      omega
    | intruded m op =>
      have raised_now := opens (.intruded op) op rfl
      rw [start, List.countP_append]
      omega
    | acted t a rest =>
      have moved := acts t a
      rw [cons] at ih
      rw [List.countP_append]
      omega
    | answered t w rest a =>
      have moved := hears w a
      rw [cons] at ih
      rw [List.countP_append]
      omega

def lags : Frame → Bool
  | .wait _ | .act (.reply _) | .act (.failInbound _) | .act .markClosed | .act .completeInbound
  | .act (.record _) | .act (.terminate _) | .act (.close _ true) => true
  | _ => false

theorem lags_actions (op : Op) : ∀ f ∈ (op.actions.map Frame.act).tail, lags f := by
  cases op <;> simp [Op.actions, lags]

theorem lags_resume (w : Wait) (a : Answer) : ∀ f ∈ ((w.resume a).map Frame.act).tail, lags f := by
  unfold Wait.resume
  split <;> simp

theorem lags_next (s : Session) (a : Action) : ∀ f ∈ (a.perform s).next.tail, lags f := by
  intro f below
  cases trails_next below <;> rfl

theorem forall_mem_tail_append {p : Frame → Prop} {new old : Agenda} (first : ∀ f ∈ new.tail, p f)
    (later : ∀ f ∈ old, p f) : ∀ f ∈ (new ++ old).tail, p f := by
  cases new with
  | nil =>
    intro f mem
    exact later f (List.mem_of_mem_tail mem)
  | cons g new => exact List.forall_mem_append.mpr ⟨first, later⟩

theorem lags_step {m n : Machine} {h : Happening} (ok : ∀ f ∈ m.agenda.tail, lags f)
    (step : Step m h n) (alone : ∀ op, h ≠ .intruded op) : ∀ f ∈ n.agenda.tail, lags f := by
  cases step using Step.kinds with
  | intruded m op => exact absurd rfl (alone op)
  | began m op control =>
    refine forall_mem_tail_append (lags_actions op) ?_
    -- Where the surroundings have control, the top frame is a wait, which lags like those below.
    rcases m with ⟨t, _ | ⟨f, agenda⟩⟩
    · simp
    · cases f with
      | act a => simp [isYielding, isIdle, call?] at control
      | wait w => exact List.forall_mem_cons.mpr ⟨rfl, ok⟩
  | acted t a agenda => exact forall_mem_tail_append (lags_next t a) ok
  | answered t w agenda x => exact forall_mem_tail_append (lags_resume w x) ok

theorem lags_run {m : Machine} (run : Run ⟨s, []⟩ hs m) (alone : ∀ op, .intruded op ∉ hs) :
    ∀ f ∈ m.agenda.tail, lags f := by
  induction run with
  | nil => simp
  | snoc run step ih =>
    have before := ih fun op mem => alone op (by simp [mem])
    refine lags_step before step ?_
    rintro op rfl
    exact alone op (by simp)

end Duplex.Machine

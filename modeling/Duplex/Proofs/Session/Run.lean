import Duplex.Session.Machine
import Mathlib.Data.List.Induction

/-!
Runs, taken apart and put together: the shape of a step, runs end to end, the machine in which
something in the middle of a run happened, and runs that follow a list of cues and can be computed.
-/

namespace Duplex

def Effect.call? (e : Effect) : Option Call :=
  match e.next with
  | .wait w :: _ => some w.call
  | _ => none

namespace Happening

def call? : Happening → Option Call
  | .acted s a => (a.perform s).call?
  | _ => none

def op? : Happening → Option Op
  | .began op | .intruded op => some op
  | _ => none

end Happening

theorem filterMap_cons_toList {α β : Type} (f : α → Option β) (x : α) (l : List α) :
    (x :: l).filterMap f = (f x).toList ++ l.filterMap f := by
  cases seen : f x <;> simp [seen]

theorem filterMap_snoc {α β : Type} (f : α → Option β) (l : List α) (x : α) :
    (l ++ [x]).filterMap f = l.filterMap f ++ (f x).toList := by
  rw [List.filterMap_append, filterMap_cons_toList]
  simp

theorem forall_mem_snoc {p : Happening → Prop} {hs : List Happening} {h : Happening}
    (before : ∀ g ∈ hs, p g) (last : p h) : ∀ g ∈ hs ++ [h], p g :=
  List.forall_mem_append.mpr ⟨before, List.forall_mem_singleton.mpr last⟩

namespace Machine

theorem Step.act (s : Session) (a : Action) (rest : Agenda) :
    Step ⟨s, .act a :: rest⟩ (.acted s a)
      ⟨(a.perform s).session, (a.perform s).next ++ rest⟩ := .acted rfl

@[elab_as_elim]
theorem Step.kinds {motive : (m : Machine) → (h : Happening) → (n : Machine) → Step m h n → Prop}
    (began : ∀ m op (control : m.isYielding) (admitted : m.admits op),
      motive m (.began op) (m.start op) (.began control admitted))
    (intruded : ∀ m op (control : m.isYielding = false) (admitted : m.admits op),
      motive m (.intruded op) (m.start op) (.intruded control admitted))
    (acted : ∀ s a rest, motive _ _ _ (.act s a rest))
    (answered : ∀ s w rest a, motive ⟨s, .wait w :: rest⟩ (.answered w a)
      ⟨s, (w.resume a).map Frame.act ++ rest⟩ (.answered s w rest a))
    {m n : Machine} {h : Happening} (step : Step m h n) : motive m h n step := by
  cases step with
  | began control admitted => exact began m _ control admitted
  | intruded control admitted => exact intruded m _ control admitted
  | acted h =>
    cases h
    exact acted _ _ _
  | answered s w rest a => exact answered s w rest a

theorem step_of_admits {m : Machine} {op : Op} (admitted : m.admits op) :
    ∃ h, h.op? = some op ∧ Step m h (m.start op) := by
  cases control : m.isYielding with
  | true => exact ⟨.began op, rfl, .began control admitted⟩
  | false => exact ⟨.intruded op, rfl, .intruded control admitted⟩

theorem Run.replied {m : Machine} {hs : List Happening} {s : Session} {r : Reply} {rest : Agenda}
    (run : Run m hs ⟨s, .act (.reply r) :: rest⟩) :
    Run m (hs ++ [.acted s (.reply r)]) ⟨s, rest⟩ := run.snoc (.act s (.reply r) rest)

theorem Run.append {m n k : Machine} {hs gs : List Happening} (first : Run m hs n)
    (second : Run n gs k) : Run m (hs ++ gs) k := by
  induction second with
  | nil => simpa using first
  | snoc _ step ih => simpa only [List.append_assoc] using ih.snoc step

theorem Run.cons {m n k : Machine} {h : Happening} {hs : List Happening} (step : Step m h n)
    (run : Run n hs k) : Run m (h :: hs) k :=
  Run.append (.snoc (.nil m) step) run

theorem Run.unsnoc {m k : Machine} {hs : List Happening} {h : Happening}
    (run : Run m (hs ++ [h]) k) : ∃ n, Run m hs n ∧ Step n h k := by
  generalize split : hs ++ [h] = gs at run
  cases run with
  | nil => simp at split
  | snoc run step =>
    obtain ⟨rfl, same⟩ := List.append_inj' split rfl
    obtain rfl : h = _ := by simpa using same
    exact ⟨_, run, step⟩

theorem Run.split {m k : Machine} {pre post : List Happening} {h : Happening}
    (run : Run m (pre ++ h :: post) k) :
    ∃ n n', Run m pre n ∧ Step n h n' ∧ Run n' post k := by
  induction post using List.reverseRecOn generalizing k with
  | nil =>
    obtain ⟨n, before, step⟩ := run.unsnoc
    exact ⟨n, k, before, step, .nil k⟩
  | append_singleton post g ih =>
    rw [← List.cons_append, ← List.append_assoc] at run
    obtain ⟨k', most, last⟩ := run.unsnoc
    obtain ⟨n, n', before, step, after⟩ := ih most
    exact ⟨n, n', before, step, after.snoc last⟩

theorem Run.of_nil {m n : Machine} (run : Run m [] n) : n = m := by
  generalize none : [] = hs at run
  cases run with
  | nil => rfl
  | snoc run step => simp at none

theorem Run.uncons {m k : Machine} {h : Happening} {hs : List Happening} (run : Run m (h :: hs) k) :
    ∃ n, Step m h n ∧ Run n hs k := by
  have whole : Run m ([] ++ h :: hs) k := run
  obtain ⟨n, n', start, step, later⟩ := whole.split
  obtain rfl := start.of_nil
  exact ⟨n', step, later⟩

theorem Run.keeps {m n : Machine} {hs : List Happening} {p : Session → Prop} (run : Run m hs n)
    (acts : ∀ s (a : Action), p s → p (a.perform s).session) (start : p m.session) :
    p n.session := by
  induction run with
  | nil => exact start
  | snoc run step ih =>
    cases step using Step.kinds with
    | began | intruded | answered => exact ih
    | acted s a rest => exact acts s a ih

theorem Run.before_action {m k : Machine} {hs : List Happening} {s : Session} {a : Action}
    (run : Run m hs k) (acted : .acted s a ∈ hs) :
    ∃ pre post rest, hs = pre ++ .acted s a :: post ∧ Run m pre ⟨s, .act a :: rest⟩ := by
  obtain ⟨pre, post, rfl⟩ := List.append_of_mem acted
  obtain ⟨n, n', before, step, -⟩ := run.split
  cases step
  exact ⟨pre, post, _, rfl, before⟩

inductive Cue
  | start (op : Op)
  | perform
  | answer (a : Answer)
  deriving Repr, DecidableEq

def follow? (m : Machine) : Cue → Option (Happening × Machine)
  | .start op =>
    if m.admits op then
      some (if m.isYielding then .began op else .intruded op, m.start op)
    else none
  | .perform =>
    match m.agenda with
    | .act a :: _ => m.advance.map fun r => (.acted m.session a, r.1)
    | _ => none
  | .answer a =>
    match m.agenda with
    | .wait w :: _ => some (.answered w a, m.answer a)
    | _ => none

def play (m : Machine) : List Cue → List Happening × Machine
  | [] => ([], m)
  | c :: cs =>
    match m.follow? c with
    | some (h, n) => (h :: (n.play cs).1, (n.play cs).2)
    | none => ([], m)

theorem step_of_follow? {m n : Machine} {c : Cue} {h : Happening}
    (followed : m.follow? c = some (h, n)) : Step m h n := by
  cases c with
  | start op =>
    by_cases admitted : m.admits op
    · cases control : m.isYielding <;>
        simp only [follow?, admitted, control, if_true, Bool.false_eq_true, if_false,
          Option.some.injEq, Prod.mk.injEq] at followed <;>
        obtain ⟨rfl, rfl⟩ := followed
      · exact .intruded control admitted
      · exact .began control admitted
    · simp [follow?, admitted] at followed
  | perform =>
    rcases m with ⟨s, _ | ⟨f, rest⟩⟩
    · simp [follow?] at followed
    · cases f with
      | act a =>
        simp only [follow?, advance, Option.map_some, Option.some.injEq, Prod.mk.injEq] at followed
        obtain ⟨rfl, rfl⟩ := followed
        exact .acted rfl
      | wait w => simp [follow?] at followed
  | answer a =>
    rcases m with ⟨s, _ | ⟨f, rest⟩⟩
    · simp [follow?] at followed
    · cases f with
      | act b => simp [follow?] at followed
      | wait w =>
        simp only [follow?, Option.some.injEq, Prod.mk.injEq] at followed
        obtain ⟨rfl, rfl⟩ := followed
        exact .answered s w rest a

theorem run_play (m : Machine) (cs : List Cue) : Run m (m.play cs).1 (m.play cs).2 := by
  induction cs generalizing m with
  | nil => exact .nil m
  | cons c cs ih =>
    rw [play]
    cases followed : m.follow? c with
    | none => exact .nil m
    | some r => exact (ih r.2).cons (step_of_follow? followed)

theorem run_play_to {m : Machine} {cs : List Cue} {agenda : Agenda}
    (back : (m.play cs).2.agenda = agenda) :
    Run m (m.play cs).1 ⟨(m.play cs).2.session, agenda⟩ := by
  subst back
  exact run_play m cs

end Machine

theorem step_start {m n : Machine} {h : Happening} {op : Op} (call : Machine.Step m h n)
    (begins : h.op? = some op) : n = m.start op := by
  cases call using Machine.Step.kinds with
  | began m p =>
    obtain rfl : p = op := by simpa [Happening.op?] using begins
    rfl
  | intruded m p =>
    obtain rfl : p = op := by simpa [Happening.op?] using begins
    rfl
  | acted | answered => simp [Happening.op?] at begins

end Duplex

import Duplex.Link.Exchange
import Duplex.Proofs.Session.New
import Duplex.Proofs.Session.Run
import Mathlib.Algebra.BigOperators.Group.Finset.Basic

/-!
Runs of a session and its link with everybody who works on them: what they do to the session, in the
order in which it is done, and what one step does to the agenda of the one who takes it.
-/

namespace Duplex

variable {ι : Type}

/-- Nothing has happened yet. -/
structure Exchange.IsOpened (x : Exchange ι) : Prop where
  session : x.session.IsNew
  suspendable : x.session.setting.suspendable
  flow : x.link.flow = {}
  commands : x.link.commands = []
  reader : x.link.reader = .checking
  writer : x.link.writer = .taking
  hands : ∀ p, x.hands p = {}

/-- What a step does to the session, apart from beginning an operation. -/
def Deed.work? : Deed ι → Option Happening
  | .did _ (.acted s a) => some (.acted s a)
  | .did _ (.answered w a) => some (.answered w a)
  | _ => none

def Deed.workOf? [DecidableEq ι] (p : Party ι) : Deed ι → Option Happening
  | .did q h => if q = p then (Deed.did q h).work? else none
  | _ => none

theorem work?_of_workOf? [DecidableEq ι] {p : Party ι} {d : Deed ι} {h : Happening}
    (own : d.workOf? p = some h) : d.work? = some h := by
  cases d with
  | did q g =>
    by_cases same : q = p
    · simpa [Deed.workOf?, same] using own
    · simp [Deed.workOf?, same] at own
  | _ => simp [Deed.workOf?] at own

namespace History

def work (ds : List (Deed ι)) : List Happening := ds.filterMap Deed.work?

def workOf [DecidableEq ι] (p : Party ι) (ds : List (Deed ι)) : List Happening :=
  ds.filterMap (Deed.workOf? p)

end History

open History

@[simp] theorem work_nil : work ([] : List (Deed ι)) = [] := rfl

theorem work_snoc (ds : List (Deed ι)) (d : Deed ι) :
    work (ds ++ [d]) = work ds ++ d.work?.toList := by
  simp [work, filterMap_cons_toList]

theorem filterMap_filterMap_snoc {α β γ : Type} (g : α → Option β) (f : β → Option γ) (xs : List α)
    (x : α) : ((xs ++ [x]).filterMap g).filterMap f =
      (xs.filterMap g).filterMap f ++ ((g x).bind f).toList := by
  rw [List.filterMap_append, List.filterMap_append, filterMap_cons_toList]
  cases g x with
  | none => rfl
  | some y => simp [filterMap_cons_toList]

namespace Exchange

variable [DecidableEq ι] {x y : Exchange ι} {d : Deed ι}

@[simp] theorem hands_put_self (x : Exchange ι) (p : Party ι) (hand : Hand) :
    (x.put p hand).hands p = hand := Function.update_self ..

theorem hands_put_of_ne {p q : Party ι} (other : q ≠ p) (hand : Hand) :
    (x.put p hand).hands q = x.hands q := Function.update_of_ne other ..

theorem forall_put {x : Exchange ι} {p : Party ι} {hand : Hand} {P : Party ι → Hand → Prop}
    (others : ∀ q ≠ p, P q (x.hands q)) (own : P p hand) : ∀ q, P q ((x.put p hand).hands q) := by
  intro q
  by_cases same : q = p
  · subst same
    rwa [hands_put_self]
  · rw [hands_put_of_ne same]
    exact others q same

@[simp] theorem session_put (x : Exchange ι) (p : Party ι) (hand : Hand) :
    (x.put p hand).session = x.session := rfl

@[simp] theorem link_put (x : Exchange ι) (p : Party ι) (hand : Hand) :
    (x.put p hand).link = x.link := rfl

inductive Goes (s : Session) (old : Hand) : Option Happening → Hand → Prop
  | stays : Goes s old none old
  | begins (op : Op)
    (free : old.agenda = [] ∨ ∃ w rest, old.agenda = .wait w :: rest ∧ w.isForeign) :
    Goes s old none { old with agenda := op.actions.map .act ++ old.agenda }
  | acts (a : Action) (rest : Agenda) (next : old.agenda = .act a :: rest) :
    Goes s old (some (.acted s a)) { old with agenda := (a.perform s).next ++ rest }
  | hears (w : Wait) (rest : Agenda) (next : old.agenda = .wait w :: rest) (foreign : w.isForeign)
    (a : Answer) :
    Goes s old (some (.answered w a)) { old with agenda := (w.resume a).map .act ++ rest }
  | lowers (m : Message) (rest : Agenda) (next : old.agenda = .wait (.writing m) :: rest) :
    Goes s old none
      { agenda := (Op.setReady false).actions.map .act ++ old.agenda, midway := true }
  | releases (m : Message) (rest : Agenda) (next : old.agenda = .wait (.resuming m) :: rest) :
    Goes s old none { old with midway := true }
  | serves (w : Wait) (rest : Agenda) (next : old.agenda = .wait w :: rest)
    (ours : w.isForeign = false) (prepared : Link.isTwofold w.call → old.midway) (a : Answer) :
    Goes s old (some (.answered w a)) { agenda := (w.resume a).map .act ++ rest }
  | tasked (idle : old.agenda = []) (op : Option Op) :
    Goes s old none { agenda := (op.map fun op => op.actions.map Frame.act).getD [] }

omit [DecidableEq ι] in
theorem free_cases {p : Party ι} (free : x.isFree p) : (x.hands p).agenda = [] ∨
    ∃ w rest, (x.hands p).agenda = .wait w :: rest ∧ w.isForeign := by
  unfold isFree at free
  split at free <;> simp_all

theorem Step.hand (step : Step x d y) :
    ∃ p, (∀ q ≠ p, y.hands q = x.hands q ∧ d.workOf? q = none) ∧
      Goes x.session (x.hands p) (d.workOf? p) (y.hands p) := by
  have others {p : Party ι} {hand : Hand} {h : Happening} (q : Party ι) (other : q ≠ p) :
      (x.put p hand).hands q = x.hands q ∧ (Deed.did p h).workOf? q = none :=
    ⟨hands_put_of_ne other hand, if_neg (Ne.symm other)⟩
  have own {p : Party ι} {h : Happening} : (Deed.did p h).workOf? p = (Deed.did p h).work? :=
    if_pos rfl
  cases step with
  | @begins p op free =>
    refine ⟨p, others, ?_⟩
    rw [hands_put_self, own]
    exact .begins op (free_cases free)
  | @acts p a rest next =>
    refine ⟨p, others, ?_⟩
    rw [own]
    dsimp only
    rw [hands_put_self]
    exact .acts a rest next
  | @hears p w rest next foreign a =>
    refine ⟨p, others, ?_⟩
    rw [hands_put_self, own]
    exact .hears w rest next foreign a
  | @lowers p m rest next =>
    refine ⟨p, fun q other => ⟨hands_put_of_ne other _, rfl⟩, ?_⟩
    rw [hands_put_self]
    exact .lowers m rest next
  | @releases p m rest next =>
    refine ⟨p, fun q other => ⟨hands_put_of_ne other _, rfl⟩, ?_⟩
    dsimp only
    rw [hands_put_self]
    exact .releases m rest next
  | @serves p w rest next ours prepared =>
    refine ⟨p, others, ?_⟩
    rw [own]
    dsimp only
    rw [hands_put_self]
    exact .serves w rest next ours prepared _
  | reads idle | tends idle =>
    refine ⟨.reader, fun q other => ⟨hands_put_of_ne other _, rfl⟩, ?_⟩
    dsimp only [moved]
    rw [hands_put_self]
    exact .tasked idle _
  | writes idle =>
    refine ⟨.writer, fun q other => ⟨hands_put_of_ne other _, rfl⟩, ?_⟩
    dsimp only [moved]
    rw [hands_put_self]
    exact .tasked idle _
  | shifts => exact ⟨.reader, fun _ _ => ⟨rfl, rfl⟩, .stays⟩

theorem Step.keeps {P : Hand → Prop} (goes : ∀ s old h new, P old → Goes s old h new → P new)
    (step : Step x d y) (ok : ∀ p, P (x.hands p)) (p : Party ι) : P (y.hands p) := by
  obtain ⟨q, others, own⟩ := step.hand
  by_cases same : p = q
  · subst same
    exact goes _ _ _ _ (ok p) own
  · rw [(others p same).1]
    exact ok p

section

variable [Fintype ι]

section

variable {M : Type} [AddCommMonoid M]

def total (x : Exchange ι) (n : Hand → M) : M := ∑ p, n (x.hands p)

omit [DecidableEq ι] in
theorem total_congr {n : Hand → M} (same : ∀ p, n (y.hands p) = n (x.hands p)) :
    y.total n = x.total n := Finset.sum_congr rfl fun p _ => same p

theorem total_split (x : Exchange ι) (p : Party ι) (n : Hand → M) :
    x.total n = n (x.hands p) + ∑ q ∈ Finset.univ.erase p, n (x.hands q) :=
  (Finset.add_sum_erase _ _ (Finset.mem_univ p)).symm

theorem total_put_split (x : Exchange ι) (p : Party ι) (hand : Hand) (n : Hand → M) :
    (x.put p hand).total n = n hand + ∑ q ∈ Finset.univ.erase p, n (x.hands q) := by
  have others : ∑ q ∈ Finset.univ.erase p, n ((x.put p hand).hands q) =
      ∑ q ∈ Finset.univ.erase p, n (x.hands q) :=
    Finset.sum_congr rfl fun q mem => by rw [hands_put_of_ne (Finset.ne_of_mem_erase mem)]
  rw [total_split _ p, others, hands_put_self]

theorem total_put_same {p : Party ι} {hand : Hand} {n : Hand → M} (same : n hand = n (x.hands p)) :
    (x.put p hand).total n = x.total n := by
  rw [total_put_split, total_split x p, same]

end

theorem total_put (x : Exchange ι) (p : Party ι) (hand : Hand) (n : Hand → Nat) :
    (x.put p hand).total n + n (x.hands p) = x.total n + n hand := by
  rw [total_put_split, total_split x p]
  omega

omit [DecidableEq ι] in
theorem exists_of_total_pos {n : Hand → Nat} (positive : 0 < x.total n) :
    ∃ p, 0 < n (x.hands p) := by
  obtain ⟨p, -, here⟩ := Finset.exists_ne_zero_of_sum_ne_zero (Nat.pos_iff_ne_zero.mp positive)
  exact ⟨p, Nat.pos_iff_ne_zero.mpr here⟩

end

def sample (options : SessionOptions) : Exchange Unit where
  session := Session.sample true options
  link := { endpoint := { role := .server }, inbound := { capacity := 64 },
            outbound := { capacity := 64 } }
  hands := fun _ => {}

theorem isOpened_sample {options : SessionOptions} (valid : options.validate = .success) :
    (sample options).IsOpened :=
  ⟨Session.isNew_sample true valid, rfl, rfl, rfl, rfl, rfl, fun _ => rfl⟩

instance [Fintype ι] (x : Exchange ι) (op : Op) : Decidable (x.Admits op) :=
  match op with
  | .poll _ | .abandon => inferInstanceAs (Decidable (_ ∧ _))
  | .message _ | .transportError _ | .transportClose _ | .pull _ | .send | .beginHandler
  | .endHandler _ | .setReady _ | .close _ => inferInstanceAs (Decidable True)

inductive Cue (ι : Type)
  | start (p : Party ι) (op : Op)
  | perform (p : Party ι)
  | answer (p : Party ι) (a : Answer)
  | prepare (p : Party ι)
  | serve (p : Party ι)
  | read (r : Wire.Endpoint.Read)
  | tend
  | write

def follow? [Fintype ι] (x : Exchange ι) :
    Cue ι → Option { r : Deed ι × Exchange ι // Step x r.1 r.2 }
  | .start p op =>
    if can : x.isFree p ∧ x.Admits op then some ⟨(_, _), .begins can.1 can.2⟩ else none
  | .perform p =>
    match next : (x.hands p).agenda with
    | .act _ :: _ => some ⟨(_, _), .acts next⟩
    | _ => none
  | .answer p a =>
    match next : (x.hands p).agenda with
    | .wait w :: _ =>
      if foreign : w.isForeign then some ⟨(_, _), .hears next foreign a⟩ else none
    | _ => none
  | .prepare p =>
    match next : (x.hands p).agenda, first : (x.hands p).midway with
    | .wait (.writing _) :: _, false => some ⟨(_, _), .lowers next first⟩
    | .wait (.resuming _) :: _, false => some ⟨(_, _), .releases next first⟩
    | _, _ => none
  | .serve p =>
    match next : (x.hands p).agenda with
    | .wait w :: _ =>
      if ours : w.isForeign = false ∧ (Link.isTwofold w.call → (x.hands p).midway) then
        some ⟨(_, _), .serves next ours.1 ours.2⟩
      else none
    | _ => none
  | .read r =>
    if can : (x.hands .reader).agenda = [] ∧ x.link.reader = .reading then
      some ⟨(_, _), .reads can.1 can.2 x.link.endpoint x.link.inbound x.link.outbound r⟩
    else none
  | .tend =>
    if can : (x.hands .reader).agenda = [] ∧ x.link.reader ≠ .reading then
      some ⟨(_, _), .tends can.1 can.2⟩
    else none
  | .write =>
    if idle : (x.hands .writer).agenda = [] then some ⟨(_, _), .writes idle⟩ else none

def play [Fintype ι] (x : Exchange ι) : List (Cue ι) → List (Deed ι) × Exchange ι
  | [] => ([], x)
  | c :: cs =>
    match x.follow? c with
    | some ⟨(d, y), _⟩ => (d :: (y.play cs).1, (y.play cs).2)
    | none => ([], x)

theorem Run.cons {z : Exchange ι} {ds : List (Deed ι)} (step : Step x d y) (run : Run y ds z) :
    Run x (d :: ds) z := by
  induction run with
  | nil => exact .snoc (.nil x) step
  | snoc run last ih => exact .snoc ih last

theorem Run.unsnoc {ds : List (Deed ι)} (run : Run x (ds ++ [d]) y) :
    ∃ z, Run x ds z ∧ Step z d y := by
  generalize whole : ds ++ [d] = es at run
  cases run with
  | nil => simp at whole
  | snoc run step =>
    obtain ⟨rfl, same⟩ := List.append_inj' whole rfl
    obtain rfl : d = _ := by simpa using same
    exact ⟨_, run, step⟩

theorem Run.split {pre post : List (Deed ι)} (run : Run x (pre ++ d :: post) y) :
    ∃ z z', Run x pre z ∧ Step z d z' := by
  induction post using List.reverseRecOn generalizing y with
  | nil =>
    obtain ⟨z, before, step⟩ := run.unsnoc
    exact ⟨z, y, before, step⟩
  | append_singleton post e ih =>
    rw [← List.cons_append, ← List.append_assoc] at run
    obtain ⟨_, most, -⟩ := run.unsnoc
    exact ih most

theorem run_play [Fintype ι] (x : Exchange ι) (cs : List (Cue ι)) :
    Run x (x.play cs).1 (x.play cs).2 := by
  induction cs generalizing x with
  | nil => exact .nil x
  | cons c cs ih =>
    rw [play]
    split
    · next d y step _ => exact (ih y).cons step
    · exact .nil x

end Exchange

end Duplex

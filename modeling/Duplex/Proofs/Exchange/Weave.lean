import Duplex.Proofs.Exchange.Slot
import Duplex.Proofs.Session.Weave
import Mathlib.Algebra.Order.Group.Multiset

/-!
What several threads do to a session of a link is a woven run: their agendas make up one.
-/

namespace Duplex

open History Machine

variable {ι : Type}

def Happening.isWork (h : Happening) : Bool := h.op?.isNone

def Op.isLink : Op → Bool
  | .message _ | .transportError _ | .transportClose _ | .setReady _ => true
  | _ => false

theorem Link.onRead_isLink (l : Link) (r : Wire.Endpoint.Read) :
    ∀ op ∈ (l.onRead r).op, op.isLink := by
  cases r with
  | item i => cases i <;> simp [onRead, Wire.Item.toMessage?, Op.isLink]
  | _ => simp [onRead, Op.isLink]

theorem Link.stepWriter_isLink (l : Link) : ∀ op ∈ l.stepWriter.op, op.isLink := by
  intro op asked
  rcases (stepWriter_apart l).2.2 op asked with rfl | ⟨e, rfl⟩ <;> rfl

namespace Exchange

variable [Fintype ι]

def frames (x : Exchange ι) : Multiset Frame := x.total fun h => (h.agenda : Multiset Frame)

theorem mem_frames {x : Exchange ι} {f : Frame} :
    f ∈ x.frames ↔ ∃ p, f ∈ (x.hands p).agenda := by
  simp [frames, total, Multiset.mem_sum]

theorem total_countP {x : Exchange ι} {agenda : Agenda} (same : (agenda : Multiset Frame) = x.frames)
    (p : Frame → Bool) : (x.total fun h => h.agenda.countP p) = agenda.countP p := by
  have counts (l : Agenda) : Multiset.countPAddMonoidHom (p ·) (l : Multiset Frame) = l.countP p := by
    simp
  rw [← counts, same, frames, total, total, map_sum]
  exact Finset.sum_congr rfl fun q _ => (counts _).symm

variable {x y : Exchange ι} {ds : List (Deed ι)} {d : Deed ι}

structure Shows (s : Session) (ds : List (Deed ι)) (y : Exchange ι) (hs : List Happening)
    (agenda : Agenda) : Prop where
  run : Woven ⟨s, []⟩ hs ⟨y.session, agenda⟩
  frames : (agenda : Multiset Frame) = y.frames
  work : hs.filter Happening.isWork = work ds

theorem Shows.start (idle : ∀ p, (x.hands p).agenda = []) : Shows x.session [] x [] [] :=
  ⟨.nil _, by simp [Exchange.frames, total, idle], rfl⟩

theorem Shows.filterMap {s : Session} {hs : List Happening} {agenda : Agenda} {α : Type}
    (shows : Shows s ds y hs agenda) {f : Happening → Option α}
    (quiet : ∀ h op, h.op? = some op → f h = none) :
    hs.filterMap f = (History.work ds).filterMap f := by
  rw [← shows.work, List.filterMap_filter]
  refine List.filterMap_congr fun h _ => ?_
  cases begins : h.op? with
  | none => simp [Happening.isWork, begins]
  | some op => simp [Happening.isWork, begins, quiet h op begins]

theorem Shows.countP {s : Session} {hs : List Happening} {agenda : Agenda}
    (shows : Shows s ds y hs agenda) {p : Happening → Bool}
    (quiet : ∀ h op, h.op? = some op → p h = false) : hs.countP p = (History.work ds).countP p := by
  rw [← shows.work, List.countP_filter]
  refine List.countP_congr fun h _ => ?_
  cases begins : h.op? with
  | none => simp [Happening.isWork, begins]
  | some op => simp [Happening.isWork, begins, quiet h op begins]

theorem Shows.mem_work {s : Session} {hs : List Happening} {agenda : Agenda}
    (shows : Shows s ds y hs agenda) {h : Happening} (mem : h ∈ hs) (begins : h.op? = none) :
    h ∈ History.work ds := by
  rw [← shows.work]
  exact List.mem_filter.mpr ⟨mem, by simp [Happening.isWork, begins]⟩

variable [DecidableEq ι]

section

variable {agenda new rest : Agenda} {p : Party ι}

theorem frames_push (same : (agenda : Multiset Frame) = x.frames) (hand : Hand)
    (after : hand.agenda = new ++ (x.hands p).agenda) :
    ((new ++ agenda : Agenda) : Multiset Frame) = (x.put p hand).frames := by
  rw [frames, total_put_split, after, ← Multiset.coe_add, ← Multiset.coe_add, same, frames,
    total_split x p, add_assoc]

theorem frames_pop {f : Frame} (same : (agenda : Multiset Frame) = x.frames)
    (next : (x.hands p).agenda = f :: rest) (hand : Hand) (after : hand.agenda = new ++ rest) :
    ∃ below : Agenda, agenda.Perm (f :: below) ∧
      ((new ++ below : Agenda) : Multiset Frame) = (x.put p hand).frames := by
  let others : Multiset Frame := ∑ q ∈ Finset.univ.erase p, ((x.hands q).agenda : Multiset Frame)
  refine ⟨(↑rest + others).toList, ?_, ?_⟩
  · rw [← Multiset.coe_eq_coe, same, frames, total_split x p, next, ← Multiset.cons_coe,
      ← Multiset.cons_coe, Multiset.coe_toList, Multiset.cons_add]
  · rw [frames, total_put_split, after, ← Multiset.coe_add, ← Multiset.coe_add,
      Multiset.coe_toList, add_assoc]

end

inductive Echo (x : Exchange ι) (agenda : Agenda) (d : Deed ι) (y : Exchange ι) : Prop
  | silent (session : y.session = x.session) (frames : (agenda : Multiset Frame) = y.frames)
    (work : d.work? = none)
  | step (mixed : Agenda) (perm : agenda.Perm mixed) (h : Happening) (below : Agenda)
    (step : Machine.Step ⟨x.session, mixed⟩ h ⟨y.session, below⟩)
    (frames : (below : Multiset Frame) = y.frames)
    (work : d.work?.toList = [h].filter Happening.isWork)

theorem Echo.start {agenda : Agenda} (same : (agenda : Multiset Frame) = x.frames) {op : Op}
    (admitted : admits ⟨x.session, agenda⟩ op) {p : Party ι} {hand : Hand}
    (next : hand.agenda = op.actions.map .act ++ (x.hands p).agenda) {l : Link}
    (work : d.work? = none) : Echo x agenda d { x.put p hand with link := l } := by
  obtain ⟨h, begins, step⟩ := step_of_admits admitted
  exact .step agenda (.refl _) h _ step (frames_push same hand next)
    (by simp [work, Happening.isWork, begins])

theorem Echo.moved {agenda : Agenda} (same : (agenda : Multiset Frame) = x.frames) {p : Party ι}
    (idle : (x.hands p).agenda = []) {m : Link.Move} (link : ∀ op ∈ m.op, op.isLink)
    (work : d.work? = none) : Echo x agenda d (x.moved p m) := by
  unfold Exchange.moved
  cases begun : m.op with
  | none =>
    refine .silent rfl (same.trans (Eq.symm ?_)) work
    exact total_put_same (n := fun h => (h.agenda : Multiset Frame)) (by rw [idle]; rfl)
  | some op =>
    refine .start same ?_ (by rw [idle, List.append_nil]; rfl) work
    have here : op.isLink := link op (by simp [begun])
    cases op <;> first | rfl | simp [Op.isLink] at here

theorem Step.echo {agenda : Agenda} (step : Step x d y)
    (same : (agenda : Multiset Frame) = x.frames) : Echo x agenda d y := by
  cases step with
  | @begins p op free admitted =>
    refine .start same ?_ rfl rfl
    cases op with
    | poll | abandon =>
      obtain ⟨attached, unpolled⟩ := admitted
      have still : isPolling ⟨x.session, agenda⟩ = false := by
        rw [isPolling, List.any_eq_false]
        intro f mem
        have here : f ∈ x.frames := same ▸ Multiset.mem_coe.mpr mem
        obtain ⟨q, mem⟩ := mem_frames.mp here
        simp [unpolled q f mem]
      simp [admits, attached, still]
    | _ => rfl
  | @acts p a rest next =>
    obtain ⟨below, perm, frames⟩ := frames_pop same next
      { x.hands p with agenda := (a.perform x.session).next ++ rest } rfl
    exact .step _ perm _ _ (.act x.session a below) frames rfl
  | @hears p w rest next foreign a =>
    obtain ⟨below, perm, frames⟩ := frames_pop same next
      { x.hands p with agenda := (w.resume a).map .act ++ rest } rfl
    exact .step _ perm _ _ (.answered x.session w below a) frames rfl
  | @serves p w rest next =>
    obtain ⟨below, perm, frames⟩ := frames_pop same next
      { agenda := (w.resume (x.link.conclude w.call).2).map .act ++ rest } rfl
    exact .step _ perm _ _ (.answered x.session w below _) frames rfl
  | lowers next first => exact .start same rfl rfl rfl
  | releases next first => exact .silent rfl (same.trans (total_put_same (by rfl)).symm) rfl
  | reads idle => exact .moved same idle (Link.onRead_isLink _ _) rfl
  | tends idle stage => exact .moved same idle (by simp [Link.stepReader_op stage]) rfl
  | writes idle => exact .moved same idle (Link.stepWriter_isLink _) rfl
  | shifts => exact .silent rfl same rfl

end Exchange

end Duplex

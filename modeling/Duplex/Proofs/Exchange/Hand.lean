import Duplex.Proofs.Exchange.Run
import Duplex.Proofs.Inbound.Fidelity

/-!
What one hand looks like. A pull is always on top of the agenda, since nobody else comes in on its
thread; and halfway through a call, its other half is all that there is to do.
-/

namespace Duplex

open Machine History

def Frame.ofPull : Frame → Bool
  | .act (.take _) | .wait (.resuming _) | .act (.reply (.pulled _)) => true
  | _ => false

inductive Halfway : Agenda → Prop
  | resuming (m : Message) (rest : Agenda) : Halfway (.wait (.resuming m) :: rest)
  | lowering (m : Message) (rest : Agenda) :
    Halfway (.act (.setReady false) :: .act (.reply .unit) :: .wait (.writing m) :: rest)
  | lowered (m : Message) (rest : Agenda) :
    Halfway (.act (.reply .unit) :: .wait (.writing m) :: rest)
  | writing (m : Message) (rest : Agenda) : Halfway (.wait (.writing m) :: rest)

structure Hand.IsSound (h : Hand) : Prop where
  top : ∀ f ∈ h.agenda.tail, f.ofPull = false
  half : h.midway → Halfway h.agenda

theorem ofPull_actions (op : Op) : ∀ f ∈ (op.actions.map Frame.act).tail, f.ofPull = false := by
  cases op <;> simp [Op.actions, Frame.ofPull]

theorem ofPull_resume (w : Wait) (a : Answer) :
    ∀ f ∈ ((w.resume a).map Frame.act).tail, f.ofPull = false := by
  unfold Wait.resume
  split <;> simp

theorem ofPull_next (s : Session) (a : Action) :
    ∀ f ∈ (a.perform s).next.tail, f.ofPull = false := by
  intro f below
  cases trails_next below <;> rfl

theorem ofPull_of_foreign {w : Wait} (foreign : w.isForeign) : (Frame.wait w).ofPull = false := by
  cases w <;> simp_all [Wait.isForeign, Frame.ofPull]

theorem Hand.IsSound.first {h : Hand} (ok : h.IsSound)
    (free : h.agenda = [] ∨ ∃ w rest, h.agenda = .wait w :: rest ∧ w.isForeign) :
    h.midway = false := by
  by_contra midway
  have halfway := ok.half (by simpa using midway)
  rcases free with empty | ⟨w, rest, next, foreign⟩
  · rw [empty] at halfway
    cases halfway
  · rw [next] at halfway
    cases halfway <;> simp [Wait.isForeign] at foreign

theorem Hand.IsSound.goes {s : Session} {old new : Hand} {h : Option Happening} (ok : old.IsSound)
    (goes : Exchange.Goes s old h new) : new.IsSound := by
  have first := ok.first
  obtain ⟨top, half⟩ := ok
  cases goes with
  | stays => exact ⟨top, half⟩
  | begins op free =>
    have below : ∀ f ∈ old.agenda, f.ofPull = false := by
      rcases free with empty | ⟨w, rest, next, foreign⟩
      · simp [empty]
      · rw [next] at top ⊢
        exact List.forall_mem_cons.mpr ⟨ofPull_of_foreign foreign, top⟩
    exact ⟨forall_mem_tail_append (ofPull_actions op) below,
      fun midway => by simp [first free] at midway⟩
  | acts a rest next =>
    rw [next] at top
    refine ⟨forall_mem_tail_append (ofPull_next s a) top, fun midway => ?_⟩
    have halfway := half midway
    rw [next] at halfway
    cases halfway with
    | lowering m below => exact .lowered m below
    | lowered m below => exact .writing m below
  | hears w rest next foreign a =>
    rw [next] at top
    exact ⟨forall_mem_tail_append (ofPull_resume w a) top,
      fun midway => by simp [first (.inr ⟨w, rest, next, foreign⟩)] at midway⟩
  | lowers m rest next =>
    rw [next] at top ⊢
    exact ⟨forall_mem_tail_append (ofPull_actions _) (List.forall_mem_cons.mpr ⟨rfl, top⟩),
      fun _ => .lowering m rest⟩
  | releases m rest next => exact ⟨top, fun _ => by rw [next]; exact .resuming m rest⟩
  | serves w rest next ours prepared a =>
    rw [next] at top
    exact ⟨forall_mem_tail_append (ofPull_resume w a) top, by simp⟩
  | tasked idle op =>
    refine ⟨?_, by simp⟩
    cases op with
    | none => simp
    | some op => exact ofPull_actions op

theorem reply?_of_other {f : Frame} (other : f.ofPull = false) : f.reply? = none := by
  cases f with
  | act a =>
    cases a with
    | reply r => cases r <;> simp_all [Frame.ofPull, Frame.reply?, Action.reply?]
    | _ => rfl
  | wait w => cases w <;> simp_all [Frame.ofPull, Frame.reply?]

theorem Hand.IsSound.replies {s : Session} {old new : Hand} {h : Option Happening}
    (ok : old.IsSound) (goes : Exchange.Goes s old h new) :
    (h.bind Happening.reply?).toList ++ new.agenda.filterMap Frame.reply? =
      old.agenda.filterMap Frame.reply? ++
        ((h.bind Happening.pulled?).map Prod.snd).toList := by
  cases goes with
  | stays | releases => simp
  | begins op | lowers => simp only [List.filterMap_append, reply_actions]; simp
  | tasked idle op =>
    cases op with
    | none => simp [idle]
    | some op => simp [idle, ← reply_actions op]
  | acts a rest next =>
    have top := ok.top
    rw [next] at top
    have below : rest.filterMap Frame.reply? = [] :=
      List.filterMap_eq_nil_iff.mpr fun f mem => reply?_of_other (top f mem)
    rw [next, List.filterMap_append, filterMap_cons_toList, reply_next, below, List.append_nil,
      List.append_nil]
    rfl
  | hears w rest next foreign a | serves w rest next ours prepared a =>
    rw [next, List.filterMap_append, filterMap_cons_toList, reply_resume]
    simp [Happening.reply?, Happening.pulled?]

namespace Exchange

variable {ι : Type} [DecidableEq ι] {x y : Exchange ι} {ds : List (Deed ι)}

theorem sound_run (run : Run x ds y) (start : ∀ p, (x.hands p).IsSound) (p : Party ι) :
    (y.hands p).IsSound := by
  induction run generalizing p with
  | nil => exact start p
  | snoc run step ih => exact step.keeps (fun _ _ _ _ ok => ok.goes) ih p

theorem replies_run (run : Run x ds y) (start : ∀ p, (x.hands p).IsSound) (p : Party ι)
    (idle : (x.hands p).agenda = []) :
    replies (workOf p ds) ++ (y.hands p).agenda.filterMap Frame.reply? =
      (pulled (workOf p ds)).map Prod.snd := by
  induction run with
  | nil => simp [idle, workOf, replies, pulled]
  | @snoc y z ds d run step ih =>
    have moved : ((d.workOf? p).bind Happening.reply?).toList ++
        (z.hands p).agenda.filterMap Frame.reply? = (y.hands p).agenda.filterMap Frame.reply? ++
          (((d.workOf? p).bind Happening.pulled?).map Prod.snd).toList := by
      obtain ⟨q, others, own⟩ := step.hand
      by_cases same : p = q
      · subst same
        exact (sound_run run start p).replies own
      · obtain ⟨kept, none⟩ := others p same
        simp [kept, none]
    rw [replies, pulled, workOf, filterMap_filterMap_snoc, filterMap_filterMap_snoc, ← workOf,
      ← replies, ← pulled, List.append_assoc, moved, ← List.append_assoc, ih, Option.toList_map,
      List.map_append]

end Exchange

end Duplex

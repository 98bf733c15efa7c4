import Duplex.Proofs.Inbound.Turn
import Duplex.Proofs.Session.Agenda
import Duplex.Proofs.Session.New
import Duplex.Proofs.Session.Weave

/-!
Nothing is lost, doubled or reordered on the way in. As long as the inbound sequence has not failed,
the messages taken followed by those still queued are the messages stored; a failure empties the
queue for good. A message is stored exactly if there is room for it, and the queue never outgrows
its capacity.
-/

namespace Duplex

open History

def Action.handed? : Action → Option Message
  | .reply (.pulled (.item m)) => some m
  | _ => none

def Happening.handed? : Happening → Option Message
  | .acted _ a => a.handed?
  | _ => none

/-- The message that a pull in progress has taken and not handed back yet. -/
def Frame.owed? : Frame → Option Message
  | .wait (.resuming m) => some m
  | .wait _ => none
  | .act a => a.handed?

def History.handed (hs : List Happening) : List Message := hs.filterMap Happening.handed?

def Pull.item? : Pull → Option Message
  | .item m => some m
  | _ => none

/-- Who pulls, and what there is for it when it looks. -/
def Happening.pulled? : Happening → Option (Puller × Pull)
  | .acted s (.take p) =>
    match s.inbound.pending with
    | m :: _ => some (p, .item m)
    | [] => some (p, (s.inbound.report p).2)
  | _ => none

def Action.reply? : Action → Option Pull
  | .reply (.pulled x) => some x
  | _ => none

def Happening.reply? : Happening → Option Pull
  | .acted _ a => a.reply?
  | _ => none

def Frame.reply? : Frame → Option Pull
  | .wait (.resuming m) => some (.item m)
  | .wait _ => none
  | .act a => a.reply?

namespace History

def pulled (hs : List Happening) : List (Puller × Pull) := hs.filterMap Happening.pulled?

def replies (hs : List Happening) : List Pull := hs.filterMap Happening.reply?

theorem pulled_snoc (hs : List Happening) (h : Happening) :
    pulled (hs ++ [h]) = pulled hs ++ h.pulled?.toList := filterMap_snoc _ hs h

end History

/-- What a run says about the inbound sequence that it leads to. -/
structure Faithful (g : Setting) (hs : List Happening) (s : Session) : Prop where
  setting : s.setting = g
  bounded : s.inbound.pending.length ≤ g.capacity
  kept : failures hs = [] → taken hs ++ s.inbound.pending = stored hs
  lost : failures hs ≠ [] → s.IsSpent ∧ taken hs <+: stored hs

theorem Faithful.of_silent {g : Setting} {hs : List Happening} {h : Happening} {s : Session}
    (ok : Faithful g hs s) (stored_eq : h.stored? = none) (taken_eq : h.taken? = none)
    (failure_eq : h.failure? = none) : Faithful g (hs ++ [h]) s := by
  refine ⟨ok.setting, ok.bounded, ?_, ?_⟩ <;>
    simp only [stored_snoc, taken_snoc, failures_snoc, stored_eq, taken_eq, failure_eq,
      Option.toList_none, List.append_nil]
  · exact ok.kept
  · exact ok.lost

theorem Faithful.no_failures {g : Setting} {hs : List Happening} {s : Session}
    (ok : Faithful g hs s) (unspent : ¬ s.IsSpent) : failures hs = [] := by
  by_contra failed
  exact unspent (ok.lost failed).1

theorem Faithful.taken_prefix {g : Setting} {hs : List Happening} {s : Session}
    (ok : Faithful g hs s) : taken hs <+: stored hs := by
  by_cases failed : failures hs = []
  · exact ⟨_, ok.kept failed⟩
  · exact (ok.lost failed).2

theorem Faithful.perform {g : Setting} {hs : List Happening} {s : Session}
    (ok : Faithful g hs s) (a : Action) :
    Faithful g (hs ++ [.acted s a]) (a.perform s).session := by
  have setting := (changes_perform s a).setting_eq.trans ok.setting
  cases turn_perform s a with
  | quiet same stays ignored stored_eq taken_eq failure_eq =>
    have here := ok.of_silent stored_eq taken_eq failure_eq
    refine ⟨setting, by rw [same]; exact here.bounded, by rw [same]; exact here.kept, ?_⟩
    intro failed
    obtain ⟨spent, order⟩ := here.lost failed
    exact ⟨⟨stays spent.ended, same.trans spent.empty⟩, order⟩
  | stores m live room grown stored_eq taken_eq failure_eq =>
    have unfailed : failures hs = [] := ok.no_failures fun spent => by
      simp [spent.ended] at live
    have kept := ok.kept unfailed
    refine ⟨setting, ?_, ?_, ?_⟩
    · rw [grown, List.length_append, List.length_singleton, ← ok.setting]
      omega
    · intro _
      rw [stored_snoc, taken_snoc, stored_eq, taken_eq, grown, ← kept]
      simp
    · intro failed
      simp [failures_snoc, failure_eq, unfailed] at failed
  | takes m oldest same resumes stored_eq taken_eq failure_eq =>
    have unfailed : failures hs = [] := ok.no_failures fun spent => by
      simp [spent.empty] at oldest
    have kept := ok.kept unfailed
    have bounded := ok.bounded
    rw [oldest] at kept bounded
    refine ⟨setting, ?_, ?_, ?_⟩
    · rw [List.length_cons] at bounded
      omega
    · intro _
      rw [stored_snoc, taken_snoc, stored_eq, taken_eq, ← kept]
      simp
    · intro failed
      simp [failures_snoc, failure_eq, unfailed] at failed
  | fails e live lost ended stored_eq taken_eq failure_eq =>
    refine ⟨setting, by rw [lost]; exact Nat.zero_le _, ?_, ?_⟩
    · intro unfailed
      simp [failures_snoc, failure_eq] at unfailed
    · intro _
      refine ⟨⟨by simp [Inbound.isLive, ended], lost⟩, ?_⟩
      rw [stored_snoc, taken_snoc, stored_eq, taken_eq]
      simpa using ok.taken_prefix

theorem Faithful.step {g : Setting} {hs : List Happening} {m n : Machine} {h : Happening}
    (ok : Faithful g hs m.session) (step : Machine.Step m h n) :
    Faithful g (hs ++ [h]) n.session := by
  cases step using Machine.Step.kinds with
  | began | intruded | answered => exact ok.of_silent rfl rfl rfl
  | acted s a rest => exact ok.perform a

theorem Faithful.run {s : Session} {hs : List Happening} {m : Machine}
    (fresh : s.inbound.pending = []) (run : Machine.Run ⟨s, []⟩ hs m) :
    Faithful s.setting hs m.session := by
  induction run with
  | nil => exact ⟨rfl, by simp [fresh], by simp [fresh, taken, stored], by simp [failures]⟩
  | snoc run step ih => exact ih.step step

theorem items_eq (hs : List Happening) : (pulled hs).filterMap (·.2.item?) = taken hs := by
  rw [pulled, List.filterMap_filterMap]
  congr
  funext h
  cases h with
  | acted s a =>
    cases a with
    | take p =>
      cases queue : s.inbound.pending with
      | cons m rest => simp [Happening.pulled?, Happening.taken?, queue, Pull.item?]
      | nil =>
        simp only [Happening.pulled?, Happening.taken?, queue, Inbound.report]
        split <;> rfl
    | _ => rfl
  | _ => rfl

theorem reply_actions (op : Op) : (op.actions.map Frame.act).filterMap Frame.reply? = [] := by
  cases op <;> rfl

theorem reply_resume (w : Wait) (a : Answer) :
    ((w.resume a).map Frame.act).filterMap Frame.reply? = (Frame.wait w).reply?.toList := by
  unfold Wait.resume
  split <;> rfl

theorem reply?_of_ofPoll {a : Action} (stage : a.ofPoll) : a.reply? = none := by
  cases a with
  | reply r =>
    cases r with
    | polled o => rfl
    | _ => simp [Action.ofPoll] at stage
  | _ => rfl

theorem reply_next (s : Session) (a : Action) :
    (a.perform s).next.filterMap Frame.reply? =
      ((Happening.acted s a).pulled?.map Prod.snd).toList := by
  cases a with
  | take p =>
    cases queue : s.inbound.pending with
    | cons m rest =>
      simp [Action.perform, Session.take_of_cons p queue, Happening.pulled?, queue, Frame.reply?]
    | nil =>
      rw [Action.perform, Session.take_of_nil p queue]
      simp only [Happening.pulled?, queue]
      rfl
  | _ =>
    refine filterMap_next s fun f leads => ?_
    cases leads with
    | poll _ b _ stage => exact reply?_of_ofPoll stage
    | _ => rfl

theorem replies_perm {s : Session} {hs : List Happening} {m : Machine}
    (run : Machine.Woven ⟨s, []⟩ hs m) :
    (replies hs ++ m.agenda.filterMap Frame.reply?).Perm ((pulled hs).map Prod.snd) := by
  rw [pulled, List.map_filterMap]
  refine run.settles ?_ ?_ ?_
  · intro h op begins
    rw [reply_actions]
    cases h <;> simp [Happening.op?, Happening.reply?, Happening.pulled?] at begins ⊢
  · intro t a
    rw [reply_next]
    exact .refl _
  · intro w a
    rw [reply_resume]
    simp [Happening.reply?, Happening.pulled?]

theorem handed?_eq (a : Action) : a.handed? = a.reply?.bind Pull.item? := by
  cases a with
  | reply r =>
    cases r with
    | pulled x => cases x <;> rfl
    | _ => rfl
  | _ => rfl

theorem handed_perm {s : Session} {hs : List Happening} {m : Machine}
    (run : Machine.Run ⟨s, []⟩ hs m) :
    (handed hs ++ m.agenda.filterMap Frame.owed?).Perm (taken hs) := by
  have handed_eq : handed hs = (replies hs).filterMap Pull.item? := by
    rw [handed, replies, List.filterMap_filterMap]
    congr
    funext h
    cases h with
    | acted t a => exact handed?_eq a
    | _ => rfl
  have owed_eq : m.agenda.filterMap Frame.owed? =
      (m.agenda.filterMap Frame.reply?).filterMap Pull.item? := by
    rw [List.filterMap_filterMap]
    congr
    funext f
    cases f with
    | act a => exact handed?_eq a
    | wait w => cases w <;> rfl
  have messages := (replies_perm run.woven).filterMap Pull.item?
  rw [List.filterMap_append, List.filterMap_map] at messages
  rw [handed_eq, owed_eq, ← items_eq]
  exact messages

theorem store_live {s : Session} (x : Message) (live : s.inbound.isLive) :
    ((s.store x).session.inbound.pending = s.inbound.pending ++ [x] ↔
      s.inbound.pending.length < s.setting.capacity) ∧
    (s.setting.capacity ≤ s.inbound.pending.length →
      (s.store x).session.inbound.pending = [] ∧
      (s.store x).session.inbound.phase = .failed s.setting.overflow) := by
  by_cases room : s.inbound.pending.length < s.setting.capacity
  · refine ⟨by simp [Session.store_of_room x live room, room], fun full => ?_⟩
    omega
  · simp [Session.store_of_full x live (Nat.not_lt.mp room), room]

theorem inbound_fidelity {s : Session} {hs : List Happening} {m : Machine} (new : s.IsNew)
    (run : Machine.Run ⟨s, []⟩ hs m) :
    1 ≤ s.setting.capacity ∧
    m.session.inbound.pending.length ≤ s.setting.capacity ∧
    (handed hs ++ m.agenda.filterMap Frame.owed?).Perm (taken hs) ∧
    (failures hs = [] → taken hs ++ m.session.inbound.pending = stored hs) ∧
    (failures hs ≠ [] → m.session.inbound.pending = [] ∧ taken hs <+: stored hs ∧
      ∀ gs n, Machine.Run m gs n → taken gs = []) ∧
    ∀ t x, .acted t (.store x) ∈ hs → t.inbound.isLive →
      let after := ((Action.store x).perform t).session.inbound
      (after.pending = t.inbound.pending ++ [x] ↔
        t.inbound.pending.length < s.setting.capacity) ∧
      (s.setting.capacity ≤ t.inbound.pending.length →
        after.pending = [] ∧ after.phase = .failed (if s.setting.suspendable
          then .deliveredWhileSuspended else .receiveOverflow s.setting.capacity)) := by
  have fresh : s.inbound.pending = [] := by
    obtain ⟨g, c, rfl, -⟩ := new.cases
    rfl
  have ok := Faithful.run fresh run
  refine ⟨new.capacity_pos, ok.bounded, handed_perm run, ok.kept, ?_, ?_⟩
  · intro failed
    obtain ⟨spent, order⟩ := ok.lost failed
    exact ⟨spent.empty, order, fun gs n later => (spent.run later).2⟩
  · intro t x acted live
    obtain ⟨pre, post, rest, -, before⟩ := run.before_action acted
    have setting : t.setting = s.setting := (Faithful.run fresh before).setting
    rw [← setting]
    exact store_live x live

/-- A second message delivered from within the call that was to hold it back: it is stored, the
first one finds no room, and the sequence fails. -/
theorem inbound_fidelity_nested :
    let a := Message.binary [1]
    let b := Message.binary [2]
    let s := Session.sample true {}
    let r := Machine.play ⟨s, []⟩ [.start (.message a), .perform, .start (.message b), .perform,
      .answer .done, .perform, .perform, .answer .done, .perform]
    s.IsNew ∧ Machine.Run ⟨s, []⟩ r.1 r.2 ∧ stored r.1 = [b] ∧
      failures r.1 = [.deliveredWhileSuspended] ∧ r.2.session.inbound.pending = [] ∧
      ∀ gs n, Machine.Run r.2 gs n → taken gs = [] := by
  intro a b s r
  have new : s.IsNew := Session.isNew_sample true rfl
  have run : Machine.Run ⟨s, []⟩ r.1 r.2 := Machine.run_play _ _
  have failed : failures r.1 = [.deliveredWhileSuspended] := by decide +kernel
  obtain ⟨-, -, -, -, lost, -⟩ := inbound_fidelity new run
  obtain ⟨empty, -, never⟩ := lost (by simp [failed])
  exact ⟨new, run, by decide +kernel, failed, empty, never⟩

end Duplex

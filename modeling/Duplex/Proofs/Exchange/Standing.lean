import Duplex.Proofs.Exchange.Pace
import Duplex.Proofs.Exchange.Windup

/-!
How the outbound side of an exchange stands: the send goes on, the session is being ended on the
hand of the poll that finished the send, or the send has resolved.
-/

namespace Duplex

open History

variable {ι : Type}

def Happening.shut? : Happening → Option CloseStatus
  | .answered (.closing _ _) (.failed _) => none
  | .answered (.closing s _) _ => some s
  | _ => none

namespace History

def shut (hs : List Happening) : List CloseStatus := hs.filterMap Happening.shut?

def IsResolved (hs : List Happening) : Prop := ∃ h ∈ hs, h.resolution?.isSome

theorem shut_snoc (hs : List Happening) (h : Happening) :
    shut (hs ++ [h]) = shut hs ++ h.shut?.toList := filterMap_snoc _ hs h

theorem unresolved_snoc {hs : List Happening} {h : Happening} (before : ¬ IsResolved hs)
    (last : h.resolution? = none) : ¬ IsResolved (hs ++ [h]) := by
  rintro ⟨g, mem, resolved⟩
  rcases List.mem_append.mp mem with mem | mem
  · exact before ⟨g, mem, resolved⟩
  · obtain rfl := List.mem_singleton.mp mem
    simp [last] at resolved

end History

def Session.farewell (s : Session) : List CloseStatus :=
  if s.setting.options.closeOnSendComplete then [.normal] else []

theorem farewell_perform (s : Session) (a : Action) :
    (a.perform s).session.farewell = s.farewell := by
  rw [Session.farewell, (changes_perform _ _).setting_eq, ← Session.farewell]

def Frame.isStill (f : Frame) : Bool := !f.isWindup && !f.isReport && !f.ofPoll

theorem isStill_iff {f : Frame} :
    f.isStill ↔ f.isWindup = false ∧ f.isReport = false ∧ f.ofPoll = false := by
  simp [Frame.isStill, and_assoc]

structure Exchange.IsSpent (items : List Message) (ds : List (Deed ι)) (x : Exchange ι) : Prop where
  accepted : accepted (work ds) = items
  handed : items.map .ofMessage <+: sent ds
  flushed : items.map .ofMessage <+: flushed ds
  gone : x.session.writer = none
  attached : x.session.control.isSome

def Frame.resolves : Frame := .act (.reply (.polled (some .success)))

inductive Standing (items : List Message) (ds : List (Deed ι)) (x : Exchange ι) : Prop
  | working (fresh : x.session.IsFresh) (unfinished : ∀ h ∈ work ds, h.finishes = false)
    (unresolved : ¬ IsResolved (work ds)) (unshut : shut (work ds) = []) (opened : x.link.IsOpen)
    (early : ∀ p, ∀ f ∈ (x.hands p).agenda, f.isWindup = false ∧ f.isReport = false)
  | ending (p : Party ι) (front rest : Agenda)
    (next : (x.hands p).agenda = front ++ .resolves :: rest) (chain : Chain x.session front)
    (unresolved : ¬ IsResolved (work ds))
    (shut : shut (work ds) = if front = [] then x.session.farewell else [])
    (opened : front ≠ [] → x.link.IsOpen) (spent : x.IsSpent items ds)
    (still : ∀ f ∈ rest, f.isStill) (others : ∀ q ≠ p, ∀ f ∈ (x.hands q).agenda, f.isStill)
  | past (shut : shut (work ds) = x.session.farewell) (spent : x.IsSpent items ds)
    (quiet : ∀ p, ∀ f ∈ (x.hands p).agenda, f.isWindup = false ∧ f.ofPoll = false)

variable {items : List Message} {ds : List (Deed ι)} {d : Deed ι} {x : Exchange ι}

theorem Chain.head {s : Session} {front : Agenda} (chain : Chain s front) (rest : Agenda) :
    ∃ f ∈ (front ++ .resolves :: rest).head?, f.isWindup := by
  rcases chain.cases with rfl | ⟨a, rfl, late⟩ | rfl
  · exact ⟨_, rfl, rfl⟩
  · exact ⟨_, rfl, late⟩
  · exact ⟨_, rfl, rfl⟩

theorem Exchange.IsSpent.later {y : Exchange ι} (spent : x.IsSpent items ds)
    (same : History.accepted (work (ds ++ [d])) = History.accepted (work ds))
    (gone : y.session.writer = none) (attached : y.session.control.isSome) :
    y.IsSpent items (ds ++ [d]) :=
  ⟨same.trans spent.accepted, spent.handed.trans (sent_mono ds d),
    spent.flushed.trans (flushed_mono ds d), gone, attached⟩

theorem work_idle (idle : d.work? = none) : work (ds ++ [d]) = work ds := by simp [work_snoc, idle]

def Deed.isAside (d : Deed ι) : Prop :=
  d.work? = none ∨ ∃ w a, d.work? = some (.answered w a) ∧ ∀ s f, w ≠ .closing s f

section

variable (aside : d.isAside)

include aside

theorem unresolved_aside (before : ¬ IsResolved (work ds)) : ¬ IsResolved (work (ds ++ [d])) := by
  rw [work_snoc]
  rcases aside with none | ⟨w, a, answered, -⟩
  · simpa [none] using before
  · rw [answered]
    exact unresolved_snoc before rfl

theorem unfinished_aside (before : ∀ h ∈ work ds, h.finishes = false) :
    ∀ h ∈ work (ds ++ [d]), h.finishes = false := by
  rw [work_snoc]
  rcases aside with none | ⟨w, a, answered, -⟩
  · simpa [none] using before
  · rw [answered]
    exact forall_mem_snoc before rfl

theorem shut_aside : shut (work (ds ++ [d])) = shut (work ds) := by
  rw [work_snoc]
  rcases aside with none | ⟨w, a, answered, other⟩
  · simp [none]
  · have unshut : (Happening.answered w a).shut? = none := by
      unfold Happening.shut?
      split <;> simp_all
    rw [answered, Option.toList_some, shut_snoc, unshut]
    simp

end

variable [DecidableEq ι]

theorem Standing.put (ok : Standing items ds x) (aside : d.isAside) {q : Party ι} {hand : Hand}
    {l : Link} {old new rest : Agenda} (before : (x.hands q).agenda = old ++ rest)
    (after : hand.agenda = new ++ rest)
    (head : ∀ f ∈ (x.hands q).agenda.head?, f.isWindup = false)
    (early : ∀ f ∈ new, f.isWindup = false)
    (calm : ∀ f ∈ new, f.isReport → IsResolved (work ds))
    (idle : ∀ f ∈ new, f.ofPoll → x.session.writer.isSome ∨ ∃ g ∈ old, g.ofPoll)
    (same : accepted (work (ds ++ [d])) = accepted (work ds) ∨ ∃ g ∈ old, g.ofPoll)
    (opened : x.link.IsOpen → l.IsOpen ∨ IsResolved (work ds)) :
    Standing items (ds ++ [d]) { x.put q hand with link := l } := by
  have in_old {g : Frame} (mem : g ∈ old) : g ∈ (x.hands q).agenda := by simp [before, mem]
  have in_rest {g : Frame} (mem : g ∈ rest) : g ∈ (x.hands q).agenda := by simp [before, mem]
  have goes_on (open_ : x.link.IsOpen) (unresolved : ¬ IsResolved (work ds)) : l.IsOpen := by
    rcases opened open_ with still | resolved
    · exact still
    · exact absurd resolved unresolved
  have spends (spent : x.IsSpent items ds) (unpolled : ∀ g ∈ (x.hands q).agenda, g.ofPoll = false) :
      Exchange.IsSpent items (ds ++ [d]) { x.put q hand with link := l } := by
    refine spent.later ?_ spent.gone spent.attached
    rcases same with same | ⟨g, mem, own⟩
    · exact same
    · simp [unpolled g (in_old mem)] at own
  have unbegun (spent : x.IsSpent items ds) (unpolled : ∀ g ∈ (x.hands q).agenda, g.ofPoll = false)
      (f : Frame) (mem : f ∈ new) : f.ofPoll = false := by
    by_contra own
    rcases idle f mem (by simpa using own) with here | ⟨g, mem, own⟩
    · simp [spent.gone] at here
    · simp [unpolled g (in_old mem)] at own
  cases ok with
  | working fresh unfinished unresolved unshut open_ none_late =>
    refine .working fresh (unfinished_aside aside unfinished) (unresolved_aside aside unresolved)
      ((shut_aside aside).trans unshut) (goes_on open_ unresolved) ?_
    refine Exchange.forall_put
      (P := fun _ h => ∀ f ∈ h.agenda, f.isWindup = false ∧ f.isReport = false)
      (fun r _ => none_late r) ?_
    rw [after]
    refine List.forall_mem_append.mpr ⟨fun f mem => ⟨early f mem, ?_⟩,
      fun f mem => none_late q f (in_rest mem)⟩
    by_contra report
    exact unresolved (calm f mem (by simpa using report))
  | ending p front below next chain unresolved told open_ spent still others =>
    -- The frames are put on another hand: this one has a frame of the end on top.
    have apart : q ≠ p := by
      rintro rfl
      obtain ⟨f, top, late⟩ := chain.head below
      rw [next] at head
      simp [head f top] at late
    have unpolled (g : Frame) (mem : g ∈ (x.hands q).agenda) : g.ofPoll = false :=
      (isStill_iff.mp (others q apart g mem)).2.2
    refine .ending p front below ?_ chain (unresolved_aside aside unresolved)
      ((shut_aside aside).trans told) (fun going => goes_on (open_ going) unresolved)
      (spends spent unpolled) still fun r other => ?_
    · dsimp only
      rw [Exchange.hands_put_of_ne apart.symm, next]
    · by_cases own : r = q
      · subst own
        dsimp only
        rw [Exchange.hands_put_self, after]
        refine List.forall_mem_append.mpr ⟨fun f mem => ?_,
          fun f mem => others r other f (in_rest mem)⟩
        refine isStill_iff.mpr ⟨early f mem, ?_, unbegun spent unpolled f mem⟩
        by_contra report
        exact unresolved (calm f mem (by simpa using report))
      · dsimp only
        rw [Exchange.hands_put_of_ne own]
        exact others r other
  | past told spent quiet =>
    have unpolled (g : Frame) (mem : g ∈ (x.hands q).agenda) : g.ofPoll = false := (quiet q g mem).2
    refine .past ((shut_aside aside).trans told) (spends spent unpolled) ?_
    refine Exchange.forall_put
      (P := fun _ h => ∀ f ∈ h.agenda, f.isWindup = false ∧ f.ofPoll = false) (fun r _ => quiet r) ?_
    rw [after]
    exact List.forall_mem_append.mpr ⟨fun f mem => ⟨early f mem, unbegun spent unpolled f mem⟩,
      fun f mem => quiet q f (in_rest mem)⟩

omit [DecidableEq ι] in
theorem Standing.shift (ok : Standing items ds x) (idle : d.work? = none) {l : Link}
    (opened : x.link.IsOpen → l.IsOpen) : Standing items (ds ++ [d]) { x with link := l } := by
  have same : work (ds ++ [d]) = work ds := work_idle idle
  have spends (spent : x.IsSpent items ds) :
      Exchange.IsSpent items (ds ++ [d]) { x with link := l } :=
    spent.later (congrArg accepted same) spent.gone spent.attached
  cases ok with
  | working fresh unfinished unresolved unshut open_ early =>
    exact .working fresh (same ▸ unfinished) (same ▸ unresolved) (same ▸ unshut) (opened open_) early
  | ending p front below next chain unresolved told open_ spent still others =>
    exact .ending p front below next chain (same ▸ unresolved) (same ▸ told)
      (fun going => opened (open_ going)) (spends spent) still others
  | past told spent quiet => exact .past (same ▸ told) (spends spent) quiet

theorem resolution?_early {s : Session} {a : Action} (early : (Frame.act a).isWindup = false) :
    (Happening.acted s a).resolution? = none := by
  unfold Happening.resolution?
  split
  · simp_all [Frame.isWindup]
  · rfl

theorem finishes_acted {s : Session} {a : Action} (unfinishing : ∀ o, a ≠ .finish o) :
    (Happening.acted s a).finishes = false := by
  unfold Happening.finishes
  split <;> simp_all

def Exchange.acted (x : Exchange ι) (q : Party ι) (a : Action) (rest : Agenda) : Exchange ι :=
  { x.put q { x.hands q with agenda := (a.perform x.session).next ++ rest } with
    session := (a.perform x.session).session }

structure Exchange.Completes (items : List Message) (ds : List (Deed ι)) (x : Exchange ι)
    (q : Party ι) (rest : Agenda) (o : Outcome) : Prop where
  success : o = .success
  accepted : accepted (work ds) = items
  handed : x.link.IsOpen → shut (work ds) = [] → sent ds = items.map .ofMessage
  flushed : items.map .ofMessage <+: flushed ds
  alone : ∀ f ∈ rest, f.ofPoll = false
  others : ∀ r ≠ q, ∀ f ∈ (x.hands r).agenda, f.ofPoll = false

section

variable {q : Party ι} {a : Action} {rest : Agenda}

omit [DecidableEq ι] in
theorem work_acted : work (ds ++ [.did q (.acted x.session a)]) = work ds ++ [.acted x.session a] :=
  work_snoc ds _

omit [DecidableEq ι] in
theorem shut_acted : shut (work (ds ++ [.did q (.acted x.session a)])) = shut (work ds) := by
  rw [work_acted, shut_snoc]
  exact List.append_nil _

omit [DecidableEq ι] in
theorem accepted_acted :
    accepted (work (ds ++ [.did q (.acted x.session a)])) = accepted (work ds) := by
  rw [work_acted, accepted_snoc]
  exact List.append_nil _

omit [DecidableEq ι] in
theorem unresolved_acted (before : ¬ IsResolved (work ds))
    (last : (Happening.acted x.session a).resolution? = none) :
    ¬ IsResolved (work (ds ++ [.did q (.acted x.session a)])) := by
  rw [work_acted]
  exact unresolved_snoc before last

omit [DecidableEq ι] in
theorem Exchange.IsSpent.act {y : Exchange ι} (spent : x.IsSpent items ds)
    (opens : a = .openWriter → x.session.control = none)
    (after : y.session = (a.perform x.session).session) :
    y.IsSpent items (ds ++ [.did q (.acted x.session a)]) := by
  refine spent.later accepted_acted ?_ ?_
  · rw [after]
    refine (changes_perform _ _).writer_eq_none spent.gone fun opening => ?_
    simpa [opens opening] using spent.attached
  · rw [after]
    exact (changes_perform _ a).control_isSome spent.attached

theorem hands_acted_self : ((x.acted q a rest).hands q).agenda =
    (a.perform x.session).next ++ rest := by
  rw [Exchange.acted]
  exact congrArg Hand.agenda (Exchange.hands_put_self ..)

theorem hands_acted_of_ne {r : Party ι} (other : r ≠ q) :
    (x.acted q a rest).hands r = x.hands r := Exchange.hands_put_of_ne other _

theorem forall_acted {P : Frame → Prop} (others : ∀ r ≠ q, ∀ f ∈ (x.hands r).agenda, P f)
    (below : ∀ f ∈ rest, P f) (new : ∀ f ∈ (a.perform x.session).next, P f) :
    ∀ r, ∀ f ∈ ((x.acted q a rest).hands r).agenda, P f := by
  intro r
  by_cases own : r = q
  · rw [own, hands_acted_self]
    exact List.forall_mem_append.mpr ⟨new, below⟩
  · rw [hands_acted_of_ne own]
    exact others r own

theorem Standing.finish {o : Outcome} (fresh : x.session.IsFresh)
    (unresolved : ¬ IsResolved (work ds)) (unshut : shut (work ds) = []) (opened : x.link.IsOpen)
    (early : ∀ p, ∀ f ∈ (x.hands p).agenda, f.isWindup = false ∧ f.isReport = false)
    (next : (x.hands q).agenda = .act (.finish o) :: rest)
    (complete : x.Completes items ds q rest o) :
    Standing items (ds ++ [.did q (.acted x.session (.finish o))]) (x.acted q (.finish o) rest) := by
  obtain ⟨rfl, whole, handed, all, alone, others⟩ := complete
  have after : ((Action.finish .success).perform x.session).next =
      [.act (.conclude .success), .resolves] := by
    simp [Action.perform, Session.finish, outcome_control, fresh.undecided, Frame.resolves]
  refine .ending q [.act (.conclude .success)] rest (by rw [hands_acted_self, after]; rfl)
    (.concluding fresh.unfinal fresh.unclosed) (unresolved_acted unresolved rfl)
    (shut_acted.trans unshut) (fun _ => opened)
    ⟨accepted_acted.trans whole, (handed opened unshut).symm ▸ sent_mono ds _,
      all.trans (flushed_mono ds _), rfl, rfl⟩ (fun f mem => ?_)
    fun r other f mem => ?_
  · obtain ⟨unending, calm⟩ := early q f (by simp [next, mem])
    exact isStill_iff.mpr ⟨unending, calm, alone f mem⟩
  · rw [hands_acted_of_ne other] at mem
    obtain ⟨unending, calm⟩ := early r f mem
    exact isStill_iff.mpr ⟨unending, calm, others r other f mem⟩

theorem Standing.proceed {front below : Agenda} (next : (x.hands q).agenda = .act a :: rest)
    (chained : (x.hands q).agenda = front ++ .resolves :: below) (chain : Chain x.session front)
    (opens : a = .openWriter → x.session.control = none)
    (unresolved : ¬ IsResolved (work ds))
    (told : shut (work ds) = if front = [] then x.session.farewell else [])
    (opened : front ≠ [] → x.link.IsOpen) (spent : x.IsSpent items ds)
    (still : ∀ f ∈ below, f.isStill) (others : ∀ r ≠ q, ∀ f ∈ (x.hands r).agenda, f.isStill) :
    Standing items (ds ++ [.did q (.acted x.session a)]) (x.acted q a rest) := by
  rw [next] at chained
  have others' : ∀ r ≠ q, ∀ f ∈ ((x.acted q a rest).hands r).agenda, f.isStill := by
    intro r other
    rw [hands_acted_of_ne other]
    exact others r other
  rcases chain.cases with rfl | ⟨b, rfl, late⟩ | rfl
  · obtain ⟨same, rfl⟩ := List.cons.inj chained
    obtain rfl := Frame.act.inj same
    refine .past (shut_acted.trans told) (spent.act opens rfl) ?_
    have quiet {f : Frame} (here : f.isStill) : f.isWindup = false ∧ f.ofPoll = false :=
      ⟨(isStill_iff.mp here).1, (isStill_iff.mp here).2.2⟩
    exact forall_acted (fun r other f mem => quiet (others r other f mem))
      (fun f mem => quiet (still f mem)) (by simp [Action.perform])
  · obtain ⟨same, rfl⟩ := List.cons.inj chained
    obtain rfl := Frame.act.inj same
    obtain ⟨further, undue⟩ := chain.act
    have unanswered : (Happening.acted x.session a).resolution? = none := by cases chain <;> rfl
    refine .ending q (a.perform x.session).next below hands_acted_self further
      (unresolved_acted unresolved unanswered) ?_ (fun _ => opened (by simp))
      (spent.act opens rfl) still others'
    rw [shut_acted, told, if_neg (by simp)]
    split
    · rename_i done
      rw [Exchange.acted, farewell_perform, Session.farewell, undue done]
      rfl
    · rfl
  · simp at chained

theorem Standing.act (ok : Standing items ds x) (next : (x.hands q).agenda = .act a :: rest)
    (opens : a = .openWriter → x.session.control = none)
    (finishes : ∀ o, a = .finish o → x.session.outcome? = none →
      (∀ h ∈ work ds, h.finishes = false) → x.Completes items ds q rest o) :
    Standing items (ds ++ [.did q (.acted x.session a)]) (x.acted q a rest) := by
  have top : .act a ∈ (x.hands q).agenda := by simp [next]
  have in_rest {f : Frame} (mem : f ∈ rest) : f ∈ (x.hands q).agenda := by simp [next, mem]
  have unfinishing_of (unpolled : a.ofPoll = false) (o : Outcome) : a ≠ .finish o := by
    rintro rfl
    simp [Action.ofPoll] at unpolled
  have unrecorded_of (calm : (Frame.act a).isReport = false) : ¬ ∃ o, a = .record o := by
    rintro ⟨o, rfl⟩
    simp [Frame.isReport] at calm
  cases ok with
  | working fresh unfinished unresolved unshut opened none_late =>
    obtain ⟨early, calm⟩ := none_late q _ top
    -- Only the poll that finishes the send leaves this stage.
    by_cases finishing : ∃ o, a = .finish o
    · obtain ⟨o, rfl⟩ := finishing
      exact .finish fresh unresolved unshut opened none_late next
        (finishes o rfl fresh.undecided unfinished)
    have unfinishing : ∀ o, a ≠ .finish o := fun o same => finishing ⟨o, same⟩
    refine .working (fresh.perform early calm unfinishing) ?_
      (unresolved_acted unresolved (resolution?_early early)) (shut_acted.trans unshut) opened
      (forall_acted (fun r _ => none_late r) (fun f mem => none_late q f (in_rest mem))
        fun f mem => ⟨?_, report_next (not_exists.mp (unrecorded_of calm)) f mem⟩)
    · rw [work_acted]
      exact forall_mem_snoc unfinished (finishes_acted unfinishing)
    · exact late_next early unfinishing (fun recorded => absurd recorded (unrecorded_of calm)) f mem
  | ending p front below chained chain unresolved told opened spent still others =>
    by_cases own : q = p
    · subst own
      exact .proceed next chained chain opens unresolved told opened spent still others
    obtain ⟨early, calm, unpolled⟩ := isStill_iff.mp (others q own _ top)
    refine .ending p front below ?_ (chain.beside early calm)
      (unresolved_acted unresolved (resolution?_early early)) ?_ opened (spent.act opens rfl) still
      fun r other => ?_
    · rw [hands_acted_of_ne (Ne.symm own), chained]
    · rw [shut_acted, told, Exchange.acted, farewell_perform]
    · by_cases here : r = q
      · rw [here, hands_acted_self]
        refine List.forall_mem_append.mpr ⟨fun f mem => isStill_iff.mpr ⟨?_,
          report_next (not_exists.mp (unrecorded_of calm)) f mem, ofPoll_next unpolled f mem⟩,
          fun f mem => others q own f (in_rest mem)⟩
        exact late_next early (unfinishing_of unpolled)
          (fun recorded => absurd recorded (unrecorded_of calm)) f mem
      · rw [hands_acted_of_ne here]
        exact others r other
  | past told spent quiet =>
    obtain ⟨early, unpolled⟩ := quiet q _ top
    refine .past ?_ (spent.act opens rfl) (forall_acted (fun r _ => quiet r)
      (fun f mem => quiet q f (in_rest mem)) fun f mem => ⟨?_, ofPoll_next unpolled f mem⟩)
    · rw [shut_acted, told, Exchange.acted, farewell_perform]
    · exact late_next early (unfinishing_of unpolled) (fun _ => spent.attached) f mem

end

section

variable {q : Party ι} {rest : Agenda}

omit [DecidableEq ι] in
theorem Standing.writing (ok : Standing items ds x) {m : Message}
    (next : (x.hands q).agenda = .wait (.writing m) :: rest) :
    x.link.IsOpen ∧ shut (work ds) = [] := by
  have top : .wait (.writing m) ∈ (x.hands q).agenda := by simp [next]
  cases ok with
  | working _ _ _ unshut opened => exact ⟨opened, unshut⟩
  | ending p front below chained chain _ _ _ _ _ others =>
    by_cases own : q = p
    · subst own
      obtain ⟨f, head, late⟩ := chain.head below
      rw [← chained, next] at head
      obtain rfl := Option.some.inj head
      simp [Frame.isWindup] at late
    · have still := isStill_iff.mp (others q own _ top)
      simp [Wait.ofPoll] at still
  | past _ _ quiet => simpa [Wait.ofPoll] using (quiet q _ top).2

theorem Standing.closing (ok : Standing items ds x) {status : CloseStatus} {finalizing : Bool}
    (next : (x.hands q).agenda = .wait (.closing status finalizing) :: rest) :
    status = .normal ∧ finalizing = true ∧ x.link.IsOpen ∧ shut (work ds) = [] ∧
      ∀ {d : Deed ι} {l : Link}, d.work? = some (.answered (.closing .normal true) .done) →
        Standing items (ds ++ [d]) { x.put q { agenda := rest } with link := l } := by
  have top : .wait (.closing status finalizing) ∈ (x.hands q).agenda := by simp [next]
  cases ok with
  | working _ _ _ _ _ early => simpa [Frame.isWindup] using (early q _ top).1
  | past _ _ quiet => simpa [Frame.isWindup] using (quiet q _ top).1
  | ending p front below chained chain unresolved told opened spent still others =>
    have own : q = p := by
      by_contra other
      have still := isStill_iff.mp (others q other _ top)
      simp [Frame.isWindup] at still
    subst own
    rw [next] at chained
    rcases chain.cases with rfl | ⟨a, rfl, -⟩ | rfl
    · simp [Frame.resolves] at chained
    · simp at chained
    obtain ⟨same, rfl⟩ := List.cons.inj chained
    obtain ⟨rfl, rfl⟩ : status = .normal ∧ finalizing = true := by simpa using same
    cases chain with
    | asking due =>
    refine ⟨rfl, rfl, opened (by simp), told, fun {d l} answered => ?_⟩
    have known : work (ds ++ [d]) = work ds ++ [.answered (.closing .normal true) .done] := by
      rw [work_snoc, answered]
      rfl
    refine .ending q [] below ?_ .told ?_ ?_ (by simp)
      (spent.later ?_ spent.gone spent.attached) still fun r other => ?_
    · dsimp only
      rw [Exchange.hands_put_self]
      rfl
    · rw [known]
      exact unresolved_snoc unresolved rfl
    · rw [known, shut_snoc, told]
      simp [due, Happening.shut?, Session.farewell]
    · rw [known, accepted_snoc]
      exact List.append_nil _
    · dsimp only
      rw [Exchange.hands_put_of_ne other]
      exact others r other

end

end Duplex

import Duplex.Proofs.Exchange.Standing

/-!
The way out, from the source to the sink. What has been handed over and what waits for the writer
make up what the transport has taken over, and that is what the source has yielded; so the send ends
with everything flushed, and the connection is closed behind it.
-/

namespace Duplex

open History Exchange

variable {ι : Type} {ds : List (Deed ι)} {d : Deed ι}

/-- Operations that neither close the session nor run a handler, and leave readiness alone. -/
def Op.isUnhindered : Op → Bool
  | .close _ | .beginHandler | .endHandler _ | .setReady _ => false
  | _ => true

/-- The application lets the send go its way, and no write fails. -/
def Deed.isUnhindered : Deed ι → Bool
  | .did _ (.began op) => op.isUnhindered
  | .wrote m => m.contact.all fun c => !c.fails
  | _ => true

theorem succeeds_of_fair (fair : ∀ d ∈ ds, d.isUnhindered) : ∀ c ∈ contacts ds, c.fails = false := by
  intro c mem
  obtain ⟨d, here, contact⟩ := List.mem_filterMap.mp mem
  have unhindered := fair d here
  cases d <;> simp_all [Deed.contact?, Deed.isUnhindered]

def Deed.reports : Deed ι → Bool
  | .did _ (.began op) => op.isTransportEnd
  | .read r => r.end?.isSome
  | _ => false

/-- The source yields these messages and ends once it has yielded them all. -/
structure Supplies (items : List Message) (hs : List Happening) : Prop where
  order : yielded hs <+: items
  whole : ∀ pre h post, hs = pre ++ h :: post → h.exhausts → yielded pre = items

theorem Supplies.before {items : List Message} {hs gs : List Happening}
    (ok : Supplies items (hs ++ gs)) : Supplies items hs := by
  refine ⟨?_, fun pre h post split => ok.whole pre h (post ++ gs) (by simp [split])⟩
  have order := ok.order
  rw [yielded_append] at order
  exact (List.prefix_append _ _).trans order

theorem Supplies.of_take {items : List Message} {hs : List Happening} (order : yielded hs <+: items)
    (whole : ∀ i : Fin hs.length, hs[i].exhausts → yielded (hs.take i) = items) :
    Supplies items hs := by
  refine ⟨order, fun pre h post split exhausts => ?_⟩
  subst split
  simpa [exhausts] using whole ⟨pre.length, by simp⟩

theorem Supplies.yielded_eq {items : List Message} {hs : List Happening} (ok : Supplies items hs)
    {h : Happening} (mem : h ∈ hs) (exhausts : h.exhausts) : yielded hs = items := by
  obtain ⟨pre, post, split⟩ := List.append_of_mem mem
  have before := ok.whole pre h post split exhausts
  refine ok.order.eq_of_length_le ?_
  rw [split, yielded_append, before]
  simp

structure Tally (ds : List (Deed ι)) (l : Link) : Prop where
  handed : sent ds ++ l.waiting = (accepted (work ds)).map .ofMessage ++
    (shut (work ds)).map fun s => .close (Wire.CloseBody.ofStatus s)
  inFlight : asked ds + l.inFlight = (accepted (work ds)).length
  settled : (flushed ds).length + l.writer.isBusy.toNat = (sent ds).length
  covered : asked ds ≤ (flushed ds).length
  orderly : l.IsOrderly

namespace Tally

variable {l k : Link}

theorem spares (ok : Tally ds l) (spares : Link.Spares l k) : Tally ds k :=
  ⟨spares.waiting ▸ ok.handed, spares.inFlight ▸ ok.inFlight, spares.writer ▸ ok.settled, ok.covered,
    spares.orderly ok.orderly⟩

theorem still (ok : Tally ds l) (silent : d.contact? = none) (unasked : d.asks = false)
    (accepts : accepted (work (ds ++ [d])) = accepted (work ds))
    (shuts : shut (work (ds ++ [d])) = shut (work ds)) : Tally (ds ++ [d]) l := by
  have same : asked (ds ++ [d]) = asked ds := by simp [asked_snoc, unasked]
  refine ⟨?_, ?_, ?_, ?_, ok.orderly⟩
  · rw [sent_silent silent, accepts, shuts, ok.handed]
  · rw [same, accepts, ok.inFlight]
  · rw [flushed_silent silent, sent_silent silent, ok.settled]
  · rw [same, flushed_silent silent]
    exact ok.covered

theorem idle (ok : Tally ds l) (idle : d.work? = none) (silent : d.contact? = none)
    (unasked : d.asks = false) : Tally (ds ++ [d]) l := by
  have same : work (ds ++ [d]) = work ds := work_idle idle
  exact ok.still silent unasked (by rw [same]) (by rw [same])

theorem writes (ok : Tally ds l) {m : Link.Move} (writing : Link.Writing l k m.contact m.op) :
    Tally (ds ++ [.wrote m]) k := by
  have same : work (ds ++ [.wrote m]) = work ds := work_idle rfl
  have contacts : contacts (ds ++ [.wrote m]) = contacts ds ++ m.contact.toList := contacts_snoc ..
  have asks : asked (ds ++ [.wrote m]) = asked ds + (decide (m.op = some (.setReady true))).toNat :=
    asked_snoc ..
  have waiting := writing.waiting ok.orderly
  have inFlight := writing.inFlight ok.orderly
  obtain ⟨settled, grown⟩ := writing.settles ok.settled
  refine ⟨?_, ?_, ?_, ?_, writing.orderly ok.orderly⟩
  · have given :
        sent (ds ++ [.wrote m]) = sent ds ++ (m.contact.bind Link.Contact.item?).toList := by
      rw [sent, contacts, sent]
      cases m.contact <;> simp [Link.Contact.given_snoc]
    rw [given, List.append_assoc, waiting, same, ok.handed]
  · have before := ok.inFlight
    rw [asks, same]
    omega
  · rw [flushed, sent, contacts, settled]
  · have before := ok.covered
    rw [asks, flushed, contacts]
    exact (Nat.add_le_add_right before _).trans grown

theorem queues (ok : Tally ds l) {c : Link.Command} (queued : Link.Queued l k c)
    (opened : l.IsOpen ∨ c.item? = none) (silent : d.contact? = none) (unasked : d.asks = false)
    (adds : (accepted (work (ds ++ [d]))).map .ofMessage ++
        (shut (work (ds ++ [d]))).map (fun s => .close (Wire.CloseBody.ofStatus s)) =
      (accepted (work ds)).map .ofMessage ++
        (shut (work ds)).map (fun s => .close (Wire.CloseBody.ofStatus s)) ++ c.item?.toList)
    (counts : (accepted (work (ds ++ [d]))).length =
      (accepted (work ds)).length + c.isSend.toNat) : Tally (ds ++ [d]) k := by
  have same : asked (ds ++ [d]) = asked ds := by simp [asked_snoc, unasked]
  refine ⟨?_, ?_, ?_, ?_, queued.orderly ok.orderly opened⟩
  · rw [sent_silent silent, queued.waiting, adds, ← ok.handed]
    simp
  · have before := ok.inFlight
    rw [same, queued.inFlight, counts]
    omega
  · rw [flushed_silent silent, sent_silent silent, queued.isBusy, ok.settled]
  · rw [same, flushed_silent silent]
    exact ok.covered

theorem flushed_of_asked (ok : Tally ds l) {items : List Message}
    (all : accepted (work ds) = items) (enough : items.length ≤ asked ds) :
    items.map .ofMessage <+: flushed ds := by
  have handed := ok.handed
  rw [all] at handed
  have given : flushed ds <+: items.map .ofMessage ++
      (shut (work ds)).map fun s => .close (Wire.CloseBody.ofStatus s) :=
    (isPrefix_flushed ds).trans (handed ▸ List.prefix_append _ _)
  refine List.prefix_of_prefix_length_le (List.prefix_append _ _) given ?_
  rw [List.length_map]
  exact enough.trans ok.covered

end Tally

def Frame.raises : Frame → Bool
  | .act (.setReady true) => true
  | _ => false

def Hand.raising (h : Hand) : Nat := h.agenda.countP Frame.raises

theorem raises_next (s : Session) (a : Action) : (a.perform s).next.countP Frame.raises = 0 := by
  refine countP_next s fun f leads => ?_
  cases leads with
  | poll _ b _ stage => cases b <;> first | rfl | simp [Action.ofPoll] at stage
  | _ => rfl

theorem raises_resume (w : Wait) (a : Answer) :
    ((w.resume a).map Frame.act).countP Frame.raises = 0 := by
  unfold Wait.resume
  split <;> rfl

theorem raises_actions {op : Op} (other : ∀ ready, op ≠ .setReady ready) :
    (op.actions.map Frame.act).countP Frame.raises = 0 := by
  cases op with
  | setReady ready => exact absurd rfl (other ready)
  | _ => rfl

theorem raises_acted (s : Session) (a : Action) :
    (Happening.acted s a).raises = (Frame.act a).raises := by
  cases a with
  | setReady ready => cases ready <;> rfl
  | _ => rfl

theorem Link.onRead_op (l : Link) (r : Wire.Endpoint.Read) : ∀ op ∈ (l.onRead r).op,
    (∃ m, op = .message m) ∨ op.isTransportEnd ∧ r.end?.isSome := by
  cases r with
  | item i =>
    cases i <;> simp [Link.onRead, Wire.Item.toMessage?, Op.isTransportEnd, Wire.Endpoint.Read.end?]
  | _ => simp [Link.onRead, Op.isTransportEnd, Wire.Endpoint.Read.end?]

theorem early_actions {op : Op} (other : (∀ s, op ≠ .close s) ∧ ∀ o, op ≠ .endHandler o) :
    ∀ f ∈ op.actions.map Frame.act, f.isWindup = false := by
  cases op <;> simp_all [Op.actions, Frame.isWindup]

theorem calm_actions {op : Op} : ∀ f ∈ op.actions.map Frame.act, f.isReport → op.isTransportEnd := by
  cases op <;> simp [Op.actions, Frame.isReport, Op.isTransportEnd]

theorem idle_actions {op : Op} : ∀ f ∈ op.actions.map Frame.act, f.ofPoll → ∃ w, op = .poll w := by
  cases op <;> simp [Op.actions, Action.ofPoll]

theorem early_resume (w : Wait) (a : Answer) : ∀ f ∈ (w.resume a).map Frame.act,
    f.isWindup = false ∧ f.isReport = false := by
  unfold Wait.resume
  split <;> simp [Frame.isWindup, Frame.isReport]

theorem idle_resume {w : Wait} {a : Answer} :
    ∀ f ∈ (w.resume a).map Frame.act, f.ofPoll → ∃ g ∈ [Frame.wait w], g.ofPoll := by
  intro f mem own
  by_contra other
  have none_polls : polls ((w.resume a).map .act) = [] := polls_resume_other a (by simpa using other)
  have here : f ∈ polls ((w.resume a).map .act) := List.mem_filter.mpr ⟨mem, own⟩
  simp [none_polls] at here

variable [DecidableEq ι] [Fintype ι] {items : List Message} {s : Session} {x y : Exchange ι}

structure Outflow (items : List Message) (s : Session) (ds : List (Deed ι)) (x : Exchange ι) :
    Prop where
  sound : ∀ p, (x.hands p).IsSound
  pace : ∃ hs agenda, Pace s ds x hs agenda
  raising : raises (work ds) + x.total Hand.raising = asked ds
  tally : Tally ds x.link
  unrefused : ∀ a ∈ answers (work ds), a.refusal? = none
  standing : Standing items ds x
  farewell : x.session.farewell = s.farewell

namespace Outflow

section

variable {hs : List Happening} {agenda : Agenda}

omit [DecidableEq ι] in
theorem raises_eq (shows : Shows s ds x hs agenda) : raises hs = raises (work ds) := by
  refine shows.countP fun h op begins => ?_
  cases h <;> first | rfl | simp [Happening.op?] at begins

omit [DecidableEq ι] in
theorem yielded_eq (shows : Shows s ds x hs agenda) : yielded hs = yielded (work ds) := by
  refine shows.filterMap fun h op begins => ?_
  cases h <;> first | rfl | simp [Happening.op?] at begins

omit [DecidableEq ι] in
theorem answers_eq (shows : Shows s ds x hs agenda) : answers hs = answers (work ds) := by
  refine shows.filterMap fun h op begins => ?_
  cases h <;> first | rfl | simp [Happening.op?] at begins

omit [DecidableEq ι] in
theorem accepted_eq (shows : Shows s ds x hs agenda) : accepted hs = accepted (work ds) := by
  refine shows.filterMap fun h op begins => ?_
  cases h <;> first | rfl | simp [Happening.op?] at begins

omit [DecidableEq ι] in
theorem written_eq (ok : Outflow items s ds x) (shows : Shows s ds x hs agenda) :
    written hs = accepted (work ds) ++ unanswered (polls agenda) := by
  rw [← accepted_eq shows]
  exact written_woven shows.run (answers_eq shows ▸ ok.unrefused)

end

omit [DecidableEq ι] in
theorem accepted_le_asked (ok : Outflow items s ds x) :
    (accepted (work ds)).length ≤ asked ds + 1 := by
  obtain ⟨hs, agenda, pace⟩ := ok.pace
  have single := pace.flight.single
  rw [ok.written_eq pace.shows, List.length_append, raises_eq pace.shows] at single
  have raising := ok.raising
  omega

omit [DecidableEq ι] in
theorem isPrefix_accepted (ok : Outflow items s ds x) (new : s.IsNew) :
    accepted (work ds) <+: yielded (work ds) := by
  obtain ⟨hs, agenda, pace⟩ := ok.pace
  have order : written hs <+: yielded hs := (Ordered.woven new pace.shows.run).order
  rw [ok.written_eq pace.shows, yielded_eq pace.shows] at order
  exact (List.prefix_append _ _).trans order

theorem completes (ok : Outflow items s ds x) (new : s.IsNew) (supplies : Supplies items (work ds))
    {q : Party ι} {o : Outcome} {rest : Agenda} (next : (x.hands q).agenda = .act (.finish o) :: rest)
    (undecided : x.session.outcome? = none) (unfinished : ∀ h ∈ work ds, h.finishes = false) :
    x.Completes items ds q rest o := by
  obtain ⟨hs, agenda, pace⟩ := ok.pace
  have shows := pace.shows
  have stage := shows.stage (p := q) (f := .act (.finish o)) (by simp [next]) rfl
  have early : ∀ h ∈ hs, h.finishes = false := by
    intro h mem
    cases begins : h.op? with
    | none => exact unfinished h (shows.mem_work mem begins)
    | some op => cases h <;> first | rfl | simp [Happening.op?] at begins
  have course := Course.woven new shows.run early
  have written := ok.written_eq shows
  rw [stage] at course written
  have whole : History.written hs = accepted (work ds) := by simpa [unanswered] using written
  -- No write has been refused, so the source has been drained.
  cases course with
  | calm calm => simp [isCalm] at calm
  | finishing _ answered ends =>
    rcases ends with stands | ends
    · simp [undecided] at stands
    · cases ends with
      | refused before a f last refusal =>
        have here : a ∈ answers (work ds) := by
          rw [← answers_eq shows, last]
          simp
        simp [ok.unrefused a here] at refusal
      | drained exhausted even =>
        have given : yielded (work ds) = items := by
          obtain ⟨h, mem, exhausts⟩ := List.any_eq_true.mp exhausted
          refine supplies.yielded_eq (h := h) (shows.mem_work mem ?_) exhausts
          cases h <;> first | rfl | simp [Happening.exhausts] at exhausts
        have all : accepted (work ds) = items := by
          rw [← whole, ← given, ← yielded_eq shows]
          exact even
        obtain ⟨alone, others⟩ := shows.alone next rfl
        have calm := pace.even stage undecided
        rw [whole, all, raises_eq shows] at calm
        have asked_all : items.length ≤ asked ds := by
          have raising := ok.raising
          omega
        have nothing : x.link.inFlight = 0 := by
          have inFlight := ok.tally.inFlight
          rw [all] at inFlight
          omega
        refine ⟨rfl, all, fun opened unshut => ?_, ok.tally.flushed_of_asked all asked_all, alone,
          others⟩
        have handed := ok.tally.handed
        simpa [opened.waiting nothing, all, unshut] using handed

omit [DecidableEq ι] [Fintype ι] in
theorem serve_writing (ok : Standing items ds x) {p : Party ι} {m : Message} {rest : Agenda}
    (next : (x.hands p).agenda = .wait (.writing m) :: rest) :
    ∃ k, x.link.conclude (.write m) = (k, .written true) ∧
      Link.Queued x.link k (.send (.ofMessage m)) :=
  (ok.writing next).1.pushed _ _

omit [Fintype ι] in
theorem serve_closing (ok : Standing items ds x) {p : Party ι} {status : CloseStatus}
    {finalizing : Bool} {rest : Agenda}
    (next : (x.hands p).agenda = .wait (.closing status finalizing) :: rest) :
    ∃ k, x.link.conclude (.close status) = (k, .done) ∧ Link.Queued x.link k (.close status) :=
  (ok.closing next).2.2.1.pushed _ _

omit [DecidableEq ι] [Fintype ι] in
theorem writing_of_fair (fair : (Deed.wrote x.link.stepWriter : Deed ι).isUnhindered) :
    Link.Writing x.link x.link.stepWriter.link x.link.stepWriter.contact x.link.stepWriter.op :=
  Link.writing_of_succeeds fun c here => by
    simpa [Deed.isUnhindered, Option.mem_def.mp here] using fair

theorem raising_push {p : Party ι} {hand : Hand} {new : Agenda}
    (after : hand.agenda = new ++ (x.hands p).agenda) (none : new.countP Frame.raises = 0) :
    (x.put p hand).total Hand.raising = x.total Hand.raising := by
  apply total_put_same
  rw [Hand.raising, after, List.countP_append, none, Nat.zero_add, Hand.raising]

theorem raising_hear {p : Party ι} {hand : Hand} {w : Wait} {a : Answer} {rest : Agenda}
    (next : (x.hands p).agenda = .wait w :: rest)
    (after : hand.agenda = (w.resume a).map .act ++ rest) :
    (x.put p hand).total Hand.raising = x.total Hand.raising := by
  apply total_put_same
  rw [Hand.raising, after, List.countP_append, raises_resume, Nat.zero_add, Hand.raising, next]
  rfl

theorem raising_moved {p : Party ι} (idle : (x.hands p).agenda = []) (m : Link.Move) :
    (x.moved p m).total Hand.raising = x.total Hand.raising +
      ((m.op.map fun op => op.actions.map Frame.act).getD []).countP Frame.raises := by
  have moved := total_put x p
    { agenda := (m.op.map fun op => op.actions.map Frame.act).getD [] } Hand.raising
  have nothing : (x.hands p).raising = 0 := by simp [Hand.raising, idle]
  rwa [nothing, Nat.add_zero] at moved

theorem raising_step (step : Step x d y) (fair : d.isUnhindered) :
    raises d.work?.toList + y.total Hand.raising = x.total Hand.raising + d.asks.toNat := by
  cases step with
  | @begins p op free =>
    have none_raised : (op.actions.map Frame.act).countP Frame.raises = 0 := by
      refine raises_actions fun ready same => ?_
      simp [same, Deed.isUnhindered, Op.isUnhindered] at fair
    rw [raising_push rfl none_raised]
    exact Nat.zero_add _
  | @acts p a rest next =>
    have moved := total_put x p { x.hands p with agenda := (a.perform x.session).next ++ rest }
      Hand.raising
    simp only [Hand.raising, next, List.countP_append, List.countP_cons, raises_next,
      ← raises_acted x.session a] at moved
    have alone : raises [Happening.acted x.session a] =
        if (Happening.acted x.session a).raises then 1 else 0 := by simp [raises, List.countP_cons]
    change raises [Happening.acted x.session a] + (x.put p _).total Hand.raising = _
    rw [alone]
    simp only [Deed.asks, Bool.toNat_false]
    omega
  | hears next =>
    rw [raising_hear next rfl]
    exact Nat.zero_add _
  | lowers =>
    rw [raising_push rfl (by rfl)]
    exact Nat.zero_add _
  | releases => exact (Nat.zero_add _).trans (total_put_same rfl)
  | serves next => exact (Nat.zero_add _).trans (raising_hear next rfl)
  | reads idle stage endpoint inbound outbound r =>
    rw [raising_moved idle]
    have known := Link.onRead_op { x.link with endpoint, inbound, outbound } r
    generalize (Link.onRead { x.link with endpoint, inbound, outbound } r).op = begun at known ⊢
    cases begun with
    | none => exact Nat.zero_add _
    | some op =>
      have other : ∀ ready, op ≠ .setReady ready := by
        rintro ready rfl
        simpa [Op.isTransportEnd] using known _ rfl
      simp only [Option.map_some, Option.getD_some, raises_actions other]
      exact Nat.zero_add _
  | tends idle stage =>
    rw [raising_moved idle, Link.stepReader_op stage]
    exact Nat.zero_add _
  | writes idle =>
    rw [raising_moved idle]
    have step := writing_of_fair fair
    change raises [] + _ = _ + (decide (x.link.stepWriter.op = some (.setReady true))).toNat
    generalize x.link.stepWriter.contact = contact, x.link.stepWriter.op = op at step ⊢
    cases step <;> exact Nat.zero_add _
  | shifts => exact Nat.zero_add _

omit [DecidableEq ι] [Fintype ι] in
theorem accepted_answered {p : Party ι} {w : Wait} {a : Answer} (other : ∀ m, w ≠ .writing m) :
    accepted (work (ds ++ [.did p (.answered w a)])) = accepted (work ds) := by
  have unaccepted : (Happening.answered w a).accepted? = none := by
    unfold Happening.accepted?
    split <;> simp_all
  rw [work_snoc]
  change accepted (work ds ++ [.answered w a]) = _
  rw [accepted_snoc, unaccepted]
  exact List.append_nil _

omit [DecidableEq ι] [Fintype ι] in
theorem shut_answered {p : Party ι} {w : Wait} {a : Answer}
    (other : ∀ s f, w ≠ .closing s f) :
    shut (work (ds ++ [.did p (.answered w a)])) = shut (work ds) :=
  shut_aside (.inr ⟨w, a, rfl, other⟩)

theorem tally_serves (ok : Outflow items s ds x) {p : Party ι} {w : Wait} {rest : Agenda}
    (next : (x.hands p).agenda = .wait w :: rest) (ours : w.isForeign = false) :
    Tally (ds ++ [.did p (.answered w (x.link.conclude w.call).2)]) (x.link.conclude w.call).1 := by
  have tally := ok.tally
  cases w with
  | waking | pulling => simp [Wait.isForeign] at ours
  | suspending | resuming =>
    exact (tally.still rfl rfl (accepted_answered (by simp)) (shut_answered (by simp))).spares
      ⟨rfl, rfl⟩
  | writing m =>
    obtain ⟨opened, unshut⟩ := ok.standing.writing next
    obtain ⟨k, served, queued⟩ := serve_writing ok.standing next
    simp only [Wait.call, served]
    have known : work (ds ++ [.did p (.answered (.writing m) (.written true))]) =
        work ds ++ [.answered (.writing m) (.written true)] := work_snoc ds _
    refine tally.queues queued (.inl opened) rfl rfl ?_ ?_
    · rw [shut_answered (by simp), unshut, known, accepted_snoc]
      simp [Happening.accepted?, Answer.refusal?, Link.Command.item?]
    · rw [known, accepted_snoc]
      simp [Happening.accepted?, Answer.refusal?, Link.Command.isSend]
  | closing status finalizing =>
    obtain ⟨-, -, opened, -⟩ := ok.standing.closing next
    obtain ⟨k, served, queued⟩ := serve_closing ok.standing next
    simp only [Wait.call, served]
    have known : work (ds ++ [.did p (.answered (.closing status finalizing) .done)]) =
        work ds ++ [.answered (.closing status finalizing) .done] := work_snoc ds _
    refine tally.queues queued (.inl opened) rfl rfl ?_ ?_
    · rw [accepted_answered (by simp), known, shut_snoc]
      simp [Happening.shut?, Link.Command.item?]
    · rw [accepted_answered (by simp)]
      rfl

theorem tally_step (ok : Outflow items s ds x) (step : Step x d y) (fair : d.isUnhindered) :
    Tally (ds ++ [d]) y.link := by
  have tally := ok.tally
  cases step with
  | begins | lowers => exact tally.idle rfl rfl rfl
  | acts next => exact tally.still rfl rfl accepted_acted shut_acted
  | @hears p w rest next foreign a =>
    refine tally.still rfl rfl (accepted_answered ?_) (shut_answered ?_)
    · rintro m rfl
      simp [Wait.isForeign] at foreign
    · rintro s f rfl
      simp [Wait.isForeign] at foreign
  | releases => exact (tally.idle rfl rfl rfl).spares ⟨rfl, rfl⟩
  | shifts => exact (tally.idle rfl rfl rfl).spares ⟨rfl, rfl⟩
  | reads idle stage endpoint inbound outbound r =>
    let l : Link := { x.link with endpoint, inbound, outbound }
    have apart : Link.Spares x.link l := ⟨rfl, rfl⟩
    exact ((tally.idle rfl rfl rfl).spares apart).spares (l.onRead_sink r).1
  | tends idle stage =>
    rcases Link.stepReader_sink stage with ⟨spares, -⟩ | ⟨-, k, queued, spares⟩
    · exact (tally.idle rfl rfl rfl).spares spares
    · have same : work (ds ++ [.tended]) = work ds := work_idle rfl
      have stopped : Tally (ds ++ [.tended]) k :=
        tally.queues queued (.inr rfl) rfl rfl (by simp [same, Link.Command.item?])
          (by simp [same, Link.Command.isSend])
      exact stopped.spares spares
  | writes idle => exact tally.writes (writing_of_fair fair)
  | serves next ours => exact ok.tally_serves next ours

theorem unrefused_step (ok : Outflow items s ds x) (step : Step x d y) :
    ∀ a ∈ answers (work (ds ++ [d])), a.refusal? = none := by
  have keeps (silent : d.work?.bind Happening.writeAnswer? = none) :
      ∀ a ∈ answers (work (ds ++ [d])), a.refusal? = none := by
    rw [answers, work, filterMap_filterMap_snoc, silent, Option.toList_none, List.append_nil]
    exact ok.unrefused
  cases step with
  | begins | acts | lowers | releases | reads | tends | writes | shifts => exact keeps rfl
  | @hears p w rest next foreign a =>
    apply keeps
    cases w <;> first | rfl | simp [Wait.isForeign] at foreign
  | @serves p w rest next ours prepared =>
    cases w with
    | writing m =>
      obtain ⟨k, served, -⟩ := serve_writing ok.standing next
      rw [answers, work, filterMap_filterMap_snoc, ← work, ← answers]
      simp only [Wait.call, served]
      exact List.forall_mem_append.mpr ⟨ok.unrefused, List.forall_mem_singleton.mpr rfl⟩
    | _ => exact keeps rfl

omit [DecidableEq ι] in
theorem control_eq_none (ok : Outflow items s ds x) (new : s.IsNew) {p : Party ι} {a : Action}
    {rest : Agenda} (next : (x.hands p).agenda = .act a :: rest) (opens : a = .openWriter) :
    x.session.control = none := by
  subst opens
  obtain ⟨hs, agenda, pace⟩ := ok.pace
  have attachment := Attachment.woven new pace.shows.run
  refine (attachment.due (Nat.le_antisymm attachment.once ?_)).1
  refine List.count_pos_iff.mpr ?_
  rw [← Multiset.mem_coe, pace.shows.frames]
  exact mem_frames.mpr ⟨p, by simp [next]⟩

omit [Fintype ι] in
theorem standing_moved (ok : Standing items ds x) {p : Party ι} (idle : (x.hands p).agenda = [])
    (m : Link.Move) (link : ∀ op ∈ m.op, op.isLink)
    (reports : ∀ op ∈ m.op, op.isTransportEnd → IsResolved (work ds))
    (opened : x.link.IsOpen → m.link.IsOpen ∨ IsResolved (work ds)) (work : d.work? = none) :
    Standing items (ds ++ [d]) (x.moved p m) := by
  have begun : ∀ f ∈ (m.op.map fun op => op.actions.map Frame.act).getD [],
      ∃ op ∈ m.op, f ∈ op.actions.map Frame.act := by cases m.op <;> simp
  refine ok.put (.inl work) (idle.trans (List.append_nil _).symm) (List.append_nil _).symm
    (by simp [idle]) (fun f mem => ?_) (fun f mem report => ?_) (fun f mem own => ?_)
    (.inl (congrArg accepted (work_idle work))) opened <;>
    obtain ⟨op, asked, mem⟩ := begun f mem
  · have here := link op asked
    refine early_actions ?_ f mem
    constructor <;> rintro z rfl <;> simp [Op.isLink] at here
  · exact reports op asked (calm_actions f mem report)
  · obtain ⟨w, rfl⟩ := idle_actions f mem own
    simpa [Op.isLink] using link _ asked

omit [Fintype ι] in
theorem standing_reads (ok : Standing items ds x) (idle : (x.hands .reader).agenda = []) {l : Link}
    (opened : x.link.IsOpen → l.IsOpen) {r : Wire.Endpoint.Read}
    (timely : r.end?.isSome → IsResolved (work ds)) :
    Standing items (ds ++ [.read r]) (x.moved .reader (l.onRead r)) := by
  obtain ⟨spares, goes_on⟩ := l.onRead_sink r
  refine standing_moved ok idle _ (Link.onRead_isLink _ _) (fun op begun ends => ?_)
    (fun still => ?_) rfl
  · rcases Link.onRead_op _ _ op begun with ⟨m, rfl⟩ | ⟨-, ended⟩
    · simp [Op.isTransportEnd] at ends
    · exact timely ended
  · cases ended : r.end? with
    | some o => exact .inr (timely (by simp [ended]))
    | none => exact .inl (spares.isOpen (opened still) (goes_on ended))

omit [Fintype ι] in
theorem standing_tends (ok : Standing items ds x) (idle : (x.hands .reader).agenda = [])
    (stage : x.link.reader ≠ .reading) :
    Standing items (ds ++ [.tended]) (x.moved .reader x.link.stepReader) := by
  refine standing_moved ok idle _ (by simp [Link.stepReader_op stage])
    (by simp [Link.stepReader_op stage]) (fun opened => .inl ?_) rfl
  rcases Link.stepReader_sink stage with ⟨spares, goes_on⟩ | ⟨leaving, -⟩
  · exact spares.isOpen opened goes_on
  · have going := opened.reader
    simp [leaving, Link.ReaderStage.isLeaving] at going

omit [Fintype ι] in
theorem standing_writes (ok : Standing items ds x) (idle : (x.hands .writer).agenda = [])
    (fair : (Deed.wrote x.link.stepWriter : Deed ι).isUnhindered) :
    Standing items (ds ++ [.wrote x.link.stepWriter]) (x.moved .writer x.link.stepWriter) := by
  have step := writing_of_fair fair
  have reader := (Link.stepWriter_apart x.link).2.1
  refine standing_moved ok idle _ (Link.stepWriter_isLink _) (fun op begun ends => ?_)
    (fun opened => .inl (step.isOpen opened reader)) rfl
  generalize x.link.stepWriter.contact = contact, x.link.stepWriter.op = asked at step begun
  cases step with
  | flushes =>
    obtain rfl : Op.setReady true = op := by simpa using begun
    simp [Op.isTransportEnd] at ends
  | _ => simp at begun

omit [DecidableEq ι] [Fintype ι] in
theorem early_top {p : Party ι} {f : Frame} {rest : Agenda} (next : (x.hands p).agenda = f :: rest)
    (early : f.isWindup = false) : ∀ g ∈ (x.hands p).agenda.head?, g.isWindup = false := by
  simpa [next] using early

theorem early_of_foreign {w : Wait} (foreign : w.isForeign) : (Frame.wait w).isWindup = false := by
  cases w <;> first | rfl | simp [Wait.isForeign] at foreign

omit [Fintype ι] in
theorem standing_hears (ok : Standing items ds x) {p : Party ι} {w : Wait} {a : Answer}
    {rest : Agenda} {hand : Hand} {l : Link} (next : (x.hands p).agenda = .wait w :: rest)
    (other : ∀ s f, w ≠ .closing s f) (early : (Frame.wait w).isWindup = false)
    (after : hand.agenda = (w.resume a).map .act ++ rest) (opened : x.link.IsOpen → l.IsOpen) :
    Standing items (ds ++ [.did p (.answered w a)]) { x.put p hand with link := l } := by
  refine ok.put (.inr ⟨w, a, rfl, other⟩)
    (show (x.hands p).agenda = [.wait w] ++ rest from next) after (early_top next early)
    (fun f mem => (early_resume w a f mem).1) (fun f mem report => ?_)
    (fun f mem own => .inr (idle_resume f mem own)) ?_ fun open_ => .inl (opened open_)
  · simp [(early_resume w a f mem).2] at report
  · by_cases writes : ∃ m, w = .writing m
    · obtain ⟨m, rfl⟩ := writes
      exact .inr ⟨_, List.mem_singleton_self _, rfl⟩
    · exact .inl (accepted_answered fun m same => writes ⟨m, same⟩)

omit [Fintype ι] in
theorem standing_serves (ok : Standing items ds x) {p : Party ι} {w : Wait} {rest : Agenda}
    (next : (x.hands p).agenda = .wait w :: rest) (ours : w.isForeign = false) :
    Standing items (ds ++ [.did p (.answered w (x.link.conclude w.call).2)])
      { x.put p { agenda := (w.resume (x.link.conclude w.call).2).map .act ++ rest } with
        link := (x.link.conclude w.call).1 } := by
  cases w with
  | waking | pulling => simp [Wait.isForeign] at ours
  | suspending | resuming =>
    exact standing_hears ok next (by simp) rfl rfl
      fun opened => ⟨opened.reader, opened.writer, opened.commands⟩
  | writing m =>
    obtain ⟨k, served, queued⟩ := serve_writing ok next
    simp only [Wait.call, served]
    exact standing_hears ok next (by simp) rfl rfl fun opened => queued.isOpen opened rfl
  | closing status finalizing =>
    obtain ⟨rfl, rfl, -, -, told⟩ := ok.closing next
    obtain ⟨k, served, -⟩ := serve_closing ok next
    simp only [Wait.call, served]
    exact told rfl

theorem standing_step (ok : Outflow items s ds x) (new : s.IsNew)
    (supplies : Supplies items (work ds)) (step : Step x d y) (fair : d.isUnhindered)
    (timely : d.reports → IsResolved (work ds)) : Standing items (ds ++ [d]) y := by
  have standing := ok.standing
  have same (idle : d.work? = none) : accepted (work (ds ++ [d])) = accepted (work ds) ∨
      ∃ g ∈ ([] : Agenda), g.ofPoll := .inl (congrArg accepted (work_idle idle))
  cases step with
  | @begins p op free admitted =>
    have head : ∀ g ∈ (x.hands p).agenda.head?, g.isWindup = false := by
      rcases free_cases free with idle | ⟨w, rest, next, foreign⟩
      · simp [idle]
      · exact early_top next (early_of_foreign foreign)
    refine standing.put (.inl rfl) (List.nil_append _).symm rfl head (early_actions ?_)
      (fun f mem report => timely (calm_actions f mem report)) (fun f mem own => ?_) (same rfl) .inl
    · constructor <;> rintro z rfl <;> simp [Deed.isUnhindered, Op.isUnhindered] at fair
    · obtain ⟨w, rfl⟩ := idle_actions f mem own
      exact .inl admitted.1
  | acts next =>
    refine standing.act next (ok.control_eq_none new next) fun o same undecided unfinished => ?_
    subst same
    exact ok.completes new supplies next undecided unfinished
  | hears next foreign a =>
    refine standing_hears standing next ?_ (early_of_foreign foreign) rfl id
    rintro st f rfl
    simp [Wait.isForeign] at foreign
  | lowers next =>
    exact standing.put (.inl rfl) (List.nil_append _).symm rfl (early_top next rfl)
      (by simp [Op.actions, Frame.isWindup]) (by simp [Op.actions, Frame.isReport])
      (by simp [Op.actions, Action.ofPoll]) (same rfl) .inl
  | releases next =>
    exact standing.put (.inl rfl) (List.nil_append _).symm (List.nil_append _).symm
      (early_top next rfl) (by simp) (by simp) (by simp) (same rfl)
      fun opened => .inl ⟨opened.reader, opened.writer, opened.commands⟩
  | serves next ours => exact standing_serves standing next ours
  | reads idle stage endpoint inbound outbound =>
    exact standing_reads standing idle (l := { x.link with endpoint, inbound, outbound })
      (fun opened => ⟨opened.reader, opened.writer, opened.commands⟩) timely
  | tends idle stage => exact standing_tends standing idle stage
  | writes idle => exact standing_writes standing idle fair
  | shifts => exact standing.shift rfl fun opened => ⟨opened.reader, opened.writer, opened.commands⟩

theorem pace_step (ok : Outflow items s ds x) (new : s.IsNew) (step : Step x d y) :
    ∃ hs agenda, Pace s (ds ++ [d]) y hs agenda := by
  obtain ⟨hs, agenda, pace⟩ := ok.pace
  refine pace.step new ok.sound step fun t raised => ?_
  obtain ⟨-, p, rest, next⟩ := step.acting raised
  have due : 0 < x.total Hand.raising := by
    have here : (Frame.act (.setReady true)).raises := rfl
    rw [total_split x p, Hand.raising, next, List.countP_cons, if_pos here]
    omega
  have raising := ok.raising
  have inFlight := ok.tally.inFlight
  have written := congrArg List.length (ok.written_eq pace.shows)
  rw [List.length_append] at written
  rw [raises_eq pace.shows]
  omega

theorem step (ok : Outflow items s ds x) (new : s.IsNew) (supplies : Supplies items (work ds))
    (step : Step x d y) (fair : d.isUnhindered) (timely : d.reports → IsResolved (work ds)) :
    Outflow items s (ds ++ [d]) y := by
  refine ⟨step.keeps (fun _ _ _ _ ok => ok.goes) ok.sound, ok.pace_step new step, ?_,
    ok.tally_step step fair, ok.unrefused_step step, ok.standing_step new supplies step fair timely,
    ?_⟩
  · have moved := raising_step step fair
    have before := ok.raising
    have raised : raises (work (ds ++ [d])) = raises (work ds) + raises d.work?.toList := by
      rw [work_snoc, raises, List.countP_append]
      rfl
    rw [raised, asked_snoc]
    omega
  · cases step with
    | acts => exact (farewell_perform _ _).trans ok.farewell
    | _ => exact ok.farewell

omit [DecidableEq ι] in
theorem start (opened : x.IsOpened) : Outflow items x.session [] x := by
  obtain ⟨g, c, fresh, -, -⟩ := opened.session.cases
  have idle : ∀ p, (x.hands p).agenda = [] := fun p => by rw [opened.hands p]
  have flight : Flight [] ⟨x.session, []⟩ :=
    ⟨by simp [raises], by simp [written], by simp [raises, written], by simp⟩
  refine ⟨fun p => ?_, ⟨[], [], .start idle, flight, by simp, fun p => ?_⟩, ?_,
    ⟨?_, ?_, ?_, Nat.zero_le _, ?_⟩, by simp [answers], ?_, rfl⟩
  · rw [opened.hands p]
    exact ⟨by simp, by simp⟩
  · rw [opened.hands p]
    simp [Hand.IsPaced]
  · simp [total, Hand.raising, idle, raises, asked]
  · simp [sent, contacts, Link.Contact.given, Link.waiting, opened.commands, accepted, shut]
  · simp [asked, Link.inFlight, opened.commands, opened.writer, accepted]
  · simp [flushed, sent, contacts, Link.Contact.given, Link.Contact.settled, opened.writer,
      Link.WriterStage.isBusy]
  · exact ⟨by simp [opened.commands], by simp [opened.commands]⟩
  · refine .working ?_ (by simp) (by simp [IsResolved]) rfl
      ⟨by rw [opened.reader]; rfl, by rw [opened.writer]; rfl, by simp [opened.commands]⟩
      (by simp [idle])
    rw [fresh]
    exact ⟨rfl, rfl, rfl, rfl⟩

/-- Nothing reports the end of the connection before the send has resolved. -/
def Timely (ds : List (Deed ι)) : Prop :=
  ∀ pre d post, ds = pre ++ d :: post → d.reports → IsResolved (work pre)

theorem run (opened : x.IsOpened) (run : Run x ds y) (supplies : Supplies items (work ds))
    (fair : ∀ d ∈ ds, d.isUnhindered) (timely : Timely ds) : Outflow items x.session ds y := by
  induction run with
  | nil => exact start opened
  | @snoc y z ds d run last ih =>
    have earlier : Supplies items (work ds) := by
      rw [work_snoc] at supplies
      exact supplies.before
    have ok := ih earlier (fun e mem => fair e (by simp [mem]))
      fun pre e post split => timely pre e (post ++ [d]) (by simp [split])
    exact ok.step opened.session earlier last (fair _ (by simp)) (timely ds d [] rfl)

end Outflow

end Duplex

import Duplex.Proofs.Exchange.Slot
import Duplex.Proofs.Outbound.Verdict

/-!
What a step has to do with what comes in. Most steps have nothing to do with it; the others let a
message in, move it on, open or shut the switch, or are the reader's own.
-/

namespace Duplex

open History

variable {ι : Type}

def Frame.isGrave : Frame → Bool
  | .act (.failInbound _) | .act .completeInbound | .act (.record _) | .act (.terminate _)
  | .act (.finalizeUnattended _) | .act (.conclude (.failure _)) | .act (.finalize (.failure _))
  | .act (.resolve (.failure _)) | .act (.settle (.failure _)) => true
  | _ => false

/-- Operations that deliver nothing and report neither an end nor a failure. -/
def Op.isOrderly : Op → Bool
  | .message _ | .transportError _ | .transportClose _ | .endHandler (.failure _) => false
  | _ => true

def Action.isOrderly (s : Session) : Action → Bool
  | .finish (.failure _) => s.outcome?.isSome
  | _ => true

/-- Nobody but the reader delivers messages or reports the end of the connection, and nothing fails
on the way out. -/
def Deed.isOrderly : Deed ι → Bool
  | .did _ (.began op) => op.isOrderly
  | .did _ (.acted s a) => a.isOrderly s
  | .wrote m => m.op.all Op.isOrderly
  | _ => true

theorem surfaced?_of_end {r : Wire.Endpoint.Read} {o : Outcome} (said : r.end? = some o) :
    (Deed.read r : Deed ι).surfaced? = none := by
  cases r with
  | item i =>
    cases i <;> simp_all [Wire.Endpoint.Read.end?, Deed.surfaced?, Deed.result?,
      Wire.Endpoint.Read.message?, Wire.Item.toMessage?]
  | _ => rfl

def Link.ReaderStage.isThrough : Link.ReaderStage → Bool
  | .reading | .leaving | .ended => true
  | .checking | .enlisting | .parked => false

def Frame.isPlain (f : Frame) : Bool := !f.isGrave && f.carried?.isNone && !f.resumes

theorem plain_actions {op : Op} (orderly : op.isOrderly) :
    ∀ f ∈ op.actions.map Frame.act, f.isPlain := by
  cases op with
  | endHandler o =>
    cases o with
    | success => simp [Op.actions, Frame.isPlain, Frame.isGrave, Frame.carried?, Frame.resumes]
    | failure e => simp [Op.isOrderly] at orderly
  | _ =>
    simp_all [Op.isOrderly, Op.actions, Frame.isPlain, Frame.isGrave, Frame.carried?, Frame.resumes]

theorem plain_resume {w : Wait} (other : ∀ m, w ≠ .suspending m) (a : Answer) :
    ∀ f ∈ (w.resume a).map Frame.act, f.isPlain := by
  unfold Wait.resume
  split <;> simp_all [Frame.isPlain, Frame.isGrave, Frame.carried?, Frame.resumes]

theorem carried_of_foreign {w : Wait} (foreign : w.isForeign) : (Frame.wait w).carried? = none := by
  cases w <;> simp_all [Wait.isForeign, Frame.carried?]

theorem resumes_of_foreign {w : Wait} (foreign : w.isForeign) :
    (Frame.wait w).resumes = false := by
  cases w <;> simp_all [Wait.isForeign, Frame.resumes]

section

variable {new : Agenda} (plain : ∀ f ∈ new, f.isPlain)

include plain

theorem carried_of_plain : new.filterMap Frame.carried? = [] := by
  rw [List.filterMap_eq_nil_iff]
  intro f mem
  have here := plain f mem
  simp_all [Frame.isPlain]

theorem resumes_of_plain : new.countP Frame.resumes = 0 := by
  rw [List.countP_eq_zero]
  intro f mem
  have here := plain f mem
  simp_all [Frame.isPlain]

end

namespace Exchange

variable [DecidableEq ι] {x y : Exchange ι} {d : Deed ι}

structure Aside (x y : Exchange ι) (p : Party ι) : Prop where
  session : y.session = x.session
  flow : y.link.flow = x.link.flow
  reader : y.link.reader = x.link.reader
  others : ∀ q ≠ p, y.hands q = x.hands q
  frames : ∀ f ∈ (y.hands p).agenda, f ∈ (x.hands p).agenda ∨ f.isPlain
  carried : (y.hands p).agenda.filterMap Frame.carried? =
    (x.hands p).agenda.filterMap Frame.carried?
  unreleased : (y.hands p).unreleased = (x.hands p).unreleased
  loosening : (y.hands p).loosening = (x.hands p).loosening
  asked : p = .reader → ∃ w rest, (x.hands p).agenda = .wait w :: rest

inductive Inward (x : Exchange ι) : Deed ι → Exchange ι → Prop
  | aside {d : Deed ι} {y : Exchange ι} (p : Party ι) (aside : Aside x y p)
    (silent : d.work? = none ∨ ∃ w a, d.work? = some (.answered w a))
    (unread : d.result? = none) : Inward x d y
  | acts {p : Party ι} {a : Action} {rest : Agenda} (next : (x.hands p).agenda = .act a :: rest) :
    Inward x (.did p (.acted x.session a))
      { x.put p { x.hands p with agenda := (a.perform x.session).next ++ rest } with
        session := (a.perform x.session).session }
  | suspends {p : Party ι} {m : Message} {rest : Agenda}
    (next : (x.hands p).agenda = .wait (.suspending m) :: rest) :
    Inward x (.did p (.answered (.suspending m) .done))
      { x.put p { agenda := .act (.store m) :: rest } with
        link := { x.link with flow := x.link.flow.suspend } }
  | releases {p : Party ι} {m : Message} {rest : Agenda}
    (next : (x.hands p).agenda = .wait (.resuming m) :: rest)
    (first : (x.hands p).midway = false) :
    Inward x (.released p)
      { x.put p { x.hands p with midway := true } with
        link := { x.link with flow := x.link.flow.release } }
  | signals {p : Party ι} {m : Message} {rest : Agenda}
    (next : (x.hands p).agenda = .wait (.resuming m) :: rest) (second : (x.hands p).midway) :
    Inward x (.did p (.answered (.resuming m) .done))
      { x.put p { agenda := .act (.reply (.pulled (.item m))) :: rest } with
        link := { x.link with flow := x.link.flow.signal } }
  | reads (l : Link) (flow : l.flow = x.link.flow) (r : Wire.Endpoint.Read) (move : Link.Move)
    (reading : Link.Reading l r move) (same : l.reader = x.link.reader)
    (idle : (x.hands .reader).agenda = []) (stage : x.link.reader = .reading) :
    Inward x (.read r) (x.moved .reader move)
  | tends (idle : (x.hands .reader).agenda = []) (stage : x.link.reader ≠ .reading) :
    Inward x .tended (x.moved .reader x.link.stepReader)

theorem Aside.of_put {p : Party ι} {hand : Hand} {l : Link} (flow : l.flow = x.link.flow)
    (reader : l.reader = x.link.reader) {new rest : Agenda} (agenda : hand.agenda = new ++ rest)
    (plain : ∀ f ∈ new, f.isPlain)
    (old : (x.hands p).agenda = rest ∨
      ∃ f : Frame, (x.hands p).agenda = f :: rest ∧ f.carried? = none)
    (none : (x.hands p).agenda.countP Frame.resumes = 0)
    (asked : p = .reader → ∃ w rest, (x.hands p).agenda = .wait w :: rest) :
    Aside x { x.put p hand with link := l } p := by
  have nothing : hand.agenda.countP Frame.resumes = 0 := by
    rw [agenda, List.countP_append, resumes_of_plain plain]
    rcases old with same | ⟨f, same, -⟩
    · rw [← same, none]
    · rw [same, List.countP_cons] at none
      omega
  refine ⟨rfl, flow, reader, fun q other => hands_put_of_ne other hand, ?_, ?_, ?_, ?_, asked⟩ <;>
    dsimp only <;> rw [hands_put_self]
  · intro f mem
    rw [agenda] at mem
    rcases List.mem_append.mp mem with mem | mem
    · exact .inr (plain f mem)
    · rcases old with same | ⟨g, same, -⟩
      · exact .inl (by rwa [same])
      · exact .inl (by rw [same]; exact List.mem_cons_of_mem g mem)
  · rw [agenda, List.filterMap_append, carried_of_plain plain, List.nil_append]
    rcases old with same | ⟨f, same, uncarried⟩
    · rw [same]
    · rw [same, filterMap_cons_toList, uncarried]
      rfl
  · rw [Hand.unreleased_of_none nothing, Hand.unreleased_of_none none]
  · rw [Hand.loosening_of_none nothing, Hand.loosening_of_none none]

theorem Step.inward (sound : ∀ p, (x.hands p).IsSound) (step : Step x d y) (orderly : d.isOrderly) :
    Inward x d y := by
  have none_resumes {p : Party ι} {f : Frame} {rest : Agenda}
      (next : (x.hands p).agenda = f :: rest) (other : f.resumes = false) :
      (x.hands p).agenda.countP Frame.resumes = 0 := Hand.resuming_of_other (sound p) next other
  cases step with
  | @begins p op free =>
    refine .aside p (.of_put rfl rfl rfl (plain_actions orderly) (.inl rfl) ?_ ?_)
      (by simp [Deed.work?]) rfl
    · rcases free_cases free with idle | ⟨w, rest, next, foreign⟩
      · simp [idle]
      · exact none_resumes next (resumes_of_foreign foreign)
    · rintro rfl
      rcases free_cases free with idle | ⟨w, rest, next, -⟩
      · simp [isFree, idle] at free
      · exact ⟨w, rest, next⟩
  | acts next => exact .acts next
  | @hears p w rest next foreign a =>
    have other : ∀ m, w ≠ .suspending m := by
      rintro m rfl
      simp [Wait.isForeign] at foreign
    exact .aside p (.of_put rfl rfl rfl (plain_resume other a)
      (.inr ⟨_, next, carried_of_foreign foreign⟩) (none_resumes next (resumes_of_foreign foreign))
      fun _ => ⟨w, rest, next⟩) (by simp [Deed.work?]) rfl
  | @lowers p m rest next first =>
    exact .aside p (.of_put rfl rfl rfl (plain_actions rfl) (.inl rfl) (none_resumes next rfl)
      fun _ => ⟨_, rest, next⟩) (by simp [Deed.work?]) rfl
  | releases next first => exact .releases next first
  | @serves p w rest next ours prepared =>
    cases w with
    | suspending m => exact .suspends next
    | resuming m => exact .signals next (prepared rfl)
    | waking v | pulling v => simp [Wait.isForeign] at ours
    | writing m | closing status finalizing =>
      exact .aside p (.of_put (Link.flow_pushed ..) (Link.reader_pushed ..) rfl
        (plain_resume (by simp) _) (.inr ⟨_, next, rfl⟩) (none_resumes next rfl)
        fun _ => ⟨_, rest, next⟩) (by simp [Deed.work?]) rfl
  | reads idle stage endpoint inbound outbound r =>
    exact .reads { x.link with endpoint, inbound, outbound } rfl r _ (Link.reading_onRead _ r) rfl
      idle stage
  | tends idle stage => exact .tends idle stage
  | writes idle =>
    obtain ⟨flow, reader, -⟩ := Link.stepWriter_apart x.link
    refine .aside .writer (.of_put flow reader (List.append_nil _).symm ?_ (.inl idle)
      (by simp [idle]) (by simp)) (by simp [Deed.work?]) rfl
    cases op : x.link.stepWriter.op with
    | none => simp
    | some op' =>
      refine plain_actions ?_
      simpa [Deed.isOrderly, op] using orderly
  | shifts endpoint inbound outbound =>
    exact .aside .writer ⟨rfl, rfl, rfl, fun _ _ => rfl, fun _ => .inl, rfl, rfl, rfl, by simp⟩
      (by simp [Deed.work?]) rfl

theorem checking_of_surfaced (step : Inward x d y) {m : Message} (surfaced : d.surfaced? = some m) :
    y.link.reader = .checking := by
  cases step with
  | aside p aside silent unread => simp [Deed.surfaced?, unread] at surfaced
  | acts | suspends | releases | signals | tends => simp [Deed.surfaced?, Deed.result?] at surfaced
  | reads l flow r move reading =>
    cases reading with
    | blocked => simp [Deed.surfaced?, Deed.result?] at surfaced
    | message => rfl
    | ended r o said => simp [surfaced?_of_end said] at surfaced

theorem step_through (step : Inward x d y) (shut : x.link.reader.isThrough = false)
    (through : y.link.reader.isThrough) : x.link.reader = .checking ∧ x.link.flow.suspended = false ∧
      (x.hands .reader).agenda = [] := by
  cases step with
  | aside p aside => simp [aside.reader, shut] at through
  | acts | suspends | releases | signals =>
    have same : x.link.reader.isThrough := through
    simp [shut] at same
  | reads _ _ _ _ _ _ _ stage => simp [stage, Link.ReaderStage.isThrough] at shut
  | tends idle stage =>
    simp only [moved] at through
    cases here : x.link.reader with
    | reading | leaving | ended => simp [here, Link.ReaderStage.isThrough] at shut
    | checking =>
      simp only [Link.stepReader, here] at through
      cases open_now : x.link.flow.suspended with
      | false => exact ⟨rfl, rfl, idle⟩
      | true => simp [open_now, Link.ReaderStage.isThrough] at through
    | enlisting =>
      simp only [Link.stepReader, here] at through
      split at through <;> simp [Link.ReaderStage.isThrough] at through
    | parked =>
      simp only [Link.stepReader, here] at through
      split at through <;> simp [here, Link.ReaderStage.isThrough] at through

end Exchange

end Duplex

import Duplex.Proofs.Exchange.Hand
import Duplex.Proofs.Inbound.Turn
import Duplex.Proofs.Session.Agenda

/-!
The one message between the reader and the consumer. It is let in while the switch is open, which
shuts the switch; it is stored, and taken; and the one who takes it opens the switch again. Until
then the reader reads nothing more, so there is never a second one.
-/

namespace Duplex

open History

variable {ι : Type}

def Frame.carried? : Frame → Option (Message × Bool)
  | .act (.receive m) | .wait (.suspending m) => some (m, false)
  | .act (.store m) => some (m, true)
  | _ => none

def Frame.resumes : Frame → Bool
  | .wait (.resuming _) => true
  | _ => false

def Hand.unreleased (h : Hand) : Nat := if h.midway then 0 else h.agenda.countP Frame.resumes

def Hand.loosening (h : Hand) : Nat := if h.midway then h.agenda.countP Frame.resumes else 0

structure View where
  pending : List Message
  carried : List (Message × Bool)
  unreleased : Nat
  suspended : Bool

/-- Where the one message is, if there is one. -/
inductive Slot (taken got : List Message) : View → Prop
  | clear (even : taken = got) : Slot taken got ⟨[], [], 0, false⟩
  | arriving (m : Message) (ahead : got = taken ++ [m]) : Slot taken got ⟨[], [(m, false)], 0, false⟩
  | storing (m : Message) (ahead : got = taken ++ [m]) : Slot taken got ⟨[], [(m, true)], 0, true⟩
  | resident (m : Message) (ahead : got = taken ++ [m]) : Slot taken got ⟨[m], [], 0, true⟩
  | leaving (even : taken = got) : Slot taken got ⟨[], [], 1, true⟩

inductive Slides (v : View) : View → Option Message → Option Message → Prop
  | stays : Slides v v none none
  | arrives (m : Message) (clear : v = ⟨[], [], 0, false⟩) :
    Slides v ⟨[], [(m, false)], 0, false⟩ none (some m)
  | shuts (m : Message) (here : v.carried = [(m, false)]) :
    Slides v { v with carried := [(m, true)], suspended := true } none none
  | stores (m : Message) (here : v.carried = [(m, true)]) :
    Slides v { v with carried := [], pending := v.pending ++ [m] } none none
  | takes (m : Message) (rest : List Message) (here : v.pending = m :: rest) :
    Slides v { v with pending := rest, unreleased := v.unreleased + 1 } (some m) none
  | opens (n : Nat) (here : v.unreleased = n + 1) :
    Slides v { v with unreleased := n, suspended := false } none none

theorem Slot.slides {taken got : List Message} {v w : View} {t g : Option Message}
    (ok : Slot taken got v) (slides : Slides v w t g) :
    Slot (taken ++ t.toList) (got ++ g.toList) w := by
  cases slides with
  | stays => simpa using ok
  | arrives m clear =>
    subst clear
    cases ok with
    | clear even => exact .arriving m (by simp [even])
  | shuts m here =>
    cases ok with
    | arriving _ ahead =>
      obtain rfl : _ = m := by simpa using here
      exact .storing _ (by simpa using ahead)
    | clear | storing | resident | leaving => simp at here
  | stores m here =>
    cases ok with
    | storing _ ahead =>
      obtain rfl : _ = m := by simpa using here
      exact .resident _ (by simpa using ahead)
    | clear | arriving | resident | leaving => simp at here
  | takes m rest here =>
    cases ok with
    | resident _ ahead =>
      obtain ⟨rfl, rfl⟩ : _ = m ∧ [] = rest := by simpa using here
      exact .leaving (by simpa using ahead.symm)
    | clear | arriving | storing | leaving => simp at here
  | opens n here =>
    cases ok with
    | leaving even =>
      obtain rfl : n = 0 := by simpa using here.symm
      exact .clear (by simpa using even)
    | clear | arriving | storing | resident => simp at here

theorem Slot.only {taken got : List Message} {v : View} {c : Message × Bool}
    {cs : List (Message × Bool)} (ok : Slot taken got v) (first : v.carried = c :: cs) : cs = [] := by
  cases ok with
  | clear | resident | leaving => simp at first
  | arriving | storing => simpa using (List.cons.inj first).2.symm

theorem Slot.clear_of_open {taken got : List Message} {v : View} (ok : Slot taken got v)
    (opened : v.suspended = false) (idle : v.carried = []) : v = ⟨[], [], 0, false⟩ := by
  cases ok with
  | clear => rfl
  | arriving => simp at idle
  | storing | resident | leaving => simp at opened

theorem Slides.clear {v : View} {t : Option Message} (slides : Slides ⟨[], [], 0, false⟩ v t none) :
    v = ⟨[], [], 0, false⟩ := by
  cases slides with
  | stays => rfl
  | shuts _ here | stores _ here | takes _ _ here | opens _ here => simp at here

theorem carried_actions {op : Op} (other : ∀ m, op ≠ .message m) :
    (op.actions.map Frame.act).filterMap Frame.carried? = [] := by
  cases op with
  | message m => exact absurd rfl (other m)
  | _ => rfl

theorem carried_next_other (s : Session) {a : Action} (other : ∀ m, a ≠ .receive m) :
    (a.perform s).next.filterMap Frame.carried? = [] := by
  refine filterMap_next s fun f leads => ?_
  cases leads with
  | suspend m => exact absurd rfl (other m)
  | poll _ b _ stage => cases b <;> first | rfl | simp [Action.ofPoll] at stage
  | _ => rfl

theorem resumes_actions (op : Op) : (op.actions.map Frame.act).countP Frame.resumes = 0 := by
  cases op <;> rfl

theorem resumes_next (s : Session) (a : Action) :
    (a.perform s).next.countP Frame.resumes = (Happening.acted s a).taken?.toList.length := by
  cases a with
  | take p =>
    cases queue : s.inbound.pending with
    | cons m rest =>
      simp [Action.perform, Session.take_of_cons p queue, Happening.taken?, queue, Frame.resumes]
    | nil =>
      simp [Action.perform, Session.take_of_nil p queue, Happening.taken?, queue, Frame.resumes]
  | _ =>
    refine countP_next s fun f leads => ?_
    cases leads <;> rfl

namespace Hand

variable {h : Hand} {f : Frame} {rest : Agenda}

theorem unreleased_of_none (none : h.agenda.countP Frame.resumes = 0) : h.unreleased = 0 := by
  simp [unreleased, none]

theorem loosening_of_none (none : h.agenda.countP Frame.resumes = 0) : h.loosening = 0 := by
  simp [loosening, none]

theorem resumes_rest (sound : h.IsSound) (next : h.agenda = f :: rest) :
    rest.countP Frame.resumes = 0 := by
  have top := sound.top
  rw [next] at top
  rw [List.countP_eq_zero]
  intro g mem resumes
  have other := top g mem
  unfold Frame.resumes at resumes
  split at resumes <;> simp_all [Frame.ofPull]

theorem resuming_of_other (sound : h.IsSound) (next : h.agenda = f :: rest)
    (other : f.resumes = false) : h.agenda.countP Frame.resumes = 0 := by
  rw [next, List.countP_cons, resumes_rest sound next, other]
  rfl

theorem resuming_cons (sound : h.IsSound) (next : h.agenda = f :: rest) {g : Frame}
    (other : g.resumes = false) : (g :: rest).countP Frame.resumes = 0 := by
  rw [List.countP_cons, resumes_rest sound next, other]
  rfl

theorem resuming_of_resuming (sound : h.IsSound) {m : Message}
    (next : h.agenda = .wait (.resuming m) :: rest) : h.agenda.countP Frame.resumes = 1 := by
  rw [next, List.countP_cons, resumes_rest sound next]
  rfl

section

variable {s : Session} {a : Action} (sound : h.IsSound) (next : h.agenda = .act a :: rest)

include sound next

theorem untaken_of_midway (midway : h.midway) : (Happening.acted s a).taken? = none := by
  have halfway := sound.half midway
  rw [next] at halfway
  cases halfway <;> rfl

theorem unreleased_act : unreleased { h with agenda := (a.perform s).next ++ rest } =
    (Happening.acted s a).taken?.toList.length := by
  have count : ((a.perform s).next ++ rest).countP Frame.resumes =
      (Happening.acted s a).taken?.toList.length := by
    rw [List.countP_append, resumes_next, resumes_rest sound next, Nat.add_zero]
  cases midway : h.midway with
  | false => simpa [unreleased] using count
  | true => simp [unreleased, untaken_of_midway sound next midway]

theorem loosening_act : loosening { h with agenda := (a.perform s).next ++ rest } = 0 := by
  cases midway : h.midway with
  | false => simp [loosening]
  | true =>
    apply loosening_of_none
    rw [List.countP_append, resumes_next, resumes_rest sound next,
      untaken_of_midway sound next midway]
    rfl

end

end Hand

theorem Exchange.total_moved [DecidableEq ι] [Fintype ι] {x : Exchange ι} {p : Party ι}
    (idle : (x.hands p).agenda = []) (m : Link.Move) {n : Hand → Nat}
    (none : ∀ {h : Hand}, h.agenda.countP Frame.resumes = 0 → n h = 0) :
    (x.moved p m).total n = x.total n := by
  apply total_put_same
  rw [none (h := x.hands p) (by simp [idle]), none]
  cases m.op with
  | none => rfl
  | some op => exact resumes_actions op

def Wire.Endpoint.Read.message? : Wire.Endpoint.Read → Option Message
  | .item i => i.toMessage?
  | _ => none

def Wire.Endpoint.Read.end? : Wire.Endpoint.Read → Option Outcome
  | .item (.close _) | .ended => some .success
  | .failed e => some (.failure (.webSocket e))
  | _ => none

def Deed.result? : Deed ι → Option Wire.Endpoint.Read
  | .read .blocked => none
  | .read r => some r
  | _ => none

def Deed.surfaced? (d : Deed ι) : Option Message := d.result?.bind Wire.Endpoint.Read.message?

def Deed.taken? (d : Deed ι) : Option Message := d.work?.bind Happening.taken?

def Outcome.endAction : Outcome → Action
  | .success => .completeInbound
  | .failure e => .failInbound e

def Action.isPrelude : Action → Bool
  | .log _ | .markClosed => true
  | _ => false

namespace Link

theorem pushed_link (l : Link) (c : Command) (a : Answer) :
    (l.pushed c a).1 = (l.push c).getD l := by
  unfold pushed
  split <;> simp_all

@[simp] theorem flow_push (l : Link) (c : Command) : ((l.push c).getD l).flow = l.flow := by
  unfold push
  split <;> rfl

@[simp] theorem reader_push (l : Link) (c : Command) : ((l.push c).getD l).reader = l.reader := by
  unfold push
  split <;> rfl

theorem flow_pushed (l : Link) (c : Command) (a : Answer) : (l.pushed c a).1.flow = l.flow := by
  rw [pushed_link, flow_push]

theorem reader_pushed (l : Link) (c : Command) (a : Answer) :
    (l.pushed c a).1.reader = l.reader := by
  rw [pushed_link, reader_push]

@[simp] theorem flow_release (l : Link) : l.release.flow = l.flow := by
  unfold release
  split <;> rfl

@[simp] theorem reader_release (l : Link) : l.release.reader = l.reader := by
  unfold release
  split <;> rfl

theorem stepWriter_apart (l : Link) :
    l.stepWriter.link.flow = l.flow ∧ l.stepWriter.link.reader = l.reader ∧
      ∀ op ∈ l.stepWriter.op, op = .setReady true ∨ ∃ e, op = .transportError e := by
  cases stage : l.writer with
  | parked | ended | leaving => simp [stepWriter, stage]
  | taking =>
    cases queue : l.commands with
    | nil => simp [stepWriter, stage, queue]
    | cons c rest =>
      simp only [stepWriter, stage, queue]
      cases c with
      | stop => exact ⟨rfl, rfl, by simp [onCommand]⟩
      | send i | close s =>
        simp only [onCommand, Link.send]
        split <;> exact ⟨rfl, rfl, by simp [writeFailed, closeNotSent]⟩
  | flushing | closing =>
    simp only [stepWriter, stage, Link.flush]
    split <;> exact ⟨rfl, rfl, by simp [writeFailed, closeNotSent]⟩

theorem stepReader_op {l : Link} (stage : l.reader ≠ .reading) : l.stepReader.op = none := by
  cases here : l.reader with
  | reading => exact absurd here stage
  | parked =>
    simp only [stepReader, here]
    split <;> rfl
  | _ => simp only [stepReader, here]

theorem stepReader_suspended {l : Link} (stage : l.reader ≠ .reading) :
    l.stepReader.link.flow.suspended = l.flow.suspended := by
  cases here : l.reader with
  | reading => exact absurd here stage
  | leaving => simp only [stepReader, here, flow_release, flow_push]
  | _ =>
    simp only [stepReader, here, Flow.enlist, Flow.heed]
    repeat' split
    all_goals rfl

/-- What the reader does with what it has read: it reads again, hands a message on or reports the
end. -/
inductive Reading (l : Link) : Wire.Endpoint.Read → Move → Prop
  | blocked : Reading l .blocked { link := l, rests := true }
  | message (i : Wire.Item) (m : Message) (data : i.toMessage? = some m) :
    Reading l (.item i) { link := { l with reader := .checking }, op := some (.message m) }
  | ended (r : Wire.Endpoint.Read) (o : Outcome) (said : r.end? = some o) (entries : List Entry)
    (op : Op) (pre : List Action) (quiet : ∀ a ∈ pre, a.isPrelude)
    (actions : op.actions = pre ++ [o.endAction, .record o, .reply .unit]) :
    Reading l r { link := { l with reader := .leaving }, entries, op := some op }

theorem reading_onRead (l : Link) (r : Wire.Endpoint.Read) : Reading l r (l.onRead r) := by
  cases r with
  | blocked => exact .blocked
  | failed e =>
    exact .ended _ (.failure (.webSocket e)) rfl _ _ [.log (.transportFailed (.webSocket e))]
      (by simp [Action.isPrelude]) rfl
  | ended =>
    exact .ended _ .success rfl _ _ [.log (.transportClosed .noCloseFrame), .markClosed]
      (by simp [Action.isPrelude]) rfl
  | item i =>
    cases i with
    | close body =>
      exact .ended _ .success rfl _ _
        [.log (.transportClosed ((body.map Wire.CloseBody.status).getD .noStatusCode)), .markClosed]
        (by simp [Action.isPrelude]) rfl
    | _ => exact .message _ _ rfl

end Link

end Duplex

import Duplex.Proofs.Exchange.Passage
import Duplex.Proofs.Exchange.Sink
import Duplex.Proofs.Wire.Carrying

/-!
What each passage does to the endpoint: it is left as it is, it is read from, an item is sent, or it
is flushed. A session's own part in that is the commands that it queues.
-/

namespace Duplex

open History Wire Endpoint

variable {ι : Type}

namespace Link

theorem WriterStage.isBusy_of_ne {w : WriterStage} (flushing : w ≠ .flushing)
    (closing : w ≠ .closing) : w.isBusy = false := by
  cases w <;> simp_all [isBusy]

structure Keeps (gone : Prop) (l k : Link) : Prop where
  endpoint : k.endpoint = l.endpoint
  reader : l.reader.isLeaving → k.reader.isLeaving
  busy : k.writer.isBusy = l.writer.isBusy
  closing : k.writer = .closing → l.writer = .closing
  closed : k.outbound.closed → l.outbound.closed ∨ k.isOver ∨ gone
  ended : l.isOver → k.isOver

/-- What a passage does to the endpoint and the pipe that it writes to. -/
inductive Turns (gone : Prop) (l k : Link) : Option Contact → Octets → Prop
  | keeps (keeps : Keeps gone l k) : Turns gone l k none []
  | reads (stage : l.reader = .reading) (inbound : Pipe) (r : Endpoint.Read)
    (read : l.endpoint.read l.inbound l.outbound = (k.endpoint, inbound, k.outbound, r))
    (writer : k.writer = l.writer) : Turns gone l k none (l.added k)
  | sends (taking : l.writer = .taking) (reader : k.reader = l.reader) (item : Item)
    (r : Option WebSocketFault)
    (sent : l.endpoint.send item l.outbound = (k.endpoint, k.outbound, r))
    (busy : k.writer.isBusy = r.isNone)
    (closing : k.writer = .closing → ∃ body, item = .close body) :
    Turns gone l k (some (.sent item r)) (l.added k)
  | flushes (busy : l.writer.isBusy) (r : Flush)
    (flushed : l.endpoint.flush l.outbound = (k.endpoint, k.outbound, r))
    (blocked : r = .blocked → k.writer.isBusy)
    (closing : k.writer = .closing → l.writer = .closing) :
    Turns gone l k (some (.flushed r)) (l.added k)

section

variable {gone : Prop} {l k : Link}

theorem Keeps.turns (keeps : Keeps gone l k)
    (same : k.outbound.content = l.outbound.content) : Turns gone l k none (l.added k) := by
  have nothing : l.added k = [] := by simp [added, same]
  rw [nothing]
  exact .keeps keeps

@[simp] theorem endpoint_release (l : Link) : l.release.endpoint = l.endpoint := by
  unfold release
  split <;> rfl

@[simp] theorem content_release (l : Link) :
    l.release.outbound.content = l.outbound.content := by
  unfold release
  split <;> rfl

@[simp] theorem isOver_release (l : Link) : l.release.isOver = l.isOver := by
  simp [isOver]

theorem closed_release (closed : l.release.outbound.closed) : l.outbound.closed ∨ l.isOver := by
  unfold release at closed
  split at closed
  · exact .inr ‹_›
  · exact .inl closed

theorem Keeps.refl (gone : Prop) (l : Link) : Keeps gone l l := ⟨rfl, id, rfl, id, .inl, id⟩

theorem keeps_push (gone : Prop) (l : Link) (c : Command) : Keeps gone l ((l.push c).getD l) := by
  unfold push
  split
  · exact .refl gone l
  · rename_i parked
    refine ⟨rfl, id, by rw [parked]; rfl, by simp, .inl, ?_⟩
    simp [isOver, parked]
  · exact ⟨rfl, id, rfl, id, .inl, id⟩

theorem keeps_release (gone : Prop) (l : Link) : Keeps gone l l.release where
  endpoint := by simp
  reader := by simp
  busy := by simp
  closing := by simp
  closed closed := by simpa using (closed_release closed).imp_right .inl
  ended := by simp

theorem Keeps.trans {m : Link} (first : Keeps gone l k) (second : Keeps gone k m) :
    Keeps gone l m := by
  refine ⟨second.endpoint.trans first.endpoint, second.reader ∘ first.reader,
    second.busy.trans first.busy, first.closing ∘ second.closing, fun closed => ?_,
    second.ended ∘ first.ended⟩
  rcases second.closed closed with before | after
  · rcases first.closed before with closed | ended | gone
    · exact .inl closed
    · exact .inr (.inl (second.ended ended))
    · exact .inr (.inr gone)
  · exact .inr after

theorem content_push (l : Link) (c : Command) : ((l.push c).getD l).outbound = l.outbound := by
  unfold push
  split <;> rfl

theorem stepReader_keeps (gone : Prop) (stage : l.reader ≠ .reading) :
    Keeps gone l l.stepReader.link := by
  have ends (l : Link) : Keeps gone l { l with reader := .ended } :=
    ⟨rfl, fun _ => rfl, rfl, id, .inl, by simp [isOver]⟩
  cases here : l.reader with
  | reading => exact absurd here stage
  | leaving =>
    simp only [stepReader, here]
    exact ((keeps_push gone l .stop).trans (ends _)).trans (keeps_release gone _)
  | _ =>
    simp only [stepReader, here]
    repeat' split
    all_goals
      exact ⟨rfl, by simp [ReaderStage.isLeaving, here], rfl, id, .inl, by simp [isOver, here]⟩

theorem stepReader_content (stage : l.reader ≠ .reading) :
    l.stepReader.link.outbound.content = l.outbound.content := by
  cases here : l.reader with
  | reading => exact absurd here stage
  | leaving => simp only [stepReader, here, content_release, content_push]
  | _ =>
    simp only [stepReader, here]
    repeat' split
    all_goals rfl

theorem keeps_advance (gone : Prop) {w : WriterStage} (commands : List Command)
    (before : l.writer.isBusy = false) (unended : l.writer ≠ .ended) (after : w.isBusy = false) :
    Keeps gone l { l with writer := w, commands } := by
  refine ⟨rfl, id, after.trans before.symm, fun closing => ?_, .inl, by simp [isOver, unended]⟩
  obtain rfl : w = .closing := closing
  simp [WriterStage.isBusy] at after

theorem onCommand_turns (gone : Prop) (c : Command) (rest : List Command)
    (taking : l.writer = .taking) {m : Move} (after : m = { l with commands := rest }.onCommand c) :
    Turns gone l m.link m.contact (l.added m.link) := by
  subst after
  cases c with
  | stop =>
    have keeps : Keeps gone l { l with writer := .leaving, commands := rest } :=
      keeps_advance gone rest (by rw [taking]; rfl) (by simp [taking]) rfl
    exact keeps.turns rfl
  | send i =>
    rcases sent : l.endpoint.send i l.outbound with ⟨e, out, f⟩
    simp only [onCommand, Link.send, sent]
    refine .sends taking ?_ i f ?_ ?_ ?_ <;> cases f <;>
      first | rfl | exact sent | simp [writeFailed]
  | close s =>
    rcases sent : l.endpoint.send (.close (CloseBody.ofStatus s)) l.outbound with ⟨e, out, f⟩
    simp only [onCommand, Link.send, sent]
    refine .sends taking ?_ _ f ?_ ?_ fun _ => ⟨_, rfl⟩ <;> cases f <;> first | rfl | exact sent

theorem stepWriter_turns (gone : Prop) (l : Link) :
    Turns gone l l.stepWriter.link l.stepWriter.contact (l.added l.stepWriter.link) := by
  cases stage : l.writer with
  | parked | ended => simpa [stepWriter, stage] using (Keeps.refl gone l).turns rfl
  | leaving =>
    have ends : Keeps gone l { l with writer := .ended, commands := [] } :=
      keeps_advance gone [] (by rw [stage]; rfl) (by simp [stage]) rfl
    simp only [stepWriter, stage]
    exact (ends.trans (keeps_release gone _)).turns (by simp)
  | taking =>
    cases queue : l.commands with
    | nil =>
      have parks : Keeps gone l { l with writer := .parked, commands := [] } :=
        keeps_advance gone [] (by rw [stage]; rfl) (by simp [stage]) rfl
      simpa [stepWriter, stage, queue] using parks.turns rfl
    | cons c rest => exact onCommand_turns gone c rest stage (by simp only [stepWriter, stage, queue])
  | flushing | closing =>
    have busy : l.writer.isBusy := by rw [stage]; rfl
    rcases flushed : l.endpoint.flush l.outbound with ⟨e, out, f⟩
    simp only [stepWriter, stage, Link.flush, flushed]
    cases f <;>
      exact .flushes busy _ flushed (by simp [WriterStage.isBusy])
        (by simp [stage, writeFailed, closeNotSent])

theorem onRead_link (l : Link) (r : Endpoint.Read) :
    ∃ stage, (l.onRead r).link = { l with reader := stage } := by
  cases r with
  | item i => cases i <;> exact ⟨_, rfl⟩
  | _ => exact ⟨_, rfl⟩

theorem stepReader_turns (gone : Prop) (stage : l.reader = .reading) :
    Turns gone l l.stepReader.link none (l.added l.stepReader.link) := by
  rcases read : l.endpoint.read l.inbound l.outbound with ⟨e, inp, out, r⟩
  let m := { l with endpoint := e, inbound := inp, outbound := out }
  have after : l.stepReader = m.onRead r := by simp only [stepReader, stage, read, m]
  obtain ⟨stage', same⟩ := onRead_link m r
  rw [after, same]
  exact .reads stage inp r read rfl

theorem conclude_keeps (gone : Prop) (l : Link) (c : Call) :
    Keeps gone l (l.conclude c).1 ∧ (l.conclude c).1.outbound = l.outbound := by
  cases c with
  | write | close =>
    simp only [conclude, carryOut, pushed_link]
    exact ⟨keeps_push gone l _, content_push l _⟩
  | _ => exact ⟨⟨rfl, id, rfl, id, .inl, id⟩, rfl⟩

end

end Link

namespace Exchange

open Link

variable [DecidableEq ι] {x y z : Exchange ι} {p : Passage ι} {gone : Prop}

theorem Step.turns {d : Deed ι} (step : Step x d y) (inner : d.isInner) :
    Turns gone x.link y.link d.contact? (x.link.added y.link) := by
  cases step with
  | begins | acts | hears | lowers => exact (Keeps.refl gone x.link).turns rfl
  | releases =>
    have keeps : Keeps gone x.link (x.link.prepare .resume) := ⟨rfl, id, rfl, id, .inl, id⟩
    exact keeps.turns rfl
  | @serves _ w =>
    obtain ⟨keeps, same⟩ := conclude_keeps gone x.link w.call
    exact keeps.turns (congrArg _ same)
  | tends _ stage => exact (stepReader_keeps gone stage).turns (stepReader_content stage)
  | writes => exact stepWriter_turns gone x.link
  | reads | shifts => simp [Deed.isInner] at inner

theorem Passes.turns (passes : Passes x p y) (leaving : p = .left → gone) :
    Turns gone x.link y.link p.deed.contact? p.put := by
  cases passes with
  | works step inner => exact step.turns inner
  | reads _ stage => exact stepReader_turns gone stage
  | speaks | takes => exact .keeps ⟨rfl, id, rfl, id, .inl, id⟩
  | leaves => exact .keeps ⟨rfl, id, rfl, id, fun _ => .inr (.inr (leaving rfl)), id⟩

variable {ps : List (Passage ι)}

theorem Passing.keeps_contacts {P : List Contact → Octets → Link → Prop}
    (step : ∀ {cs put l k c b}, P cs put l → Turns gone l k c b → P (cs ++ c.toList) (put ++ b) k)
    (passing : Passing x ps y) (leaving : .left ∈ ps → gone) (cs : List Contact) {put : Octets}
    (start : P cs put x.link) :
    P (cs ++ contacts (ps.map Passage.deed)) (put ++ onWire ps) y.link := by
  induction passing with
  | nil => simpa [onWire, contacts] using start
  | @snoc _ _ ps p _ passes ih =>
    have before := ih fun mem => leaving (by simp [mem])
    have turns : Turns gone _ _ p.deed.contact? p.put :=
      passes.turns fun same => leaving (by simp [same])
    rw [onWire_snoc, List.map_append, List.map_singleton, contacts_snoc, ← List.append_assoc,
      ← List.append_assoc]
    exact step before turns

theorem Passing.keeps {P : Octets → Link → Prop}
    (step : ∀ {put l k c b}, P put l → Turns gone l k c b → P (put ++ b) k)
    (passing : Passing x ps y) (leaving : .left ∈ ps → gone) {put : Octets} (start : P put x.link) :
    P (put ++ onWire ps) y.link :=
  passing.keeps_contacts (P := fun _ => P) step leaving [] start

end Exchange

end Duplex

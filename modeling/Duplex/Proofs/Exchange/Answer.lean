import Duplex.Proofs.Exchange.Turns

/-!
A peer's close and its answer. The answer is queued when the close is read, and what is queued goes
out with the next flush; but the reader leaves, and the writer flushes nothing more unless it is in
the middle of it.
-/

namespace Duplex

open History Wire Endpoint

variable {ι : Type}

namespace Link

section

variable {gone : Prop} {l k : Link} {c : Option Contact} {put b : Octets}
  {frames fs : List Wire.Frame}

def IsWired (frames : List Wire.Frame) (put : Octets) (l : Link) : Prop :=
  put ++ l.endpoint.output = l.endpoint.encode frames

theorem IsWired.emits (wired : IsWired frames put l)
    (emits : Emits l.endpoint l.outbound fs k.endpoint k.outbound) :
    IsWired (frames ++ fs) (put ++ l.added k) k := by
  obtain ⟨role, b, outbound, moved⟩ := emits
  have added : l.added k = b := by simp [added, outbound]
  rw [IsWired, added, List.append_assoc, moved, ← List.append_assoc, wired, encode_role role,
    encode_append]

theorem IsWired.keeps (wired : IsWired frames put l) (same : k.endpoint = l.endpoint) :
    IsWired frames (put ++ []) k := by
  rwa [IsWired, same, List.append_nil]

structure IsUnclosed (put : Octets) (l : Link) : Prop where
  writer : l.writer ≠ .closing
  queued : l.endpoint.QueuesPongs
  wired : ∃ frames, IsWired frames put l ∧ ∀ f ∈ frames, f.header.opcode ≠ Opcode.close

structure IsSent (gone : Prop) (frames : List Wire.Frame) (put : Octets) (l : Link) : Prop where
  stage : l.endpoint.stage ≠ .active
  queued : l.endpoint.queued = none
  wired : IsWired frames put l
  flushed : l.endpoint.output = [] ∨ l.writer.isBusy ∨ gone

def IsHeld (gone : Prop) (l : Link) : Prop := l.outbound.closed → l.isOver ∨ gone

theorem closed_of_emits (emits : Emits l.endpoint l.outbound fs k.endpoint k.outbound) :
    k.outbound.closed = l.outbound.closed := by
  obtain ⟨-, b, outbound, -⟩ := emits
  rw [outbound]

theorem Turns.emits (turns : Turns gone l k c b) : Keeps gone l k ∨
    l.isOver = false ∧ ∃ fs, Emits l.endpoint l.outbound fs k.endpoint k.outbound := by
  cases turns with
  | keeps keeps => exact .inl keeps
  | reads stage _ _ read =>
    obtain ⟨fs, emits, -⟩ := (read_reads read).emits
    exact .inr ⟨by simp [isOver, stage], fs, emits⟩
  | sends taking _ _ _ sent => exact .inr ⟨by simp [isOver, taking], send_emits sent⟩
  | flushes busy _ flushed =>
    refine .inr ⟨?_, _, (flush_emits flushed).1⟩
    cases stage : l.writer <;> simp [isOver, stage, WriterStage.isBusy] at busy ⊢

theorem IsHeld.turns (held : IsHeld gone l) (turns : Turns gone l k c b) : IsHeld gone k := by
  intro closed
  rcases turns.emits with keeps | ⟨unended, fs, emits⟩
  · rcases keeps.closed closed with before | after
    · exact (held before).imp_left keeps.ended
    · exact after
  · rw [closed_of_emits emits] at closed
    exact .inr (by simpa [unended] using held closed)

theorem send_of_inactive {item : Item} {r : Option WebSocketFault}
    (begun : l.endpoint.stage ≠ .active)
    (sent : l.endpoint.send item l.outbound = (k.endpoint, k.outbound, r)) :
    k.endpoint = l.endpoint ∧ Emits l.endpoint l.outbound [] k.endpoint k.outbound ∧
      r.isNone = false := by
  obtain ⟨f, refused⟩ := send_refused begun item l.outbound
  rw [refused] at sent
  obtain ⟨endpoint, outbound, rfl⟩ :
      l.endpoint = k.endpoint ∧ l.outbound = k.outbound ∧ some f = r := by simpa using sent
  rw [← endpoint, ← outbound]
  exact ⟨rfl, .of_same rfl rfl, rfl⟩

theorem flushes_result {r : Flush} (held : IsHeld gone l) (busy : l.writer.isBusy)
    (flushed : l.endpoint.flush l.outbound = (k.endpoint, k.outbound, r))
    (blocked : r = .blocked → k.writer.isBusy) :
    k.endpoint.output = [] ∨ k.writer.isBusy ∨ gone := by
  obtain ⟨empty, failed⟩ := flush_result flushed
  cases r with
  | blocked => exact .inr (.inl (blocked rfl))
  | done => exact .inl (empty (.inl rfl))
  | finished => exact .inl (empty (.inr rfl))
  | failed f =>
    rcases held (failed f rfl) with ended | gone
    · simp only [isOver, Bool.and_eq_true, decide_eq_true_eq] at ended
      simp [ended.2, WriterStage.isBusy] at busy
    · exact .inr (.inr gone)

theorem IsSent.turns (sent : IsSent gone frames put l) (held : IsHeld gone l)
    (turns : Turns gone l k c b) : IsSent gone frames (put ++ b) k := by
  obtain ⟨stage, queued, wired, flushed⟩ := sent
  -- Without a new frame, what had been written out stays so.
  have emptied {e₁ : Endpoint} {out₁ : Pipe} (emits : Emits l.endpoint l.outbound [] e₁ out₁)
      (empty : l.endpoint.output = []) : e₁.output = [] := by
    obtain ⟨-, b, -, moved⟩ := emits
    have nothing : b ++ e₁.output = [] := moved.trans (by simp [empty, encode])
    exact (List.append_eq_nil_iff.mp nothing).2
  cases turns with
  | keeps keeps =>
    refine ⟨keeps.endpoint ▸ stage, keeps.endpoint ▸ queued, wired.keeps keeps.endpoint, ?_⟩
    rwa [keeps.endpoint, keeps.busy]
  | reads _ inbound r read writer =>
    obtain ⟨begun, idle, emits⟩ := (read_reads read).idle stage queued
    refine ⟨begun, idle, by simpa using wired.emits emits, ?_⟩
    rw [writer]
    exact flushed.imp_left (emptied emits)
  | sends taking _ item r sent =>
    obtain ⟨same, emits, -⟩ := send_of_inactive stage sent
    refine ⟨same ▸ stage, same ▸ queued, by simpa using wired.emits emits, ?_⟩
    rcases flushed with empty | busy | gone
    · exact .inl (same ▸ empty)
    · simp [taking, WriterStage.isBusy] at busy
    · exact .inr (.inr gone)
  | flushes busy r flush blocked =>
    obtain ⟨emits, stages, idle⟩ := flush_emits flush
    rw [queued] at emits
    exact ⟨stages.begun stage, idle, by simpa using wired.emits emits,
      flushes_result held busy flush blocked⟩

/-- The peer's close has been read, and nobody is going to flush its answer. -/
structure IsMute (frames : List Wire.Frame) (put : Octets) (l : Link) : Prop where
  reader : l.reader.isLeaving
  writer : l.writer.isBusy = false
  stage : l.endpoint.stage ≠ .active
  wired : IsWired frames put l

theorem IsMute.turns (mute : IsMute frames put l) (turns : Turns gone l k c b) :
    IsMute frames (put ++ b) k := by
  obtain ⟨reader, writer, stage, wired⟩ := mute
  cases turns with
  | keeps keeps =>
    exact ⟨keeps.reader reader, keeps.busy.trans writer, keeps.endpoint ▸ stage,
      wired.keeps keeps.endpoint⟩
  | reads reading => simp [reading, ReaderStage.isLeaving] at reader
  | sends _ kept item r sent busy =>
    obtain ⟨same, emits, refused⟩ := send_of_inactive stage sent
    exact ⟨kept ▸ reader, busy.trans refused, same ▸ stage, by simpa using wired.emits emits⟩
  | flushes busy => simp [writer] at busy

/-- The peer's close has been read while the writer was flushing; the answer is queued. -/
structure IsOwing (frames : List Wire.Frame) (reply : Wire.Frame) (put : Octets) (l : Link) :
    Prop where
  reader : l.reader.isLeaving
  writer : l.writer.isBusy
  stage : l.endpoint.stage ≠ .active
  queued : l.endpoint.queued = some reply
  wired : IsWired frames put l

theorem IsOwing.turns {reply : Wire.Frame} (owing : IsOwing frames reply put l)
    (held : IsHeld gone l) (turns : Turns gone l k c b) :
    IsOwing frames reply (put ++ b) k ∨ IsSent gone (frames ++ [reply]) (put ++ b) k := by
  obtain ⟨reader, writer, stage, queued, wired⟩ := owing
  cases turns with
  | keeps keeps =>
    exact .inl ⟨keeps.reader reader, keeps.busy.trans writer, keeps.endpoint ▸ stage,
      keeps.endpoint ▸ queued, wired.keeps keeps.endpoint⟩
  | reads reading => simp [reading, ReaderStage.isLeaving] at reader
  | sends taking => simp [taking, WriterStage.isBusy] at writer
  | flushes busy r flush blocked =>
    obtain ⟨emits, stages, idle⟩ := flush_emits flush
    rw [queued] at emits
    exact .inr ⟨stages.begun stage, idle, wired.emits emits,
      flushes_result held busy flush blocked⟩

theorem Turns.active (turns : Turns gone l k c b) (active : k.endpoint.stage = .active) :
    l.endpoint.stage = .active := by
  by_contra begun
  cases turns with
  | keeps keeps => exact begun (keeps.endpoint ▸ active)
  | reads _ _ _ read => exact begun ((read_reads read).carries active).1
  | sends _ _ _ _ sent => exact begun ((send_of_inactive begun sent).1 ▸ active)
  | flushes _ _ flushed => exact (flush_emits flushed).2.1.begun begun active

theorem opcode_ofItem {item : Item} (other : ∀ body, item ≠ .close body) :
    (Wire.Frame.ofItem item).header.opcode ≠ Opcode.close := by
  cases item with
  | close body => exact absurd rfl (other body)
  | text | binary | ping | pong => exact ne_of_beq_false rfl

theorem IsUnclosed.due (unclosed : IsUnclosed put l) {f : Wire.Frame} (due : l.endpoint.IsDue f) :
    f.header.opcode = Opcode.pong := by
  rcases due with queued | ⟨-, pong⟩
  · exact unclosed.queued f queued
  · exact pong

theorem IsUnclosed.emits (unclosed : IsUnclosed put l)
    (emits : Emits l.endpoint l.outbound fs k.endpoint k.outbound)
    (harmless : ∀ f ∈ fs, f.header.opcode ≠ Opcode.close) :
    ∃ frames, IsWired frames (put ++ l.added k) k ∧
      ∀ f ∈ frames, f.header.opcode ≠ Opcode.close := by
  obtain ⟨frames, wired, others⟩ := unclosed.wired
  exact ⟨_, wired.emits emits, List.forall_mem_append.mpr ⟨others, harmless⟩⟩

theorem IsUnclosed.turns (unclosed : IsUnclosed put l) (turns : Turns gone l k c b)
    (active : k.endpoint.stage = .active) : IsUnclosed (put ++ b) k := by
  have before := turns.active active
  have harmless {f : Wire.Frame} (due : l.endpoint.IsDue f) : f.header.opcode ≠ Opcode.close := by
    rw [unclosed.due due]
    decide
  cases turns with
  | keeps keeps =>
    obtain ⟨writer, queued, frames, wired, others⟩ := unclosed
    exact ⟨writer ∘ keeps.closing, keeps.endpoint ▸ queued, frames,
      wired.keeps keeps.endpoint, others⟩
  | reads _ _ _ read writer =>
    obtain ⟨-, carries⟩ := (read_reads read).carries active
    obtain ⟨fs, emits, due⟩ := carries.emits
    exact ⟨writer ▸ unclosed.writer, fun f mem => unclosed.due (carries.queued f mem),
      unclosed.emits emits fun f mem => harmless (due f mem)⟩
  | sends _ _ item _ sent _ closing =>
    have other : ∀ body, item ≠ .close body := by
      rintro body rfl
      exact (send_close before sent).1 active
    obtain ⟨-, idle, fs, emits, laced⟩ := send_sends before other sent
    have others := (laced unclosed.queued).forall_mem
      (List.forall_mem_singleton.mpr (opcode_ofItem other)) fun _ => harmless
    refine ⟨fun closes => ?_, by simp [QueuesPongs, idle], unclosed.emits emits others⟩
    obtain ⟨body, close⟩ := closing closes
    exact other body close
  | flushes _ _ flushed _ closing =>
    obtain ⟨emits, -, idle⟩ := flush_emits flushed
    refine ⟨unclosed.writer ∘ closing, by simp [QueuesPongs, idle],
      unclosed.emits emits fun f mem => ?_⟩
    exact harmless (.inl (by simpa using mem))

theorem Turns.closing (turns : Turns gone l k c b) (closed : k.endpoint.stage = .closedByUs) :
    l.endpoint.stage = .closedByUs ∨ l.endpoint.stage = .active ∧ l.writer = .taking ∧
      ∃ body r, l.endpoint.send (.close body) l.outbound = (k.endpoint, k.outbound, r) ∧
        k.writer.isBusy = r.isNone ∧ b = l.added k := by
  cases turns with
  | keeps keeps => exact .inl (keeps.endpoint ▸ closed)
  | reads _ _ _ read => exact .inl ((read_reads read).ours closed)
  | sends taking _ item r sent busy =>
    by_cases active : l.endpoint.stage = .active
    · by_cases close : ∃ body, item = .close body
      · obtain ⟨body, rfl⟩ := close
        exact .inr ⟨active, taking, body, r, sent, busy, rfl⟩
      · have stage := (send_sends active (by simpa using close) sent).stage
        simp [closed] at stage
    · exact .inl ((send_of_inactive active sent).1 ▸ closed)
  | flushes _ _ flushed => exact .inl ((flush_emits flushed).2.1.before closed (by simp))

/-- What is known as long as the peer's close has not been answered: either no close is begun, or
ours is on its way. -/
structure Unheard (gone : Prop) (put : Octets) (l : Link) : Prop where
  unclosed : l.endpoint.stage = .active → IsUnclosed put l
  ours : l.endpoint.stage = .closedByUs →
    ∃ frames, IsSent gone frames put l ∧ ∃ f ∈ frames, f.header.opcode = Opcode.close
  held : IsHeld gone l

theorem Unheard.turns (unheard : Unheard gone put l) (turns : Turns gone l k c b) :
    Unheard gone (put ++ b) k := by
  obtain ⟨unclosed, ours, held⟩ := unheard
  refine ⟨fun active => (unclosed (turns.active active)).turns turns active, fun closed => ?_,
    held.turns turns⟩
  rcases turns.closing closed with before | ⟨active, taking, body, r, sent, busy, rfl⟩
  · obtain ⟨frames, sent, mem⟩ := ours before
    exact ⟨frames, sent.turns held turns, mem⟩
  · obtain ⟨frames, wired, -⟩ := (unclosed active).wired
    obtain ⟨begun, idle, failed, fs, emits, laced⟩ := send_close active sent
    have mem := laced.sublist.subset (List.mem_singleton_self _)
    refine ⟨frames ++ fs, ⟨begun, idle, wired.emits emits, ?_⟩, _,
      List.mem_append_right frames mem, opcode_close body⟩
    cases r with
    | none => exact .inr (.inl busy)
    | some f =>
      rcases held (failed (by simp)) with ended | gone
      · simp [isOver, taking] at ended
      · exact .inr (.inr gone)

theorem Unheard.hears {body : Option CloseBody} (unheard : Unheard gone put l)
    (reading : l.reader = .reading)
    (close : (l.endpoint.read l.inbound l.outbound).2.2.2 = .item (.close body)) :
    (l.endpoint.stage = .active ∧ ∃ frames, (∀ f ∈ frames, f.header.opcode ≠ Opcode.close) ∧
      (l.writer ≠ .flushing → IsMute frames (put ++ l.added l.stepReader.link) l.stepReader.link) ∧
      (l.writer = .flushing → IsOwing frames (.ofItem (.close body))
        (put ++ l.added l.stepReader.link) l.stepReader.link)) ∨
    l.endpoint.stage ≠ .active ∧ ∃ frames,
      IsSent gone frames (put ++ l.added l.stepReader.link) l.stepReader.link ∧
        ∃ f ∈ frames, f.header.opcode = Opcode.close := by
  have turns := stepReader_turns gone reading
  rcases read : l.endpoint.read l.inbound l.outbound with ⟨e, inp, out, r⟩
  obtain rfl : r = .item (.close body) := by simpa [read] using close
  have after : l.stepReader.link =
      { l with endpoint := e, inbound := inp, outbound := out, reader := .leaving } := by
    simp only [stepReader, reading, read, onRead]
  have reads := read_reads read
  rcases reads.close_stage with active | ours
  · left
    have unclosed := unheard.unclosed active
    obtain ⟨stage, queued⟩ := reads.answer active unclosed.queued
    obtain ⟨fs, emits, due⟩ := reads.emits
    have harmless : ∀ f ∈ fs, f.header.opcode ≠ Opcode.close := by
      intro f mem
      rw [unclosed.due (due f mem)]
      decide
    obtain ⟨frames, wired, others⟩ :=
      unclosed.emits (k := l.stepReader.link) (by rwa [after]) harmless
    refine ⟨active, frames, others, fun other => ⟨?_, ?_, ?_, wired⟩,
      fun flushing => ⟨?_, ?_, ?_, ?_, wired⟩⟩
    all_goals rw [after]
    · rfl
    · exact WriterStage.isBusy_of_ne other unclosed.writer
    · simp [stage]
    · rfl
    · rw [flushing]
      rfl
    · simp [stage]
    · exact queued
  · right
    obtain ⟨frames, sent, mem⟩ := unheard.ours ours
    exact ⟨by simp [ours], frames, sent.turns unheard.held turns, mem⟩

end

end Link

namespace Exchange

open Link

variable [DecidableEq ι] {x₀ x y z : Exchange ι} {p : Passage ι} {ps qs : List (Passage ι)}
  {gone : Prop}

theorem Passes.of_read {r : Endpoint.Read} {b : Octets}
    (passes : Passes x (.ours (.read r) b) y) : x.link.reader = .reading ∧
      (x.link.endpoint.read x.link.inbound x.link.outbound).2.2.2 = r ∧
      b = x.link.added x.link.stepReader.link ∧ y.link = x.link.stepReader.link := by
  generalize label : Passage.ours (.read r) b = p at passes
  cases passes with
  | works _ inner =>
    cases label
    simp [Deed.isInner] at inner
  | reads _ stage =>
    cases label
    exact ⟨stage, rfl, rfl, rfl⟩
  | speaks | takes | leaves => cases label

end Exchange

namespace Link

variable {gone : Prop} {put : Octets} {l : Link} {frames : List Wire.Frame}

theorem Unheard.start {x : Exchange ι} {capacity : Nat} (opened : x.IsOpened)
    (fresh : x.link.endpoint = { role := x.link.endpoint.role })
    (empty : x.link.outbound = { capacity }) : Unheard gone [] x.link where
  unclosed _ := by
    refine ⟨by simp [opened.writer], ?_, [], ?_, by simp⟩
    · rw [fresh]
      simp [QueuesPongs]
    · rw [IsWired, fresh]
      rfl
  ours closing := by
    rw [fresh] at closing
    simp at closing
  held closed := by simp [empty] at closed

structure IsAnswering (gone : Prop) (frames : List Wire.Frame) (put : Octets) (l : Link) :
    Prop where
  held : IsHeld gone l
  goes : (∃ fs reply, fs ++ [reply] = frames ∧ IsOwing fs reply put l) ∨ IsSent gone frames put l

theorem IsAnswering.turns {k : Link} {b : Octets} (answering : IsAnswering gone frames put l)
    (turns : Turns gone l k c b) : IsAnswering gone frames (put ++ b) k := by
  obtain ⟨held, ⟨fs, reply, rfl, owing⟩ | sent⟩ := answering
  · refine ⟨held.turns turns, ?_⟩
    rcases owing.turns held turns with owing | sent
    · exact .inl ⟨fs, reply, rfl, owing⟩
    · exact .inr sent
  · exact ⟨held.turns turns, .inr (sent.turns held turns)⟩

theorem IsAnswering.settled (answering : IsAnswering gone frames put l) (stays : ¬ gone)
    (closed : l.outbound.closed) : put = l.endpoint.encode frames := by
  have ended := (answering.held closed).resolve_right stays
  have idle : l.writer.isBusy = false := by
    simp only [isOver, Bool.and_eq_true, decide_eq_true_eq] at ended
    rw [ended.2]
    rfl
  rcases answering.goes with ⟨fs, reply, rfl, owing⟩ | sent
  · have busy := owing.writer
    simp [idle] at busy
  · have written : l.endpoint.output = [] := by simpa [idle, stays] using sent.flushed
    have wired := sent.wired
    rwa [IsWired, written, List.append_nil] at wired

end Link

open Exchange Link

variable [DecidableEq ι] {x₀ x y z : Exchange ι} {ps qs : List (Passage ι)}

/-- A peer's close is answered exactly when it is read in the middle of a flush, or when ours has
been sent before: what is flushed then takes the answer along. Otherwise no close frame is ever put
on the wire, since the reader leaves with the answer queued and nothing more is flushed. -/
theorem close_answered {body : Option CloseBody} {b : Octets} {capacity : Nat}
    (opened : x₀.IsOpened) (fresh : x₀.link.endpoint = { role := x₀.link.endpoint.role })
    (empty : x₀.link.outbound = { capacity }) (before : Passing x₀ ps x)
    (close : Passes x (.ours (.read (.item (.close body))) b) y) (after : Passing y qs z) :
    let seen := onWire (ps ++ .ours (.read (.item (.close body))) b :: qs)
    let heeded := x.link.endpoint.stage = .active → x.link.writer = .flushing
    (¬ heeded → ∃ frames, seen ++ z.link.endpoint.output = z.link.endpoint.encode frames ∧
      ∀ f ∈ frames, f.header.opcode ≠ Opcode.close) ∧
    (heeded → .left ∉ ps ++ qs → z.link.outbound.closed →
      ∃ frames, seen = z.link.endpoint.encode frames ∧
        (∃ f ∈ frames, f.header.opcode = Opcode.close) ∧
        (x.link.endpoint.stage = .active → frames.getLast? = some (.ofItem (.close body)))) := by
  intro seen heeded
  obtain ⟨reading, result, rfl, same⟩ := close.of_read
  have whole : seen = onWire ps ++ x.link.added x.link.stepReader.link ++ onWire qs := by
    simp [seen, onWire, Passage.put]
  -- Whether the peer goes is asked of the whole run, so that what is known before the close is
  -- read and after it goes together.
  let gone := Passage.left ∈ ps ++ qs
  have unheard : Unheard gone (onWire ps) x.link :=
    before.keeps (P := Unheard gone) Unheard.turns (List.mem_append_left qs)
      (.start opened fresh empty)
  have held := unheard.held.turns (stepReader_turns gone reading)
  have leaving : .left ∈ qs → gone := List.mem_append_right ps
  have hears := unheard.hears reading result
  rw [← same] at held hears
  rw [whole, ← same]
  rcases hears with ⟨active, frames, others, mute, owing⟩ | ⟨begun, frames, sent, mem⟩
  · refine ⟨fun unheeded => ?_, fun heeds stays closed => ?_⟩
    · have start := mute (by simpa [heeded, active] using unheeded)
      have ends := after.keeps IsMute.turns leaving start
      exact ⟨frames, ends.wired, others⟩
    · have start : IsAnswering gone (frames ++ [.ofItem (.close body)]) _ y.link :=
        ⟨held, .inl ⟨frames, _, rfl, owing (heeds active)⟩⟩
      have ends := after.keeps IsAnswering.turns leaving start
      exact ⟨_, ends.settled stays closed, ⟨_, by simp, opcode_close body⟩, by simp⟩
  · refine ⟨fun unheeded => absurd (fun active => absurd active begun) unheeded,
      fun _ stays closed => ?_⟩
    have start : IsAnswering gone frames _ y.link := ⟨held, .inr sent⟩
    have ends := after.keeps IsAnswering.turns leaving start
    exact ⟨frames, ends.settled stays closed, mem, fun active => absurd active begun⟩

/-- The close is read while a message is being flushed, and its answer goes out behind it. -/
theorem close_answered_flushing :
    let c : Party Unit := .user ()
    let does (p : Party Unit) (n : Nat) : List (Cue Unit) := List.replicate n (.perform p)
    let sends : List (List (Cue Unit)) := [[.start c .send], does c 3, [.start c (.poll 7)],
      does c 4, [.answer c (.item (.binary [1]))], does c 3, [.prepare c], does c 2,
      [.serve c, .write]]
    let hears : List (Prompt Unit) := [.say [0x88, 0x80, 0, 0, 0, 0], .turn .tend]
    let ends : List (List (Cue Unit)) := [does .reader 5, [.answer .reader .done], does .reader 2,
      [.write], does .writer 3, [.tend, .write, .write]]
    let r := (Exchange.sample {}).pass (sends.flatten.map .turn ++ hears)
    let y := r.2.moved .reader r.2.link.stepReader
    let t := y.pass (ends.flatten.map .turn)
    r.2.link.endpoint.stage = .active ∧ r.2.link.writer = .flushing ∧ t.2.link.outbound.closed ∧
      ∃ frames, onWire (r.1 ++ .ours (.read (.item (.close none))) [] :: t.1) =
        t.2.link.endpoint.encode frames ∧ frames.getLast? = some (.ofItem (.close none)) := by
  intro c does sends hears ends r y t
  have active : r.2.link.endpoint.stage = .active := by decide +kernel
  have flushing : r.2.link.writer = .flushing := by decide +kernel
  have closed : t.2.link.outbound.closed := by decide +kernel
  have before : Passing (Exchange.sample {}) r.1 r.2 := passing_pass _ _
  have after : Passing y t.1 t.2 := passing_pass _ _
  have idle : (r.2.hands .reader).agenda = [] := List.isEmpty_iff.mp (by decide +kernel)
  have close := Passes.reads (x := r.2) idle (by decide +kernel)
  have result : (r.2.link.endpoint.read r.2.link.inbound r.2.link.outbound).2.2.2 =
      .item (.close none) := by decide +kernel
  have nothing : r.2.link.added r.2.link.stepReader.link = [] := by decide +kernel
  rw [result, nothing] at close
  have stays : .left ∉ r.1 ++ t.1 := left_notMem (by decide +kernel)
  have opened : (Exchange.sample {}).IsOpened := isOpened_sample rfl
  have answered := (close_answered opened rfl rfl before close after).2
  obtain ⟨frames, wire, -, last⟩ := answered (fun _ => flushing) stays closed
  exact ⟨active, flushing, closed, frames, wire, last active⟩

theorem bytes_ne_nil (f : Wire.Frame) : f.bytes ≠ [] := by simp [Wire.Frame.bytes, Header.bytes]

/-- Nothing but a close comes, and both tasks end without an answer. -/
theorem close_answered_unflushed :
    ¬ ∀ (x₀ x : Exchange Unit) (ps : List (Passage Unit)) (body : Option CloseBody)
      (capacity : Nat), x₀.IsOpened → x₀.link.endpoint = { role := .server } →
      x₀.link.outbound = { capacity } → Passing x₀ ps x → .left ∉ ps →
      spoken ps = ((Wire.Frame.ofItem (.close body)).withMask [0, 0, 0, 0]).bytes →
      x.link.outbound.closed →
      ∃ frames, onWire ps = x.link.endpoint.encode frames ∧
        ∃ f ∈ frames, f.header.opcode = Opcode.close := by
  intro always
  let hears : List (Prompt Unit) := [.say [0x88, 0x80, 0, 0, 0, 0], .turn .tend, .read]
  let reports : List (Prompt Unit) := List.replicate 10 (.turn (.perform .reader))
  let ends : List (Prompt Unit) := [.turn .tend, .turn .write, .turn .write]
  let r := (Exchange.sample {}).pass (hears ++ reports ++ ends)
  have stays : .left ∉ r.1 := left_notMem (by decide +kernel)
  obtain ⟨frames, wire, f, mem, -⟩ := always _ r.2 r.1 none 64 (isOpened_sample rfl) rfl rfl
    (passing_pass _ _) stays (by decide +kernel) (by decide +kernel)
  have silent : onWire r.1 = [] := by decide +kernel
  rw [silent, encode, eq_comm, List.flatMap_eq_nil_iff] at wire
  exact bytes_ne_nil _ (wire f mem)

end Duplex

import Duplex.Proofs.Exchange.Slot
import Mathlib.Data.List.DropRight

/-!
What the writer hands to the sink. It carries out one command at a time, so at most one frame is
being flushed; behind a close or a stop no frame is ever queued, so none is lost when it ends.
-/

namespace Duplex

variable {ι : Type}

namespace Link

/-- The item that the endpoint has been given, and has taken. -/
def Contact.item? : Contact → Option Wire.Item
  | .sent i none => some i
  | _ => none

def Contact.isFlush : Contact → Bool
  | .flushed .done | .flushed .finished => true
  | _ => false

def Contact.fails : Contact → Bool
  | .sent _ (some _) | .flushed (.failed _) => true
  | _ => false

namespace Contact

def given (cs : List Contact) : List Wire.Item := cs.filterMap item?

def settled (cs : List Contact) : List Wire.Item := given (cs.rdropWhile fun c => !c.isFlush)

section

variable (cs : List Contact) (c : Contact)

theorem given_snoc : given (cs ++ [c]) = given cs ++ c.item?.toList := filterMap_snoc _ cs c

theorem settled_snoc :
    settled (cs ++ [c]) = if c.isFlush then given (cs ++ [c]) else settled cs := by
  rw [settled, List.rdropWhile_concat]
  cases c.isFlush <;> rfl

theorem isPrefix_settled : settled cs <+: given cs :=
  (List.rdropWhile_prefix _ cs).filterMap _

variable {c} in
theorem item?_of_isFlush (flush : c.isFlush) : c.item? = none := by
  cases c <;> simp_all [isFlush, item?]

theorem settled_mono : settled cs <+: settled (cs ++ [c]) := by
  rw [settled_snoc]
  split
  · rw [given_snoc]
    exact (isPrefix_settled cs).trans (List.prefix_append _ _)
  · exact List.prefix_rfl

end

end Contact

def Command.item? : Command → Option Wire.Item
  | .send i => some i
  | .close s => some (.close (Wire.CloseBody.ofStatus s))
  | .stop => none

def Command.isSend : Command → Bool
  | .send _ => true
  | _ => false

def Command.stage : Command → WriterStage
  | .send _ => .flushing
  | .close _ => .closing
  | .stop => .leaving

def WriterStage.isThrough : WriterStage → Bool
  | .closing | .leaving | .ended => true
  | _ => false

def WriterStage.isBusy : WriterStage → Bool
  | .flushing | .closing => true
  | _ => false

def waiting (l : Link) : List Wire.Item := l.commands.filterMap Command.item?

def inFlight (l : Link) : Nat :=
  l.commands.countP Command.isSend + if l.writer = .flushing then 1 else 0

end Link

def Deed.contact? : Deed ι → Option Link.Contact
  | .wrote m => m.contact
  | _ => none

def Deed.asks : Deed ι → Bool
  | .wrote m => m.op = some (.setReady true)
  | _ => false

namespace History

def contacts (ds : List (Deed ι)) : List Link.Contact := ds.filterMap Deed.contact?

/-- The items that the sink has been given. -/
def sent (ds : List (Deed ι)) : List Wire.Item := Link.Contact.given (contacts ds)

/-- The items that the sink was given before the last flush that came to its end. -/
def flushed (ds : List (Deed ι)) : List Wire.Item := Link.Contact.settled (contacts ds)

def asked (ds : List (Deed ι)) : Nat := ds.countP Deed.asks

section

variable (ds : List (Deed ι)) (d : Deed ι)

theorem contacts_snoc : contacts (ds ++ [d]) = contacts ds ++ d.contact?.toList :=
  filterMap_snoc _ ds d

theorem asked_snoc : asked (ds ++ [d]) = asked ds + d.asks.toNat := by
  cases here : d.asks <;> simp [asked, here]

theorem isPrefix_flushed : flushed ds <+: sent ds := Link.Contact.isPrefix_settled _

theorem sent_mono : sent ds <+: sent (ds ++ [d]) := by
  rw [sent, sent, contacts_snoc]
  exact (List.prefix_append _ _).filterMap _

theorem flushed_mono : flushed ds <+: flushed (ds ++ [d]) := by
  rw [flushed, flushed, contacts_snoc]
  cases d.contact? with
  | none => simp
  | some c => exact Link.Contact.settled_mono _ c

variable {ds d}

theorem sent_silent (silent : d.contact? = none) : sent (ds ++ [d]) = sent ds := by
  simp [sent, contacts_snoc, silent]

theorem flushed_silent (silent : d.contact? = none) : flushed (ds ++ [d]) = flushed ds := by
  simp [flushed, contacts_snoc, silent]

end

end History

namespace Link

inductive Writing (l k : Link) : Option Contact → Option Op → Prop
  | idles (c : Option Contact) (ungiven : c.bind Contact.item? = none)
    (unflushed : c.any Contact.isFlush = false) (commands : k.commands = l.commands)
    (writer : k.writer = l.writer ∨ l.writer = .taking ∧ k.writer = .parked) : Writing l k c none
  | takes (m : Command) (c : Option Contact) (given : c = m.item?.map fun i => .sent i none)
    (taking : l.writer = .taking) (commands : l.commands = m :: k.commands)
    (writer : k.writer = m.stage) : Writing l k c none
  | flushes (c : Contact) (flush : c.isFlush) (flushing : l.writer = .flushing)
    (commands : k.commands = l.commands) (writer : k.writer = .taking) :
    Writing l k c (some (.setReady true))
  | closes (c : Contact) (flush : c.isFlush) (closing : l.writer = .closing)
    (commands : k.commands = l.commands) (writer : k.writer = .leaving) : Writing l k c none
  | ends (leaving : l.writer = .leaving) (commands : k.commands = []) (writer : k.writer = .ended) :
    Writing l k none none

@[simp] theorem commands_release (l : Link) : l.release.commands = l.commands := by
  unfold release
  split <;> rfl

@[simp] theorem writer_release (l : Link) : l.release.writer = l.writer := by
  unfold release
  split <;> rfl

theorem writing_command {l : Link} {m : Command} {rest : List Command} (taking : l.writer = .taking)
    (commands : l.commands = m :: rest)
    (succeeds : ∀ c ∈ l.stepWriter.contact, c.fails = false) :
    Writing l l.stepWriter.link l.stepWriter.contact l.stepWriter.op := by
  have after : l.stepWriter = { l with commands := rest }.onCommand m := by
    simp only [stepWriter, taking, commands]
  rw [after] at succeeds ⊢
  cases m with
  | stop => exact .takes .stop none rfl taking commands rfl
  | send i | close s =>
    simp only [onCommand, Link.send] at succeeds ⊢
    generalize (l.endpoint.send _ l.outbound).2.2 = fault at succeeds ⊢
    cases fault with
    | some e => simp [Contact.fails] at succeeds
    | none => exact .takes _ _ rfl taking commands rfl

theorem writing_of_succeeds {l : Link} (succeeds : ∀ c ∈ l.stepWriter.contact, c.fails = false) :
    Writing l l.stepWriter.link l.stepWriter.contact l.stepWriter.op := by
  cases stage : l.writer with
  | parked | ended => simpa [stepWriter, stage] using .idles none rfl rfl rfl (.inl rfl)
  | leaving => simpa [stepWriter, stage] using .ends stage (by simp) (by simp)
  | taking =>
    cases queue : l.commands with
    | nil =>
      simpa [stepWriter, stage, queue] using .idles none rfl rfl queue.symm (.inr ⟨stage, rfl⟩)
    | cons m rest => exact writing_command stage queue succeeds
  | flushing | closing =>
    simp only [stepWriter, stage, Link.flush] at succeeds ⊢
    generalize (l.endpoint.flush l.outbound).2.2 = result at succeeds ⊢
    cases result with
    | blocked => exact .idles _ rfl rfl rfl (.inl stage.symm)
    | failed e => simp [Contact.fails] at succeeds
    | done | finished => first
      | exact .flushes _ rfl stage rfl rfl
      | exact .closes _ rfl stage rfl rfl

theorem isSend_item? {c : Command} (here : c.isSend) : c.item? ≠ none := by
  cases c <;> simp_all [Command.isSend, Command.item?]

def ReaderStage.isLeaving : ReaderStage → Bool
  | .leaving | .ended => true
  | _ => false

structure IsOpen (l : Link) : Prop where
  reader : l.reader.isLeaving = false
  writer : l.writer.isThrough = false
  commands : ∀ c ∈ l.commands, c.isSend

structure IsOrderly (l : Link) : Prop where
  commands : l.commands.Pairwise fun c d => c.isSend = false → d.item? = none
  writer : l.writer.isThrough → ∀ c ∈ l.commands, c.item? = none

theorem IsOpen.waiting {l : Link} (ok : l.IsOpen) (nothing : l.inFlight = 0) : l.waiting = [] := by
  have unsent : l.commands.countP Command.isSend = 0 := by
    rw [inFlight] at nothing
    omega
  have empty : l.commands = [] := by
    refine List.eq_nil_iff_forall_not_mem.mpr fun c mem => ?_
    exact List.countP_eq_zero.mp unsent c mem (ok.commands c mem)
  simp [Link.waiting, empty]

theorem IsOpen.orderly {l : Link} (ok : l.IsOpen) : l.IsOrderly :=
  ⟨List.pairwise_of_forall_mem_list fun c mem _ _ other => by simp [ok.commands c mem] at other,
    fun through => by simp [ok.writer] at through⟩

section

open Contact

variable {l k : Link} {c : Option Contact} {op : Option Op}

theorem Writing.waiting (step : Writing l k c op) (ok : l.IsOrderly) :
    (c.bind Contact.item?).toList ++ k.waiting = l.waiting := by
  cases step with
  | idles c ungiven _ commands => simp [ungiven, Link.waiting, commands]
  | flushes c flush _ commands | closes c flush _ commands =>
    simp [Contact.item?_of_isFlush flush, Link.waiting, commands]
  | takes m c given _ commands =>
    subst given
    rw [Link.waiting, Link.waiting, commands, filterMap_cons_toList]
    cases m <;> rfl
  | ends leaving commands =>
    have nothing : l.waiting = [] :=
      List.filterMap_eq_nil_iff.mpr (ok.writer (by simp [leaving, WriterStage.isThrough]))
    simp [Link.waiting, commands, ← nothing]

theorem Writing.inFlight (step : Writing l k c op) (ok : l.IsOrderly) :
    k.inFlight + (decide (op = some (.setReady true))).toNat = l.inFlight := by
  cases step with
  | idles c _ _ commands writer =>
    rcases writer with same | ⟨before, after⟩
    · simp [Link.inFlight, commands, same]
    · simp [Link.inFlight, commands, before, after]
  | takes m c _ taking commands writer =>
    cases m <;>
      simp [Link.inFlight, taking, commands, writer, Command.stage, Command.isSend,
        List.countP_cons]
  | flushes c flush flushing commands writer | closes c flush closing commands writer =>
    simp [Link.inFlight, *]
  | ends leaving commands writer =>
    have none_sent : l.commands.countP Command.isSend = 0 := by
      rw [List.countP_eq_zero]
      intro m mem send
      exact isSend_item? send (ok.writer (by simp [leaving, WriterStage.isThrough]) m mem)
    simp [Link.inFlight, leaving, commands, writer, none_sent]

theorem Writing.settles (step : Writing l k c op) {cs : List Contact}
    (even : (settled cs).length + l.writer.isBusy.toNat = (given cs).length) :
    (settled (cs ++ c.toList)).length + k.writer.isBusy.toNat = (given (cs ++ c.toList)).length ∧
      (settled cs).length + (decide (op = some (.setReady true))).toNat ≤
        (settled (cs ++ c.toList)).length := by
  cases step with
  | idles c ungiven unflushed commands writer =>
    have busy : k.writer.isBusy = l.writer.isBusy := by
      rcases writer with same | ⟨before, after⟩
      · rw [same]
      · rw [before, after]
        rfl
    cases c with
    | none => simpa [busy] using even
    | some c =>
      obtain ⟨ungiven, unflushed⟩ : c.item? = none ∧ c.isFlush = false := by simp_all
      simpa [settled_snoc, given_snoc, ungiven, unflushed, busy] using even
  | takes m c given taking commands writer =>
    subst given
    cases m <;>
      simpa [settled_snoc, given_snoc, taking, writer, Command.item?, Command.stage, isFlush, item?,
        WriterStage.isBusy] using even
  | flushes c flush flushing _ writer | closes c flush closing _ writer =>
    have busy : (settled cs).length + 1 = (given cs).length := by
      simpa [WriterStage.isBusy, *] using even
    simp [settled_snoc, given_snoc, flush, item?_of_isFlush flush, writer, WriterStage.isBusy, ← busy]
  | ends leaving commands writer => simpa [leaving, writer, WriterStage.isBusy] using even

theorem Writing.orderly (step : Writing l k c op) (ok : l.IsOrderly) : k.IsOrderly := by
  obtain ⟨pairs, through⟩ := ok
  cases step with
  | idles c _ _ commands writer =>
    refine ⟨commands ▸ pairs, fun past => ?_⟩
    rw [commands]
    rcases writer with same | ⟨-, after⟩
    · exact through (same ▸ past)
    · simp [after, WriterStage.isThrough] at past
  | takes m _ _ taking commands writer =>
    rw [commands, List.pairwise_cons] at pairs
    refine ⟨pairs.2, fun past d mem => pairs.1 d mem ?_⟩
    rw [writer] at past
    cases m <;> simp_all [Command.stage, Command.isSend, WriterStage.isThrough]
  | flushes _ _ _ commands writer =>
    exact ⟨commands ▸ pairs, fun past => by simp [writer, WriterStage.isThrough] at past⟩
  | closes _ _ closing commands =>
    exact ⟨commands ▸ pairs, fun _ => commands ▸ through (by simp [closing, WriterStage.isThrough])⟩
  | ends leaving commands => exact ⟨by simp [commands], by simp [commands]⟩

theorem Writing.isOpen (step : Writing l k c op) (ok : l.IsOpen)
    (reader : k.reader = l.reader) : k.IsOpen := by
  obtain ⟨goes, through, sends⟩ := ok
  rw [← reader] at goes
  cases step with
  | idles c _ _ commands writer =>
    refine ⟨goes, ?_, commands ▸ sends⟩
    rcases writer with same | ⟨-, after⟩
    · rw [same, through]
    · rw [after]
      rfl
  | takes m _ _ taking commands writer =>
    rw [commands, List.forall_mem_cons] at sends
    refine ⟨goes, ?_, sends.2⟩
    rw [writer]
    cases m <;> simp_all [Command.stage, Command.isSend, WriterStage.isThrough]
  | flushes _ _ _ commands writer => exact ⟨goes, by rw [writer]; rfl, commands ▸ sends⟩
  | closes _ _ stage | ends stage => simp [stage, WriterStage.isThrough] at through

structure Queued (l k : Link) (c : Command) : Prop where
  commands : k.commands = l.commands ++ [c]
  reader : k.reader = l.reader
  writer : k.writer = l.writer ∨ l.writer = .parked ∧ k.writer = .taking

theorem queued_of_push {c : Command} (queued : l.push c = some k) : Queued l k c := by
  unfold push at queued
  split at queued
  · simp at queued
  · rename_i parked
    obtain rfl := Option.some.inj queued
    exact ⟨rfl, rfl, .inr ⟨parked, rfl⟩⟩
  · obtain rfl := Option.some.inj queued
    exact ⟨rfl, rfl, .inl rfl⟩

theorem IsOpen.pushed (ok : l.IsOpen) (c : Command) (a : Answer) :
    ∃ k, l.pushed c a = (k, a) ∧ Queued l k c := by
  cases queued : l.push c with
  | some k => exact ⟨k, by simp [Link.pushed, queued], queued_of_push queued⟩
  | none =>
    have through := ok.writer
    unfold push at queued
    split at queued
    · rename_i ended
      simp [ended, WriterStage.isThrough] at through
    · simp at queued
    · simp at queued

variable {c : Command}

theorem Queued.isThrough (queued : Queued l k c) : k.writer.isThrough = l.writer.isThrough := by
  rcases queued.writer with same | ⟨before, after⟩
  · rw [same]
  · rw [before, after]
    rfl

theorem Queued.isBusy (queued : Queued l k c) : k.writer.isBusy = l.writer.isBusy := by
  rcases queued.writer with same | ⟨before, after⟩
  · rw [same]
  · rw [before, after]
    rfl

theorem Queued.waiting (queued : Queued l k c) : k.waiting = l.waiting ++ c.item?.toList := by
  rw [Link.waiting, Link.waiting, queued.commands, List.filterMap_append, filterMap_cons_toList]
  simp

theorem Queued.inFlight (queued : Queued l k c) : k.inFlight = l.inFlight + c.isSend.toNat := by
  have flushing : (k.writer = .flushing) = (l.writer = .flushing) := by
    rcases queued.writer with same | ⟨before, after⟩
    · rw [same]
    · simp [before, after]
  simp only [Link.inFlight, queued.commands, List.countP_append, flushing]
  cases here : c.isSend <;> simp [here]
  omega

theorem Queued.orderly (queued : Queued l k c) (ok : l.IsOrderly)
    (last : l.IsOpen ∨ c.item? = none) : k.IsOrderly := by
  have behind : ∀ d ∈ l.commands, d.isSend = false → c.item? = none := by
    intro d mem other
    rcases last with opened | nothing
    · simp [opened.commands d mem] at other
    · exact nothing
  refine ⟨?_, fun through => ?_⟩ <;> rw [queued.commands]
  · exact List.pairwise_append.mpr ⟨ok.commands, List.pairwise_singleton _ c, by simpa using behind⟩
  · rw [queued.isThrough] at through
    refine List.forall_mem_append.mpr ⟨ok.writer through, List.forall_mem_singleton.mpr ?_⟩
    rcases last with opened | nothing
    · simp [opened.writer] at through
    · exact nothing

theorem Queued.isOpen (queued : Queued l k c) (ok : l.IsOpen) (send : c.isSend) : k.IsOpen :=
  ⟨queued.reader ▸ ok.reader, queued.isThrough.trans ok.writer,
    queued.commands ▸ List.forall_mem_append.mpr ⟨ok.commands, List.forall_mem_singleton.mpr send⟩⟩

end

structure Spares (l k : Link) : Prop where
  commands : k.commands = l.commands
  writer : k.writer = l.writer

section

variable {l k : Link}

theorem Spares.waiting (spares : Spares l k) : k.waiting = l.waiting := by
  rw [Link.waiting, spares.commands, ← Link.waiting]

theorem Spares.inFlight (spares : Spares l k) : k.inFlight = l.inFlight := by
  rw [Link.inFlight, spares.commands, spares.writer, ← Link.inFlight]

theorem Spares.orderly (spares : Spares l k) (ok : l.IsOrderly) : k.IsOrderly :=
  ⟨spares.commands ▸ ok.commands, spares.commands ▸ spares.writer ▸ ok.writer⟩

theorem Spares.isOpen (spares : Spares l k) (ok : l.IsOpen)
    (reader : l.reader.isLeaving = false → k.reader.isLeaving = false) : k.IsOpen :=
  ⟨reader ok.reader, spares.writer ▸ ok.writer, spares.commands ▸ ok.commands⟩

theorem stepReader_sink (stage : l.reader ≠ .reading) :
    (Spares l l.stepReader.link ∧
      (l.reader.isLeaving = false → l.stepReader.link.reader.isLeaving = false)) ∨
    l.reader = .leaving ∧ ∃ k, Queued l k .stop ∧ Spares k l.stepReader.link := by
  cases here : l.reader with
  | reading => exact absurd here stage
  | leaving =>
    simp only [stepReader, here]
    cases queued : l.push .stop with
    | none => exact .inl ⟨⟨by simp, by simp⟩, by simp [ReaderStage.isLeaving]⟩
    | some k => exact .inr ⟨trivial, k, queued_of_push queued, by simp, by simp⟩
  | _ =>
    left
    simp only [stepReader, here]
    repeat' split
    all_goals exact ⟨⟨by simp, by simp⟩, by simp [ReaderStage.isLeaving, here]⟩

theorem onRead_sink (l : Link) (r : Wire.Endpoint.Read) :
    Spares l (l.onRead r).link ∧
      (r.end? = none → l.reader.isLeaving = false → (l.onRead r).link.reader.isLeaving = false) := by
  have reading := Link.reading_onRead l r
  generalize l.onRead r = move at reading ⊢
  cases reading with
  | blocked => exact ⟨⟨rfl, rfl⟩, fun _ => id⟩
  | message => exact ⟨⟨rfl, rfl⟩, fun _ _ => rfl⟩
  | ended r o said => exact ⟨⟨rfl, rfl⟩, fun none => by simp [said] at none⟩

end

end Link

end Duplex

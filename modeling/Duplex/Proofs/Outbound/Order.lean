import Duplex.Proofs.Outbound.Attachment

/-!
What the source yields is written in the order in which it came, nothing twice and nothing left out.
At each stage of a poll it is known what was yielded and not written yet: nothing, or the one
message that is held.
-/

namespace Duplex

namespace Happening

/-- The message that the source yields. -/
def yielded? : Happening → Option Message
  | .answered (.pulling _) (.item m) => some m
  | _ => none

/-- The message that the transport is given to write. -/
def written? (h : Happening) : Option Message :=
  match h.call? with
  | some (.write m) => some m
  | _ => none

def pulls (h : Happening) : Bool :=
  match h.call? with
  | some (.pull _) => true
  | _ => false

def exhausts : Happening → Bool
  | .answered (.pulling _) .ended => true
  | _ => false

/-- What the attached send resolves with. -/
def resolution? : Happening → Option Outcome
  | .acted _ (.reply (.polled (some o))) => some o
  | _ => none

end Happening

namespace History

def yielded (hs : List Happening) : List Message := hs.filterMap Happening.yielded?

def written (hs : List Happening) : List Message := hs.filterMap Happening.written?

theorem yielded_snoc (hs : List Happening) (h : Happening) :
    yielded (hs ++ [h]) = yielded hs ++ h.yielded?.toList := filterMap_snoc _ hs h

theorem written_snoc (hs : List Happening) (h : Happening) :
    written (hs ++ [h]) = written hs ++ h.written?.toList := filterMap_snoc _ hs h

theorem yielded_append (hs gs : List Happening) : yielded (hs ++ gs) = yielded hs ++ yielded gs :=
  List.filterMap_append

theorem written_append (hs gs : List Happening) : written (hs ++ gs) = written hs ++ written gs :=
  List.filterMap_append

end History

open History

theorem written_cases {h : Happening} {x : Message} (written : h.written? = some x) :
    ∃ s writer, h = .acted s .emit ∧ s.writer = some writer ∧ writer.current = some x ∧
      writer.drained = false := by
  cases h with
  | began | intruded | answered => simp [Happening.written?, Happening.call?] at written
  | acted s a =>
    unfold Happening.written? at written
    split at written
    · rename_i m call
      obtain rfl : m = x := by simpa using written
      cases begins_of_call call with
      | write writer _ here held undrained => exact ⟨s, writer, rfl, here, held, undrained⟩
    · simp at written

def writing? : Agenda → Option Message
  | .wait (.writing m) :: _ => some m
  | _ => none

theorem written?_acted (s : Session) (a : Action) :
    (Happening.acted s a).written? = writing? (a.perform s).next := by
  simp only [Happening.written?, Happening.call?, Effect.call?]
  cases (a.perform s).next with
  | nil => rfl
  | cons f rest =>
    cases f with
    | act => rfl
    | wait w => cases w <;> rfl

theorem pulls_cases {h : Happening} (pulls : h.pulls) :
    ∃ s writer, h = .acted s .request ∧ s.writer = some writer ∧ writer.current = none ∧
      writer.drained = false ∧ writer.attached := by
  cases h with
  | began | intruded | answered => simp [Happening.pulls, Happening.call?] at pulls
  | acted s a =>
    unfold Happening.pulls at pulls
    split at pulls
    · rename_i w call
      cases begins_of_call call with
      | pull writer here empty undrained attached =>
        exact ⟨s, writer, rfl, here, empty, undrained, attached⟩
    · simp at pulls

structure Happening.IsSilent (h : Happening) : Prop where
  yielded : h.yielded? = none
  written : h.written? = none
  exhausts : h.exhausts = false
  resolution : h.resolution? = none

theorem Happening.written?_of_ne_emit {h : Happening} (other : ∀ s, h ≠ .acted s .emit) :
    h.written? = none := by
  cases written : h.written? with
  | none => rfl
  | some x =>
    obtain ⟨s, -, eq, -⟩ := written_cases written
    exact absurd eq (other s)

theorem Happening.resolution?_acted (s : Session) {a : Action}
    (unresolved : ∀ o, a ≠ .reply (.polled (some o))) :
    (Happening.acted s a).resolution? = none := by
  unfold resolution?
  split
  · rename_i same
    cases same
    exact absurd rfl (unresolved _)
  · rfl

theorem Happening.IsSilent.acted (s : Session) {a : Action} (other : a ≠ .emit)
    (unresolved : ∀ o, a ≠ .reply (.polled (some o))) : (Happening.acted s a).IsSilent := by
  refine ⟨rfl, written?_of_ne_emit ?_, rfl, resolution?_acted s unresolved⟩
  intro t same
  cases same
  exact other rfl

theorem Happening.IsSilent.of_other {h : Happening} (other : h.ofPoll = false) : h.IsSilent := by
  cases h with
  | began | intruded => exact ⟨rfl, rfl, rfl, rfl⟩
  | acted s a =>
    apply IsSilent.acted
    · intro emits
      simp [emits, ofPoll, Action.ofPoll] at other
    · intro o replies
      simp [replies, ofPoll, Action.ofPoll] at other
  | answered w a =>
    cases w with
    | pulling => simp [ofPoll, Wait.ofPoll] at other
    | _ => exact ⟨rfl, rfl, rfl, rfl⟩

structure Ledger where
  yielded : List Message
  written : List Message
  exhausted : Bool
  resolved : Bool

def History.ledger (hs : List Happening) : Ledger :=
  { yielded := yielded hs, written := written hs, exhausted := hs.any Happening.exhausts
    resolved := hs.any fun h => h.resolution?.isSome }

theorem ledger_snoc (hs : List Happening) (h : Happening) :
    ledger (hs ++ [h]) =
      { yielded := (ledger hs).yielded ++ h.yielded?.toList
        written := (ledger hs).written ++ h.written?.toList
        exhausted := (ledger hs).exhausted || h.exhausts
        resolved := (ledger hs).resolved || h.resolution?.isSome } := by
  simp [ledger, yielded_snoc, written_snoc]

theorem ledger_silent {hs : List Happening} {h : Happening} (silent : h.IsSilent) :
    ledger (hs ++ [h]) = ledger hs := by
  rw [ledger_snoc, silent.yielded, silent.written, silent.exhausts, silent.resolution]
  simp

theorem ledger_others {hs : List Happening} (others : ∀ h ∈ hs, h.ofPoll = false) :
    ledger hs = ⟨[], [], false, false⟩ := by
  induction hs using List.reverseRecOn with
  | nil => rfl
  | append_singleton hs h ih =>
    have last : h.ofPoll = false := others h (by simp)
    rw [ledger_silent (.of_other last)]
    exact ih fun g mem => others g (by simp [mem])

def Writer.surplus? (w : Writer) : Option (List Message) :=
  if w.attached || w.current.isSome then some w.current.toList else none

def surplus? (writer : Option Writer) : Agenda → Option (List Message)
  | .wait (.pulling _) :: _ | .wait (.writing _) :: _ | .act .release :: _ => some []
  | .act (.hold m) :: _ => some [m]
  | .act (.finish _) :: _ => none
  | _ => writer.bind Writer.surplus?

def isPlain : Agenda → Bool
  | .wait _ :: _ | .act .release :: _ | .act (.hold _) :: _ | .act (.finish _) :: _
  | .act .drain :: _ | .act (.reply (.polled (some _))) :: _ => false
  | _ => true

theorem surplus?_of_isPlain {stage : Agenda} (plain : isPlain stage) (writer : Option Writer) :
    surplus? writer stage = writer.bind Writer.surplus? := by
  unfold surplus?
  split <;> first | rfl | simp [isPlain] at plain

/-- What the ledger of a run says about the writer and the stage of the poll. -/
structure Ordered (l : Ledger) (writer : Option Writer) (stage : Agenda) : Prop where
  order : l.written <+: l.yielded
  ahead : l.yielded.length ≤ l.written.length + 1
  held : ∀ xs, surplus? writer stage = some xs → l.yielded = l.written ++ xs
  empty : ∀ v w, stage = [.wait (.pulling v)] → writer = some w → w.current = none
  ended : l.exhausted → ∀ w, writer = some w → stage = [.act .drain] ∨ w.attached = false
  closed : l.resolved → writer = none
  resolving : ∀ o, stage = [.act (.reply (.polled (some o)))] → writer = none

theorem Ordered.gone {l : Ledger} {writer : Option Writer} {stage next : Agenda}
    (ok : Ordered l writer stage)
    (known : ∀ xs, surplus? none next = some xs → surplus? writer stage = some xs) :
    Ordered l none next :=
  ⟨ok.order, ok.ahead, fun xs here => ok.held xs (known xs here), by simp, by simp,
    fun _ => rfl, fun _ _ => rfl⟩

theorem Ordered.goes_on {l : Ledger} {w w' : Writer} {stage next : Agenda}
    (ok : Ordered l (some w) stage)
    (known : ∀ xs, w'.surplus? = some xs → surplus? (some w) stage = some xs)
    (detached : w.attached = false → w'.attached = false) (undrained : stage ≠ [.act .drain])
    (plain : isPlain next) : Ordered l (some w') next := by
  have open_ : l.resolved = false := by
    by_contra resolved
    have gone := ok.closed (by simpa using resolved)
    simp at gone
  refine ⟨ok.order, ok.ahead, ?_, ?_, ?_, by simp [open_], ?_⟩
  · intro xs here
    rw [surplus?_of_isPlain plain] at here
    exact ok.held xs (known xs here)
  · intro v _ stage
    simp [stage, isPlain] at plain
  · intro exhausted _ same
    cases same
    rcases ok.ended exhausted w rfl with draining | here
    · exact absurd draining undrained
    · exact .inr (detached here)
  · intro o stage
    simp [stage, isPlain] at plain

theorem Ordered.moves {l : Ledger} {w w' : Writer} {stage next : Agenda}
    (ok : Ordered l (some w) stage) (known : ∀ xs, w'.surplus? = some xs → w.surplus? = some xs)
    (detached : w.attached = false → w'.attached = false) (before : isPlain stage)
    (after : isPlain next) : Ordered l (some w') next := by
  apply ok.goes_on _ detached _ after
  · intro xs here
    rw [surplus?_of_isPlain before]
    exact known xs here
  · intro stage
    simp [stage, isPlain] at before

theorem Ordered.finishing {l : Ledger} {writer : Option Writer} {stage : Agenda}
    (ok : Ordered l writer stage) (undrained : stage ≠ [.act .drain]) (o : Outcome) :
    Ordered l writer [.act (.finish o)] := by
  refine ⟨ok.order, ok.ahead, by simp [surplus?], by simp, ?_, ok.closed, by simp⟩
  intro exhausted w here
  rcases ok.ended exhausted w here with draining | detached
  · exact absurd draining undrained
  · exact .inr detached

theorem Ordered.pull {l : Ledger} {w : Writer} (ok : Ordered l (some w) [.act .request])
    (v : Waker) (empty : w.current = none) (attached : w.attached) :
    Ordered l (some w) [.wait (.pulling v)] := by
  have even : l.yielded = l.written := by
    simpa using ok.held [] (by simp [surplus?, Writer.surplus?, attached, empty])
  refine ⟨ok.order, ok.ahead, by simp [surplus?, even], ?_, ?_, ok.closed, by simp⟩
  · intro _ _ _ same
    cases same
    exact empty
  · intro exhausted w' here
    simpa using ok.ended exhausted w' here

theorem Ordered.hold {l : Ledger} {w : Writer} {m : Message}
    (ok : Ordered l (some w) [.act (.hold m)]) :
    Ordered l (some { w with current := some m }) [.act .gate] := by
  refine ok.goes_on ?_ id (by simp) rfl
  simp [surplus?, Writer.surplus?]

theorem Ordered.drain {l : Ledger} {w : Writer} (ok : Ordered l (some w) [.act .drain]) :
    Ordered l (some { w with drained := true, attached := false }) [.act .gate] := by
  refine ⟨ok.order, ok.ahead, ?_, by simp, ?_, ?_, by simp⟩
  · intro xs known
    apply ok.held xs
    cases held : w.current <;> simp_all [surplus?, Writer.surplus?]
  · intro _ _ same
    cases same
    exact .inr rfl
  · intro resolved
    simpa using ok.closed resolved

theorem Ordered.release {l : Ledger} {w : Writer} (ok : Ordered l (some w) [.act .release]) :
    Ordered l (some { w with current := none }) [.act .inspect] := by
  refine ok.goes_on ?_ id (by simp) rfl
  simp [surplus?, Writer.surplus?]

theorem Ordered.write {l : Ledger} {w : Writer} {x : Message}
    (ok : Ordered l (some w) [.act .emit]) (held : w.current = some x) :
    Ordered { l with written := l.written ++ [x] } (some w) [.wait (.writing x)] := by
  have before : l.yielded = l.written ++ [x] :=
    ok.held [x] (by simp [surplus?, Writer.surplus?, held])
  refine ⟨by simp [before], by simp [before], by simp [surplus?, before], by simp, ?_,
    ok.closed, by simp⟩
  intro exhausted w' here
  simpa using ok.ended exhausted w' here

theorem Ordered.item {l : Ledger} {writer : Option Writer} {v : Waker}
    (ok : Ordered l writer [.wait (.pulling v)]) (m : Message) :
    Ordered { l with yielded := l.yielded ++ [m] } writer [.act (.hold m)] := by
  have even : l.yielded = l.written := by simpa using ok.held [] rfl
  refine ⟨by simp [even], by simp [even], by simp [surplus?, even], by simp, ?_, ok.closed,
    by simp⟩
  intro exhausted w here
  simpa using ok.ended exhausted w here

theorem Ordered.unpulled {l : Ledger} {writer : Option Writer} {v : Waker}
    (ok : Ordered l writer [.wait (.pulling v)]) {xs : List Message}
    (known : writer.bind Writer.surplus? = some xs) : l.yielded = l.written ++ xs := by
  cases writer with
  | none => simp at known
  | some w =>
    have empty := ok.empty v w rfl rfl
    have nothing : w.attached ∧ xs = [] := by simpa [Writer.surplus?, empty] using known.symm
    rw [nothing.2]
    exact ok.held [] rfl

theorem Ordered.exhaust {l : Ledger} {writer : Option Writer} {v : Waker}
    (ok : Ordered l writer [.wait (.pulling v)]) :
    Ordered { l with exhausted := true } writer [.act .drain] :=
  ⟨ok.order, ok.ahead, fun _ known => ok.unpulled known, by simp, fun _ _ _ => .inl rfl,
    ok.closed, by simp⟩

theorem Ordered.nothing {l : Ledger} {writer : Option Writer} {v : Waker}
    (ok : Ordered l writer [.wait (.pulling v)]) :
    Ordered l writer [.act (.reply (.polled none))] := by
  refine ⟨ok.order, ok.ahead, fun _ known => ok.unpulled known, by simp, ?_, ok.closed, by simp⟩
  intro exhausted w here
  simpa using ok.ended exhausted w here

theorem Ordered.accepted {l : Ledger} {writer : Option Writer} {x : Message}
    (ok : Ordered l writer [.wait (.writing x)]) : Ordered l writer [.act .release] := by
  refine ⟨ok.order, ok.ahead, ok.held, by simp, ?_, ok.closed, by simp⟩
  intro exhausted w here
  simpa using ok.ended exhausted w here

theorem Ordered.reply {hs : List Happening} {s : Session} {o : Option Outcome}
    (ok : Ordered (ledger hs) s.writer [.act (.reply (.polled o))]) :
    Ordered (ledger (hs ++ [.acted s (.reply (.polled o))])) s.writer [] := by
  cases o with
  | some o =>
    have gone := ok.resolving o rfl
    have ledger_eq : ledger (hs ++ [.acted s (.reply (.polled (some o)))]) =
        { ledger hs with resolved := true } := by
      rw [ledger_snoc]
      simp [Happening.yielded?, Happening.written?, Happening.call?, Happening.exhausts,
        Happening.resolution?, Action.perform, Effect.call?]
    rw [gone, ledger_eq]
    exact ⟨ok.order, ok.ahead, by simp [surplus?], by simp, by simp, by simp, by simp⟩
  | none =>
    rw [ledger_silent (.acted s (by simp) (by simp))]
    cases here : s.writer with
    | none =>
      rw [here] at ok
      exact ok.gone (by simp [surplus?])
    | some w =>
      rw [here] at ok
      exact ok.moves (fun _ known => known) id rfl rfl

theorem Ordered.emit {hs : List Happening} {s : Session} {x : Message}
    (ok : Ordered (ledger hs) s.writer [.act .emit])
    (written : (Happening.acted s .emit).written? = some x) :
    Ordered (ledger (hs ++ [.acted s .emit])) (Action.emit.perform s).session.writer
      (polls (Action.emit.perform s).next) := by
  have ledger_eq : ledger (hs ++ [.acted s .emit]) =
      { ledger hs with written := (ledger hs).written ++ [x] } := by
    rw [ledger_snoc, written]
    simp [Happening.yielded?, Happening.exhausts, Happening.resolution?]
  rw [ledger_eq]
  rw [written?_acted] at written
  have step := pollStep_perform s (a := .emit) rfl
  generalize (Action.emit.perform s).session = t, (Action.emit.perform s).next = next
    at step written ⊢
  cases step with
  | writes here undrained held =>
    obtain rfl := Option.some.inj written
    rw [here] at ok ⊢
    exact ok.write held
  | _ => simp [writing?] at written

theorem Ordered.quiet {l : Ledger} {s t : Session} {a : Action} {next : Agenda}
    (ok : Ordered l s.writer [.act a]) (step : PollStep s a t next)
    (unwritten : writing? next = none) (unreplied : ∀ r, a ≠ .reply r) :
    Ordered l t.writer (polls next) := by
  cases step with
  | gone _ gone =>
    rw [gone] at ok ⊢
    exact ok.gone (by simp [surplus?, Action.ofPoll])
  | registers v here =>
    rw [here] at ok
    exact ok.moves (fun _ known => known) id rfl rfl
  | decided => exact ok.finishing (by simp) _
  | undecided | goesOn =>
    cases here : s.writer with
    | none =>
      rw [here] at ok
      exact ok.gone (by simp [surplus?, Action.ofPoll])
    | some w =>
      rw [here] at ok
      exact ok.moves (fun _ known => known) id rfl rfl
  | halts here =>
    rw [here] at ok
    exact ok.moves (by simp [Writer.surplus?, Writer.detach]) (fun _ => rfl) rfl rfl
  | loaded here | detached here | stops here | watches here | waits here | empty here =>
    rw [here] at ok ⊢
    exact ok.moves (fun _ known => known) id rfl rfl
  | pulls here empty undrained attached =>
    rw [here] at ok ⊢
    exact ok.pull _ empty attached
  | holds m here =>
    rw [here] at ok
    exact ok.hold
  | drains here =>
    rw [here] at ok
    exact ok.drain
  | passes looks here =>
    rw [here] at ok ⊢
    exact ok.moves (fun _ known => known) id (by rcases looks with rfl | rfl <;> rfl) rfl
  | ends here drained => exact ok.finishing (by simp) .success
  | writes => simp [writing?] at unwritten
  | releases here =>
    rw [here] at ok
    exact ok.release
  | finishes p => exact ok.gone (by simp [surplus?, Action.ofPoll])
  | replies o => exact absurd rfl (unreplied _)

theorem Ordered.perform {hs : List Happening} {s : Session} {a : Action} (own : a.ofPoll)
    (ok : Ordered (ledger hs) s.writer [.act a]) :
    Ordered (ledger (hs ++ [.acted s a])) (a.perform s).session.writer
      (polls (a.perform s).next) := by
  by_cases replies : ∃ r, a = .reply r
  · obtain ⟨r, rfl⟩ := replies
    cases r with
    | polled o => exact ok.reply
    | _ => simp [Action.ofPoll] at own
  have unreplied : ∀ r, a ≠ .reply r := fun r eq => replies ⟨r, eq⟩
  cases written : (Happening.acted s a).written? with
  | some x =>
    obtain ⟨t, -, same, -⟩ := written_cases written
    cases same
    exact ok.emit written
  | none =>
    rw [ledger_silent ⟨rfl, written, rfl, Happening.resolution?_acted s fun o => unreplied _⟩]
    exact ok.quiet (pollStep_perform s own) (written?_acted s a ▸ written) unreplied

theorem Ordered.hear {hs : List Happening} {writer : Option Writer} {w : Wait} (own : w.ofPoll)
    (ok : Ordered (ledger hs) writer [.wait w]) (a : Answer) :
    Ordered (ledger (hs ++ [.answered w a])) writer (polls ((w.resume a).map .act)) := by
  cases w with
  | pulling v =>
    cases a with
    | item m =>
      have ledger_eq : ledger (hs ++ [.answered (.pulling v) (.item m)]) =
          { ledger hs with yielded := (ledger hs).yielded ++ [m] } := by
        rw [ledger_snoc]
        simp [Happening.yielded?, Happening.written?, Happening.call?, Happening.exhausts,
          Happening.resolution?]
      rw [ledger_eq]
      exact ok.item m
    | ended =>
      have ledger_eq : ledger (hs ++ [.answered (.pulling v) .ended]) =
          { ledger hs with exhausted := true } := by
        rw [ledger_snoc]
        simp [Happening.yielded?, Happening.written?, Happening.call?, Happening.exhausts,
          Happening.resolution?]
      rw [ledger_eq]
      exact ok.exhaust
    | done | pending | written | failed =>
      rw [ledger_silent ⟨rfl, rfl, rfl, rfl⟩]
      exact ok.nothing
  | writing x =>
    rw [ledger_silent ⟨rfl, rfl, rfl, rfl⟩]
    cases a with
    | written accepted =>
      cases accepted with
      | true => exact ok.accepted
      | false => exact ok.finishing (by simp) _
    | failed e => exact ok.finishing (by simp) _
    | done | item | pending | ended => exact ok.accepted
  | _ => simp [Wait.ofPoll] at own

theorem surplus?_mono {stage : Agenda} {l : List Message} (writer : Option Writer)
    (known : surplus? none stage = some l) : surplus? writer stage = some l := by
  unfold surplus? at known ⊢
  split <;> simp_all

theorem Ordered.fresh {w : Writer} (empty : w.current = none) :
    Ordered ⟨[], [], false, false⟩ (some w) [] := by
  refine ⟨by simp, by simp, ?_, by simp, by simp, by simp, by simp⟩
  intro xs known
  have nothing : w.attached ∧ xs = [] := by
    simpa [surplus?, Writer.surplus?, empty] using known.symm
  simp [nothing.2]

theorem Ordered.aside {hs : List Happening} {m n : Machine} {h : Happening}
    (attachment : Attachment hs m) (step : Machine.Step m h n) (other : h.ofPoll = false)
    (ok : Ordered (ledger hs) m.session.writer (polls m.agenda)) :
    Ordered (ledger (hs ++ [h])) n.session.writer (polls m.agenda) := by
  rw [ledger_silent (.of_other other)]
  cases step using Machine.Step.kinds with
  | began | intruded | answered => exact ok
  | acted s a rest =>
    by_cases opens : a = .openWriter
    · subst opens
      obtain ⟨-, unpolled, others⟩ := attachment.untouched attachment.opens.1
      rw [unpolled, ledger_others others]
      exact .fresh rfl
    by_cases gives_up : a = .abandon
    · subst gives_up
      exact ok.gone fun xs known => surplus?_mono _ known
    · rw [(changes_perform s a).writer_eq other opens gives_up]
      exact ok

theorem Ordered.step {hs : List Happening} {m n : Machine} {h : Happening}
    (attachment : Attachment hs m) (single : (polls m.agenda).length ≤ 1)
    (ok : Ordered (ledger hs) m.session.writer (polls m.agenda)) (step : Machine.Step m h n) :
    Ordered (ledger (hs ++ [h])) n.session.writer (polls n.agenda) := by
  cases polled_of_step step single with
  | aside other same =>
    rw [same]
    exact ok.aside attachment step other
  | starts v op idle begun attached same =>
    have other : h.ofPoll = false := by
      rcases op with op | op <;> rw [op] <;> rfl
    rw [ledger_silent (.of_other other), same, begun]
    rw [idle] at ok
    obtain ⟨w, here⟩ := Option.isSome_iff_exists.mp attached
    rw [here] at ok ⊢
    exact ok.moves (fun _ known => known) id rfl rfl
  | acts s a eq own here stage after next =>
    rw [stage, here] at ok
    rw [eq, after, next]
    exact ok.perform own
  | hears w a eq own stage same next =>
    rw [stage] at ok
    rw [eq, same, next]
    exact ok.hear own a

theorem Ordered.woven {s : Session} {hs : List Happening} {m : Machine} (new : s.IsNew)
    (run : Machine.Woven ⟨s, []⟩ hs m) :
    Ordered (ledger hs) m.session.writer (polls m.agenda) := by
  induction run with
  | nil =>
    obtain ⟨g, c, rfl, -, -⟩ := new.cases
    exact ⟨by simp [ledger, yielded, written], by simp [ledger, yielded], by simp [surplus?],
      by simp, by simp, by simp, by simp⟩
  | snoc run mixed step ih =>
    have single := single_woven run
    have same := polls_perm mixed single
    exact Ordered.step ((Attachment.woven new run).perm mixed single) (same ▸ single) (same ▸ ih)
      step

theorem Ordered.run {s : Session} {hs : List Happening} {m : Machine} (new : s.IsNew)
    (run : Machine.Run ⟨s, []⟩ hs m) : Ordered (ledger hs) m.session.writer (polls m.agenda) :=
  .woven new run.woven

theorem Ordered.asks {l : Ledger} {m n : Machine} {h : Happening}
    (ok : Ordered l m.session.writer (polls m.agenda)) (single : (polls m.agenda).length ≤ 1)
    (step : Machine.Step m h n) (pulls : h.pulls) :
    l.yielded = l.written ∧ l.exhausted = false ∧ l.resolved = false := by
  obtain ⟨s, w, eq, here, empty, undrained, attached⟩ := pulls_cases pulls
  subst eq
  cases polled_of_step step single with
  | aside other same => simp [Happening.ofPoll, Action.ofPoll] at other
  | starts v op => simp at op
  | hears v a eq => simp at eq
  | acts t a eq own same stage =>
    cases eq
    rw [stage, same, here] at ok
    refine ⟨?_, ?_, ?_⟩
    · simpa using ok.held [] (by simp [surplus?, Writer.surplus?, attached, empty])
    · by_contra exhausted
      simpa [attached] using ok.ended (by simpa using exhausted) w rfl
    · by_contra resolved
      simpa using ok.closed (by simpa using resolved)

end Duplex

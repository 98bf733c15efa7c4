import Duplex.Proofs.Exchange.Conveyance
import Duplex.Proofs.Exchange.Outflow

/-!
What the sink of a connection is handed: what the source yields, in order and nothing else, and then
the close, however the polls, the wake-ups and the writer's steps fall.
-/

namespace Duplex

open History Exchange

variable {ι : Type} {items : List Message} {ds : List (Deed ι)} {x y : Exchange ι}

/-- The close frame that a send which succeeds leaves behind. -/
def Session.lastItem (s : Session) : List Wire.Item :=
  s.farewell.map fun c => .close (Wire.CloseBody.ofStatus c)

theorem lastItem_eq (s : Session) : s.lastItem =
    if s.setting.options.closeOnSendComplete then [.close (some ⟨1000, ""⟩)] else [] := by
  rw [Session.lastItem, Session.farewell]
  split <;> rfl

namespace Standing

theorem shut_cases (ok : Standing items ds x) : shut (work ds) = [] ∨
    shut (work ds) = x.session.farewell ∧ accepted (work ds) = items := by
  cases ok with
  | working _ _ _ unshut => exact .inl unshut
  | ending p front rest next chain unresolved told opened spent =>
    rw [told]
    split
    · exact .inr ⟨rfl, spent.accepted⟩
    · exact .inl rfl
  | past told spent => exact .inr ⟨told, spent.accepted⟩

theorem resolved (ok : Standing items ds x) (resolved : IsResolved (work ds)) :
    accepted (work ds) = items ∧ shut (work ds) = x.session.farewell := by
  cases ok with
  | working _ _ unresolved => exact absurd resolved unresolved
  | ending _ _ _ _ _ unresolved => exact absurd resolved unresolved
  | past told spent => exact ⟨spent.accepted, told⟩

theorem resolving (ok : Standing items ds x) {p : Party ι} {o : Outcome} {rest : Agenda}
    (next : (x.hands p).agenda = .act (.reply (.polled (some o))) :: rest) :
    o = .success ∧ x.IsSpent items ds := by
  have top : .act (.reply (.polled (some o))) ∈ (x.hands p).agenda := by simp [next]
  have late : (Frame.act (.reply (.polled (some o)))).isWindup := rfl
  cases ok with
  | working _ _ _ _ _ early => simp [(early p _ top).1] at late
  | past _ _ quiet => simp [(quiet p _ top).1] at late
  | ending q front below chained chain _ _ _ spent _ others =>
    have own : p = q := by
      by_contra other
      simp [(isStill_iff.mp (others p other _ top)).1] at late
    subst own
    refine ⟨?_, spent⟩
    rw [next] at chained
    rcases chain.cases with rfl | ⟨a, rfl, -⟩ | rfl
    · obtain ⟨success, -⟩ : o = .success ∧ rest = below := by simpa [Frame.resolves] using chained
      exact success
    · cases chain <;> simp at chained
    · simp at chained

end Standing

namespace Outflow

variable [Fintype ι] {s : Session}

theorem lastItem (ok : Outflow items s ds x) : x.session.lastItem = s.lastItem := by
  rw [Session.lastItem, ok.farewell, ← Session.lastItem]

theorem isPrefix_sent (ok : Outflow items s ds x) (new : s.IsNew)
    (supplies : Supplies items (work ds)) :
    sent ds <+: (accepted (work ds)).map .ofMessage ++ s.lastItem ∧
      sent ds <+: items.map .ofMessage ++ s.lastItem := by
  have known : sent ds <+: (accepted (work ds)).map .ofMessage ++
      (shut (work ds)).map (fun c => .close (Wire.CloseBody.ofStatus c)) :=
    ok.tally.handed ▸ List.prefix_append _ _
  rcases ok.standing.shut_cases with unshut | ⟨told, all⟩
  · rw [unshut, List.map_nil, List.append_nil] at known
    have order := ((ok.isPrefix_accepted new).trans supplies.order).map Wire.Item.ofMessage
    exact ⟨known.trans (List.prefix_append _ _), (known.trans order).trans (List.prefix_append _ _)⟩
  · rw [told, ← Session.lastItem, ok.lastItem] at known
    exact ⟨known, all ▸ known⟩

theorem sent_eq_of_resolved (ok : Outflow items s ds x) (resolved : IsResolved (work ds))
    (idle : x.link.commands = []) : sent ds = items.map .ofMessage ++ s.lastItem := by
  obtain ⟨all, told⟩ := ok.standing.resolved resolved
  have handed := ok.tally.handed
  rw [all, told, ← Session.lastItem, ok.lastItem] at handed
  simpa [Link.waiting, idle] using handed

theorem few_queued (ok : Outflow items s ds x) :
    x.link.commands.countP Link.Command.isSend ≤ 1 := by
  have few := ok.accepted_le_asked
  have inFlight := ok.tally.inFlight
  rw [Link.inFlight] at inFlight
  omega

theorem few_unflushed (ok : Outflow items s ds x) (new : s.IsNew)
    (supplies : Supplies items (work ds)) :
    ∃ late, (accepted (work ds)).map .ofMessage <+: flushed ds ++ late ∧ late.length ≤ 1 := by
  have whole : (accepted (work ds)).map .ofMessage <+: items.map .ofMessage ++ s.lastItem :=
    (((ok.isPrefix_accepted new).trans supplies.order).map _).trans (List.prefix_append _ _)
  have given := (isPrefix_flushed ds).trans (ok.isPrefix_sent new supplies).2
  have few := ok.accepted_le_asked.trans (Nat.add_le_add_right ok.tally.covered 1)
  rcases Nat.le_total (accepted (work ds)).length (flushed ds).length with less | more
  · refine ⟨[], ?_, Nat.zero_le 1⟩
    rw [List.append_nil]
    exact List.prefix_of_prefix_length_le whole given (by simpa using less)
  · obtain ⟨late, same⟩ := List.prefix_of_prefix_length_le given whole (by simpa using more)
    refine ⟨late, same ▸ List.prefix_rfl, ?_⟩
    have length := congrArg List.length same
    rw [List.length_append, List.length_map] at length
    omega

end Outflow

variable [DecidableEq ι] [Fintype ι]

/-- A finite source, whose send the application lets go its way, over a sink on which no write fails,
the end of the connection being reported only once the send has resolved: what the sink is handed is
what the source yields, one frame at a time, and then the close. Over a connection that is there,
this is also what is put on the wire. -/
theorem outbound_delivery (opened : x.IsOpened) (run : Run x ds y)
    (supplies : Supplies items (work ds)) (fair : ∀ d ∈ ds, d.isUnhindered)
    (timely : Outflow.Timely ds) :
    let messages := items.map Wire.Item.ofMessage
    let last : List Wire.Item :=
      if x.session.setting.options.closeOnSendComplete then [.close (some ⟨1000, ""⟩)] else []
    sent ds <+: messages ++ last ∧ sent ds <+: (accepted (work ds)).map .ofMessage ++ last ∧
    flushed ds <+: sent ds ∧
    (∃ late, (accepted (work ds)).map .ofMessage <+: flushed ds ++ late ∧ late.length ≤ 1) ∧
    y.link.commands.countP Link.Command.isSend ≤ 1 ∧
    (∀ pre p s o post, ds = pre ++ .did p (.acted s (.reply (.polled (some o)))) :: post →
      o = .success ∧ accepted (work pre) = items ∧ messages <+: flushed pre) ∧
    (IsResolved (work ds) → y.link.commands = [] → sent ds = messages ++ last) ∧
    (∀ ps, Passing x ps y → ps.map Passage.deed = ds →
      x.link.endpoint = { role := x.link.endpoint.role } →
      y.link.endpoint.Conveys (flushed ds) (sent ds) (onWire ps)) := by
  have ok := Outflow.run opened run supplies fair timely
  rw [← lastItem_eq]
  obtain ⟨whole, taken⟩ := ok.isPrefix_sent opened.session supplies
  refine ⟨taken, whole, isPrefix_flushed ds, ok.few_unflushed opened.session supplies, ok.few_queued,
    ?_, ok.sent_eq_of_resolved, ?_⟩
  · rintro pre p s o post rfl
    -- What counts is how things stood when the answer was given.
    obtain ⟨z, z', before, step⟩ := run.split
    have supplied : Supplies items (work pre) := by
      rw [work, List.filterMap_append] at supplies
      exact supplies.before
    have there := Outflow.run opened before supplied (fun d mem => fair d (by simp [mem]))
      fun a d b split => timely a d (b ++ _) (by rw [split, List.append_assoc]; rfl)
    cases step with
    | acts next =>
      obtain ⟨success, spent⟩ := there.standing.resolving next
      exact ⟨success, spent.accepted, spent.flushed⟩
  · rintro ps passing rfl fresh
    exact passing.conveys fresh (succeeds_of_fair fair)

/-- Two messages, each flushed before the next is taken over, and the close behind them. -/
theorem outbound_delivery_closed :
    let items := [Message.binary [1], Message.ping [2]]
    let c : Party Unit := .user ()
    let performs (p : Party Unit) (n : Nat) : List (Cue Unit) := List.replicate n (.perform p)
    let write := [.prepare c] ++ performs c 2 ++ [.serve c]
    let flush := [.write, .write] ++ performs .writer 2 ++ [.answer .writer .done, .perform .writer]
    let cues := [.start c .send] ++ performs c 3 ++
      [.start c (.poll 7)] ++ performs c 4 ++ [.answer c (.item (.binary [1]))] ++ performs c 3 ++
      write ++ performs c 4 ++ [.answer c (.item (.ping [2]))] ++ performs c 5 ++ flush ++
      [.start c (.poll 7)] ++ performs c 6 ++ write ++ performs c 4 ++ [.answer c .ended] ++
      performs c 5 ++ flush ++
      [.start c (.poll 7)] ++ performs c 12 ++ [.serve c, .perform c, .write, .write]
    let r := (Exchange.sample {}).pass (cues.map .turn)
    let ds := r.1.map Passage.deed
    (Exchange.sample {}).IsOpened ∧ Passing (Exchange.sample {}) r.1 r.2 ∧
      Supplies items (work ds) ∧ (∀ d ∈ ds, d.isUnhindered) ∧ Outflow.Timely ds ∧
      IsResolved (work ds) ∧
      sent ds = [.binary [1], .ping [2], .close (some ⟨1000, ""⟩)] ∧ flushed ds = sent ds ∧
      r.2.link.endpoint.Conveys (sent ds) (sent ds) [130, 1, 1, 137, 1, 2, 136, 2, 3, 232] := by
  intro items c performs write flush cues r ds
  have opened : (Exchange.sample {}).IsOpened := isOpened_sample rfl
  have passing : Passing (Exchange.sample {}) r.1 r.2 := passing_pass _ _
  have supplies : Supplies items (work ds) := .of_take (by decide +kernel) (by decide +kernel)
  have fair : ∀ d ∈ ds, d.isUnhindered := by decide +kernel
  have unreported : ∀ d ∈ ds, d.reports = false := by decide +kernel
  have timely : Outflow.Timely ds := by
    intro pre d post split reports
    simp [unreported d (by simp [split])] at reports
  have resolved : ∃ h ∈ work ds, h.resolution?.isSome := by decide +kernel
  obtain ⟨-, -, -, -, -, -, whole, conveys⟩ :=
    outbound_delivery opened passing.run supplies fair timely
  have even : flushed ds = sent ds := by decide +kernel
  have wire : onWire r.1 = [130, 1, 1, 137, 1, 2, 136, 2, 3, 232] := by decide +kernel
  have conveyed := conveys r.1 passing rfl rfl
  rw [even, wire] at conveyed
  exact ⟨opened, passing, supplies, fair, timely, resolved, whole resolved (by decide +kernel), even,
    conveyed⟩

end Duplex

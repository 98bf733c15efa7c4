import Duplex.Proofs.Exchange.Inflow

/-!
What the consumer of a connection is handed: what has been read, in order and nothing else, and then
the end, however the reader's steps and the pulls fall.
-/

namespace Duplex

open History Exchange

variable {ι : Type} {ds : List (Deed ι)}

theorem EndsWith.unique {rs : List Wire.Endpoint.Read} {o p : Outcome} (first : EndsWith rs o)
    (second : EndsWith rs p) : o = p := by
  obtain ⟨before, r, split, said, -⟩ := first
  obtain ⟨before', r', rfl, said', -⟩ := second
  obtain ⟨-, same⟩ := List.append_inj' split rfl
  obtain rfl : r' = r := by simpa using same
  exact Option.some.inj (said.symm.trans said')

theorem EndsWith.ended {rs : List Wire.Endpoint.Read} {o : Outcome} (read : EndsWith rs o) :
    ¬ ∀ r ∈ rs, r.end? = none := by
  obtain ⟨before, r, rfl, said, -⟩ := read
  intro going
  simp [going r (by simp)] at said

theorem Slot.ahead {taken got : List Message} {v : View} (ok : Slot taken got v) :
    ∃ ahead, taken ++ ahead = got ∧ ahead.length ≤ 1 ∧ (v.carried = [] → ahead = v.pending) := by
  cases ok with
  | clear even | leaving even => exact ⟨[], by simp [even], by simp, fun _ => rfl⟩
  | arriving m ahead | storing m ahead => exact ⟨[m], ahead.symm, by simp, by simp⟩
  | resident m ahead => exact ⟨[m], ahead.symm, by simp, fun _ => rfl⟩

theorem Slot.even {taken got : List Message} (ok : Slot taken got ⟨[], [], 0, false⟩) :
    taken = got := by
  cases ok with
  | clear even => exact even

variable [Fintype ι] {x y : Exchange ι}

namespace Inflow

theorem taken_eq_surfaced (ok : Inflow ds x) (through : x.link.reader.isThrough) :
    taken (work ds) = surfaced ds := by
  have slot := ok.slot
  rw [ok.clear through] at slot
  exact slot.even

theorem through_of_read (ok : Inflow ds x) {o : Outcome} (read : EndsWith (reads ds) o) :
    x.link.reader.isThrough := by
  cases ok.tide with
  | flowing _ _ _ going => exact absurd going read.ended
  | turning stage => simp [stage, Link.ReaderStage.isThrough]
  | ebbed stage => rcases stage with here | here <;> simp [here, Link.ReaderStage.isThrough]

theorem read_of_decided (ok : Inflow ds x) {o : Outcome}
    (decided : (ends (work ds)).head? = some o) : EndsWith (reads ds) o := by
  cases ok.tide with
  | flowing _ _ _ _ unended => simp [unended] at decided
  | turning _ _ _ _ _ _ _ _ unended => simp [unended] at decided
  | ebbed _ p read same =>
    obtain rfl : p = o := by simpa [same] using decided
    exact read

theorem decided_of_idle (ok : Inflow ds x) {o : Outcome} (read : EndsWith (reads ds) o)
    (idle : (x.hands .reader).agenda = []) : (ends (work ds)).head? = some o := by
  cases ok.tide with
  | flowing _ _ _ going => exact absurd going read.ended
  | turning _ _ p pre _ agenda => simp [idle] at agenda
  | ebbed _ p same decided => rw [decided, same.unique read]

theorem read_of_failed (ok : Inflow ds x) {e : Fault} (failed : e ∈ failures (work ds)) :
    EndsWith (reads ds) (.failure e) := by
  rw [ok.failed] at failed
  obtain ⟨o, decided, fault⟩ := Option.bind_eq_some_iff.mp (Option.mem_toList.mp failed)
  have same : o = .failure e := by
    cases o with
    | success => simp [Outcome.fault?] at fault
    | failure e' => rw [show e' = e from Option.some.inj fault]
  exact ok.read_of_decided (same ▸ decided)

theorem exists_pull {n : Hand → Nat} (counts : ∀ h : Hand, n h ≤ h.agenda.countP Frame.resumes)
    (positive : 0 < x.total n) : ∃ p, ∃ f ∈ (x.hands p).agenda, f.ofPull := by
  obtain ⟨p, here⟩ := exists_of_total_pos positive
  have some_resume : 0 < (x.hands p).agenda.countP Frame.resumes :=
    Nat.lt_of_lt_of_le here (counts _)
  obtain ⟨f, mem, resumes⟩ := List.countP_pos_iff.mp some_resume
  refine ⟨p, f, mem, ?_⟩
  unfold Frame.resumes at resumes
  split at resumes
  · rfl
  · simp at resumes

theorem called_of_parked (ok : Inflow ds x) (parked : x.link.reader = .parked)
    (empty : x.session.inbound.pending = [])
    (resting : ∀ p, ∀ f ∈ (x.hands p).agenda, f.ofPull = false) :
    x.link.flow.waiter = .called := by
  have none_pulling {n : Hand → Nat} (counts : ∀ h : Hand, n h ≤ h.agenda.countP Frame.resumes) :
      x.total n = 0 := by
    by_contra positive
    obtain ⟨p, f, mem, pulls⟩ := exists_pull counts (Nat.pos_of_ne_zero positive)
    simp [resting p f mem] at pulls
  have idle : (x.hands .reader).agenda = [] := by
    by_contra busy
    rcases ok.busy busy with here | here <;> simp [parked] at here
  have opened : x.link.flow.suspended = false := by
    have uncarried : x.view.carried = [] := by simp [view, carried, idle]
    have unreleased : x.view.unreleased = 0 := none_pulling fun h => by
      unfold Hand.unreleased
      split <;> omega
    have unstored : x.view.pending = [] := empty
    have slot := ok.slot
    change x.view.suspended = false
    generalize x.view = v at slot uncarried unreleased unstored
    cases slot with
    | clear | arriving => rfl
    | storing => simp at uncarried
    | resident => simp at unstored
    | leaving => simp at unreleased
  have roused := ok.roused
  rw [parked] at roused
  cases roused with
  | called called => exact called
  | waiting enlisted sure =>
    rcases sure with shut | due
    · simp [opened] at shut
    · have none_due := none_pulling (n := Hand.loosening) fun h => by
        unfold Hand.loosening
        split <;> omega
      omega
  | elsewhere _ other => simp at other

end Inflow

variable [DecidableEq ι]

/-- Whoever pulls is handed what has been read, in order, at most one message behind, and then hears
how it ended. No message finds the store full, and the reader never waits at the switch for a call
that does not come. -/
theorem inbound_delivery (opened : x.IsOpened) (run : Run x ds y)
    (orderly : ∀ d ∈ ds, d.isOrderly) :
    let pulls := pulled (work ds)
    let handed := pulls.filterMap (·.2.item?)
    let surfaced := (reads ds).filterMap Wire.Endpoint.Read.message?
    ((∀ r ∈ reads ds, r.end? = none) ∨ ∃ o, EndsWith (reads ds) o) ∧
    (∃ ahead, handed ++ ahead = surfaced ∧ ahead.length ≤ 1 ∧
      ((y.hands .reader).agenda = [] → ahead = y.session.inbound.pending)) ∧
    (∀ o, EndsWith (reads ds) o → handed = surfaced) ∧
    (∃ going told later, pulls = going ++ told.toList ++ later ∧
      (∀ z ∈ going, z.2.goesOn) ∧
      (∀ z, told = some z → ∃ o, EndsWith (reads ds) o ∧ z.2 = o.report) ∧
      (∀ z ∈ later, z.2 = z.1.afterwards) ∧
      (told = none → later = [] ∧
        ∀ o, EndsWith (reads ds) o → (y.hands .reader).agenda = [] →
          ∀ p, (Happening.acted y.session (.take p)).pulled? = some (p, o.report))) ∧
    (∀ p, replies (workOf p ds) ++ (y.hands p).agenda.filterMap Frame.reply? =
      (pulled (workOf p ds)).map Prod.snd) ∧
    (∀ e ∈ failures (work ds), EndsWith (reads ds) (.failure e)) ∧
    .deliveredWhileSuspended ∉ failures (work ds) ∧
    (y.link.reader = .parked → y.session.inbound.pending = [] →
      (∀ p, ∀ f ∈ (y.hands p).agenda, f.ofPull = false) → y.link.flow.waiter = .called) := by
  have ok := Inflow.run opened run orderly
  have same : (pulled (work ds)).filterMap (·.2.item?) = taken (work ds) := items_eq _
  intro pulls handed surfaced
  have handed_eq : handed = taken (work ds) := items_eq _
  have surfaced_eq : surfaced = History.surfaced ds := (History.surfaced_eq ds).symm
  rw [handed_eq, surfaced_eq]
  refine ⟨?_, ?_, fun o read => ok.taken_eq_surfaced (ok.through_of_read read), ?_,
    fun p => replies_run run (fun q => ?_) p (by rw [opened.hands p]), ?_, ?_, ok.called_of_parked⟩
  · cases ok.tide with
    | flowing _ _ _ going => exact .inl going
    | turning _ _ o _ _ _ _ read => exact .inr ⟨o, read⟩
    | ebbed _ o read => exact .inr ⟨o, read⟩
  · obtain ⟨ahead, split, few, here⟩ := ok.slot.ahead
    exact ⟨ahead, split, few, fun idle => here (by simp [view, carried, idle])⟩
  · cases ok.telling with
    | live unended live going =>
      refine ⟨pulls, none, [], by simp, going, by simp, by simp, fun _ => ⟨rfl, ?_⟩⟩
      intro o read idle
      have decided := ok.decided_of_idle read idle
      simp [unended] at decided
    | due o decided ended lost going =>
      refine ⟨pulls, none, [], by simp, going, by simp, by simp, fun _ => ⟨rfl, ?_⟩⟩
      intro p read idle q
      obtain rfl : o = p := by simpa [decided] using ok.decided_of_idle read idle
      have empty : y.session.inbound.pending = [] :=
        congrArg View.pending (ok.clear (ok.through_of_read read))
      simp only [Happening.pulled?, empty, report_of_phase ended]
    | told o going p later decided split ended empty before afterwards =>
      refine ⟨going, some (p, o.report), later, by simp [pulls, split], before, ?_, afterwards,
        by simp⟩
      rintro z ⟨⟩
      exact ⟨o, ok.read_of_decided decided, rfl⟩
  · rw [opened.hands q]
    exact ⟨by simp, by simp⟩
  · exact fun e failed => ok.read_of_failed failed
  · intro failed
    obtain ⟨before, r, -, said, -⟩ := ok.read_of_failed failed
    cases r with
    | item i => cases i <;> simp [Wire.Endpoint.Read.end?] at said
    | _ => simp [Wire.Endpoint.Read.end?, Fault.deliveredWhileSuspended] at said

/-- The second message is read once the first has been taken, and the end once both have. -/
theorem inbound_delivery_closed :
    let a := Message.text "a"
    let b := Message.ping [1]
    let c : Party Unit := .user ()
    let pull : List (Cue Unit) :=
      [.start c (.pull .once), .perform c, .prepare c, .serve c, .perform c]
    let read (i : Wire.Item) : List (Cue Unit) :=
      [.tend, .read (.item i), .perform .reader, .serve .reader, .perform .reader, .perform .reader]
    let r := (Exchange.sample {}).play (read (.text "a") ++ [.tend, .tend] ++ pull ++ [.tend] ++
      read (.ping [1]) ++ pull ++ [.tend, .read .ended] ++ List.replicate 4 (.perform .reader) ++
      [.start c (.pull .once), .perform c, .perform c])
    (Exchange.sample {}).IsOpened ∧ Run (Exchange.sample {}) r.1 r.2 ∧
      (∀ d ∈ r.1, d.isOrderly) ∧
      reads r.1 = [.item (.text "a"), .item (.ping [1]), .ended] ∧
      pulled (work r.1) = [(.once, .item a), (.once, .item b), (.once, .ended)] ∧
      (pulled (work r.1)).filterMap (·.2.item?) =
        (reads r.1).filterMap Wire.Endpoint.Read.message? := by
  intro a b c pull read r
  have opened : (Exchange.sample {}).IsOpened := isOpened_sample rfl
  have run : Run (Exchange.sample {}) r.1 r.2 := run_play _ _
  have orderly : ∀ d ∈ r.1, d.isOrderly := by decide +kernel
  have known : reads r.1 = [.item (.text "a"), .item (.ping [1]), .ended] := by decide +kernel
  obtain ⟨-, -, whole, -⟩ := inbound_delivery opened run orderly
  refine ⟨opened, run, orderly, known, by decide +kernel, whole .success ?_⟩
  exact ⟨[.item (.text "a"), .item (.ping [1])], .ended, known, rfl, by decide⟩

end Duplex

import Duplex.Proofs.Exchange.Inward

/-!
No call to the reader is lost. A reader that has found the switch shut and goes to wait there finds
a permit, or whoever opens the switch calls it: until then the switch is shut, or a hand that has
opened it is about to call.
-/

namespace Duplex

open Exchange

variable {ι : Type} [DecidableEq ι] {x y : Exchange ι} {d : Deed ι}

inductive Roused (f : Link.Flow) (n : Nat) : Link.ReaderStage → Prop
  | enlisting (absent : f.waiter = .absent) (sure : f.suspended ∨ f.permit ∨ 0 < n) :
    Roused f n .enlisting
  | waiting (enlisted : f.waiter = .enlisted) (sure : f.suspended ∨ 0 < n) : Roused f n .parked
  | called (called : f.waiter = .called) : Roused f n .parked
  | elsewhere (stage : Link.ReaderStage) (other : stage ≠ .enlisting ∧ stage ≠ .parked)
    (absent : f.waiter = .absent) : Roused f n stage

section

variable {f : Link.Flow} {n : Nat} {stage : Link.ReaderStage}

theorem Roused.suspend (ok : Roused f n stage) : Roused f.suspend n stage := by
  cases ok with
  | enlisting absent => exact .enlisting absent (.inl rfl)
  | waiting enlisted => exact .waiting enlisted (.inl rfl)
  | called called => exact .called called
  | elsewhere stage other absent => exact .elsewhere stage other absent

theorem Roused.release (ok : Roused f n stage) : Roused f.release (n + 1) stage := by
  cases ok with
  | enlisting absent => exact .enlisting absent (.inr (.inr (Nat.succ_pos n)))
  | waiting enlisted => exact .waiting enlisted (.inr (Nat.succ_pos n))
  | called called => exact .called called
  | elsewhere stage other absent => exact .elsewhere stage other absent

theorem Roused.signal (ok : Roused f (n + 1) stage) : Roused f.signal n stage := by
  have permitted (absent : f.waiter = .absent) : f.signal = { f with permit := true } := by
    simp only [Link.Flow.signal, absent]
  cases ok with
  | enlisting absent =>
    rw [permitted absent]
    exact .enlisting absent (.inr (.inl rfl))
  | waiting enlisted =>
    apply Roused.called
    simp only [Link.Flow.signal, enlisted]
  | called called =>
    apply Roused.called
    simp only [Link.Flow.signal, called]
  | elsewhere stage other absent =>
    rw [permitted absent]
    exact .elsewhere stage other absent

theorem Roused.tend {l : Link} (ok : Roused l.flow n l.reader) (other : l.reader ≠ .reading) :
    Roused l.stepReader.link.flow n l.stepReader.link.reader := by
  cases here : l.reader with
  | reading => exact absurd here other
  | checking =>
    rw [here] at ok
    cases ok with
    | elsewhere _ _ absent =>
      simp only [Link.stepReader, here]
      split
      · next shut => exact .enlisting absent (.inl shut)
      · exact .elsewhere _ (by simp) absent
  | enlisting =>
    rw [here] at ok
    cases ok with
    | elsewhere _ elsewhere => simp at elsewhere
    | enlisting absent sure =>
      by_cases permit : l.flow.permit
      · simp only [Link.stepReader, here, Link.Flow.enlist, permit, if_true]
        exact .elsewhere _ (by simp) absent
      · simp only [Link.stepReader, here, Link.Flow.enlist, permit, Bool.false_eq_true, if_false]
        exact .waiting rfl (by simpa [permit] using sure)
  | parked =>
    simp only [Link.stepReader, here]
    split
    · exact .elsewhere _ (by simp) rfl
    · rwa [here] at ok ⊢
  | leaving =>
    rw [here] at ok
    cases ok with
    | elsewhere _ _ absent =>
      simp only [Link.stepReader, here, Link.flow_release, Link.reader_release, Link.flow_push]
      exact .elsewhere _ (by simp) absent
  | ended =>
    simp only [Link.stepReader, here]
    rwa [here] at ok

end

variable [Fintype ι]

theorem Roused.step (ok : Roused x.link.flow (x.total Hand.loosening) x.link.reader)
    (sound : ∀ p, (x.hands p).IsSound) (step : Inward x d y) :
    Roused y.link.flow (y.total Hand.loosening) y.link.reader := by
  cases step with
  | aside p aside =>
    have same : y.total Hand.loosening = x.total Hand.loosening := by
      refine total_congr fun q => ?_
      by_cases own : q = p
      · rw [own, aside.loosening]
      · rw [aside.others q own]
    rwa [aside.flow, aside.reader, same]
  | @acts p a rest next =>
    have same : (x.put p { x.hands p with agenda := (a.perform x.session).next ++ rest }).total
        Hand.loosening = x.total Hand.loosening := by
      apply total_put_same
      rw [Hand.loosening_act (sound p) next,
        Hand.loosening_of_none (Hand.resuming_of_other (sound p) next rfl)]
    change Roused x.link.flow ((x.put p _).total Hand.loosening) x.link.reader
    rwa [same]
  | @suspends p m rest next =>
    have same : (x.put p { agenda := .act (.store m) :: rest }).total Hand.loosening =
        x.total Hand.loosening := by
      apply total_put_same
      rw [Hand.loosening_of_none (Hand.resuming_of_other (sound p) next rfl)]
      rfl
    have shut := ok.suspend
    rw [← same] at shut
    exact shut
  | @releases p m rest next first =>
    have count := Hand.resuming_of_resuming (sound p) next
    have before : (x.hands p).loosening = 0 := by simp [Hand.loosening, first]
    have after : Hand.loosening { x.hands p with midway := true } = 1 := count
    have moved := total_put x p { x.hands p with midway := true } Hand.loosening
    rw [before, after, Nat.add_zero] at moved
    have opened := ok.release
    rw [← moved] at opened
    exact opened
  | @signals p m rest next second =>
    have count := Hand.resuming_of_resuming (sound p) next
    have before : (x.hands p).loosening = 1 := by simpa [Hand.loosening, second] using count
    have after : Hand.loosening { agenda := .act (.reply (.pulled (.item m))) :: rest } = 0 := rfl
    have moved := total_put x p { agenda := .act (.reply (.pulled (.item m))) :: rest } Hand.loosening
    rw [before, after] at moved
    rw [← Nat.add_zero (x.total _), ← moved] at ok
    exact ok.signal
  | reads l flow r move reading same idle stage =>
    have total : (x.moved .reader move).total Hand.loosening = x.total Hand.loosening :=
      total_moved idle move Hand.loosening_of_none
    rw [total]
    rw [stage] at ok
    cases ok with
    | elsewhere _ _ absent =>
      cases reading with
      | blocked => exact .elsewhere _ (by simp [moved, same, stage]) (flow ▸ absent)
      | message => exact .elsewhere _ (by simp [moved]) (flow ▸ absent)
      | ended => exact .elsewhere _ (by simp [moved]) (flow ▸ absent)
  | tends idle stage =>
    have total : (x.moved .reader x.link.stepReader).total Hand.loosening =
        x.total Hand.loosening := total_moved idle _ Hand.loosening_of_none
    rw [total]
    exact ok.tend stage

end Duplex

import Duplex.Fault
import Duplex.Message

/-!
The inbound sequence: messages stored and not yet taken, and how far its life has gone. Messages are
stored only while the sequence is live and only up to its capacity. A normal end lets what is stored
be taken; a failure discards it. The end or the failure is handed out once, and nothing after it.
-/

namespace Duplex

abbrev Waker := Nat

inductive Phase
  | live
  | completed
  | failed (e : Fault)
  | terminated
  deriving Repr, DecidableEq

inductive Pull
  | item (m : Message)
  | nothing
  | ended
  | failed (e : Fault)
  deriving Repr, DecidableEq

inductive Puller
  | once
  | waiting (w : Waker)
  deriving Repr, DecidableEq

structure Inbound where
  pending : List Message := []
  phase : Phase := .live
  waker : Option Waker := none
  deriving Repr, DecidableEq

namespace Inbound

def isLive (i : Inbound) : Bool := i.phase = .live

def isTerminated (i : Inbound) : Bool := i.phase = .terminated

def isAvailable (i : Inbound) : Bool := !i.pending.isEmpty

/-- The failure that has not been handed out yet. -/
def failure? (i : Inbound) : Option Fault :=
  match i.phase with
  | .failed e => some e
  | _ => none

def fail (i : Inbound) (e : Fault) : Inbound :=
  { i with pending := [], phase := .failed e, waker := none }

def complete (i : Inbound) : Inbound := { i with phase := .completed, waker := none }

def store (i : Inbound) (m : Message) : Inbound :=
  { i with pending := i.pending ++ [m], waker := none }

/-- Hands out what a sequence without messages has to say. -/
def report (i : Inbound) (p : Puller) : Inbound × Pull :=
  match i.phase, p with
  | .live, .once => (i, .nothing)
  | .live, .waiting w => ({ i with waker := some w }, .nothing)
  | .completed, _ => ({ i with phase := .terminated }, .ended)
  | .failed e, _ => ({ i with phase := .terminated }, .failed e)
  | .terminated, .once => (i, .failed .streamTerminated)
  | .terminated, .waiting _ => (i, .ended)

theorem isLive_iff (i : Inbound) : i.isLive = true ↔ i.phase = .live := by simp [isLive]

theorem failure?_of_isLive {i : Inbound} (live : i.isLive) : i.failure? = none := by
  simp [failure?, (isLive_iff i).mp live]

@[simp] theorem pending_fail (i : Inbound) (e : Fault) : (i.fail e).pending = [] := rfl
@[simp] theorem phase_fail (i : Inbound) (e : Fault) : (i.fail e).phase = .failed e := rfl
@[simp] theorem failure?_fail (i : Inbound) (e : Fault) : (i.fail e).failure? = some e := rfl

@[simp] theorem pending_store (i : Inbound) (m : Message) :
    (i.store m).pending = i.pending ++ [m] := rfl
@[simp] theorem isLive_store (i : Inbound) (m : Message) : (i.store m).isLive = i.isLive := rfl

@[simp] theorem pending_complete (i : Inbound) : i.complete.pending = i.pending := rfl
@[simp] theorem isLive_complete (i : Inbound) : i.complete.isLive = false := rfl
@[simp] theorem failure?_complete (i : Inbound) : i.complete.failure? = none := rfl

@[simp] theorem pending_report (i : Inbound) (p : Puller) :
    (i.report p).1.pending = i.pending := by
  unfold report
  split <;> rfl

@[simp] theorem isLive_report (i : Inbound) (p : Puller) :
    (i.report p).1.isLive = i.isLive := by
  unfold report
  split <;> simp_all [isLive]

end Inbound
end Duplex

import Duplex.Proofs.Exchange.Run

/-!
A session at work over a connection that is there: the reader reads what has come, what the two
tasks put on the wire goes into the pipe, and the peer puts bytes into its own, takes ours, or goes.
-/

namespace Duplex

variable {ι : Type}

inductive Passage (ι : Type)
  | ours (d : Deed ι) (b : Octets)
  | said (b : Octets)
  | took (n : Nat)
  | left

def Passage.deed : Passage ι → Deed ι
  | .ours d _ => d
  | .said _ | .took _ | .left => .shifted

def Deed.isInner : Deed ι → Bool
  | .read _ | .shifted => false
  | _ => true

namespace Link

def added (l k : Link) : Octets := k.outbound.content.drop l.outbound.content.length

def hear (l : Link) (b : Octets) : Link :=
  { l with inbound := { l.inbound with content := l.inbound.content ++ b } }

def lose (l : Link) (n : Nat) : Link := { l with outbound := (l.outbound.read (some n)).2 }

/-- The peer has gone: nothing can be written to it any more, and nothing more comes. -/
def part (l : Link) : Link := { l with inbound := l.inbound.close, outbound := l.outbound.close }

theorem stepReader_reading (l : Link) (stage : l.reader = .reading) :
    ∃ endpoint inbound outbound, l.stepReader =
      { l with endpoint, inbound, outbound }.onRead
        (l.endpoint.read l.inbound l.outbound).2.2.2 := by
  refine ⟨(l.endpoint.read l.inbound l.outbound).1, (l.endpoint.read l.inbound l.outbound).2.1,
    (l.endpoint.read l.inbound l.outbound).2.2.1, ?_⟩
  simp only [stepReader, stage]

end Link

namespace Exchange

variable [DecidableEq ι]

inductive Passes : Exchange ι → Passage ι → Exchange ι → Prop
  | works {x y : Exchange ι} {d : Deed ι} (step : Step x d y) (inner : d.isInner) :
    Passes x (.ours d (x.link.added y.link)) y
  | reads {x : Exchange ι} (idle : (x.hands .reader).agenda = [])
    (stage : x.link.reader = .reading) :
    Passes x (.ours (.read (x.link.endpoint.read x.link.inbound x.link.outbound).2.2.2)
      (x.link.added x.link.stepReader.link)) (x.moved .reader x.link.stepReader)
  | speaks {x : Exchange ι} (b : Octets) (room : b.length ≤ x.link.inbound.room)
    (present : x.link.inbound.closed = false) :
    Passes x (.said b) { x with link := x.link.hear b }
  | takes {x : Exchange ι} (n : Nat) : Passes x (.took n) { x with link := x.link.lose n }
  | leaves {x : Exchange ι} : Passes x .left { x with link := x.link.part }

inductive Passing : Exchange ι → List (Passage ι) → Exchange ι → Prop
  | nil (x : Exchange ι) : Passing x [] x
  | snoc {x y z : Exchange ι} {ps : List (Passage ι)} {p : Passage ι} (run : Passing x ps y)
    (passes : Passes y p z) : Passing x (ps ++ [p]) z

variable {x y z : Exchange ι} {p : Passage ι} {ps qs : List (Passage ι)}

theorem Passes.step (passes : Passes x p y) : Step x p.deed y := by
  cases passes with
  | works step => exact step
  | reads idle stage =>
    obtain ⟨endpoint, inbound, outbound, read⟩ := x.link.stepReader_reading stage
    rw [read]
    exact .reads idle stage endpoint inbound outbound _
  | speaks | takes | leaves => exact .shifts ..

theorem Passing.run (passing : Passing x ps y) : Run x (ps.map Passage.deed) y := by
  induction passing with
  | nil => exact .nil _
  | snoc _ passes ih =>
    rw [List.map_append]
    exact ih.snoc passes.step

theorem Passing.append (first : Passing x ps y) (second : Passing y qs z) :
    Passing x (ps ++ qs) z := by
  induction second with
  | nil => simpa using first
  | snoc _ passes ih => simpa using ih.snoc passes

end Exchange

def Passage.put : Passage ι → Octets
  | .ours _ b => b
  | _ => []

/-- What the peer puts on the wire. -/
def Passage.spoken : Passage ι → Octets
  | .said b => b
  | _ => []

def Passage.parts : Passage ι → Bool
  | .left => true
  | _ => false

theorem left_notMem {ps : List (Passage ι)} (stays : ∀ p ∈ ps, p.parts = false) :
    .left ∉ ps := fun mem => by simpa [Passage.parts] using stays _ mem

namespace History

def onWire (ps : List (Passage ι)) : Octets := ps.flatMap Passage.put

def spoken (ps : List (Passage ι)) : Octets := ps.flatMap Passage.spoken

theorem onWire_snoc (ps : List (Passage ι)) (p : Passage ι) :
    onWire (ps ++ [p]) = onWire ps ++ p.put := by simp [onWire]

end History

namespace Exchange

inductive Prompt (ι : Type)
  | turn (c : Cue ι)
  | read
  | say (b : Octets)
  | take (n : Nat)
  | leave

variable [DecidableEq ι] [Fintype ι]

def pass? (x : Exchange ι) : Prompt ι → Option { r : Passage ι × Exchange ι // Passes x r.1 r.2 }
  | .turn c =>
    match x.follow? c with
    | some ⟨(d, y), step⟩ =>
      if inner : d.isInner then some ⟨(_, y), .works step inner⟩ else none
    | none => none
  | .read =>
    if can : (x.hands .reader).agenda = [] ∧ x.link.reader = .reading then
      some ⟨(_, _), .reads can.1 can.2⟩
    else none
  | .say b =>
    if can : b.length ≤ x.link.inbound.room ∧ x.link.inbound.closed = false then
      some ⟨(_, _), .speaks b can.1 can.2⟩
    else none
  | .take n => some ⟨(_, _), .takes n⟩
  | .leave => some ⟨(_, _), .leaves⟩

def pass (x : Exchange ι) : List (Prompt ι) → List (Passage ι) × Exchange ι
  | [] => ([], x)
  | m :: ms =>
    match x.pass? m with
    | some ⟨(p, y), _⟩ => (p :: (y.pass ms).1, (y.pass ms).2)
    | none => ([], x)

theorem passing_pass (x : Exchange ι) (ms : List (Prompt ι)) :
    Passing x (x.pass ms).1 (x.pass ms).2 := by
  induction ms generalizing x with
  | nil => exact .nil x
  | cons m ms ih =>
    rw [pass]
    split
    · next p y passes _ =>
      have first : Passing x [p] y := Passing.snoc (.nil x) passes
      exact first.append (ih y)
    · exact .nil x

end Exchange

end Duplex

import Duplex.Session.State

/-!
Sessions as they are when nothing has happened to them yet. Whatever they were created from, they
differ only in their setting and in whether somebody waits for their completion.
-/

namespace Duplex.Session

/-- The session comes from a creation that succeeded. -/
def IsNew (s : Session) : Prop :=
  ∃ id handshake options factory suspendable completion,
    create id handshake options factory suspendable completion = .ok s

theorem IsNew.cases {s : Session} (new : s.IsNew) :
    ∃ g c, s = { setting := g, completion := c } ∧ (c = .absent ∨ c = .waiting) ∧
      g.options.receiveBufferCapacity ≠ 0 := by
  obtain ⟨id, handshake, options, factory, suspendable, completion, made⟩ := new
  cases handshake with
  | none => simp [create] at made
  | some handshake =>
    by_cases zero : options.receiveBufferCapacity = 0
    · simp [create, SessionOptions.validate, zero] at made
    · simp only [create, SessionOptions.validate, zero, if_false, Except.ok.injEq] at made
      exact ⟨_, _, made.symm, by cases completion <;> simp, zero⟩

theorem IsNew.capacity_pos {s : Session} (new : s.IsNew) : 1 ≤ s.setting.capacity := by
  obtain ⟨g, c, rfl, -, positive⟩ := new.cases
  change 1 ≤ if g.suspendable then 1 else g.options.receiveBufferCapacity
  split <;> omega

def sample (suspendable : Bool) (options : SessionOptions) : Session :=
  { setting := { id := ⟨"s"⟩, handshake := { uri := { scheme := "ws" } }, options, suspendable }
    completion := .waiting }

theorem isNew_sample (suspendable : Bool) {options : SessionOptions}
    (valid : options.validate = .success) : (sample suspendable options).IsNew :=
  ⟨⟨"s"⟩, some { uri := { scheme := "ws" } }, options, default, suspendable, true,
    by simp [create, valid, sample]⟩

end Duplex.Session

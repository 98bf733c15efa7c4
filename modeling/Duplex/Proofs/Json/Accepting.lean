import Duplex.Json.Record

/-!
What it takes for a text to be accepted: the steps of a reader succeed one after another, each on
what the one before has left.
-/

namespace Duplex.Json

theorem bind_eq_ok {ε α β : Type} {x : Except ε α} {f : α → Except ε β} {b : β} :
    (x >>= f) = .ok b ↔ ∃ a, x = .ok a ∧ f a = .ok b := by
  cases x <;> simp [bind, Except.bind]

theorem map_eq_ok {ε α β : Type} {x : Except ε α} {f : α → β} {b : β} :
    x.map f = .ok b ↔ ∃ a, x = .ok a ∧ f a = b := by
  cases x <;> simp [Except.map]

theorem mapError_eq_ok {ε δ α : Type} {x : Except ε α} {f : ε → δ} {a : α} :
    x.mapError f = .ok a ↔ x = .ok a := by
  cases x <;> constructor <;> intro same <;> cases same <;> rfl

theorem skipBlanks_cons {c : Char} (solid : isBlank c = false) (cs : List Char) :
    skipBlanks (c :: cs) = c :: cs := by
  rw [skipBlanks, List.dropWhile_cons_of_neg (Bool.eq_false_iff.mp solid)]

theorem readAll_eq_ok {α : Type} {read : Reader α} {text : String} {v : α} :
    readAll read text = .ok v ↔
      ∃ rest, read text.toList = .ok (v, rest) ∧ skipBlanks rest = [] := by
  rw [readAll, mapError_eq_ok, readWhole, bind_eq_ok]
  constructor
  · rintro ⟨⟨w, rest⟩, found, read⟩
    dsimp only at read
    split at read
    · cases read
      exact ⟨rest, found, ‹_›⟩
    · cases read
  · rintro ⟨rest, found, ended⟩
    exact ⟨_, found, by simp only [ended]⟩

section

variable {σ : Type} {entry : σ → String → Reader σ} {first : Bool} {s t : σ} {key : String}
  {cs named behind rest : List Char}

theorem readEntries_ended (next : nextKey first cs = .ok (false, rest)) (fuel : Nat) :
    readEntries entry first s cs (fuel + 1) = .ok (s, rest) := bind_eq_ok.mpr ⟨_, next, rfl⟩

theorem readEntries_taken (next : nextKey first cs = .ok (true, named))
    (name : readText named = .ok (key, behind)) (taken : entry s key behind = .ok (t, rest))
    (fuel : Nat) :
    readEntries entry first s cs (fuel + 1) = readEntries entry false t rest fuel := by
  simp only [readEntries, next, name, taken, bind, Except.bind, if_true]

end

section

variable {μ : Type} {put : μ → String → String → μ} {empty m : μ} {cs rest : List Char}

def takeText (put : μ → String → String → μ) (m : μ) (key : String) : Reader μ := fun cs => do
  let found ← readString "a string" (← readColon cs)
  .ok (put m key found.1, found.2)

theorem takeText_eq_ok {key : String} {m' : μ} : takeText put m key cs = .ok (m', rest) ↔
    ∃ behind v, readColon cs = .ok behind ∧ readString "a string" behind = .ok (v, rest) ∧
      put m key v = m' := by
  rw [takeText, bind_eq_ok]
  constructor
  · rintro ⟨behind, colon, read⟩
    obtain ⟨⟨v, behindValue⟩, found, read⟩ := bind_eq_ok.mp read
    cases read
    exact ⟨behind, v, colon, found, rfl⟩
  · rintro ⟨behind, v, colon, found, rfl⟩
    exact ⟨behind, colon, bind_eq_ok.mpr ⟨_, found, rfl⟩⟩

theorem readTextMap_eq_ok : readTextMap empty put cs = .ok (m, rest) ↔
    ∃ inside behind, skipBlanks cs = '\x7b' :: inside ∧
      readEntries (takeText put) true empty inside (inside.length + 1) = .ok (m, behind) ∧
      endObject behind = .ok rest := by
  unfold readTextMap
  constructor
  · intro read
    split at read
    · cases read
    · rename_i inside start
      obtain ⟨⟨m, behind⟩, entries, read⟩ := bind_eq_ok.mp read
      obtain ⟨rest, ended, read⟩ := bind_eq_ok.mp read
      cases read
      exact ⟨inside, behind, start, entries, ended⟩
    · cases read
  · rintro ⟨inside, behind, start, entries, ended⟩
    simp only [start]
    exact bind_eq_ok.mpr ⟨_, entries, bind_eq_ok.mpr ⟨_, ended, rfl⟩⟩

end

end Duplex.Json

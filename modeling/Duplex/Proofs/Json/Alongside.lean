import Duplex.Proofs.Json.Accepting
import Mathlib.Data.List.Forall2

/-!
Two readings of one object side by side. They keep different states, but what one of them takes the
other one takes as well, and their states stay related.
-/

namespace Duplex.Json

section

variable {σ τ : Type} {R : σ → τ → Prop}

def Follows (R : σ → τ → Prop) (f : σ → Reader σ) (g : τ → Reader τ) : Prop :=
  ∀ {s s' t cs rest}, R s t → f s cs = .ok (s', rest) →
    ∃ t', g t cs = .ok (t', rest) ∧ R s' t'

structure Field.Follows (R : σ → τ → Prop) (f : Field σ) (g : Field τ) : Prop where
  name : g.name = f.name
  defaulted : g.defaulted = f.defaulted
  free : ∀ {s t}, R s t → f.filled s = false → g.filled t = false
  fill : Json.Follows R f.fill g.fill

theorem readEntries_follows {f : σ → String → Reader σ} {g : τ → String → Reader τ}
    (entries : ∀ key, Follows R (f · key) (g · key)) (first : Bool) (fuel : Nat) :
    Follows R (readEntries f first · · fuel) (readEntries g first · · fuel) := by
  intro s s' t cs rest related read
  induction fuel generalizing first s t cs with
  | zero => cases read
  | succ fuel ih =>
    obtain ⟨⟨more, behind⟩, next, read⟩ := bind_eq_ok.mp read
    cases more with
    | false =>
      cases read
      exact ⟨t, bind_eq_ok.mpr ⟨_, next, rfl⟩, related⟩
    | true =>
      obtain ⟨⟨key, behindKey⟩, named, read⟩ := bind_eq_ok.mp read
      obtain ⟨⟨u, behindValue⟩, taken, read⟩ := bind_eq_ok.mp read
      obtain ⟨u', taken', related⟩ := entries key related taken
      obtain ⟨t', later, related⟩ := ih false related read
      exact ⟨t', bind_eq_ok.mpr ⟨_, next, bind_eq_ok.mpr ⟨_, named, bind_eq_ok.mpr
        ⟨_, taken', later⟩⟩⟩, related⟩

theorem takeText_follows {put : σ → String → String → σ} {put' : τ → String → String → τ}
    (puts : ∀ {s t} key value, R s t → R (put s key value) (put' t key value)) (key : String) :
    Follows R (takeText put · key) (takeText put' · key) := by
  intro s s' t cs rest related read
  obtain ⟨behind, v, colon, found, rfl⟩ := takeText_eq_ok.mp read
  exact ⟨_, takeText_eq_ok.mpr ⟨behind, v, colon, found, rfl⟩, puts key v related⟩

theorem readTextMap_follows {empty : σ} {empty' : τ} {put : σ → String → String → σ}
    {put' : τ → String → String → τ} (start : R empty empty')
    (puts : ∀ {s t} key value, R s t → R (put s key value) (put' t key value))
    {cs rest : List Char} {s : σ} (read : readTextMap empty put cs = .ok (s, rest)) :
    ∃ t, readTextMap empty' put' cs = .ok (t, rest) ∧ R s t := by
  obtain ⟨inside, behind, opened, entries, ended⟩ := readTextMap_eq_ok.mp read
  obtain ⟨t, entries', related⟩ := readEntries_follows (takeText_follows puts) true _ start entries
  exact ⟨t, readTextMap_eq_ok.mpr ⟨inside, behind, opened, entries', ended⟩, related⟩

variable {fs : List (Field σ)} {gs : List (Field τ)}

theorem find?_follows (fields : List.Forall₂ (Field.Follows R) fs gs) (key : String) :
    Option.Rel (Field.Follows R) (fs.find? fun f => f.name = key)
      (gs.find? fun g => g.name = key) := by
  induction fields with
  | nil => exact .none
  | @cons f g fs gs here more ih =>
    simp only [List.find?_cons, here.name]
    split
    · exact .some here
    · exact ih

theorem readField_follows (fields : List.Forall₂ (Field.Follows R) fs gs) (key : String) :
    Follows R (readField fs · key) (readField gs · key) := by
  intro s s' t cs rest related read
  have found := find?_follows fields key
  simp only [readField] at read ⊢
  generalize fs.find? (fun f => f.name = key) = known at read found
  generalize gs.find? (fun g => g.name = key) = known' at found ⊢
  cases found with
  | none =>
    obtain ⟨behind, colon, read⟩ := bind_eq_ok.mp read
    obtain ⟨behind, skipped, read⟩ := bind_eq_ok.mp read
    cases read
    exact ⟨t, bind_eq_ok.mpr ⟨_, colon, bind_eq_ok.mpr ⟨_, skipped, rfl⟩⟩, related⟩
  | @some f g follows =>
    dsimp only at read ⊢
    split at read
    · cases read
    · rename_i unfilled
      obtain ⟨behind, colon, read⟩ := bind_eq_ok.mp read
      obtain ⟨t', filled, after⟩ := follows.fill related read
      have free := follows.free related (Bool.eq_false_iff.mpr unfilled)
      rw [free, if_neg Bool.false_ne_true]
      exact ⟨t', bind_eq_ok.mpr ⟨_, colon, filled⟩, after⟩

theorem readPositions_follows (fields : List.Forall₂ (Field.Follows R) fs gs) (what : String)
    (index : Nat) : Follows R (readPositions what fs index) (readPositions what gs index) := by
  intro s s' t cs rest related read
  induction fields generalizing index s t cs with
  | nil =>
    cases read
    exact ⟨t, rfl, related⟩
  | @cons f g fs gs here more ih =>
    obtain ⟨⟨another, behind⟩, next, read⟩ := bind_eq_ok.mp read
    cases another with
    | false =>
      simp only [Bool.false_eq_true, if_false] at read
      split at read
      · rename_i defaulted
        obtain ⟨t', later, related⟩ := ih _ related read
        refine ⟨t', bind_eq_ok.mpr ⟨_, next, ?_⟩, related⟩
        simpa only [Bool.false_eq_true, if_false, here.defaulted, defaulted, if_true] using later
      · cases read
    | true =>
      obtain ⟨⟨u, behind⟩, filled, read⟩ := bind_eq_ok.mp read
      obtain ⟨u', filled', related⟩ := here.fill related filled
      obtain ⟨t', later, related⟩ := ih _ related read
      exact ⟨t', bind_eq_ok.mpr ⟨_, next, bind_eq_ok.mpr ⟨_, filled', later⟩⟩, related⟩

theorem readRecord_follows {α : Type} (fields : List.Forall₂ (Field.Follows R) fs gs)
    {start : σ} {start' : τ} (related : R start start') {finish : σ → Except Defect α}
    {name : String} {cs rest : List Char} {v : α}
    (read : readRecord name fs start finish cs = .ok (v, rest)) :
    ∃ s t, finish s = .ok v ∧ R s t ∧ readRecord name gs start' .ok cs = .ok (t, rest) := by
  simp only [readRecord] at read ⊢
  split at read
  · cases read
  · obtain ⟨⟨s, inside⟩, positions, read⟩ := bind_eq_ok.mp read
    obtain ⟨w, finished, read⟩ := bind_eq_ok.mp read
    obtain ⟨behind, ended, read⟩ := bind_eq_ok.mp read
    cases read
    obtain ⟨t, positions', related⟩ := readPositions_follows fields _ 0 related positions
    rw [fields.length_eq] at positions'
    exact ⟨s, t, mapError_eq_ok.mp finished, related, bind_eq_ok.mpr
      ⟨_, positions', bind_eq_ok.mpr ⟨t, rfl, bind_eq_ok.mpr ⟨_, ended, rfl⟩⟩⟩⟩
  · obtain ⟨⟨s, inside⟩, entries, read⟩ := bind_eq_ok.mp read
    obtain ⟨w, finished, read⟩ := bind_eq_ok.mp read
    obtain ⟨behind, ended, read⟩ := bind_eq_ok.mp read
    cases read
    obtain ⟨t, entries', related⟩ :=
      readEntries_follows (readField_follows fields) true _ related entries
    exact ⟨s, t, mapError_eq_ok.mp finished, related, bind_eq_ok.mpr
      ⟨_, entries', bind_eq_ok.mpr ⟨t, rfl, bind_eq_ok.mpr ⟨_, ended, rfl⟩⟩⟩⟩
  · cases read

end

end Duplex.Json

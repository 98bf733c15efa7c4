import Duplex.Proofs.Json.Number
import Duplex.Proofs.Json.Text

/-!
Blanks may stand between the parts of a text. A reader finds a value in some parts if it finds it in
every text that is made of them, however many blanks stand before each and whatever comes after; so
it finds what was written for a number, a truth value, a string or something that may be null.
-/

namespace Duplex.Json

def IsBlanks (gap : List Char) : Prop := ∀ c ∈ gap, isBlank c = true

instance (gap : List Char) : Decidable (IsBlanks gap) :=
  decidable_of_iff (gap.all isBlank = true) List.all_eq_true

/-- The text is made of the parts, with blanks before any of them, and goes on with `rest`. -/
inductive Spaced (rest : List Char) : List (List Char) → List Char → Prop
  | nil : Spaced rest [] rest
  | cons {part text : List Char} {parts : List (List Char)} (gap : List Char)
      (blanks : IsBlanks gap) (more : Spaced rest parts text) :
      Spaced rest (part :: parts) (gap ++ (part ++ text))

def Delimits (rest : List Char) : Prop := ∀ c ∈ rest.head?, c = ',' ∨ c = ']' ∨ c = '\x7d'

def Finds {α : Type} (read : Reader α) (parts : List (List Char)) (a : α) : Prop :=
  ∀ rest text, Delimits (skipBlanks rest) → Spaced rest parts text → read text = .ok (a, rest)

section

variable {rest text : List Char} {parts : List (List Char)}

theorem skipBlanks_append {gap : List Char} (blanks : IsBlanks gap) (cs : List Char) :
    skipBlanks (gap ++ cs) = skipBlanks cs := List.dropWhile_append_of_pos blanks

theorem spaced_flatten (rest : List Char) (parts : List (List Char)) :
    Spaced rest parts (parts.flatten ++ rest) := by
  induction parts with
  | nil => exact .nil
  | cons part parts ih =>
    rw [List.flatten_cons, List.append_assoc]
    exact .cons [] (by decide) ih

theorem Spaced.split (before : List (List Char)) {after : List (List Char)}
    (spaced : Spaced rest (before ++ after) text) :
    ∃ middle, Spaced middle before text ∧ Spaced rest after middle := by
  induction before generalizing text with
  | nil => exact ⟨text, .nil, spaced⟩
  | cons part before ih =>
    cases spaced with
    | cons gap blanks more =>
      obtain ⟨middle, here, later⟩ := ih more
      exact ⟨middle, .cons gap blanks here, later⟩

theorem Spaced.start {c : Char} {part : List Char}
    (spaced : Spaced rest ((c :: part) :: parts) text) (solid : isBlank c = false) :
    ∃ more, skipBlanks text = c :: (part ++ more) ∧ Spaced rest parts more := by
  cases spaced with
  | cons gap blanks more =>
    exact ⟨_, by rw [skipBlanks_append blanks, List.cons_append, skipBlanks_cons solid], more⟩

theorem Spaced.sign {c : Char} (spaced : Spaced rest ([c] :: parts) text)
    (solid : isBlank c = false) :
    ∃ more, skipBlanks text = c :: more ∧ Spaced rest parts more := spaced.start solid

theorem Spaced.length_le (spaced : Spaced rest parts text) :
    parts.flatten.length ≤ text.length := by
  induction spaced with
  | nil => exact Nat.zero_le _
  | cons _ _ _ ih =>
    simp only [List.flatten_cons, List.length_append]
    omega

end

section

variable {α : Type} {read : Reader α} {a : α} {part : List Char} {parts : List (List Char)}

theorem Finds.map {β : Type} (finds : Finds read parts a) (f : α → β) :
    Finds (fun cs => (read cs).map fun v => (f v.1, v.2)) parts (f a) := by
  intro rest text delimits spaced
  simp only [finds rest text delimits spaced, Except.map]

theorem Finds.flatten (finds : Finds read (part :: parts) a) :
    Finds read [(part :: parts).flatten] a := by
  intro rest text delimits spaced
  cases spaced with
  | cons gap blanks more =>
    cases more
    rw [List.flatten_cons, List.append_assoc]
    exact finds rest _ delimits (.cons gap blanks (spaced_flatten rest parts))

theorem readAll_of_finds (finds : Finds read parts a) {ending : List Char}
    (blanks : IsBlanks ending) {text : String} (spaced : Spaced ending parts text.toList) :
    readAll read text = .ok a := by
  have ended : skipBlanks ending = [] := by
    have all := skipBlanks_append blanks []
    rwa [List.append_nil] at all
  exact readAll_eq_ok.mpr ⟨ending, finds ending _ (by simp [ended, Delimits]) spaced, ended⟩

end

section

variable {α : Type} {read : Reader α} {a : α}

theorem endsNumber_of_delimits {rest : List Char} (delimits : Delimits (skipBlanks rest)) :
    EndsNumber rest := by
  cases rest with
  | nil => simp [EndsNumber]
  | cons c rest =>
    rintro _ ⟨⟩
    by_cases blank : isBlank c = true
    · simp only [isBlank, Bool.or_eq_true, decide_eq_true_eq] at blank
      obtain ((rfl | rfl) | rfl) | rfl := blank <;> decide
    · rw [skipBlanks_cons (Bool.eq_false_iff.mpr blank)] at delimits
      obtain rfl | rfl | rfl := delimits c rfl <;> decide

theorem finds_nat {n limit : Nat} (expected : String) (fits : n ≤ limit)
    (word : limit ≤ wordLimit) : Finds (readNat limit expected) [(toString n).toList] n := by
  intro rest text delimits spaced
  have found := readNat_toString expected fits word (endsNumber_of_delimits delimits)
  cases spaced with
  | cons _ blanks more =>
    cases more
    rw [readNat, skipBlanks_append blanks]
    exact found

theorem finds_flag (b : Bool) : Finds readBool [(Text.flag b).toList] b := by
  intro rest text _ spaced
  cases spaced with
  | cons _ blanks more =>
    cases more
    rw [readBool, skipBlanks_append blanks]
    cases b <;> rfl

theorem finds_text (expected s : String) : Finds (readString expected) [writeText s] s := by
  intro rest text _ spaced
  obtain ⟨_, start, ⟨⟩⟩ := spaced.start rfl
  rw [List.append_assoc] at start
  simp only [readString, start]
  exact readText_written s rest

theorem finds_some {c : Char} {part : List Char} (solid : isBlank c = false) (other : c ≠ 'n')
    (finds : Finds read [c :: part] a) : Finds (readOption read) [c :: part] (some a) := by
  intro rest text delimits spaced
  obtain ⟨_, start, ⟨⟩⟩ := spaced.start solid
  have found := finds rest _ delimits (spaced_flatten rest [c :: part])
  simp only [List.flatten_cons, List.flatten_nil, List.append_nil, List.cons_append] at found
  simp only [readOption, start]
  split
  · rename_i same
    exact absurd (List.cons.inj same).1 other
  · simp [found, Except.map]

theorem finds_none (read : Reader α) : Finds (readOption read) ["null".toList] none := by
  intro rest text _ spaced
  obtain ⟨_, start, ⟨⟩⟩ := Spaced.start (c := 'n') spaced rfl
  simp only [readOption, start]
  rfl

end

end Duplex.Json

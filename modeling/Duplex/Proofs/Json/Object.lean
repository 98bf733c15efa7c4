import Duplex.Proofs.Json.Spacing

/-!
Lists and objects are read back as they were written, with any blanks between their parts. What is
found in the parts of each item, one after another, is found in the whole.
-/

namespace Duplex.Json

def separated (close : Char) : Bool → List (List (List Char)) → List (List Char)
  | _, [] => [[close]]
  | first, item :: items =>
    (if first then [] else [[',']]) ++ (item ++ separated close false items)

section

variable {close : Char} {rest text : List Char} {items : List (List (List Char))}

theorem delimits_separated (closes : close = ']' ∨ close = '\x7d')
    (spaced : Spaced rest (separated close false items) text) : Delimits (skipBlanks text) := by
  cases items with
  | nil =>
    have solid : isBlank close = false := by rcases closes with rfl | rfl <;> rfl
    obtain ⟨_, start, -⟩ := Spaced.sign spaced solid
    simp [start, Delimits, closes]
  | cons item items =>
    obtain ⟨_, start, -⟩ := Spaced.sign (c := ',') spaced rfl
    simp [start, Delimits]

theorem length_le_separated (close : Char) (first : Bool) (items : List (List (List Char))) :
    items.length ≤ (separated close first items).flatten.length := by
  have later (items : List (List (List Char))) :
      items.length + 1 ≤ (separated close false items).flatten.length := by
    induction items with
    | nil => simp [separated]
    | cons item items ih =>
      simp only [separated, List.flatten_append, List.length_append, List.length_cons,
        Bool.false_eq_true, if_false, List.flatten_cons, List.flatten_nil, List.length_nil]
      omega
  cases items with
  | nil => exact Nat.zero_le _
  | cons item items =>
    have enough := later items
    simp only [separated, List.flatten_append, List.length_append, List.length_cons]
    omega

theorem intercalate_map_cons {α : Type} (write : α → List Char) (a : α) (l : List α) :
    [','].intercalate ((a :: l).map write) = write a ++ l.flatMap fun b => ',' :: write b := by
  induction l generalizing a with
  | nil => simp [List.intercalate]
  | cons b l ih =>
    rw [List.map_cons, List.map_cons, List.intercalate_cons_cons, ← List.map_cons, ih]
    simp

theorem flatten_separated (close : Char) (items : List (List (List Char))) :
    (separated close true items).flatten =
      [','].intercalate (items.map List.flatten) ++ [close] := by
  have later (items : List (List (List Char))) : (separated close false items).flatten =
      items.flatMap (fun item => ',' :: item.flatten) ++ [close] := by
    induction items with
    | nil => rfl
    | cons item items ih => simp [separated, ih]
  cases items with
  | nil => rfl
  | cons item items =>
    rw [intercalate_map_cons]
    simp [separated, later]

end

def listParts (l : List (List Char)) : List (List Char) :=
  ['['] :: separated ']' true (l.map fun part => [part])

section

variable {α : Type} {read : Reader α} {write : α → List Char} {rest text : List Char}

theorem nextElement_spaced {first : Bool} {part : List Char} {parts : List (List Char)}
    (spaced : Spaced rest ((if first then [] else [[',']]) ++ ('"' :: part) :: parts) text) :
    ∃ behind, nextElement first text = .ok (true, '"' :: (part ++ behind)) ∧
      Spaced rest parts behind := by
  cases first with
  | true =>
    obtain ⟨behind, start, more⟩ := spaced.start rfl
    exact ⟨behind, by simp [nextElement, start], more⟩
  | false =>
    obtain ⟨inside, comma, more⟩ := Spaced.sign (c := ',') spaced rfl
    obtain ⟨behind, start, more⟩ := more.start rfl
    exact ⟨behind, by simp [nextElement, comma, start], more⟩

theorem nextElement_ended {first : Bool} (spaced : Spaced rest [[']']] text) :
    nextElement first text = .ok (false, ']' :: rest) := by
  obtain ⟨_, start, ⟨⟩⟩ := spaced.sign rfl
  simp [nextElement, start]

theorem endList_end (rest : List Char) : endList (']' :: rest) = .ok rest := rfl

theorem readElements_spaced (quoted : ∀ a, ∃ t, write a = '"' :: t)
    (finds : ∀ a, Finds read [write a] a) (l done : List α) {first : Bool}
    (spaced : Spaced rest (separated ']' first (l.map fun a => [write a])) text) {fuel : Nat}
    (enough : l.length < fuel) :
    readElements read first done text fuel = .ok (done.reverse ++ l, ']' :: rest) := by
  induction l generalizing first done text fuel with
  | nil =>
    obtain ⟨fuel, rfl⟩ := Nat.exists_eq_succ_of_ne_zero (Nat.ne_zero_of_lt enough)
    simp [readElements, nextElement_ended spaced, bind, Except.bind]
  | cons a l ih =>
    obtain ⟨fuel, rfl⟩ := Nat.exists_eq_succ_of_ne_zero (Nat.ne_zero_of_lt enough)
    obtain ⟨t, start⟩ := quoted a
    rw [List.map_cons, separated, start] at spaced
    obtain ⟨behind, next, later⟩ := nextElement_spaced spaced
    have here := finds a behind ('"' :: (t ++ behind)) (delimits_separated (.inl rfl) later)
      (by simpa [start] using spaced_flatten behind [write a])
    have more := ih (a :: done) later (Nat.lt_of_succ_lt_succ enough)
    simp only [readElements, next, bind, Except.bind, if_true, here, more]
    simp

theorem finds_list (quoted : ∀ a, ∃ t, write a = '"' :: t) (finds : ∀ a, Finds read [write a] a)
    (l : List α) : Finds (readList read) (listParts (l.map write)) l := by
  intro rest text _ spaced
  obtain ⟨inside, opened, more⟩ := spaced.sign rfl
  rw [List.map_map] at more
  have enough := Nat.le_trans (length_le_separated _ true _) more.length_le
  have found := readElements_spaced quoted finds l [] more
    (Nat.lt_succ_of_le (by simpa using enough))
  simp only [readList, opened]
  exact bind_eq_ok.mpr ⟨_, found, bind_eq_ok.mpr ⟨_, endList_end rest, rfl⟩⟩

theorem flatten_listParts (l : List (List Char)) :
    (listParts l).flatten = '[' :: ([','].intercalate l ++ [']']) := by
  simp [listParts, flatten_separated, Function.comp_def]

end

def entryParts (e : String × List Char) : List (List Char) := [writeText e.1, [':'], e.2]

def objectParts (l : List (String × List Char)) : List (List Char) :=
  ['\x7b'] :: separated '\x7d' true (l.map entryParts)

/-- The text is an object of just these entries, in this order. -/
def IsObject (l : List (String × List Char)) (text : String) : Prop :=
  ∃ ending, IsBlanks ending ∧ Spaced ending (objectParts l) text.toList

def writeEntry (e : String × List Char) : List Char := writeText e.1 ++ ':' :: e.2

def writeObject (l : List (String × List Char)) : List Char :=
  '\x7b' :: ([','].intercalate (l.map writeEntry) ++ ['\x7d'])

section

variable {rest text : List Char}

theorem nextKey_spaced {first : Bool} {key : String} {parts : List (List Char)}
    (spaced : Spaced rest ((if first then [] else [[',']]) ++ writeText key :: parts) text) :
    ∃ behind, nextKey first text = .ok (true, key.toList.flatMap writtenChar ++ '"' :: behind) ∧
      Spaced rest parts behind := by
  cases first with
  | true =>
    obtain ⟨behind, start, more⟩ := spaced.start rfl
    exact ⟨behind, by simp [nextKey, start], more⟩
  | false =>
    obtain ⟨inside, comma, more⟩ := Spaced.sign (c := ',') spaced rfl
    obtain ⟨behind, start, more⟩ := more.start rfl
    exact ⟨behind, by simp [nextKey, comma, start], more⟩

theorem nextKey_ended {first : Bool} (spaced : Spaced rest [['\x7d']] text) :
    nextKey first text = .ok (false, '\x7d' :: rest) := by
  obtain ⟨_, start, ⟨⟩⟩ := spaced.sign rfl
  simp [nextKey, start]

theorem readColon_spaced {parts : List (List Char)} (spaced : Spaced rest ([':'] :: parts) text) :
    ∃ behind, readColon text = .ok behind ∧ Spaced rest parts behind := by
  obtain ⟨behind, start, more⟩ := spaced.sign rfl
  exact ⟨behind, by simp [readColon, start], more⟩

theorem endObject_end (rest : List Char) : endObject ('\x7d' :: rest) = .ok rest := rfl

theorem flatten_objectParts (l : List (String × List Char)) :
    (objectParts l).flatten = writeObject l := by
  have same : List.flatten ∘ entryParts = writeEntry := by
    funext e
    simp [entryParts, writeEntry]
  simp [objectParts, flatten_separated, writeObject, same]

theorem isObject_writeObject {l : List (String × List Char)} {text : String}
    (compact : text.toList = writeObject l) : IsObject l text := by
  have spaced := spaced_flatten [] (objectParts l)
  rw [List.append_nil, flatten_objectParts, ← compact] at spaced
  exact ⟨[], by decide, spaced⟩

end

section

variable {σ α : Type} {entry : σ → String → Reader σ} {fields : List (Field σ)} {s t : σ}
  {l : List (String × List Char)}

inductive Gathers (entry : σ → String → Reader σ) : σ → List (String × List Char) → σ → Prop
  | nil (s : σ) : Gathers entry s [] s
  | cons {s t u : σ} {key : String} {part : List Char} {l : List (String × List Char)}
      (here : Finds (entry s key) [[':'], part] t) (more : Gathers entry t l u) :
      Gathers entry s ((key, part) :: l) u

theorem readEntries_spaced (gathers : Gathers entry s l t) {first : Bool} {rest text : List Char}
    (spaced : Spaced rest (separated '\x7d' first (l.map entryParts)) text) {fuel : Nat}
    (enough : l.length < fuel) :
    readEntries entry first s text fuel = .ok (t, '\x7d' :: rest) := by
  induction gathers generalizing first text fuel with
  | nil =>
    obtain ⟨fuel, rfl⟩ := Nat.exists_eq_succ_of_ne_zero (Nat.ne_zero_of_lt enough)
    exact readEntries_ended (nextKey_ended spaced) fuel
  | @cons s t u key part l here more ih =>
    obtain ⟨fuel, rfl⟩ := Nat.exists_eq_succ_of_ne_zero (Nat.ne_zero_of_lt enough)
    obtain ⟨behind, next, inside⟩ := nextKey_spaced spaced
    obtain ⟨middle, value, later⟩ := inside.split [[':'], part]
    have taken := here middle behind (delimits_separated (.inr rfl) later) value
    rw [readEntries_taken next (readText_written key behind) taken]
    exact ih later (Nat.lt_of_succ_lt_succ enough)

theorem readEntries_object (gathers : Gathers entry s l t) {rest text : List Char}
    (spaced : Spaced rest (objectParts l) text) :
    ∃ inside, skipBlanks text = '\x7b' :: inside ∧
      readEntries entry true s inside (inside.length + 1) = .ok (t, '\x7d' :: rest) := by
  obtain ⟨inside, opened, more⟩ := spaced.sign rfl
  have enough := Nat.le_trans (length_le_separated _ true _) more.length_le
  rw [List.length_map] at enough
  exact ⟨inside, opened, readEntries_spaced gathers more (Nat.lt_succ_of_le enough)⟩

theorem finds_field {f : Field σ} {key : String} {part : List Char}
    (known : fields.find? (fun f => f.name = key) = some f) (free : f.filled s = false)
    (value : Finds (f.fill s) [part] t) : Finds (readField fields s key) [[':'], part] t := by
  intro rest text delimits spaced
  obtain ⟨behind, colon, more⟩ := readColon_spaced spaced
  simp only [readField, known, free]
  exact bind_eq_ok.mpr ⟨behind, colon, value rest behind delimits more⟩

theorem finds_record (name : String) {finish : σ → Except Defect α} {v : α}
    (gathers : Gathers (readField fields) s l t) (made : finish t = .ok v) :
    Finds (readRecord name fields s finish) (objectParts l) v := by
  intro rest text _ spaced
  obtain ⟨inside, opened, found⟩ := readEntries_object gathers spaced
  simp only [readRecord, opened]
  exact bind_eq_ok.mpr ⟨_, found, bind_eq_ok.mpr ⟨v, mapError_eq_ok.mpr made,
    bind_eq_ok.mpr ⟨rest, endObject_end rest, rfl⟩⟩⟩

theorem readAll_of_isObject {name : String} {finish : σ → Except Defect α} {v : α} {text : String}
    (object : IsObject l text) (gathers : Gathers (readField fields) s l t)
    (made : finish t = .ok v) : readAll (readRecord name fields s finish) text = .ok v := by
  obtain ⟨ending, blanks, spaced⟩ := object
  exact readAll_of_finds (finds_record name gathers made) blanks spaced

theorem finds_textMap {μ : Type} (put : μ → String → String → μ) (empty : μ)
    (l : List (String × String)) :
    Finds (readTextMap empty put) (objectParts (l.map fun e => (e.1, writeText e.2)))
      (l.foldl (fun m e => put m e.1 e.2) empty) := by
  have gathers (m : μ) : Gathers (takeText put) m (l.map fun e => (e.1, writeText e.2))
      (l.foldl (fun m e => put m e.1 e.2) m) := by
    induction l generalizing m with
    | nil => exact .nil m
    | cons e l ih =>
      refine .cons (fun rest text delimits spaced => ?_) (ih _)
      obtain ⟨behind, colon, more⟩ := readColon_spaced spaced
      have value := finds_text "a string" e.2 rest behind delimits more
      exact takeText_eq_ok.mpr ⟨behind, e.2, colon, value, rfl⟩
  intro rest text _ spaced
  obtain ⟨inside, opened, found⟩ := readEntries_object (gathers empty) spaced
  exact readTextMap_eq_ok.mpr ⟨inside, _, opened, found, endObject_end rest⟩

end

end Duplex.Json

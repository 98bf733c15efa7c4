import Duplex.Proofs.Json.Accepting

/-!
A natural number is read back as it was written, if it is small enough and what stands behind it
does not go on with it. A first zero would end it, but only zero itself begins with one.
-/

namespace Duplex.Json

def EndsNumber (rest : List Char) : Prop :=
  ∀ c ∈ rest.head?, c.isDigit = false ∧ c ≠ '.' ∧ c ≠ 'e' ∧ c ≠ 'E'

section

variable {n limit : Nat} {digits rest : List Char}

theorem exists_toDigits (positive : 0 < n) :
    ∃ d cs, 0 < d ∧ d < 10 ∧ Nat.toDigits 10 n = d.digitChar :: cs := by
  induction n using Nat.strongRecOn with
  | ind n ih =>
    by_cases single : n < 10
    · exact ⟨n, [], positive, single, Nat.toDigits_of_lt_base single⟩
    · obtain ⟨d, cs, leading, least, more⟩ := ih (n / 10) (by omega) (by omega)
      refine ⟨d, cs ++ [(n % 10).digitChar], leading, least, ?_⟩
      rw [Nat.toDigits_of_base_le (by decide) (by omega), more, List.cons_append]

theorem digit?_of_isDigit {c : Char} (digit : c.isDigit = true) :
    digit? c = some (c.toNat - '0'.toNat) := if_pos digit

theorem digit?_digitChar {d : Nat} (least : d < 10) : digit? d.digitChar = some d := by
  rw [digit?_of_isDigit (by simpa [Nat.isDigit_digitChar] using least)]
  exact congrArg some (Nat.toNat_digitChar_sub_48_of_lt_ten least)

theorem le_ofDigitChars (cs : List Char) (value : Nat) : value ≤ Nat.ofDigitChars 10 cs value := by
  rw [Nat.ofDigitChars_eq_ofDigitChars_zero]
  exact Nat.le_add_right_of_le (Nat.le_mul_of_pos_left _ (Nat.pow_pos (by decide)))

theorem readDigits_digits (all : ∀ c ∈ digits, c.isDigit = true) (ends : EndsNumber rest)
    (value count : Nat) (fits : Nat.ofDigitChars 10 digits value ≤ limit) :
    readDigits limit value count (digits ++ rest) =
      ⟨Nat.ofDigitChars 10 digits value, count + digits.length, rest, false⟩ := by
  induction digits generalizing value count with
  | nil =>
    cases rest with
    | nil => rfl
    | cons c rest =>
      have other : digit? c = none := if_neg (by simp [(ends c rfl).1])
      simp [readDigits, other]
  | cons c digits ih =>
    have here := digit?_of_isDigit (all c List.mem_cons_self)
    rw [Nat.ofDigitChars_cons, Nat.mul_comm] at fits ⊢
    have below := Nat.le_trans (le_ofDigitChars digits _) fits
    have later := ih (fun d mem => all d (List.mem_cons_of_mem _ mem)) _ (count + 1) fits
    simp only [List.cons_append, readDigits, here, if_neg (Nat.not_lt.mpr below), later,
      List.length_cons, Nat.add_assoc, Nat.add_comm 1]

theorem readTail_ends (ends : EndsNumber rest) (n : Nat) :
    readTail true n rest = .ok (.unsigned n, rest) := by
  cases rest with
  | nil => rfl
  | cons c rest =>
    obtain ⟨-, point, small, large⟩ := ends c rfl
    rw [readTail]
    · rfl
    all_goals simp [point, small, large]

theorem readUnsigned_toDigits (fits : n ≤ wordLimit) (ends : EndsNumber rest) :
    readUnsigned true (Nat.toDigits 10 n ++ rest) = .ok (.unsigned n, rest) := by
  obtain rfl | positive := Nat.eq_zero_or_pos n
  · have zero : digit? '0' = some 0 := rfl
    rw [Nat.toDigits_zero, List.singleton_append]
    cases rest with
    | nil => rfl
    | cons c rest => simp only [readUnsigned, zero, (ends c rfl).1, readTail_ends ends]; rfl
  · obtain ⟨d, cs, leading, least, written⟩ := exists_toDigits positive
    have value : Nat.ofDigitChars 10 cs d = n := by
      have whole := Nat.ofDigitChars_ten_toDigits (n := n)
      rwa [written, Nat.ofDigitChars_cons_digitChar_of_lt_ten least, Nat.mul_zero,
        Nat.zero_add] at whole
    have all (c : Char) (mem : c ∈ cs) : c.isDigit = true :=
      Nat.isDigit_of_mem_toDigits (n := n) (b := 10) (by decide) (by decide)
        (written ▸ List.mem_cons_of_mem _ mem)
    have read := readDigits_digits all ends d 1 (value ▸ fits)
    obtain ⟨d, rfl⟩ := Nat.exists_eq_succ_of_ne_zero (Nat.pos_iff_ne_zero.mp leading)
    simp only [written, List.cons_append, readUnsigned, digit?_digitChar least, read, value,
      readTail_ends ends, Bool.false_eq_true, if_false]

theorem isBlank_of_isDigit {c : Char} (digit : c.isDigit = true) : isBlank c = false := by
  simp only [isBlank, Bool.or_eq_false_iff, decide_eq_false_iff_not]
  refine ⟨⟨⟨?_, ?_⟩, ?_⟩, ?_⟩ <;> rintro rfl <;> cases digit

theorem toDigits_eq_cons (n : Nat) : ∃ c cs, Nat.toDigits 10 n = c :: cs ∧ c.isDigit = true := by
  obtain ⟨c, cs, digits⟩ := List.exists_cons_of_ne_nil (Nat.toDigits_ne_nil (n := n) (b := 10))
  have mem : c ∈ Nat.toDigits 10 n := digits ▸ List.mem_cons_self
  exact ⟨c, cs, digits, Nat.isDigit_of_mem_toDigits (by decide) (by decide) mem⟩

theorem readNat_toString (expected : String) (fits : n ≤ limit) (word : limit ≤ wordLimit)
    (ends : EndsNumber rest) :
    readNat limit expected ((toString n).toList ++ rest) = .ok (n, rest) := by
  have number := readUnsigned_toDigits (Nat.le_trans fits word) ends
  obtain ⟨c, cs, digits, digit⟩ := toDigits_eq_cons n
  have start := skipBlanks_cons (isBlank_of_isDigit digit) (cs ++ rest)
  have unsigned : readNumber (c :: (cs ++ rest)) = readUnsigned true (c :: (cs ++ rest)) := by
    rw [readNumber]
    intro _ same
    rw [(List.cons.inj same).1] at digit
    cases digit
  rw [digits, List.cons_append] at number
  rw [Nat.toString_eq_ofList_toDigits, String.toList_ofList, digits, List.cons_append]
  simp only [readNat, start, digit, Bool.or_true, if_true, unsigned, number, bind, Except.bind,
    fits]

end

end Duplex.Json

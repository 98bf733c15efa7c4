import Duplex.Json.Text

/-!
A string of a JSON text is read back as it was written, whatever characters are in it.
-/

namespace Duplex.Json

theorem hexFour?_control : ∀ n < 32,
    hexFour? '0' '0' (Octets.hexDigit (n / 16)) (Octets.hexDigit (n % 16)) = some n := by
  decide

section

variable (done rest : List Char)

theorem readChars_hex {a b c d : Char} {n : Nat} (value : hexFour? a b c d = some n)
    (least : n < 0xD800) :
    readChars done ('\\' :: 'u' :: a :: b :: c :: d :: rest) =
      readChars (Char.ofNat n :: done) rest := by
  have trailing : isTrailing n = false := by
    simp only [isTrailing, Bool.and_eq_false_iff, decide_eq_false_iff_not]
    omega
  have leading : isLeading n = false := by
    simp only [isLeading, Bool.and_eq_false_iff, decide_eq_false_iff_not]
    omega
  rw [readChars.eq_def]
  simp [value, trailing, leading]

theorem readChars_plain {c : Char} (quote : c ≠ '"') (escape : c ≠ '\\')
    (visible : ¬ c.toNat < 0x20) : readChars done (c :: rest) = readChars (c :: done) rest := by
  rw [readChars, if_neg visible]
  all_goals simp [quote, escape]

theorem readChars_writtenChar (c : Char) :
    readChars done (writtenChar c ++ rest) = readChars (c :: done) rest := by
  have self : Char.ofNat c.toNat = c := Char.ofNat_toNat c
  unfold writtenChar
  iterate 7
    split
    · subst c
      rfl
  split
  · rename_i control
    have read := readChars_hex done rest (hexFour?_control c.toNat control) (by omega)
    rw [self] at read
    exact read
  · exact readChars_plain done rest ‹_› ‹_› ‹_›

theorem readChars_written (cs : List Char) :
    readChars done (cs.flatMap writtenChar ++ '"' :: rest) = .ok (done.reverse ++ cs, rest) := by
  induction cs generalizing done with
  | nil => simp [readChars]
  | cons c cs ih =>
    rw [List.flatMap_cons, List.append_assoc, readChars_writtenChar, ih]
    simp

end

theorem readText_written (s : String) (rest : List Char) :
    readText (s.toList.flatMap writtenChar ++ '"' :: rest) = .ok (s, rest) := by
  simp [readText, readChars_written, Except.map]

end Duplex.Json

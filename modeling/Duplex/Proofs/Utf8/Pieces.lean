import Duplex.Proofs.Utf8.Reading

/-!
What the pieces are that bytes are cut into. A character stands wherever its bytes do; where no
character stands, a broken piece takes as many of the bytes as some character begins with, or one
byte if there are none. So the strict reading accepts just the bytes of texts, and the lenient one
leaves just these as they are.
-/

namespace Duplex.Utf8

def Begins (b : Octets) : Prop := ∃ c, b <+: encodeChar c

/-- A piece that is broken where `rest` follows it. -/
inductive IsBroken : Octets → Octets → Prop
  | stray {x : UInt8} {rest : Octets} (unbegun : ¬ Begins [x]) : IsBroken [x] rest
  | begun {b rest : Octets} (some : b ≠ []) (begins : Begins b)
    (unfinished : ∀ c, encodeChar c ≠ b) (longest : ∀ x ∈ rest.head?, ¬ Begins (b ++ [x])) :
    IsBroken b rest

inductive Cut : Octets → List Piece → Prop
  | nil : Cut [] []
  | scalar (c : Char) {rest : Octets} {ps : List Piece} (more : Cut rest ps) :
    Cut (encodeChar c ++ rest) (.scalar c :: ps)
  | broken {b rest : Octets} {ps : List Piece} (here : IsBroken b rest) (more : Cut rest ps) :
    Cut (b ++ rest) (.broken b :: ps)

/-- A text that stands for bytes with each broken piece replaced. -/
def IsLossy (b : Octets) (s : String) : Prop := ∃ ps, Cut b ps ∧ s.toList = ps.map Piece.char

theorem byte_eq (b : UInt8) {n : Nat} (same : n = b.toNat) : n.toUInt8 = b := by
  subst same
  exact UInt8.ofNat_toNat

theorem toNat_ofNat {n : Nat} (valid : n < 0xD800 ∨ 0xDFFF < n ∧ n < 0x110000) :
    (Char.ofNat n).toNat = n := by
  rw [Char.ofNat, dif_pos valid]
  rfl

section

variable {b x y z : UInt8}

def IsTail (x : UInt8) : Prop := 0x80 ≤ x.toNat ∧ x.toNat ≤ 0xBF

def IsSecondOfThree (b x : UInt8) : Prop :=
  (if b.toNat = 0xE0 then 0xA0 else 0x80) ≤ x.toNat ∧
    x.toNat ≤ if b.toNat = 0xED then 0x9F else 0xBF

def IsSecondOfFour (b x : UInt8) : Prop :=
  (if b.toNat = 0xF0 then 0x90 else 0x80) ≤ x.toNat ∧
    x.toNat ≤ if b.toNat = 0xF4 then 0x8F else 0xBF

theorem encodeChar_single (ascii : b.toNat < 0x80) :
    encodeChar (Char.ofNat b.toNat) = [b] := by
  simp [encodeChar, toNat_ofNat (Or.inl (show b.toNat < 0xD800 by omega)), ascii]

theorem encodeChar_double (least : 0xC2 ≤ b.toNat) (most : b.toNat < 0xE0) (second : IsTail x) :
    encodeChar (Char.ofNat ((b.toNat - 0xC0) * 64 + (x.toNat - 0x80))) = [b, x] := by
  obtain ⟨low, high⟩ := second
  simp only [encodeChar]
  rw [toNat_ofNat (by omega), if_neg (by omega), if_pos (by omega), byte_eq b (by omega),
    byte_eq x (by omega)]

theorem encodeChar_triple (least : 0xE0 ≤ b.toNat) (most : b.toNat < 0xF0)
    (second : IsSecondOfThree b x) (third : IsTail y) :
    encodeChar (Char.ofNat (((b.toNat - 0xE0) * 64 + (x.toNat - 0x80)) * 64 + (y.toNat - 0x80))) =
      [b, x, y] := by
  unfold IsSecondOfThree at second
  obtain ⟨low, high⟩ := third
  have valid : 0x80 ≤ x.toNat ∧ x.toNat ≤ 0xBF ∧ (b.toNat = 0xE0 → 0xA0 ≤ x.toNat) ∧
      (b.toNat = 0xED → x.toNat ≤ 0x9F) := by
    split_ifs at second <;> omega
  simp only [encodeChar]
  rw [toNat_ofNat (by omega), if_neg (by omega), if_neg (by omega), if_pos (by omega),
    byte_eq b (by omega), byte_eq x (by omega), byte_eq y (by omega)]

theorem encodeChar_quadruple (least : 0xF0 ≤ b.toNat) (most : b.toNat < 0xF5)
    (second : IsSecondOfFour b x) (third : IsTail y) (fourth : IsTail z) :
    encodeChar (Char.ofNat ((((b.toNat - 0xF0) * 64 + (x.toNat - 0x80)) * 64 +
      (y.toNat - 0x80)) * 64 + (z.toNat - 0x80))) = [b, x, y, z] := by
  unfold IsSecondOfFour at second
  obtain ⟨low, high⟩ := third
  obtain ⟨least', most'⟩ := fourth
  have valid : 0x80 ≤ x.toNat ∧ x.toNat ≤ 0xBF ∧ (b.toNat = 0xF0 → 0x90 ≤ x.toNat) ∧
      (b.toNat = 0xF4 → x.toNat ≤ 0x8F) := by
    split_ifs at second <;> omega
  simp only [encodeChar]
  rw [toNat_ofNat (by omega), if_neg (by omega), if_neg (by omega), if_neg (by omega),
    byte_eq b (by omega), byte_eq x (by omega), byte_eq y (by omega), byte_eq z (by omega)]

end

theorem suffix_start (ps : List Piece) (x : UInt8) : ps <:+ (Scan.start ps x).pieces := by
  unfold Scan.start
  split
  · exact List.suffix_cons _ _
  · exact List.suffix_rfl
  · exact List.suffix_cons _ _

theorem suffix_push (s : Scan) (x : UInt8) : s.pieces <:+ (s.push x).pieces := by
  unfold Scan.push
  split
  · exact suffix_start _ _
  · split
    · exact List.suffix_cons _ _
    · exact List.suffix_rfl
    · exact (List.suffix_cons _ _).trans (suffix_start _ _)

theorem suffix_foldl (b : Octets) (s : Scan) : s.pieces <:+ (b.foldl Scan.push s).pieces := by
  induction b generalizing s with
  | nil => exact List.suffix_rfl
  | cons x b ih => exact (suffix_push s x).trans (ih _)

theorem scan_encodeChar (c : Char) : scan (encodeChar c) = ⟨[.scalar c], none⟩ :=
  push_encodeChar [] c

theorem scan_append (a b : Octets) : scan (a ++ b) = b.foldl Scan.push (scan a) :=
  List.foldl_append

theorem scan_snoc (b : Octets) (x : UInt8) : scan (b ++ [x]) = (scan b).push x :=
  scan_append b [x]

theorem notMem_of_begins {b a : Octets} (begins : Begins b) : .broken a ∉ (scan b).pieces := by
  obtain ⟨c, t, whole⟩ := begins
  have grown := suffix_foldl t (scan b)
  rw [← scan_append, whole, scan_encodeChar] at grown
  exact fun mem => by simpa using grown.subset mem

section

variable {p : Begun} {x : UInt8}

theorem next_refused (outside : ¬ (p.low ≤ x.toNat ∧ x.toNat ≤ p.high)) : p.next x = .refused := by
  simp only [Begun.next, if_neg outside]

theorem next_complete (inside : p.low ≤ x.toNat ∧ x.toNat ≤ p.high) (owed : p.owed ≤ 1) :
    p.next x = .complete (Char.ofNat (p.value * 64 + (x.toNat - 0x80))) := by
  simp only [Begun.next, if_pos inside, if_pos owed]

theorem next_begun (inside : p.low ≤ x.toNat ∧ x.toNat ≤ p.high) (owed : ¬ p.owed ≤ 1) :
    p.next x = .begun ⟨x :: p.seen, p.value * 64 + (x.toNat - 0x80), p.owed - 1, 0x80, 0xBF⟩ := by
  simp only [Begun.next, if_pos inside, if_neg owed]

end

inductive Begun.Stage : Begun → Prop
  | double {b : UInt8} (least : 0xC2 ≤ b.toNat) (most : b.toNat < 0xE0) :
    Stage ⟨[b], b.toNat - 0xC0, 1, 0x80, 0xBF⟩
  | triple {b : UInt8} (least : 0xE0 ≤ b.toNat) (most : b.toNat < 0xF0) :
    Stage ⟨[b], b.toNat - 0xE0, 2, if b.toNat = 0xE0 then 0xA0 else 0x80,
      if b.toNat = 0xED then 0x9F else 0xBF⟩
  | tripleLast {b x : UInt8} (least : 0xE0 ≤ b.toNat) (most : b.toNat < 0xF0)
    (second : IsSecondOfThree b x) :
    Stage ⟨[x, b], (b.toNat - 0xE0) * 64 + (x.toNat - 0x80), 1, 0x80, 0xBF⟩
  | quadruple {b : UInt8} (least : 0xF0 ≤ b.toNat) (most : b.toNat < 0xF5) :
    Stage ⟨[b], b.toNat - 0xF0, 3, if b.toNat = 0xF0 then 0x90 else 0x80,
      if b.toNat = 0xF4 then 0x8F else 0xBF⟩
  | quadrupleThird {b x : UInt8} (least : 0xF0 ≤ b.toNat) (most : b.toNat < 0xF5)
    (second : IsSecondOfFour b x) :
    Stage ⟨[x, b], (b.toNat - 0xF0) * 64 + (x.toNat - 0x80), 2, 0x80, 0xBF⟩
  | quadrupleLast {b x y : UInt8} (least : 0xF0 ≤ b.toNat) (most : b.toNat < 0xF5)
    (second : IsSecondOfFour b x) (third : IsTail y) :
    Stage ⟨[y, x, b], ((b.toNat - 0xF0) * 64 + (x.toNat - 0x80)) * 64 + (y.toNat - 0x80), 1,
      0x80, 0xBF⟩

structure Begun.IsSpelled (b : Octets) (p : Begun) : Prop where
  stage : p.Stage
  seen : p.seen.reverse = b
  reached : scan b = ⟨[], some p⟩

def Reading.Fits (b : Octets) : Reading → Prop
  | .complete c => encodeChar c = b
  | .begun p => p.IsSpelled b
  | .refused => ¬ Begins b

theorem first_refused {x : UInt8} (refused : Reading.first x = .refused) : ¬ Begins [x] := by
  intro begins
  refine notMem_of_begins (a := [x]) begins ?_
  simp [scan, Scan.push, Scan.start, refused]

theorem first_spelled {x : UInt8} {p : Begun} (begun : Reading.first x = .begun p)
    (stage : p.Stage) (seen : p.seen = [x]) : p.IsSpelled [x] :=
  ⟨stage, by simp [seen], push_first begun⟩

theorem first_fits (x : UInt8) : (Reading.first x).Fits [x] := by
  by_cases single : x.toNat < 0x80
  · rw [first_single single]
    exact encodeChar_single single
  by_cases stray : x.toNat < 0xC2 ∨ 0xF5 ≤ x.toNat
  · have refused : Reading.first x = .refused := by
      simp only [Reading.first]
      split_ifs <;> first | rfl | omega
    rw [refused]
    exact first_refused refused
  by_cases double : x.toNat < 0xE0
  · have begun := first_double (b := x) (by omega) double
    rw [begun]
    exact first_spelled begun (.double (by omega) double) rfl
  by_cases triple : x.toNat < 0xF0
  · have begun := first_triple (b := x) (by omega) triple
    rw [begun]
    exact first_spelled begun (.triple (by omega) triple) rfl
  · have begun := first_quadruple (b := x) (by omega) (by omega)
    rw [begun]
    exact first_spelled begun (.quadruple (by omega) (by omega)) rfl

section

variable {b : Octets} {p : Begun}

theorem Begun.IsSpelled.refuses (spelled : p.IsSpelled b) {x : UInt8}
    (refused : p.next x = .refused) : ¬ Begins (b ++ [x]) := by
  intro begins
  refine notMem_of_begins (a := p.seen.reverse) begins ?_
  rw [scan_snoc, spelled.reached]
  simp only [Scan.push, refused]
  exact (suffix_start _ x).subset (by simp)

theorem Begun.IsSpelled.goesOn (spelled : p.IsSpelled b) {x : UInt8}
    (inside : p.low ≤ x.toNat ∧ x.toNat ≤ p.high) (owed : ¬ p.owed ≤ 1)
    (stage : Stage ⟨x :: p.seen, p.value * 64 + (x.toNat - 0x80), p.owed - 1, 0x80, 0xBF⟩) :
    (p.next x).Fits (b ++ [x]) := by
  have begun := next_begun inside owed
  rw [begun]
  refine ⟨stage, by simp [spelled.seen], ?_⟩
  rw [scan_snoc, spelled.reached]
  simp [Scan.push, begun]

theorem Begun.IsSpelled.next_fits (spelled : p.IsSpelled b) (x : UInt8) :
    (p.next x).Fits (b ++ [x]) := by
  by_cases inside : p.low ≤ x.toNat ∧ x.toNat ≤ p.high
  · have whole := spelled.seen
    have stage := spelled.stage
    cases stage with
    | double least most =>
      rw [next_complete inside (by simp), ← whole]
      exact encodeChar_double least most inside
    | triple least most => exact spelled.goesOn inside (by simp) (.tripleLast least most inside)
    | tripleLast least most second =>
      rw [next_complete inside (by simp), ← whole]
      exact encodeChar_triple least most second inside
    | quadruple least most =>
      exact spelled.goesOn inside (by simp) (.quadrupleThird least most inside)
    | quadrupleThird least most second =>
      exact spelled.goesOn inside (by simp) (.quadrupleLast least most second inside)
    | quadrupleLast least most second third =>
      rw [next_complete inside (by simp), ← whole]
      exact encodeChar_quadruple least most second third inside
  · have refused := next_refused inside
    rw [refused]
    exact spelled.refuses refused

theorem Begun.Stage.low_inside (stage : p.Stage) : p.low ≤ p.high ∧ p.low < 256 := by
  cases stage
  all_goals
    dsimp only
    repeat' split
  all_goals omega

theorem Begun.IsSpelled.begins (spelled : p.IsSpelled b) : Begins b := by
  induction owed : p.owed using Nat.strongRecOn generalizing b p with
  | _ n ih =>
    obtain ⟨low, byte⟩ := spelled.stage.low_inside
    have value : p.low.toUInt8.toNat = p.low := by
      rw [toNat_byte, Nat.mod_eq_of_lt byte]
    have inside : p.low ≤ p.low.toUInt8.toNat ∧ p.low.toUInt8.toNat ≤ p.high := by omega
    have fits := spelled.next_fits p.low.toUInt8
    have grown : b <+: b ++ [p.low.toUInt8] := List.prefix_append _ _
    by_cases last : p.owed ≤ 1
    · rw [next_complete inside last] at fits
      exact ⟨_, fits.symm ▸ grown⟩
    · rw [next_begun inside last] at fits
      obtain ⟨c, begins⟩ := ih (p.owed - 1) (by omega) fits rfl
      exact ⟨c, grown.trans begins⟩

theorem Begun.IsSpelled.isBroken (spelled : p.IsSpelled b) {rest : Octets}
    (longest : ∀ x ∈ rest.head?, ¬ Begins (b ++ [x])) : IsBroken b rest := by
  have reached := spelled.reached
  refine .begun ?_ spelled.begins (fun c whole => ?_) longest
  · rintro rfl
    simp [scan] at reached
  · rw [← whole, scan_encodeChar] at reached
    simp at reached

end

inductive Scan.Stands (ps : List Piece) : Octets → Scan → Prop
  | idle : Stands ps [] ⟨ps, none⟩
  | begun {b : Octets} {p : Begun} (spelled : p.IsSpelled b) : Stands ps b ⟨ps, some p⟩

def Scan.Leaves (ps : List Piece) (b rest : Octets) (s : Scan) : Prop :=
  ∃ qs, (rest.foldl Scan.push s).finish = ps.reverse ++ qs ∧ Cut (b ++ rest) qs

section

variable {ps : List Piece} {rest : Octets}

theorem Scan.Leaves.scalar {c : Char} {s : Scan} (leaves : s.Leaves (.scalar c :: ps) [] rest) :
    s.Leaves ps (encodeChar c) rest := by
  obtain ⟨qs, found, cut⟩ := leaves
  exact ⟨.scalar c :: qs, by simpa using found, .scalar c cut⟩

theorem Scan.Leaves.broken {b : Octets} {s : Scan} (here : IsBroken b rest)
    (leaves : s.Leaves (.broken b :: ps) [] rest) : s.Leaves ps b rest := by
  obtain ⟨qs, found, cut⟩ := leaves
  exact ⟨.broken b :: qs, by simpa using found, .broken here cut⟩

theorem start_leaves (ih : ∀ ps b s, Scan.Stands ps b s → s.Leaves ps b rest) (ps : List Piece)
    (x : UInt8) : (Scan.start ps x).Leaves ps [x] rest := by
  have fits := first_fits x
  cases reading : Reading.first x with
  | complete c =>
    rw [reading] at fits
    simp only [Scan.start, reading, ← show encodeChar c = [x] from fits]
    exact (ih _ _ _ .idle).scalar
  | begun p =>
    rw [reading] at fits
    simp only [Scan.start, reading]
    exact ih _ _ _ (.begun fits)
  | refused =>
    rw [reading] at fits
    simp only [Scan.start, reading]
    exact (ih _ _ _ .idle).broken (.stray fits)

end

theorem stands_leaves (rest : Octets) (ps : List Piece) (b : Octets) (s : Scan)
    (stands : s.Stands ps b) : s.Leaves ps b rest := by
  induction rest generalizing ps b s with
  | nil =>
    cases stands with
    | idle => exact ⟨[], by simp [Scan.finish], .nil⟩
    | begun spelled =>
      exact ⟨[.broken b], by simp [Scan.finish, spelled.seen],
        .broken (spelled.isBroken (by simp)) .nil⟩
  | cons x rest ih =>
    have onwards (s : Scan) : s.Leaves ps b (x :: rest) ↔ (s.push x).Leaves ps (b ++ [x]) rest := by
      simp [Scan.Leaves]
    rw [onwards]
    cases stands with
    | idle => exact start_leaves ih ps x
    | @begun b p spelled =>
      have fits := spelled.next_fits x
      cases reading : p.next x with
      | complete c =>
        rw [reading] at fits
        simp only [Scan.push, reading, ← show encodeChar c = b ++ [x] from fits]
        exact (ih _ _ _ .idle).scalar
      | begun p' =>
        rw [reading] at fits
        simp only [Scan.push, reading]
        exact ih _ _ _ (.begun fits)
      | refused =>
        rw [reading] at fits
        have unbegun : ¬ Begins (b ++ [x]) := fits
        simp only [Scan.push, reading, spelled.seen]
        obtain ⟨qs, found, cut⟩ := start_leaves ih (.broken b :: ps) x
        refine ⟨.broken b :: qs, by simpa using found, ?_⟩
        rw [List.append_assoc]
        exact .broken (spelled.isBroken (by simpa using unbegun)) cut

theorem cut_scan (b : Octets) : Cut b (scan b).finish := by
  obtain ⟨qs, found, cut⟩ := stands_leaves b [] [] {} .idle
  rw [scan, found]
  exact cut

theorem Begins.shorten {a b : Octets} (begins : Begins b) (shorter : a <+: b) : Begins a := by
  obtain ⟨c, whole⟩ := begins
  exact ⟨c, shorter.trans whole⟩

theorem char_eq_of_within {c d : Char} (begins : encodeChar c <+: encodeChar d) : c = d := by
  obtain ⟨t, whole⟩ := begins
  have grown := suffix_foldl t (scan (encodeChar c))
  rw [← scan_append, whole, scan_encodeChar, scan_encodeChar] at grown
  simpa using grown.subset (List.mem_singleton_self _)

theorem IsBroken.ne_nil {b rest : Octets} (here : IsBroken b rest) : b ≠ [] := by
  cases here with
  | stray => exact List.cons_ne_nil _ _
  | begun some => exact some

theorem IsBroken.covers {a b rest : Octets} (here : IsBroken b rest) (begins : Begins a)
    (reads : a <+: b ++ rest) : a <+: b := by
  rcases List.prefix_or_prefix_of_prefix reads (List.prefix_append b rest) with within | ⟨t, rfl⟩
  · exact within
  · cases t with
    | nil => simp
    | cons x t =>
      exfalso
      cases here with
      | stray unbegun => exact unbegun (begins.shorten (by simp))
      | begun _ _ _ longest =>
        obtain ⟨more, rfl⟩ := (List.prefix_append_right_inj b).mp reads
        exact longest x (by simp) (begins.shorten (by simp))

theorem IsBroken.unspelled {b rest : Octets} (here : IsBroken b rest) (c : Char) :
    ¬ encodeChar c <+: b ++ rest := by
  intro reads
  have within := here.covers ⟨c, List.prefix_rfl⟩ reads
  have whole : encodeChar c = b := by
    cases here with
    | stray => exact within.eq_of_length_le (List.length_pos_iff.mpr (encodeChar_ne_nil c))
    | begun _ begins =>
      obtain ⟨d, begins⟩ := begins
      obtain rfl := char_eq_of_within (within.trans begins)
      exact within.eq_of_length_le begins.length_le
  cases here with
  | stray unbegun => exact unbegun ⟨c, whole ▸ List.prefix_rfl⟩
  | begun _ _ unfinished => exact unfinished c whole

theorem IsBroken.eq {a b rest more : Octets} (here : IsBroken a rest) (there : IsBroken b more)
    (same : a ++ rest = b ++ more) : a = b := by
  cases here with
  | @stray x _ unbegun =>
    obtain ⟨y, b, rfl⟩ := List.exists_cons_of_ne_nil there.ne_nil
    obtain rfl : x = y := (List.cons.inj same).1
    cases there with
    | stray => rfl
    | begun _ begins => exact absurd (begins.shorten (by simp)) unbegun
  | begun some begins =>
    have within := there.covers begins (same ▸ List.prefix_append a rest)
    cases there with
    | stray => exact within.eq_of_length_le (List.length_pos_iff.mpr some)
    | begun _ begins' =>
      have around := (IsBroken.begun some begins ‹_› ‹_›).covers begins'
        (same ▸ List.prefix_append b more)
      exact within.eq_of_length_le around.length_le

theorem Cut.unique {b : Octets} {ps qs : List Piece} (cut : Cut b ps) (other : Cut b qs) :
    ps = qs := by
  induction cut generalizing qs with
  | nil =>
    generalize same : ([] : Octets) = b at other
    cases other with
    | nil => rfl
    | scalar c => simp [encodeChar_ne_nil] at same
    | broken here => simp [here.ne_nil] at same
  | @scalar c rest ps more ih =>
    generalize same : encodeChar c ++ rest = b at other
    cases other with
    | nil => simp [encodeChar_ne_nil] at same
    | @scalar d rest' _ more' =>
      have reads : encodeChar d <+: encodeChar c ++ rest := same ▸ List.prefix_append _ _
      obtain rfl : c = d :=
        (List.prefix_or_prefix_of_prefix (List.prefix_append _ _) reads).elim char_eq_of_within
          fun begins => (char_eq_of_within begins).symm
      rw [ih (List.append_cancel_left same ▸ more')]
    | broken here => exact absurd (same ▸ List.prefix_append _ _) (here.unspelled c)
  | @broken a rest ps here more ih =>
    generalize same : a ++ rest = b at other
    cases other with
    | nil => simp [here.ne_nil] at same
    | scalar c => exact absurd (same ▸ List.prefix_append _ _) (here.unspelled c)
    | broken there more' =>
      obtain rfl := here.eq there same
      rw [ih (List.append_cancel_left same ▸ more')]

theorem isLossy_iff {b : Octets} {s : String} : IsLossy b s ↔ s = decodeLossy b := by
  constructor
  · rintro ⟨ps, cut, same⟩
    rw [cut.unique (cut_scan b)] at same
    rw [decodeLossy, ← same, String.ofList_toList]
  · rintro rfl
    exact ⟨_, cut_scan b, by simp [decodeLossy]⟩

theorem Cut.of_scalars {b : Octets} {cs : List Char} (cut : Cut b (cs.map .scalar)) :
    cs.flatMap encodeChar = b := by
  induction cs generalizing b with
  | nil =>
    cases cut
    rfl
  | cons c cs ih =>
    obtain _ | ⟨_, more⟩ := cut
    rw [List.flatMap_cons, ih more]

theorem scalars_of_firstBroken {n : Nat} {ps : List Piece} (unbroken : firstBroken n ps = none) :
    ps = (ps.map Piece.char).map .scalar := by
  induction ps generalizing n with
  | nil => rfl
  | cons p ps ih =>
    cases p with
    | scalar c => simpa [Piece.char] using ih unbroken
    | broken => simp [firstBroken] at unbroken

theorem decode_eq_ok_iff {b : Octets} {s : String} : decode b = .ok s ↔ encode s = b := by
  constructor
  · intro read
    simp only [decode] at read
    split at read
    · cases read
    · cases read
    · rename_i unbroken idle
      have cut := cut_scan b
      simp only [Scan.finish, idle] at cut
      rw [scalars_of_firstBroken unbroken] at cut
      obtain rfl := Except.ok.inj read
      simpa using cut.of_scalars
  · rintro rfl
    exact decode_encode s

end Duplex.Utf8

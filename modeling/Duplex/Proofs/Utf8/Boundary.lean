import Duplex.Utf8

/-!
Where a text can be cut. The boundaries among its bytes are the ends of its beginnings, so looking
downwards from any position finds one, zero at the latest; and cutting there leaves the longest
beginning that fits.
-/

namespace Duplex.Utf8

/-- The longest beginning of a text that has at most `limit` bytes. -/
structure IsLongest (limit : Nat) (s t : String) : Prop where
  begins : t.toList <+: s.toList
  fits : (encode t).length ≤ limit
  longest : ∀ u : String, u.toList <+: s.toList → (encode u).length ≤ limit → u.toList <+: t.toList

@[simp] theorem encode_ofList (cs : List Char) :
    encode (String.ofList cs) = cs.flatMap encodeChar := by
  simp [encode]

theorem toNat_valid (c : Char) : c.toNat < 0xD800 ∨ 0xDFFF < c.toNat ∧ c.toNat < 0x110000 := by
  simpa [UInt32.isValidChar, Nat.isValidChar] using c.valid

@[simp] theorem toNat_byte (n : Nat) : n.toUInt8.toNat = n % 256 := UInt8.toNat_ofNat'

theorem encodeChar_eq (c : Char) : ∃ x rest, encodeChar c = x :: rest ∧
    isContinuation x = false ∧ ∀ y ∈ rest, isContinuation y = true := by
  have valid := toNat_valid c
  unfold encodeChar
  dsimp only
  repeat' split
  all_goals
    refine ⟨_, _, rfl, ?_, ?_⟩ <;> simp [isContinuation, -Nat.toUInt8_eq] <;> omega

theorem encodeChar_ne_nil (c : Char) : encodeChar c ≠ [] := by
  obtain ⟨x, rest, same, -⟩ := encodeChar_eq c
  simp [same]

theorem length_encodeChar_le (c : Char) : (encodeChar c).length ≤ 4 := by
  unfold encodeChar
  dsimp only
  repeat' split
  all_goals simp

section

variable {limit : Nat} {s t : String}

theorem IsLongest.eq_self (cut : IsLongest limit s t) (short : (encode s).length ≤ limit) :
    t = s :=
  String.toList_injective
    (cut.begins.eq_of_length_le (cut.longest s List.prefix_rfl short).length_le)

theorem IsLongest.ne_empty (cut : IsLongest limit s t) (room : 4 ≤ limit) (said : s ≠ "") :
    t ≠ "" := by
  obtain ⟨c, cs, same⟩ := List.exists_cons_of_ne_nil (mt String.toList_eq_nil_iff.mp said)
  have first : [c] <+: t.toList := by
    simpa using cut.longest (String.ofList [c]) (by simp [same])
      (by simpa [encode] using Nat.le_trans (length_encodeChar_le c) room)
  rintro rfl
  simp at first

end

theorem isBoundary_within {c : Char} {n : Nat} (past : 0 < n) (within : n < (encodeChar c).length)
    (b : Octets) : isBoundary (encodeChar c ++ b) n = false := by
  obtain ⟨x, rest, same, -, continued⟩ := encodeChar_eq c
  obtain ⟨n, rfl⟩ : ∃ k, n = k + 1 := ⟨n - 1, by omega⟩
  rw [same, List.length_cons] at within
  have short : n < rest.length := by omega
  simp [isBoundary, same, List.getElem?_append_left short, List.getElem?_eq_getElem short,
    continued _ (List.getElem_mem short)]

theorem isBoundary_append (a : Octets) (cs : List Char) (n : Nat) :
    isBoundary (a ++ cs.flatMap encodeChar) (a.length + n) =
      isBoundary (cs.flatMap encodeChar) n := by
  cases n with
  | succ n => simp [isBoundary, List.getElem?_append_right]
  | zero =>
    cases cs with
    | nil => simp [isBoundary]
    | cons c cs =>
      obtain ⟨x, rest, same, leading, -⟩ := encodeChar_eq c
      simp [isBoundary, same, leading]

theorem isBoundary_iff (cs : List Char) (n : Nat) : isBoundary (cs.flatMap encodeChar) n ↔
    ∃ ds, ds <+: cs ∧ (ds.flatMap encodeChar).length = n := by
  induction cs generalizing n with
  | nil => cases n <;> simp [isBoundary]
  | cons c cs ih =>
    rw [List.flatMap_cons]
    constructor
    · intro boundary
      by_cases start : n = 0
      · exact ⟨[], List.nil_prefix, by simp [start]⟩
      by_cases within : n < (encodeChar c).length
      · simp [isBoundary_within (by omega) within] at boundary
      · obtain ⟨k, rfl⟩ := Nat.exists_eq_add_of_le (Nat.le_of_not_lt within)
        rw [isBoundary_append] at boundary
        obtain ⟨ds, begins, rfl⟩ := (ih k).mp boundary
        exact ⟨c :: ds, by simpa using begins, by simp⟩
    · rintro ⟨ds, begins, rfl⟩
      cases ds with
      | nil => rfl
      | cons d ds =>
        obtain ⟨rfl, later⟩ := List.cons_prefix_cons.mp begins
        rw [List.flatMap_cons, List.length_append, isBoundary_append]
        exact (ih _).mpr ⟨ds, later, rfl⟩

theorem descend_of_boundary {b : Octets} {n : Nat} (boundary : isBoundary b n) :
    descend b n = some n := by
  unfold descend
  simp [boundary]

theorem descend_of_not {b : Octets} {n : Nat} (other : isBoundary b (n + 1) = false) :
    descend b (n + 1) = descend b n := by
  conv => lhs; unfold descend
  simp [other]

theorem descend_spec (b : Octets) (limit : Nat) : ∃ n, descend b limit = some n ∧ n ≤ limit ∧
    isBoundary b n ∧ ∀ k ≤ limit, isBoundary b k → k ≤ n := by
  induction limit with
  | zero => exact ⟨0, descend_of_boundary rfl, Nat.le_refl 0, rfl, fun _ within _ => within⟩
  | succ limit ih =>
    cases here : isBoundary b (limit + 1) with
    | true =>
      exact ⟨limit + 1, descend_of_boundary here, Nat.le_refl _, here, fun _ within _ => within⟩
    | false =>
      obtain ⟨n, found, below, boundary, last⟩ := ih
      refine ⟨n, (descend_of_not here).trans found, by omega, boundary, fun k within bounds => ?_⟩
      refine last k (Nat.le_of_lt_succ (Nat.lt_of_le_of_ne within ?_)) bounds
      rintro rfl
      simp [here] at bounds

theorem beginning?_of_prefix {cs ds : List Char} (begins : ds <+: cs) :
    beginning? (ds.flatMap encodeChar).length cs = some ds := by
  induction ds generalizing cs with
  | nil => simp [beginning?]
  | cons d ds ih =>
    obtain ⟨cs, rfl⟩ := begins
    have size : 0 < (encodeChar d).length := List.length_pos_iff.mpr (encodeChar_ne_nil d)
    have later := ih (List.prefix_append ds cs)
    rw [List.flatMap_cons, List.length_append, List.cons_append]
    obtain ⟨n, whole⟩ := Nat.exists_eq_succ_of_ne_zero
      (Nat.ne_of_gt (Nat.add_pos_left size (ds.flatMap encodeChar).length))
    have room : (encodeChar d).length ≤ n + 1 := by omega
    have rest : n + 1 - (encodeChar d).length = (ds.flatMap encodeChar).length := by omega
    rw [whole, beginning?]
    simp only [room, if_true, rest, later, Option.map_some]

theorem slice?_of_boundary {s : String} {n : Nat} (boundary : isBoundary (encode s) n) :
    ∃ t, slice? s n = some t ∧ t.toList <+: s.toList ∧ (encode t).length = n := by
  obtain ⟨ds, begins, rfl⟩ := (isBoundary_iff s.toList n).mp boundary
  refine ⟨String.ofList ds, ?_, by simpa using begins, by simp⟩
  rw [slice?, beginning?_of_prefix begins, Option.map_some]

theorem prefix_of_length_le {cs ds es : List Char} (begins : ds <+: cs) (other : es <+: cs)
    (shorter : (es.flatMap encodeChar).length ≤ (ds.flatMap encodeChar).length) : es <+: ds := by
  rcases List.prefix_or_prefix_of_prefix other begins with within | ⟨more, rfl⟩
  · exact within
  · have nothing : more.flatMap encodeChar = [] := by
      rw [List.flatMap_append, List.length_append] at shorter
      exact List.length_eq_zero_iff.mp (by omega)
    have empty : more = [] := by
      cases more with
      | nil => rfl
      | cons c more => simp [encodeChar_ne_nil] at nothing
    simp [empty]

theorem slice?_descend (s : String) (limit : Nat) : ∃ n, descend (encode s) limit = some n ∧
    n ≤ limit ∧ isBoundary (encode s) n ∧ (∀ k ≤ limit, isBoundary (encode s) k → k ≤ n) ∧
    ∃ t, slice? s n = some t ∧ IsLongest limit s t := by
  obtain ⟨n, found, below, boundary, last⟩ := descend_spec (encode s) limit
  obtain ⟨t, cut, begins, length⟩ := slice?_of_boundary boundary
  refine ⟨n, found, below, boundary, last, t, cut, begins, length ▸ below, fun u first room => ?_⟩
  have bounds : isBoundary (encode s) (encode u).length :=
    (isBoundary_iff _ _).mpr ⟨u.toList, first, rfl⟩
  exact prefix_of_length_le begins first (length ▸ last _ room bounds)

theorem truncate_isLongest (limit : Nat) (s : String) : IsLongest limit s (truncate limit s) := by
  unfold truncate
  dsimp only
  split
  · rename_i short
    exact ⟨List.prefix_rfl, short, fun _ begins _ => begins⟩
  · obtain ⟨n, found, -, -, -, t, cut, longest⟩ := slice?_descend s limit
    simpa [found, cut] using longest

end Duplex.Utf8

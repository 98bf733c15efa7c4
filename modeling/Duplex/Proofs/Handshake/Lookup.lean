import Mathlib.Data.List.Forall2
import Mathlib.Data.List.Nodup
import Duplex.Handshake

/-!
Finding a header. Under a name stands the value that was put there last, each name stands in one
place only, and two names are looked up alike exactly if they differ in nothing but the case of
ASCII letters.
-/

namespace Duplex

namespace Headers

def names (h : Headers) : List String := h.entries.map Prod.fst

def IsProper (h : Headers) : Prop := h.names.Nodup

section

variable {l : List (String × String)} {name value n v : String}

theorem find?_replace : (replace l name value).find? (fun e => e.1 = n) =
    if name = n then some (name, value) else l.find? (fun e => e.1 = n) := by
  induction l with
  | nil => by_cases same : name = n <;> simp [replace, same]
  | cons e l ih =>
    obtain ⟨m, w⟩ := e
    by_cases here : m = name
    · subst here
      by_cases same : m = n <;> simp [replace, same]
    · rw [replace, if_neg here, List.find?_cons, List.find?_cons]
      by_cases same : m = n
      · have other : ¬ name = n := fun eq => here (same.trans eq.symm)
        simp [same, other]
      · simp [same, ih]

theorem map_fst_replace : (replace l name value).map Prod.fst =
    if name ∈ l.map Prod.fst then l.map Prod.fst else l.map Prod.fst ++ [name] := by
  induction l with
  | nil => simp [replace]
  | cons e l ih =>
    obtain ⟨m, w⟩ := e
    by_cases here : m = name
    · simp [replace, here]
    · rw [replace, if_neg here, List.map_cons, ih, List.map_cons]
      by_cases later : name ∈ l.map Prod.fst
      · rw [if_pos later, if_pos (List.mem_cons_of_mem _ later)]
      · have absent : name ∉ m :: l.map Prod.fst := by simp [Ne.symm here, later]
        rw [if_neg later, if_neg absent]
        rfl

theorem replace_of_notMem (absent : name ∉ l.map Prod.fst) :
    replace l name value = l ++ [(name, value)] := by
  induction l with
  | nil => rfl
  | cons e l ih =>
    obtain ⟨m, w⟩ := e
    rw [List.map_cons, List.mem_cons, not_or] at absent
    rw [replace, if_neg (Ne.symm absent.1), ih absent.2, List.cons_append]

theorem nodup_replace (proper : (l.map Prod.fst).Nodup) :
    ((replace l name value).map Prod.fst).Nodup := by
  rw [map_fst_replace]
  split
  · exact proper
  · rename_i absent
    exact List.nodup_append.mpr ⟨proper, List.nodup_singleton name, by grind⟩

end

section

variable {h : Headers} {name value n v : String}

theorem get?_put : (h.put name value).get? n = if name = n then some value else h.get? n := by
  rw [get?, put, find?_replace]
  split <;> rfl

theorem mem_names_put : n ∈ (h.put name value).names ↔ n = name ∨ n ∈ h.names := by
  rw [names, put, map_fst_replace]
  split
  · rename_i present
    exact ⟨.inr, fun mem => mem.elim (fun same => same ▸ present) id⟩
  · rw [List.mem_append, List.mem_singleton, or_comm]
    exact Iff.rfl

theorem isSome_get?_iff : (h.get? n).isSome ↔ n ∈ h.names := by
  simp [get?, names, List.find?_isSome]

theorem IsProper.put (proper : h.IsProper) : (h.put name value).IsProper := nodup_replace proper

theorem IsProper.get?_eq_some_iff (proper : h.IsProper) :
    h.get? n = some v ↔ (n, v) ∈ h.entries := by
  constructor
  · intro found
    obtain ⟨⟨m, w⟩, first, rfl⟩ := Option.map_eq_some_iff.mp found
    have same : m = n := by simpa using List.find?_some first
    exact same ▸ List.mem_of_find?_eq_some first
  · intro mem
    have found : (h.entries.find? fun e => e.1 = n).isSome := by
      rw [List.find?_isSome]
      exact ⟨_, mem, by simp⟩
    obtain ⟨⟨m, w⟩, first⟩ := Option.isSome_iff_exists.mp found
    have same : m = n := by simpa using List.find?_some first
    subst same
    have equal : (m, w) = (m, v) :=
      List.inj_on_of_nodup_map proper (List.mem_of_find?_eq_some first) mem rfl
    rw [get?, first, Option.map_some, (Prod.mk.inj equal).2]

end

theorem entries_foldl_put (l : List (String × String)) (h : Headers)
    (apart : (h.names ++ l.map Prod.fst).Nodup) :
    (l.foldl (fun m e => m.put e.1 e.2) h).entries = h.entries ++ l := by
  induction l generalizing h with
  | nil => simp
  | cons e l ih =>
    have absent : e.1 ∉ h.entries.map Prod.fst := by
      have separate := (List.nodup_append.mp apart).2.2
      exact fun mem => separate _ mem _ (by simp) rfl
    have entries : (h.put e.1 e.2).entries = h.entries ++ [e] := replace_of_notMem absent
    rw [List.foldl_cons, ih, entries, List.append_assoc, List.singleton_append]
    simpa [names, entries] using apart

section

variable {a b : Headers}

theorem IsProper.of_perm (proper : a.IsProper) (perm : b.entries.Perm a.entries) : b.IsProper :=
  ((perm.map Prod.fst).nodup_iff).mpr proper

theorem IsProper.get?_of_perm (proper : a.IsProper) (perm : b.entries.Perm a.entries) (n : String) :
    b.get? n = a.get? n := by
  ext v
  rw [(proper.of_perm perm).get?_eq_some_iff, proper.get?_eq_some_iff, perm.mem_iff]

theorem same_of_perm (perm : b.entries.Perm a.entries) : a.same b := by
  simp only [same, Bool.and_eq_true, decide_eq_true_eq, List.all_eq_true, List.contains_iff_mem]
  exact ⟨perm.length_eq.symm, fun _ mem => perm.mem_iff.mpr mem⟩

end

end Headers

namespace Handshake

def SameLetter (c d : Char) : Prop :=
  c = d ∨ c.isUpper ∧ d.toNat = c.toNat + 32 ∨ d.isUpper ∧ c.toNat = d.toNat + 32

/-- Names that differ in nothing but the case of ASCII letters. -/
def IsSpelling (a b : String) : Prop := List.Forall₂ SameLetter a.toList b.toList

def IsLowered (name : String) : Prop := ∀ c ∈ name.toList, ¬ c.isUpper

theorem isUpper_iff {c : Char} : c.isUpper ↔ 65 ≤ c.toNat ∧ c.toNat ≤ 90 := by
  unfold Char.isUpper
  simp [UInt32.le_iff_toNat_le]

theorem toNat_toLower (c : Char) :
    c.toLower.toNat = if c.isUpper then c.toNat + 32 else c.toNat := by
  unfold Char.toLower
  split
  · rename_i upper
    have isUpper : c.isUpper := decide_eq_true upper
    have bounds := isUpper_iff.mp isUpper
    rw [if_pos isUpper]
    change (c.val + 32).toNat = c.val.toNat + 32
    rw [UInt32.toNat_add, Nat.mod_eq_of_lt]
    · rfl
    · change c.toNat + 32 < 2 ^ 32
      omega
  · rename_i other
    have notUpper : ¬ c.isUpper := fun upper => other (of_decide_eq_true upper)
    rw [if_neg notUpper]

theorem toLower_eq_iff {c d : Char} : c.toLower = d.toLower ↔ SameLetter c d := by
  rw [← Char.toNat_inj, toNat_toLower, toNat_toLower, SameLetter, ← Char.toNat_inj]
  simp only [isUpper_iff]
  split <;> split <;> omega

theorem isUpper_toLower (c : Char) : ¬ c.toLower.isUpper := by
  rw [isUpper_iff, toNat_toLower]
  simp only [isUpper_iff]
  split <;> omega

theorem toList_lowerCase (s : String) : (lowerCase s).toList = s.toList.map Char.toLower := by
  simp [lowerCase]

theorem lowerCase_eq_iff {a b : String} : lowerCase a = lowerCase b ↔ IsSpelling a b := by
  rw [← String.toList_inj, toList_lowerCase, toList_lowerCase, IsSpelling,
    ← List.forall₂_eq_eq_eq, List.forall₂_map_left_iff, List.forall₂_map_right_iff]
  simp only [toLower_eq_iff]

instance (c d : Char) : Decidable (SameLetter c d) := inferInstanceAs (Decidable (_ ∨ _ ∨ _))

instance (a b : String) : Decidable (IsSpelling a b) :=
  inferInstanceAs (Decidable (List.Forall₂ SameLetter a.toList b.toList))

instance (name : String) : Decidable (IsLowered name) :=
  List.decidableBAll (fun c : Char => ¬ c.isUpper = true) name.toList

theorem isLowered_lowerCase (name : String) : IsLowered (lowerCase name) := by
  intro c mem
  rw [toList_lowerCase, List.mem_map] at mem
  obtain ⟨d, -, rfl⟩ := mem
  exact isUpper_toLower d

theorem lowerCase_eq_self_iff {name : String} : lowerCase name = name ↔ IsLowered name := by
  constructor
  · intro same
    rw [← same]
    exact isLowered_lowerCase name
  · intro lowered
    rw [← String.toList_inj, toList_lowerCase]
    refine List.map_congr_left (fun c mem => ?_) |>.trans (List.map_id _)
    rw [id_eq, ← Char.toNat_inj, toNat_toLower, if_neg (lowered c mem)]

theorem countP_isSpelling {h : Headers} (proper : h.IsProper)
    (lowered : ∀ n ∈ h.names, IsLowered n) (q : String) :
    h.entries.countP (fun e => IsSpelling e.1 q) =
      if (h.get? (lowerCase q)).isSome then 1 else 0 := by
  have spelled (n : String) (mem : n ∈ h.names) :
      decide (IsSpelling n q) = true ↔ (n == lowerCase q) = true := by
    rw [decide_eq_true_iff, ← lowerCase_eq_iff, lowerCase_eq_self_iff.mpr (lowered n mem),
      beq_iff_eq]
  calc h.entries.countP (fun e => IsSpelling e.1 q)
      = h.names.countP (fun n => IsSpelling n q) := by
        rw [Headers.names, List.countP_map]
        rfl
    _ = h.names.count (lowerCase q) := List.countP_congr spelled
    _ = if (h.get? (lowerCase q)).isSome then 1 else 0 := by
        rw [proper.count]
        simp only [Headers.isSome_get?_iff]

end Handshake
end Duplex

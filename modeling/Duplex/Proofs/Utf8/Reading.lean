import Duplex.Proofs.Utf8.Boundary
import Mathlib.Tactic.SplitIfs

/-!
Text that was written is read back as it was: scanning the bytes of a character adds that character
to the pieces and leaves nothing begun.
-/

namespace Duplex.Utf8

section

variable {b : UInt8} {p : Begun}

theorem first_single (ascii : b.toNat < 0x80) :
    Reading.first b = .complete (Char.ofNat b.toNat) := by
  simp [Reading.first, ascii]

theorem first_double (least : 0xC2 ≤ b.toNat) (most : b.toNat < 0xE0) :
    Reading.first b = .begun ⟨[b], b.toNat - 0xC0, 1, 0x80, 0xBF⟩ := by
  simp only [Reading.first]
  rw [if_neg (by omega), if_neg (by omega), if_pos most]

theorem first_triple (least : 0xE0 ≤ b.toNat) (most : b.toNat < 0xF0) :
    Reading.first b = .begun ⟨[b], b.toNat - 0xE0, 2, if b.toNat = 0xE0 then 0xA0 else 0x80,
      if b.toNat = 0xED then 0x9F else 0xBF⟩ := by
  simp only [Reading.first]
  rw [if_neg (by omega), if_neg (by omega), if_neg (by omega)]
  split
  · simp [*]
  · split
    · simp [*]
    · simp [*]

theorem first_quadruple (least : 0xF0 ≤ b.toNat) (most : b.toNat < 0xF5) :
    Reading.first b = .begun ⟨[b], b.toNat - 0xF0, 3, if b.toNat = 0xF0 then 0x90 else 0x80,
      if b.toNat = 0xF4 then 0x8F else 0xBF⟩ := by
  simp only [Reading.first]
  rw [if_neg (by omega), if_neg (by omega), if_neg (by omega), if_neg (by omega), if_neg (by omega),
    if_neg (by omega)]
  split
  · simp [*]
  · split
    · simp [*]
      omega
    · have last : b.toNat = 0xF4 := by omega
      simp [last]

end

section

variable {ps : List Piece} {p : Begun} {k : Nat}

def tail (k : Nat) : UInt8 := (0x80 + k).toUInt8

theorem next_tail (small : k < 64) (low : p.low ≤ 0x80 + k) (high : 0x80 + k ≤ p.high) :
    p.next (tail k) = if p.owed ≤ 1 then .complete (Char.ofNat (p.value * 64 + k))
      else .begun ⟨tail k :: p.seen, p.value * 64 + k, p.owed - 1, 0x80, 0xBF⟩ := by
  have value : (tail k).toNat = 0x80 + k := by
    rw [tail, toNat_byte]
    omega
  simp only [Begun.next, value, low, high, and_self, if_true, Nat.add_sub_cancel_left]

theorem push_more (small : k < 64) (low : p.low ≤ 0x80 + k) (high : 0x80 + k ≤ p.high)
    (owed : 2 ≤ p.owed) : Scan.push ⟨ps, some p⟩ (tail k) =
      ⟨ps, some ⟨tail k :: p.seen, p.value * 64 + k, p.owed - 1, 0x80, 0xBF⟩⟩ := by
  simp [Scan.push, next_tail small low high, show ¬ p.owed ≤ 1 by omega]

theorem push_last (small : k < 64) (low : p.low ≤ 0x80 + k) (high : 0x80 + k ≤ p.high)
    (owed : p.owed = 1) : Scan.push ⟨ps, some p⟩ (tail k) =
      ⟨.scalar (Char.ofNat (p.value * 64 + k)) :: ps, none⟩ := by
  simp [Scan.push, next_tail small low high, owed]

theorem push_first {b : UInt8} (begun : Reading.first b = .begun p) :
    Scan.push ⟨ps, none⟩ b = ⟨ps, some p⟩ := by
  simp [Scan.push, Scan.start, begun]

end

theorem push_encodeChar (ps : List Piece) (c : Char) :
    (encodeChar c).foldl Scan.push ⟨ps, none⟩ = ⟨.scalar c :: ps, none⟩ := by
  have valid := toNat_valid c
  have self : Char.ofNat c.toNat = c := Char.ofNat_toNat c
  unfold encodeChar
  generalize c.toNat = n at valid self
  have byte (k : Nat) (small : k < 256) : k.toUInt8.toNat = k := by
    rw [toNat_byte, Nat.mod_eq_of_lt small]
  dsimp only
  split_ifs with single double triple
  · have value := byte n (by omega)
    simp only [List.foldl_cons, List.foldl_nil, Scan.push, Scan.start]
    rw [first_single (by omega), value, self]
  · have lead := byte (0xC0 + n / 64) (by omega)
    change [_, tail (n % 64)].foldl Scan.push _ = _
    simp only [List.foldl_cons, List.foldl_nil]
    rw [push_first (first_double (by omega) (by omega)),
      push_last (by omega) (by dsimp; omega) (by dsimp; omega) rfl, lead,
      show (0xC0 + n / 64 - 0xC0) * 64 + n % 64 = n by omega, self]
  · have lead := byte (0xE0 + n / 4096) (by omega)
    change [_, tail (n / 64 % 64), tail (n % 64)].foldl Scan.push _ = _
    simp only [List.foldl_cons, List.foldl_nil]
    rw [push_first (first_triple (by omega) (by omega)), lead,
      push_more (by omega) (by dsimp; split <;> omega) (by dsimp; split <;> omega) (by simp),
      push_last (by omega) (by dsimp; omega) (by dsimp; omega) rfl,
      show ((0xE0 + n / 4096 - 0xE0) * 64 + n / 64 % 64) * 64 + n % 64 = n by omega, self]
  · have lead := byte (0xF0 + n / 262144) (by omega)
    change [_, tail (n / 4096 % 64), tail (n / 64 % 64), tail (n % 64)].foldl Scan.push _ = _
    simp only [List.foldl_cons, List.foldl_nil]
    rw [push_first (first_quadruple (by omega) (by omega)), lead,
      push_more (by omega) (by dsimp; split <;> omega) (by dsimp; split <;> omega) (by simp),
      push_more (by omega) (by dsimp; omega) (by dsimp; omega) (by simp),
      push_last (by omega) (by dsimp; omega) (by dsimp; omega) rfl,
      show (((0xF0 + n / 262144 - 0xF0) * 64 + n / 4096 % 64) * 64 + n / 64 % 64) * 64 + n % 64 = n
        by omega, self]

theorem foldl_push_encode (ps : List Piece) (cs : List Char) :
    (cs.flatMap encodeChar).foldl Scan.push ⟨ps, none⟩ =
      ⟨(cs.map Piece.scalar).reverse ++ ps, none⟩ := by
  induction cs generalizing ps with
  | nil => rfl
  | cons c cs ih =>
    rw [List.flatMap_cons, List.foldl_append, push_encodeChar, ih]
    simp

theorem scan_encode (s : String) :
    scan (encode s) = ⟨(s.toList.map Piece.scalar).reverse, none⟩ := by
  rw [scan, encode, foldl_push_encode, List.append_nil]

theorem firstBroken_scalars (n : Nat) (cs : List Char) :
    firstBroken n (cs.map Piece.scalar) = none := by
  induction cs generalizing n with
  | nil => rfl
  | cons c cs ih => exact ih _

theorem char_scalar : Piece.char ∘ Piece.scalar = id := rfl

@[simp] theorem decode_encode (s : String) : decode (encode s) = .ok s := by
  simp [decode, scan_encode, firstBroken_scalars, char_scalar]

@[simp] theorem decodeLossy_encode (s : String) : decodeLossy (encode s) = s := by
  simp [decodeLossy, scan_encode, Scan.finish, char_scalar]

end Duplex.Utf8

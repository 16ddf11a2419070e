import Mathlib.Tactic.Ring
import ModelProbe.Wire.Varint

/-! Integers of variable length are read back.

Ten bytes hold `7 * 9 + 1` bits, so a reader with room for `room + 1` bytes takes every integer
below `2 * 128 ^ room`, which for ten bytes is `2 ^ 64`. It takes no byte too many: what follows
is left as it was (`varint?_varint`, `varints?_flatMap_varint`). -/
namespace ModelProbe.Wire

theorem toNat_ofNat_byte {n : Nat} (h : n < 256) : (UInt8.ofNat n).toNat = n :=
  UInt8.toNat_ofNat_of_lt' h

/-- A byte below 128 ends an integer. -/
theorem readVarint?_last {room n : Nat} (hn : n < 128) (hroom : room = 0 → n < 2)
    (rest : Bytes) : readVarint? (room + 1) (UInt8.ofNat n :: rest) = some (n, rest) := by
  have hbyte := toNat_ofNat_byte (show n < 256 by omega)
  have hlow : UInt8.ofNat n < 128 := by
    rw [UInt8.lt_iff_toNat_lt, hbyte]
    exact hn
  have hfits : ¬(room = 0 ∧ 2 ≤ UInt8.ofNat n) := by
    rintro ⟨hzero, htwo⟩
    rw [UInt8.le_iff_toNat_le, hbyte] at htwo
    exact absurd (hroom hzero) (Nat.not_lt.2 htwo)
  rw [readVarint?, if_pos hlow, if_neg hfits, hbyte]

/-- A byte from 128 on holds seven bits and goes on. -/
theorem readVarint?_more {room n : Nat} (hn : n < 128) (tail : Bytes) :
    readVarint? (room + 1) (UInt8.ofNat (128 + n) :: tail) =
      (readVarint? room tail).map fun (m, rest) => (n + 128 * m, rest) := by
  have hbyte := toNat_ofNat_byte (show 128 + n < 256 by omega)
  have hhigh : ¬UInt8.ofNat (128 + n) < 128 := by
    rw [UInt8.lt_iff_toNat_lt, hbyte]
    exact Nat.not_lt.2 (Nat.le_add_right 128 n)
  rw [readVarint?, if_neg hhigh, hbyte, Nat.add_sub_cancel_left]

theorem readVarint?_varint {room n : Nat} (h : n < 2 * 128 ^ room) (rest : Bytes) :
    readVarint? (room + 1) (varint n ++ rest) = some (n, rest) := by
  -- One byte takes seven bits and one of the room, until the last, which has only one bit left.
  induction room generalizing n with
  | zero =>
    rw [varint, if_pos (by omega)]
    exact readVarint?_last (by omega) (fun _ => by omega) rest
  | succ room ih =>
    by_cases hlast : n < 128
    · rw [varint, if_pos hlast]
      exact readVarint?_last hlast (fun hzero => by omega) rest
    · have hhigh : n / 128 < 2 * 128 ^ room := by
        rw [Nat.div_lt_iff_lt_mul (by decide)]
        calc n < 2 * 128 ^ (room + 1) := h
          _ = 2 * 128 ^ room * 128 := by ring
      rw [varint, if_neg hlast, List.cons_append,
        readVarint?_more (Nat.mod_lt n (by decide)), ih hhigh]
      show some (n % 128 + 128 * (n / 128), rest) = _
      rw [Nat.mod_add_div]

theorem varint?_varint {n : Nat} (h : n < UInt64.size) (rest : Bytes) :
    varint? (varint n ++ rest) = some (n, rest) := by
  have hten : n < 2 * 128 ^ 9 := h
  exact readVarint?_varint hten rest

/-- A packed list is read from its front. -/
theorem varints?_of_varint? {n : Nat} {bytes rest : Bytes} (h : varint? bytes = some (n, rest)) :
    varints? bytes = (varints? rest).map (n :: ·) := by
  cases bytes with
  | nil => cases h
  | cons b tail =>
    rw [varints?]
    split
    · rename_i hnone
      rw [h] at hnone
      cases hnone
    · rename_i hsome
      rw [h] at hsome
      cases hsome
      rfl

/-- A packed list of integers is read back. -/
theorem varints?_flatMap_varint {ns : List Nat} (h : ∀ n ∈ ns, n < UInt64.size) :
    varints? (ns.flatMap varint) = some ns := by
  induction ns with
  | nil => rw [List.flatMap_nil, varints?]
  | cons n ns ih =>
    obtain ⟨hn, hns⟩ := List.forall_mem_cons.1 h
    rw [List.flatMap_cons, varints?_of_varint? (varint?_varint hn _), ih hns]
    rfl

end ModelProbe.Wire

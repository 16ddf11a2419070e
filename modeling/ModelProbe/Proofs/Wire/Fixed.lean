import Mathlib.Tactic.Ring
import ModelProbe.Proofs.Wire.Varint
import ModelProbe.Wire.Fixed

/-! Values of a fixed number of bytes are read back.

The bytes of a number that fits them give the number again, and any bytes are those of the number
they say (`littleEndian_ofLittleEndian`). A sequence of pieces of one width is cut into just these
pieces, and bytes that are no whole number of pieces are not cut at all (`pieces?_eq_some_iff`,
`pieces?_eq_none_iff`). -/
namespace ModelProbe.Wire

theorem length_littleEndian (width n : Nat) : (littleEndian width n).length = width := by
  induction width generalizing n with
  | zero => rfl
  | succ width ih => rw [littleEndian, List.length_cons, ih]

theorem ofLittleEndian_littleEndian {width n : Nat} (h : n < 256 ^ width) :
    ofLittleEndian (littleEndian width n) = n := by
  induction width generalizing n with
  | zero =>
    rw [pow_zero, Nat.lt_one_iff] at h
    rw [h]
    rfl
  | succ width ih =>
    have hhigh : n / 256 < 256 ^ width := by
      rw [Nat.div_lt_iff_lt_mul (by decide)]
      calc n < 256 ^ (width + 1) := h
        _ = 256 ^ width * 256 := by ring
    show (UInt8.ofNat (n % 256)).toNat + 256 * ofLittleEndian (littleEndian width (n / 256)) = n
    rw [ih hhigh, toNat_ofNat_byte (Nat.mod_lt n (by decide)), Nat.mod_add_div]

/-- A byte and the bytes above it. -/
theorem ofLittleEndian_cons (b : UInt8) (tail : Bytes) :
    ofLittleEndian (b :: tail) = b.toNat + 256 * ofLittleEndian tail :=
  rfl

theorem ofLittleEndian_lt (bytes : Bytes) : ofLittleEndian bytes < 256 ^ bytes.length := by
  induction bytes with
  | nil => exact Nat.one_pos
  | cons b tail ih =>
    have hb := b.toNat_lt
    rw [ofLittleEndian_cons, List.length_cons, pow_succ]
    omega

/-- Bytes are those of the number they say. -/
theorem littleEndian_ofLittleEndian (bytes : Bytes) :
    littleEndian bytes.length (ofLittleEndian bytes) = bytes := by
  induction bytes with
  | nil => rfl
  | cons b tail ih =>
    have hb : b.toNat < 256 := b.toNat_lt
    have hlow : (b.toNat + 256 * ofLittleEndian tail) % 256 = b.toNat := by omega
    have hhigh : (b.toNat + 256 * ofLittleEndian tail) / 256 = ofLittleEndian tail := by omega
    rw [ofLittleEndian_cons, List.length_cons, littleEndian, hlow, hhigh, ih, UInt8.ofNat_toNat]

/-! ### Pieces -/

/-- A piece of the right width is cut off. -/
theorem pieces?_append {width : Nat} (hwidth : 0 < width) {piece : Bytes}
    (h : piece.length = width) (rest : Bytes) :
    pieces? width (piece ++ rest) = (pieces? width rest).map (piece :: ·) := by
  have hfits : ¬(width = 0 ∨ (piece ++ rest).length < width) := by
    rw [List.length_append]
    omega
  have hcut : (piece ++ rest).take width = piece ∧ (piece ++ rest).drop width = rest :=
    ⟨List.take_left' h, List.drop_left' h⟩
  cases hbytes : piece ++ rest with
  | nil =>
    rw [hbytes, List.length_nil] at hfits
    omega
  | cons b tail =>
    rw [hbytes] at hfits hcut
    rw [pieces?, if_neg hfits, hcut.1, hcut.2]

/-- Bytes are cut into the pieces of the width that make them up. -/
theorem pieces?_eq_some_iff {width : Nat} (hwidth : 0 < width) {bytes : Bytes}
    {pieces : List Bytes} : pieces? width bytes = some pieces ↔
      (∀ piece ∈ pieces, piece.length = width) ∧ pieces.flatten = bytes := by
  constructor
  · intro h
    fun_induction pieces? width bytes generalizing pieces with
    | case1 =>
      cases h
      exact ⟨nofun, rfl⟩
    | case2 => cases h
    | case3 b tail hfits ih =>
      obtain ⟨rest, hrest, rfl⟩ := Option.map_eq_some_iff.1 h
      obtain ⟨hlength, hflatten⟩ := ih hrest
      refine ⟨List.forall_mem_cons.2 ⟨?_, hlength⟩, ?_⟩
      · rw [List.length_take]
        omega
      · rw [List.flatten_cons, hflatten, List.take_append_drop]
  · rintro ⟨hlength, rfl⟩
    induction pieces with
    | nil => rw [List.flatten_nil, pieces?]
    | cons piece pieces ih =>
      obtain ⟨hpiece, hpieces⟩ := List.forall_mem_cons.1 hlength
      rw [List.flatten_cons, pieces?_append hwidth hpiece, ih hpieces]
      rfl

/-- Bytes are not cut when they are no whole number of pieces. -/
theorem pieces?_eq_none_iff {width : Nat} (hwidth : 0 < width) {bytes : Bytes} :
    pieces? width bytes = none ↔ bytes.length % width ≠ 0 := by
  fun_induction pieces? width bytes with
  | case1 => simp
  | case2 b tail hshort =>
    have hlt : (b :: tail).length < width := hshort.resolve_left hwidth.ne'
    rw [Nat.mod_eq_of_lt hlt]
    exact iff_of_true rfl (Nat.succ_ne_zero _)
  | case3 b tail hfits ih =>
    rw [Option.map_eq_none_iff, ih, List.length_drop, ← Nat.mod_eq_sub_mod (by omega)]

/-- Packed values of one width are read back. -/
theorem pieces?_flatMap_littleEndian {width : Nat} (hwidth : 0 < width) {ns : List Nat}
    (h : ∀ n ∈ ns, n < 256 ^ width) :
    (pieces? width (ns.flatMap (littleEndian width))).map (·.map ofLittleEndian) = some ns := by
  induction ns with
  | nil => rw [List.flatMap_nil, pieces?]; rfl
  | cons n ns ih =>
    obtain ⟨hn, hns⟩ := List.forall_mem_cons.1 h
    obtain ⟨pieces, hpieces, hvalues⟩ := Option.map_eq_some_iff.1 (ih hns)
    rw [List.flatMap_cons, pieces?_append hwidth (length_littleEndian width n), hpieces]
    show some (ofLittleEndian (littleEndian width n) :: pieces.map ofLittleEndian) = _
    rw [ofLittleEndian_littleEndian hn, hvalues]

end ModelProbe.Wire

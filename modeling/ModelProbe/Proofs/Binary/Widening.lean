import ModelProbe.Proofs.Binary.Rounding

/-! Singles among the doubles.

Widening keeps the value of a single (`read_widen`) and narrowing takes it back
(`ofDouble_widen`), so the doubles that survive the way down and up are those that singles
widen to. A NaN stays a NaN both ways. -/
namespace ModelProbe

open Binary Format

namespace Binary.Format

@[simp] theorem single_leadingBit : single.leadingBit = 0x800000 := by decide
@[simp] theorem single_leastExponent : single.leastExponent = -149 := by decide
@[simp] theorem single_infinity : single.infinity = 0x7f800000 := by decide
@[simp] theorem single_signBit : single.signBit = 0x80000000 := by decide
@[simp] theorem double_leadingBit : double.leadingBit = 0x10000000000000 := by decide
@[simp] theorem double_leastExponent : double.leastExponent = -1074 := by decide
@[simp] theorem double_infinity : double.infinity = 0x7ff0000000000000 := by decide
@[simp] theorem double_signBit : double.signBit = 0x8000000000000000 := by decide

/-- `m * 2 ^ q` as a quotient of naturals. -/
theorem ratio_eq (m : Nat) (q : Int) :
    ((m * power 2 q : Nat) : ℚ) / (power 2 (-q) : Nat) = m * 2 ^ q := by
  rw [Nat.cast_mul, mul_div_assoc, power_div_power]

/-- `m * 2 ^ q` does not change when powers of two move from the exponent to the
significand. -/
theorem shifted_value (m k : Nat) (q : Int) :
    ((m * 2 ^ k : Nat) : ℚ) * 2 ^ (q - k) = m * 2 ^ q := by
  rw [zpow_sub₀ (by norm_num), zpow_natCast]
  push_cast
  field_simp

end Binary.Format

/-! ### Bits and readings -/

namespace Single

theorem bits_ofMagnitude {magnitude : Nat} (h : magnitude < single.signBit) (negative : Bool) :
    (ofMagnitude negative magnitude).bits.toNat = single.withSign negative magnitude := by
  rw [single_signBit] at h
  refine UInt32.toNat_ofNat_of_lt' ?_
  rw [show UInt32.size = 0x100000000 from rfl, withSign, single_signBit]
  split <;> omega

/-- A single is its magnitude with its sign. -/
theorem eq_ofMagnitude (x : Single) :
    x = ofMagnitude (x.bits.toNat / single.signBit % 2 == 1) (x.bits.toNat % single.signBit) := by
  have hbits : x.bits.toNat < 2 * single.signBit := by
    rw [single_signBit]
    exact x.bits.toNat_lt
  rw [ofMagnitude, withSign_of_lt hbits, UInt32.ofNat_toNat]

theorem read_ofMagnitude_nan {magnitude : Nat} (hlow : single.infinity < magnitude)
    (hhigh : magnitude < single.signBit) (negative : Bool) :
    (ofMagnitude negative magnitude).read = .nan := by
  rw [read, bits_ofMagnitude hhigh, Format.read, withSign_mod hhigh]
  exact if_pos hlow

end Single

namespace Double

theorem bits_ofMagnitude {magnitude : Nat} (h : magnitude < double.signBit) (negative : Bool) :
    (ofMagnitude negative magnitude).bits.toNat = double.withSign negative magnitude := by
  rw [double_signBit] at h
  refine UInt64.toNat_ofNat_of_lt' ?_
  rw [show UInt64.size = 0x10000000000000000 from rfl, withSign, double_signBit]
  split <;> omega

/-- A double is its magnitude with its sign. -/
theorem eq_ofMagnitude (x : Double) :
    x = ofMagnitude (x.bits.toNat / double.signBit % 2 == 1) (x.bits.toNat % double.signBit) := by
  have hbits : x.bits.toNat < 2 * double.signBit := by
    rw [double_signBit]
    exact x.bits.toNat_lt
  rw [ofMagnitude, withSign_of_lt hbits, UInt64.ofNat_toNat]

theorem read_ofMagnitude_nan {magnitude : Nat} (hlow : double.infinity < magnitude)
    (hhigh : magnitude < double.signBit) (negative : Bool) :
    (ofMagnitude negative magnitude).read = .nan := by
  rw [read, bits_ofMagnitude hhigh, Format.read, withSign_mod hhigh]
  exact if_pos hlow

theorem isNaN_iff {x : Double} : x.isNaN = true ↔ x.read = .nan :=
  beq_iff_eq

/-- Stored magnitudes are finite up to the greatest exponent. -/
theorem pattern_lt_infinity {m : Nat} {q : Int} (h : double.Stored m q) (hq : q ≤ 971) :
    double.pattern m q < double.infinity := by
  have hbelow := h.below
  rw [double_leadingBit] at hbelow
  have hfield : (q - -1074).toNat ≤ 2045 := by omega
  have hmul := Nat.mul_le_mul_right 0x10000000000000 hfield
  rw [pattern, double_infinity, double_leadingBit, double_leastExponent]
  omega

/-- The double nearest to a stored magnitude is that magnitude. -/
theorem read_nearest {m : Nat} {q : Int} (h : double.Stored m q)
    (hp : double.pattern m q < double.infinity) {a b : Nat} (hb : 0 < b)
    (hv : (a : ℚ) / b = m * 2 ^ q) (negative : Bool) :
    (nearest negative a b).read = .finite negative m q := by
  rw [nearest, nearest_of_stored h hb hv, Nat.min_eq_right hp.le, read,
    bits_ofMagnitude (hp.trans infinity_lt_signBit), read_withSign h hp]

/-- A zero is one of two. -/
theorem eq_zero_of_read {x : Double} {negative : Bool} {q : Int}
    (h : x.read = .finite negative 0 q) : x = ofMagnitude negative 0 := by
  obtain ⟨hs, hp, -, hn⟩ := read_finite h
  have hq : q = double.leastExponent := by
    by_contra hq
    exact absurd (hs.leading hq) (by decide)
  rw [eq_ofMagnitude x, ← hn, ← hp, pattern, hq, sub_self]
  rfl

end Double

/-! ### Widening and narrowing -/

namespace Single

variable {x : Single} {m : Nat} {q : Int} {negative : Bool}

/-- A single's value fits a double: the same value, perhaps with a longer significand. -/
theorem read_widen (h : x.read = .finite negative m q) :
    ∃ k : Nat, x.widen.read = .finite negative (m * 2 ^ k) (q - k) := by
  obtain ⟨hs, -, hinf, -⟩ := read_finite h
  have hbelow := hs.below
  have hleast := hs.least
  rw [single_leadingBit] at hbelow
  rw [single_leastExponent] at hleast
  rw [pattern, single_infinity, single_leadingBit, single_leastExponent] at hinf
  have hwiden : x.widen = Double.nearest negative (m * power 2 q) (power 2 (-q)) := by
    rw [widen, h]
    rfl
  have hv := ratio_eq m q
  have hb : 0 < power 2 (-q) := power_two_pos _
  rw [hwiden]
  rcases Nat.eq_zero_or_pos m with rfl | hm
  · have hstored : double.Stored 0 (-1074) := ⟨by simp, by simp, fun hq => absurd rfl hq⟩
    refine ⟨(q + 1074).toNat, ?_⟩
    rw [Double.read_nearest hstored (by decide) hb (by rw [hv]; simp), Nat.zero_mul,
      Int.toNat_of_nonneg (by omega)]
    congr 1
    omega
  · obtain ⟨k, hk, hstored⟩ := exists_stored (f := double) (q := q) hm
      (by rw [double_leadingBit]; omega) (by rw [double_leastExponent]; omega)
    refine ⟨k, Double.read_nearest hstored ?_ hb ?_ negative⟩
    · exact Double.pattern_lt_infinity hstored (by omega)
    · rw [hv, shifted_value]

/-- Narrowing a double with a single's value gives that single. -/
theorem ofDouble_of_read {y : Double} {k : Nat} (hx : x.read = .finite negative m q)
    (hy : y.read = .finite negative (m * 2 ^ k) (q - k)) : ofDouble y = x := by
  obtain ⟨hs, hp, hinf, hn⟩ := read_finite hx
  rw [ofDouble, hy]
  dsimp only
  rw [nearest_of_stored hs (power_two_pos _) ((ratio_eq ..).trans (shifted_value m k q)),
    Nat.min_eq_right hinf.le, hp, hn, ← eq_ofMagnitude]

theorem widen_nan (h : x.read = .nan) : x.widen.read = .nan := by
  have hmod := Nat.mod_lt x.bits.toNat (show 0 < 0x400000 by decide)
  rw [widen, h]
  exact Double.read_ofMagnitude_nan (by rw [double_infinity]; omega)
    (by rw [double_signBit]; omega) _

theorem ofDouble_nan {y : Double} (h : y.read = .nan) : (ofDouble y).read = .nan := by
  have hmod := Nat.mod_lt (y.bits.toNat / 0x20000000) (show 0 < 0x400000 by decide)
  rw [ofDouble, h]
  exact read_ofMagnitude_nan (by rw [single_infinity]; omega) (by rw [single_signBit]; omega) _

theorem eq_infinity (h : x.read = .infinite negative) :
    x = ofMagnitude negative single.infinity := by
  obtain ⟨hm, hn⟩ := read_infinite h
  rw [eq_ofMagnitude x, hm, ← hn]

/-- **Narrowing undoes widening**, of every single that is a number. -/
theorem ofDouble_widen (h : x.read ≠ .nan) : ofDouble x.widen = x := by
  cases hx : x.read with
  | nan => exact absurd hx h
  | infinite negative =>
    rw [eq_infinity hx]
    cases negative <;> decide
  | finite negative m q =>
    obtain ⟨k, hk⟩ := read_widen hx
    exact ofDouble_of_read hx hk

def isFinite (x : Single) : Bool :=
  match x.read with
  | .finite .. => true
  | _ => false

theorem read_ne_nan (h : x.isFinite = true) : x.read ≠ .nan := by
  intro hnan
  rw [isFinite, hnan] at h
  cases h

/-- Widening keeps apart what is finite and what is not. -/
theorem isFinite_widen (x : Single) : x.widen.isFinite = x.isFinite := by
  cases hx : x.read with
  | nan => rw [isFinite, hx, Double.isFinite, widen_nan hx]
  | infinite negative =>
    rw [eq_infinity hx]
    cases negative <;> decide
  | finite negative m q =>
    obtain ⟨k, hk⟩ := read_widen hx
    rw [isFinite, hx, Double.isFinite, hk]

end Single

end ModelProbe

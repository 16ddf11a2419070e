import ModelProbe.Proofs.Binary.Widening

/-! Quotients of natural numbers as doubles.

What a quotient is rounded to depends on the quotient alone (`nearest_congr`), and it is not zero
unless the quotient is smaller than anything a format can tell from zero (`nearest_pos`). A natural
number other than zero is between a half and twice a power of two, so the double closest to it is
too (`read_ofNat`). So a quotient of counts is zero only when the first count is
(`isZero_div_ofNat`), and counts that doubles hold exactly are divided with one rounding
(`div_ofNat`). -/
namespace ModelProbe

namespace Binary

/-! ### Rounding to naturals -/

theorem le_roundHalfEven (n d : Nat) : n / d ≤ roundHalfEven n d := by
  unfold roundHalfEven
  dsimp only
  split
  · exact Nat.le_refl _
  · split <;> omega

theorem roundHalfEven_le (n d : Nat) : roundHalfEven n d ≤ n / d + 1 := by
  unfold roundHalfEven
  dsimp only
  split
  · exact Nat.le_succ _
  · split <;> omega

theorem roundHalfEven_mul_left {k : Nat} (hk : 0 < k) (n d : Nat) :
    roundHalfEven (k * n) (k * d) = roundHalfEven n d := by
  have hless : 2 * (k * (n % d)) < k * d ↔ 2 * (n % d) < d := by
    rw [Nat.mul_left_comm]
    exact Nat.mul_lt_mul_left hk
  have hmore : k * d < 2 * (k * (n % d)) ↔ d < 2 * (n % d) := by
    rw [Nat.mul_left_comm]
    exact Nat.mul_lt_mul_left hk
  simp only [roundHalfEven, Nat.mul_mod_mul_left, Nat.mul_div_mul_left _ _ hk, hless, hmore]

namespace Format

variable {f : Format} {a b c d n : Nat}

/-- The same quotient is rounded the same. -/
theorem nearest_congr (hb : 0 < b) (hd : 0 < d) (h : (a : ℚ) / b = c / d) :
    f.nearest a b = f.nearest c d := by
  have hb' : (b : ℚ) ≠ 0 := by exact_mod_cast hb.ne'
  have hd' : (d : ℚ) ≠ 0 := by exact_mod_cast hd.ne'
  have hcross : a * d = c * b := by
    exact_mod_cast (div_eq_div_iff hb' hd').1 h
  by_cases ha : a = 0
  · have hc : c = 0 := by
      rw [ha, Nat.zero_mul] at hcross
      exact (Nat.mul_eq_zero.1 hcross.symm).resolve_right hb.ne'
    simp [nearest, ha, hc]
  · have hc : c ≠ 0 := by
      rintro rfl
      rw [Nat.zero_mul] at hcross
      exact ha ((Nat.mul_eq_zero.1 hcross).resolve_right hd.ne')
    have hexponent : leadingExponent a b = leadingExponent c d := by
      rw [leadingExponent_eq_log (Nat.pos_of_ne_zero ha) hb,
        leadingExponent_eq_log (Nat.pos_of_ne_zero hc) hd, h]
    have hround : ∀ x y : Nat, roundHalfEven (a * x) (b * y) = roundHalfEven (c * x) (d * y) := by
      intro x y
      rw [← roundHalfEven_mul_left hd (a * x), ← roundHalfEven_mul_left hb (c * x),
        ← Nat.mul_assoc, ← Nat.mul_assoc, ← Nat.mul_assoc, ← Nat.mul_assoc, Nat.mul_comm d a,
        Nat.mul_comm b c, hcross, Nat.mul_comm d b]
    simp only [nearest, ha, hc, if_false, hexponent, hround]

theorem nearest_le (a b : Nat) : f.nearest a b ≤ f.infinity := by
  unfold nearest
  split
  · exact Nat.zero_le _
  · exact Nat.min_le_left ..

/-- A quotient of at least `2 ^ -k` is not rounded to zero where the exponents reach that low. -/
theorem nearest_pos (hinfinity : 0 < f.infinity) {k : Nat} (hk : f.leastExponent ≤ -k) (hb : 0 < b)
    (h : b ≤ a * 2 ^ k) : 0 < f.nearest a b := by
  have ha : a ≠ 0 := by
    rintro rfl
    rw [Nat.zero_mul] at h
    omega
  have hwhole : power 2 f.leastExponent = 1 := by
    have : f.leastExponent.toNat = 0 := by omega
    rw [power, this]
  have hleast : b ≤ a * power 2 (-f.leastExponent) :=
    h.trans (Nat.mul_le_mul_left a (Nat.pow_le_pow_right Nat.two_pos (by omega)))
  unfold nearest
  rw [if_neg ha]
  refine Nat.lt_min.2 ⟨hinfinity, ?_⟩
  by_cases hq : leadingExponent a b - f.fractionBits ≤ f.leastExponent
  · rw [max_eq_right hq]
    have hquotient : 0 < a * power 2 (-f.leastExponent) / (b * power 2 f.leastExponent) := by
      rw [hwhole, Nat.mul_one]
      exact Nat.div_pos hleast hb
    exact Nat.add_pos_right _ (hquotient.trans_le (le_roundHalfEven ..))
  · rw [max_eq_left (by omega)]
    exact Nat.add_pos_left (Nat.mul_pos (by omega) leadingBit_pos) _

theorem leadingExponent_one (hn : 0 < n) : leadingExponent n 1 = n.log2 := by
  have hlow : 2 ^ n.log2 ≤ n := Nat.log2_self_le hn.ne'
  have hone : Nat.log2 1 = 0 := by decide
  simp [leadingExponent, power, hone, hlow]

/-- A natural number is rounded to one of the magnitudes from its greatest power of two to the
next. -/
theorem exists_nearest_natural (hn : 0 < n) (hq : f.leastExponent ≤ n.log2 - f.fractionBits) :
    ∃ m q, f.Stored m q ∧ f.leadingBit ≤ m ∧ n.log2 - f.fractionBits ≤ q ∧
      q ≤ n.log2 - f.fractionBits + 1 ∧ f.nearest n 1 = min f.infinity (f.pattern m q) := by
  set e : Int := n.log2 - f.fractionBits with he
  have hexponents : f.fractionBits + e.toNat = n.log2 + (-e).toNat := by omega
  have hlow : f.leadingBit * power 2 e ≤ n * power 2 (-e) := by
    rw [leadingBit_eq, power, Nat.pow_eq, ← Nat.pow_add, hexponents, Nat.pow_add]
    exact Nat.mul_le_mul_right _ (Nat.log2_self_le hn.ne')
  have hhigh : n * power 2 (-e) < 2 * f.leadingBit * power 2 e := by
    rw [leadingBit_eq, power, power, Nat.pow_eq, Nat.pow_eq, Nat.mul_assoc, ← Nat.pow_add,
      hexponents, Nat.pow_add, ← Nat.mul_assoc, ← Nat.pow_succ']
    exact Nat.mul_lt_mul_of_pos_right Nat.lt_log2_self (Nat.two_pow_pos _)
  set m := roundHalfEven (n * power 2 (-e)) (power 2 e) with hm
  have hlow' : f.leadingBit ≤ m :=
    ((Nat.le_div_iff_mul_le (power_two_pos e)).2 hlow).trans (le_roundHalfEven ..)
  have hhigh' : m ≤ 2 * f.leadingBit :=
    (roundHalfEven_le ..).trans ((Nat.div_lt_iff_lt_mul (power_two_pos e)).2 hhigh)
  have hnearest : f.nearest n 1 = min f.infinity (f.pattern m e) := by
    rw [nearest, if_neg hn.ne', leadingExponent_one hn, ← he]
    dsimp only
    rw [max_eq_left hq, Nat.one_mul, ← hm]
    rfl
  -- A carry leaves the leading bit alone in the significand.
  by_cases hcarry : m = 2 * f.leadingBit
  · have hbelow : f.leadingBit < 2 * f.leadingBit := by
      have := leadingBit_pos (f := f)
      omega
    have hnext : (e + 1 - f.leastExponent).toNat = (e - f.leastExponent).toNat + 1 := by omega
    refine ⟨f.leadingBit, e + 1, ⟨by omega, hbelow, fun _ => Nat.le_refl _⟩, Nat.le_refl _,
      by omega, Int.le_refl _, ?_⟩
    rw [hnearest, pattern, pattern, hcarry, hnext]
    refine congrArg _ ?_
    ring
  · exact ⟨m, e, ⟨hq, by omega, fun _ => hlow'⟩, hlow', Int.le_refl _, by omega, hnearest⟩

end Format

end Binary

namespace Double

open Binary Format

theorem isZero_ofMagnitude {magnitude : Nat} (h : magnitude ≤ double.infinity) (negative : Bool) :
    (ofMagnitude negative magnitude).isZero = true ↔ magnitude = 0 := by
  have hsign := h.trans_lt infinity_lt_signBit
  have hdiv := Nat.div_add_mod magnitude double.leadingBit
  unfold isZero read Format.read
  simp only [bits_ofMagnitude hsign, withSign_mod hsign, if_neg (Nat.not_lt.2 h)]
  by_cases hinfinity : magnitude = double.infinity
  · simp [hinfinity]
  · by_cases hfield : magnitude / double.leadingBit = 0
    · rw [hfield, Nat.mul_zero, Nat.zero_add] at hdiv
      simp only [if_neg hinfinity, if_pos hfield, hdiv, beq_iff_eq]
    · have hne : magnitude ≠ 0 := by
        rintro rfl
        exact hfield (Nat.zero_div _)
      have hlead : double.leadingBit + magnitude % double.leadingBit ≠ 0 :=
        (Nat.add_pos_left leadingBit_pos _).ne'
      simp only [if_neg hinfinity, if_neg hfield, beq_iff_eq, hlead, hne]

theorem isZero_nearest (negative : Bool) (a b : Nat) :
    (nearest negative a b).isZero = true ↔ double.nearest a b = 0 :=
  isZero_ofMagnitude (nearest_le a b) negative

/-- A quotient of naturals that is not far below one is zero only when it is rounded from zero. -/
theorem isZero_nearest_iff (negative : Bool) {a b : Nat} (hb : 0 < b)
    (h : 0 < a → b ≤ a * 2 ^ 128) : (nearest negative a b).isZero = true ↔ a = 0 := by
  rw [isZero_nearest]
  constructor
  · intro hzero
    by_contra ha
    have hpos : 0 < double.nearest a b :=
      nearest_pos (by decide) (by rw [double_leastExponent]; decide) hb
        (h (Nat.pos_of_ne_zero ha))
    omega
  · rintro rfl
    simp [Format.nearest]

theorem isZero_ofNat (n : Nat) : (ofNat n).isZero = true ↔ n = 0 :=
  isZero_nearest_iff false Nat.one_pos fun h => Nat.mul_pos h (Nat.two_pow_pos _)

/-- What a natural number other than zero is read as. -/
theorem read_ofNat {n : Nat} (hn : 0 < n) (hlarge : n < 2 ^ 63) :
    ∃ m q, (ofNat n).read = .finite false m q ∧ 0 < m ∧ m < 2 ^ 53 ∧ -52 ≤ q ∧ q ≤ 11 := by
  have hlog : n.log2 < 63 := (Nat.log2_lt hn.ne').2 hlarge
  have hfraction : double.fractionBits = 52 := rfl
  obtain ⟨m, q, hstored, hm, hlow, hhigh, hnearest⟩ :=
    exists_nearest_natural (f := double) hn (by rw [double_leastExponent, hfraction]; omega)
  rw [hfraction] at hlow hhigh
  have hpattern := pattern_lt_infinity hstored (by omega)
  have hbelow := hstored.below
  rw [double_leadingBit] at hm hbelow
  refine ⟨m, q, ?_, by omega, by omega, by omega, by omega⟩
  rw [ofNat, nearest, hnearest, Nat.min_eq_right hpattern.le, read,
    bits_ofMagnitude (hpattern.trans infinity_lt_signBit), read_withSign hstored hpattern]

/-- What a quotient of finite doubles is. -/
theorem div_of_read {x y : Double} {m n : Nat} {q r : Int} {negative negative' : Bool}
    (hx : x.read = .finite negative m q) (hy : y.read = .finite negative' n r) (hn : n ≠ 0) :
    x.div y = nearest (negative != negative') (m * power 2 (q - r)) (n * power 2 (r - q)) := by
  rw [div, hx, hy]
  exact if_neg hn

/-- **A quotient of counts is zero only when the first count is.** -/
theorem isZero_div_ofNat {a b : Nat} (hb : 0 < b) (ha : a < 2 ^ 63) (hb' : b < 2 ^ 63) :
    ((ofNat a).div (ofNat b)).isZero = true ↔ a = 0 := by
  obtain ⟨n, r, hy, hn, hn', -, hr⟩ := read_ofNat hb hb'
  by_cases hzero : a = 0
  · have hx : (ofNat a).read = .finite false 0 (-1074) := by
      rw [hzero]
      rfl
    rw [div_of_read hx hy hn.ne', Nat.zero_mul,
      isZero_nearest_iff _ (Nat.mul_pos hn (power_two_pos _)) fun h => absurd h (Nat.lt_irrefl 0)]
    simp [hzero]
  · -- Both exponents are from -52 to 11, far above the least one.
    obtain ⟨m, q, hx, hm, -, hq, -⟩ := read_ofNat (Nat.pos_of_ne_zero hzero) ha
    have hscaled : 0 < m * power 2 (q - r) := Nat.mul_pos hm (power_two_pos _)
    have hpower : power 2 (r - q) ≤ 2 ^ 63 := Nat.pow_le_pow_right Nat.two_pos (by omega)
    have hsmall : n * power 2 (r - q) ≤ m * power 2 (q - r) * 2 ^ 128 :=
      calc n * power 2 (r - q) ≤ 2 ^ 53 * 2 ^ 63 := Nat.mul_le_mul hn'.le hpower
        _ ≤ 1 * 2 ^ 128 := by decide
        _ ≤ m * power 2 (q - r) * 2 ^ 128 := Nat.mul_le_mul_right _ hscaled
    rw [div_of_read hx hy hn.ne',
      isZero_nearest_iff _ (Nat.mul_pos hn (power_two_pos _)) fun _ => hsmall]
    simp [hzero, hscaled.ne']

/-- Naturals that fit a significand are held exactly. -/
theorem read_ofNat_exact {n : Nat} (h : n < 2 ^ 53) :
    ∃ m q, (ofNat n).read = .finite false m q ∧ (m : ℚ) * 2 ^ q = n := by
  by_cases hn : n = 0
  · refine ⟨0, -1074, ?_, by simp [hn]⟩
    rw [hn]
    rfl
  · obtain ⟨k, hk, hstored⟩ := exists_stored (f := double) (q := 0) (Nat.pos_of_ne_zero hn)
      (by rw [double_leadingBit]; omega) (by decide)
    have hvalue : (n : ℚ) = ((n * 2 ^ k : Nat) : ℚ) * 2 ^ (0 - k : Int) := by
      push_cast
      rw [zero_sub, zpow_neg, zpow_natCast]
      field_simp
    refine ⟨n * 2 ^ k, 0 - k, ?_, hvalue.symm⟩
    exact read_nearest hstored (pattern_lt_infinity hstored (by omega)) Nat.one_pos
      (by rw [Nat.cast_one, div_one, ← hvalue]) false

/-- **Counts that are held exactly are divided with one rounding.** -/
theorem div_ofNat {a b : Nat} (hb : 0 < b) (ha : a < 2 ^ 53) (hb' : b < 2 ^ 53) :
    (ofNat a).div (ofNat b) = nearest false a b := by
  obtain ⟨m, q, hx, hm⟩ := read_ofNat_exact ha
  obtain ⟨n, r, hy, hn⟩ := read_ofNat_exact hb'
  have hbq : (b : ℚ) ≠ 0 := by exact_mod_cast hb.ne'
  have hn0 : n ≠ 0 := by
    rintro rfl
    rw [Nat.cast_zero, zero_mul] at hn
    exact hbq hn.symm
  rw [div_of_read hx hy hn0]
  refine congrArg _ (nearest_congr (Nat.mul_pos (Nat.pos_of_ne_zero hn0) (power_two_pos _)) hb ?_)
  have hpower := power_div_power (q - r)
  rw [neg_sub] at hpower
  push_cast
  rw [mul_div_mul_comm, hpower, zpow_sub₀ two_ne_zero, div_mul_div_comm, hm, hn]

end Double

end ModelProbe

import ModelProbe.Proofs.Binary.Quotient

/-! What a format reaches.

A format ends half a step above its greatest finite magnitude (`Format.threshold`): a quotient of
naturals below it is rounded to something finite, and one at it or above it to infinity
(`nearest_lt_infinity_iff`). So a double stays finite as a single exactly below `2 ^ 128 - 2 ^ 103`
(`isFinite_ofDouble_iff`), integers of 64 bits are finite doubles, and so is a finite double divided
by a natural number other than zero.

Below that end, a double is a single exactly when its value is a number of at most 24 bits at an
exponent of singles (`exists_widen_iff`). -/
namespace ModelProbe

namespace Binary

/-- Rounding stays below an even number exactly below the half before it. -/
theorem roundHalfEven_lt_iff {n d m : Nat} (hd : 0 < d) (hm : m % 2 = 0) :
    roundHalfEven n d < m ↔ 2 * n + d < d * (2 * m) := by
  have hdiv := Nat.div_add_mod n d
  have hmod := Nat.mod_lt n hd
  set k := n / d with hk
  set r := n % d with hr
  have hround : roundHalfEven n d =
      if 2 * r < d then k else if d < 2 * r then k + 1 else k + k % 2 := rfl
  -- The right side compares the nearest number, a half counted upwards.
  have hcompare : ∀ c, 2 * n + d < d * (2 * c) ↔ 2 * r + d < d * (2 * c) - d * (2 * k) := by
    intro c
    have hn : 2 * n = d * (2 * k) + 2 * r := by rw [← hdiv]; ring
    omega
  rw [hcompare m, ← Nat.mul_sub]
  rcases Nat.lt_or_ge k m with hkm | hkm
  · obtain ⟨c, hc⟩ := Nat.exists_eq_add_of_lt hkm
    have hdiff : d * (2 * m - 2 * k) = 2 * d * c + 2 * d := by
      rw [show 2 * m - 2 * k = 2 * c + 2 by omega]
      ring
    rw [hdiff, hround]
    rcases Nat.eq_zero_or_pos c with rfl | hpos
    · rw [Nat.mul_zero]
      split
      · omega
      · split <;> omega
    · have hlarge : 2 * d ≤ 2 * d * c := Nat.le_mul_of_pos_right _ hpos
      split
      · omega
      · split <;> omega
  · rw [show 2 * m - 2 * k = 0 by omega, Nat.mul_zero, hround]
    split
    · omega
    · split <;> omega

namespace Format

variable (f : Format)

/-- The exponent of the greatest finite magnitudes. -/
def greatestExponent : Int :=
  f.leastExponent + (2 ^ f.exponentBits - 3)

/-- Half way from the greatest finite magnitude to the power of two after it. -/
def threshold : ℚ :=
  (4 * f.leadingBit - 1) * 2 ^ (f.greatestExponent - 1)

theorem threshold_eq :
    f.threshold = 2 ^ (f.greatestExponent + f.fractionBits + 1) - 2 ^ (f.greatestExponent - 1) := by
  have hsum : f.greatestExponent + f.fractionBits + 1 =
      2 + f.fractionBits + (f.greatestExponent - 1) := by omega
  rw [threshold, hsum, zpow_add₀ two_ne_zero, zpow_add₀ two_ne_zero, zpow_natCast, leadingBit_eq,
    sub_mul, one_mul]
  norm_num

theorem single_threshold : single.threshold = 2 ^ 128 - 2 ^ 103 :=
  threshold_eq single

theorem double_threshold : double.threshold = 2 ^ 1024 - 2 ^ 970 :=
  threshold_eq double

variable {f} {a b : Nat}

/-- The pattern of infinity is the one after the greatest finite magnitude. -/
theorem infinity_eq (hbits : 2 ≤ f.exponentBits) :
    f.infinity = ((f.greatestExponent - f.leastExponent).toNat + 2) * f.leadingBit := by
  have hpow : 2 ^ 2 ≤ 2 ^ f.exponentBits := Nat.pow_le_pow_right Nat.two_pos hbits
  have hfield : (f.greatestExponent - f.leastExponent).toNat = 2 ^ f.exponentBits - 3 := by
    rw [greatestExponent, add_sub_cancel_left]
    have : ((2 ^ f.exponentBits : Nat) : Int) = 2 ^ f.exponentBits := by push_cast; rfl
    omega
  rw [hfield, infinity, Nat.pow_eq]
  congr 1
  omega

theorem leastExponent_lt_greatestExponent (hbits : 2 ≤ f.exponentBits) :
    f.leastExponent < f.greatestExponent := by
  have hpow : 2 ^ 2 ≤ 2 ^ f.exponentBits := Nat.pow_le_pow_right Nat.two_pos hbits
  have hcast : ((2 ^ f.exponentBits : Nat) : Int) = 2 ^ f.exponentBits := by push_cast; rfl
  rw [greatestExponent]
  omega

/-- A quotient in steps of `2 ^ q`. -/
theorem scaled_lt_iff (hb : 0 < b) (q : Int) (c : ℚ) :
    ((a * power 2 (-q) : Nat) : ℚ) < c * (b * power 2 q : Nat) ↔ (a : ℚ) / b < c * 2 ^ q := by
  have hb' : (0 : ℚ) < b := by exact_mod_cast hb
  have hn : (0 : ℚ) < power 2 (-q) := by exact_mod_cast power_two_pos (-q)
  rw [← power_div_power q, div_lt_iff₀ hb', mul_div_assoc', div_mul_eq_mul_div, lt_div_iff₀ hn]
  push_cast
  rw [mul_assoc c, mul_comm (b : ℚ)]

/-- The significand rounded to is at most one carry past the leading bit. -/
theorem significand_le (hb : 0 < b) {q : Int} (h : (a : ℚ) / b < 2 * f.leadingBit * 2 ^ q) :
    roundHalfEven (a * power 2 (-q)) (b * power 2 q) ≤ 2 * f.leadingBit := by
  have hd : 0 < b * power 2 q := Nat.mul_pos hb (power_two_pos q)
  have hlt : a * power 2 (-q) < 2 * f.leadingBit * (b * power 2 q) := by
    have := (scaled_lt_iff hb q (2 * f.leadingBit)).2 h
    exact_mod_cast this
  exact (roundHalfEven_le ..).trans ((Nat.div_lt_iff_lt_mul hd).2 hlt)

/-- The significand rounded to has the leading bit when the quotient reaches it. -/
theorem leadingBit_le_significand (hb : 0 < b) {q : Int} (h : f.leadingBit * 2 ^ q ≤ (a : ℚ) / b) :
    f.leadingBit ≤ roundHalfEven (a * power 2 (-q)) (b * power 2 q) := by
  have hd : 0 < b * power 2 q := Nat.mul_pos hb (power_two_pos q)
  have hle : f.leadingBit * (b * power 2 q) ≤ a * power 2 (-q) := by
    have := (scaled_lt_iff hb q f.leadingBit).not.2 (not_lt.2 h)
    exact_mod_cast not_lt.1 this
  exact ((Nat.le_div_iff_mul_le hd).2 hle).trans (le_roundHalfEven ..)

/-- The exponent a quotient is rounded at: its leading bit is that of the significand, or the
exponent is the least one. -/
theorem exists_rounded (ha : 0 < a) (hb : 0 < b) :
    ∃ q, f.leastExponent ≤ q ∧ (a : ℚ) / b < 2 * f.leadingBit * 2 ^ q ∧
      (q ≠ f.leastExponent → f.leadingBit * 2 ^ q ≤ (a : ℚ) / b) ∧
      f.nearest a b = min f.infinity ((q - f.leastExponent).toNat * f.leadingBit +
        roundHalfEven (a * power 2 (-q)) (b * power 2 q)) := by
  have ha' : (0 : ℚ) < a := by exact_mod_cast ha
  have hb' : (0 : ℚ) < b := by exact_mod_cast hb
  have hpos : (0 : ℚ) < (a : ℚ) / b := by positivity
  have hlead : (f.leadingBit : ℚ) = 2 ^ (f.fractionBits : Int) := by
    rw [leadingBit_eq, zpow_natCast]
    push_cast
    rfl
  refine ⟨max (Int.log 2 ((a : ℚ) / b) - f.fractionBits) f.leastExponent, le_max_right .., ?_,
    fun hne => ?_, ?_⟩
  · refine (Int.lt_zpow_succ_log_self (by norm_num : 1 < (2 : ℕ)) _).trans_le ?_
    rw [hlead, mul_assoc, ← zpow_add₀ two_ne_zero, Nat.cast_ofNat, zpow_add_one₀ two_ne_zero,
      mul_comm]
    exact mul_le_mul_of_nonneg_left (zpow_le_zpow_right₀ one_le_two (by omega)) zero_le_two
  · have hexponent : max (Int.log 2 ((a : ℚ) / b) - f.fractionBits) f.leastExponent =
        Int.log 2 ((a : ℚ) / b) - f.fractionBits := by omega
    rw [hexponent, hlead, ← zpow_add₀ two_ne_zero, add_sub_cancel]
    exact_mod_cast Int.zpow_log_le_self (by norm_num : 1 < (2 : ℕ)) hpos
  · rw [nearest, if_neg ha.ne', leadingExponent_eq_log ha hb]

section
variable {q : Int}

theorem threshold_pos : 0 < f.threshold := by
  have hone : (1 : ℚ) ≤ f.leadingBit := by exact_mod_cast leadingBit_pos (f := f)
  exact mul_pos (by linarith) (by positivity)

/-- Below the greatest exponent not even a carry reaches infinity. -/
theorem rounded_lt_of_lt (hbits : 2 ≤ f.exponentBits) (hb : 0 < b) (hleast : f.leastExponent ≤ q)
    (hq : q < f.greatestExponent) (hbelow : (a : ℚ) / b < 2 * f.leadingBit * 2 ^ q) :
    (q - f.leastExponent).toNat * f.leadingBit +
        roundHalfEven (a * power 2 (-q)) (b * power 2 q) < f.infinity ∧
      (a : ℚ) / b < f.threshold := by
  have hcarry := significand_le hb hbelow
  have hone : (1 : ℚ) ≤ f.leadingBit := by exact_mod_cast leadingBit_pos (f := f)
  constructor
  · calc _ ≤ ((q - f.leastExponent).toNat + 2) * f.leadingBit := by rw [Nat.add_mul]; omega
      _ < f.infinity := by
        rw [infinity_eq hbits]
        exact Nat.mul_lt_mul_of_pos_right (by omega) leadingBit_pos
  · calc (a : ℚ) / b < 2 * f.leadingBit * 2 ^ q := hbelow
      _ ≤ 2 * f.leadingBit * 2 ^ (f.greatestExponent - 1) :=
        mul_le_mul_of_nonneg_left (zpow_le_zpow_right₀ one_le_two (by omega)) (by linarith)
      _ < f.threshold := mul_lt_mul_of_pos_right (by linarith) (by positivity)

/-- At the greatest exponent a carry does, and a half is carried, to the even neighbour. -/
theorem rounded_lt_iff (hbits : 2 ≤ f.exponentBits) (hb : 0 < b) (hq : q = f.greatestExponent) :
    (q - f.leastExponent).toNat * f.leadingBit +
        roundHalfEven (a * power 2 (-q)) (b * power 2 q) < f.infinity ↔
      (a : ℚ) / b < f.threshold := by
  have hd : 0 < b * power 2 q := Nat.mul_pos hb (power_two_pos q)
  have hcarry : (q - f.leastExponent).toNat * f.leadingBit +
      roundHalfEven (a * power 2 (-q)) (b * power 2 q) < f.infinity ↔
        roundHalfEven (a * power 2 (-q)) (b * power 2 q) < 2 * f.leadingBit := by
    rw [infinity_eq hbits, ← hq, Nat.add_mul]
    omega
  have hhalf : 2 * (a * power 2 (-q)) + b * power 2 q < b * power 2 q * (2 * (2 * f.leadingBit)) ↔
      ((a * power 2 (-q) : Nat) : ℚ) < (2 * f.leadingBit - 1 / 2) * (b * power 2 q : Nat) := by
    rw [← Nat.cast_lt (α := ℚ)]
    push_cast
    constructor <;> intro h <;> linarith
  have hend : (2 * f.leadingBit - 1 / 2) * 2 ^ q = f.threshold := by
    have htwice : (2 : ℚ) ^ q = 2 * 2 ^ (f.greatestExponent - 1) := by
      rw [← zpow_one_add₀ two_ne_zero, add_sub_cancel, hq]
    rw [htwice, threshold]
    ring
  rw [hcarry, roundHalfEven_lt_iff hd (Nat.mul_mod_right 2 _), hhalf, scaled_lt_iff hb, hend]

/-- Above it the leading bit alone does. -/
theorem infinity_le_rounded (hbits : 2 ≤ f.exponentBits) (hb : 0 < b) (hq : f.greatestExponent < q)
    (hlow : f.leadingBit * 2 ^ q ≤ (a : ℚ) / b) :
    f.infinity ≤ (q - f.leastExponent).toNat * f.leadingBit +
        roundHalfEven (a * power 2 (-q)) (b * power 2 q) ∧
      f.threshold ≤ (a : ℚ) / b := by
  have hsignificand := leadingBit_le_significand hb hlow
  have hgreatest := leastExponent_lt_greatestExponent hbits
  constructor
  · calc f.infinity ≤ ((q - f.leastExponent).toNat + 1) * f.leadingBit := by
          rw [infinity_eq hbits]
          exact Nat.mul_le_mul_right _ (by omega)
      _ ≤ _ := by rw [Nat.add_mul]; omega
  · calc f.threshold ≤ 4 * f.leadingBit * 2 ^ (f.greatestExponent - 1) :=
          mul_le_mul_of_nonneg_right (by linarith) (by positivity)
      _ = f.leadingBit * 2 ^ (f.greatestExponent - 1 + 2) := by
          rw [zpow_add₀ two_ne_zero]
          ring
      _ ≤ f.leadingBit * 2 ^ q :=
          mul_le_mul_of_nonneg_left (zpow_le_zpow_right₀ one_le_two (by omega)) (by positivity)
      _ ≤ (a : ℚ) / b := hlow

end

/-- **Where rounding overflows**: half a step above the greatest finite magnitude. -/
theorem nearest_lt_infinity_iff (hbits : 2 ≤ f.exponentBits) (hb : 0 < b) :
    f.nearest a b < f.infinity ↔ (a : ℚ) / b < f.threshold := by
  rcases Nat.eq_zero_or_pos a with rfl | ha
  · have hzero : f.nearest 0 b = 0 := by simp [nearest]
    rw [hzero, infinity_eq hbits, Nat.cast_zero, zero_div]
    exact iff_of_true (Nat.mul_pos (by omega) leadingBit_pos) threshold_pos
  obtain ⟨q, hleast, hbelow, habove, hnearest⟩ := exists_rounded (f := f) ha hb
  have hgreatest := leastExponent_lt_greatestExponent hbits
  rw [hnearest, min_lt_iff, or_iff_right (lt_irrefl _)]
  rcases lt_trichotomy q f.greatestExponent with hq | hq | hq
  · obtain ⟨hrounded, hvalue⟩ := rounded_lt_of_lt hbits hb hleast hq hbelow
    exact iff_of_true hrounded hvalue
  · exact rounded_lt_iff hbits hb hq
  · obtain ⟨hrounded, hvalue⟩ := infinity_le_rounded hbits hb hq (habove (by omega))
    exact iff_of_false hrounded.not_gt hvalue.not_gt

/-- The finite readings are those of the patterns below infinity. -/
theorem exists_read_finite_iff {bits : Nat} :
    (∃ negative m q, f.read bits = .finite negative m q) ↔ bits % f.signBit < f.infinity := by
  constructor
  · rintro ⟨negative, m, q, h⟩
    obtain ⟨-, hpattern, hlt, -⟩ := read_finite h
    exact hpattern ▸ hlt
  · intro h
    unfold read
    dsimp only
    rw [if_neg (Nat.not_lt.2 h.le), if_neg h.ne]
    split
    · exact ⟨_, _, _, rfl⟩
    · exact ⟨_, _, _, rfl⟩

end Format

/-- The number that is read, zero where there is none. -/
def Reading.value : Reading → ℚ
  | .finite negative m q => (if negative then -1 else 1) * (m * 2 ^ q)
  | .infinite _ | .nan => 0

theorem Reading.abs_value (negative : Bool) (m : Nat) (q : Int) :
    |(Reading.finite negative m q).value| = m * 2 ^ q := by
  have hnonneg : (0 : ℚ) ≤ m * 2 ^ q := by positivity
  cases negative <;> simp [value, abs_of_nonneg hnonneg]

end Binary

open Binary Format

namespace Double

variable {x y : Double} {m : Nat} {q : Int} {negative : Bool}

/-- The number that a double is, zero for the infinities and NaNs. -/
def value (x : Double) : ℚ :=
  x.read.value

theorem abs_value_of_read (h : x.read = .finite negative m q) : |x.value| = m * 2 ^ q := by
  rw [value, h, Reading.abs_value]

theorem eq_infinity (h : x.read = .infinite negative) : x = infinity negative := by
  obtain ⟨hm, hn⟩ := read_infinite h
  rw [eq_ofMagnitude x, hm, ← hn]
  rfl

theorem isFinite_iff : x.isFinite = true ↔ ∃ negative m q, x.read = .finite negative m q := by
  unfold isFinite
  cases x.read <;> simp

theorem isFinite_ofMagnitude {magnitude : Nat} (h : magnitude ≤ double.infinity) (negative : Bool) :
    (ofMagnitude negative magnitude).isFinite = true ↔ magnitude < double.infinity := by
  have hsign := h.trans_lt infinity_lt_signBit
  rw [isFinite_iff, read, exists_read_finite_iff, bits_ofMagnitude hsign, withSign_mod hsign]

theorem isFinite_negate (x : Double) : x.negate.isFinite = x.isFinite := by
  have hbits : x.negate.bits.toNat % double.signBit =
      x.bits.toNat % double.signBit := by
    show (x.bits.toNat ^^^ 2 ^ 63) % 2 ^ 63 = x.bits.toNat % 2 ^ 63
    rw [Nat.xor_mod_two_pow, Nat.mod_self, Nat.xor_zero]
  rw [Bool.eq_iff_iff, isFinite_iff, isFinite_iff, read, read, exists_read_finite_iff,
    exists_read_finite_iff, hbits]

/-- A quotient of naturals is finite below the threshold. -/
theorem isFinite_nearest_iff (negative : Bool) {a b : Nat} (hb : 0 < b) :
    (nearest negative a b).isFinite = true ↔ (a : ℚ) / b < double.threshold := by
  rw [nearest, isFinite_ofMagnitude (nearest_le a b), nearest_lt_infinity_iff (by decide) hb]

/-- Whole numbers are finite below `2 ^ 1024 - 2 ^ 970`. -/
theorem isFinite_nearest_one_iff (negative : Bool) {n : Nat} :
    (nearest negative n 1).isFinite = true ↔ n + 2 ^ 970 < 2 ^ 1024 := by
  rw [isFinite_nearest_iff _ Nat.one_pos, double_threshold, Nat.cast_one, div_one,
    lt_sub_iff_add_lt]
  exact_mod_cast Iff.rfl

/-- Integers of 64 bits are finite. -/
theorem isFinite_ofInt {n : Int} (h : n.natAbs ≤ 2 ^ 64) : (ofInt n).isFinite = true :=
  (isFinite_nearest_one_iff _).2 ((Nat.add_le_add_right h _).trans_lt (by decide +kernel))

/-- Finite doubles are below the threshold. -/
theorem abs_value_lt_threshold (h : x.isFinite = true) : |x.value| < double.threshold := by
  obtain ⟨negative, m, q, hx⟩ := isFinite_iff.1 h
  obtain ⟨hs, -, hlt, -⟩ := read_finite hx
  rw [abs_value_of_read hx, ← ratio_eq, ← nearest_lt_infinity_iff (by decide) (power_two_pos _),
    nearest_of_stored hs (power_two_pos _) (ratio_eq m q)]
  exact (Nat.min_le_right ..).trans_lt hlt

/-- What is no number has no value. -/
theorem isFinite_of_value (h : x.value ≠ 0) : x.isFinite = true := by
  cases hx : x.read with
  | finite negative m q => exact isFinite_iff.2 ⟨negative, m, q, hx⟩
  | infinite negative => exact absurd (by rw [value, hx, Reading.value]) h
  | nan => exact absurd (by rw [value, hx, Reading.value]) h

/-- Division by at least one leads no further from zero. -/
theorem isFinite_div (hx : x.isFinite = true) (hy : 1 ≤ |y.value|) : (x.div y).isFinite = true := by
  have hpos : 0 < |y.value| := one_pos.trans_le hy
  obtain ⟨negative, m, q, hxr⟩ := isFinite_iff.1 hx
  obtain ⟨negative', n, r, hyr⟩ := isFinite_iff.1 (isFinite_of_value (abs_pos.1 hpos))
  rw [abs_value_of_read hyr] at hy hpos
  have hn : n ≠ 0 := by
    rintro rfl
    rw [Nat.cast_zero, zero_mul] at hpos
    exact lt_irrefl _ hpos
  have hpower := power_div_power (q - r)
  rw [neg_sub] at hpower
  have hquotient : ((m * power 2 (q - r) : Nat) : ℚ) / (n * power 2 (r - q) : Nat) =
      m * 2 ^ q / (n * 2 ^ r) := by
    push_cast
    rw [mul_div_mul_comm, hpower, zpow_sub₀ two_ne_zero, div_mul_div_comm]
  rw [div_of_read hxr hyr hn,
    isFinite_nearest_iff _ (Nat.mul_pos (Nat.pos_of_ne_zero hn) (power_two_pos _)), hquotient]
  have hvalue := abs_value_lt_threshold hx
  rw [abs_value_of_read hxr] at hvalue
  exact (div_le_self (by positivity) hy).trans_lt hvalue

/-- A stored magnitude below infinity is what its double reads as. -/
theorem read_ofMagnitude (hs : double.Stored m q) (h : double.pattern m q < double.infinity)
    (negative : Bool) :
    (ofMagnitude negative (double.pattern m q)).read = .finite negative m q := by
  rw [read, bits_ofMagnitude (h.trans infinity_lt_signBit), read_withSign hs h]

/-- A natural number other than zero is no less than one as a double. -/
theorem one_le_value_ofNat {n : Nat} (hn : 0 < n) (hfinite : (ofNat n).isFinite = true) :
    1 ≤ |(ofNat n).value| := by
  have hfraction : double.fractionBits = 52 := rfl
  obtain ⟨m, q, hs, hlead, hlow, -, hnearest⟩ := exists_nearest_natural (f := double) hn
    (by rw [double_leastExponent, hfraction]; omega)
  rw [ofNat, nearest, isFinite_ofMagnitude (nearest_le n 1), hnearest] at hfinite
  have hpattern : double.pattern m q < double.infinity := by simpa using hfinite
  have hread : (ofNat n).read = .finite false m q := by
    rw [ofNat, nearest, hnearest, Nat.min_eq_right hpattern.le, read_ofMagnitude hs hpattern]
  have hm : (2 : ℚ) ^ (52 : Int) ≤ m := by
    rw [double_leadingBit] at hlead
    exact_mod_cast hlead
  rw [abs_value_of_read hread]
  calc (1 : ℚ) ≤ 2 ^ (n.log2 : Int) := one_le_zpow₀ one_le_two (by omega)
    _ = 2 ^ (52 : Int) * 2 ^ ((n.log2 : Int) - 52) := by
      rw [← zpow_add₀ two_ne_zero, add_sub_cancel]
    _ ≤ m * 2 ^ q := by
      rw [hfraction] at hlow
      exact mul_le_mul hm (zpow_le_zpow_right₀ one_le_two hlow) (by positivity) (by positivity)

/-- The double nearest to a number that some double is. -/
theorem ofScaled_of_read {k : Nat} {r : Int} (hx : x.read = .finite negative k r)
    (hvalue : (m : ℚ) * 2 ^ q = k * 2 ^ r) : ofScaled negative m q = x := by
  obtain ⟨hs, hp, hlt, hn⟩ := read_finite hx
  rw [ofScaled, nearest, nearest_of_stored hs (power_two_pos _) ((ratio_eq m q).trans hvalue),
    Nat.min_eq_right hlt.le, hp, hn, ← eq_ofMagnitude]

end Double

namespace Single

variable {x : Double}

theorem isFinite_ofMagnitude {magnitude : Nat} (h : magnitude ≤ single.infinity) (negative : Bool) :
    (ofMagnitude negative magnitude).isFinite = true ↔ magnitude < single.infinity := by
  have hsign := h.trans_lt infinity_lt_signBit
  have hread : (ofMagnitude negative magnitude).isFinite = true ↔
      ∃ negative' m q, (ofMagnitude negative magnitude).read = .finite negative' m q := by
    unfold isFinite
    cases (ofMagnitude negative magnitude).read <;> simp
  rw [hread, read, exists_read_finite_iff, bits_ofMagnitude hsign, withSign_mod hsign]

/-- **A double stays finite as a single below half a step past the greatest single.** -/
theorem isFinite_ofDouble_iff (hx : x.isFinite = true) :
    (ofDouble x).isFinite = true ↔ |x.value| < 2 ^ 128 - 2 ^ 103 := by
  obtain ⟨negative, m, q, hread⟩ := Double.isFinite_iff.1 hx
  rw [ofDouble, hread]
  dsimp only
  rw [isFinite_ofMagnitude (nearest_le ..), nearest_lt_infinity_iff (by decide) (power_two_pos _),
    ratio_eq, single_threshold, Double.abs_value_of_read hread]

theorem widen_infinity (negative : Bool) :
    (ofMagnitude negative single.infinity).widen = Double.infinity negative := by
  cases negative <;> decide

/-- From there on it becomes an infinity. -/
theorem widen_ofDouble_of_threshold {negative : Bool} {m : Nat} {q : Int}
    (hread : x.read = .finite negative m q) (hfar : 2 ^ 128 - 2 ^ 103 ≤ |x.value|) :
    (ofDouble x).widen = Double.infinity negative := by
  have hover : ¬single.nearest (m * power 2 q) (power 2 (-q)) < single.infinity := by
    rw [nearest_lt_infinity_iff (by decide) (power_two_pos _), ratio_eq, single_threshold,
      ← Double.abs_value_of_read hread]
    exact not_lt.2 hfar
  have hinfinity := (nearest_le (f := single) ..).antisymm (Nat.not_lt.1 hover)
  rw [ofDouble, hread]
  dsimp only
  rw [hinfinity, widen_infinity]

/-- The exponents of finite singles. -/
theorem exponent_le {y : Single} {m : Nat} {q : Int} {negative : Bool}
    (h : y.read = .finite negative m q) : q ≤ 104 := by
  obtain ⟨hs, -, hlt, -⟩ := read_finite h
  rw [pattern, single_infinity, single_leadingBit, single_leastExponent] at hlt
  by_contra hq
  have hlead := hs.leading (by rw [single_leastExponent]; omega)
  rw [single_leadingBit] at hlead
  omega

/-- A number of at most 24 bits at an exponent of singles is a single. -/
theorem exists_read {m : Nat} {e : Int} (hm : 0 < m) (hbits : m < 2 ^ 24) (hlow : -149 ≤ e)
    (hhigh : e ≤ 104) (negative : Bool) :
    ∃ (y : Single) (k : Nat), y.read = .finite negative (m * 2 ^ k) (e - k) := by
  obtain ⟨k, -, hs⟩ := exists_stored (f := single) hm (by rw [single_leadingBit]; omega)
    (single_leastExponent.trans_le hlow)
  have hbelow := hs.below
  rw [single_leadingBit] at hbelow
  have hlt : single.pattern (m * 2 ^ k) (e - k) < single.infinity := by
    rw [pattern, single_infinity, single_leadingBit, single_leastExponent]
    omega
  have hread : (ofMagnitude negative (single.pattern (m * 2 ^ k) (e - k))).read =
      .finite negative (m * 2 ^ k) (e - k) := by
    rw [read, bits_ofMagnitude (hlt.trans infinity_lt_signBit), read_withSign hs hlt]
  exact ⟨_, k, hread⟩

/-- **The doubles that singles widen to**: of the numbers other than zero, those of at most 24 bits
at an exponent of singles. -/
theorem exists_widen_iff (hx : x.isFinite = true) (hzero : x.isZero = false) :
    (∃ y : Single, y.widen = x) ↔
      ∃ (m : Nat) (e : Int), 0 < m ∧ m < 2 ^ 24 ∧ -149 ≤ e ∧ e ≤ 104 ∧ |x.value| = m * 2 ^ e := by
  constructor
  · rintro ⟨y, rfl⟩
    cases hy : y.read with
    | nan =>
      rw [Double.isFinite, widen_nan hy] at hx
      cases hx
    | infinite negative =>
      rw [eq_infinity hy] at hx
      cases negative <;> exact absurd hx (by decide)
    | finite negative m q =>
      obtain ⟨hs, -⟩ := read_finite hy
      obtain ⟨k, hk⟩ := read_widen hy
      have hbelow := hs.below
      have hleast := hs.least
      rw [single_leadingBit] at hbelow
      rw [single_leastExponent] at hleast
      have hm : m ≠ 0 := by
        rintro rfl
        rw [Double.isZero, hk] at hzero
        simp at hzero
      refine ⟨m, q, Nat.pos_of_ne_zero hm, by omega, hleast, exponent_le hy, ?_⟩
      rw [Double.abs_value_of_read hk, shifted_value]
  · rintro ⟨m, e, hm, hbits, hlow, hhigh, hvalue⟩
    obtain ⟨negative, n, r, hread⟩ := Double.isFinite_iff.1 hx
    obtain ⟨y, k, hy⟩ := exists_read hm hbits hlow hhigh negative
    refine ⟨y, ?_⟩
    rw [widen, hy]
    refine Double.ofScaled_of_read hread ?_
    rw [shifted_value, ← hvalue, Double.abs_value_of_read hread]

end Single

end ModelProbe

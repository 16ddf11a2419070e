import Mathlib.Algebra.Order.Field.Power
import Mathlib.Data.Int.Log
import Mathlib.Data.Rat.Floor
import Mathlib.Tactic.FieldSimp
import Mathlib.Tactic.Linarith
import Mathlib.Tactic.NormNum
import Mathlib.Tactic.Positivity
import Mathlib.Tactic.Ring
import ModelProbe.Binary.Single

/-! Rounding is exact where it can be.

A pattern stores a significand and an exponent (`Format.Stored`), and the significands that
lack the leading bit are those of the least exponent. Reading a finite pattern gives what it
stores (`read_finite`), a stored magnitude below infinity reads back (`read_withSign`), and a
quotient of naturals that equals a stored magnitude is rounded to its pattern
(`nearest_of_stored`), whichever naturals make the quotient. -/
namespace ModelProbe.Binary

/-! ### Powers of two as quotients -/

theorem power_two_pos (e : Int) : 0 < power 2 e :=
  Nat.pow_pos (by decide)

/-- The quotient a power stands for. -/
theorem power_div_power (e : Int) : (power 2 e : ℚ) / power 2 (-e) = 2 ^ e := by
  simp only [power, Nat.pow_eq, Nat.cast_pow, Nat.cast_ofNat]
  rcases Int.le_total 0 e with he | he
  · have hn : (-e).toNat = 0 := by omega
    rw [hn, pow_zero, div_one, ← zpow_natCast, Int.toNat_of_nonneg he]
  · have hn : e.toNat = 0 := by omega
    rw [hn, pow_zero, one_div, ← zpow_natCast, Int.toNat_of_nonneg (by omega), zpow_neg, inv_inv]

namespace Format

/-! ### The rounding of a stored magnitude -/

variable (f : Format)

/-- The leading exponent is the logarithm: it depends on the quotient alone. -/
theorem leadingExponent_eq_log {a b : Nat} (ha : 0 < a) (hb : 0 < b) :
    leadingExponent a b = Int.log 2 ((a : ℚ) / b) := by
  have ha' : (0 : ℚ) < a := by exact_mod_cast ha
  have hb' : (0 : ℚ) < b := by exact_mod_cast hb
  have hr : (0 : ℚ) < (a : ℚ) / b := by positivity
  set e : Int := (a.log2 : Int) - b.log2 with he
  have htest : b * power 2 e ≤ a * power 2 (-e) ↔ (2 : ℚ) ^ e ≤ (a : ℚ) / b := by
    have hn : (0 : ℚ) < power 2 (-e) := by exact_mod_cast power_two_pos (-e)
    rw [← power_div_power e, div_le_div_iff₀ hn hb', ← Nat.cast_mul, ← Nat.cast_mul, Nat.cast_le,
      Nat.mul_comm b]
  have hlow : (2 : ℚ) ^ (e - 1) ≤ (a : ℚ) / b := by
    have h₁ : (2 : ℚ) ^ a.log2 ≤ a := by exact_mod_cast Nat.log2_self_le ha.ne'
    have h₂ : (b : ℚ) ≤ 2 ^ (b.log2 + 1) := by exact_mod_cast (Nat.lt_log2_self (n := b)).le
    have hs : e - 1 = (a.log2 : Int) - ((b.log2 + 1 : Nat) : Int) := by push_cast; omega
    rw [hs, zpow_sub₀ (by norm_num), zpow_natCast, zpow_natCast]
    exact div_le_div₀ ha'.le h₁ hb' h₂
  have hhigh : (a : ℚ) / b < 2 ^ (e + 1) := by
    have h₁ : (a : ℚ) < 2 ^ (a.log2 + 1) := by exact_mod_cast Nat.lt_log2_self (n := a)
    have h₂ : (2 : ℚ) ^ b.log2 ≤ b := by exact_mod_cast Nat.log2_self_le hb.ne'
    have hs : e + 1 = ((a.log2 + 1 : Nat) : Int) - (b.log2 : Int) := by push_cast; omega
    rw [hs, zpow_sub₀ (by norm_num), zpow_natCast, zpow_natCast]
    exact div_lt_div₀ h₁ h₂ (by positivity) (by positivity)
  have h₁ := (Int.zpow_le_iff_le_log (by norm_num : 1 < (2 : ℕ)) hr (x := e - 1)).1
    (by exact_mod_cast hlow)
  have h₂ := (Int.lt_zpow_iff_log_lt (by norm_num : 1 < (2 : ℕ)) hr (x := e + 1)).1
    (by exact_mod_cast hhigh)
  have h₃ := Int.zpow_le_iff_le_log (by norm_num : 1 < (2 : ℕ)) hr (x := e)
  rw [Nat.cast_ofNat, ← htest] at h₃
  unfold leadingExponent
  rw [← he]
  dsimp only
  split
  · rename_i h
    have := h₃.1 h
    omega
  · rename_i h
    have := fun h' => h (h₃.2 h')
    omega

/-- The significands and exponents that patterns store. The leading bit is missing only at the
least exponent. -/
structure Stored (m : Nat) (q : Int) : Prop where
  least : f.leastExponent ≤ q
  below : m < 2 * f.leadingBit
  leading : q ≠ f.leastExponent → f.leadingBit ≤ m

/-- The magnitude pattern of a stored significand and exponent. -/
def pattern (m : Nat) (q : Int) : Nat :=
  (q - f.leastExponent).toNat * f.leadingBit + m

variable {f}

theorem leadingBit_eq : f.leadingBit = 2 ^ f.fractionBits := rfl

theorem leadingBit_pos : 0 < f.leadingBit :=
  Nat.pow_pos (by decide)

theorem roundHalfEven_mul (d n : Nat) (hd : 0 < d) : roundHalfEven (d * n) d = n := by
  simp [roundHalfEven, Nat.mul_div_cancel_left n hd, hd]

/-- The logarithm of a stored magnitude decides its exponent. -/
theorem Stored.exponent_eq {m : Nat} {q : Int} (h : f.Stored m q) (hm : 0 < m) :
    max (Int.log 2 ((m : ℚ) * 2 ^ q) - f.fractionBits) f.leastExponent = q := by
  have hm' : (0 : ℚ) < m := by exact_mod_cast hm
  have hpos : (0 : ℚ) < (m : ℚ) * 2 ^ q := by positivity
  have hbelow : (m : ℚ) < 2 ^ (f.fractionBits + 1 : Int) := by
    have := h.below
    rw [leadingBit_eq, ← Nat.pow_succ'] at this
    exact_mod_cast this
  have hlog : Int.log 2 ((m : ℚ) * 2 ^ q) < f.fractionBits + 1 + q := by
    refine (Int.lt_zpow_iff_log_lt (by norm_num : 1 < (2 : ℕ)) hpos).1 ?_
    rw [Nat.cast_ofNat, zpow_add₀ (by norm_num)]
    exact mul_lt_mul_of_pos_right hbelow (by positivity)
  have hleast := h.least
  by_cases hq : q = f.leastExponent
  · omega
  · have hlead : (2 : ℚ) ^ (f.fractionBits : Int) ≤ m := by
      have := h.leading hq
      rw [leadingBit_eq] at this
      exact_mod_cast this
    have hlog' : (f.fractionBits : Int) + q ≤ Int.log 2 ((m : ℚ) * 2 ^ q) := by
      refine (Int.zpow_le_iff_le_log (by norm_num : 1 < (2 : ℕ)) hpos).1 ?_
      rw [Nat.cast_ofNat, zpow_add₀ (by norm_num)]
      exact mul_le_mul_of_nonneg_right hlead (by positivity)
    omega

/-- A quotient that equals a stored magnitude is rounded to its pattern. -/
theorem nearest_of_stored {m : Nat} {q : Int} (h : f.Stored m q) {a b : Nat} (hb : 0 < b)
    (hv : (a : ℚ) / b = m * 2 ^ q) : f.nearest a b = min f.infinity (f.pattern m q) := by
  have hb' : (0 : ℚ) < b := by exact_mod_cast hb
  rcases Nat.eq_zero_or_pos m with rfl | hm
  · have ha : a = 0 := by
      rw [Nat.cast_zero, zero_mul, div_eq_zero_iff] at hv
      exact_mod_cast hv.resolve_right hb'.ne'
    have hq : q = f.leastExponent := by
      by_contra hq
      exact absurd (h.leading hq) (Nat.not_le.2 leadingBit_pos)
    simp [nearest, ha, pattern, hq]
  · have ha : 0 < a := by
      rcases Nat.eq_zero_or_pos a with rfl | ha
      · rw [Nat.cast_zero, zero_div] at hv
        exact absurd hv (by positivity)
      · exact ha
    have hscaled : a * power 2 (-q) = b * power 2 q * m := by
      have hn : (0 : ℚ) < power 2 (-q) := by exact_mod_cast power_two_pos (-q)
      rw [← power_div_power q, mul_div_assoc', div_eq_div_iff hb'.ne' hn.ne'] at hv
      have hv' : a * power 2 (-q) = m * power 2 q * b := by exact_mod_cast hv
      rw [hv']
      ring
    unfold nearest
    rw [if_neg ha.ne', leadingExponent_eq_log ha hb, hv]
    dsimp only
    rw [h.exponent_eq hm, hscaled, roundHalfEven_mul _ _ (Nat.mul_pos hb (power_two_pos q))]
    rfl

/-! ### Reading patterns -/

theorem signBit_eq : f.signBit = f.leadingBit * 2 ^ f.exponentBits := by
  simp [signBit, leadingBit, Nat.pow_add]

theorem infinity_lt_signBit : f.infinity < f.signBit := by
  have h₁ : 0 < 2 ^ f.exponentBits := Nat.two_pow_pos _
  have h₂ := leadingBit_pos (f := f)
  rw [signBit_eq, infinity, Nat.pow_eq, Nat.mul_comm]
  exact Nat.mul_lt_mul_of_pos_left (by omega) h₂

/-- What a finite reading says of its pattern. -/
theorem read_finite {bits m : Nat} {q : Int} {negative : Bool}
    (h : f.read bits = .finite negative m q) :
    f.Stored m q ∧ f.pattern m q = bits % f.signBit ∧ f.pattern m q < f.infinity ∧
      negative = (bits / f.signBit % 2 == 1) := by
  have hlead := leadingBit_pos (f := f)
  have hdiv := Nat.div_add_mod (bits % f.signBit) f.leadingBit
  have hmod := Nat.mod_lt (bits % f.signBit) hlead
  unfold read at h
  dsimp only at h
  split at h
  · cases h
  · split at h
    · cases h
    · rename_i hnan hinf
      split at h
      · rename_i hfield
        cases h
        rw [hfield, Nat.mul_zero, Nat.zero_add] at hdiv
        refine ⟨⟨le_refl _, by omega, fun hq => absurd rfl hq⟩, ?_, ?_, rfl⟩
        · simp [pattern, hdiv]
        · simp only [pattern, sub_self, Int.toNat_zero, Nat.zero_mul, Nat.zero_add, hdiv]
          omega
      · rename_i hfield
        cases h
        have hpattern : f.pattern (f.leadingBit + bits % f.signBit % f.leadingBit)
            (f.leastExponent + (bits % f.signBit / f.leadingBit - 1 : Nat)) = bits % f.signBit := by
          obtain ⟨field, hs⟩ := Nat.exists_eq_succ_of_ne_zero hfield
          rw [hs] at hdiv ⊢
          rw [pattern, add_sub_cancel_left, Int.toNat_natCast, Nat.succ_sub_one]
          rw [Nat.mul_succ] at hdiv
          rw [Nat.mul_comm field]
          omega
        refine ⟨⟨by omega, by omega, fun _ => Nat.le_add_right _ _⟩, hpattern, ?_, rfl⟩
        rw [hpattern]
        omega

/-- What an infinite reading says of its pattern. -/
theorem read_infinite {bits : Nat} {negative : Bool} (h : f.read bits = .infinite negative) :
    bits % f.signBit = f.infinity ∧ negative = (bits / f.signBit % 2 == 1) := by
  unfold read at h
  dsimp only at h
  split at h
  · cases h
  · split at h
    · rename_i hinf
      cases h
      exact ⟨hinf, rfl⟩
    · split at h <;> cases h

theorem withSign_mod {magnitude : Nat} (h : magnitude < f.signBit) (negative : Bool) :
    f.withSign negative magnitude % f.signBit = magnitude := by
  cases negative <;> simp [withSign, Nat.mod_eq_of_lt h]

theorem withSign_div {magnitude : Nat} (h : magnitude < f.signBit) (negative : Bool) :
    (f.withSign negative magnitude / f.signBit % 2 == 1) = negative := by
  have hs : 0 < f.signBit := Nat.zero_lt_of_lt h
  cases negative <;> simp [withSign, Nat.div_eq_of_lt h, hs]

/-- Bits are a magnitude with a sign. -/
theorem withSign_of_lt {bits : Nat} (h : bits < 2 * f.signBit) :
    f.withSign (bits / f.signBit % 2 == 1) (bits % f.signBit) = bits := by
  have hdiv := Nat.div_add_mod bits f.signBit
  have hlt : bits / f.signBit < 2 := Nat.div_lt_of_lt_mul (by rwa [Nat.mul_comm] at h)
  rcases Nat.le_one_iff_eq_zero_or_eq_one.1 (Nat.le_of_lt_succ hlt) with h | h <;> rw [h] at hdiv ⊢
  · simpa [withSign] using hdiv
  · simpa [withSign] using hdiv

/-- A stored magnitude below infinity reads back from its pattern, with its sign. -/
theorem read_withSign {m : Nat} {q : Int} (h : f.Stored m q) (hp : f.pattern m q < f.infinity)
    (negative : Bool) : f.read (f.withSign negative (f.pattern m q)) = .finite negative m q := by
  have hlead := leadingBit_pos (f := f)
  have hsign := hp.trans infinity_lt_signBit
  have hleast := h.least
  have hbelow := h.below
  unfold read
  simp only [withSign_mod hsign, withSign_div hsign, if_neg (Nat.not_lt.2 hp.le), if_neg hp.ne]
  rcases Nat.lt_or_ge m f.leadingBit with hm | hm
  · have hq : q = f.leastExponent := by
      by_contra hq
      exact absurd (h.leading hq) (Nat.not_le.2 hm)
    simp [pattern, hq, Nat.div_eq_of_lt hm, Nat.mod_eq_of_lt hm]
  · have hpattern : f.pattern m q =
        f.leadingBit * ((q - f.leastExponent).toNat + 1) + (m - f.leadingBit) := by
      rw [pattern, Nat.mul_succ, Nat.mul_comm]
      omega
    have hrest : m - f.leadingBit < f.leadingBit := by omega
    have hfield : f.pattern m q / f.leadingBit = (q - f.leastExponent).toNat + 1 := by
      rw [hpattern, Nat.mul_add_div hlead, Nat.div_eq_of_lt hrest, Nat.add_zero]
    have hfraction : f.pattern m q % f.leadingBit = m - f.leadingBit := by
      rw [hpattern, Nat.mul_add_mod, Nat.mod_eq_of_lt hrest]
    rw [hfield, hfraction, if_neg (Nat.succ_ne_zero _), Nat.succ_sub_one,
      Int.toNat_of_nonneg (by omega), Nat.add_sub_cancel' hm, add_sub_cancel]

/-- A significand of no more bits than a pattern holds can be stored at every exponent from the
least on: shifted until the leading bit is there, or down to the least exponent. -/
theorem exists_stored {m : Nat} {q : Int} (hm : 0 < m) (hbelow : m < 2 * f.leadingBit)
    (hq : f.leastExponent ≤ q) :
    ∃ k ≤ f.fractionBits, f.Stored (m * 2 ^ k) (q - k) := by
  have hlow : 2 ^ m.log2 ≤ m := Nat.log2_self_le hm.ne'
  have hhigh : m < 2 ^ (m.log2 + 1) := Nat.lt_log2_self
  have hlog : m.log2 ≤ f.fractionBits := by
    rw [leadingBit_eq, ← Nat.pow_succ'] at hbelow
    exact Nat.le_of_lt_succ ((Nat.log2_lt hm.ne').2 hbelow)
  have hbits : f.leadingBit = 2 ^ m.log2 * 2 ^ (f.fractionBits - m.log2) := by
    rw [← Nat.pow_add, Nat.add_sub_cancel' hlog, leadingBit_eq]
  set k := min (f.fractionBits - m.log2) (q - f.leastExponent).toNat with hk
  refine ⟨k, by omega, by omega, ?_, fun hne => ?_⟩
  · calc m * 2 ^ k < 2 ^ (m.log2 + 1) * 2 ^ k :=
        Nat.mul_lt_mul_of_pos_right hhigh (Nat.two_pow_pos _)
      _ ≤ 2 ^ (m.log2 + 1) * 2 ^ (f.fractionBits - m.log2) :=
        Nat.mul_le_mul_left _ (Nat.pow_le_pow_right Nat.two_pos (by omega))
      _ = 2 * f.leadingBit := by rw [hbits, Nat.pow_succ', Nat.mul_assoc]
  · have hleading : k = f.fractionBits - m.log2 := by omega
    rw [hbits, hleading]
    exact Nat.mul_le_mul_right _ hlow

end Format

end ModelProbe.Binary

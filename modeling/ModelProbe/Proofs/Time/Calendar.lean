import Mathlib.Algebra.Order.BigOperators.Group.List
import Mathlib.Algebra.Order.Ring.Nat
import ModelProbe.Time.Calendar

/-! The dates there are, and their order.

A date that is made has a year in range, a month of the twelve and a day that the month has
(`Valid`), in whichever way it is made: from its parts, from its place in the year, from a number
of days or from a week. On valid dates the numbers of days ascend with year, month and day
(`number_lt_number`), since a year begins where the one before it ends (`daysBefore_succ`). -/
namespace ModelProbe.Time.Date

structure Valid (d : Date) : Prop where
  year_ge : minYear ≤ d.year
  year_le : d.year ≤ maxYear
  month_pos : 1 ≤ d.month
  day_pos : 1 ≤ d.day
  day_le : d.day ≤ (monthLengths d.year).getD (d.month - 1) 0

instance (d : Date) : Decidable d.Valid :=
  decidable_of_iff (minYear ≤ d.year ∧ d.year ≤ maxYear ∧ 1 ≤ d.month ∧ 1 ≤ d.day ∧
      d.day ≤ (monthLengths d.year).getD (d.month - 1) 0)
    ⟨fun ⟨hmin, hmax, hmonth, hday, hle⟩ => ⟨hmin, hmax, hmonth, hday, hle⟩,
      fun h => ⟨h.year_ge, h.year_le, h.month_pos, h.day_pos, h.day_le⟩⟩

variable {d : Date}

/-- No month after the twelfth has a day. -/
theorem Valid.month_le (h : d.Valid) : d.month ≤ 12 := by
  by_contra hmonth
  have hday := h.day_le
  have hlength : (monthLengths d.year).length ≤ d.month - 1 := by
    show 12 ≤ d.month - 1
    omega
  rw [List.getD_eq_getElem?_getD, List.getElem?_eq_none hlength] at hday
  exact absurd (h.day_pos.trans hday) (by decide)

theorem length_le_31 {year : Int} {length : Nat} (h : length ∈ monthLengths year) :
    length ≤ 31 := by
  unfold monthLengths at h
  simp only [List.mem_cons, List.not_mem_nil, or_false] at h
  split at h <;> omega

/-- No month has more than 31 days. -/
theorem Valid.day_le_31 (h : d.Valid) : d.day ≤ 31 := by
  refine h.day_le.trans ?_
  rw [List.getD_eq_getElem?_getD]
  cases hmonth : (monthLengths d.year)[d.month - 1]? with
  | none => exact Nat.zero_le _
  | some length => exact length_le_31 (List.mem_of_getElem? hmonth)

/-! ### Making dates -/

theorem ofYmd?_eq_some_iff {year : Int} {month day : Nat} :
    ofYmd? year month day = some d ↔ d = ⟨year, month, day⟩ ∧ d.Valid := by
  unfold ofYmd?
  constructor
  · intro h
    split at h
    · rename_i hvalid
      cases h
      obtain ⟨hmin, hmax, hmonth, hday, hle⟩ := hvalid
      exact ⟨rfl, hmin, hmax, hmonth, hday, hle⟩
    · cases h
  · rintro ⟨rfl, h⟩
    exact if_pos ⟨h.year_ge, h.year_le, h.month_pos, h.day_pos, h.day_le⟩

/-- A day of the months from one on is found in one of them. -/
theorem monthAndDay_bounds {lengths : List Nat} {n : Nat} (hpos : 1 ≤ n) (hn : n ≤ lengths.sum)
    (month : Nat) : ∃ k < lengths.length, (monthAndDay month lengths n).1 = month + k ∧
      1 ≤ (monthAndDay month lengths n).2 ∧
      (monthAndDay month lengths n).2 ≤ lengths.getD k 0 := by
  induction lengths generalizing n month with
  | nil => exact absurd hn (by simp; omega)
  | cons length rest ih =>
    rw [monthAndDay]
    split
    · rename_i hle
      exact ⟨0, Nat.zero_lt_succ _, rfl, hpos, hle⟩
    · rename_i hle
      rw [List.sum_cons] at hn
      obtain ⟨k, hk, hmonth, hday, hbound⟩ := ih (n := n - length) (by omega) (by omega) (month + 1)
      exact ⟨k + 1, Nat.succ_lt_succ hk, by rw [hmonth]; omega, hday, hbound⟩

/-- The days of the months before the one it is found in, and its own, make up its place. -/
theorem sum_monthAndDay (lengths : List Nat) (n month : Nat) : ∃ k,
    (monthAndDay month lengths n).1 = month + k ∧
      (lengths.take k).sum + (monthAndDay month lengths n).2 = n := by
  induction lengths generalizing n month with
  | nil => exact ⟨0, rfl, by rw [List.take_nil, List.sum_nil, monthAndDay, Nat.zero_add]⟩
  | cons length rest ih =>
    rw [monthAndDay]
    split
    · exact ⟨0, rfl, by rw [List.take_zero, List.sum_nil, Nat.zero_add]⟩
    · obtain ⟨k, hmonth, hsum⟩ := ih (n - length) (month + 1)
      refine ⟨k + 1, by rw [hmonth]; omega, ?_⟩
      rw [List.take_succ_cons, List.sum_cons]
      omega

theorem sum_monthLengths (year : Int) : (monthLengths year).sum = yearLength year := by
  unfold monthLengths yearLength
  cases isLeap year <;> rfl

theorem valid_of_ofDayOfYear? {year : Int} {n : Nat} (h : ofDayOfYear? year n = some d) :
    d.Valid := by
  unfold ofDayOfYear? at h
  split at h
  · rename_i hbounds
    obtain ⟨hmin, hmax, hpos, hn⟩ := hbounds
    cases h
    obtain ⟨k, hk, hmonth, hday, hle⟩ :=
      monthAndDay_bounds hpos (hn.trans_eq (sum_monthLengths year).symm) 1
    refine ⟨hmin, hmax, ?_, hday, ?_⟩
    · show 1 ≤ (monthAndDay 1 (monthLengths year) n).1
      omega
    · show _ ≤ (monthLengths year).getD ((monthAndDay 1 (monthLengths year) n).1 - 1) 0
      rwa [hmonth, Nat.add_sub_cancel_left]
  · cases h

theorem valid_of_ofNumber? {n : Int} (h : ofNumber? n = some d) : d.Valid :=
  valid_of_ofDayOfYear? h

theorem valid_of_ofWeekFrom? {start : Nat} {year : Int} {week weekday : Nat}
    (h : ofWeekFrom? start year week weekday = some d) : d.Valid := by
  obtain ⟨_, -, h⟩ := Option.bind_eq_some_iff.1 h
  exact valid_of_ofDayOfYear? h

theorem valid_of_ofIsoWeek? {year : Int} {week weekday : Nat}
    (h : ofIsoWeek? year week weekday = some d) : d.Valid := by
  obtain ⟨d', hd', h⟩ := Option.bind_eq_some_iff.1 h
  split at h
  · cases h
    exact valid_of_ofNumber? hd'
  · cases h

/-! ### The order of days -/

/-- A year begins where the one before it ends. -/
theorem daysBefore_succ (year : Int) :
    daysBefore (year + 1) = daysBefore year + yearLength year := by
  unfold daysBefore yearLength isLeap
  simp only [Int.fdiv_eq_ediv_of_nonneg _ (show (0 : Int) ≤ 4 by decide),
    Int.fdiv_eq_ediv_of_nonneg _ (show (0 : Int) ≤ 100 by decide),
    Int.fdiv_eq_ediv_of_nonneg _ (show (0 : Int) ≤ 400 by decide)]
  split
  · rename_i hleap
    simp only [Bool.and_eq_true, Bool.or_eq_true, beq_iff_eq, bne_iff_ne] at hleap
    omega
  · rename_i hleap
    simp only [Bool.and_eq_true, Bool.or_eq_true, beq_iff_eq, bne_iff_ne] at hleap
    omega

theorem daysBefore_mono {a b : Int} (h : a ≤ b) : daysBefore a ≤ daysBefore b := by
  unfold daysBefore
  simp only [Int.fdiv_eq_ediv_of_nonneg _ (show (0 : Int) ≤ 4 by decide),
    Int.fdiv_eq_ediv_of_nonneg _ (show (0 : Int) ≤ 100 by decide),
    Int.fdiv_eq_ediv_of_nonneg _ (show (0 : Int) ≤ 400 by decide)]
  omega

theorem dayOfYear_eq (d : Date) :
    d.dayOfYear = ((monthLengths d.year).take (d.month - 1)).sum + d.day := by
  rw [dayOfYear]
  induction (monthLengths d.year).take (d.month - 1) with
  | nil => simp
  | cons length rest ih => rw [List.foldr_cons, ih, List.sum_cons, Nat.add_assoc]

/-- The date at a place in a year has that place. -/
theorem dayOfYear_of_ofDayOfYear? {year : Int} {n : Nat} (h : ofDayOfYear? year n = some d) :
    d.year = year ∧ 1 ≤ n ∧ d.dayOfYear = n := by
  unfold ofDayOfYear? at h
  split at h
  · rename_i hbounds
    cases h
    obtain ⟨k, hmonth, hsum⟩ := sum_monthAndDay (monthLengths year) n 1
    refine ⟨rfl, hbounds.2.2.1, ?_⟩
    rw [dayOfYear_eq]
    show ((monthLengths year).take ((monthAndDay 1 (monthLengths year) n).1 - 1)).sum + _ = n
    rw [hmonth, Nat.add_sub_cancel_left]
    exact hsum
  · cases h

/-- The date of a number of days has that number. -/
theorem number_of_ofNumber? {n : Int} (h : ofNumber? n = some d) : d.number = n := by
  obtain ⟨hyear, hpos, hday⟩ := dayOfYear_of_ofDayOfYear? h
  unfold number
  rw [hyear, hday]
  omega

/-- One more month has its own days more. -/
theorem sum_take_succ (lengths : List Nat) (k : Nat) :
    (lengths.take (k + 1)).sum = (lengths.take k).sum + lengths.getD k 0 := by
  rw [List.take_add_one, List.sum_append, List.getD_eq_getElem?_getD]
  cases lengths[k]? <;> simp

theorem sum_take_mono (lengths : List Nat) {j k : Nat} (h : j ≤ k) :
    (lengths.take j).sum ≤ (lengths.take k).sum :=
  (List.take_sublist_take_left h).sum_le_sum fun _ _ => Nat.zero_le _

theorem Valid.dayOfYear_pos (h : d.Valid) : 1 ≤ d.dayOfYear := by
  rw [dayOfYear_eq]
  exact h.day_pos.trans (Nat.le_add_left ..)

/-- A date ends no later than its month. -/
theorem Valid.dayOfYear_le_month (h : d.Valid) :
    d.dayOfYear ≤ ((monthLengths d.year).take d.month).sum := by
  have hmonth : d.month = d.month - 1 + 1 := by have := h.month_pos; omega
  rw [dayOfYear_eq, hmonth, sum_take_succ, Nat.add_sub_cancel]
  exact Nat.add_le_add_left h.day_le _

theorem Valid.dayOfYear_le (h : d.Valid) : d.dayOfYear ≤ yearLength d.year := by
  rw [← sum_monthLengths]
  refine h.dayOfYear_le_month.trans ?_
  exact (List.take_sublist ..).sum_le_sum fun _ _ => Nat.zero_le _

/-- Dates are compared by year, then by month, then by day. -/
instance : LT Date :=
  ⟨fun a b => List.Lex (· < ·) [a.year, a.month, a.day] [b.year, b.month, b.day]⟩

theorem lt_iff {a b : Date} : a < b ↔ a.year < b.year ∨ a.year = b.year ∧
    (a.month < b.month ∨ a.month = b.month ∧ a.day < b.day) := by
  show List.Lex _ _ _ ↔ _
  simp only [List.cons_lex_cons_iff, List.not_lex_nil, and_false, or_false, Int.ofNat_lt,
    Int.natCast_inj]

theorem lt_trichotomy (a b : Date) : a < b ∨ a = b ∨ b < a := by
  have heq : a = b ↔ a.year = b.year ∧ a.month = b.month ∧ a.day = b.day := by rw [mk.injEq]
  rw [lt_iff, lt_iff, heq]
  omega

/-- **Days are numbered in their order.** -/
theorem number_lt_number {a b : Date} (ha : a.Valid) (hb : b.Valid) (h : a < b) :
    a.number < b.number := by
  rw [lt_iff] at h
  have hapos := ha.dayOfYear_pos
  have hbpos := hb.dayOfYear_pos
  rcases h with hyear | ⟨hyear, h⟩
  · have hstart : daysBefore (a.year + 1) ≤ daysBefore b.year := daysBefore_mono hyear
    have hend := ha.dayOfYear_le
    rw [daysBefore_succ] at hstart
    unfold number
    omega
  · have hday : a.dayOfYear < b.dayOfYear := by
      rcases h with hmonth | ⟨hmonth, hday⟩
      · calc a.dayOfYear ≤ ((monthLengths a.year).take a.month).sum := ha.dayOfYear_le_month
          _ ≤ ((monthLengths b.year).take (b.month - 1)).sum := by
            rw [hyear]
            exact sum_take_mono _ (by omega)
          _ < b.dayOfYear := by
            rw [dayOfYear_eq]
            exact Nat.lt_add_of_pos_right hb.day_pos
      · rw [dayOfYear_eq, dayOfYear_eq, hyear, hmonth]
        omega
    unfold number
    rw [hyear]
    omega

end ModelProbe.Time.Date

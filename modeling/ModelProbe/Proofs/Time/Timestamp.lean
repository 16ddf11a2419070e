import ModelProbe.Proofs.Time.Calendar
import ModelProbe.Time.Timestamp

/-! Timestamps in order.

A valid timestamp has a valid date and a time of day whose parts are in range, and only second 59
runs on into a leap second. Timestamps are compared by date and then by time, each from its
greatest part down; on valid ones `Timestamp.rank` ascends just so (`rank_lt_rank_iff`), and no two
of them share a rank. -/
namespace ModelProbe.Time

structure TimeOfDay.Valid (t : TimeOfDay) : Prop where
  hour : t.hour < 24
  minute : t.minute < 60
  second : t.second < 60
  nanosecond : t.nanosecond < 2000000000
  leap : 1000000000 ≤ t.nanosecond → t.second = 59

structure Timestamp.Valid (t : Timestamp) : Prop where
  date : t.date.Valid
  time : t.time.Valid

instance (t : TimeOfDay) : Decidable t.Valid :=
  decidable_of_iff (t.hour < 24 ∧ t.minute < 60 ∧ t.second < 60 ∧ t.nanosecond < 2000000000 ∧
      (1000000000 ≤ t.nanosecond → t.second = 59))
    ⟨fun ⟨hhour, hminute, hsecond, hnano, hleap⟩ => ⟨hhour, hminute, hsecond, hnano, hleap⟩,
      fun h => ⟨h.hour, h.minute, h.second, h.nanosecond, h.leap⟩⟩

instance (t : Timestamp) : Decidable t.Valid :=
  decidable_of_iff (t.date.Valid ∧ t.time.Valid)
    ⟨fun ⟨hdate, htime⟩ => ⟨hdate, htime⟩, fun h => ⟨h.date, h.time⟩⟩

theorem TimeOfDay.valid_midnight : midnight.Valid := by
  decide

theorem TimeOfDay.Valid.seconds_lt {t : TimeOfDay} (h : t.Valid) : t.seconds < 86400 := by
  have hhour := h.hour
  have hminute := h.minute
  have hsecond := h.second
  unfold TimeOfDay.seconds
  omega

namespace Timestamp

/-- A number of seconds gives a valid timestamp with any nanosecond that its second has. -/
theorem valid_of_ofEpoch? {seconds : Int} {nanosecond : Nat} {t : Timestamp}
    (h : ofEpoch? seconds nanosecond = some t) (hnano : nanosecond < 2000000000)
    (hleap : 1000000000 ≤ nanosecond → seconds % 60 = 59) : t.Valid := by
  obtain ⟨date, hdate, rfl⟩ := Option.map_eq_some_iff.1 h
  have hday : Int.fmod seconds 86400 = seconds % 86400 :=
    Int.fmod_eq_emod_of_nonneg _ (by decide)
  refine ⟨Date.valid_of_ofNumber? hdate, ?_⟩
  rw [hday]
  refine ⟨?_, ?_, ?_, hnano, fun h => ?_⟩
  · show (seconds % 86400).toNat / 3600 < 24
    omega
  · exact Nat.mod_lt _ (by decide)
  · exact Nat.mod_lt _ (by decide)
  · have hsecond := hleap h
    show (seconds % 86400).toNat % 60 = 59
    omega

/-- A number of seconds gives the timestamp that is so many seconds from the epoch. -/
theorem epochSeconds_of_ofEpoch? {seconds : Int} {nanosecond : Nat} {t : Timestamp}
    (h : ofEpoch? seconds nanosecond = some t) :
    t.epochSeconds = seconds ∧ t.time.nanosecond = nanosecond := by
  obtain ⟨date, hdate, rfl⟩ := Option.map_eq_some_iff.1 h
  have hday : Int.fmod seconds 86400 = seconds % 86400 :=
    Int.fmod_eq_emod_of_nonneg _ (by decide)
  have hnumber : date.number = seconds / 86400 := by
    rw [Date.number_of_ofNumber? hdate, Int.fdiv_eq_ediv_of_nonneg _ (by decide)]
  refine ⟨?_, rfl⟩
  unfold epochSeconds TimeOfDay.seconds TimeOfDay.ofSeconds
  rw [hday, hnumber]
  dsimp only
  omega

end Timestamp

/-! ### Order -/

/-- Times are compared by hour, minute, second and nanosecond. -/
instance : LT TimeOfDay :=
  ⟨fun a b => List.Lex (· < ·) [a.hour, a.minute, a.second, a.nanosecond]
    [b.hour, b.minute, b.second, b.nanosecond]⟩

theorem TimeOfDay.lt_iff {a b : TimeOfDay} : a < b ↔ a.hour < b.hour ∨ a.hour = b.hour ∧
    (a.minute < b.minute ∨ a.minute = b.minute ∧
      (a.second < b.second ∨ a.second = b.second ∧ a.nanosecond < b.nanosecond)) := by
  show List.Lex _ _ _ ↔ _
  simp only [List.cons_lex_cons_iff, List.not_lex_nil, and_false, or_false]

theorem TimeOfDay.lt_trichotomy (a b : TimeOfDay) : a < b ∨ a = b ∨ b < a := by
  have heq : a = b ↔ a.hour = b.hour ∧ a.minute = b.minute ∧ a.second = b.second ∧
      a.nanosecond = b.nanosecond := by rw [mk.injEq]
  rw [lt_iff, lt_iff, heq]
  omega

namespace Timestamp

/-- Timestamps are compared by date and then by time. -/
instance : LT Timestamp :=
  ⟨fun a b => a.date < b.date ∨ a.date = b.date ∧ a.time < b.time⟩

instance : LE Timestamp :=
  ⟨fun a b => ¬b < a⟩

variable {a b : Timestamp}

theorem lt_trichotomy (a b : Timestamp) : a < b ∨ a = b ∨ b < a := by
  rcases Date.lt_trichotomy a.date b.date with hdate | hdate | hdate
  · exact .inl (.inl hdate)
  · rcases TimeOfDay.lt_trichotomy a.time b.time with htime | htime | htime
    · exact .inl (.inr ⟨hdate, htime⟩)
    · obtain ⟨date, time⟩ := a
      cases hdate
      cases htime
      exact .inr (.inl rfl)
    · exact .inr (.inr (.inr ⟨hdate.symm, htime⟩))
  · exact .inr (.inr (.inl hdate))

theorem rank_lt_rank (ha : a.Valid) (hb : b.Valid) (h : a < b) : a.rank < b.rank := by
  have haseconds := ha.time.seconds_lt
  have hanano := ha.time.nanosecond
  unfold rank epochSeconds
  rcases h with hdate | ⟨hdate, htime⟩
  · have hday := Date.number_lt_number ha.date hb.date hdate
    omega
  · have haminute := ha.time.minute
    have hasecond := ha.time.second
    rw [TimeOfDay.lt_iff] at htime
    rw [hdate]
    unfold TimeOfDay.seconds
    omega

/-- **Ranks ascend with timestamps.** -/
theorem rank_lt_rank_iff (ha : a.Valid) (hb : b.Valid) : a.rank < b.rank ↔ a < b := by
  constructor
  · intro h
    rcases lt_trichotomy a b with hlt | rfl | hgt
    · exact hlt
    · exact absurd h (Int.lt_irrefl _)
    · exact absurd (rank_lt_rank hb ha hgt) (Int.lt_asymm h)
  · exact rank_lt_rank ha hb

theorem rank_le_rank_iff (ha : a.Valid) (hb : b.Valid) : a.rank ≤ b.rank ↔ a ≤ b := by
  rw [← Int.not_lt, rank_lt_rank_iff hb ha]
  rfl

/-- No two valid timestamps share a rank. -/
theorem eq_of_rank (ha : a.Valid) (hb : b.Valid) (h : a.rank = b.rank) : a = b := by
  rcases lt_trichotomy a b with hlt | heq | hgt
  · exact absurd (rank_lt_rank ha hb hlt) (by omega)
  · exact heq
  · exact absurd (rank_lt_rank hb ha hgt) (by omega)

end Timestamp

end ModelProbe.Time

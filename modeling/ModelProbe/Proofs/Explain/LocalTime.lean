import ModelProbe.Proofs.Explain.StableSort
import ModelProbe.Proofs.Time.Offset

/-! Local times in frames.

A column may hold RFC 3339 texts with different offsets. Without a format each is read as its
instant. By a format that matches them each is read as its local time, which is the instant and the
offset, and the rows of a frame are put in the order of their local times (`format_drops_offset`):
the same instant is read as the same timestamp only where the offsets are the same. -/
namespace ModelProbe.Explain

open Time

variable {raw raw' format : String} {t t' : Timestamp} {z z' : ZonedTime}

/-- A text stands for an instant, writes a local time and an offset, and has a format that matches
both. -/
structure Zoned (raw format : String) (t : Timestamp) (z : ZonedTime) : Prop where
  instant : Timestamp.ofRfc3339? (Text.trim raw) = some t
  written : z.WrittenIn (Text.trim raw)
  matched : z.Matches format (Text.trim raw)

namespace Zoned

theorem parseTimestamp_none (h : Zoned raw format t z) : parseTimestamp raw none = .ok t := by
  refine parseTimestamp_none_iff.2 ?_
  rw [Timestamp.ofText?, h.instant]
  rfl

theorem parseTimestamp_some (h : Zoned raw format t z) :
    parseTimestamp raw (some format) = .ok z.localTime :=
  parseTimestamp_some_iff.2 (h.written.ofFormat h.matched)

theorem rank_localTime (h : Zoned raw format t z) :
    z.localTime.rank = t.rank + 2000000000 * z.offset :=
  h.written.rank_localTime h.instant

theorem valid_localTime (h : Zoned raw format t z) : z.localTime.Valid :=
  valid_of_parseTimestamp h.parseTimestamp_some

/-- The local time is the instant in UTC itself, and nowhere else. -/
theorem localTime_eq_iff (h : Zoned raw format t z) : z.localTime = t ↔ z.offset = 0 := by
  have hrank := h.rank_localTime
  constructor
  · intro heq
    rw [heq] at hrank
    omega
  · intro hzero
    refine Timestamp.eq_of_rank h.valid_localTime (valid_of_parseTimestamp h.parseTimestamp_none) ?_
    omega

/-- The local times of one instant tell the offsets. -/
theorem localTime_eq_localTime_iff (h : Zoned raw format t z) (h' : Zoned raw' format t z') :
    z.localTime = z'.localTime ↔ z.offset = z'.offset := by
  have hrank := h.rank_localTime
  have hrank' := h'.rank_localTime
  constructor
  · intro heq
    rw [heq] at hrank
    omega
  · intro hsame
    refine Timestamp.eq_of_rank h.valid_localTime h'.valid_localTime ?_
    omega

/-- Local times come in the order of the instants and the offsets together. -/
theorem localTime_lt_iff (h : Zoned raw format t z) (h' : Zoned raw' format t' z') :
    z.localTime < z'.localTime ↔
      t.rank + 2000000000 * z.offset < t'.rank + 2000000000 * z'.offset := by
  rw [← Timestamp.rank_lt_rank_iff h.valid_localTime h'.valid_localTime, h.rank_localTime,
    h'.rank_localTime]

/-- A row of a frame has the local time of its text. -/
theorem timestamp_of_row (h : Zoned raw format t z) {table : Table} {column : String} {f : Frame}
    {k i : Nat} (hrow : Frame.RowIs table column (some format) f k i)
    (hcell : table.lookup? column i = some (.text raw)) : f.timestamps[k]? = some z.localTime := by
  obtain ⟨cell, u, hlookup, hu, htimestamp⟩ := hrow.timestamp
  cases hcell.symm.trans hlookup
  cases h.parseTimestamp_some.symm.trans hu
  exact htimestamp

end Zoned

/-- **A format drops the offset that it reads.** An RFC 3339 text writes a local time and an offset;
if the offset is signed, a format of the items of such a text and an offset matches it. By a format
that matches it, such a text is read as its local time, which is the instant it is read as without a
format only if the offset is zero. So texts of one instant are read as one timestamp only if they
have one offset, and a frame has its rows in the order of their local times, which is that of the
instants and the offsets together. -/
theorem format_drops_offset (format : String) :
    (∀ raw t, Timestamp.ofRfc3339? (Text.trim raw) = some t → ∃ z : ZonedTime,
      z.WrittenIn (Text.trim raw) ∧
        (z.Signed → z.Fits format (Text.trim raw) → Zoned raw format t z)) ∧
    (∀ raw t z, Zoned raw format t z →
      parseTimestamp raw none = .ok t ∧ parseTimestamp raw (some format) = .ok z.localTime ∧
      z.localTime.rank = t.rank + 2000000000 * z.offset ∧
      (parseTimestamp raw (some format) = parseTimestamp raw none ↔ z.offset = 0)) ∧
    (∀ raw raw' t t' z z', Zoned raw format t z → Zoned raw' format t' z' →
      (t = t' → (parseTimestamp raw (some format) = parseTimestamp raw' (some format) ↔
        z.offset = z'.offset)) ∧
      (z.localTime < z'.localTime ↔
        t.rank + 2000000000 * z.offset < t'.rank + 2000000000 * z'.offset)) ∧
    ∀ (table : Table) (column : String) (f : Frame), table.Regular →
      Frame.ofTable table column (some format) = .ok f →
      ∃ order : List Nat, Frame.IsStableSort table column (some format) f order ∧
        ∀ (k i : Nat) raw t z, order[k]? = some i → table.lookup? column i = some (.text raw) →
          Zoned raw format t z → f.timestamps[k]? = some z.localTime := by
  refine ⟨fun raw t h => ?_, fun raw t z h => ?_, fun raw raw' t t' z z' h h' => ⟨?_, ?_⟩,
    fun table column f htable h => ?_⟩
  · obtain ⟨z, hz, -⟩ := exists_zonedTime h
    exact ⟨z, hz, fun hsigned hfits => ⟨h, hz, hz.matches_of_fits hsigned hfits⟩⟩
  · refine ⟨h.parseTimestamp_none, h.parseTimestamp_some, h.rank_localTime, ?_⟩
    rw [h.parseTimestamp_none, h.parseTimestamp_some, Except.ok.injEq]
    exact h.localTime_eq_iff
  · rintro rfl
    rw [h.parseTimestamp_some, h'.parseTimestamp_some, Except.ok.injEq]
    exact h.localTime_eq_localTime_iff h'
  · exact h.localTime_lt_iff h'
  · obtain ⟨g, hg, rfl⟩ := (Frame.ofTable_eq_ok_iff htable).1 h
    have horder := hg.isStableSort htable
    exact ⟨_, horder, fun _ _ _ _ _ hk hcell hzoned =>
      hzoned.timestamp_of_row (horder.row _ _ hk) hcell⟩

/-- A local time without a fraction, and its zone. -/
def zonedAt (localTime : Timestamp) (zone : String) (offset : Int) : ZonedTime :=
  ⟨.ofTimestamp localTime, localTime, zone.toList, offset⟩

/-- Five o'clock in UTC, as it is written two hours east of it. -/
theorem zoned_east : Zoned "2024-03-01T07:00:00+02:00" "%Y-%m-%dT%H:%M:%S%z"
    ⟨⟨2024, 3, 1⟩, ⟨5, 0, 0, 0⟩⟩ (zonedAt ⟨⟨2024, 3, 1⟩, ⟨7, 0, 0, 0⟩⟩ "+02:00" 7200) := by
  have hwritten : (zonedAt ⟨⟨2024, 3, 1⟩, ⟨7, 0, 0, 0⟩⟩ "+02:00" 7200).WrittenIn
      (Text.trim "2024-03-01T07:00:00+02:00") :=
    ⟨rfl, rfl, rfl, toOption_eq_some (by decide +kernel)⟩
  exact ⟨by decide +kernel, hwritten,
    hwritten.matches_of_fits (by decide) (.inr ⟨rfl, by decide +kernel⟩)⟩

/-- The same instant west of UTC, where it is still the last day of February. -/
theorem zoned_west : Zoned "2024-02-29T23:30:00-05:30" "%Y-%m-%dT%H:%M:%S%z"
    ⟨⟨2024, 3, 1⟩, ⟨5, 0, 0, 0⟩⟩ (zonedAt ⟨⟨2024, 2, 29⟩, ⟨23, 30, 0, 0⟩⟩ "-05:30" (-19800)) := by
  have hwritten : (zonedAt ⟨⟨2024, 2, 29⟩, ⟨23, 30, 0, 0⟩⟩ "-05:30" (-19800)).WrittenIn
      (Text.trim "2024-02-29T23:30:00-05:30") :=
    ⟨rfl, rfl, rfl, toOption_eq_some (by decide +kernel)⟩
  exact ⟨by decide +kernel, hwritten,
    hwritten.matches_of_fits (by decide) (.inr ⟨rfl, by decide +kernel⟩)⟩

/-- Two loads, the first taken an hour before the second and written east of UTC. -/
def loads : Table :=
  ⟨[⟨"at", [.text "2024-03-01T07:00:00+02:00", .text "2024-03-01T06:00:00+00:00"]⟩,
    ⟨"load", [.number (.ofNat 1), .number (.ofNat 2)]⟩], 2⟩

def loadsAt (hour hour' load load' : Nat) : Frame :=
  ⟨"at", [⟨⟨2024, 3, 1⟩, ⟨hour, 0, 0, 0⟩⟩, ⟨⟨2024, 3, 1⟩, ⟨hour', 0, 0, 0⟩⟩], ["load"],
    ⟨2, 1, [.ofNat load, .ofNat load']⟩⟩

/-- By instants the loads are in order. -/
theorem ofTable_loads_none : Frame.ofTable loads "at" none = .ok (loadsAt 5 6 1 2) := by
  refine Frame.ofTable_eq_ok_iff_steps.2 ⟨_, (loadsAt 5 6 1 2).timestamps, _, rfl,
    toOption_eq_some (by decide +kernel), rfl, ?_⟩
  have horder : Frame.sortedRows (loadsAt 5 6 1 2).timestamps = [0, 1] :=
    (Frame.eq_sortedRows (by decide) (by decide +kernel)).symm
  simp only [Frame.sorted, horder]
  rfl

/-- By local times they are not. -/
theorem ofTable_loads_some : Frame.ofTable loads "at" (some "%Y-%m-%dT%H:%M:%S%z") =
    .ok (loadsAt 6 7 2 1) := by
  refine Frame.ofTable_eq_ok_iff_steps.2 ⟨_, (loadsAt 7 6 1 2).timestamps, _, rfl,
    toOption_eq_some (by decide +kernel), rfl, ?_⟩
  have horder : Frame.sortedRows (loadsAt 7 6 1 2).timestamps = [1, 0] :=
    (Frame.eq_sortedRows (by decide) (by decide +kernel)).symm
  simp only [Frame.sorted, horder]
  rfl

/-- One instant, two offsets and two timestamps; and a frame by local times. -/
theorem format_drops_offset_east_and_west :
    let format := "%Y-%m-%dT%H:%M:%S%z"
    parseTimestamp "2024-03-01T07:00:00+02:00" (some format) =
      .ok ⟨⟨2024, 3, 1⟩, ⟨7, 0, 0, 0⟩⟩ ∧
    parseTimestamp "2024-03-01T07:00:00+02:00" (some format) ≠
      parseTimestamp "2024-03-01T07:00:00+02:00" none ∧
    parseTimestamp "2024-03-01T07:00:00+02:00" (some format) ≠
      parseTimestamp "2024-02-29T23:30:00-05:30" (some format) ∧
    ∃ order, Frame.IsStableSort loads "at" (some format) (loadsAt 6 7 2 1) order := by
  intro format
  obtain ⟨-, hread, hsame, hframe⟩ := format_drops_offset format
  obtain ⟨-, hlocal, -, hzero⟩ := hread _ _ _ zoned_east
  obtain ⟨order, horder, -⟩ :=
    hframe loads "at" (loadsAt 6 7 2 1) ⟨by decide, by decide, by decide⟩ ofTable_loads_some
  refine ⟨hlocal, fun h => ?_, fun h => ?_, order, horder⟩
  · exact absurd (hzero.1 h) (by decide)
  · exact absurd (((hsame _ _ _ _ _ _ zoned_east zoned_west).1 rfl).1 h) (by decide)

/-- An offset that a format reads is not taken off: texts of one instant are read as two timestamps,
and a frame has the later of two rows first. -/
theorem not_all_offsets_taken_off :
    (¬∀ (raw format : String) (t : Timestamp) (z : ZonedTime), Zoned raw format t z →
      parseTimestamp raw (some format) = parseTimestamp raw none) ∧
    (¬∀ (raw raw' format : String) (t : Timestamp) (z z' : ZonedTime), Zoned raw format t z →
      Zoned raw' format t z' →
      parseTimestamp raw (some format) = parseTimestamp raw' (some format)) ∧
    Frame.ofTable loads "at" none = .ok (loadsAt 5 6 1 2) ∧
    Frame.ofTable loads "at" (some "%Y-%m-%dT%H:%M:%S%z") = .ok (loadsAt 6 7 2 1) := by
  refine ⟨fun h => ?_, fun h => ?_, ofTable_loads_none, ofTable_loads_some⟩
  · have heq := h _ _ _ _ zoned_east
    rw [zoned_east.parseTimestamp_some, zoned_east.parseTimestamp_none, Except.ok.injEq] at heq
    exact absurd heq (by decide)
  · have heq := h _ _ _ _ _ _ zoned_east zoned_west
    rw [zoned_east.parseTimestamp_some, zoned_west.parseTimestamp_some, Except.ok.injEq] at heq
    exact absurd heq (by decide)

end ModelProbe.Explain

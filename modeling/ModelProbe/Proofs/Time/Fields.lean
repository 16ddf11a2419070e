import ModelProbe.Proofs.Time.Timestamp
import ModelProbe.Proofs.Traversal
import ModelProbe.Time.Scan

/-! What is read is valid.

Reading an item sets its field and no other (`Fields.Sets`). The fields of a time of day are checked
as they come, so they stay in range (`Fields.Within`) whatever a format makes of a text: every
setter keeps them so, hence every item does and every sequence of items (`within_ofText`). A date
made from fields is valid however it is made, and with fields in range so are a time and a
timestamp (`valid_of_timestamp`). -/
namespace ModelProbe.Time

namespace Fields

variable {f g : Fields}

/-- The fields of a time of day are in range. -/
structure Within (f : Fields) : Prop where
  halfOfDay : ∀ v, f.halfOfDay = some v → v ≤ 1
  hourOfHalf : ∀ v, f.hourOfHalf = some v → v < 12
  minute : ∀ v, f.minute = some v → v < 60
  second : ∀ v, f.second = some v → v ≤ 60
  nanosecond : ∀ v, f.nanosecond = some v → v < 1000000000

theorem within_empty : Within {} :=
  ⟨nofun, nofun, nofun, nofun, nofun⟩

/-! ### Setting fields -/

theorem agree_eq_ok {α : Type} [DecidableEq α] {old r : Option α} {new : α}
    (h : agree old new = .ok r) : r = some new := by
  unfold agree at h
  split at h
  · split at h
    · rename_i hsame
      cases h
      rw [hsame]
    · cases h
  · cases h
    rfl

theorem within_eq_ok {low high v : Int} {n : Nat} (h : within low high v = .ok n) :
    n = v.toNat ∧ low ≤ v ∧ v ≤ high := by
  unfold within at h
  split at h
  · rename_i hrange
    cases h
    exact ⟨rfl, hrange⟩
  · cases h

/-- A field is set to the value that passed its check. -/
theorem stored_eq_ok {α β : Type} [DecidableEq β] {check : Except Fault α} {old : Option β}
    {value : α → β} {put : Option β → Fields}
    (h : (do return put (← agree old (value (← check)))) = Except.ok g) :
    ∃ a, check = .ok a ∧ g = put (some (value a)) := by
  obtain ⟨a, ha, h⟩ := bind_eq_ok_iff.1 h
  obtain ⟨r, hr, h⟩ := bind_eq_ok_iff.1 h
  cases h
  exact ⟨a, ha, by rw [agree_eq_ok hr]⟩

theorem Within.setSecond (hf : f.Within) {v : Int} (h : f.setSecond v = .ok g) : g.Within := by
  obtain ⟨n, hn, rfl⟩ := stored_eq_ok h
  obtain ⟨rfl, -, hle⟩ := within_eq_ok hn
  exact ⟨hf.halfOfDay, hf.hourOfHalf, hf.minute, fun _ h => by cases h; omega, hf.nanosecond⟩

theorem Within.setMinute (hf : f.Within) {v : Int} (h : f.setMinute v = .ok g) : g.Within := by
  obtain ⟨n, hn, rfl⟩ := stored_eq_ok h
  obtain ⟨rfl, -, hle⟩ := within_eq_ok hn
  exact ⟨hf.halfOfDay, hf.hourOfHalf, fun _ h => by cases h; omega, hf.second, hf.nanosecond⟩

theorem Within.setNanosecond (hf : f.Within) {v : Int} (h : f.setNanosecond v = .ok g) :
    g.Within := by
  obtain ⟨n, hn, rfl⟩ := stored_eq_ok h
  obtain ⟨rfl, -, hle⟩ := within_eq_ok hn
  exact ⟨hf.halfOfDay, hf.hourOfHalf, hf.minute, hf.second, fun _ h => by cases h; omega⟩

theorem Within.setHour (hf : f.Within) {v : Int} (h : f.setHour v = .ok g) : g.Within := by
  obtain ⟨hour, hhour, h⟩ := bind_eq_ok_iff.1 h
  obtain ⟨half, hhalf, h⟩ := bind_eq_ok_iff.1 h
  obtain ⟨rest, hrest, h⟩ := bind_eq_ok_iff.1 h
  cases h
  obtain ⟨rfl, -, hle⟩ := within_eq_ok hhour
  rw [agree_eq_ok hhalf, agree_eq_ok hrest]
  exact ⟨fun _ h => by cases h; omega, fun _ h => by cases h; omega, hf.minute, hf.second,
    hf.nanosecond⟩

theorem Within.setHour12 (hf : f.Within) {v : Int} (h : f.setHour12 v = .ok g) : g.Within := by
  obtain ⟨n, -, rfl⟩ := stored_eq_ok h
  exact ⟨hf.halfOfDay, fun _ h => by cases h; omega, hf.minute, hf.second, hf.nanosecond⟩

theorem Within.setHalfOfDay (hf : f.Within) {v : Nat} (hv : v ≤ 1)
    (h : f.setHalfOfDay v = .ok g) : g.Within := by
  obtain ⟨r, hr, h⟩ := bind_eq_ok_iff.1 h
  cases h
  rw [agree_eq_ok hr]
  exact ⟨fun _ h => by cases h; exact hv, hf.hourOfHalf, hf.minute, hf.second, hf.nanosecond⟩

/-- Any field but those of the time of day may be changed at will. -/
theorem Within.of_clock (hf : f.Within) (hhalf : g.halfOfDay = f.halfOfDay)
    (hhour : g.hourOfHalf = f.hourOfHalf) (hminute : g.minute = f.minute)
    (hsecond : g.second = f.second) (hnano : g.nanosecond = f.nanosecond) : g.Within :=
  ⟨hhalf ▸ hf.halfOfDay, hhour ▸ hf.hourOfHalf, hminute ▸ hf.minute, hsecond ▸ hf.second,
    hnano ▸ hf.nanosecond⟩

/-- Setting a numeric field keeps the time of day in range. -/
theorem Within.set (hf : f.Within) (field : NumericField) {v : Int}
    (h : f.set field v = .ok g) : g.Within := by
  cases field with
  | hour => exact hf.setHour h
  | hour12 => exact hf.setHour12 h
  | minute => exact hf.setMinute h
  | second => exact hf.setSecond h
  | nanosecond => exact hf.setNanosecond h
  | weekdayFromSunday | weekdayFromMonday =>
    obtain ⟨_, -, h⟩ := bind_eq_ok_iff.1 h
    obtain ⟨_, -, h⟩ := bind_eq_ok_iff.1 h
    cases h
    exact hf.of_clock rfl rfl rfl rfl rfl
  | epochSecond =>
    obtain ⟨_, -, h⟩ := bind_eq_ok_iff.1 h
    cases h
    exact hf.of_clock rfl rfl rfl rfl rfl
  | _ =>
    obtain ⟨_, -, rfl⟩ := stored_eq_ok h
    exact hf.of_clock rfl rfl rfl rfl rfl

theorem Within.setOffset (hf : f.Within) {v : Int} (h : f.setOffset v = .ok g) : g.Within := by
  obtain ⟨_, -, h⟩ := bind_eq_ok_iff.1 h
  cases h
  exact hf.of_clock rfl rfl rfl rfl rfl

theorem Within.setWeekday (hf : f.Within) {v : Nat} (h : f.setWeekday v = .ok g) : g.Within := by
  obtain ⟨_, -, h⟩ := bind_eq_ok_iff.1 h
  cases h
  exact hf.of_clock rfl rfl rfl rfl rfl

/-! ### Reading items -/

theorem scanHalfOfDay_le {cs rest : List Char} {half : Nat}
    (h : scanHalfOfDay cs = .ok (half, rest)) : half ≤ 1 := by
  unfold scanHalfOfDay at h
  split at h
  · cases h
  · split at h <;> cases h <;> decide

/-- What an item does to the fields: nothing, or it sets one. -/
inductive Sets (f : Fields) : Item → Fields → Prop
  | nothing {item : Item} : Sets f item f
  | numeric {g : Fields} {field : NumericField} {v : Int} (hset : f.set field v = .ok g) :
      Sets f (.numeric field) g
  | monthName {g : Fields} {either : Bool} {v : Int} (hset : f.setMonth v = .ok g) :
      Sets f (.monthName either) g
  | weekdayName {g : Fields} {either : Bool} {day : Nat} (hset : f.setWeekday day = .ok g) :
      Sets f (.weekdayName either) g
  | halfOfDay {g : Fields} {half : Nat} (hhalf : half ≤ 1) (hset : f.setHalfOfDay half = .ok g) :
      Sets f .halfOfDay g
  | fraction {g : Fields} {v : Int} (hset : f.setNanosecond v = .ok g) : Sets f .fraction g
  | pointedFraction {g : Fields} {digits : Nat} {v : Int} (hset : f.setNanosecond v = .ok g) :
      Sets f (.pointedFraction digits) g
  | bareFraction {g : Fields} {digits : Nat} {v : Int} (hset : f.setNanosecond v = .ok g) :
      Sets f (.bareFraction digits) g
  | offset {g : Fields} {lenient : Bool} {v : Int} (hset : f.setOffset v = .ok g) :
      Sets f (.offset lenient) g

/-- Reading an item sets its field and no other. -/
theorem sets_of_scanPart {cs rest : List Char} {item : Item}
    (h : scanPart f cs item = .ok (g, rest)) : f.Sets item g := by
  cases item with
  | literal word =>
    simp only [Time.scanPart] at h
    split at h
    · cases h
    · split at h
      · cases h
        exact .nothing
      · cases h
  | space | zoneName =>
    cases h
    exact .nothing
  | numeric field =>
    obtain ⟨_, -, h⟩ := bind_eq_ok_iff.1 h
    obtain ⟨_, hset, h⟩ := bind_eq_ok_iff.1 h
    cases h
    exact .numeric hset
  | monthName either =>
    obtain ⟨_, -, h⟩ := bind_eq_ok_iff.1 h
    obtain ⟨_, hset, h⟩ := bind_eq_ok_iff.1 h
    cases h
    exact .monthName hset
  | weekdayName either =>
    obtain ⟨_, -, h⟩ := bind_eq_ok_iff.1 h
    obtain ⟨_, hset, h⟩ := bind_eq_ok_iff.1 h
    cases h
    exact .weekdayName hset
  | halfOfDay =>
    obtain ⟨_, hscan, h⟩ := bind_eq_ok_iff.1 h
    obtain ⟨_, hset, h⟩ := bind_eq_ok_iff.1 h
    cases h
    exact .halfOfDay (scanHalfOfDay_le hscan) hset
  | fraction =>
    simp only [Time.scanPart] at h
    split at h
    · obtain ⟨_, -, h⟩ := bind_eq_ok_iff.1 h
      obtain ⟨_, hset, h⟩ := bind_eq_ok_iff.1 h
      cases h
      exact .fraction hset
    · cases h
      exact .nothing
  | pointedFraction digits =>
    simp only [Time.scanPart] at h
    split at h
    · obtain ⟨_, -, h⟩ := bind_eq_ok_iff.1 h
      obtain ⟨_, hset, h⟩ := bind_eq_ok_iff.1 h
      cases h
      exact .pointedFraction hset
    · cases h
      exact .nothing
  | bareFraction digits =>
    obtain ⟨_, -, h⟩ := bind_eq_ok_iff.1 h
    obtain ⟨_, hset, h⟩ := bind_eq_ok_iff.1 h
    cases h
    exact .bareFraction hset
  | offset lenient =>
    obtain ⟨_, -, h⟩ := bind_eq_ok_iff.1 h
    obtain ⟨_, hset, h⟩ := bind_eq_ok_iff.1 h
    cases h
    exact .offset hset
  | dateTime | unknown => cases h

theorem Within.scanPart (hf : f.Within) {cs rest : List Char} {item : Item}
    (h : scanPart f cs item = .ok (g, rest)) : g.Within := by
  cases sets_of_scanPart h with
  | nothing => exact hf
  | numeric hset => exact hf.set _ hset
  | monthName hset => exact hf.set .month hset
  | weekdayName hset => exact hf.setWeekday hset
  | halfOfDay hhalf hset => exact hf.setHalfOfDay hhalf hset
  | fraction hset | pointedFraction hset | bareFraction hset => exact hf.setNanosecond hset
  | offset hset => exact hf.setOffset hset

theorem Within.scanParts (hf : f.Within) {cs rest : List Char} {items : List Item}
    (h : scanParts f cs items = .ok (g, rest)) : g.Within :=
  foldlM_preserves (P := fun p => Within p.1) (fun _ _ _ hp h => hp.scanPart h) hf h

/-- A loose date and time is a date, a mark, a time and an offset. -/
theorem parts_of_scanDateTime {cs rest : List Char} (h : scanDateTime f cs = .ok (g, rest)) :
    ∃ f₁ date time f₂ zone offset, scanParts f cs spacedDate = .ok (f₁, date) ∧
      scanDateTimeMark date = .ok time ∧ scanParts f₁ time spacedTime = .ok (f₂, zone) ∧
      f₂.setOffset offset = .ok g := by
  obtain ⟨⟨f₁, date⟩, hdate, h⟩ := bind_eq_ok_iff.1 h
  obtain ⟨time, hmark, h⟩ := bind_eq_ok_iff.1 h
  obtain ⟨⟨f₂, zone⟩, htime, h⟩ := bind_eq_ok_iff.1 h
  dsimp only at h
  -- The offset is `UTC` or is scanned.
  split at h
  all_goals
    obtain ⟨_, -, h⟩ := bind_eq_ok_iff.1 h
    obtain ⟨_, hset, h⟩ := bind_eq_ok_iff.1 h
    cases h
    exact ⟨f₁, date, time, f₂, zone, _, hdate, hmark, htime, hset⟩

theorem Within.scanItem (hf : f.Within) {cs rest : List Char} {item : Item}
    (h : scanItem f cs item = .ok (g, rest)) : g.Within := by
  cases item with
  | dateTime =>
    obtain ⟨_, _, _, _, _, _, hdate, -, htime, hset⟩ := parts_of_scanDateTime h
    exact ((hf.scanParts hdate).scanParts htime).setOffset hset
  | _ =>
    simp only [Time.scanItem] at h
    exact hf.scanPart h

/-- Whatever a format makes of a text, the time of day is in range. -/
theorem within_ofText {format text : String} (h : ofText format text = .ok f) : f.Within := by
  obtain ⟨⟨g, rest⟩, hscan, h⟩ := bind_eq_ok_iff.1 h
  have hg : g.Within :=
    foldlM_preserves (P := fun p => Within p.1) (fun _ _ _ hp h => hp.scanItem h) within_empty hscan
  dsimp only at h
  split at h
  · cases h
    exact hg
  · cases h

/-! ### Making timestamps -/

theorem ofOption_eq_ok {α : Type} {fault : Fault} {x : Option α} {a : α}
    (h : ofOption fault x = .ok a) : x = some a := by
  cases x with
  | none => cases h
  | some b => cases h; rfl

theorem valid_of_weekDate {start : Nat} {year : Int} {week weekday : Nat} {d : Date}
    (h : weekDate start year week weekday = .ok d) : d.Valid := by
  unfold weekDate at h
  split at h
  · exact Date.valid_of_ofWeekFrom? (ofOption_eq_ok h)
  · cases h

theorem map_eq_ok {α β : Type} {x : Except Fault α} {k : α → β} {b : β}
    (h : k <$> x = .ok b) : ∃ a, x = .ok a ∧ k a = b := by
  cases x with
  | error e => cases h
  | ok a => cases h; exact ⟨a, rfl, rfl⟩

/-- Whichever fields a date is made from, it is valid. -/
theorem valid_of_candidate {year isoYear : Option Int} {d : Date} {agreed : Bool}
    (h : f.candidate year isoYear = .ok (d, agreed)) : d.Valid := by
  unfold candidate at h
  split at h
  · obtain ⟨date, hdate, h⟩ := bind_eq_ok_iff.1 h
    cases h
    exact (Date.ofYmd?_eq_some_iff.1 (ofOption_eq_ok hdate)).2
  split at h
  · obtain ⟨date, hdate, h⟩ := map_eq_ok h
    cases h
    exact Date.valid_of_ofDayOfYear? (ofOption_eq_ok hdate)
  split at h
  · obtain ⟨date, hdate, h⟩ := map_eq_ok h
    cases h
    exact valid_of_weekDate hdate
  split at h
  · obtain ⟨date, hdate, h⟩ := map_eq_ok h
    cases h
    exact valid_of_weekDate hdate
  split at h
  · obtain ⟨date, hdate, h⟩ := bind_eq_ok_iff.1 h
    cases h
    exact Date.valid_of_ofIsoWeek? (ofOption_eq_ok hdate)
  · cases h

theorem valid_of_date {d : Date} (h : f.date = .ok d) : d.Valid := by
  obtain ⟨_, -, h⟩ := bind_eq_ok_iff.1 h
  obtain ⟨_, -, h⟩ := bind_eq_ok_iff.1 h
  obtain ⟨⟨d', agreed⟩, hcandidate, h⟩ := bind_eq_ok_iff.1 h
  dsimp only at h
  split at h
  · cases h
    exact valid_of_candidate hcandidate
  · cases h

/-- A fraction that is missing is zero. -/
theorem Within.nanosecond_getD (hf : f.Within) : f.nanosecond.getD 0 < 1000000000 := by
  cases hn : f.nanosecond with
  | none => decide
  | some v => exact hf.nanosecond v hn

/-- Fields in range make a valid time; a second 60 becomes a leap second. -/
theorem valid_of_time (hf : f.Within) {t : TimeOfDay} (h : f.time = .ok t) : t.Valid := by
  unfold time at h
  split at h
  · rename_i half hour minute hhalf hhour hminute
    have hhalf := hf.halfOfDay _ hhalf
    have hhour := hf.hourOfHalf _ hhour
    have hminute := hf.minute _ hminute
    have hsecond : f.second.getD 0 ≤ 60 := by
      cases hs : f.second with
      | none => exact Nat.zero_le _
      | some v => exact hf.second _ hs
    have hnano := hf.nanosecond_getD
    dsimp only at h
    split at h
    · cases h
    · cases h
      refine ⟨?_, hminute, ?_, ?_, ?_⟩
      · dsimp only
        omega
      · exact Nat.lt_succ_of_le (Nat.min_le_right ..)
      · dsimp only
        split <;> omega
      · dsimp only
        split <;> omega
  · cases h

/-- What the seconds since the epoch say is set field by field, the second unless it is 60. -/
theorem steps_of_fillFromEpoch {seconds : Int} (h : f.fillFromEpoch seconds = .ok g) :
    ∃ f₀ f₁ f₂ f₃ year day hour minute, (f₀ = f ∨ ∃ v, f.setSecond v = .ok f₀) ∧
      f₀.setYear year = .ok f₁ ∧ f₁.setDayOfYear day = .ok f₂ ∧ f₂.setHour hour = .ok f₃ ∧
      f₃.setMinute minute = .ok g := by
  obtain ⟨t, -, h⟩ := bind_eq_ok_iff.1 h
  have hsecond : ∃ t' f₀, (f₀ = f ∨ ∃ v, f.setSecond v = .ok f₀) ∧ (do
      let f ← Fields.setYear f₀ (Timestamp.date t').year
      let f ← f.setDayOfYear t'.date.dayOfYear
      let f ← f.setHour t'.time.hour
      f.setMinute t'.time.minute) = .ok g := by
    split at h
    · split at h
      · exact ⟨_, f, .inl rfl, h⟩
      · obtain ⟨before, -, h⟩ := bind_eq_ok_iff.1 h
        exact ⟨_, f, .inl rfl, h⟩
      · cases h
    · obtain ⟨f', hset, h⟩ := bind_eq_ok_iff.1 h
      exact ⟨_, f', .inr ⟨_, hset⟩, h⟩
  obtain ⟨t', f₀, hf₀, h⟩ := hsecond
  obtain ⟨f₁, h₁, h⟩ := bind_eq_ok_iff.1 h
  obtain ⟨f₂, h₂, h⟩ := bind_eq_ok_iff.1 h
  obtain ⟨f₃, h₃, h⟩ := bind_eq_ok_iff.1 h
  exact ⟨f₀, f₁, f₂, f₃, _, _, _, _, hf₀, h₁, h₂, h₃, h⟩

theorem Within.fillFromEpoch (hf : f.Within) {seconds : Int}
    (h : f.fillFromEpoch seconds = .ok g) : g.Within := by
  obtain ⟨f₀, _, _, _, _, _, _, _, hsecond, h₁, h₂, h₃, h₄⟩ := steps_of_fillFromEpoch h
  have hf₀ : f₀.Within := by
    obtain rfl | ⟨v, hset⟩ := hsecond
    · exact hf
    · exact hf.setSecond hset
  exact (((hf₀.set .year h₁).set .dayOfYear h₂).setHour h₃).setMinute h₄

/-- The date and the time are made of the fields, or of what the epoch adds to them. -/
theorem parts_of_timestamp {t : Timestamp} (h : f.timestamp = .ok t) :
    f.date = .ok t.date ∧ f.time = .ok t.time ∨ ∃ seconds g, f.epochSecond = some seconds ∧
      f.fillFromEpoch seconds = .ok g ∧ g.date = .ok t.date ∧ g.time = .ok t.time := by
  unfold timestamp at h
  split at h
  · rename_i hdate htime
    dsimp only at h
    split at h
    · cases h
      exact .inl ⟨hdate, htime⟩
    · cases h
  · split at h
    · rename_i seconds hepoch
      obtain ⟨-, h⟩ := of_check_eq_ok h
      obtain ⟨-, h⟩ := of_check_eq_ok h
      obtain ⟨g, hg, h⟩ := bind_eq_ok_iff.1 h
      obtain ⟨date, hdate, h⟩ := bind_eq_ok_iff.1 h
      obtain ⟨time, htime, h⟩ := bind_eq_ok_iff.1 h
      cases h
      exact .inr ⟨seconds, g, hepoch, hg, hdate, htime⟩
    · obtain ⟨_, -, h⟩ := bind_eq_ok_iff.1 h
      obtain ⟨_, -, h⟩ := bind_eq_ok_iff.1 h
      cases h

/-- Fields in range make a valid timestamp. -/
theorem valid_of_timestamp (hf : f.Within) {t : Timestamp} (h : f.timestamp = .ok t) :
    t.Valid := by
  obtain ⟨hdate, htime⟩ | ⟨seconds, g, -, hg, hdate, htime⟩ := parts_of_timestamp h
  · exact ⟨valid_of_date hdate, valid_of_time hf htime⟩
  · exact ⟨valid_of_date hdate, valid_of_time (hf.fillFromEpoch hg) htime⟩

end Fields

end ModelProbe.Time

import ModelProbe.Proofs.Time.Fields

/-! Notes about the time of day.

`Fields.clock` is what is noted about the hour, the minute, the second and its fraction, and about
the seconds since the epoch. Reading only adds notes: an item takes none back, and adds none but
those of its own fields (`Fields.Notes`), hence neither does a sequence of items. A time is made
from the notes exactly where they suffice (`Fields.exists_time_iff`), and it is the noted one
(`Fields.Tells`). Filling in from the epoch takes no note back either, so a timestamp has the noted
time however it is made (`Fields.Within.tells_of_timestamp`). -/
namespace ModelProbe.Time

/-- The fields of the clock that an item may note. -/
def Item.clockFields : Item → List NumericField
  | .numeric .hour | .numeric .hour12 | .halfOfDay => [.hour]
  | .numeric .minute => [.minute]
  | .numeric .second => [.second]
  | .numeric .nanosecond | .fraction | .pointedFraction _ | .bareFraction _ => [.nanosecond]
  | .numeric .epochSecond => [.epochSecond]
  | .dateTime => [.hour, .minute, .second, .nanosecond]
  | _ => []

namespace Fields

variable {f g k : Fields} {fields : List NumericField}

/-- What is noted about a field of the clock. There is an hour once its half of the day and its
number in that half are both there. -/
def clock (f : Fields) : NumericField → Option Int
  | .hour =>
    match f.halfOfDay, f.hourOfHalf with
    | some half, some hour => some (12 * half + hour : Nat)
    | _, _ => none
  | .minute => f.minute.map Nat.cast
  | .second => f.second.map Nat.cast
  | .nanosecond => f.nanosecond.map Nat.cast
  | .epochSecond => f.epochSecond
  | _ => none

theorem clock_empty (field : NumericField) : clock {} field = none := by
  cases field <;> rfl

/-- No note about the clock is taken back. -/
def Keeps (f g : Fields) : Prop :=
  ∀ field n, f.clock field = some n → g.clock field = some n

theorem Keeps.trans (hf : f.Keeps g) (hg : g.Keeps k) : f.Keeps k :=
  fun field n hn => hg field n (hf field n hn)

/-- Notes are added about some fields of the clock and taken back about none. -/
structure Notes (f g : Fields) (fields : List NumericField) : Prop where
  keeps : f.Keeps g
  frame : ∀ field ∉ fields, g.clock field = f.clock field

theorem Notes.refl (f : Fields) (fields : List NumericField) : Notes f f fields :=
  ⟨fun _ _ hn => hn, fun _ _ => rfl⟩

theorem Notes.trans {more : List NumericField} (hf : Notes f g fields) (hg : Notes g k more) :
    Notes f k (fields ++ more) := by
  refine ⟨hf.keeps.trans hg.keeps, fun field hfield => ?_⟩
  obtain ⟨hfields, hmore⟩ := not_or.1 (List.mem_append.not.1 hfield)
  rw [hg.frame field hmore, hf.frame field hfields]

/-- Any field but those of the clock may be changed at will. -/
theorem Notes.of_clock (hhalf : g.halfOfDay = f.halfOfDay) (hhour : g.hourOfHalf = f.hourOfHalf)
    (hminute : g.minute = f.minute) (hsecond : g.second = f.second)
    (hnano : g.nanosecond = f.nanosecond) (hepoch : g.epochSecond = f.epochSecond) :
    Notes f g fields := by
  have hclock : g.clock = f.clock := by
    funext field
    simp only [clock, hhalf, hhour, hminute, hsecond, hnano, hepoch]
  exact ⟨fun field n hn => by rwa [hclock], fun field _ => by rw [hclock]⟩

/-- One field of the clock is noted, and it keeps the value it had. -/
theorem Notes.of_field {field : NumericField}
    (hkeeps : ∀ n, f.clock field = some n → g.clock field = some n)
    (hframe : ∀ other, other ≠ field → g.clock other = f.clock other) : Notes f g [field] := by
  refine ⟨fun other n hn => ?_, fun other hother => hframe other (List.mem_singleton.not.1 hother)⟩
  by_cases hother : other = field
  · rw [hother] at hn ⊢
    exact hkeeps n hn
  · rwa [hframe other hother]

/-! ### Setting fields -/

/-- A field that has a value keeps it. -/
theorem agree_keeps {α : Type} [DecidableEq α] {old r : Option α} {new v : α}
    (h : agree old new = .ok r) (hold : old = some v) : r = some v := by
  rw [hold] at h
  simp only [agree] at h
  split at h <;> cases h
  rfl

variable {v : Int}

/-- A number in range is noted in its field. -/
theorem Notes.stored {field : NumericField} {low high : Int} (get : Fields → Option Nat)
    (put : Option Nat → Fields) (hget : ∀ f, clock f field = (get f).map Nat.cast)
    (hput : ∀ r, get (put r) = r)
    (hframe : ∀ r other, other ≠ field → (put r).clock other = f.clock other) (hlow : 0 ≤ low)
    (hset : (do return put (← agree (get f) (← within low high v))) = Except.ok g) :
    Notes f g [field] ∧ g.clock field = some v := by
  obtain ⟨k, hk, hset⟩ := bind_eq_ok_iff.1 hset
  obtain ⟨r, hr, hset⟩ := bind_eq_ok_iff.1 hset
  cases hset
  refine ⟨.of_field (fun n hn => ?_) (hframe _), ?_⟩
  · rw [hget] at hn
    obtain ⟨old, hold, rfl⟩ := Option.map_eq_some_iff.1 hn
    rw [agree_keeps hr hold, hget, hput]
    rfl
  · obtain ⟨rfl, hle, -⟩ := within_eq_ok hk
    rw [agree_eq_ok hr, hget, hput]
    exact congrArg some (Int.toNat_of_nonneg (hlow.trans hle))

theorem Notes.setMinute (hset : f.setMinute v = .ok g) :
    Notes f g [.minute] ∧ g.clock .minute = some v :=
  Notes.stored Fields.minute (fun r => { f with minute := r }) (fun _ => rfl) (fun _ => rfl)
    (fun _ other hother => by cases other <;> first | rfl | exact absurd rfl hother)
    (Int.le_refl 0) hset

theorem Notes.setSecond (hset : f.setSecond v = .ok g) :
    Notes f g [.second] ∧ g.clock .second = some v :=
  Notes.stored Fields.second (fun r => { f with second := r }) (fun _ => rfl) (fun _ => rfl)
    (fun _ other hother => by cases other <;> first | rfl | exact absurd rfl hother)
    (Int.le_refl 0) hset

theorem Notes.setNanosecond (hset : f.setNanosecond v = .ok g) : Notes f g [.nanosecond] :=
  (Notes.stored Fields.nanosecond (fun r => { f with nanosecond := r }) (fun _ => rfl)
    (fun _ => rfl)
    (fun _ other hother => by cases other <;> first | rfl | exact absurd rfl hother)
    (Int.le_refl 0) hset).1

theorem Notes.setEpochSecond (hset : f.setEpochSecond v = .ok g) : Notes f g [.epochSecond] := by
  obtain ⟨r, hr, hset⟩ := bind_eq_ok_iff.1 hset
  cases hset
  exact .of_field (fun _ hn => agree_keeps hr hn)
    fun other hother => by cases other <;> first | rfl | exact absurd rfl hother

theorem clock_hour_eq_some_iff {n : Int} : f.clock .hour = some n ↔
    ∃ half hour, f.halfOfDay = some half ∧ f.hourOfHalf = some hour ∧
      ((12 * half + hour : Nat) : Int) = n := by
  unfold clock
  cases f.halfOfDay <;> cases f.hourOfHalf <;> simp

/-- The parts of an hour keep the values they have. -/
theorem Notes.of_hour {half hour : Option Nat} (hhalf : ∀ v, f.halfOfDay = some v → half = some v)
    (hhour : ∀ v, f.hourOfHalf = some v → hour = some v) :
    Notes f { f with halfOfDay := half, hourOfHalf := hour } [.hour] := by
  refine .of_field (fun n hn => ?_) fun other hother => ?_
  · obtain ⟨_, _, h, h', hn⟩ := clock_hour_eq_some_iff.1 hn
    exact clock_hour_eq_some_iff.2 ⟨_, _, hhalf _ h, hhour _ h', hn⟩
  · cases other <;> first | rfl | exact absurd rfl hother

theorem Notes.setHour (hset : f.setHour v = .ok g) :
    Notes f g [.hour] ∧ g.clock .hour = some v := by
  obtain ⟨hour, hhour, hset⟩ := bind_eq_ok_iff.1 hset
  obtain ⟨r, hr, hset⟩ := bind_eq_ok_iff.1 hset
  obtain ⟨s, hs, hset⟩ := bind_eq_ok_iff.1 hset
  cases hset
  refine ⟨.of_hour (fun _ => agree_keeps hr) fun _ => agree_keeps hs, ?_⟩
  obtain ⟨rfl, hlow, -⟩ := within_eq_ok hhour
  exact clock_hour_eq_some_iff.2 ⟨_, _, agree_eq_ok hr, agree_eq_ok hs, by omega⟩

theorem Notes.setHour12 (hset : f.setHour12 v = .ok g) : Notes f g [.hour] := by
  obtain ⟨_, -, hset⟩ := bind_eq_ok_iff.1 hset
  obtain ⟨r, hr, hset⟩ := bind_eq_ok_iff.1 hset
  cases hset
  exact .of_hour (fun _ h => h) fun _ => agree_keeps hr

theorem Notes.setHalfOfDay {half : Nat} (hset : f.setHalfOfDay half = .ok g) :
    Notes f g [.hour] := by
  obtain ⟨r, hr, hset⟩ := bind_eq_ok_iff.1 hset
  cases hset
  exact .of_hour (fun _ => agree_keeps hr) fun _ h => h

theorem Notes.setOffset (hset : f.setOffset v = .ok g) : Notes f g fields := by
  obtain ⟨_, -, hset⟩ := bind_eq_ok_iff.1 hset
  cases hset
  exact .of_clock rfl rfl rfl rfl rfl rfl

theorem Notes.setWeekday {day : Nat} (hset : f.setWeekday day = .ok g) : Notes f g fields := by
  obtain ⟨_, -, hset⟩ := bind_eq_ok_iff.1 hset
  cases hset
  exact .of_clock rfl rfl rfl rfl rfl rfl

/-- A numeric field is noted as itself, an hour of a half as the hour. -/
theorem Notes.set (field : NumericField) (hset : f.set field v = .ok g) :
    Notes f g (Item.numeric field).clockFields := by
  cases field with
  | hour => exact (setHour hset).1
  | hour12 => exact setHour12 hset
  | minute => exact (setMinute hset).1
  | second => exact (setSecond hset).1
  | nanosecond => exact setNanosecond hset
  | epochSecond => exact setEpochSecond hset
  | weekdayFromSunday | weekdayFromMonday =>
    obtain ⟨_, -, hset⟩ := bind_eq_ok_iff.1 hset
    exact setWeekday hset
  | _ =>
    obtain ⟨_, -, rfl⟩ := stored_eq_ok hset
    exact .of_clock rfl rfl rfl rfl rfl rfl

/-! ### Reading items -/

theorem Notes.scanPart {cs rest : List Char} {item : Item}
    (hscan : scanPart f cs item = .ok (g, rest)) : Notes f g item.clockFields := by
  cases sets_of_scanPart hscan with
  | nothing => exact .refl ..
  | numeric hset => exact .set _ hset
  | monthName hset =>
    obtain ⟨_, -, rfl⟩ := stored_eq_ok hset
    exact .of_clock rfl rfl rfl rfl rfl rfl
  | weekdayName hset => exact setWeekday hset
  | halfOfDay hhalf hset => exact setHalfOfDay hset
  | fraction hset | pointedFraction hset | bareFraction hset => exact setNanosecond hset
  | offset hset => exact setOffset hset

/-- A sequence of items notes what its items do. -/
theorem Notes.foldlM (step : Fields → List Char → Item → Scanned)
    (hstep : ∀ {f g : Fields} {cs rest : List Char} {item : Item},
      step f cs item = .ok (g, rest) → Notes f g item.clockFields)
    {items : List Item} {cs rest : List Char}
    (hscan : items.foldlM (fun p item => step p.1 p.2 item) (f, cs) = .ok (g, rest)) :
    Notes f g (items.flatMap Item.clockFields) := by
  induction items generalizing f cs with
  | nil =>
    cases hscan
    exact .refl ..
  | cons item items ih =>
    rw [List.foldlM_cons] at hscan
    obtain ⟨⟨f', _⟩, hitem, hscan⟩ := bind_eq_ok_iff.1 hscan
    exact (hstep hitem).trans (ih hscan)

theorem Notes.scanParts {items : List Item} {cs rest : List Char}
    (hscan : scanParts f cs items = .ok (g, rest)) : Notes f g (items.flatMap Item.clockFields) :=
  foldlM Time.scanPart scanPart hscan

theorem Notes.scanItem {cs rest : List Char} {item : Item}
    (hscan : scanItem f cs item = .ok (g, rest)) : Notes f g item.clockFields := by
  cases item with
  | dateTime =>
    obtain ⟨f₁, _, _, f₂, _, _, hdate, -, htime, hset⟩ := parts_of_scanDateTime hscan
    have hdate : Notes f f₁ [] := scanParts hdate
    have htime : Notes f₁ f₂ [.hour, .minute, .second, .nanosecond] := scanParts htime
    have hoffset : Notes f₂ g [] := setOffset hset
    exact (hdate.trans htime).trans hoffset
  | _ =>
    simp only [Time.scanItem] at hscan
    exact scanPart hscan

/-! ### Making timestamps -/

/-- A time of day has the hour, the minute and the second that are noted. A leap second is noted as
second 60. -/
structure Tells (f : Fields) (c : TimeOfDay) : Prop where
  hour : ∀ n, f.clock .hour = some n → (c.hour : Int) = n
  minute : ∀ n, f.clock .minute = some n → (c.minute : Int) = n
  second : ∀ n, f.clock .second = some n → ((c.second + c.nanosecond / 1000000000 : Nat) : Int) = n

variable {c : TimeOfDay} {t : Timestamp}

theorem Keeps.tells (hkeeps : f.Keeps g) (hg : g.Tells c) : f.Tells c :=
  ⟨fun n hn => hg.hour n (hkeeps _ n hn), fun n hn => hg.minute n (hkeeps _ n hn),
    fun n hn => hg.second n (hkeeps _ n hn)⟩

/-- A time needs the hour and the minute, and a fraction needs its second. -/
theorem exists_time_iff : (∃ c, f.time = .ok c) ↔
    (∃ n, f.clock .hour = some n) ∧ (∃ n, f.clock .minute = some n) ∧
      ∀ n, f.clock .nanosecond = some n → ∃ k, f.clock .second = some k := by
  unfold time clock
  cases f.halfOfDay <;> cases f.hourOfHalf <;> cases f.minute <;> cases f.nanosecond <;>
    cases f.second <;> simp

/-- The time that is made is the noted one. -/
theorem Within.tells (hf : f.Within) (htime : f.time = .ok c) : f.Tells c := by
  unfold time at htime
  split at htime
  · rename_i half hour minute hhalf hhour hminute
    have hnano := hf.nanosecond_getD
    dsimp only at htime
    split at htime
    · cases htime
    · cases htime
      refine ⟨fun n hn => ?_, fun n hn => ?_, fun n hn => ?_⟩
      · simpa only [clock, hhalf, hhour, Option.some.injEq] using hn
      · simpa only [clock, hminute, Option.map_some, Option.some.injEq] using hn
      · obtain ⟨second, hsecond, rfl⟩ := Option.map_eq_some_iff.1 hn
        have hle := hf.second _ hsecond
        simp only [hsecond, Option.getD_some]
        split <;> omega
  · cases htime

theorem Keeps.fillFromEpoch {seconds : Int} (hfill : f.fillFromEpoch seconds = .ok g) :
    f.Keeps g := by
  obtain ⟨f₀, _, _, _, _, _, _, _, hsecond, h₁, h₂, h₃, h₄⟩ := steps_of_fillFromEpoch hfill
  have hf₀ : f.Keeps f₀ := by
    obtain rfl | ⟨v, hset⟩ := hsecond
    · exact fun _ _ hn => hn
    · exact (Notes.setSecond hset).1.keeps
  have hdate := (Notes.set .year h₁).trans (Notes.set .dayOfYear h₂)
  have htime := (Notes.setHour h₃).1.trans (Notes.setMinute h₄).1
  exact hf₀.trans (hdate.trans htime).keeps

/-- However a timestamp is made, it tells the noted time. -/
theorem Within.tells_of_timestamp (hf : f.Within) (h : f.timestamp = .ok t) : f.Tells t.time := by
  obtain ⟨-, htime⟩ | ⟨seconds, g, -, hg, -, htime⟩ := parts_of_timestamp h
  · exact hf.tells htime
  · exact (Keeps.fillFromEpoch hg).tells ((hf.fillFromEpoch hg).tells htime)

/-- Without seconds since the epoch a date and a time make a timestamp. -/
theorem timestamp_of_time {d : Date} (hdate : f.date = .ok d) (htime : f.time = .ok c)
    (hepoch : f.clock .epochSecond = none) : f.timestamp = .ok ⟨d, c⟩ := by
  have hepoch : f.epochSecond = none := hepoch
  unfold timestamp
  rw [hdate, htime, hepoch]
  rfl

/-- Without seconds since the epoch there is no timestamp unless there is a time. -/
theorem exists_time_of_timestamp (hepoch : f.clock .epochSecond = none)
    (h : f.timestamp = .ok t) : ∃ c, f.time = .ok c := by
  obtain ⟨-, htime⟩ | ⟨seconds, _, hgiven, -⟩ := parts_of_timestamp h
  · exact ⟨t.time, htime⟩
  · cases hepoch.symm.trans hgiven

end Fields

end ModelProbe.Time

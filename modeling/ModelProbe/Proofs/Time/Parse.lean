import ModelProbe.Proofs.Time.Fields
import ModelProbe.Time.Parse

/-! Whatever is read as a timestamp is valid.

A timestamp comes from fields in range, or from a number of seconds. An offset is a number of whole
minutes, so the second of a leap second stays 59 when an offset is taken off. -/
namespace ModelProbe.Time

theorem toOption_eq_some {α ε : Type} {x : Except ε α} {a : α} (h : x.toOption = some a) :
    x = .ok a := by
  cases x with
  | error e => cases h
  | ok b => cases h; rfl

/-- An offset is a number of whole minutes. -/
theorem scanOffset_minutes {separator : List Char → Except Fault (List Char)}
    {zulu lenient : Bool} {cs rest : List Char} {offset : Int}
    (h : scanOffset separator zulu lenient cs = .ok (offset, rest)) : offset % 60 = 0 := by
  unfold scanOffset at h
  split at h
  · cases h
    rfl
  · cases h
    rfl
  · obtain ⟨⟨negative, _⟩, -, h⟩ := bind_eq_ok_iff.1 h
    obtain ⟨⟨hours, _⟩, -, h⟩ := bind_eq_ok_iff.1 h
    obtain ⟨_, -, h⟩ := bind_eq_ok_iff.1 h
    obtain ⟨⟨minutes, _⟩, -, h⟩ := bind_eq_ok_iff.1 h
    cases h
    split <;> omega

namespace Timestamp

theorem valid_of_ofPlain? {format text : String} {t : Timestamp}
    (h : ofPlain? format text = some t) : t.Valid := by
  obtain ⟨f, hf, h⟩ := bind_eq_ok_iff.1 (toOption_eq_some h)
  exact Fields.valid_of_timestamp (Fields.within_ofText hf) h

theorem valid_midnight_of_date {format text : String} {d : Date}
    (h : (Fields.ofText format text).bind Fields.date = .ok d) : Valid ⟨d, .midnight⟩ := by
  obtain ⟨f, -, h⟩ := bind_eq_ok_iff.1 h
  exact ⟨Fields.valid_of_date h, TimeOfDay.valid_midnight⟩

theorem valid_of_ofFormat {format text : String} {t : Timestamp}
    (h : ofFormat format text = .ok t) : t.Valid := by
  unfold ofFormat at h
  dsimp only at h
  split at h
  · rename_i t' hfields
    cases h
    obtain ⟨f, hf, ht⟩ := bind_eq_ok_iff.1 hfields
    exact Fields.valid_of_timestamp (Fields.within_ofText hf) ht
  · obtain ⟨d, hd, rfl⟩ := Fields.map_eq_ok h
    exact valid_midnight_of_date hd

/-- Taking a number of whole minutes off keeps a timestamp valid. -/
theorem Valid.sub_minutes {t u : Timestamp} (ht : t.Valid) {offset : Int}
    (hoffset : offset % 60 = 0)
    (h : ofEpoch? (t.epochSeconds - offset) t.time.nanosecond = some u) : u.Valid := by
  refine valid_of_ofEpoch? h ht.time.nanosecond fun hleap => ?_
  have hsecond := ht.time.leap hleap
  unfold epochSeconds TimeOfDay.seconds
  omega

theorem valid_of_ofRfc3339? {text : String} {t : Timestamp} (h : ofRfc3339? text = some t) :
    t.Valid := by
  have h := toOption_eq_some h
  -- The scanned numbers.
  iterate 11 obtain ⟨_, -, h⟩ := bind_eq_ok_iff.1 h
  -- The fields they are put in.
  obtain ⟨f₁, h₁, h⟩ := bind_eq_ok_iff.1 h
  obtain ⟨f₂, h₂, h⟩ := bind_eq_ok_iff.1 h
  obtain ⟨f₃, h₃, h⟩ := bind_eq_ok_iff.1 h
  obtain ⟨f₄, h₄, h⟩ := bind_eq_ok_iff.1 h
  obtain ⟨f₅, h₅, h⟩ := bind_eq_ok_iff.1 h
  obtain ⟨f₆, h₆, h⟩ := bind_eq_ok_iff.1 h
  obtain ⟨⟨f₇, _⟩, h₇, h⟩ := bind_eq_ok_iff.1 h
  obtain ⟨⟨offset, rest⟩, hoffset, h⟩ := bind_eq_ok_iff.1 h
  obtain ⟨t', ht', h⟩ := bind_eq_ok_iff.1 h
  have hdate : f₃.Within := ((Fields.within_empty.set .year h₁).set .month h₂).set .day h₃
  have htime : f₇.Within := (((hdate.setHour h₄).setMinute h₅).setSecond h₆).scanPart h₇
  split at h
  · exact (Fields.valid_of_timestamp htime ht').sub_minutes (scanOffset_minutes hoffset)
      (Fields.ofOption_eq_ok h)
  · cases h

theorem valid_of_ofText? {text : String} {t : Timestamp} (h : ofText? text = some t) :
    t.Valid := by
  rcases Option.or_eq_some_iff.1 h with h | ⟨-, h⟩
  · exact valid_of_ofRfc3339? h
  rcases Option.or_eq_some_iff.1 h with h | ⟨-, h⟩
  · obtain ⟨format, -, h⟩ := List.exists_of_findSome?_eq_some h
    exact valid_of_ofPlain? h
  · obtain ⟨d, hd, rfl⟩ := Option.map_eq_some_iff.1 h
    exact valid_midnight_of_date (toOption_eq_some hd)

end Timestamp

end ModelProbe.Time

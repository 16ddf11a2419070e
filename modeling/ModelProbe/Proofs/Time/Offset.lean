import ModelProbe.Proofs.Time.RoundTrip

/-! Offsets from UTC.

An RFC 3339 text writes a local date and time and an offset (`ZonedTime`), and stands for the one
less the other (`rank_localTime`). The items of a format read the same date and time in it, and a
signed offset too (`matches_of_fits`); but an offset that is noted in fields has no part in the
timestamp they make (`Fields.timestamp_withOffset`), so what a format gives is the local time
(`WrittenIn.ofFormat`). -/
namespace ModelProbe.Time

/-! ### Fields and their offset -/

namespace Fields

variable {f g : Fields}

/-- The fields with another offset, or with none. -/
def withOffset (f : Fields) (offset : Option Int) : Fields :=
  { f with offset }

/-- A setter that neither reads nor writes the offset. -/
theorem stored_withOffset {α β : Type} [DecidableEq β] {check : Except Fault α} {old : Option β}
    {value : α → β} {put put' : Option β → Fields} {offset : Option Int}
    (hput : ∀ r, put' r = (put r).withOffset offset) :
    (do return put' (← agree old (value (← check)))) =
      (do return put (← agree old (value (← check))) : Except Fault Fields).map
        (withOffset · offset) := by
  cases check with
  | error fault => rfl
  | ok a =>
    show (do return put' (← agree old (value a))) =
      (do return put (← agree old (value a)) : Except Fault Fields).map _
    cases agree old (value a) with
    | error fault => rfl
    | ok r => exact congrArg Except.ok (hput r)

variable (offset : Option Int) (v : Int)

theorem setYear_withOffset :
    (f.withOffset offset).setYear v = (f.setYear v).map (withOffset · offset) :=
  stored_withOffset fun _ => rfl

theorem setDayOfYear_withOffset :
    (f.withOffset offset).setDayOfYear v = (f.setDayOfYear v).map (withOffset · offset) :=
  stored_withOffset fun _ => rfl

theorem setMinute_withOffset :
    (f.withOffset offset).setMinute v = (f.setMinute v).map (withOffset · offset) :=
  stored_withOffset fun _ => rfl

theorem setSecond_withOffset :
    (f.withOffset offset).setSecond v = (f.setSecond v).map (withOffset · offset) :=
  stored_withOffset fun _ => rfl

theorem setHour_withOffset :
    (f.withOffset offset).setHour v = (f.setHour v).map (withOffset · offset) := by
  have hhalf : (f.withOffset offset).halfOfDay = f.halfOfDay := rfl
  have hhour : (f.withOffset offset).hourOfHalf = f.hourOfHalf := rfl
  unfold setHour
  rw [hhalf, hhour]
  cases within 0 23 v with
  | error fault => rfl
  | ok hour =>
    simp only [bind, Except.bind]
    cases agree f.halfOfDay (hour / 12) with
    | error fault => rfl
    | ok half =>
      dsimp only
      cases agree f.hourOfHalf (hour % 12) <;> rfl

/-- Steps that pass the offset on pass it on together. -/
theorem bind_withOffset {x x' : Except Fault Fields} {next next' : Fields → Except Fault Fields}
    (hx : x' = x.map (withOffset · offset))
    (hnext : ∀ g, next' (g.withOffset offset) = (next g).map (withOffset · offset)) :
    (x' >>= next') = (x >>= next).map (withOffset · offset) := by
  rw [hx]
  cases x with
  | error fault => rfl
  | ok g => exact hnext g

/-- The fields that a timestamp determines, but for the second. -/
def note (t : Timestamp) (f : Fields) : Except Fault Fields := do
  let f ← f.setYear t.date.year
  let f ← f.setDayOfYear t.date.dayOfYear
  let f ← f.setHour t.time.hour
  f.setMinute t.time.minute

theorem note_withOffset (t : Timestamp) (f : Fields) :
    note t (f.withOffset offset) = (note t f).map (withOffset · offset) :=
  bind_withOffset offset (setYear_withOffset offset _) fun _ =>
    bind_withOffset offset (setDayOfYear_withOffset offset _) fun _ =>
      bind_withOffset offset (setHour_withOffset offset _) fun _ => setMinute_withOffset offset _

theorem fillFromEpoch_withOffset (seconds : Int) :
    (f.withOffset offset).fillFromEpoch seconds =
      (f.fillFromEpoch seconds).map (withOffset · offset) := by
  have hsecond : (f.withOffset offset).second = f.second := rfl
  unfold fillFromEpoch
  rw [hsecond]
  cases ofOption .outOfRange (Timestamp.ofEpoch? seconds 0) with
  | error fault => rfl
  | ok t =>
    by_cases hleap : f.second = some 60
    · simp only [hleap, if_true, bind, Except.bind]
      split
      · exact note_withOffset offset t f
      · cases ofOption .outOfRange (Timestamp.ofEpoch? (seconds - 1) 0) with
        | error fault => rfl
        | ok before => exact note_withOffset offset before f
      · rfl
    · simp only [hleap, if_false]
      exact bind_withOffset offset (setSecond_withOffset offset _) (note_withOffset offset t)

/-- **The offset has no part in the timestamp** that fields make. -/
theorem timestamp_withOffset : (f.withOffset offset).timestamp = f.timestamp := by
  have hdate : (f.withOffset offset).date = f.date := rfl
  have htime : (f.withOffset offset).time = f.time := rfl
  have hepoch : (f.withOffset offset).epochSecond = f.epochSecond := rfl
  unfold timestamp
  rw [hdate, htime, hepoch]
  split
  · rfl
  · cases f.epochSecond with
    | none => rfl
    | some seconds =>
      dsimp only
      rw [fillFromEpoch_withOffset]
      cases f.fillFromEpoch seconds <;> rfl

end Fields

/-! ### Reading what is of full width -/

variable {f g : Fields} {cs rest : List Char} {n width : Nat} {c : Char} {text : String}

theorem eq_cons_of_scanChar (h : scanChar c cs = .ok rest) : cs = c :: rest := by
  cases cs with
  | nil => cases h
  | cons d more =>
    rw [scanChar] at h
    split at h
    · rename_i hd
      cases h
      rw [hd]
    · cases h

theorem eq_cons_of_scanDateTimeMark (h : scanDateTimeMark cs = .ok rest) :
    ∃ mark, cs = mark :: rest ∧ (mark = 'T' ∨ mark = 't' ∨ mark = ' ') := by
  unfold scanDateTimeMark at h
  split at h
  · cases h
    exact ⟨'T', rfl, .inl rfl⟩
  · cases h
    exact ⟨'t', rfl, .inr (.inl rfl)⟩
  · cases h
    exact ⟨' ', rfl, .inr (.inr rfl)⟩
  · cases h
  · cases h

/-- A number of no less than its width begins with a digit, and fewer digits would do. -/
theorem scanNumber_full (hpos : 0 < width) (h : scanNumber width (some width) cs = .ok (n, rest)) :
    rest = cs.drop width ∧ (∃ c more, cs = c :: more ∧ c.isDigit) ∧
      scanNumber 1 (some width) cs = .ok (n, rest) := by
  have hdigit : ∃ c more, cs = c :: more ∧ c.isDigit := by
    cases cs with
    | nil =>
      obtain ⟨hbytes, -⟩ := of_check_eq_ok h
      exact absurd hpos hbytes
    | cons c more =>
      refine ⟨c, more, rfl, Bool.eq_true_of_not_eq_false fun hc => ?_⟩
      exact scanNumber_ne_ok hpos hc h
  obtain ⟨hbytes, h⟩ := of_check_eq_ok h
  obtain ⟨hleast, h⟩ := of_check_eq_ok h
  obtain ⟨hfits, h⟩ := of_check_eq_ok h
  cases h
  have hlength : ((cs.take width).takeWhile Char.isDigit).length = width := by
    refine Nat.le_antisymm ?_ (Nat.not_lt.1 hleast)
    exact (List.takeWhile_prefix _).length_le.trans (List.length_take_le _ _)
  refine ⟨congrArg cs.drop hlength, hdigit, ?_⟩
  have hone : ¬byteLength cs < 1 := by omega
  have hone' : ¬(((some width).elim cs cs.take).takeWhile Char.isDigit).length < 1 := by
    show ¬((cs.take width).takeWhile Char.isDigit).length < 1
    omega
  simp only [scanNumber]
  rw [if_neg hone, if_neg hone', if_neg hfits]

/-- The item of a field reads a number of its full width. -/
theorem scanItem_of_scanNumber {field : NumericField} (hwidth : field.width = some width)
    (hpos : 0 < width) (hscan : scanNumber width (some width) cs = .ok (n, rest))
    (hset : f.set field n = .ok g) : scanItem f cs (.numeric field) = .ok (g, rest) := by
  obtain ⟨-, ⟨c, more, rfl, hc⟩, hscan⟩ := scanNumber_full hpos hscan
  have hfront : (c :: more).dropWhile Text.isBlank = c :: more :=
    List.dropWhile_cons_of_neg (by rw [not_isBlank_of_isDigit hc]; exact Bool.false_ne_true)
  rw [← hwidth] at hscan
  simp only [scanItem, scanPart, hfront, scanNumeric_of_isDigit field hc hscan]
  exact bind_of_ok hset _

theorem eq_cons_of_scanSign {negative : Bool} (h : scanSign cs = .ok (negative, rest)) :
    ∃ c, cs = c :: rest ∧ Text.isBlank c = false := by
  unfold scanSign at h
  split at h
  · cases h
    exact ⟨'+', rfl, rfl⟩
  · cases h
    exact ⟨'-', rfl, rfl⟩
  · cases h
    exact ⟨'\u2212', rfl, rfl⟩
  · cases h
  · cases h

theorem eq_cons_of_scanOffsetMinutes {minutes : Nat}
    (h : scanOffsetMinutes false cs = .ok (minutes, rest)) :
    ∃ c more, cs = c :: more ∧ c.isDigit := by
  unfold scanOffsetMinutes at h
  split at h
  · cases h
  · split at h
    · split at h
      · rename_i hdigits
        exact ⟨_, _, rfl, hdigits.1⟩
      · cases h
    · cases h

/-- A sign is what an offset begins with that is read wherever offsets are. -/
theorem scanOffset_of_signed {offset : Int}
    (h : scanOffset (scanChar ':') true false cs = .ok (offset, rest))
    (hsigned : cs.head? ≠ some 'Z' ∧ cs.head? ≠ some 'z') :
    scanOffset colonOrBlank false false (cs.dropWhile Text.isBlank) = .ok (offset, rest) := by
  unfold scanOffset at h
  split at h
  · exact absurd rfl hsigned.1
  · exact absurd rfl hsigned.2
  · obtain ⟨⟨negative, signless⟩, hsign, h⟩ := bind_eq_ok_iff.1 h
    obtain ⟨⟨hours, separated⟩, hhours, h⟩ := bind_eq_ok_iff.1 h
    obtain ⟨last, hcolon, h⟩ := bind_eq_ok_iff.1 h
    obtain ⟨⟨minutes, _⟩, hminutes, h⟩ := bind_eq_ok_iff.1 h
    cases h
    obtain ⟨c, rfl, hc⟩ := eq_cons_of_scanSign hsign
    obtain ⟨d, more, rfl, hd⟩ := eq_cons_of_scanOffsetMinutes hminutes
    obtain rfl := eq_cons_of_scanChar hcolon
    have hfront : (c :: signless).dropWhile Text.isBlank = c :: signless :=
      List.dropWhile_cons_of_neg (by rw [hc]; exact Bool.false_ne_true)
    -- Behind the colon come the digits of the minutes.
    have hcolon' : colonOrBlank (':' :: d :: more) = .ok (d :: more) := by
      have hstop : (d == ':' || Text.isBlank d) = false := by
        rw [not_isBlank_of_isDigit hd, Bool.or_false, beq_eq_false_iff_ne]
        rintro rfl
        exact absurd hd (by decide)
      rw [colonOrBlank, List.dropWhile_cons_of_pos rfl,
        List.dropWhile_cons_of_neg (by simp [hstop])]
    rw [hfront]
    refine bind_eq_ok_iff.2 ⟨_, hsign, bind_eq_ok_iff.2 ⟨_, hhours, ?_⟩⟩
    exact bind_eq_ok_iff.2 ⟨_, hcolon', bind_eq_ok_iff.2 ⟨_, hminutes, rfl⟩⟩

/-! ### Fields that are not the offset -/

namespace Fields

theorem offset_of_set (field : NumericField) {v : Int} (h : f.set field v = .ok g) :
    g.offset = f.offset := by
  cases field with
  | hour =>
    obtain ⟨_, -, h⟩ := bind_eq_ok_iff.1 h
    obtain ⟨_, -, h⟩ := bind_eq_ok_iff.1 h
    obtain ⟨_, -, h⟩ := bind_eq_ok_iff.1 h
    cases h
    rfl
  | weekdayFromSunday | weekdayFromMonday =>
    obtain ⟨_, -, h⟩ := bind_eq_ok_iff.1 h
    obtain ⟨_, -, h⟩ := bind_eq_ok_iff.1 h
    cases h
    rfl
  | epochSecond =>
    obtain ⟨_, -, h⟩ := bind_eq_ok_iff.1 h
    cases h
    rfl
  | _ =>
    obtain ⟨_, -, rfl⟩ := stored_eq_ok h
    rfl

theorem offset_of_fraction (h : scanPart f cs .fraction = .ok (g, rest)) : g.offset = f.offset := by
  cases sets_of_scanPart h with
  | nothing => rfl
  | fraction hset => exact offset_of_set .nanosecond hset

/-- A fraction that is not noted is not there. -/
theorem eq_of_fraction_none (h : scanPart f cs .fraction = .ok (g, rest))
    (hnone : g.nanosecond = none) : g = f ∧ rest = cs := by
  simp only [scanPart] at h
  split at h
  · obtain ⟨_, -, h⟩ := bind_eq_ok_iff.1 h
    obtain ⟨_, hset, h⟩ := bind_eq_ok_iff.1 h
    cases h
    obtain ⟨_, -, rfl⟩ := stored_eq_ok hset
    cases hnone
  · cases h
    exact ⟨rfl, rfl⟩

theorem setOffset_ok {v : Int} (h : f.offset = none) :
    f.setOffset v = .ok (f.withOffset (some v)) := by
  unfold setOffset
  rw [h]
  rfl

end Fields

/-! ### RFC 3339 texts -/

/-- The items of a date and a time in digits. -/
def wholeItems (separator : Item) : List Item :=
  [.numeric .year, .dash, .numeric .month, .dash, .numeric .day, separator, .numeric .hour, .colon,
    .numeric .minute, .colon, .numeric .second]

/-- The same with a fraction of any length. -/
def localItems (separator : Item) : List Item :=
  wholeItems separator ++ [.fraction]

/-- The item for what stands between the date and the time in a text, behind ten characters. -/
def separator (text : String) : Item :=
  match text.toList.drop 10 with
  | ' ' :: _ => .space
  | c :: _ => .literal [c]
  | [] => .unknown

/-- The separator of a text takes the mark that is there, and digits after it are kept. -/
theorem scanItem_separator (htext : text.toList.drop 10 = cs)
    (hmark : scanDateTimeMark cs = .ok rest) (hrest : ∃ c more, rest = c :: more ∧ c.isDigit) :
    scanItem f cs (separator text) = .ok (f, rest) := by
  obtain ⟨mark, rfl, hmarks⟩ := eq_cons_of_scanDateTimeMark hmark
  obtain ⟨d, more, rfl, hd⟩ := hrest
  rw [separator, htext]
  obtain rfl | rfl | rfl := hmarks
  · exact scanItem_literal 'T'
  · exact scanItem_literal 't'
  · have hdrop : (' ' :: d :: more).dropWhile Text.isBlank = d :: more := by
      rw [List.dropWhile_cons_of_pos rfl]
      exact List.dropWhile_cons_of_neg (by rw [not_isBlank_of_isDigit hd]; exact Bool.false_ne_true)
    exact congrArg (fun cs => Except.ok (f, cs)) hdrop

/-- A local date and time with its offset from UTC, which is written as the zone. -/
structure ZonedTime where
  fields : Fields
  localTime : Timestamp
  zone : List Char
  offset : Int

/-- What an RFC 3339 text writes: a date and a time in digits, and the offset in the zone that they
leave of the text. -/
structure ZonedTime.WrittenIn (z : ZonedTime) (text : String) : Prop where
  scanned : (localItems (separator text)).foldlM (fun (f, cs) item => scanItem f cs item)
    ({}, text.toList) = .ok (z.fields, z.zone)
  offset : scanOffset (scanChar ':') true false z.zone = .ok (z.offset, [])
  unset : z.fields.offset = none
  made : z.fields.timestamp = .ok z.localTime

/-- A date takes ten characters. -/
theorem drop_of_scanned_date {year month day : Nat} {cs₁ cs₂ cs₃ cs₄ cs₅ : List Char}
    (hyear : scanNumber 4 (some 4) cs = .ok (year, cs₁)) (hdash : scanChar '-' cs₁ = .ok cs₂)
    (hmonth : scanNumber 2 (some 2) cs₂ = .ok (month, cs₃)) (hdash' : scanChar '-' cs₃ = .ok cs₄)
    (hday : scanNumber 2 (some 2) cs₄ = .ok (day, cs₅)) : cs.drop 10 = cs₅ := by
  obtain ⟨hyear, -, -⟩ := scanNumber_full (by decide) hyear
  obtain ⟨hmonth, -, -⟩ := scanNumber_full (by decide) hmonth
  obtain ⟨hday, -, -⟩ := scanNumber_full (by decide) hday
  calc cs.drop 10 = (cs.drop 4).drop 6 := by rw [List.drop_drop]
    _ = (cs₂.drop 2).drop 3 := by
      rw [← hyear, eq_cons_of_scanChar hdash, List.drop_drop, List.drop_succ_cons]
    _ = cs₄.drop 2 := by rw [← hmonth, eq_cons_of_scanChar hdash', List.drop_succ_cons]
    _ = cs₅ := hday.symm

/-- An RFC 3339 text stands for its local time less its offset. -/
theorem exists_zonedTime {t : Timestamp} (h : Timestamp.ofRfc3339? text = some t) :
    ∃ z : ZonedTime, z.WrittenIn text ∧ Timestamp.ofEpoch?
      (z.localTime.epochSeconds - z.offset) z.localTime.time.nanosecond = some t := by
  have h := toOption_eq_some h
  -- The numbers and what stands between them.
  obtain ⟨⟨year, cs₁⟩, hyear, h⟩ := bind_eq_ok_iff.1 h
  obtain ⟨cs₂, hdash, h⟩ := bind_eq_ok_iff.1 h
  obtain ⟨⟨month, cs₃⟩, hmonth, h⟩ := bind_eq_ok_iff.1 h
  obtain ⟨cs₄, hdash', h⟩ := bind_eq_ok_iff.1 h
  obtain ⟨⟨day, cs₅⟩, hday, h⟩ := bind_eq_ok_iff.1 h
  obtain ⟨cs₆, hmark, h⟩ := bind_eq_ok_iff.1 h
  obtain ⟨⟨hour, cs₇⟩, hhour, h⟩ := bind_eq_ok_iff.1 h
  obtain ⟨cs₈, hcolon, h⟩ := bind_eq_ok_iff.1 h
  obtain ⟨⟨minute, cs₉⟩, hminute, h⟩ := bind_eq_ok_iff.1 h
  obtain ⟨cs₁₀, hcolon', h⟩ := bind_eq_ok_iff.1 h
  obtain ⟨⟨second, cs₁₁⟩, hsecond, h⟩ := bind_eq_ok_iff.1 h
  -- The fields they are put in.
  obtain ⟨f₁, h₁, h⟩ := bind_eq_ok_iff.1 h
  obtain ⟨f₂, h₂, h⟩ := bind_eq_ok_iff.1 h
  obtain ⟨f₃, h₃, h⟩ := bind_eq_ok_iff.1 h
  obtain ⟨f₄, h₄, h⟩ := bind_eq_ok_iff.1 h
  obtain ⟨f₅, h₅, h⟩ := bind_eq_ok_iff.1 h
  obtain ⟨f₆, h₆, h⟩ := bind_eq_ok_iff.1 h
  obtain ⟨⟨f₇, zone⟩, h₇, h⟩ := bind_eq_ok_iff.1 h
  obtain ⟨⟨offset, rest⟩, hoffset, h⟩ := bind_eq_ok_iff.1 h
  obtain ⟨clock, hclock, h⟩ := bind_eq_ok_iff.1 h
  split at h
  · rename_i hend
    rw [hend.1] at hoffset
    have hdate := drop_of_scanned_date hyear hdash hmonth hdash' hday
    obtain ⟨-, hdigit, -⟩ := scanNumber_full (by decide) hhour
    refine ⟨⟨f₇, clock, zone, offset⟩, ⟨?_, hoffset, ?_, hclock⟩, Fields.ofOption_eq_ok h⟩
    · refine scanItems_cons (scanItem_of_scanNumber rfl (by decide) hyear h₁) ?_
      rw [eq_cons_of_scanChar hdash]
      refine scanItems_cons (scanItem_literal '-') ?_
      refine scanItems_cons (scanItem_of_scanNumber rfl (by decide) hmonth h₂) ?_
      rw [eq_cons_of_scanChar hdash']
      refine scanItems_cons (scanItem_literal '-') ?_
      refine scanItems_cons (scanItem_of_scanNumber rfl (by decide) hday h₃) ?_
      refine scanItems_cons (scanItem_separator hdate hmark hdigit) ?_
      refine scanItems_cons (scanItem_of_scanNumber rfl (by decide) hhour h₄) ?_
      rw [eq_cons_of_scanChar hcolon]
      refine scanItems_cons (scanItem_literal ':') ?_
      refine scanItems_cons (scanItem_of_scanNumber rfl (by decide) hminute h₅) ?_
      rw [eq_cons_of_scanChar hcolon']
      refine scanItems_cons (scanItem_literal ':') ?_
      refine scanItems_cons (scanItem_of_scanNumber rfl (by decide) hsecond h₆) ?_
      exact scanItems_cons h₇ rfl
    · calc f₇.offset = f₆.offset := Fields.offset_of_fraction h₇
        _ = f₅.offset := Fields.offset_of_set .second h₆
        _ = f₄.offset := Fields.offset_of_set .minute h₅
        _ = f₃.offset := Fields.offset_of_set .hour h₄
        _ = f₂.offset := Fields.offset_of_set .day h₃
        _ = f₁.offset := Fields.offset_of_set .month h₂
        _ = none := Fields.offset_of_set .year h₁
  · cases h

namespace ZonedTime

variable {z : ZonedTime} {format : String}

/-- The zone is a sign and digits, not a letter. -/
def Signed (z : ZonedTime) : Prop :=
  z.zone.head? ≠ some 'Z' ∧ z.zone.head? ≠ some 'z'

instance (z : ZonedTime) : Decidable z.Signed :=
  inferInstanceAs (Decidable (_ ∧ _))

/-- A format notes the fields of the local date and time in a text, and the offset. -/
def Matches (z : ZonedTime) (format text : String) : Prop :=
  Fields.ofText format text = .ok (z.fields.withOffset (some z.offset))

/-- A format has the items of an RFC 3339 text and an offset. The fraction may be left out where
there is none. -/
def Fits (z : ZonedTime) (format text : String) : Prop :=
  Item.ofFormat format.toList = localItems (separator text) ++ [.offset false] ∨
    z.fields.nanosecond = none ∧
      Item.ofFormat format.toList = wholeItems (separator text) ++ [.offset false]

/-- Without a fraction the text is read as well by the items before it. -/
theorem WrittenIn.scanned_whole (h : z.WrittenIn text) (hnone : z.fields.nanosecond = none) :
    (wholeItems (separator text)).foldlM (fun (f, cs) item => scanItem f cs item)
      ({}, text.toList) = .ok (z.fields, z.zone) := by
  obtain ⟨⟨f, cs⟩, hwhole, hfraction⟩ := foldlM_append_eq_ok_iff.1 h.scanned
  obtain ⟨⟨g, rest⟩, hscan, hend⟩ := bind_eq_ok_iff.1 hfraction
  cases hend
  obtain ⟨rfl, rfl⟩ := Fields.eq_of_fraction_none hscan hnone
  exact hwhole

/-- A format that fits a text matches it, if the offset is signed. -/
theorem WrittenIn.matches_of_fits (h : z.WrittenIn text) (hsigned : z.Signed)
    (hfits : z.Fits format text) : z.Matches format text := by
  have hoffset : scanItem z.fields z.zone (.offset false) =
      .ok (z.fields.withOffset (some z.offset), []) :=
    bind_eq_ok_iff.2 ⟨_, scanOffset_of_signed h.offset hsigned,
      bind_eq_ok_iff.2 ⟨_, Fields.setOffset_ok h.unset, rfl⟩⟩
  refine bind_eq_ok_iff.2 ⟨(z.fields.withOffset (some z.offset), []), ?_, rfl⟩
  obtain hitems | ⟨hnone, hitems⟩ := hfits
  · rw [hitems]
    exact foldlM_append_eq_ok_iff.2 ⟨_, h.scanned, scanItems_cons hoffset rfl⟩
  · rw [hitems]
    exact foldlM_append_eq_ok_iff.2 ⟨_, h.scanned_whole hnone, scanItems_cons hoffset rfl⟩

/-- By a format that matches it a text is read as its local time. -/
theorem WrittenIn.ofFormat (h : z.WrittenIn text) (hmatches : z.Matches format text) :
    Timestamp.ofFormat format text = .ok z.localTime := by
  have hfields : (Fields.ofText format text).bind Fields.timestamp = .ok z.localTime := by
    rw [hmatches]
    exact (Fields.timestamp_withOffset _).trans h.made
  unfold Timestamp.ofFormat
  dsimp only
  rw [hfields]

/-- A text writes one local date and time and one offset. -/
theorem WrittenIn.unique {z' : ZonedTime} (h : z.WrittenIn text) (h' : z'.WrittenIn text) :
    z = z' := by
  obtain ⟨fields, localTime, zone, offset⟩ := z
  obtain ⟨fields', localTime', zone', offset'⟩ := z'
  cases h.scanned.symm.trans h'.scanned
  cases h.offset.symm.trans h'.offset
  cases h.made.symm.trans h'.made
  rfl

/-- **The local time is the time in UTC and the offset.** -/
theorem WrittenIn.rank_localTime {t : Timestamp} (h : z.WrittenIn text)
    (ht : Timestamp.ofRfc3339? text = some t) :
    z.localTime.rank = t.rank + 2000000000 * z.offset := by
  obtain ⟨z', hz', hinstant⟩ := exists_zonedTime ht
  obtain rfl := h.unique hz'
  obtain ⟨hseconds, hnano⟩ := Timestamp.epochSeconds_of_ofEpoch? hinstant
  unfold Timestamp.rank
  rw [hseconds, hnano]
  omega

end ZonedTime

end ModelProbe.Time

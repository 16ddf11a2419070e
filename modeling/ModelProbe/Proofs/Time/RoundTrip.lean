import ModelProbe.Proofs.Time.Digits
import ModelProbe.Proofs.Time.Parse

/-! Timestamps as text, read back.

The text of a valid timestamp has no offset, so it is no RFC 3339 date-time
(`ofRfc3339?_text`). The first of the plain formats takes it item by item and notes the parts of
the timestamp (`Fields.ofText_text`), from which the same date and time are made. A leap second is
written as second 60, and a year with a sign where four digits do not hold it. There is no white
space in the text, so cutting it off around the text leaves the text alone (`trim_text`). -/
namespace ModelProbe.Time

/-! ### Fields not noted before -/

namespace Fields

theorem stored_ok {α β : Type} [DecidableEq β] {check : Except Fault α} {old : Option β}
    {value : α → β} {put : Option β → Fields} {a : α} (hold : old = none) (hcheck : check = .ok a) :
    (do return put (← agree old (value (← check)))) = Except.ok (put (some (value a))) := by
  rw [hold, hcheck]
  rfl

theorem within_ok {low high v : Int} (h : low ≤ v ∧ v ≤ high) : within low high v = .ok v.toNat :=
  if_pos h

variable {f : Fields} {n : Nat}

theorem setYear_ok {year : Int} (hf : f.year = none) (h : Date.minYear ≤ year)
    (h' : year ≤ Date.maxYear) : f.setYear year = .ok { f with year := some year } := by
  have hword : asYear year = .ok year :=
    if_pos ⟨h.trans' (by decide), h'.trans (by decide)⟩
  exact stored_ok hf hword

theorem setMonth_ok (hf : f.month = none) (h : 1 ≤ n) (h' : n ≤ 12) :
    f.setMonth n = .ok { f with month := some n } :=
  stored_ok hf (within_ok (by omega))

theorem setDay_ok (hf : f.day = none) (h : 1 ≤ n) (h' : n ≤ 31) :
    f.setDay n = .ok { f with day := some n } :=
  stored_ok hf (within_ok (by omega))

theorem setHour_ok (hhalf : f.halfOfDay = none) (hhour : f.hourOfHalf = none) (h : n < 24) :
    f.setHour n = .ok { f with halfOfDay := some (n / 12), hourOfHalf := some (n % 12) } := by
  have hrange : within 0 23 n = .ok n := within_ok (by omega)
  simp only [setHour, hrange, hhalf, hhour]
  rfl

theorem setMinute_ok (hf : f.minute = none) (h : n < 60) :
    f.setMinute n = .ok { f with minute := some n } :=
  stored_ok hf (within_ok (by omega))

theorem setSecond_ok (hf : f.second = none) (h : n ≤ 60) :
    f.setSecond n = .ok { f with second := some n } :=
  stored_ok hf (within_ok (by omega))

theorem setNanosecond_ok (hf : f.nanosecond = none) (h : n < 1000000000) :
    f.setNanosecond n = .ok { f with nanosecond := some n } :=
  stored_ok hf (within_ok (by omega))

end Fields

/-! ### Items -/

open Timestamp (padded yearText fractionText)

variable {f g : Fields} {n : Nat} {rest : List Char}

theorem scanItem_literal (c : Char) : scanItem f (c :: rest) (.literal [c]) = .ok (f, rest) := by
  have hbytes : ¬byteLength (c :: rest) < byteLength [c] := by
    show ¬c.utf8Size + byteLength rest < c.utf8Size + 0
    omega
  simp only [scanItem, scanPart]
  rw [if_neg hbytes, if_pos (by simp)]
  rfl

/-- What begins with a digit is read without a sign. -/
theorem scanNumeric_of_isDigit (field : NumericField) {c : Char} {cs : List Char}
    (hc : c.isDigit) (hscan : scanNumber 1 field.width (c :: cs) = .ok (n, rest)) :
    scanNumeric field (c :: cs) = .ok ((n : Int), rest) := by
  have hminus : c ≠ '-' := by rintro rfl; exact absurd hc (by decide)
  have hplus : c ≠ '+' := by rintro rfl; exact absurd hc (by decide)
  unfold scanNumeric
  split
  · rename_i hsign
    exact absurd (List.cons.inj hsign).1 hminus
  · rename_i hsign
    exact absurd (List.cons.inj hsign).1 hminus
  · rename_i hsign
    exact absurd (List.cons.inj hsign).1 hplus
  · rename_i hsign
    exact absurd (List.cons.inj hsign).1 hplus
  · rw [hscan]
    rfl

theorem scanNumeric_padded (field : NumericField) {width : Nat}
    (hscan : scanNumber 1 field.width (padded width n ++ rest) = .ok (n, rest)) :
    scanNumeric field (padded width n ++ rest) = .ok ((n : Int), rest) := by
  obtain ⟨c, more, hdigits, hc⟩ := exists_padded_eq_cons width n
  rw [hdigits, List.cons_append] at hscan ⊢
  exact scanNumeric_of_isDigit field hc hscan

/-- A part of two digits is noted in its field. -/
theorem scanItem_padded {field : NumericField} (hwidth : field.width = some 2) (hn : n < 100)
    (hset : f.set field n = .ok g) :
    scanItem f (padded 2 n ++ rest) (.numeric field) = .ok (g, rest) := by
  have hscan : scanNumber 1 field.width (padded 2 n ++ rest) = .ok (n, rest) := by
    rw [hwidth]
    exact scanNumber_padded (by decide) (by decide) hn (by omega) rest
  simp only [scanItem, scanPart, dropWhile_padded, scanNumeric_padded field hscan]
  exact bind_of_ok hset _

/-- The year is read with its sign, if it has one. -/
theorem scanNumeric_yearText {year : Int} (hmin : Date.minYear ≤ year) (hmax : year ≤ Date.maxYear)
    (hrest : ∀ c ∈ rest.head?, c.isDigit = false) :
    scanNumeric .year (yearText year ++ rest) = .ok (year, rest) := by
  have hminYear : Date.minYear = -262143 := rfl
  have hmaxYear : Date.maxYear = 262142 := rfl
  have hopen : scanNumber 1 none (padded 4 year.natAbs ++ rest) = .ok (year.natAbs, rest) :=
    scanNumber_padded_open (by decide) (by omega) nofun hrest
  unfold yearText
  split
  · have hscan : scanNumber 1 (some 4) (padded 4 year.toNat ++ rest) = .ok (year.toNat, rest) :=
      scanNumber_padded (by decide) (by decide) (by omega) (by omega) rest
    rw [scanNumeric_padded .year hscan, Int.toNat_of_nonneg (by omega)]
  · split
    · refine (bind_of_ok hopen _).trans ?_
      show Except.ok (-(year.natAbs : Int), rest) = _
      rw [Int.ofNat_natAbs_of_nonpos (by omega), Int.neg_neg]
    · refine (bind_of_ok hopen _).trans ?_
      show Except.ok ((year.natAbs : Int), rest) = _
      rw [Int.natAbs_of_nonneg (by omega)]

theorem dropWhile_yearText (year : Int) :
    (yearText year ++ rest).dropWhile Text.isBlank = yearText year ++ rest := by
  unfold yearText
  split
  · exact dropWhile_padded ..
  · split <;> rfl

theorem scanItem_yearText {year : Int} (hf : f.year = none) (hmin : Date.minYear ≤ year)
    (hmax : year ≤ Date.maxYear) (hrest : ∀ c ∈ rest.head?, c.isDigit = false) :
    scanItem f (yearText year ++ rest) (.numeric .year) =
      .ok ({ f with year := some year }, rest) := by
  simp only [scanItem, scanPart, dropWhile_yearText, scanNumeric_yearText hmin hmax hrest]
  exact bind_of_ok (Fields.setYear_ok hf hmin hmax) _

/-- The fraction at the end of a text is noted in nanoseconds; a whole second says nothing. -/
theorem scanPart_fractionText (hf : f.nanosecond = none) (hn : n < 1000000000) :
    scanPart f (fractionText n) .fraction =
      .ok ({ f with nanosecond := if n = 0 then none else some n }, []) := by
  by_cases hzero : n = 0
  · subst hzero
    rw [if_pos rfl, ← hf]
    rfl
  · obtain ⟨width, k, hpos, hwidth, hk, hvalue, htext⟩ := fractionText_eq hn hzero
    rw [htext, if_neg hzero]
    refine (bind_of_ok (scanFraction_padded hpos hwidth hk) _).trans ?_
    rw [hvalue]
    exact bind_of_ok (Fields.setNanosecond_ok hf hn) _

theorem scanItem_fractionText (hf : f.nanosecond = none) (hn : n < 1000000000) :
    scanItem f (fractionText n) .fraction =
      .ok ({ f with nanosecond := if n = 0 then none else some n }, []) := by
  simp only [scanItem]
  exact scanPart_fractionText hf hn

/-! ### The text of a timestamp -/

namespace Timestamp

variable {t : Timestamp}

theorem text_toList (t : Timestamp) : t.text.toList =
    yearText t.date.year ++ '-' :: (padded 2 t.date.month ++ '-' :: (padded 2 t.date.day ++
      'T' :: (padded 2 t.time.hour ++ ':' :: (padded 2 t.time.minute ++
        ':' :: (padded 2 (t.time.second + t.time.nanosecond / 1000000000) ++
          fractionText (t.time.nanosecond % 1000000000)))))) := by
  simp only [text, String.toList_ofList, List.append_assoc, List.cons_append]

end Timestamp

/-- What the text of a timestamp says. -/
def Fields.ofTimestamp (t : Timestamp) : Fields where
  year := some t.date.year
  month := some t.date.month
  day := some t.date.day
  halfOfDay := some (t.time.hour / 12)
  hourOfHalf := some (t.time.hour % 12)
  minute := some t.time.minute
  second := some (t.time.second + t.time.nanosecond / 1000000000)
  nanosecond :=
    if t.time.nanosecond % 1000000000 = 0 then none else some (t.time.nanosecond % 1000000000)

theorem ofFormat_field (cs : List Char) {cs' : List Char} {items items' : List Item}
    (hfield : Item.ofField cs = (items, cs')) (hrest : Item.ofFormat cs' = items') :
    Item.ofFormat ('%' :: cs) = items ++ items' := by
  rw [Item.ofFormat.eq_def]
  show (Item.ofField cs).1 ++ Item.ofFormat (Item.ofField cs).2 = _
  rw [hfield, hrest]

theorem ofFormat_literal {c : Char} {cs cs' : List Char} {items : List Item}
    (hc : Item.isPlain c = true) (hend : cs.takeWhile Item.isPlain = [])
    (hdrop : cs.dropWhile Item.isPlain = cs') (hrest : Item.ofFormat cs' = items) :
    Item.ofFormat (c :: cs) = .literal [c] :: items := by
  obtain ⟨hblank, hpercent⟩ := Bool.and_eq_true_iff.1 hc
  rw [Item.ofFormat.eq_def]
  split
  · cases ‹c :: cs = []›
  · rename_i hfield
    cases hfield
    cases hpercent
  · rename_i hplain
    cases hplain
    rw [if_neg (by simpa using hblank), hend, hdrop, hrest]

/-- The first of the plain formats, taken apart. -/
theorem ofFormat_plain : Item.ofFormat "%Y-%m-%dT%H:%M:%S%.f".toList =
    [.numeric .year, .dash, .numeric .month, .dash, .numeric .day, .literal ['T'], .numeric .hour,
      .colon, .numeric .minute, .colon, .numeric .second, .fraction] := by
  have hempty : Item.ofFormat [] = [] := by rw [Item.ofFormat.eq_def]
  have hsecond := ofFormat_field "S%.f".toList rfl (ofFormat_field _ rfl hempty)
  have hminute := ofFormat_field "M:%S%.f".toList rfl (ofFormat_literal rfl rfl rfl hsecond)
  have hhour := ofFormat_field "H:%M:%S%.f".toList rfl
    (ofFormat_literal rfl rfl rfl hminute)
  have hday := ofFormat_field "dT%H:%M:%S%.f".toList rfl
    (ofFormat_literal rfl rfl rfl hhour)
  have hmonth := ofFormat_field "m-%dT%H:%M:%S%.f".toList rfl
    (ofFormat_literal rfl rfl rfl hday)
  exact ofFormat_field "Y-%m-%dT%H:%M:%S%.f".toList rfl
    (ofFormat_literal rfl rfl rfl hmonth)

/-- Items read one after another. -/
theorem scanItems_cons {item : Item} {items : List Item} {cs : List Char} {p : Fields × List Char}
    (h : scanItem f cs item = .ok (g, rest))
    (hs : items.foldlM (fun (f, cs) item => scanItem f cs item) (g, rest) = .ok p) :
    (item :: items).foldlM (fun (f, cs) item => scanItem f cs item) (f, cs) = .ok p := by
  rw [List.foldlM_cons]
  exact bind_eq_ok_iff.2 ⟨_, h, hs⟩

/-- **The text of a timestamp says its parts.** -/
theorem Fields.ofText_text {t : Timestamp} (ht : t.Valid) :
    Fields.ofText "%Y-%m-%dT%H:%M:%S%.f" t.text = .ok (Fields.ofTimestamp t) := by
  have hmonth := ht.date.month_le
  have hday := ht.date.day_le_31
  have hhour := ht.time.hour
  have hminute := ht.time.minute
  have hsecond : t.time.second + t.time.nanosecond / 1000000000 ≤ 60 := by
    have hnano := ht.time.nanosecond
    have hsecond := ht.time.second
    omega
  have hnano : t.time.nanosecond % 1000000000 < 1000000000 := Nat.mod_lt _ (by decide)
  refine bind_eq_ok_iff.2 ⟨(Fields.ofTimestamp t, []), ?_, rfl⟩
  rw [ofFormat_plain, Timestamp.text_toList]
  refine scanItems_cons (scanItem_yearText rfl ht.date.year_ge ht.date.year_le ?_) ?_
  · rintro c ⟨⟩
    rfl
  refine scanItems_cons (scanItem_literal _) ?_
  refine scanItems_cons (scanItem_padded rfl (by omega)
    (setMonth_ok rfl ht.date.month_pos hmonth)) ?_
  refine scanItems_cons (scanItem_literal _) ?_
  refine scanItems_cons (scanItem_padded rfl (by omega) (setDay_ok rfl ht.date.day_pos hday)) ?_
  refine scanItems_cons (scanItem_literal _) ?_
  refine scanItems_cons (scanItem_padded rfl (by omega) (setHour_ok rfl rfl hhour)) ?_
  refine scanItems_cons (scanItem_literal _) ?_
  refine scanItems_cons (scanItem_padded rfl (by omega) (setMinute_ok rfl hminute)) ?_
  refine scanItems_cons (scanItem_literal _) ?_
  refine scanItems_cons (scanItem_padded rfl (by omega) (setSecond_ok rfl hsecond)) ?_
  exact scanItems_cons (scanItem_fractionText rfl hnano) rfl

/-- A field that is not given has any value. -/
theorem Fields.allows_none {α : Type} [DecidableEq α] (v : α) : allows none v = true :=
  rfl

/-- The date is made from year, month and day, which nothing else contradicts. -/
theorem Fields.date_ofTimestamp {t : Timestamp} (ht : t.Valid) :
    (Fields.ofTimestamp t).date = .ok t.date := by
  have hymd : Date.ofYmd? t.date.year t.date.month t.date.day = some t.date :=
    Date.ofYmd?_eq_some_iff.2 ⟨rfl, ht.date⟩
  have hweek : (ofTimestamp t).allowsIsoWeek t.date = true := by
    simp only [allowsIsoWeek, allowsCentury, ofTimestamp, allows_none, Bool.and_self,
      Option.isNone_none, ite_self]
  have hday : (ofTimestamp t).allowsDayOfYear t.date = true := by
    simp only [allowsDayOfYear, ofTimestamp, allows_none, Bool.and_self]
  have hcandidate : (ofTimestamp t).candidate (some t.date.year) none = .ok (t.date, true) := by
    have hdate : ofOption .outOfRange (Date.ofYmd? t.date.year t.date.month t.date.day) =
        .ok t.date := by
      rw [hymd]
      rfl
    refine (bind_of_ok hdate _).trans ?_
    rw [hweek, hday, Bool.and_self]
    rfl
  refine bind_eq_ok_iff.2 ⟨some t.date.year, rfl, bind_eq_ok_iff.2 ⟨none, rfl, ?_⟩⟩
  exact bind_eq_ok_iff.2 ⟨_, hcandidate, rfl⟩

/-- The time of fields that give a second. -/
theorem Fields.time_of_second {half hour minute second : Nat} (hhalf : f.halfOfDay = some half)
    (hhour : f.hourOfHalf = some hour) (hminute : f.minute = some minute)
    (hsecond : f.second = some second) :
    f.time = .ok ⟨12 * half + hour, minute, min second 59,
      (if second = 60 then 1000000000 else 0) + f.nanosecond.getD 0⟩ := by
  unfold time
  rw [hhalf, hhour, hminute, hsecond]
  cases f.nanosecond <;> rfl

/-- A second 60 is second 59 and a billion nanoseconds. -/
theorem Fields.time_ofTimestamp {t : Timestamp} (ht : t.Valid) :
    (Fields.ofTimestamp t).time = .ok t.time := by
  have hsecond := ht.time.second
  have hnano := ht.time.nanosecond
  have hleap := ht.time.leap
  rw [time_of_second rfl rfl rfl rfl]
  obtain ⟨date, hour, minute, second, nanosecond⟩ := t
  dsimp only [ofTimestamp] at hsecond hnano hleap ⊢
  have hhour : 12 * (hour / 12) + hour % 12 = hour := Nat.div_add_mod ..
  have hclock : min (second + nanosecond / 1000000000) 59 = second := by omega
  have hvalue : (if second + nanosecond / 1000000000 = 60 then 1000000000 else 0) +
      (if nanosecond % 1000000000 = 0 then none else some (nanosecond % 1000000000)).getD 0 =
      nanosecond := by
    split <;> split <;> simp only [Option.getD_none, Option.getD_some] <;> omega
  rw [hhour, hclock, hvalue]

theorem Fields.timestamp_ofTimestamp {t : Timestamp} (ht : t.Valid) :
    (Fields.ofTimestamp t).timestamp = .ok t := by
  unfold timestamp
  rw [date_ofTimestamp ht, time_ofTimestamp ht]
  rfl

/-! ### Readers -/

namespace Timestamp

variable {t : Timestamp}

theorem ofPlain?_text (ht : t.Valid) : ofPlain? "%Y-%m-%dT%H:%M:%S%.f" t.text = some t := by
  unfold ofPlain?
  rw [Fields.ofText_text ht]
  show ((Fields.ofTimestamp t).timestamp).toOption = _
  rw [Fields.timestamp_ofTimestamp ht]
  rfl

theorem scanChar_self (c : Char) : scanChar c (c :: rest) = .ok rest :=
  if_pos rfl

/-- What is left after a fraction at the end of a text. -/
theorem rest_of_scanPart_fractionText (hn : n < 1000000000)
    (h : scanPart f (fractionText n) .fraction = .ok (g, rest)) : rest = [] := by
  by_cases hzero : n = 0
  · subst hzero
    cases h
    rfl
  · obtain ⟨width, k, hpos, hwidth, hk, -, htext⟩ := fractionText_eq hn hzero
    rw [htext] at h
    have h := of_ok_bind (scanFraction_padded hpos hwidth hk) h
    obtain ⟨_, -, h⟩ := bind_eq_ok_iff.1 h
    cases h
    rfl

/-- What is left after a year of four digits; a year with a sign is not one. -/
theorem rest_of_scanNumber_yearText {year : Int} {p : Nat × List Char}
    (h : scanNumber 4 (some 4) (yearText year ++ rest) = .ok p) : p.2 = rest := by
  unfold yearText at h
  split at h
  · rw [scanNumber_padded (Nat.le_refl 4) (by decide) (by omega) (by omega)] at h
    cases h
    rfl
  · split at h
    · exact absurd h (scanNumber_ne_ok (by decide) rfl)
    · exact absurd h (scanNumber_ne_ok (by decide) rfl)

/-- **The text of a timestamp is no RFC 3339 date-time**: it has no offset. -/
theorem ofRfc3339?_text (ht : t.Valid) : ofRfc3339? t.text = none := by
  have hmonth := ht.date.month_le
  have hday := ht.date.day_le_31
  have hhour := ht.time.hour
  have hminute := ht.time.minute
  have hsecond := ht.time.second
  have hnano := ht.time.nanosecond
  have hfraction : t.time.nanosecond % 1000000000 < 1000000000 := Nat.mod_lt _ (by decide)
  have hpart : ∀ n rest, n < 100 → scanNumber 2 (some 2) (padded 2 n ++ rest) = .ok (n, rest) :=
    fun n rest hn => scanNumber_padded (Nat.le_refl 2) (by decide) hn (by omega) rest
  refine Option.eq_none_iff_forall_ne_some.2 fun u h => ?_
  have h := toOption_eq_some h
  dsimp only at h
  rw [text_toList] at h
  obtain ⟨⟨year, rest⟩, hyear, h⟩ := bind_eq_ok_iff.1 h
  obtain rfl := rest_of_scanNumber_yearText hyear
  have h := of_ok_bind (scanChar_self _) h
  have h := of_ok_bind (hpart _ _ (by omega)) h
  have h := of_ok_bind (scanChar_self _) h
  have h := of_ok_bind (hpart _ _ (by omega)) h
  have h := of_ok_bind (x := scanDateTimeMark ('T' :: _)) rfl h
  have h := of_ok_bind (hpart _ _ (by omega)) h
  have h := of_ok_bind (scanChar_self _) h
  have h := of_ok_bind (hpart _ _ (by omega)) h
  have h := of_ok_bind (scanChar_self _) h
  have h := of_ok_bind (hpart _ _ (by omega)) h
  -- The fields, whatever they are.
  iterate 6 obtain ⟨_, -, h⟩ := bind_eq_ok_iff.1 h
  obtain ⟨⟨_, rest⟩, hscan, h⟩ := bind_eq_ok_iff.1 h
  obtain rfl := rest_of_scanPart_fractionText hfraction hscan
  obtain ⟨_, hoffset, -⟩ := bind_eq_ok_iff.1 h
  cases hoffset

theorem ofText?_text (ht : t.Valid) : ofText? t.text = some t := by
  unfold ofText?
  rw [ofRfc3339?_text ht, Option.none_or, plainFormats, List.findSome?_cons, ofPlain?_text ht]
  rfl

/-! ### White space -/

theorem not_isBlank_of_mem_padded {width n : Nat} {c : Char} (h : c ∈ padded width n) :
    Text.isBlank c = false :=
  not_isBlank_of_isDigit (isDigit_of_mem_padded h)

theorem not_isBlank_of_mem_text {c : Char} (h : c ∈ t.text.toList) : Text.isBlank c = false := by
  have hyear : ∀ c ∈ yearText t.date.year, Text.isBlank c = false := by
    unfold yearText
    split
    · exact fun _ => not_isBlank_of_mem_padded
    · refine List.forall_mem_cons.2 ⟨?_, fun _ => not_isBlank_of_mem_padded⟩
      split <;> rfl
  have hfraction : ∀ c ∈ fractionText (t.time.nanosecond % 1000000000),
      Text.isBlank c = false := by
    unfold fractionText
    split
    · exact nofun
    · split
      · exact List.forall_mem_cons.2 ⟨rfl, fun _ => not_isBlank_of_mem_padded⟩
      · split <;> exact List.forall_mem_cons.2 ⟨rfl, fun _ => not_isBlank_of_mem_padded⟩
  have hpart : ∀ n, ∀ c ∈ padded 2 n, Text.isBlank c = false :=
    fun _ _ => not_isBlank_of_mem_padded
  have hall : ∀ c ∈ t.text.toList, Text.isBlank c = false := by
    rw [text_toList]
    simp only [List.forall_mem_append, List.forall_mem_cons]
    exact ⟨hyear, rfl, hpart _, rfl, hpart _, rfl, hpart _, rfl, hpart _, rfl, hpart _, hfraction⟩
  exact hall c h

/-- There is no white space to cut off around the text of a timestamp. -/
theorem trim_text (t : Timestamp) : Text.trim t.text = t.text := by
  have hfront : t.text.toList.dropWhile Text.isBlank = t.text.toList :=
    dropWhile_of_head fun c hc => not_isBlank_of_mem_text (List.mem_of_mem_head? hc)
  have hback : t.text.toList.reverse.dropWhile Text.isBlank = t.text.toList.reverse :=
    dropWhile_of_head fun c hc =>
      not_isBlank_of_mem_text (List.mem_reverse.1 (List.mem_of_mem_head? hc))
  rw [Text.trim, Text.trimEnd, hfront, hback, List.reverse_reverse, String.ofList_toList]

end Timestamp

end ModelProbe.Time

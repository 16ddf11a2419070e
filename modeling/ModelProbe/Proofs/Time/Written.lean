import ModelProbe.Proofs.Time.Clock
import ModelProbe.Proofs.Time.Parse

/-! The time of day a text says by a format.

The hour, the minute and the second are numbers of up to two digits, each read where its item is
reached (`Starts`, `Written`). A format that reads the minute, the second too where it may read a
fraction of one, and no seconds since the epoch tells the time (`TellsTime`): what it accepts has
the hour, the minute and the second that are written. By another format the text may be taken for a
bare date instead, and then the hour written in it is dropped (`asWritten_or_midnight`). -/
namespace ModelProbe.Time

open Fields (Notes)

/-- The number a text starts with, of up to two digits and with white space in front. -/
def leadingNumber (cs : List Char) : Nat :=
  Nat.ofDigitChars 10 (((cs.dropWhile Text.isBlank).take 2).takeWhile Char.isDigit) 0

/-- The fields a time of day is told by. -/
def timeFields : List NumericField :=
  [.hour, .minute, .second]

/-- Items read one after another from the start of a text. -/
def scanItems (items : List Item) (text : String) : Scanned :=
  items.foldlM (fun p item => scanItem p.1 p.2 item) ({}, text.toList)

/-- A field of the time of day is read here in a text: at an item of its own, or inside a whole date
and time. -/
inductive Starts (format text : String) (field : NumericField) (here : List Char) : Prop
  | item {before after : List Item} {f : Fields}
      (hitems : Item.ofFormat format.toList = before ++ .numeric field :: after)
      (hbefore : scanItems before text = .ok (f, here))
  | dateTime {before after front back : List Item} {f f₁ f₂ : Fields} {cs date time : List Char}
      (hitems : Item.ofFormat format.toList = before ++ .dateTime :: after)
      (hbefore : scanItems before text = .ok (f, cs))
      (hdate : scanParts f cs spacedDate = .ok (f₁, date))
      (hmark : scanDateTimeMark date = .ok time)
      (hparts : spacedTime = front ++ .numeric field :: back)
      (hfront : scanParts f₁ time front = .ok (f₂, here))

/-- A number is written in a text for a field of the time of day. -/
def Written (format text : String) (field : NumericField) (n : Nat) : Prop :=
  ∃ here, Starts format text field here ∧ n = leadingNumber here

theorem Written.of_items {format text : String} {field : NumericField} {here : List Char}
    (before after : List Item) (f : Fields) (n : Nat)
    (hitems : Item.ofFormat format.toList = before ++ .numeric field :: after)
    (hbefore : scanItems before text = .ok (f, here)) (hn : n = leadingNumber here) :
    Written format text field n :=
  ⟨here, .item hitems hbefore, hn⟩

/-- A format reads a field of the time of day. -/
def Reads (format : String) (field : NumericField) : Prop :=
  .numeric field ∈ Item.ofFormat format.toList ∨ .dateTime ∈ Item.ofFormat format.toList

/-- A format has an item that may note a field of the clock. -/
def Mentions (format : String) (field : NumericField) : Prop :=
  field ∈ (Item.ofFormat format.toList).flatMap Item.clockFields

instance (format : String) (field : NumericField) : Decidable (Reads format field) :=
  inferInstanceAs (Decidable (_ ∨ _))

instance (format : String) (field : NumericField) : Decidable (Mentions format field) :=
  inferInstanceAs (Decidable (field ∈ (Item.ofFormat format.toList).flatMap Item.clockFields))

/-- A format tells the time of any text it accepts. -/
structure TellsTime (format : String) : Prop where
  hour : Reads format .hour
  minute : Reads format .minute
  second : Mentions format .nanosecond → Reads format .second
  epoch : ¬Mentions format .epochSecond

instance (format : String) : Decidable (TellsTime format) :=
  decidable_of_iff (Reads format .hour ∧ Reads format .minute ∧
      (Mentions format .nanosecond → Reads format .second) ∧ ¬Mentions format .epochSecond)
    ⟨fun ⟨hhour, hminute, hsecond, hepoch⟩ => ⟨hhour, hminute, hsecond, hepoch⟩,
      fun h => ⟨h.hour, h.minute, h.second, h.epoch⟩⟩

/-- A time of day is the written one, with a leap second written as second 60. -/
structure AsWritten (format text : String) (c : TimeOfDay) : Prop where
  hour : ∀ n, Written format text .hour n → c.hour = n
  minute : ∀ n, Written format text .minute n → c.minute = n
  second : ∀ n, Written format text .second n → c.second + c.nanosecond / 1000000000 = n

variable {format text : String} {field : NumericField} {f g : Fields} {cs here rest : List Char}

/-! ### Reading -/

theorem mem_timeFields_iff :
    field ∈ timeFields ↔ field = .hour ∨ field = .minute ∨ field = .second := by
  simp [timeFields]

/-- A number is made of the digits in front. -/
theorem eq_of_scanNumber {least : Nat} {most : Option Nat} {n : Nat}
    (hscan : scanNumber least most cs = .ok (n, rest)) :
    n = digitsToNat ((most.elim cs cs.take).takeWhile Char.isDigit) := by
  obtain ⟨-, hscan⟩ := of_check_eq_ok hscan
  obtain ⟨-, hscan⟩ := of_check_eq_ok hscan
  obtain ⟨-, hscan⟩ := of_check_eq_ok hscan
  cases hscan
  rfl

/-- A field of the time of day is read without a sign and in up to two digits. -/
theorem scanNumeric_time (hfield : field ∈ timeFields) (cs : List Char) :
    scanNumeric field cs = (do
      let (n, rest) ← scanNumber 1 (some 2) cs
      return ((n : Int), rest)) := by
  rcases mem_timeFields_iff.1 hfield with rfl | rfl | rfl <;> rfl

theorem clock_of_set {n : Int} (hfield : field ∈ timeFields) (hset : f.set field n = .ok g) :
    g.clock field = some n := by
  rcases mem_timeFields_iff.1 hfield with rfl | rfl | rfl
  · exact (Notes.setHour hset).2
  · exact (Notes.setMinute hset).2
  · exact (Notes.setSecond hset).2

/-- A field of the time of day is noted as the number in front of the text. -/
theorem clock_of_scanPart (hfield : field ∈ timeFields)
    (hscan : scanPart f cs (.numeric field) = .ok (g, rest)) :
    g.clock field = some (leadingNumber cs : Int) := by
  obtain ⟨_, hnumber, hscan⟩ := bind_eq_ok_iff.1 hscan
  obtain ⟨_, hset, hscan⟩ := bind_eq_ok_iff.1 hscan
  cases hscan
  rw [scanNumeric_time hfield] at hnumber
  obtain ⟨_, hdigits, hnumber⟩ := bind_eq_ok_iff.1 hnumber
  cases hnumber
  have hvalue := eq_of_scanNumber hdigits
  rw [clock_of_set hfield hset, hvalue, leadingNumber, Nat.ofDigitChars_eq_foldl]
  rfl

/-- A field is noted as the number where it is read, whatever else is read before and after. -/
theorem clock_of_foldlM (step : Fields → List Char → Item → Scanned)
    (hnotes : ∀ {f g : Fields} {cs rest : List Char} {item : Item},
      step f cs item = .ok (g, rest) → Notes f g item.clockFields)
    (hstep : ∀ {f g : Fields} {cs rest : List Char}, step f cs (.numeric field) = .ok (g, rest) →
      g.clock field = some (leadingNumber cs : Int))
    {front back : List Item} {p : Fields × List Char}
    (hfront : front.foldlM (fun p item => step p.1 p.2 item) p = .ok (f, here))
    (hscan : (front ++ .numeric field :: back).foldlM (fun p item => step p.1 p.2 item) p =
      .ok (g, rest)) :
    g.clock field = some (leadingNumber here : Int) := by
  obtain ⟨_, hitem, hback⟩ := step_of_foldlM hfront hscan
  exact (Notes.foldlM step hnotes hback).keeps _ _ (hstep hitem)

/-- Wherever a field of the time of day is read, it is noted as the number there. -/
theorem Starts.clock (hstarts : Starts format text field here) (hfield : field ∈ timeFields)
    (hscan : scanItems (Item.ofFormat format.toList) text = .ok (g, rest)) :
    g.clock field = some (leadingNumber here : Int) := by
  cases hstarts with
  | item hitems hbefore =>
    rw [hitems] at hscan
    exact clock_of_foldlM scanItem Notes.scanItem (clock_of_scanPart hfield) hbefore hscan
  | dateTime hitems hbefore hdate hmark hparts hfront =>
    rw [hitems] at hscan
    obtain ⟨⟨f', _⟩, hitem, hafter⟩ := step_of_foldlM hbefore hscan
    obtain ⟨_, _, _, f₃, _, _, hdate', hmark', htime, hset⟩ := Fields.parts_of_scanDateTime hitem
    rw [hdate] at hdate'
    cases hdate'
    rw [hmark] at hmark'
    cases hmark'
    rw [hparts] at htime
    have hnoted : f₃.clock field = some (leadingNumber here : Int) :=
      clock_of_foldlM scanPart Notes.scanPart (clock_of_scanPart hfield) hfront htime
    have hoffset : Notes f₃ f' [] := Notes.setOffset hset
    exact (Notes.foldlM scanItem Notes.scanItem hafter).keeps _ _ (hoffset.keeps _ _ hnoted)

/-- A field the format reads is read somewhere in the text. -/
theorem Reads.exists_starts (hreads : Reads format field) (hfield : field ∈ timeFields)
    (hscan : scanItems (Item.ofFormat format.toList) text = .ok (g, rest)) :
    ∃ here, Starts format text field here := by
  rcases hreads with hmem | hmem
  · obtain ⟨before, after, hitems⟩ := List.append_of_mem hmem
    rw [hitems] at hscan
    obtain ⟨⟨f, here⟩, hbefore, -⟩ := foldlM_append_eq_ok_iff.1 hscan
    exact ⟨here, .item hitems hbefore⟩
  · obtain ⟨before, after, hitems⟩ := List.append_of_mem hmem
    rw [hitems] at hscan
    obtain ⟨⟨f, cs⟩, hbefore, -⟩ := foldlM_append_eq_ok_iff.1 hscan
    obtain ⟨_, hitem, -⟩ := step_of_foldlM hbefore hscan
    obtain ⟨_, _, _, _, _, _, hdate, hmark, htime, -⟩ := Fields.parts_of_scanDateTime hitem
    have hpart : .numeric field ∈ spacedTime := by
      rcases mem_timeFields_iff.1 hfield with rfl | rfl | rfl <;> decide
    obtain ⟨front, back, hparts⟩ := List.append_of_mem hpart
    rw [hparts] at htime
    obtain ⟨⟨_, here⟩, hfront, -⟩ := foldlM_append_eq_ok_iff.1 htime
    exact ⟨here, .dateTime hitems hbefore hdate hmark hparts hfront⟩

/-! ### Telling the time -/

theorem scanItems_of_ofText (h : Fields.ofText format text = .ok f) :
    scanItems (Item.ofFormat format.toList) text = .ok (f, []) := by
  obtain ⟨⟨g, rest⟩, hscan, h⟩ := bind_eq_ok_iff.1 h
  dsimp only at h
  split at h
  · rename_i hrest
    cases h
    rw [hrest] at hscan
    exact hscan
  · cases h

variable {c : TimeOfDay} {t : Timestamp}

/-- The time that the notes about a text tell is the written one. -/
theorem asWritten_of_tells (hfields : Fields.ofText format text = .ok f) (hf : f.Tells c) :
    AsWritten format text c := by
  have hclock : ∀ field ∈ timeFields, ∀ n, Written format text field n →
      f.clock field = some (n : Int) := by
    intro field hfield n hn
    obtain ⟨here, hstarts, rfl⟩ := hn
    exact hstarts.clock hfield (scanItems_of_ofText hfields)
  refine ⟨fun n hn => ?_, fun n hn => ?_, fun n hn => ?_⟩
  · exact Int.ofNat_inj.1 (hf.hour n (hclock .hour (by decide) n hn))
  · exact Int.ofNat_inj.1 (hf.minute n (hclock .minute (by decide) n hn))
  · exact Int.ofNat_inj.1 (hf.second n (hclock .second (by decide) n hn))

/-- What the format does not mention is not noted. -/
theorem clock_eq_none (hfields : Fields.ofText format text = .ok f)
    (hmention : ¬Mentions format field) : f.clock field = none := by
  have hnotes := Notes.foldlM scanItem Notes.scanItem (scanItems_of_ofText hfields)
  rw [hnotes.frame field hmention, Fields.clock_empty]

theorem exists_clock (hfields : Fields.ofText format text = .ok f) (hreads : Reads format field)
    (hfield : field ∈ timeFields) : ∃ n, f.clock field = some n := by
  have hscan := scanItems_of_ofText hfields
  obtain ⟨here, hstarts⟩ := hreads.exists_starts hfield hscan
  exact ⟨_, hstarts.clock hfield hscan⟩

/-- A format that tells the time notes one. -/
theorem TellsTime.exists_time (htells : TellsTime format)
    (hfields : Fields.ofText format text = .ok f) : ∃ c, f.time = .ok c := by
  refine Fields.exists_time_iff.2 ⟨exists_clock hfields htells.hour (by decide),
    exists_clock hfields htells.minute (by decide), fun n hn => ?_⟩
  by_cases hmention : Mentions format .nanosecond
  · exact exists_clock hfields (htells.second hmention) (by decide)
  · rw [clock_eq_none hfields hmention] at hn
    cases hn

/-- Only an item that reads the minute in full mentions it. -/
theorem reads_minute_of_mentions (hmention : Mentions format .minute) : Reads format .minute := by
  obtain ⟨item, hmem, hitem⟩ := List.mem_flatMap.1 hmention
  cases item with
  | numeric field => cases field <;> first | exact .inl hmem | simp [Item.clockFields] at hitem
  | dateTime => exact .inr hmem
  | _ => simp [Item.clockFields] at hitem

/-- A text is taken for a timestamp, or else for a bare date at midnight. -/
theorem exists_fields_of_ofFormat (h : Timestamp.ofFormat format text = .ok t) :
    ∃ f, Fields.ofText format text = .ok f ∧ (f.timestamp = .ok t ∨
      (∀ u, f.timestamp ≠ .ok u) ∧ f.date = .ok t.date ∧ t.time = .midnight) := by
  unfold Timestamp.ofFormat at h
  dsimp only at h
  split at h
  · rename_i t' hfields
    cases h
    obtain ⟨f, hf, ht⟩ := bind_eq_ok_iff.1 hfields
    exact ⟨f, hf, .inl ht⟩
  · rename_i hfields
    obtain ⟨d, hd, rfl⟩ := Fields.map_eq_ok h
    obtain ⟨f, hf, hdate⟩ := bind_eq_ok_iff.1 hd
    refine ⟨f, hf, .inr ⟨fun u hu => ?_, hdate, rfl⟩⟩
    have hbind : (Fields.ofText format text).bind Fields.timestamp = .ok u :=
      bind_eq_ok_iff.2 ⟨f, hf, hu⟩
    rw [hbind] at hfields
    cases hfields

/-- The time is the written one, or midnight by a format that does not tell the time. -/
theorem asWritten_or_midnight (h : Timestamp.ofFormat format text = .ok t) :
    AsWritten format text t.time ∨ t.time = .midnight ∧ ¬TellsTime format := by
  obtain ⟨f, hfields, ht | ⟨hnone, hdate, hmidnight⟩⟩ := exists_fields_of_ofFormat h
  · exact .inl (asWritten_of_tells hfields ((Fields.within_ofText hfields).tells_of_timestamp ht))
  · refine .inr ⟨hmidnight, fun htells => ?_⟩
    obtain ⟨c, hc⟩ := htells.exists_time hfields
    exact hnone _ (Fields.timestamp_of_time hdate hc (clock_eq_none hfields htells.epoch))

/-- By a format that tells the time it is the written one. -/
theorem TellsTime.asWritten (htells : TellsTime format)
    (h : Timestamp.ofFormat format text = .ok t) : AsWritten format text t.time :=
  (asWritten_or_midnight h).resolve_right fun hmidnight => hmidnight.2 htells

/-- Without a minute or seconds since the epoch the time is midnight, whatever is written. -/
theorem midnight_of_not_reads_minute (h : Timestamp.ofFormat format text = .ok t)
    (hminute : ¬Reads format .minute) (hepoch : ¬Mentions format .epochSecond) :
    t.time = .midnight := by
  obtain ⟨f, hfields, ht | ⟨-, -, hmidnight⟩⟩ := exists_fields_of_ofFormat h
  · have hnone := clock_eq_none hfields fun hmention => hminute (reads_minute_of_mentions hmention)
    obtain ⟨-, ⟨n, hn⟩, -⟩ := Fields.exists_time_iff.1
      (Fields.exists_time_of_timestamp (clock_eq_none hfields hepoch) ht)
    rw [hnone] at hn
    cases hn
  · exact hmidnight

end ModelProbe.Time

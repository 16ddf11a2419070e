import ModelProbe.Proofs.Explain.Timestamps
import ModelProbe.Proofs.Time.Written

/-! The time of day of a timestamp with a format.

What a format says of the time of day in a text (`Time.TellsTime`) decides which time the timestamp
of the text has: the written one, or midnight where the format does not tell the time and the text
is taken for a bare date (`time_of_day_told`). So a format may read the hour in a text and the
timestamp not have it. -/
namespace ModelProbe.Explain

open Time

variable {raw format : String} {t : Timestamp}

/-- **What becomes of the hour in a text.** By a format that reads the hour, any accepted text has
an hour written in it. A format that tells the time reads the hour, the minute and the second that
are written, so texts with different hours are different timestamps. By any other format the time
is the written one or midnight, and by one with neither minute nor seconds since the epoch it is
midnight whatever is written. -/
theorem time_of_day_told (hhour : Reads format .hour)
    (h : parseTimestamp raw (some format) = .ok t) :
    (∃ n, Written format (Text.trim raw) .hour n) ∧
    (AsWritten format (Text.trim raw) t.time ∨ t.time = .midnight ∧ ¬TellsTime format) ∧
    (TellsTime format → ∀ raw' t' n n', parseTimestamp raw' (some format) = .ok t' →
      Written format (Text.trim raw) .hour n → Written format (Text.trim raw') .hour n' →
      n ≠ n' → t ≠ t') ∧
    (¬Reads format .minute → ¬Mentions format .epochSecond → t.time = .midnight) := by
  have htext := parseTimestamp_some_iff.1 h
  refine ⟨?_, asWritten_or_midnight htext, ?_, midnight_of_not_reads_minute htext⟩
  · obtain ⟨f, hfields, -⟩ := exists_fields_of_ofFormat htext
    obtain ⟨here, hstarts⟩ := hhour.exists_starts (by decide) (scanItems_of_ofText hfields)
    exact ⟨_, here, hstarts, rfl⟩
  · intro htells raw' t' n n' h' hn hn' hne heq
    have hclock := (htells.asWritten htext).hour n hn
    have hclock' := (htells.asWritten (parseTimestamp_some_iff.1 h')).hour n' hn'
    rw [heq] at hclock
    exact hne (hclock.symm.trans hclock')

/-- Half past five and half past six are told apart. -/
theorem time_of_day_told_by_the_minute :
    TellsTime "%d/%m/%Y %H:%M" ∧
    AsWritten "%d/%m/%Y %H:%M" (Text.trim "01/03/2024 05:30") ⟨5, 30, 0, 0⟩ ∧
    parseTimestamp "01/03/2024 05:30" (some "%d/%m/%Y %H:%M") ≠
      parseTimestamp "01/03/2024 06:30" (some "%d/%m/%Y %H:%M") := by
  have htells : TellsTime "%d/%m/%Y %H:%M" := by decide +kernel
  have hfive : parseTimestamp "01/03/2024 05:30" (some "%d/%m/%Y %H:%M") =
      .ok ⟨⟨2024, 3, 1⟩, ⟨5, 30, 0, 0⟩⟩ := toOption_eq_some (by decide +kernel)
  have hitems : Item.ofFormat "%d/%m/%Y %H:%M".toList =
      [.numeric .day, .slash, .numeric .month, .slash, .numeric .year, .space] ++
        .numeric .hour :: [.colon, .numeric .minute] := by decide +kernel
  have hwritten : Written "%d/%m/%Y %H:%M" (Text.trim "01/03/2024 05:30") .hour 5 :=
    .of_items _ _ { year := some 2024, month := some 3, day := some 1 } 5 hitems rfl (by decide)
  have hwritten' : Written "%d/%m/%Y %H:%M" (Text.trim "01/03/2024 06:30") .hour 6 :=
    .of_items _ _ { year := some 2024, month := some 3, day := some 1 } 6 hitems rfl (by decide)
  obtain ⟨-, htold, hdiffer, -⟩ := time_of_day_told htells.hour hfive
  refine ⟨htells, htold.resolve_right fun h => h.2 htells, fun heq => ?_⟩
  exact hdiffer htells _ _ 5 6 (heq ▸ hfive) hwritten hwritten' (by decide) rfl

/-- Five and six o'clock are both dropped: without a minute the text is taken for a bare date. -/
theorem hour_without_minute_dropped :
    Reads "%Y-%m-%d %H" .hour ∧
    Written "%Y-%m-%d %H" (Text.trim "2024-03-01 05") .hour 5 ∧
    Written "%Y-%m-%d %H" (Text.trim "2024-03-01 06") .hour 6 ∧
    parseTimestamp "2024-03-01 05" (some "%Y-%m-%d %H") = .ok ⟨⟨2024, 3, 1⟩, .midnight⟩ ∧
    parseTimestamp "2024-03-01 06" (some "%Y-%m-%d %H") = .ok ⟨⟨2024, 3, 1⟩, .midnight⟩ := by
  have hitems : Item.ofFormat "%Y-%m-%d %H".toList =
      [.numeric .year, .dash, .numeric .month, .dash, .numeric .day, .space] ++
        [.numeric .hour] := by decide +kernel
  exact ⟨by decide +kernel,
    .of_items _ _ { year := some 2024, month := some 3, day := some 1 } 5 hitems rfl (by decide),
    .of_items _ _ { year := some 2024, month := some 3, day := some 1 } 6 hitems rfl (by decide),
    toOption_eq_some (by decide +kernel), toOption_eq_some (by decide +kernel)⟩

end ModelProbe.Explain

import ModelProbe.Explain.Frame
import ModelProbe.Proofs.Time.RoundTrip

/-! The timestamps of cells.

A text is read without the white space around it, by its format (`parseTimestamp_some_iff`) or by
the forms that need none (`parseTimestamp_none_iff`), and a number as seconds since the epoch.
Whatever is read of a cell is valid (`valid_of_cellTimestamp`), and the text of a valid timestamp is
read as that timestamp (`parseTimestamp_text`). -/
namespace ModelProbe.Explain

open Time (Timestamp)

variable {raw format : String} {t : Timestamp}

theorem parseTimestamp_some_iff :
    parseTimestamp raw (some format) = .ok t ↔
      Timestamp.ofFormat format (Text.trim raw) = .ok t := by
  unfold parseTimestamp
  dsimp only
  cases Timestamp.ofFormat format (Text.trim raw) <;> simp

theorem parseTimestamp_none_iff :
    parseTimestamp raw none = .ok t ↔ Timestamp.ofText? (Text.trim raw) = some t := by
  unfold parseTimestamp
  dsimp only
  cases Timestamp.ofText? (Text.trim raw) <;> simp

theorem valid_of_parseTimestamp {format : Option String} (h : parseTimestamp raw format = .ok t) :
    t.Valid := by
  cases format with
  | some format => exact Timestamp.valid_of_ofFormat (parseTimestamp_some_iff.1 h)
  | none => exact Timestamp.valid_of_ofText? (parseTimestamp_none_iff.1 h)

theorem valid_of_epochTimestamp {x : Double} (h : epochTimestamp x = .ok t) : t.Valid := by
  unfold epochTimestamp at h
  split at h
  · cases h
  · dsimp only at h
    split at h
    · rename_i hepoch
      cases h
      exact Timestamp.valid_of_ofEpoch? hepoch (by omega) (by omega)
    · cases h

/-- **Whatever is read as a timestamp is valid**: a text with or without a format, and a number. -/
theorem valid_of_cellTimestamp {format : Option String} {cell : Cell}
    (h : cellTimestamp format cell = .ok t) : t.Valid := by
  unfold cellTimestamp at h
  split at h
  · exact valid_of_parseTimestamp h
  · split at h
    · exact valid_of_epochTimestamp h
    · exact valid_of_parseTimestamp h

/-- **The text of a timestamp is read as that timestamp.** -/
theorem parseTimestamp_text (ht : t.Valid) : parseTimestamp t.text none = .ok t :=
  parseTimestamp_none_iff.2 (by rw [t.trim_text, Timestamp.ofText?_text ht])

end ModelProbe.Explain

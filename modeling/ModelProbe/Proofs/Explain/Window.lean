import ModelProbe.Proofs.Explain.RoundTrip

/-! Windows of frames.

Every frame there is is `Framed`: timestamps, columns and values have the sizes of one another, the
timestamps do not descend, and no two columns have one name. Its windows are the rows from a place
on (`IsWindow`), timestamps and values alike, and they are had exactly when the frame has those
rows; a machine that adds in words, with a check, finds the same (`window_eq_stopInWords`). The rest
is an algebra of places: the last rows are a window, a window of a window is a window of the frame,
and replacing the values commutes with looking through a window (`window_algebra`). -/
namespace ModelProbe.Explain.Frame

open Time (Timestamp)

/-- Sizes that agree, timestamps in order and columns that can be told apart. -/
structure Framed (f : Frame) : Prop where
  rows : f.values.rows = f.timestamps.length
  cols : f.values.cols = f.columns.length
  entries : f.values.Regular
  ascending : f.timestamps.Pairwise (· ≤ ·)
  distinct : f.columns.Nodup
  apart : f.timestampColumn ∉ f.columns

/-- The `length` rows of a frame from `start`. -/
structure IsWindow (f : Frame) (start length : Nat) (g : Frame) : Prop where
  timestampColumn : g.timestampColumn = f.timestampColumn
  columns : g.columns = f.columns
  rows : g.rows = length
  timestamp : ∀ i < length, g.timestamps[i]? = f.timestamps[start + i]?
  value : ∀ i < length, ∀ j, g.values.get? i j = f.values.get? (start + i) j

/-- The end of a window as a machine finds it: the sum in words that wrap around, unless it came
out smaller than it started or is past the last row. -/
def stopInWords? (rows start length : UInt64) : Option UInt64 :=
  if start + length < start ∨ rows < start + length then none else some (start + length)

variable {f g : Frame} {start length : Nat}

theorem Regular.framed (hf : f.Regular) : f.Framed := by
  obtain ⟨hapart, hdistinct⟩ := List.nodup_cons.1 hf.distinct
  refine ⟨hf.sized.rows, hf.sized.cols, hf.sized.values, ?_, hdistinct, hapart⟩
  refine hf.ascending.imp_of_mem fun ha hb h => ?_
  exact (Timestamp.rank_le_rank_iff (hf.valid _ ha) (hf.valid _ hb)).1 h

/-! ### Places -/

/-- Words that wrap around come out smaller than they started, so no sum is taken for another. -/
theorem stopInWords?_eq (rows start length : UInt64) :
    stopInWords? rows start length =
      if start.toNat + length.toNat ≤ rows.toNat then some (start + length) else none := by
  have hstart := start.toNat_lt
  have hlength := length.toNat_lt
  have hrows := rows.toNat_lt
  unfold stopInWords?
  simp only [UInt64.lt_iff_toNat_lt, UInt64.toNat_add]
  by_cases hwraps : start.toNat + length.toNat < 2 ^ 64
  · rw [Nat.mod_eq_of_lt hwraps]
    by_cases hfits : start.toNat + length.toNat ≤ rows.toNat
    · rw [if_neg (by omega), if_pos hfits]
    · rw [if_pos (by omega), if_neg hfits]
  · rw [if_pos (by omega), if_neg (by omega)]

theorem window_eq_of_le (h : start + length ≤ f.rows) :
    f.window start length = .ok (f.sliceRows start (start + length)) :=
  if_pos h

theorem window_eq_of_lt (h : f.rows < start + length) :
    f.window start length = .error (.invalidInput (.window start length f.rows)) :=
  if_neg (Nat.not_le.2 h)

/-- **The window that a machine finds in words is the window.** -/
theorem window_eq_stopInWords {rows : UInt64} (hrows : f.rows = rows.toNat)
    (start length : UInt64) : f.window start.toNat length.toNat =
      (stopInWords? rows start length).elim
        (.error (.invalidInput (.window start.toNat length.toNat f.rows)))
        fun stop => .ok (f.sliceRows start.toNat stop.toNat) := by
  rw [stopInWords?_eq, ← hrows]
  by_cases hstop : start.toNat + length.toNat ≤ f.rows
  · have hword : start.toNat + length.toNat < 2 ^ 64 := hstop.trans_lt (hrows ▸ rows.toNat_lt)
    have hsum : (start + length).toNat = start.toNat + length.toNat := by
      rw [UInt64.toNat_add, Nat.mod_eq_of_lt hword]
    rw [window_eq_of_le hstop, if_pos hstop, Option.elim_some, hsum]
  · rw [window_eq_of_lt (Nat.not_le.1 hstop), if_neg hstop, Option.elim_none]

theorem isWindow_of_window (h : f.window start length = .ok g) : IsWindow f start length g := by
  obtain ⟨hstop, rfl⟩ := window_eq_ok_iff.1 h
  have hlength : start + length - start = length := Nat.add_sub_cancel_left ..
  refine ⟨rfl, rfl, (rows_sliceRows hstop).trans hlength, fun i hi => ?_, fun i hi j => ?_⟩
  · show ((f.timestamps.drop start).take (start + length - start))[i]? = _
    rw [List.getElem?_take_of_lt (hlength.symm ▸ hi), List.getElem?_drop]
  · exact Matrix.get?_slice (hlength.symm ▸ hi)

/-! ### Windows of windows -/

/-- The last rows are a window, which may be all of the frame. -/
theorem window_eq_tail (f : Frame) (n : Nat) :
    f.window (f.rows - min n f.rows) (min n f.rows) = .ok (f.tail n) := by
  have hstop : f.rows - min n f.rows + min n f.rows = f.rows :=
    Nat.sub_add_cancel (Nat.min_le_right ..)
  have hstart : f.rows - min n f.rows = f.rows - n := by omega
  rw [window_eq_of_le hstop.le, hstop, hstart, tail]

theorem window_window (h : f.window start length = .ok g) {a n : Nat} (hn : a + n ≤ length) :
    g.window a n = f.window (start + a) n := by
  obtain ⟨hstop, rfl⟩ := window_eq_ok_iff.1 h
  have hrows : (f.sliceRows start (start + length)).rows = length :=
    (isWindow_of_window h).rows
  rw [window_eq_of_le (hn.trans_eq hrows.symm), window_eq_of_le (by omega),
    sliceRows_sliceRows f (Nat.le_add_right ..) (by omega), Nat.add_assoc]

/-- Looking through a window at other values is replacing the values that are seen through it. -/
theorem window_withValues {values : Matrix Double} (h : f.withValues values = .ok g)
    (start length : Nat) : g.window start length =
      f.window start length >>= fun w => w.withValues (values.slice start (start + length)) := by
  have hsame : (values.rows = f.values.rows ∧ values.cols = f.values.cols) ∧
      g = { f with values } := by
    unfold withValues at h
    split at h
    · cases h
      exact ⟨‹_›, rfl⟩
    · cases h
  obtain ⟨⟨-, hcols⟩, hg⟩ := hsame
  have hrows : g.rows = f.rows := by rw [hg]; rfl
  by_cases hstop : start + length ≤ f.rows
  · rw [window_eq_of_le hstop, window_eq_of_le (hrows ▸ hstop), hg]
    exact (if_pos ⟨rfl, hcols⟩).symm
  · have hstop : f.rows < start + length := Nat.not_le.1 hstop
    rw [window_eq_of_lt hstop, window_eq_of_lt (hrows ▸ hstop), hrows]
    rfl

/-- **The algebra of windows**, on every frame there is. -/
theorem window_algebra (h : f.Reachable) :
    f.Framed ∧
    (∀ start length, if start + length ≤ f.rows
      then ∃ g, f.window start length = .ok g ∧ IsWindow f start length g
      else f.window start length = .error (.invalidInput (.window start length f.rows))) ∧
    (∀ rows start length : UInt64, f.rows = rows.toNat → f.window start.toNat length.toNat =
      (stopInWords? rows start length).elim
        (.error (.invalidInput (.window start.toNat length.toNat f.rows)))
        fun stop => .ok (f.sliceRows start.toNat stop.toNat)) ∧
    (∀ n, f.window (f.rows - min n f.rows) (min n f.rows) = .ok (f.tail n)) ∧
    (∀ start length g, f.window start length = .ok g → ∀ a n, if a + n ≤ length
      then g.window a n = f.window (start + a) n ∧ ∃ w, g.window a n = .ok w
      else g.window a n = .error (.invalidInput (.window a n length))) ∧
    ∀ values g, f.withValues values = .ok g → ∀ start length,
      g.window start length =
        f.window start length >>= fun w => w.withValues (values.slice start (start + length)) := by
  refine ⟨h.regular.framed, fun start length => ?_, fun rows start length hrows => ?_,
    window_eq_tail f, fun start length g hg a n => ?_, fun values g => window_withValues⟩
  · split
    · rename_i hstop
      exact ⟨_, window_eq_of_le hstop, isWindow_of_window (window_eq_of_le hstop)⟩
    · rename_i hstop
      exact window_eq_of_lt (Nat.not_le.1 hstop)
  · exact window_eq_stopInWords hrows start length
  · have hrows := (isWindow_of_window hg).rows
    split
    · rename_i hn
      exact ⟨window_window hg hn, _, window_eq_of_le (hn.trans_eq hrows.symm)⟩
    · rename_i hn
      rw [window_eq_of_lt (hrows.trans_lt (Nat.not_le.1 hn)), hrows]

/-- Four readings, looked at from the second on. Of those three the last two are a window and a
window of three from there is not, also where the words wrap around. -/
theorem window_algebra_far :
    IsWindow farReadings 1 3 (farReadings.tail 3) ∧
      (farReadings.tail 3).window 1 2 = farReadings.window 2 2 ∧
      (farReadings.tail 3).window 2 2 = .error (.invalidInput (.window 2 2 3)) ∧
      farReadings.window 18446744073709551615 2 =
        .error (.invalidInput (.window 18446744073709551615 2 4)) ∧
      ∃ g, farReadings.withValues ⟨4, 1, [.zero, .zero, .nan, .zero]⟩ = .ok g ∧
        g.window 2 2 = farReadings.window 2 2 >>= fun w => w.withValues ⟨2, 1, [.nan, .zero]⟩ := by
  obtain ⟨-, hwindow, hwords, htail, hwindows, hvalues⟩ := window_algebra reachable_farReadings
  have hlast : farReadings.window 1 3 = .ok (farReadings.tail 3) := htail 3
  have hrefilled : farReadings.withValues ⟨4, 1, [.zero, .zero, .nan, .zero]⟩ =
      .ok { farReadings with values := ⟨4, 1, [.zero, .zero, .nan, .zero]⟩ } := rfl
  refine ⟨?_, (hwindows 1 3 _ hlast 1 2).1, hwindows 1 3 _ hlast 2 2,
    hwords 4 18446744073709551615 2 rfl, _, hrefilled, hvalues _ _ hrefilled 2 2⟩
  obtain ⟨g, hg, hseen⟩ := hwindow 1 3
  cases hlast.symm.trans hg
  exact hseen

end ModelProbe.Explain.Frame

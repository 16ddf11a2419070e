import ModelProbe.Proofs.Binary.Range
import ModelProbe.Proofs.Codec.RoundTrip

/-! Narrowing loses nothing or is refused.

`Double.FitsSingle` says by arithmetic what a single can hold: NaNs, zeros, infinities, and the
numbers of at most 24 bits at an exponent from -149 to 104. Those are the doubles that survive
narrowing (`survives_iff_fitsSingle`). So a codec that sends singles takes an array of doubles or a
table of numbers exactly when every entry fits; it then sends singles that are the entries, and
otherwise it names the first entry by rows that does not fit (`encode_as_singles`). -/
namespace ModelProbe

open Binary

/-- What a single can hold. -/
inductive Double.FitsSingle (x : Double) : Prop where
  | nan (h : x.isNaN = true)
  | zero (h : x.isZero = true)
  | infinite {negative : Bool} (h : x.read = .infinite negative)
  | scaled {m : Nat} {e : Int} (pos : 0 < m) (bits : m < 2 ^ 24) (low : -149 ≤ e) (high : e ≤ 104)
      (value : x.value = m * 2 ^ e ∨ x.value = -(m * 2 ^ e))

/-- Every double of a source fits a single. -/
def Source.FitsSingles (s : Source) : Prop :=
  ∀ i < s.rows, ∀ j < s.cols, ∀ x, s.get? i j = some (.fp64 x) → x.FitsSingle

namespace Codec

variable {x : Double}

/-- **What survives narrowing is what a single can hold.** -/
theorem survives_iff_fitsSingle : survives x = true ↔ x.FitsSingle := by
  rw [survives_iff]
  cases hread : x.read with
  | nan =>
    have hnan := Double.isNaN_iff.2 hread
    exact iff_of_true (.inl hnan) (.nan hnan)
  | infinite negative =>
    have hwiden := (Single.widen_infinity negative).trans (Double.eq_infinity hread).symm
    exact iff_of_true (.inr ⟨_, hwiden⟩) (.infinite hread)
  | finite negative m q =>
    have hfinite : x.isFinite = true := Double.isFinite_iff.2 ⟨_, _, _, hread⟩
    have hnan : ¬x.isNaN = true := by
      rw [Double.isNaN_iff, hread]
      exact nofun
    cases hzero : x.isZero with
    | true => exact iff_of_true (.inr ⟨_, widen_ofDouble_of_isZero hzero⟩) (.zero hzero)
    | false =>
      rw [or_iff_right hnan, Single.exists_widen_iff hfinite hzero]
      constructor
      · rintro ⟨k, e, hk, hbits, hlow, hhigh, hvalue⟩
        exact .scaled hk hbits hlow hhigh (eq_or_eq_neg_of_abs_eq hvalue)
      · intro h
        cases h with
        | nan h => exact absurd h hnan
        | zero h => rw [hzero] at h; cases h
        | infinite h => rw [hread] at h; cases h
        | scaled hk hbits hlow hhigh hvalue =>
          refine ⟨_, _, hk, hbits, hlow, hhigh, ?_⟩
          rw [← abs_eq (by positivity)] at hvalue
          exact hvalue

/-- Narrowing is refused with the first double that does not fit. -/
theorem cast_narrow_eq_error {c : Codec} (hc : c.datatype = some .fp32) {xs : List Double}
    {e : Error} (h : c.cast (.fp64 xs) = .error e) :
    ∃ k x, FirstAt (fun y => ¬y.FitsSingle) xs k x ∧
      e = .datatypeMismatch c.inputName (.lossyNarrowing x k) := by
  unfold cast at h
  rw [hc] at h
  dsimp only at h
  split at h
  · rename_i x k hfind
    cases h
    obtain ⟨i, hfirst⟩ := find?_eq_some_iff_firstAt.1 hfind
    obtain ⟨rfl, hfirst⟩ := (firstAt_zipIdx_iff (P := fun y => (!survives y) = true)).1 hfirst
    refine ⟨_, x, hfirst.congr fun y _ => ?_, rfl⟩
    rw [← survives_iff_fitsSingle]
    simp
  · cases h

/-- The doubles of a source without texts, row by row. -/
theorem exists_doubles {s : Source} (hs : s.Sound) (hprecision : s.precision = .fp64)
    (htext : ¬s.HoldsText) :
    ∃ xs, s.input.values = .ok (.fp64 xs) ∧ xs.length = s.rows * s.cols ∧
      ∀ i < s.rows, ∀ j < s.cols, ∃ x, s.get? i j = some (.fp64 x) ∧
        xs[i * s.cols + j]? = some x := by
  cases hvs : s.input.values with
  | error e => exact absurd ((Source.exists_values_error_iff hs).1 ⟨e, hvs⟩) htext
  | ok vs =>
    obtain ⟨hdatatype, hlength, hentry⟩ := Source.values_eq_ok hs hvs
    rw [hprecision] at hdatatype
    cases vs with
    | fp64 xs =>
      refine ⟨xs, rfl, hlength, fun i hi j hj => ?_⟩
      obtain ⟨y, hy, hplace⟩ := hentry i hi j hj
      obtain ⟨x, hx, rfl⟩ := Option.map_eq_some_iff.1 hplace
      exact ⟨x, hy, hx⟩
    | fp32 xs => cases hdatatype
    | int32 ks => cases hdatatype
    | int64 ks => cases hdatatype

/-- Where there are values, encoding fails with the error of casting them. -/
theorem cast_eq_error_of_encode {c : Codec} {s : Source} (hs : s.Sound) {vs : Values} {e : Error}
    (hvs : s.input.values = .ok vs) (h : c.encode s.input = .error e) : c.cast vs = .error e := by
  rw [encode_eq, s.dims_input, hvs] at h
  cases hws : c.cast vs with
  | error e' =>
    rw [Except.bind, hws] at h
    cases h
    rfl
  | ok ws =>
    have hcount : (⟨[s.rows, s.cols]⟩ : Shape).count = ws.length := by
      rw [count_pair, (cast_eq_ok hws).2.1, (Source.values_eq_ok hs hvs).2.1]
    rw [Except.bind, hws, Except.bind, Tensor.make, if_pos hcount] at h
    cases h

/-- A source of numbers that are sent as singles is refused for a double that does not fit, and
for no other reason. -/
theorem exists_encode_iff_fitsSingles {c : Codec} (hc : c.datatype = some .fp32) {s : Source}
    (hs : s.Sound) (htext : ¬s.HoldsText) :
    (∃ t, c.encode s.input = .ok t) ↔ s.FitsSingles := by
  have hfloats : c.SendsFloats := by
    intro d hd
    cases hc.symm.trans hd
    rfl
  have hlost : ∀ x, ¬x.FitsSingle ↔ x.isNaN = false ∧ ∀ y : Single, y.widen ≠ x := by
    intro x
    rw [← survives_iff_fitsSingle, survives_iff, not_or, Bool.not_eq_true, not_exists]
  have herror := exists_encode_error_iff hfloats hs
  rw [or_iff_right htext, and_iff_right hc] at herror
  have hok : (∃ t, c.encode s.input = .ok t) ↔ ¬∃ e, c.encode s.input = .error e := by
    cases c.encode s.input <;> simp
  rw [hok, herror]
  constructor
  · intro h i hi j hj x hx
    by_contra hfit
    exact h ⟨i, hi, j, hj, x, hx, (hlost x).1 hfit⟩
  · rintro h ⟨i, hi, j, hj, x, hx, hne⟩
    exact (hlost x).2 hne (h i hi j hj x hx)

/-- The singles that are sent widen back to the entries. -/
theorem singles_of_encode {c : Codec} (hc : c.datatype = some .fp32) {s : Source} (hs : s.Sound)
    (hprecision : s.precision = .fp64) (htext : ¬s.HoldsText) {t : Tensor}
    (h : c.encode s.input = .ok t) :
    ∃ ys, t.values = .fp32 ys ∧ ys.length = s.rows * s.cols ∧
      ∀ i < s.rows, ∀ j < s.cols, ∃ x y, s.get? i j = some (.fp64 x) ∧
        ys[i * s.cols + j]? = some y ∧ y.widen.Same x := by
  obtain ⟨xs, -, -, hentry⟩ := exists_doubles hs hprecision htext
  have hcarries := carries_of_encode hs h
  have hdatatype := hcarries.datatype
  rw [hc, Option.getD_some, Tensor.datatype] at hdatatype
  obtain ⟨name, shape, vs⟩ := t
  cases vs with
  | fp32 ys =>
    refine ⟨ys, rfl, hcarries.length, fun i hi j hj => ?_⟩
    obtain ⟨x, hx, -⟩ := hentry i hi j hj
    obtain ⟨x', y', hx', hy', hstands⟩ := hcarries.entries i hi j hj
    obtain rfl : .fp64 x = x' := Option.some.inj (hx.symm.trans hx')
    obtain ⟨y, hy, rfl⟩ := Option.map_eq_some_iff.1 hy'
    exact ⟨x, y, hx, hy, hstands.same⟩
  | fp64 ys => cases hdatatype
  | int32 ks => cases hdatatype
  | int64 ks => cases hdatatype

/-- The first entry by rows that does not fit is the one that is named. -/
theorem first_of_encode_eq_error {c : Codec} (hc : c.datatype = some .fp32) {s : Source}
    (hs : s.Sound) (hprecision : s.precision = .fp64) (htext : ¬s.HoldsText) {e : Error}
    (h : c.encode s.input = .error e) :
    ∃ i < s.rows, ∃ j < s.cols, ∃ x, s.get? i j = some (.fp64 x) ∧ ¬x.FitsSingle ∧
      e = .datatypeMismatch c.inputName (.lossyNarrowing x (i * s.cols + j)) ∧
      ∀ i' < s.rows, ∀ j' < s.cols, i' * s.cols + j' < i * s.cols + j →
        ∀ y, s.get? i' j' = some (.fp64 y) → y.FitsSingle := by
  obtain ⟨xs, hxs, hlength, hentry⟩ := exists_doubles hs hprecision htext
  obtain ⟨k, x, hfirst, he⟩ := cast_narrow_eq_error hc (cast_eq_error_of_encode hs hxs h)
  have hk : k < s.rows * s.cols := hlength ▸ (List.getElem?_eq_some_iff.1 hfirst.here).1
  obtain ⟨i, hi, j, hj, rfl⟩ := Matrix.exists_place hk
  obtain ⟨x', hx', hplace⟩ := hentry i hi j hj
  obtain rfl : x' = x := Option.some.inj (hplace.symm.trans hfirst.here)
  refine ⟨i, hi, j, hj, x', hx', hfirst.holds, he, fun i' hi' j' hj' hlt y hy => ?_⟩
  obtain ⟨y', hy', hplace'⟩ := hentry i' hi' j' hj'
  have hsame := hy'.symm.trans hy
  cases hsame
  exact not_not.1 (hfirst.before _ _ hlt hplace')

/-- **Narrowing loses nothing or is refused.** A codec that sends singles takes an array of doubles
or a table of numbers exactly when every entry fits a single. What it then sends widens back to the
entries, bit for bit but for a NaN, which stays one. Otherwise it names the first entry by rows that
does not fit, and where it stands. -/
theorem encode_as_singles {c : Codec} (hc : c.datatype = some .fp32) {s : Source} (hs : s.Sound)
    (hprecision : s.precision = .fp64) (htext : ¬s.HoldsText) :
    ((∃ t, c.encode s.input = .ok t) ↔ s.FitsSingles) ∧
    (∀ t, c.encode s.input = .ok t → ∃ ys, t.values = .fp32 ys ∧ ys.length = s.rows * s.cols ∧
      ∀ i < s.rows, ∀ j < s.cols, ∃ x y, s.get? i j = some (.fp64 x) ∧
        ys[i * s.cols + j]? = some y ∧ y.widen.Same x) ∧
    ∀ e, c.encode s.input = .error e → ∃ i < s.rows, ∃ j < s.cols, ∃ x,
      s.get? i j = some (.fp64 x) ∧ ¬x.FitsSingle ∧
      e = .datatypeMismatch c.inputName (.lossyNarrowing x (i * s.cols + j)) ∧
      ∀ i' < s.rows, ∀ j' < s.cols, i' * s.cols + j' < i * s.cols + j →
        ∀ y, s.get? i' j' = some (.fp64 y) → y.FitsSingle := by
  refine ⟨exists_encode_iff_fitsSingles hc hs htext, fun t h => ?_, fun e h => ?_⟩
  · exact singles_of_encode hc hs hprecision htext h
  · exact first_of_encode_eq_error hc hs hprecision htext h

/-- A transposed array of a zero, the least and the greatest single, an infinity and a NaN; and a
table whose last entry by rows lies half a step above the greatest single. -/
theorem encode_as_singles_half_above :
    let buffer : List Double := [⟨0x8000000000000000⟩, ⟨0x36a0000000000000⟩, ⟨0x47efffffe0000000⟩,
      ⟨0xfff0000000000000⟩, ⟨0x7ff8000000000001⟩, ⟨0x3ff8000000000000⟩]
    let table : Table := ⟨[⟨"a", [.number ⟨0x7ff0000000000000⟩, .number ⟨0x47efffffe0000000⟩]⟩,
      ⟨"b", [.number ⟨0x3ff8000000000000⟩, .number ⟨0x47effffff0000000⟩]⟩], 2⟩
    let c : Codec := ⟨"x", some .fp32⟩
    ∃ inside, let kept := Source.fp64 ⟨buffer, 3, 2, 0, 1, 3, inside⟩
    (kept.Sound ∧ kept.precision = .fp64 ∧ ¬kept.HoldsText ∧ kept.FitsSingles ∧
      ∃ t ys, c.encode kept.input = .ok t ∧ t.values = .fp32 ys ∧ ys.length = 6) ∧
    (Source.table table).Sound ∧ ¬(Source.table table).HoldsText ∧
      c.encode (.table table) =
        .error (.datatypeMismatch "x" (.lossyNarrowing ⟨0x47effffff0000000⟩ 3)) ∧
      ¬(⟨0x47effffff0000000⟩ : Double).FitsSingle := by
  intro buffer table c
  have inside : ∀ i < 3, ∀ j < 2, 0 ≤ (0 : Int) + (i : Nat) * 1 + (j : Nat) * 3 ∧
      (0 : Int) + i * 1 + j * 3 < buffer.length := by decide
  refine ⟨inside, ?_, ?_⟩
  · have hs : (Source.fp64 ⟨buffer, 3, 2, 0, 1, 3, inside⟩).Sound :=
      ⟨show Matrix.fits 3 2 = true by decide, nofun⟩
    have htext : ¬(Source.fp64 ⟨buffer, 3, 2, 0, 1, 3, inside⟩).HoldsText := nofun
    obtain ⟨haccept, hsent, -⟩ := encode_as_singles (c := c) rfl hs rfl htext
    obtain ⟨t, ht⟩ : ∃ t, c.encode (Source.fp64 ⟨buffer, 3, 2, 0, 1, 3, inside⟩).input = .ok t :=
      ⟨_, rfl⟩
    obtain ⟨ys, hys, hlength, -⟩ := hsent t ht
    exact ⟨hs, rfl, htext, haccept.1 ⟨t, ht⟩, t, ys, ht, hys, hlength⟩
  · have hs : (Source.table table).Sound :=
      ⟨show Matrix.fits 2 2 = true by decide, fun t h => by
        cases h
        exact ⟨by decide, by decide, nofun⟩⟩
    have htext : ¬(Source.table table).HoldsText := by
      intro h
      obtain ⟨e, he⟩ := (Source.exists_values_error_iff hs).2 h
      cases he
    have herror : c.encode (.table table) =
        .error (.datatypeMismatch "x" (.lossyNarrowing ⟨0x47effffff0000000⟩ 3)) := rfl
    obtain ⟨-, -, hrefused⟩ := encode_as_singles (c := c) rfl hs rfl htext
    obtain ⟨i, -, j, -, x, -, hfit, he, -⟩ := hrefused _ herror
    rw [Error.datatypeMismatch.injEq, DatatypeFault.lossyNarrowing.injEq] at he
    exact ⟨hs, htext, herror, he.2.1 ▸ hfit⟩

end Codec

end ModelProbe

import ModelProbe.Proofs.Tensor.Counted

/-! The gate for shapes.

A list of dimensions passes when none is negative and those that are not zero multiply to less than
`2 ^ 64` (`Passable`), so their order has no part in it. Of what is refused the first negative
dimension is told, or else that the dimensions are too many (`ofWire_eq_error_iff`). A shape that
passed gives its dimensions back, and all products taken of it are exact in machine words, wherever
zeros stand: the number of elements is the product of all dimensions and the columns of its matrix
are the product of all but the first (`passed_of_ofWire`). -/
namespace ModelProbe.Shape

/-- The exact product of the dimensions that are not zero. -/
def wireExtent (dims : List Int64) : Int :=
  ((dims.filter (· ≠ 0)).map Int64.toInt).prod

/-- No dimension is negative, and the product of those that are not zero fits the machine word. -/
structure Passable (dims : List Int64) : Prop where
  nonneg : ∀ d ∈ dims, 0 ≤ d
  fits : wireExtent dims < 2 ^ 64

/-- What is refused, and what is told of it. -/
inductive Refusal (dims : List Int64) : Malformed → Prop where
  /-- The first negative dimension, however large the others are. -/
  | negative {i : Nat} {d : Int64} (first : FirstAt (· < 0) dims i d) :
      Refusal dims (.negativeDimension d dims)
  | tooMany (nonneg : ∀ d ∈ dims, 0 ≤ d) (large : 2 ^ 64 ≤ wireExtent dims) :
      Refusal dims (.tooManyElements dims)

/-- A shape of these dimensions, of which every product can be taken in machine words. -/
structure Passed (dims : List Int64) (s : Shape) : Prop where
  toWire : s.toWire = dims
  rank : s.rank = dims.length
  count : (s.count : Int) = (dims.map Int64.toInt).prod
  unwrapped : Unwrapped s.dims
  count_in_words : (wordProduct s.dims).toNat = s.count
  rows_cols : ∀ first rest, dims = first :: rest →
    (s.matrixDims.1 : Int) = first.toInt ∧ (s.matrixDims.2 : Int) = (rest.map Int64.toInt).prod
  unwrapped_rest : Unwrapped s.dims.tail
  cols_in_words : (wordProduct s.dims.tail).toNat = s.matrixDims.2

variable {dims : List Int64} {s : Shape}

/-! ### What passes -/

theorem toNatClampNeg_ne_zero_iff {d : Int64} (h : 0 ≤ d) : d.toNatClampNeg ≠ 0 ↔ d ≠ 0 := by
  have hd : 0 ≤ d.toInt := Int64.le_iff_toInt_le.1 h
  have hzero : d = 0 ↔ d.toInt = 0 := by rw [← Int64.toInt_inj]; rfl
  rw [Int64.toNatClampNeg, not_iff_not, hzero]
  omega

/-- The gate's product is the exact one. -/
theorem natCast_extent (h : ∀ d ∈ dims, 0 ≤ d) :
    (extent (dims.map Int64.toNatClampNeg) : Int) = wireExtent dims := by
  have hfilter : (dims.map Int64.toNatClampNeg).filter (· ≠ 0) =
      (dims.filter (· ≠ 0)).map Int64.toNatClampNeg := by
    rw [List.filter_map]
    refine congrArg _ (List.filter_congr fun d hd => ?_)
    exact decide_eq_decide.2 (toNatClampNeg_ne_zero_iff (h d hd))
  rw [extent, hfilter, wireExtent]
  exact (prod_toInt fun d hd => h d (List.mem_filter.1 hd).1).symm

/-- The order of the dimensions has no part in whether they pass. -/
theorem Passable.perm {dims' : List Int64} (hperm : dims'.Perm dims) (h : Passable dims) :
    Passable dims' := by
  refine ⟨fun d hd => h.nonneg d (hperm.mem_iff.1 hd), ?_⟩
  have hextent : wireExtent dims' = wireExtent dims :=
    ((hperm.filter _).map Int64.toInt).prod_eq
  exact hextent ▸ h.fits

/-- A list of dimensions passes or is refused for one reason. -/
theorem ofWire_cases (dims : List Int64) :
    (Passable dims ∧ ofWire dims = .ok ⟨dims.map Int64.toNatClampNeg⟩) ∨
      ∃ cause, Refusal dims cause ∧ ofWire dims = .error cause.error := by
  unfold ofWire
  split
  · rename_i d hfind
    obtain ⟨i, hfirst⟩ := find?_eq_some_iff_firstAt.1 hfind
    exact .inr ⟨_, .negative (hfirst.congr fun _ _ => decide_eq_true_iff), rfl⟩
  · rename_i hfind
    have hnonneg : ∀ d ∈ dims, 0 ≤ d := fun d hd => by
      simpa using List.find?_eq_none.1 hfind d hd
    have hextent := natCast_extent hnonneg
    dsimp only
    split
    · rename_i hfits
      have hfits : extent (dims.map Int64.toNatClampNeg) < 2 ^ 64 :=
        isSome_checkedExtent?_iff.1 hfits
      exact .inl ⟨⟨hnonneg, by omega⟩, rfl⟩
    · rename_i hlarge
      have hlarge : ¬extent (dims.map Int64.toNatClampNeg) < 2 ^ 64 :=
        fun h => hlarge (isSome_checkedExtent?_iff.2 h)
      exact .inr ⟨_, .tooMany hnonneg (by omega), rfl⟩

theorem Refusal.not_passable {cause : Malformed} (h : Refusal dims cause) : ¬Passable dims := by
  intro hpass
  cases h with
  | negative first => exact absurd first.holds (Int64.not_lt.2 (hpass.nonneg _ first.mem))
  | tooMany _ large => exact absurd hpass.fits (by omega)

/-- There is one reason at most. -/
theorem Refusal.unique {cause cause' : Malformed} (h : Refusal dims cause)
    (h' : Refusal dims cause') : cause = cause' := by
  cases h with
  | negative first =>
    cases h' with
    | negative first' => rw [first.unique first']
    | tooMany nonneg => exact absurd first.holds (Int64.not_lt.2 (nonneg _ first.mem))
  | tooMany nonneg =>
    cases h' with
    | negative first' => exact absurd first'.holds (Int64.not_lt.2 (nonneg _ first'.mem))
    | tooMany => rfl

theorem exists_ofWire_iff : (∃ s, ofWire dims = .ok s) ↔ Passable dims := by
  constructor
  · rintro ⟨s, hs⟩
    rcases ofWire_cases dims with ⟨hpass, -⟩ | ⟨cause, -, herror⟩
    · exact hpass
    · cases hs.symm.trans herror
  · intro hpass
    rcases ofWire_cases dims with ⟨-, hs⟩ | ⟨cause, hrefusal, -⟩
    · exact ⟨_, hs⟩
    · exact absurd hpass hrefusal.not_passable

/-- **What is told of dimensions that do not pass.** -/
theorem ofWire_eq_error_iff {e : Error} :
    ofWire dims = .error e ↔ ∃ cause, Refusal dims cause ∧ e = cause.error := by
  rcases ofWire_cases dims with ⟨hpass, hs⟩ | ⟨cause, hrefusal, herror⟩
  · rw [hs]
    exact ⟨nofun, fun ⟨_, hrefusal, _⟩ => absurd hpass hrefusal.not_passable⟩
  · rw [herror, Except.error.injEq, eq_comm]
    constructor
    · rintro rfl
      exact ⟨cause, hrefusal, rfl⟩
    · rintro ⟨cause', hrefusal', rfl⟩
      rw [hrefusal.unique hrefusal']

/-! ### What passed -/

/-- **All that is multiplied of a shape that passed is exact.** -/
theorem passed_of_ofWire (h : ofWire dims = .ok s) : Passed dims s := by
  obtain ⟨hnonneg, hdims, hextent⟩ := ofWire_eq_ok h
  have hall : Unwrapped s.dims := unwrapped_of_sublist (.refl _) hextent
  have hrest : Unwrapped s.dims.tail := unwrapped_of_sublist (List.tail_sublist _) hextent
  refine ⟨toWire_of_ofWire h, ?_, ?_, hall, toNat_wordProduct hall, ?_, hrest, ?_⟩
  · rw [rank, hdims, List.length_map]
  · rw [count, hdims, prod_toInt hnonneg]
  · rintro first rest rfl
    obtain ⟨hfirst, hothers⟩ := List.forall_mem_cons.1 hnonneg
    have hrows : (first.toNatClampNeg : Int) = first.toInt := by
      rw [Int64.toNatClampNeg, Int.toNat_of_nonneg (Int64.le_iff_toInt_le.1 hfirst)]
    have hs : s = ⟨first.toNatClampNeg :: rest.map Int64.toNatClampNeg⟩ := congrArg Shape.mk hdims
    rw [hs, matrixDims_cons, prod_toInt hothers]
    exact ⟨hrows, rfl⟩
  · rw [toNat_wordProduct hrest, snd_matrixDims]

/-- **The gate lets through what can be counted, and nothing else.** -/
theorem ofWire_gate (dims : List Int64) :
    ((∃ s, ofWire dims = .ok s) ↔ Passable dims) ∧
      (∀ dims' : List Int64, dims'.Perm dims →
        ((∃ s, ofWire dims' = .ok s) ↔ ∃ s, ofWire dims = .ok s)) ∧
      (∀ e, ofWire dims = .error e ↔ ∃ cause, Refusal dims cause ∧ e = cause.error) ∧
      ∀ s, ofWire dims = .ok s → Passed dims s := by
  refine ⟨exists_ofWire_iff, fun dims' hperm => ?_, fun e => ofWire_eq_error_iff,
    fun s => passed_of_ofWire⟩
  rw [exists_ofWire_iff, exists_ofWire_iff]
  exact ⟨Passable.perm hperm.symm, Passable.perm hperm⟩

/-- Zeros around dimensions that multiply to just below the word: the dimensions pass in another
order too. With one element more they do not, and a negative one is told of before that. -/
theorem ofWire_gate_zeros :
    let dims : List Int64 := [0, 4294967297, 0, 4294967295, 0]
    let shape : Shape := ⟨[0, 4294967297, 0, 4294967295, 0]⟩
    Passed dims shape ∧ (∃ s, ofWire [4294967295, 4294967297, 0, 0, 0] = .ok s) ∧
      (∃ cause, Refusal [0, 4294967296, 4294967296] cause) ∧
      Refusal [4294967296, 4294967296, -1, -2]
        (.negativeDimension (-1) [4294967296, 4294967296, -1, -2]) := by
  intro dims shape
  have hdims : ofWire dims = .ok shape := rfl
  obtain ⟨-, hperm, -, hpassed⟩ := ofWire_gate dims
  obtain ⟨-, -, hrefused, -⟩ := ofWire_gate [0, 4294967296, 4294967296]
  obtain ⟨-, -, hnegative, -⟩ := ofWire_gate [4294967296, 4294967296, -1, -2]
  refine ⟨hpassed shape hdims, (hperm _ (by decide)).2 ⟨shape, hdims⟩, ?_, ?_⟩
  · obtain ⟨cause, hcause, -⟩ := (hrefused _).1 rfl
    exact ⟨cause, hcause⟩
  · obtain ⟨cause, hcause, hsame⟩ := (hnegative _).1 rfl
    cases hsame
    exact hcause

end ModelProbe.Shape

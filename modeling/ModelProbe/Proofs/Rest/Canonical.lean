import ModelProbe.Proofs.Rest.Acceptance
import ModelProbe.Proofs.Rest.RoundTrip

/-! Documents written again.

A tensor that was read from a document has a document of its own, flat and with its datatype spelled
out, and is read back from it (`ofTensor_of_toTensor`). The exception are singles: a number half a
step past the greatest of them or further is read as an infinity without a word, and the tensor that
holds it has no document (`not_all_finite`). -/
namespace ModelProbe

open Json (Value Number)

namespace Json.Number

/-- Half a step past the greatest single, or further. -/
def PastSingles (n : Number) : Prop :=
  2 ^ 128 - 2 ^ 103 ≤ |n.toDouble.value|

variable {n : Number}

theorem isFinite_toDouble (hn : n.Proper) : n.toDouble.isFinite = true := by
  cases n with
  | integer k =>
    obtain ⟨hlow, hhigh⟩ : -2 ^ 63 ≤ k ∧ k < 2 ^ 64 := hn
    exact Double.isFinite_ofInt (by omega)
  | double x => exact hn

theorem isFinite_ofDouble_iff (hn : n.Proper) :
    (Single.ofDouble n.toDouble).isFinite = true ↔ ¬n.PastSingles := by
  rw [Single.isFinite_ofDouble_iff (isFinite_toDouble hn), PastSingles, not_le]

/-- What a number past the singles is read as. -/
theorem PastSingles.widen_ofDouble (h : n.PastSingles) (hn : n.Proper) :
    ∃ negative, (Single.ofDouble n.toDouble).widen = .infinity negative := by
  obtain ⟨negative, m, q, hread⟩ := Double.isFinite_iff.1 (isFinite_toDouble hn)
  exact ⟨negative, Single.widen_ofDouble_of_threshold hread h⟩

end Json.Number

namespace Rest.TensorDocument

variable {doc : TensorDocument} {t : Tensor}

/-- A document of singles has no number past them. -/
def InRange (doc : TensorDocument) : Prop :=
  doc.tag = "FP32" → ∀ n, .number n ∈ doc.data.leaves → ¬n.PastSingles

/-- The same document with flat data and its datatype spelled out. -/
structure Canonical (doc doc' : TensorDocument) : Prop where
  name : doc'.name = doc.name
  shape : doc'.shape = doc.shape
  datatype : doc'.datatype = some doc.tag
  data : ∃ ns : List Number, doc'.data = .array (ns.map .number)

theorem built_of_toTensor (h : doc.toTensor = .ok t) : t.Built := by
  rw [toTensor_eq] at h
  obtain ⟨d, -, h⟩ := bind_eq_ok_iff.1 h
  obtain ⟨shape, hshape, h⟩ := bind_eq_ok_iff.1 h
  obtain ⟨ns, -, h⟩ := bind_eq_ok_iff.1 h
  obtain ⟨vs, -, hmake⟩ := bind_eq_ok_iff.1 h
  obtain ⟨-, rfl⟩ := Tensor.make_eq_ok_iff.1 hmake
  exact ⟨doc.shape, shape, hshape, hmake⟩

/-- The values that are not finite are those of the numbers past the singles, read as singles. -/
theorem firstAt_floats_iff {ns : List Number} {vs : Values} (hproper : ∀ n ∈ ns, n.Proper)
    (h : Reads ns vs) {i : Nat} {x : Double} :
    FirstAt (fun y => y.isFinite = false) vs.floats i x ↔ vs.datatype = .fp32 ∧
      ∃ n, (Single.ofDouble n.toDouble).widen = x ∧ FirstAt Number.PastSingles ns i n := by
  cases vs with
  | fp32 vs =>
    obtain rfl : vs = _ := h
    have hpast : ∀ n ∈ ns, (Single.ofDouble n.toDouble).widen.isFinite = false ↔ n.PastSingles := by
      intro n hn
      rw [Single.isFinite_widen, ← Bool.not_eq_true, Number.isFinite_ofDouble_iff (hproper n hn),
        not_not]
    rw [Values.floats, List.map_map, firstAt_map_iff, Values.datatype, and_iff_right rfl]
    exact exists_congr fun n => and_congr_right fun _ =>
      ⟨fun hfirst => hfirst.congr hpast, fun hfirst => hfirst.congr fun m hm => (hpast m hm).symm⟩
  | fp64 vs =>
    obtain rfl : vs = _ := h
    refine iff_of_false (fun hfirst => ?_) fun hsingle => by cases hsingle.1
    obtain ⟨n, rfl, hlost⟩ := firstAt_map_iff.1 hfirst
    have hinfinite := hlost.holds
    rw [Number.isFinite_toDouble (hproper n hlost.mem)] at hinfinite
    cases hinfinite
  | int32 ks =>
    exact iff_of_false (fun hfirst => by cases hfirst.mem) fun hsingle => by cases hsingle.1
  | int64 ks =>
    exact iff_of_false (fun hfirst => by cases hfirst.mem) fun hsingle => by cases hsingle.1

/-- The floating point values that are read are finite exactly when no number is past the
singles. -/
theorem finite_iff_inRange (hproper : doc.data.Proper) (h : doc.toTensor = .ok t) :
    t.values.Finite ↔ doc.InRange := by
  obtain ⟨-, htag, -, ns, hns, hreads⟩ := holds_of_toTensor hproper h
  have hnsproper := proper_of_leaves_eq hproper hns
  rw [Values.finite_iff]
  constructor
  · intro hfinite hsingle n hn hpast
    have hdatatype : t.values.datatype = .fp32 := Datatype.tag_injective (htag.trans hsingle)
    have hmem : n ∈ ns := by
      rw [hns] at hn
      exact (List.mem_map_of_injective fun _ _ => Value.number.inj).1 hn
    obtain ⟨i, m, hfirst⟩ := exists_firstAt ⟨n, hmem, hpast⟩
    have hlost := (firstAt_floats_iff hnsproper hreads).2 ⟨hdatatype, m, rfl, hfirst⟩
    have hinfinite := hlost.holds
    rw [hfinite _ hlost.mem] at hinfinite
    cases hinfinite
  · intro hrange
    by_contra hfinite
    have hlost : ∃ x ∈ t.values.floats, x.isFinite = false := by simpa using hfinite
    obtain ⟨i, x, hfirst⟩ := exists_firstAt hlost
    obtain ⟨hdatatype, n, -, hpast⟩ := (firstAt_floats_iff hnsproper hreads).1 hfirst
    have hsingle : doc.tag = "FP32" := htag.symm.trans (congrArg Datatype.tag hdatatype)
    exact hrange hsingle n (hns ▸ List.mem_map_of_mem hpast.mem) hpast.holds

theorem canonical_of_ofTensor {doc' : TensorDocument} (hproper : doc.data.Proper)
    (h : doc.toTensor = .ok t) (h' : ofTensor t = .ok doc') : doc.Canonical doc' := by
  obtain ⟨hname, htag, hshape, -⟩ := holds_of_toTensor hproper h
  obtain ⟨ns, hns, -⟩ := valuesToJson_of_finite t.name (exists_ofTensor_iff.1 ⟨doc', h'⟩)
  rw [ofTensor, hns] at h'
  cases h'
  exact ⟨hname, hshape, congrArg some htag, ns, rfl⟩

/-- Where a tensor that was read has no document, a number past the singles was read as an
infinity. The first of them is named. -/
theorem pastSingles_of_ofTensor_eq_error {e : Error} (hproper : doc.data.Proper)
    (h : doc.toTensor = .ok t) (h' : ofTensor t = .error e) :
    ∃ ns i n negative, doc.tag = "FP32" ∧ doc.data.leaves = ns.map .number ∧
      FirstAt Number.PastSingles ns i n ∧
      e = .unsupported (.nonFinite doc.name (.infinity negative) i) := by
  obtain ⟨i, x, hfirst, rfl⟩ := valuesToJson_eq_error_iff.1 (ofTensor_eq_error_iff.1 h')
  obtain ⟨hname, htag, -, ns, hns, hreads⟩ := holds_of_toTensor hproper h
  have hnsproper := proper_of_leaves_eq hproper hns
  obtain ⟨hdatatype, n, rfl, hpast⟩ := (firstAt_floats_iff hnsproper hreads).1 hfirst
  obtain ⟨negative, hinfinity⟩ := hpast.holds.widen_ofDouble (hnsproper n hpast.mem)
  have hsingle : doc.tag = "FP32" := htag.symm.trans (congrArg Datatype.tag hdatatype)
  rw [hname, hinfinity]
  exact ⟨ns, i, n, negative, hsingle, hns, hpast, rfl⟩

/-- **Documents written again.** A tensor that was read from a document holds an infinity exactly
when the document holds singles and has a number past them; such a tensor has no document, and the
first such number is named. Any other has one, flat and with its datatype spelled out, and is read
back from it as it was. -/
theorem ofTensor_of_toTensor (hproper : doc.data.Proper) (h : doc.toTensor = .ok t) :
    (t.values.Finite ↔ doc.InRange) ∧
    ((∃ doc', ofTensor t = .ok doc') ↔ doc.InRange) ∧
    (∀ doc', ofTensor t = .ok doc' → doc.Canonical doc' ∧ doc'.toTensor = .ok t) ∧
    ∀ e, ofTensor t = .error e → ∃ ns i n negative, doc.tag = "FP32" ∧
      doc.data.leaves = ns.map .number ∧ FirstAt Number.PastSingles ns i n ∧
      e = .unsupported (.nonFinite doc.name (.infinity negative) i) := by
  have hfinite := finite_iff_inRange hproper h
  refine ⟨hfinite, exists_ofTensor_iff.trans hfinite, fun doc' h' => ⟨?_, ?_⟩, fun e h' => ?_⟩
  · exact canonical_of_ofTensor hproper h h'
  · rw [toTensor_of_ofTensor h', (built_of_toTensor h).received]
  · exact pastSingles_of_ofTensor_eq_error hproper h h'

/-- One tenth and an integer under a nesting, written flat; and `1e39` behind a one. -/
theorem ofTensor_of_toTensor_nested :
    let nested : TensorDocument := ⟨"p", [2, 1], some "FP32",
      .array [.array [.double ⟨0x3fb999999999999a⟩], .array [.int 3]]⟩
    let t : Tensor := ⟨"p", ⟨[2, 1]⟩, .fp32 [⟨0x3dcccccd⟩, ⟨0x40400000⟩]⟩
    let far : TensorDocument := ⟨"q", [2], some "FP32",
      .array [.int 1, .double ⟨0x48078287f49c4a1d⟩]⟩
    let t' : Tensor := ⟨"q", ⟨[2]⟩, .fp32 [⟨0x3f800000⟩, ⟨0x7f800000⟩]⟩
    (nested.data.Proper ∧ nested.toTensor = .ok t ∧ nested.InRange ∧
      ∃ doc', ofTensor t = .ok doc' ∧ nested.Canonical doc' ∧ doc'.toTensor = .ok t) ∧
    far.data.Proper ∧ far.toTensor = .ok t' ∧ ¬far.InRange ∧
      ofTensor t' = .error (.unsupported (.nonFinite "q" (.infinity false) 1)) ∧
      ∃ ns n, far.data.leaves = ns.map .number ∧ FirstAt Number.PastSingles ns 1 n := by
  intro nested t far t'
  have hnested : nested.data.Proper := by decide
  have hread : nested.toTensor = .ok t := rfl
  obtain ⟨hfinite, hexists, hcanonical, -⟩ := ofTensor_of_toTensor hnested hread
  have hrange : nested.InRange := hfinite.1 (by decide)
  obtain ⟨doc', hdoc'⟩ := hexists.2 hrange
  have hfar : far.data.Proper := by decide
  have hread' : far.toTensor = .ok t' := rfl
  obtain ⟨hfinite', -, -, herror⟩ := ofTensor_of_toTensor hfar hread'
  have hinfinite : ¬t'.values.Finite := by decide
  have hrefused : ofTensor t' = .error (.unsupported (.nonFinite "q" (.infinity false) 1)) := rfl
  obtain ⟨ns, i, n, negative, -, hns, hfirst, he⟩ := herror _ hrefused
  rw [Error.unsupported.injEq, Unsupported.nonFinite.injEq] at he
  obtain rfl : 1 = i := he.2.2
  exact ⟨⟨hnested, hread, hrange, doc', hdoc', hcanonical doc' hdoc'⟩, hfar, hread',
    fun h => hinfinite (hfinite'.2 h), hrefused, ns, n, hns, hfirst⟩

/-- Not all that is read is finite: `1e39` is read as a single, and the tensor has no document. -/
theorem not_all_finite :
    ¬∀ (doc : TensorDocument) (t : Tensor), doc.data.Proper → doc.toTensor = .ok t →
      t.values.Finite ∧ ∃ doc', ofTensor t = .ok doc' ∧ doc'.toTensor = .ok t := by
  intro h
  let doc : TensorDocument := ⟨"p", [1], some "FP32", .array [.double ⟨0x48078287f49c4a1d⟩]⟩
  have haccepted : doc.toTensor = .ok ⟨"p", ⟨[1]⟩, .fp32 [⟨0x7f800000⟩]⟩ := rfl
  obtain ⟨hfinite, -⟩ := h doc _ (by decide) haccepted
  exact absurd hfinite (by decide)

end Rest.TensorDocument

end ModelProbe

import ModelProbe.Proofs.Rest.Document

/-! Tensors there and back.

A tensor has a document exactly when its floating point values are finite; otherwise the refusal
names the first that is not (`valuesToJson_eq_error_iff`). The document of a tensor that was built
is read as that tensor: its name, its dimensions, its datatype and every value, bit for bit
(`ofTensor_toTensor`). -/
namespace ModelProbe

/-- The floating point values as doubles. -/
def Values.floats : Values → List Double
  | fp32 vs => vs.map Single.widen
  | fp64 vs => vs
  | int32 _ | int64 _ => []

theorem Values.finite_iff {vs : Values} : vs.Finite ↔ ∀ x ∈ vs.floats, x.isFinite = true := by
  cases vs with
  | fp32 vs => simp [Values.Finite, Values.floats, Single.isFinite_widen]
  | fp64 vs => rfl
  | int32 vs => simp [Values.Finite, Values.floats]
  | int64 vs => simp [Values.Finite, Values.floats]

namespace Rest

/-! ### Refusals -/

/-- Doubles have no JSON when one of them is not finite, and the first such is named. -/
theorem floatsToJson_eq_error_iff {name : String} {xs : List Double} {e : Error} :
    floatsToJson name xs = .error e ↔
      ∃ i x, FirstAt (fun y => y.isFinite = false) xs i x ∧
        e = .unsupported (.nonFinite name x i) := by
  have hplace : ∀ (i : Nat) (p : Double × Nat),
      FirstAt (fun q => q.1.isFinite = false) xs.zipIdx i p ↔
        p.2 = i ∧ FirstAt (fun y => y.isFinite = false) xs i p.1 :=
    fun _ _ => firstAt_zipIdx_iff (P := fun y : Double => y.isFinite = false)
  rw [floatsToJson, mapM_eq_error_iff_firstAt (P := fun p => p.1.isFinite = false)
    (g := fun p => .unsupported (.nonFinite name p.1 p.2))]
  · constructor
    · rintro ⟨i, p, hfirst, rfl⟩
      obtain ⟨rfl, hfirst⟩ := (hplace i p).1 hfirst
      exact ⟨p.2, p.1, hfirst, rfl⟩
    · rintro ⟨i, x, hfirst, rfl⟩
      exact ⟨i, (x, i), (hplace i (x, i)).2 ⟨rfl, hfirst⟩, rfl⟩
  · intro p _ hp
    rw [Bool.not_eq_false] at hp
    exact ⟨_, if_pos hp⟩
  · intro p _ hp
    rw [← Bool.not_eq_true] at hp
    exact if_neg hp

/-- So have the values of a tensor; integers always have JSON. -/
theorem valuesToJson_eq_error_iff {name : String} {vs : Values} {e : Error} :
    valuesToJson name vs = .error e ↔ ∃ i x, FirstAt (fun y => y.isFinite = false) vs.floats i x ∧
      e = .unsupported (.nonFinite name x i) := by
  have hnone : ¬∃ i x, FirstAt (fun y : Double => y.isFinite = false) [] i x ∧
      e = .unsupported (.nonFinite name x i) := by
    rintro ⟨i, x, hfirst, -⟩
    cases hfirst.mem
  cases vs with
  | fp32 vs => exact floatsToJson_eq_error_iff
  | fp64 vs => exact floatsToJson_eq_error_iff
  | int32 vs => exact iff_of_false nofun hnone
  | int64 vs => exact iff_of_false nofun hnone

theorem ofTensor_eq_error_iff {t : Tensor} {e : Error} :
    TensorDocument.ofTensor t = .error e ↔ valuesToJson t.name t.values = .error e := by
  unfold TensorDocument.ofTensor
  cases valuesToJson t.name t.values with
  | error e' => simp [bind, Except.bind]
  | ok data => simp [bind, Except.bind, pure, Except.pure]

/-- The tensors that have a document. -/
theorem exists_ofTensor_iff {t : Tensor} :
    (∃ doc, TensorDocument.ofTensor t = .ok doc) ↔ t.values.Finite := by
  constructor
  · rintro ⟨doc, hdoc⟩
    by_contra hfinite
    have hlost : ∃ x ∈ t.values.floats, x.isFinite = false := by
      simpa [Values.finite_iff] using hfinite
    obtain ⟨i, x, hfirst⟩ := exists_firstAt hlost
    have herror := ofTensor_eq_error_iff.2 (valuesToJson_eq_error_iff.2 ⟨i, x, hfirst, rfl⟩)
    rw [hdoc] at herror
    cases herror
  · intro hfinite
    obtain ⟨doc, hdoc, -⟩ := ofTensor_carries hfinite
    exact ⟨doc, hdoc⟩

/-! ### Reading back -/

/-- The document of a tensor is read as what any receiver makes of the tensor. -/
theorem toTensor_of_ofTensor {t : Tensor} {doc : TensorDocument}
    (h : TensorDocument.ofTensor t = .ok doc) : doc.toTensor = t.received := by
  have hfinite := exists_ofTensor_iff.1 ⟨doc, h⟩
  obtain ⟨doc', hdoc', hcarries⟩ := ofTensor_carries hfinite
  obtain rfl : doc = doc' := Except.ok.inj (h.symm.trans hdoc')
  exact toTensor_of_carries hfinite hcarries

/-- **A tensor comes back from its document.** A tensor that was built has a document exactly when
its floating point values are finite, and the document is read as the same tensor. Otherwise the
first value that is not finite is named with its position. -/
theorem ofTensor_toTensor {t : Tensor} (ht : t.Built) :
    ((∃ doc, TensorDocument.ofTensor t = .ok doc) ↔ t.values.Finite) ∧
    (∀ doc, TensorDocument.ofTensor t = .ok doc → doc.toTensor = .ok t) ∧
    ∀ e, TensorDocument.ofTensor t = .error e →
      ∃ i x, FirstAt (fun y => y.isFinite = false) t.values.floats i x ∧
        e = .unsupported (.nonFinite t.name x i) := by
  refine ⟨exists_ofTensor_iff, fun doc h => ?_, fun e h => ?_⟩
  · rw [toTensor_of_ofTensor h, ht.received]
  · exact valuesToJson_eq_error_iff.1 (ofTensor_eq_error_iff.1 h)

/-- A negative zero, the least and the greatest single and one tenth, in three dimensions; the
extreme integers of 64 bits; and a NaN in front of an infinity. -/
theorem ofTensor_toTensor_extremes :
    let singles : Tensor := ⟨"p", ⟨[2, 1, 2]⟩, .fp32
      [⟨0x80000000⟩, ⟨0x00000001⟩, ⟨0x7f7fffff⟩, ⟨0x3dcccccd⟩]⟩
    let integers : Tensor := ⟨"n", ⟨[2]⟩, .int64 [Int64.minValue, Int64.maxValue]⟩
    let broken : Tensor := ⟨"b", ⟨[3]⟩, .fp64
      [⟨0x3ff0000000000000⟩, ⟨0x7ff8000000000000⟩, ⟨0x7ff0000000000000⟩]⟩
    (singles.Built ∧ ∃ doc, TensorDocument.ofTensor singles = .ok doc ∧
      doc.toTensor = .ok singles) ∧
    (integers.Built ∧ ∃ doc, TensorDocument.ofTensor integers = .ok doc ∧
      doc.toTensor = .ok integers) ∧
    broken.Built ∧
      TensorDocument.ofTensor broken =
        .error (.unsupported (.nonFinite "b" ⟨0x7ff8000000000000⟩ 1)) ∧
      FirstAt (fun y => y.isFinite = false) broken.values.floats 1 ⟨0x7ff8000000000000⟩ := by
  intro singles integers broken
  have hsingles : singles.Built := ⟨[2, 1, 2], ⟨[2, 1, 2]⟩, rfl, rfl⟩
  have hintegers : integers.Built := ⟨[2], ⟨[2]⟩, rfl, rfl⟩
  have hbroken : broken.Built := ⟨[3], ⟨[3]⟩, rfl, rfl⟩
  obtain ⟨hexists, hback, -⟩ := ofTensor_toTensor hsingles
  obtain ⟨doc, hdoc⟩ := hexists.2 (by decide)
  obtain ⟨hexists', hback', -⟩ := ofTensor_toTensor hintegers
  obtain ⟨doc', hdoc'⟩ := hexists'.2 (by decide)
  have herror : TensorDocument.ofTensor broken =
      .error (.unsupported (.nonFinite "b" ⟨0x7ff8000000000000⟩ 1)) := rfl
  obtain ⟨-, -, hrefused⟩ := ofTensor_toTensor hbroken
  obtain ⟨i, x, hfirst, he⟩ := hrefused _ herror
  cases he
  exact ⟨⟨hsingles, doc, hdoc, hback doc hdoc⟩, ⟨hintegers, doc', hdoc', hback' doc' hdoc'⟩,
    hbroken, herror, hfirst⟩

end Rest

end ModelProbe

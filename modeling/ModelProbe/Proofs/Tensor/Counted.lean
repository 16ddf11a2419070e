import Mathlib.Algebra.BigOperators.Ring.List
import Mathlib.Algebra.Order.BigOperators.GroupWithZero.List
import ModelProbe.Grpc.Message
import ModelProbe.Proofs.Codec.RoundTrip
import ModelProbe.Proofs.Tensor
import ModelProbe.Rest.Document

/-! Only counted tensors get in.

A tensor is `Counted` when it holds as many values as its dimensions multiply to, also when they
are multiplied in machine words, and when no product on the way leaves the word, neither over all
dimensions nor over all but the first. The gate of `Shape.ofWire` looks at the dimensions that are
not zero, in any order; `product_le_extent` makes a bound on every other product from it, wherever
zeros stand. Whatever is encoded, and whatever either protocol's answer is read as, is counted and
has the name, the dimensions and the datatype that were declared (`counted_of_accepted`). -/
namespace ModelProbe

/-! ### Products of dimensions -/

namespace Shape

/-- The product as a machine forms it: from the left, in words of 64 bits that wrap around. -/
def wordProduct (dims : List Nat) : UInt64 :=
  dims.foldl (fun n d => n * UInt64.ofNat d) 1

/-- No product of the first so many dimensions leaves the machine word. -/
def Unwrapped (dims : List Nat) : Prop :=
  ∀ k, product (dims.take k) < UInt64.size

theorem product_eq_prod (dims : List Nat) : product dims = dims.prod := rfl

/-- A zero makes a product zero; without one it is all of the extent. -/
theorem product_le_extent (dims : List Nat) : product dims ≤ extent dims := by
  by_cases hzero : 0 ∈ dims
  · rw [product_eq_prod, List.prod_eq_zero hzero]
    exact Nat.zero_le _
  · have hall : dims.filter (· ≠ 0) = dims := by
      refine List.filter_eq_self.2 fun d hd => ?_
      simpa using fun h : d = 0 => hzero (h ▸ hd)
    rw [extent, hall]

/-- Fewer dimensions have no greater extent. -/
theorem extent_mono {some all : List Nat} (h : some.Sublist all) : extent some ≤ extent all := by
  induction h with
  | slnil => exact Nat.le_refl _
  | @cons some all d _ ih =>
    by_cases hd : d = 0
    · have hskip : extent (d :: all) = extent all := by simp [extent, hd]
      rw [hskip]
      exact ih
    · have htake : extent (d :: all) = d * extent all := by simp [extent, hd, product]
      rw [htake]
      exact ih.trans (Nat.le_mul_of_pos_left _ (Nat.pos_of_ne_zero hd))
  | @cons_cons some all d _ ih =>
    by_cases hd : d = 0
    · simpa [extent, hd] using ih
    · simpa [extent, hd, product] using Nat.mul_le_mul_left d ih

/-- A bound on the extent bounds the products of any dimensions that are among them. -/
theorem unwrapped_of_sublist {some all : List Nat} (h : some.Sublist all)
    (hextent : extent all < UInt64.size) : Unwrapped some := by
  intro k
  calc product (some.take k) ≤ extent (some.take k) := product_le_extent _
    _ ≤ extent all := extent_mono ((List.take_sublist k some).trans h)
    _ < UInt64.size := hextent

/-- Where nothing wraps around, the product in words is the exact one. -/
theorem toNat_wordProduct {dims : List Nat} (h : Unwrapped dims) :
    (wordProduct dims).toNat = product dims := by
  induction dims using List.reverseRecOn with
  | nil => rfl
  | append_singleton dims d ih =>
    have hfront : Unwrapped dims := by
      intro k
      have hk := h (min k dims.length)
      rwa [List.take_append_of_le_length (Nat.min_le_right ..), ← List.take_take, List.take_length]
        at hk
    have hall : product dims * d < UInt64.size := by
      have hk := h (dims ++ [d]).length
      rwa [List.take_length, product_eq_prod, List.prod_append, List.prod_singleton] at hk
    have hstep : wordProduct (dims ++ [d]) = wordProduct dims * UInt64.ofNat d := by
      rw [wordProduct, List.foldl_append]
      rfl
    rw [hstep, UInt64.toNat_mul, ih hfront, UInt64.toNat_ofNat', Nat.mul_mod_mod, product_eq_prod,
      product_eq_prod, List.prod_append, List.prod_singleton]
    exact Nat.mod_eq_of_lt hall

/-- Rows times columns is the number of elements, for every rank. -/
theorem matrixDims_mul (s : Shape) : s.matrixDims.1 * s.matrixDims.2 = s.count := by
  obtain ⟨dims⟩ := s
  cases dims with
  | nil => rfl
  | cons rows rest => rw [matrixDims_cons]; rfl

/-- An array is held to half the bound of the gate. -/
theorem fits_iff {rows cols : Nat} :
    Matrix.fits rows cols = true ↔ extent [rows, cols] < 2 ^ 63 := by
  have hextent : extent [rows, cols] =
      (if rows = 0 then 1 else rows) * (if cols = 0 then 1 else cols) := by
    by_cases hr : rows = 0 <;> by_cases hc : cols = 0 <;> simp [extent, product, hr, hc]
  rw [hextent, Matrix.fits, decide_eq_true_iff]
  rfl

/-- What the gate lets through. -/
theorem ofWire_eq_ok {dims : List Int64} {s : Shape} (h : ofWire dims = .ok s) :
    (∀ d ∈ dims, 0 ≤ d) ∧ s.dims = dims.map Int64.toNatClampNeg ∧
      extent s.dims < UInt64.size := by
  unfold ofWire at h
  split at h
  · cases h
  rename_i hfind
  dsimp only at h
  split at h
  · rename_i hextent
    cases h
    exact ⟨fun d hd => by simpa using List.find?_eq_none.1 hfind d hd, rfl,
      isSome_checkedExtent?_iff.1 hextent⟩
  · cases h

/-- The exact product of dimensions that are not negative. -/
theorem prod_toInt {dims : List Int64} (h : ∀ d ∈ dims, 0 ≤ d) :
    (dims.map Int64.toInt).prod = (product (dims.map Int64.toNatClampNeg) : Int) := by
  induction dims with
  | nil => rfl
  | cons d dims ih =>
    obtain ⟨hd, hdims⟩ := List.forall_mem_cons.1 h
    have hsame : (d.toNatClampNeg : Int) = d.toInt := by
      rw [Int64.toNatClampNeg, Int.toNat_of_nonneg (Int64.le_iff_toInt_le.1 hd)]
    rw [List.map_cons, List.prod_cons, ih hdims, List.map_cons, ← hsame]
    exact (Int.natCast_mul ..).symm

end Shape

/-! ### Datatypes -/

theorem Datatype.tag_of_parse {tag : String} {d : Datatype} (h : parse tag = .ok d) :
    d.tag = tag := by
  unfold parse at h
  split at h
  · rename_i htag
    cases h
    unfold ofTag? at htag
    split at htag <;> cases htag <;> rfl
  · cases h

namespace Rest

/-- Numbers are read as values of the datatype asked for. -/
theorem datatype_of_valuesOfJson {name : String} {ns : List Json.Number} {d : Datatype}
    {vs : Values} (h : valuesOfJson name ns d = .ok vs) : vs.datatype = d := by
  cases d with
  | fp32 => cases h; rfl
  | fp64 => cases h; rfl
  | int32 =>
    unfold valuesOfJson at h
    cases hread : ns.mapM (integer32 name) with
    | error e => rw [hread] at h; cases h
    | ok ks => rw [hread] at h; cases h; rfl
  | int64 =>
    unfold valuesOfJson at h
    cases hread : ns.mapM (integer64 name .int64) with
    | error e => rw [hread] at h; cases h
    | ok ks => rw [hread] at h; cases h; rfl

end Rest

namespace Grpc

theorem datatype_values (c : Contents) (d : Datatype) : (c.values d).datatype = d := by
  cases d <;> rfl

theorem datatype_of_typedValues {name : String} {d : Datatype} {c : Contents} {vs : Values}
    (h : typedValues name d c = .ok vs) : vs.datatype = d := by
  unfold typedValues at h
  split at h
  · cases h
  · cases h
    exact datatype_values c d

theorem datatype_of_rawValues {name : String} {d : Datatype} {raw : Wire.Bytes} {vs : Values}
    (h : rawValues name d raw = .ok vs) : vs.datatype = d := by
  unfold rawValues at h
  split at h
  · cases h
    cases d <;> rfl
  · cases h

end Grpc

/-! ### Tensors -/

namespace Tensor

/-- The values are as many as the dimensions ask for, exactly and in machine words. -/
structure Counted (t : Tensor) : Prop where
  count : t.values.length = Shape.product t.shape.dims
  rows_cols : t.shape.matrixDims.1 * t.shape.matrixDims.2 = t.values.length
  unwrapped : Shape.Unwrapped t.shape.dims
  /-- The columns of the matrix are all dimensions but the first. -/
  unwrapped_rest : Shape.Unwrapped t.shape.dims.tail
  count_in_words : (Shape.wordProduct t.shape.dims).toNat = t.values.length
  cols_in_words : (Shape.wordProduct t.shape.dims.tail).toNat = t.shape.matrixDims.2

/-- What was declared of a tensor on the wire. -/
structure Declared (t : Tensor) (name tag : String) (dims : List Int64) : Prop where
  name : t.name = name
  tag : t.datatype.tag = tag
  shape : t.shape.toWire = dims
  nonneg : ∀ d ∈ dims, 0 ≤ d
  count : (t.values.length : Int) = (dims.map Int64.toInt).prod

/-- A bound on the extent is all it takes. -/
theorem counted_of_make {name : String} {shape : Shape} {values : Values} {t : Tensor}
    (h : make name shape values = .ok t) (hextent : Shape.extent shape.dims < UInt64.size) :
    t.Counted := by
  obtain ⟨hcount, rfl⟩ := make_eq_ok_iff.1 h
  have hall : Shape.Unwrapped shape.dims := Shape.unwrapped_of_sublist (.refl _) hextent
  have hrest : Shape.Unwrapped shape.dims.tail :=
    Shape.unwrapped_of_sublist (List.tail_sublist _) hextent
  refine ⟨hcount.symm, (Shape.matrixDims_mul shape).trans hcount, hall, hrest,
    (Shape.toNat_wordProduct hall).trans hcount, ?_⟩
  rw [Shape.toNat_wordProduct hrest, Shape.snd_matrixDims]

/-- A tensor made of dimensions from the wire is counted, and what was declared of it holds. -/
theorem counted_of_wire {name tag : String} {d : Datatype} {dims : List Int64} {shape : Shape}
    {values : Values} {t : Tensor} (htag : Datatype.parse tag = .ok d)
    (hshape : Shape.ofWire dims = .ok shape) (hvalues : values.datatype = d)
    (h : make name shape values = .ok t) : t.Counted ∧ t.Declared name tag dims := by
  obtain ⟨hnonneg, hdims, hextent⟩ := Shape.ofWire_eq_ok hshape
  have hcounted := counted_of_make h hextent
  obtain ⟨-, rfl⟩ := make_eq_ok_iff.1 h
  refine ⟨hcounted, rfl, ?_, Shape.toWire_of_ofWire hshape, hnonneg, ?_⟩
  · rw [datatype, hvalues, Datatype.tag_of_parse htag]
  · rw [Shape.prod_toInt hnonneg, ← hdims, hcounted.count]

end Tensor

/-! ### The three ways in -/

/-- The precision values are sent at when the codec does not say. -/
def ModelInput.precision : ModelInput → Datatype
  | fp32 _ => .fp32
  | fp64 _ | table _ => .fp64

theorem ModelInput.datatype_of_values {input : ModelInput} {vs : Values}
    (h : input.values = .ok vs) : vs.datatype = input.precision := by
  cases input with
  | fp32 m => cases h; rfl
  | fp64 m => cases h; rfl
  | table t =>
    cases hm : t.toMatrix with
    | error e => simp only [values, hm] at h; cases h
    | ok m => simp only [values, hm] at h; cases h; rfl

/-- What is encoded of an input that an array can hold. -/
theorem Codec.counted_of_encode {c : Codec} {input : ModelInput} {t : Tensor}
    (hfits : Matrix.fits input.dims.1 input.dims.2 = true) (h : c.encode input = .ok t) :
    t.Counted ∧ t.name = c.inputName ∧ t.shape.dims = [input.dims.1, input.dims.2] ∧
      t.datatype = c.datatype.getD input.precision := by
  rw [encode_eq] at h
  obtain ⟨vs, hvs, h⟩ := bind_eq_ok_iff.1 h
  obtain ⟨ws, hws, h⟩ := bind_eq_ok_iff.1 h
  have hextent : Shape.extent [input.dims.1, input.dims.2] < UInt64.size :=
    Nat.lt_trans (Shape.fits_iff.1 hfits) (by decide)
  have hcounted := Tensor.counted_of_make h hextent
  obtain ⟨-, rfl⟩ := Tensor.make_eq_ok_iff.1 h
  refine ⟨hcounted, rfl, rfl, ?_⟩
  rw [← ModelInput.datatype_of_values hvs]
  exact (cast_eq_ok hws).1

theorem Rest.counted_of_toTensor {doc : TensorDocument} {t : Tensor} (h : doc.toTensor = .ok t) :
    t.Counted ∧ t.Declared doc.name (doc.datatype.getD "FP64") doc.shape := by
  have htag : doc.datatype.elim (pure .fp64) Datatype.parse =
      Datatype.parse (doc.datatype.getD "FP64") := by
    cases doc.datatype <;> rfl
  rw [TensorDocument.toTensor, htag] at h
  obtain ⟨d, hd, h⟩ := bind_eq_ok_iff.1 h
  obtain ⟨shape, hshape, h⟩ := bind_eq_ok_iff.1 h
  obtain ⟨ns, -, h⟩ := bind_eq_ok_iff.1 h
  obtain ⟨vs, hvalues, h⟩ := bind_eq_ok_iff.1 h
  exact Tensor.counted_of_wire hd hshape (datatype_of_valuesOfJson hvalues) h

theorem Grpc.counted_of_outputTensor {raw : List Wire.Bytes} {position : Nat}
    {output : TensorMessage} {t : Tensor} (h : outputTensor raw position output = .ok t) :
    t.Counted ∧ t.Declared output.name output.datatype output.shape := by
  unfold outputTensor at h
  obtain ⟨d, hd, h⟩ := bind_eq_ok_iff.1 h
  obtain ⟨shape, hshape, h⟩ := bind_eq_ok_iff.1 h
  -- The values come from the raw buffer at the position, or from the typed lists.
  split at h
  · obtain ⟨vs, hvalues, h⟩ := bind_eq_ok_iff.1 h
    exact Tensor.counted_of_wire hd hshape (datatype_of_typedValues hvalues) h
  · split at h
    · obtain ⟨vs, hvalues, h⟩ := bind_eq_ok_iff.1 h
      exact Tensor.counted_of_wire hd hshape (datatype_of_rawValues hvalues) h
    · cases h

/-- **No tensor gets in uncounted.** -/
theorem counted_of_accepted :
    (∀ (c : Codec) (input : ModelInput) (t : Tensor),
      Matrix.fits input.dims.1 input.dims.2 = true → c.encode input = .ok t →
      t.Counted ∧ t.name = c.inputName ∧ t.shape.dims = [input.dims.1, input.dims.2] ∧
        t.datatype = c.datatype.getD input.precision) ∧
    (∀ (doc : Rest.ResponseDocument) (r : InferResponse), doc.toResponse = .ok r →
      List.Forall₂ (fun d t => t.Counted ∧ t.Declared d.name (d.datatype.getD "FP64") d.shape)
        doc.outputs r.outputs) ∧
    (∀ (m : Grpc.ResponseMessage) (r : InferResponse), m.toResponse = .ok r →
      List.Forall₂ (fun o t => t.Counted ∧ t.Declared o.name o.datatype o.shape)
        m.outputs r.outputs) := by
  refine ⟨fun c input t hfits h => Codec.counted_of_encode hfits h, fun doc r h => ?_,
    fun m r h => ?_⟩
  · obtain ⟨outputs, houtputs, h⟩ := bind_eq_ok_iff.1 h
    cases h
    exact (mapM_eq_ok_iff.1 houtputs).imp fun _ _ => Rest.counted_of_toTensor
  · obtain ⟨outputs, houtputs, h⟩ := bind_eq_ok_iff.1 h
    cases h
    exact forall₂_of_mapM_zipIdx_eq_ok houtputs fun _ _ _ => Grpc.counted_of_outputTensor

/-- Zeros between dimensions that multiply to just below the word, a scalar, a raw buffer, and a
table without rows beside one of two rows. -/
theorem counted_of_accepted_zeros :
    let doc : Rest.ResponseDocument := ⟨"m", none, none,
      [⟨"wide", [4294967296, 0, 4294967295, 0], none, .array [.array []]⟩,
        ⟨"scalar", [], some "INT32", .int (-5)⟩]⟩
    let m : Grpc.ResponseMessage := {
      outputs := [⟨"raw", "FP32", [1, 2, 1], none⟩]
      rawContents := [[0, 0, 128, 63, 0, 0, 0, 128]] }
    let input : ModelInput := .table ⟨[⟨"a", []⟩, ⟨"b", []⟩], 0⟩
    let filled : ModelInput := .table ⟨[⟨"a", [.number (.ofNat 3), .number (.ofNat 1)]⟩,
      ⟨"b", [.number (.ofNat 2), .number (.ofNat 5)]⟩], 2⟩
    (∃ t, Codec.default.encode input = .ok t ∧ t.Counted ∧ t.shape.dims = [0, 2]) ∧
    (∃ t, Codec.default.encode filled = .ok t ∧ t.Counted ∧ t.shape.dims = [2, 2]) ∧
    (∃ wide scalar, doc.toResponse = .ok ⟨"m", none, none, [wide, scalar]⟩ ∧
      wide.Counted ∧ wide.Declared "wide" "FP64" [4294967296, 0, 4294967295, 0] ∧
      scalar.Counted ∧ scalar.Declared "scalar" "INT32" []) ∧
    ∃ raw, m.toResponse = .ok ⟨"", none, none, [raw]⟩ ∧
      raw.Counted ∧ raw.Declared "raw" "FP32" [1, 2, 1] := by
  intro doc m input filled
  have hencode : Codec.default.encode input = .ok ⟨"input", ⟨[0, 2]⟩, .fp64 []⟩ := rfl
  have hfilled : Codec.default.encode filled = .ok ⟨"input", ⟨[2, 2]⟩,
      .fp64 [.ofNat 3, .ofNat 2, .ofNat 1, .ofNat 5]⟩ := rfl
  have hdoc : doc.toResponse = .ok ⟨"m", none, none,
      [⟨"wide", ⟨[4294967296, 0, 4294967295, 0]⟩, .fp64 []⟩, ⟨"scalar", ⟨[]⟩, .int32 [-5]⟩]⟩ := rfl
  have hm : m.toResponse = .ok ⟨"", none, none,
      [⟨"raw", ⟨[1, 2, 1]⟩, .fp32 [⟨0x3f800000⟩, ⟨0x80000000⟩]⟩]⟩ := by cbv
  obtain ⟨hinput, hdocument, hmessage⟩ := counted_of_accepted
  refine ⟨⟨_, hencode, (hinput _ _ _ (by decide) hencode).1, rfl⟩,
    ⟨_, hfilled, (hinput _ _ _ (by decide) hfilled).1, rfl⟩, ?_, ?_⟩
  · obtain _ | ⟨⟨hwide, hwide'⟩, _ | ⟨⟨hscalar, hscalar'⟩, -⟩⟩ := hdocument doc _ hdoc
    exact ⟨_, _, hdoc, hwide, hwide', hscalar, hscalar'⟩
  · obtain _ | ⟨⟨hraw, hraw'⟩, -⟩ := hmessage m _ hm
    exact ⟨_, hm, hraw, hraw'⟩

end ModelProbe

import ModelProbe.Tensor.Basic
import ModelProbe.Proofs.Binary.Widening
import ModelProbe.Proofs.Traversal

/-! Tensors on their way.

A tensor is sent as its name, its datatype's tag, its shape in signed dimensions and its values.
`Tensor.received` is what any receiver makes of the four: it checks the dimensions and counts the
values again. A tensor that was `Built` comes through this check unchanged. -/
namespace ModelProbe

theorem Datatype.parse_tag (d : Datatype) : Datatype.parse d.tag = .ok d := by
  cases d <;> rfl

/-! ### Shapes -/

namespace Shape

theorem toWire_of_ofWire {dims : List Int64} {s : Shape} (h : ofWire dims = .ok s) :
    s.toWire = dims := by
  unfold ofWire at h
  split at h
  · cases h
  rename_i hfind
  dsimp only at h
  split at h
  · cases h
    rw [toWire, List.map_map]
    refine (List.map_congr_left fun d hd => ?_).trans (List.map_id dims)
    have hd0 : 0 ≤ d := by simpa using List.find?_eq_none.1 hfind d hd
    exact Int64.ofNat_toNatClampNeg d hd0
  · cases h

/-- A shape that passed the gate passes it again. -/
theorem ofWire_toWire {dims : List Int64} {s : Shape} (h : ofWire dims = .ok s) :
    ofWire s.toWire = .ok s := by
  rw [toWire_of_ofWire h, h]

end Shape

/-! ### Values -/

/-- Values without infinities and NaNs. -/
def Values.Finite : Values → Prop
  | fp32 vs => ∀ x ∈ vs, x.isFinite = true
  | fp64 vs => ∀ x ∈ vs, x.isFinite = true
  | int32 _ | int64 _ => True

instance : DecidablePred Values.Finite
  | .fp32 vs => inferInstanceAs (Decidable (∀ x ∈ vs, x.isFinite = true))
  | .fp64 vs => inferInstanceAs (Decidable (∀ x ∈ vs, x.isFinite = true))
  | .int32 _ | .int64 _ => .isTrue trivial

/-! ### Tensors -/

namespace Tensor

/-- Made of dimensions from outside and as many values as they ask for. -/
def Built (t : Tensor) : Prop :=
  ∃ dims shape, Shape.ofWire dims = .ok shape ∧ make t.name shape t.values = .ok t

/-- A tensor as it is read from the dimensions and the values sent. -/
def received (t : Tensor) : Except Error Tensor := do
  make t.name (← Shape.ofWire t.shape.toWire) t.values

theorem make_eq_ok_iff {name : String} {shape : Shape} {values : Values} {t : Tensor} :
    make name shape values = .ok t ↔ shape.count = values.length ∧ t = ⟨name, shape, values⟩ := by
  unfold make
  split
  · rename_i hcount
    rw [Except.ok.injEq, eq_comm]
    exact (and_iff_right hcount).symm
  · rename_i hcount
    simp [hcount]

theorem Built.received {t : Tensor} (h : t.Built) : t.received = .ok t := by
  obtain ⟨dims, shape, hshape, hmake⟩ := h
  obtain ⟨-, ht⟩ := make_eq_ok_iff.1 hmake
  have hsame : t.shape = shape := by rw [ht]
  rw [Tensor.received, hsame, Shape.ofWire_toWire hshape]
  exact hmake

/-- Tensors that were built arrive as they are. -/
theorem mapM_received {ts : List Tensor} (h : ∀ t ∈ ts, t.Built) :
    ts.mapM Tensor.received = .ok ts := by
  rw [mapM_eq_ok_iff]
  exact List.forall₂_same.2 fun t ht => (h t ht).received

end Tensor

end ModelProbe

import ModelProbe.Rest.Document
import ModelProbe.Proofs.Binary.Range
import ModelProbe.Proofs.Traversal

/-! The numbers of JSON.

A number is `Proper` when it is an integer that fits 64 bits, with a sign or without, or a finite
double. Whatever digits a literal has, the number it is read as is proper: the digits that are kept
fit 64 bits, and powers of ten divide them or are checked afterwards (`proper_of_number?`). So every
number among the leaves of a value read from text is proper (`proper_of_value?`), and so are the
data of every output of a document (`proper_of_parse?`). -/
namespace ModelProbe

namespace Double

theorem isFinite_ofNat_power {k : Int} (hk : k ≤ 308) :
    (ofNat (Binary.power 10 k)).isFinite = true := by
  refine (isFinite_nearest_one_iff false).2 ?_
  have hpower : 10 ^ k.toNat ≤ 10 ^ 308 :=
    pow_le_pow_right₀ (Nat.succ_pos 9) (Int.toNat_le.2 hk)
  exact (Nat.add_le_add_right hpower _).trans_lt (by decide +kernel)

/-- Division by a power of ten that doubles reach. -/
theorem isFinite_div_power {x : Double} (hx : x.isFinite = true) {k : Int} (hk : k ≤ 308) :
    (x.div (.ofNat (Binary.power 10 k))).isFinite = true :=
  isFinite_div hx (one_le_value_ofNat (Nat.pow_pos (by omega)) (isFinite_ofNat_power hk))

end Double

namespace Json

/-! ### Literals -/

/-- An integer of 64 bits, with a sign or without, or a finite double. -/
def Number.Proper : Number → Prop
  | .integer n => -2 ^ 63 ≤ n ∧ n < 2 ^ 64
  | .double x => x.isFinite = true

instance : DecidablePred Number.Proper
  | .integer n => inferInstanceAs (Decidable (-2 ^ 63 ≤ n ∧ n < 2 ^ 64))
  | .double x => inferInstanceAs (Decidable (x.isFinite = true))

theorem absorb_lt {n : Nat} (hn : n < UInt64.size) (cs : List Char) :
    (absorb n cs).1 < UInt64.size := by
  induction cs generalizing n with
  | nil => exact hn
  | cons c cs ih =>
    rw [absorb]
    split
    · rename_i hfits
      exact ih hfits
    · exact hn

/-- What is left after the divisions by `10 ^ 308`. -/
theorem lower_spec {x : Double} (hx : x.isFinite = true) (e : Int) :
    (lower x e).1.isFinite = true ∧ -308 ≤ (lower x e).2 := by
  fun_induction lower x e with
  | case1 x e _ _ => exact ⟨hx, by omega⟩
  | case2 x e _ _ ih => exact ih (Double.isFinite_div_power hx (by omega))
  | case3 x e h => exact ⟨hx, by omega⟩

theorem isFinite_of_scaleByTen {n : Nat} {e : Int} {x : Double} (hn : n < UInt64.size)
    (h : scaleByTen n e = some x) : x.isFinite = true := by
  have hfinite : (Double.ofNat n).isFinite = true :=
    (Double.isFinite_nearest_one_iff false).2
      ((Nat.add_lt_add_right hn _).trans (by decide +kernel))
  unfold scaleByTen at h
  dsimp only at h
  split at h
  · split at h
    · cases h
      exact hfinite
    · cases h
  · obtain ⟨hlow, hleast⟩ := lower_spec hfinite e
    split at h
    · cases h
      exact Double.isFinite_div_power hlow (by omega)
    · split at h
      · rename_i hproduct
        cases h
        exact hproduct
      · cases h

theorem Literal.isFinite_of_double? {l : Literal} {x : Double} (h : l.double? = some x) :
    x.isFinite = true := by
  unfold double? at h
  dsimp only at h
  obtain ⟨y, hy, rfl⟩ := Option.map_eq_some_iff.1 h
  have hfinite : y.isFinite = true := by
    split at hy
    · exact isFinite_of_scaleByTen (absorb_lt (absorb_lt (by decide) _) _) hy
    · split at hy
      · cases hy
      · cases hy
        decide
  split
  · rw [Double.isFinite_negate, hfinite]
  · exact hfinite

/-- **Literals are read as proper numbers.** -/
theorem Literal.proper_of_number? {l : Literal} {n : Number} (h : l.number? = some n) :
    n.Proper := by
  unfold number? at h
  dsimp only at h
  split at h
  · rename_i hwhole
    obtain ⟨-, -, hsize⟩ := hwhole
    cases h
    have : digitsValue l.whole < 2 ^ 64 := hsize
    exact ⟨by omega, by omega⟩
  · split at h
    · rename_i hwhole
      obtain ⟨-, -, -, hsize⟩ := hwhole
      cases h
      have : digitsValue l.whole ≤ 2 ^ 63 := hsize
      exact ⟨by omega, by omega⟩
    · obtain ⟨x, hx, rfl⟩ := Option.map_eq_some_iff.1 h
      exact isFinite_of_double? hx

/-! ### Values -/

/-- Whether a value is a proper number, or none. -/
def Value.ProperLeaf : Value → Prop
  | .number n => n.Proper
  | _ => True

instance : DecidablePred Value.ProperLeaf
  | .number n => inferInstanceAs (Decidable n.Proper)
  | .null | .bool _ | .string _ | .array _ | .object _ => .isTrue trivial

/-- The numbers among the leaves are proper. -/
def Value.Proper (v : Value) : Prop :=
  ∀ leaf ∈ v.leaves, leaf.ProperLeaf

instance : DecidablePred Value.Proper :=
  fun v => inferInstanceAs (Decidable (∀ leaf ∈ v.leaves, leaf.ProperLeaf))

mutual

/-- **Values are read with proper numbers.** -/
theorem proper_of_value? : {t : Tree} → {v : Value} → t.value? = some v → v.Proper
  | .null, _, h | .bool _, _, h => by
    cases h
    exact List.forall_mem_singleton.2 trivial
  | .number l, _, h => by
    obtain ⟨n, hn, rfl⟩ := Option.map_eq_some_iff.1 h
    exact List.forall_mem_singleton.2 (Literal.proper_of_number? hn)
  | .string s, _, h => by
    obtain ⟨s, -, rfl⟩ := Option.map_eq_some_iff.1 h
    exact List.forall_mem_singleton.2 trivial
  | .array items, _, h => by
    obtain ⟨vs, hvs, rfl⟩ := Option.map_eq_some_iff.1 h
    exact proper_of_itemValues? hvs
  | .object members, _, h => by
    obtain ⟨ms, -, rfl⟩ := Option.map_eq_some_iff.1 h
    exact List.forall_mem_singleton.2 trivial

theorem proper_of_itemValues? : {ts : List Tree} → {vs : List Value} → itemValues? ts = some vs →
    (Value.array vs).Proper
  | [], _, h => by
    cases h
    exact List.forall_mem_nil _
  | t :: ts, _, h => by
    unfold itemValues? at h
    split at h
    · rename_i v vs hv hvs
      cases h
      exact List.forall_mem_append.2 ⟨proper_of_value? hv, proper_of_itemValues? hvs⟩
    · cases h

end

end Json

/-! ### Documents -/

namespace Rest

open Json (Tree Value)

/-- The data of a tensor come from a tree that is no deeper than its room. -/
theorem TensorDocument.exists_data_of_ofTree? {room : Nat} {t : Tree} {doc : TensorDocument}
    (h : ofTree? room t = some doc) : ∃ tree, valueWithin? (room - 1) tree = some doc.data := by
  unfold ofTree? at h
  split at h
  · rename_i name shape datatype data _
    simp only [bind, Option.bind_eq_some_iff] at h
    obtain ⟨name, -, dims, -, tag, -, v, hv, h⟩ := h
    cases h
    cases data with
    | given tree => exact ⟨tree, hv⟩
    | absent => cases hv
    | cut => cases hv
  · cases h

theorem ResponseDocument.exists_data_of_parse? {text : String} {doc : ResponseDocument}
    (h : parse? text = some doc) :
    ∀ output ∈ doc.outputs, ∃ tree, valueWithin? (maxDepth - 3) tree = some output.data := by
  obtain ⟨t, -, h⟩ := Option.bind_eq_some_iff.1 h
  unfold ofTree? at h
  split at h
  · rename_i modelName modelVersion id outputs _
    simp only [bind, Option.bind_eq_some_iff] at h
    obtain ⟨modelName, -, modelVersion, -, id, -, docs, hdocs, h⟩ := h
    cases h
    cases outputs with
    | given t =>
      cases t with
      | array items =>
        exact forall_mem_of_mapM_eq_some (fun _ _ => TensorDocument.exists_data_of_ofTree?) hdocs
      | _ => cases hdocs
    | absent => cases hdocs
    | cut => cases hdocs
  · cases h

/-- **Documents are read with proper numbers.** -/
theorem ResponseDocument.proper_of_parse? {text : String} {doc : ResponseDocument}
    (h : parse? text = some doc) : ∀ output ∈ doc.outputs, output.data.Proper := by
  intro output houtput
  obtain ⟨tree, htree⟩ := exists_data_of_parse? h output houtput
  exact Json.proper_of_value? (Option.ite_none_right_eq_some.1 htree).2

end Rest

end ModelProbe

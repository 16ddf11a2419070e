import ModelProbe.Fairness.Config
import ModelProbe.Proofs.Traversal

/-! What the validation of a configuration says.

`validate` accepts a configuration exactly when it is `Valid`: the attributes are distinct and at
least one, the label is one column that is none of them, the two label values are numbers that can
be told apart, and each group has a value for each attribute. -/
namespace ModelProbe.Fairness

/-- No item has stood before exactly when the items are distinct and none has been seen. -/
theorem repeated?_eq_none_iff {α : Type} [DecidableEq α] {seen xs : List α} :
    repeated? seen xs = none ↔ xs.Nodup ∧ ∀ x ∈ xs, x ∉ seen := by
  induction xs generalizing seen with
  | nil => simp [repeated?]
  | cons x xs ih =>
    rw [repeated?]
    by_cases hx : x ∈ seen
    · simp [hx]
    · rw [if_neg hx, ih, List.nodup_cons]
      constructor
      · rintro ⟨hxs, hseen⟩
        have hnew : x ∉ xs := fun h => hseen x h (List.mem_cons_self ..)
        refine ⟨⟨hnew, hxs⟩, List.forall_mem_cons.2 ⟨hx, fun y hy h => ?_⟩⟩
        exact hseen y hy (List.mem_cons_of_mem x h)
      · rintro ⟨⟨hnew, hxs⟩, hseen⟩
        refine ⟨hxs, fun y hy h => ?_⟩
        rcases List.mem_cons.1 h with rfl | h
        · exact hnew hy
        · exact hseen y (List.mem_cons_of_mem x hy) h

namespace Config

structure Valid (c : Config) : Prop where
  attributes : c.attributes ≠ []
  distinct : c.attributes.Nodup
  label : c.labels.length = 1
  labelName : c.labelName ∉ c.attributes
  finite : c.favorable.isFinite = true ∧ c.unfavorable.isFinite = true
  different : c.favorable.agrees c.unfavorable = false
  privileged : c.privileged.length = c.attributes.length
  unprivileged : c.unprivileged.length = c.attributes.length
  privilegedValues : c.privilegedValues = [] ∨ c.privilegedValues.length = c.attributes.length
  unprivilegedValues :
    c.unprivilegedValues = [] ∨ c.unprivilegedValues.length = c.attributes.length

variable {c : Config}

theorem checkGroup_eq_ok_iff {field : String} {values : List Double} :
    c.checkGroup field values = .ok () ↔ values.length = c.attributes.length := by
  unfold checkGroup
  by_cases h : values.length = c.attributes.length <;> simp [h]

theorem checkLists_eq_ok_iff {field : String} {lists : List (List Double)} :
    c.checkLists field lists = .ok () ↔ lists = [] ∨ lists.length = c.attributes.length := by
  unfold checkLists
  by_cases h : lists = [] ∨ lists.length = c.attributes.length <;> simp [h]

theorem checkLabels_eq_ok_iff : c.checkLabels = .ok () ↔ c.attributes ≠ [] ∧
    c.attributes.Nodup ∧ c.labels.length = 1 ∧ c.labelName ∉ c.attributes ∧
    (c.favorable.isFinite = true ∧ c.unfavorable.isFinite = true) ∧
    c.favorable.agrees c.unfavorable = false := by
  have hdistinct : c.attributes.Nodup ↔ repeated? [] c.attributes = none := by
    simp [repeated?_eq_none_iff]
  unfold checkLabels
  rw [unless_eq_ok_iff, hdistinct]
  refine and_congr_right fun _ => ?_
  cases repeated? [] c.attributes with
  | some name => simp [throw, throwThe, MonadExceptOf.throw, bind, Except.bind]
  | none =>
    simp only [unless_eq_ok_iff, check_eq_ok_iff]
    simp

theorem validate_eq_ok_iff : c.validate = .ok () ↔ c.Valid := by
  unfold validate
  simp only [seq_eq_ok_iff, checkLabels_eq_ok_iff, checkGroup_eq_ok_iff, checkLists_eq_ok_iff]
  constructor
  · rintro ⟨⟨h1, h2, h3, h4, h5, h6⟩, h7, h8, h9, h10⟩
    exact ⟨h1, h2, h3, h4, h5, h6, h7, h8, h9, h10⟩
  · rintro ⟨h1, h2, h3, h4, h5, h6, h7, h8, h9, h10⟩
    exact ⟨⟨h1, h2, h3, h4, h5, h6⟩, h7, h8, h9, h10⟩

end Config

end ModelProbe.Fairness

import ModelProbe.Json.Record
import ModelProbe.Proofs.Json.Values

/-! Records and the values they are read from.

A value has the fields of a record when it is an array of them or an object in which no field stands
twice, whatever order its keys have and whatever other keys there are (`HasFields`). The slots of
its tree then hold what it has in place of each field (`HasFields.slots?`), and how a field is read
from its slot follows from what stands there. -/
namespace ModelProbe.Json

/-- What a value has in place of each of the named fields of a record. -/
inductive HasFields (names : List String) : Value → List (Option Value) → Prop where
  | array {items : List Value} (length : items.length = names.length) :
      HasFields names (.array items) (items.map some)
  | object {members : List (String × Value)}
      (once : ∀ name ∈ names, (members.map Prod.fst).count name ≤ 1) :
      HasFields names (.object members) (names.map fun name => members.lookup name)

/-- The slot holds the tree of the value, or is empty when there is none. -/
inductive Slot.Holds : Slot → Option Value → Prop where
  | absent : Slot.Holds .absent none
  | given {t : Tree} {v : Value} (h : Written v t) : Slot.Holds (.given t) (some v)

theorem WrittenItems.length_eq : {items : List Value} → {trees : List Tree} →
    WrittenItems items trees → trees.length = items.length
  | _, _, .nil => rfl
  | _, _, .cons _ hrest => congrArg Nat.succ hrest.length_eq

theorem WrittenItems.holds : {items : List Value} → {trees : List Tree} →
    WrittenItems items trees → List.Forall₂ Slot.Holds (trees.map Slot.given) (items.map some)
  | _, _, .nil => .nil
  | _, _, .cons h hrest => .cons (.given h) hrest.holds

theorem WrittenMembers.keys : {members : List (String × Value)} →
    {trees : List (Option String × Tree)} → WrittenMembers members trees →
      trees.mapM Prod.fst = some (members.map Prod.fst)
  | _, _, .nil => rfl
  | _, _, .cons k _ hrest => by
    rw [List.mapM_cons, hrest.keys]
    rfl

theorem WrittenMembers.holds (name : String) : {members : List (String × Value)} →
    {trees : List (Option String × Tree)} → WrittenMembers members trees →
      (slot trees name).Holds (members.lookup name)
  | _, _, .nil => .absent
  | _, _, @WrittenMembers.cons k v t members trees h hrest => by
    by_cases hk : k = name
    · subst hk
      have hslot : slot ((some k, t) :: trees) k = .given t := by simp [slot]
      have hlookup : ((k, v) :: members).lookup k = some v := List.lookup_cons_self
      rw [hslot, hlookup]
      exact .given h
    · have hslot : slot ((some k, t) :: trees) name = slot trees name := by simp [slot, hk]
      have hlookup : ((k, v) :: members).lookup name = members.lookup name := by
        rw [List.lookup_cons, beq_eq_false_iff_ne.2 (Ne.symm hk)]
      rw [hslot, hlookup]
      exact hrest.holds name

/-- **Records are read field by field.** -/
theorem HasFields.slots? {names : List String} {v : Value} {fields : List (Option Value)} {t : Tree}
    (h : HasFields names v fields) (hwritten : Written v t) :
    ∃ slots, t.slots? names = some slots ∧ List.Forall₂ Slot.Holds slots fields := by
  cases h with
  | array length =>
    cases hwritten with
    | @array _ trees hitems =>
      have hlength : trees.length = names.length := hitems.length_eq.trans length
      refine ⟨trees.map .given, ?_, hitems.holds⟩
      rw [Tree.slots?, if_pos hlength.le, hlength, Nat.sub_self, List.replicate_zero,
        List.append_nil]
  | @object members once =>
    cases hwritten with
    | @object _ trees hmembers =>
      refine ⟨names.map (slot trees), ?_, ?_⟩
      · have honce : (names.all fun name => (members.map Prod.fst).count name ≤ 1) = true := by
          simpa using once
        simp only [Tree.slots?, hmembers.keys]
        exact if_pos honce
      · rw [List.forall₂_map_left_iff, List.forall₂_map_right_iff]
        exact List.forall₂_same.2 fun name _ => hmembers.holds name

end ModelProbe.Json

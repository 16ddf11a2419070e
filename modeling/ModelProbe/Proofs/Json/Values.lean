import Mathlib.Data.String.Basic
import ModelProbe.Proofs.Json.Numbers
import ModelProbe.Proofs.Json.Trees

/-! Values read again.

What a text gives is settled: its integers are in the range of literals, and its objects keep their
members in the order of their keys, each key once (`settled_of_value?`). A member that a later one
replaced has no part in that and may have held anything. A settled value without doubles is read
again from its own text (`Value.Settled.gives`), since members that are in order stay as they are
(`Value.Ascending.settle`). -/
namespace ModelProbe.Json

/-! ### Integers -/

theorem digitsValue_toDigits (n : Nat) : digitsValue (Nat.toDigits 10 n) = n := by
  show Nat.ofDigitChars 10 (Nat.toDigits 10 n) 0 = n
  exact Nat.ofDigitChars_ten_toDigits

/-- The literal of an integer in range is read as that integer. -/
theorem Literal.number?_ofInt {n : Int} (h : (Number.integer n).Proper) :
    (ofInt n).number? = some (.integer n) := by
  obtain ⟨hlow, hhigh⟩ : -2 ^ 63 ≤ n ∧ n < 2 ^ 64 := h
  have hvalue : digitsValue (ofInt n).whole = n.natAbs := digitsValue_toDigits n.natAbs
  have hintegral : (ofInt n).integral = true := rfl
  unfold number?
  simp only [hvalue, hintegral, true_and]
  by_cases hn : n < 0
  · have hsign : (ofInt n).negative = true := decide_eq_true hn
    have hsize : 0 < n.natAbs ∧ n.natAbs ≤ 2 ^ 63 := by omega
    have habs : -(n.natAbs : Int) = n := by omega
    rw [hsign, if_neg (by simp), if_pos ⟨rfl, hsize⟩, habs]
  · have hsign : (ofInt n).negative = false := decide_eq_false hn
    have hsize : n.natAbs < 2 ^ 64 := by omega
    have habs : (n.natAbs : Int) = n := by omega
    rw [hsign, if_pos ⟨rfl, hsize⟩, habs]

/-! ### Members in order -/

namespace Value

/-- The keys ascend. -/
def Ascending (members : List (String × Value)) : Prop :=
  members.Pairwise fun a b => a.1 < b.1

variable {k : String} {v : Value} {m : String × Value} {ms : List (String × Value)}

theorem mem_of_mem_insert (h : m ∈ insert k v ms) : m = (k, v) ∨ m ∈ ms := by
  induction ms with
  | nil => exact .inl (List.mem_singleton.1 h)
  | cons m' ms ih =>
    rw [insert] at h
    split at h
    · exact List.mem_cons.1 h
    · split at h
      · exact (List.mem_cons.1 h).imp_right (List.mem_cons_of_mem _)
      · rcases List.mem_cons.1 h with rfl | h
        · exact .inr (List.mem_cons_self ..)
        · exact (ih h).imp_right (List.mem_cons_of_mem _)

theorem Ascending.insert (h : Ascending ms) (k : String) (v : Value) :
    Ascending (insert k v ms) := by
  induction ms with
  | nil => exact List.pairwise_singleton ..
  | cons m ms ih =>
    obtain ⟨hfirst, hrest⟩ := List.pairwise_cons.1 h
    rw [Value.insert]
    split
    · rename_i hk
      exact .cons (List.forall_mem_cons.2 ⟨hk, fun m' hm' => hk.trans (hfirst m' hm')⟩) h
    · rename_i hnot
      split
      · rename_i heq
        subst heq
        exact .cons hfirst hrest
      · rename_i hne
        have hk : m.1 < k := lt_of_le_of_ne (not_lt.1 hnot) (Ne.symm hne)
        refine .cons (fun m' hm' => ?_) (ih hrest)
        rcases mem_of_mem_insert hm' with rfl | hm'
        · exact hk
        · exact hfirst m' hm'

/-- A key past all others goes to the end. -/
theorem insert_of_forall_lt (h : ∀ m ∈ ms, m.1 < k) : insert k v ms = ms ++ [(k, v)] := by
  induction ms with
  | nil => rfl
  | cons m ms ih =>
    obtain ⟨hm, hms⟩ := List.forall_mem_cons.1 h
    rw [insert, if_neg hm.not_gt, if_neg hm.ne', ih hms, List.cons_append]

theorem settle_eq_foldl (ms : List (String × Value)) :
    settle ms = ms.foldl (fun done m => insert m.1 m.2 done) [] :=
  rfl

theorem mem_of_mem_settle (h : m ∈ settle ms) : m ∈ ms := by
  suffices hfold : ∀ done, m ∈ ms.foldl (fun done m => insert m.1 m.2 done) done →
      m ∈ done ∨ m ∈ ms from (hfold [] h).resolve_left List.not_mem_nil
  clear h
  induction ms with
  | nil => exact fun _ => .inl
  | cons m' ms ih =>
    intro done h
    rcases ih _ h with h | h
    · exact (mem_of_mem_insert h).elim (fun h => .inr (h ▸ List.mem_cons_self ..)) .inl
    · exact .inr (List.mem_cons_of_mem _ h)

theorem ascending_settle (ms : List (String × Value)) : Ascending (settle ms) := by
  rw [settle_eq_foldl]
  exact List.foldlRecOn ms _ .nil fun done h m _ => h.insert m.1 m.2

/-- Members in order stay as they are. -/
theorem Ascending.settle (h : Ascending ms) : settle ms = ms := by
  -- Each member goes behind those that are done, whose keys are less.
  suffices hfold : ∀ done, (∀ m ∈ done, ∀ m' ∈ ms, m.1 < m'.1) →
      ms.foldl (fun done m => Value.insert m.1 m.2 done) done = done ++ ms from
    hfold [] (List.forall_mem_nil _)
  induction ms with
  | nil => exact fun done _ => (List.append_nil done).symm
  | cons m ms ih =>
    obtain ⟨hfirst, hrest⟩ := List.pairwise_cons.1 h
    intro done hdone
    have hinsert : Value.insert m.1 m.2 done = done ++ [m] :=
      insert_of_forall_lt fun m' hm' => hdone m' hm' m (List.mem_cons_self ..)
    rw [List.foldl_cons, hinsert, ih hrest, List.append_assoc, List.singleton_append]
    refine List.forall_mem_append.2 ⟨fun m' hm' m'' hm'' => ?_, List.forall_mem_singleton.2 hfirst⟩
    exact hdone m' hm' m'' (List.mem_cons_of_mem _ hm'')

end Value

/-! ### Values without doubles -/

mutual

/-- No number at any depth is a double. -/
def Value.whole : Value → Bool
  | .number (.double _) => false
  | .array items => itemsWhole items
  | .object members => membersWhole members
  | _ => true

def itemsWhole : List Value → Bool
  | [] => true
  | v :: rest => v.whole && itemsWhole rest

def membersWhole : List (String × Value) → Bool
  | [] => true
  | (_, v) :: rest => v.whole && membersWhole rest

end

theorem itemsWhole_iff {vs : List Value} : itemsWhole vs = true ↔ ∀ v ∈ vs, v.whole = true := by
  induction vs with
  | nil => exact ⟨fun _ => List.forall_mem_nil _, fun _ => rfl⟩
  | cons v vs ih => rw [itemsWhole, Bool.and_eq_true, ih, List.forall_mem_cons]

theorem membersWhole_iff {ms : List (String × Value)} :
    membersWhole ms = true ↔ ∀ m ∈ ms, m.2.whole = true := by
  induction ms with
  | nil => exact ⟨fun _ => List.forall_mem_nil _, fun _ => rfl⟩
  | cons m ms ih => rw [membersWhole, Bool.and_eq_true, ih, List.forall_mem_cons]

mutual

theorem exists_written : (v : Value) → v.whole = true → ∃ t, Written v t
  | .null, _ => ⟨_, .null⟩
  | .bool b, _ => ⟨_, .bool b⟩
  | .number (.integer n), _ => ⟨_, .integer n⟩
  | .string s, _ => ⟨_, .string s⟩
  | .array items, h => (exists_writtenItems items h).imp' _ fun _ => .array
  | .object members, h => (exists_writtenMembers members h).imp' _ fun _ => .object

theorem exists_writtenItems : (vs : List Value) → itemsWhole vs = true → ∃ ts, WrittenItems vs ts
  | [], _ => ⟨[], .nil⟩
  | v :: vs, h => by
    obtain ⟨hfirst, hrest⟩ := (Bool.and_eq_true _ _).mp h
    obtain ⟨t, ht⟩ := exists_written v hfirst
    obtain ⟨ts, hts⟩ := exists_writtenItems vs hrest
    exact ⟨t :: ts, .cons ht hts⟩

theorem exists_writtenMembers : (ms : List (String × Value)) → membersWhole ms = true →
    ∃ ts, WrittenMembers ms ts
  | [], _ => ⟨[], .nil⟩
  | (k, v) :: ms, h => by
    obtain ⟨hfirst, hrest⟩ := (Bool.and_eq_true _ _).mp h
    obtain ⟨t, ht⟩ := exists_written v hfirst
    obtain ⟨ts, hts⟩ := exists_writtenMembers ms hrest
    exact ⟨(some k, t) :: ts, .cons k ht hts⟩

end

/-! ### Settled values -/

/-- Integers in the range of literals, members in order, no doubles and no more than `room`
containers inside one another. -/
inductive Value.Settled : Nat → Value → Prop where
  | null (room : Nat) : Settled room .null
  | bool (room : Nat) (b : Bool) : Settled room (.bool b)
  | integer (room : Nat) {n : Int} (h : (Number.integer n).Proper) :
      Settled room (.number (.integer n))
  | string (room : Nat) (s : String) : Settled room (.string s)
  | array {room : Nat} {items : List Value} (h : ∀ v ∈ items, Settled room v) :
      Settled (room + 1) (.array items)
  | object {room : Nat} {members : List (String × Value)} (h : ∀ m ∈ members, Settled room m.2)
      (hkeys : Value.Ascending members) : Settled (room + 1) (.object members)

variable {room : Nat}

theorem Value.Settled.mono {room' : Nat} {v : Value} (h : v.Settled room) (hroom : room ≤ room') :
    v.Settled room' := by
  induction h generalizing room' with
  | null => exact .null room'
  | bool _ b => exact .bool room' b
  | integer _ hn => exact .integer room' hn
  | string _ s => exact .string room' s
  | array _ ih =>
    obtain ⟨more, rfl⟩ := Nat.exists_eq_add_of_lt hroom
    exact .array fun v hv => ih v hv (Nat.le_add_right ..)
  | object _ hkeys ih =>
    obtain ⟨more, rfl⟩ := Nat.exists_eq_add_of_lt hroom
    exact .object (fun m hm => ih m hm (Nat.le_add_right ..)) hkeys

mutual

/-- **Values are read settled**, as far as they hold no double. -/
theorem settled_of_value? : {t : Tree} → {v : Value} → t.value? = some v → v.whole = true →
    v.Settled t.depth
  | .null, _, h, _ => by
    cases h
    exact .null _
  | .bool b, _, h, _ => by
    cases h
    exact .bool _ b
  | .number l, _, h, hwhole => by
    obtain ⟨n, hn, rfl⟩ := Option.map_eq_some_iff.1 h
    cases n with
    | integer n => exact .integer _ (Literal.proper_of_number? hn)
    | double x => cases hwhole
  | .string s, _, h, _ => by
    obtain ⟨s, -, rfl⟩ := Option.map_eq_some_iff.1 h
    exact .string _ s
  | .array items, _, h, hwhole => by
    obtain ⟨vs, hvs, rfl⟩ := Option.map_eq_some_iff.1 h
    exact .array fun v hv => settled_of_itemValues? hvs v hv (itemsWhole_iff.1 hwhole v hv)
  | .object members, _, h, hwhole => by
    obtain ⟨ms, hms, rfl⟩ := Option.map_eq_some_iff.1 h
    -- Only the members that are kept have to hold no double.
    refine .object (fun m hm => ?_) (Value.ascending_settle ms)
    exact settled_of_memberValues? hms m (Value.mem_of_mem_settle hm)
      (membersWhole_iff.1 hwhole m hm)

theorem settled_of_itemValues? : {ts : List Tree} → {vs : List Value} → itemValues? ts = some vs →
    ∀ v ∈ vs, v.whole = true → v.Settled (Tree.itemDepth ts)
  | [], _, h => by
    cases h
    exact List.forall_mem_nil _
  | t :: ts, _, h => by
    unfold itemValues? at h
    split at h
    · rename_i v vs hv hvs
      cases h
      refine List.forall_mem_cons.2 ⟨fun hwhole => ?_, fun v' hv' hwhole => ?_⟩
      · exact (settled_of_value? hv hwhole).mono (le_max_left ..)
      · exact (settled_of_itemValues? hvs v' hv' hwhole).mono (le_max_right ..)
    · cases h

theorem settled_of_memberValues? : {ts : List (Option String × Tree)} →
    {ms : List (String × Value)} → memberValues? ts = some ms →
    ∀ m ∈ ms, m.2.whole = true → m.2.Settled (Tree.memberDepth ts)
  | [], _, h => by
    cases h
    exact List.forall_mem_nil _
  | (none, _) :: _, _, h => by cases h
  | (some k, t) :: ts, _, h => by
    unfold memberValues? at h
    split at h
    · rename_i v ms hv hms
      cases h
      refine List.forall_mem_cons.2 ⟨fun hwhole => ?_, fun m hm hwhole => ?_⟩
      · exact (settled_of_value? hv hwhole).mono (le_max_left ..)
      · exact (settled_of_memberValues? hms m hm hwhole).mono (le_max_right ..)
    · cases h

end

/-- The tree stands for the value and is no deeper than `room`. -/
def Tree.Gives (room : Nat) (v : Value) (t : Tree) : Prop :=
  t.value? = some v ∧ t.depth ≤ room

theorem gives_items {items : List Value} {trees : List Tree}
    (h : ∀ v ∈ items, ∀ t, Written v t → t.Gives room v) (hwritten : WrittenItems items trees) :
    itemValues? trees = some items ∧ Tree.itemDepth trees ≤ room := by
  induction items generalizing trees with
  | nil =>
    cases hwritten
    exact ⟨rfl, Nat.zero_le _⟩
  | cons v items ih =>
    obtain ⟨hfirst, hrest⟩ := List.forall_mem_cons.1 h
    cases hwritten with
    | cons hv hitems =>
      obtain ⟨hvalue, hdepth⟩ := hfirst _ hv
      obtain ⟨hvalues, hdepths⟩ := ih hrest hitems
      refine ⟨?_, max_le hdepth hdepths⟩
      rw [itemValues?, hvalue, hvalues]

theorem gives_members {members : List (String × Value)} {trees : List (Option String × Tree)}
    (h : ∀ m ∈ members, ∀ t, Written m.2 t → t.Gives room m.2)
    (hwritten : WrittenMembers members trees) :
    memberValues? trees = some members ∧ Tree.memberDepth trees ≤ room := by
  induction members generalizing trees with
  | nil =>
    cases hwritten
    exact ⟨rfl, Nat.zero_le _⟩
  | cons m members ih =>
    obtain ⟨hfirst, hrest⟩ := List.forall_mem_cons.1 h
    cases hwritten with
    | cons k hv hmembers =>
      obtain ⟨hvalue, hdepth⟩ := hfirst _ hv
      obtain ⟨hvalues, hdepths⟩ := ih hrest hmembers
      refine ⟨?_, max_le hdepth hdepths⟩
      rw [memberValues?, hvalue, hvalues]

/-- **Settled values are read back.** The tree of the text of a settled value stands for that value,
and nests as deep. -/
theorem Value.Settled.gives {v : Value} (h : v.Settled room) :
    ∀ t, Written v t → t.Gives room v := by
  induction h with
  | null | bool | string =>
    intro t ht
    cases ht
    exact ⟨rfl, Nat.zero_le _⟩
  | integer _ hn =>
    intro t ht
    cases ht
    exact ⟨congrArg (Option.map Value.number) (Literal.number?_ofInt hn), Nat.zero_le _⟩
  | array _ ih =>
    intro t ht
    cases ht with
    | array hitems =>
      obtain ⟨hvalues, hdepth⟩ := gives_items ih hitems
      exact ⟨congrArg (Option.map Value.array) hvalues, Nat.succ_le_succ hdepth⟩
  | object _ hkeys ih =>
    intro t ht
    cases ht with
    | object hmembers =>
      obtain ⟨hvalues, hdepth⟩ := gives_members ih hmembers
      refine ⟨?_, Nat.succ_le_succ hdepth⟩
      rw [Tree.value?, hvalues, Option.map_some, hkeys.settle]

end ModelProbe.Json

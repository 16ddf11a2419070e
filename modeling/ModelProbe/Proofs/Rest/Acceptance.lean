import ModelProbe.Proofs.Json.Numbers
import ModelProbe.Proofs.Rest.Document
import ModelProbe.Proofs.Tensor.Counted

/-! Which documents are tensors.

A document is checked in one order: its datatype, its dimensions, whether all leaves of its data are
numbers, whether all numbers are of the datatype, and how many there are. `TensorDocument.Verdict`
says when each check is the first to fail and what is answered then, and which tensor is read when
none fails. What a document is read as is its verdict, and nothing about the nesting of its data
matters to it but the leaves (`toTensor_iff_verdict`). -/
namespace ModelProbe

/-! ### Checks -/

namespace Datatype

theorem parse_eq_ok_iff {tag : String} {d : Datatype} : parse tag = .ok d ↔ d.tag = tag := by
  constructor
  · exact tag_of_parse
  · rintro rfl
    exact parse_tag d

theorem parse_eq_error_iff {tag : String} {e : Error} :
    parse tag = .error e ↔ (∀ d : Datatype, d.tag ≠ tag) ∧ e = .unsupported (.datatype tag) := by
  have hfault : ∀ e, parse tag = .error e → e = .unsupported (.datatype tag) := by
    intro e h
    unfold parse at h
    split at h <;> cases h
    rfl
  constructor
  · intro h
    refine ⟨fun d hd => ?_, hfault e h⟩
    rw [parse_eq_ok_iff.2 hd] at h
    cases h
  · rintro ⟨hunknown, rfl⟩
    cases h : parse tag with
    | ok d => exact absurd (parse_eq_ok_iff.1 h) (hunknown d)
    | error e => rw [hfault e h]

theorem tag_injective : Function.Injective tag := by
  intro d d' h
  have hsame := parse_tag d
  rw [h, parse_tag] at hsame
  exact (Except.ok.inj hsame).symm

/-- The numbers of a datatype: all numbers can be floating point values, and integers are what is
written as one and in range. -/
def Takes : Datatype → Json.Number → Prop
  | .fp32, _ | .fp64, _ => True
  | .int32, .integer k => -2 ^ 31 ≤ k ∧ k < 2 ^ 31
  | .int64, .integer k => -2 ^ 63 ≤ k ∧ k < 2 ^ 63
  | .int32, .double _ | .int64, .double _ => False

theorem takes_int32_iff {n : Json.Number} :
    int32.Takes n ↔ ∃ k : Int32, n = .integer k.toInt := by
  constructor
  · intro h
    cases n with
    | integer k =>
      refine ⟨Int32.ofInt k, ?_⟩
      rw [Int32.toInt_ofInt_of_le h.1 h.2]
    | double x => cases h
  · rintro ⟨k, rfl⟩
    exact ⟨k.le_toInt, k.toInt_lt⟩

theorem takes_int64_iff {n : Json.Number} :
    int64.Takes n ↔ ∃ k : Int64, n = .integer k.toInt := by
  constructor
  · intro h
    cases n with
    | integer k =>
      refine ⟨Int64.ofInt k, ?_⟩
      rw [Int64.toInt_ofInt_of_le h.1 h.2]
    | double x => cases h
  · rintro ⟨k, rfl⟩
    exact ⟨k.le_toInt, k.toInt_lt⟩

end Datatype

/-- Dimensions are refused as malformed. -/
theorem Shape.malformed_of_ofWire {dims : List Int64} {e : Error} (h : ofWire dims = .error e) :
    ∃ cause : Malformed, e = cause.error := by
  unfold ofWire at h
  split at h
  · rename_i dim _
    cases h
    exact ⟨.negativeDimension dim dims, rfl⟩
  · dsimp only at h
    split at h
    · cases h
    · cases h
      exact ⟨.tooManyElements dims, rfl⟩

/-! ### Leaves -/

namespace Json

/-- The values that are no arrays, left to right, under any nesting of arrays. -/
inductive Leaves : Value → List Value → Prop where
  | leaf {v : Value} (h : ∀ items, v ≠ .array items) : Leaves v [v]
  | nil : Leaves (.array []) []
  | cons {v : Value} {items xs ys : List Value} :
      Leaves v xs → Leaves (.array items) ys → Leaves (.array (v :: items)) (xs ++ ys)

theorem Leaves.eq {v : Value} {leaves : List Value} (h : Leaves v leaves) : v.leaves = leaves := by
  induction h with
  | @leaf v h =>
    cases v with
    | array items => exact absurd rfl (h items)
    | _ => rfl
  | nil => rfl
  | @cons v items xs ys _ _ ihv ihitems =>
    rw [Value.leaves] at ihitems ⊢
    rw [itemLeaves, ihv, ihitems]

mutual

theorem leaves_leaves : (v : Value) → Leaves v v.leaves
  | .array items => leaves_itemLeaves items
  | .null | .bool _ | .number _ | .string _ | .object _ => .leaf fun _ h => by cases h

theorem leaves_itemLeaves : (items : List Value) → Leaves (.array items) (itemLeaves items)
  | [] => .nil
  | v :: items => .cons (leaves_leaves v) (leaves_itemLeaves items)

end

end Json

namespace Rest

open Json (Value Number)

/-- The leaves are all that is looked at. -/
theorem numbers_eq_ok_iff {name : String} {data : Value} {ns : List Number} :
    numbers name data = .ok ns ↔ data.leaves = ns.map .number := by
  rw [numbers, mapM_eq_ok_iff, ← List.forall₂_eq_eq_eq, List.forall₂_map_right_iff]
  constructor
  · refine List.Forall₂.imp fun v n h => ?_
    split at h <;> cases h
    rfl
  · refine List.Forall₂.imp fun v n h => ?_
    rw [h]

/-- The first leaf that is no number is named. -/
theorem numbers_eq_error_iff {name : String} {data : Value} {e : Error} :
    numbers name data = .error e ↔
      ∃ i leaf, FirstAt (fun v => ∀ n, v ≠ .number n) data.leaves i leaf ∧
        e = (Malformed.nonNumericLeaf name leaf).error := by
  refine mapM_eq_error_iff_firstAt (fun v _ hnumber => ?_) fun v _ hv => ?_
  · simp only [not_forall, not_not] at hnumber
    obtain ⟨n, rfl⟩ := hnumber
    exact ⟨n, rfl⟩
  · split
    · exact absurd rfl (hv _)
    · rfl

/-! ### Numbers of a datatype -/

/-- The values that numbers are read as, in order: floating point values are the nearest to the
numbers, integers the numbers themselves. -/
def Reads : List Number → Values → Prop
  | ns, .fp32 vs => vs = ns.map fun n => .ofDouble n.toDouble
  | ns, .fp64 vs => vs = ns.map Number.toDouble
  | ns, .int32 vs => ns = vs.map fun k => .integer k.toInt
  | ns, .int64 vs => ns = vs.map fun k => .integer k.toInt

theorem Reads.length_eq {ns : List Number} {vs : Values} (h : Reads ns vs) :
    vs.length = ns.length := by
  cases vs with
  | fp32 vs => rw [show vs = _ from h, Values.length, List.length_map]
  | fp64 vs => rw [show vs = _ from h, Values.length, List.length_map]
  | int32 vs => rw [show ns = _ from h, Values.length, List.length_map]
  | int64 vs => rw [show ns = _ from h, Values.length, List.length_map]

variable {name : String} {d : Datatype} {n : Number} {ns : List Number}

theorem integer64_eq_ok_iff (hn : n.Proper) {k : Int64} :
    integer64 name d n = .ok k ↔ n = .integer k.toInt := by
  constructor
  · intro h
    unfold integer64 Number.int64? at h
    cases n with
    | integer m =>
      dsimp only at h
      split at h
      · rename_i hk
        split at hk
        · rename_i hmax
          cases hk
          cases h
          rw [Int64.toInt_ofInt_of_le hn.1 (Int.lt_add_one_iff.2 hmax)]
        · cases hk
      · cases h
    | double x => cases h
  · rintro rfl
    exact integer64_of_int64 name d k

theorem eq_of_integer64_eq_error {e : Error} (h : integer64 name d n = .error e) :
    e = .datatypeMismatch name (.outOfType n d) := by
  unfold integer64 at h
  split at h
  · cases h
  · cases h
    rfl

theorem integer32_eq_ok_iff (hn : n.Proper) {k : Int32} :
    integer32 name n = .ok k ↔ n = .integer k.toInt := by
  constructor
  · intro h
    obtain ⟨m, hm, h⟩ := bind_eq_ok_iff.1 h
    obtain rfl := (integer64_eq_ok_iff hn).1 hm
    split at h
    · rename_i hbounds
      cases h
      rw [Int32.toInt_ofInt_of_le hbounds.1 (Int.lt_add_one_iff.2 hbounds.2)]
    · cases h
  · rintro rfl
    exact integer32_of_int32 name k

theorem eq_of_integer32_eq_error {e : Error} (h : integer32 name n = .error e) :
    e = .datatypeMismatch name (.outOfType n .int32) := by
  unfold integer32 at h
  cases hm : integer64 name .int32 n with
  | error e' =>
    rw [bind_of_error hm] at h
    cases h
    exact eq_of_integer64_eq_error hm
  | ok m =>
    rw [bind_of_ok hm] at h
    split at h
    · cases h
    · cases h
      rfl

/-- A reading of single numbers as integers of a datatype: it takes the numbers of the datatype as
they are and refuses the others. -/
structure IntegerReading (name : String) (d : Datatype) {α : Type} (f : Number → Except Error α)
    (toInt : α → Int) : Prop where
  takes : ∀ n, d.Takes n ↔ ∃ k, n = .integer (toInt k)
  ok : ∀ n, n.Proper → ∀ k, f n = .ok k ↔ n = .integer (toInt k)
  error : ∀ n e, f n = .error e → e = .datatypeMismatch name (.outOfType n d)

theorem integerReading64 (name : String) :
    IntegerReading name .int64 (integer64 name .int64) Int64.toInt :=
  ⟨fun _ => Datatype.takes_int64_iff, fun _ hn _ => integer64_eq_ok_iff hn,
    fun _ _ => eq_of_integer64_eq_error⟩

theorem integerReading32 (name : String) :
    IntegerReading name .int32 (integer32 name) Int32.toInt :=
  ⟨fun _ => Datatype.takes_int32_iff, fun _ hn _ => integer32_eq_ok_iff hn,
    fun _ _ => eq_of_integer32_eq_error⟩

namespace IntegerReading

variable {α : Type} {f : Number → Except Error α} {toInt : α → Int}

theorem mapM_eq_ok_iff (hf : IntegerReading name d f toInt) (hproper : ∀ n ∈ ns, n.Proper)
    {ks : List α} : ns.mapM f = .ok ks ↔ ns = ks.map fun k => .integer (toInt k) := by
  have hok : ∀ n ∈ ns, ∀ k, f n = .ok k ↔ n = .integer (toInt k) :=
    fun n hn => hf.ok n (hproper n hn)
  rw [ModelProbe.mapM_eq_ok_iff, ← List.forall₂_eq_eq_eq, List.forall₂_map_right_iff]
  constructor
  · intro h
    exact ((List.forall₂_and_left _ _).2 ⟨hok, h⟩).imp fun n k ⟨hn, hk⟩ => (hn k).1 hk
  · intro h
    exact ((List.forall₂_and_left _ _).2 ⟨hok, h⟩).imp fun n k ⟨hn, hk⟩ => (hn k).2 hk

theorem mapM_eq_error_iff (hf : IntegerReading name d f toInt) (hproper : ∀ n ∈ ns, n.Proper)
    {e : Error} :
    ns.mapM f = .error e ↔ ∃ i n, FirstAt (fun n => ¬d.Takes n) ns i n ∧
      e = .datatypeMismatch name (.outOfType n d) := by
  refine mapM_eq_error_iff_firstAt (fun n hn htakes => ?_) fun n hn hlost => ?_
  · obtain ⟨k, hk⟩ := (hf.takes n).1 (not_not.1 htakes)
    exact ⟨k, (hf.ok n (hproper n hn) k).2 hk⟩
  · cases h : f n with
    | ok k => exact absurd ((hf.takes n).2 ⟨k, (hf.ok n (hproper n hn) k).1 h⟩) hlost
    | error e => rw [hf.error n e h]

end IntegerReading

/-- Numbers are read as values exactly when these are what the numbers stand for. -/
theorem valuesOfJson_eq_ok_iff (hproper : ∀ n ∈ ns, n.Proper) {vs : Values} :
    valuesOfJson name ns d = .ok vs ↔ vs.datatype = d ∧ Reads ns vs := by
  constructor
  · intro h
    refine ⟨datatype_of_valuesOfJson h, ?_⟩
    cases d with
    | fp32 =>
      cases h
      rfl
    | fp64 =>
      cases h
      rfl
    | int32 =>
      obtain ⟨ks, hks, h⟩ := map_eq_ok_iff.1 h
      cases h
      exact ((integerReading32 name).mapM_eq_ok_iff hproper).1 hks
    | int64 =>
      obtain ⟨ks, hks, h⟩ := map_eq_ok_iff.1 h
      cases h
      exact ((integerReading64 name).mapM_eq_ok_iff hproper).1 hks
  · rintro ⟨rfl, h⟩
    cases vs with
    | fp32 vs =>
      rw [show vs = _ from h]
      rfl
    | fp64 vs =>
      rw [show vs = _ from h]
      rfl
    | int32 ks =>
      exact map_eq_ok_iff.2 ⟨ks, ((integerReading32 name).mapM_eq_ok_iff hproper).2 h, rfl⟩
    | int64 ks =>
      exact map_eq_ok_iff.2 ⟨ks, ((integerReading64 name).mapM_eq_ok_iff hproper).2 h, rfl⟩

/-- Otherwise the first number that is not of the datatype is named. -/
theorem valuesOfJson_eq_error_iff (hproper : ∀ n ∈ ns, n.Proper) {e : Error} :
    valuesOfJson name ns d = .error e ↔ ∃ i n, FirstAt (fun n => ¬d.Takes n) ns i n ∧
      e = .datatypeMismatch name (.outOfType n d) := by
  have hall : (∀ n, d.Takes n) → ¬∃ i n, FirstAt (fun n => ¬d.Takes n) ns i n ∧
      e = .datatypeMismatch name (.outOfType n d) := by
    rintro htakes ⟨i, n, hfirst, -⟩
    exact hfirst.holds (htakes n)
  cases d with
  | fp32 => exact iff_of_false (fun h => by cases h) (hall fun n => trivial)
  | fp64 => exact iff_of_false (fun h => by cases h) (hall fun n => trivial)
  | int32 => exact map_eq_error_iff.trans ((integerReading32 name).mapM_eq_error_iff hproper)
  | int64 => exact map_eq_error_iff.trans ((integerReading64 name).mapM_eq_error_iff hproper)

/-- Values are read of numbers that are all of the datatype. -/
theorem exists_valuesOfJson_iff (name : String) (hproper : ∀ n ∈ ns, n.Proper) :
    (∃ vs, valuesOfJson name ns d = .ok vs) ↔ ∀ n ∈ ns, d.Takes n := by
  constructor
  · rintro ⟨vs, hvs⟩
    by_contra hlost
    push Not at hlost
    obtain ⟨i, n, hfirst⟩ := exists_firstAt hlost
    rw [(valuesOfJson_eq_error_iff hproper).2 ⟨i, n, hfirst, rfl⟩] at hvs
    cases hvs
  · intro htakes
    cases h : valuesOfJson name ns d with
    | ok vs => exact ⟨vs, rfl⟩
    | error e =>
      obtain ⟨i, n, hfirst, -⟩ := (valuesOfJson_eq_error_iff hproper).1 h
      exact absurd (htakes n hfirst.mem) hfirst.holds

/-! ### Verdicts -/

namespace TensorDocument

/-- The tag that counts: doubles when none is given. -/
def tag (doc : TensorDocument) : String :=
  doc.datatype.getD "FP64"

/-- What is answered to a document whose data have these leaves. The first check that fails
decides. -/
inductive Verdict (doc : TensorDocument) (leaves : List Value) : Except Error Tensor → Prop where
  | unknownDatatype (unknown : ∀ d : Datatype, d.tag ≠ doc.tag) :
      Verdict doc leaves (.error (.unsupported (.datatype doc.tag)))
  | refusedShape {d : Datatype} {cause : Malformed} (datatype : d.tag = doc.tag)
      (refused : Shape.ofWire doc.shape = .error cause.error) :
      Verdict doc leaves (.error cause.error)
  | nonNumeric {d : Datatype} {shape : Shape} {i : Nat} {leaf : Value} (datatype : d.tag = doc.tag)
      (gate : Shape.ofWire doc.shape = .ok shape)
      (first : FirstAt (fun v => ∀ n, v ≠ .number n) leaves i leaf) :
      Verdict doc leaves (.error (Malformed.nonNumericLeaf doc.name leaf).error)
  | outOfType {d : Datatype} {shape : Shape} {ns : List Number} {i : Nat} {n : Number}
      (datatype : d.tag = doc.tag) (gate : Shape.ofWire doc.shape = .ok shape)
      (numeric : leaves = ns.map .number) (first : FirstAt (fun n => ¬d.Takes n) ns i n) :
      Verdict doc leaves (.error (.datatypeMismatch doc.name (.outOfType n d)))
  | miscounted {d : Datatype} {shape : Shape} {ns : List Number} (datatype : d.tag = doc.tag)
      (gate : Shape.ofWire doc.shape = .ok shape) (numeric : leaves = ns.map .number)
      (takes : ∀ n ∈ ns, d.Takes n) (count : shape.count ≠ leaves.length) :
      Verdict doc leaves (.error (.shapeMismatch doc.name shape.dims shape.count leaves.length))
  | accepted {shape : Shape} {ns : List Number} {values : Values}
      (datatype : values.datatype.tag = doc.tag) (gate : Shape.ofWire doc.shape = .ok shape)
      (numeric : leaves = ns.map .number) (takes : ∀ n ∈ ns, values.datatype.Takes n)
      (count : shape.count = leaves.length) (reads : Reads ns values) :
      Verdict doc leaves (.ok ⟨doc.name, shape, values⟩)

variable {doc : TensorDocument}

theorem toTensor_eq (doc : TensorDocument) : doc.toTensor = (do
    let d ← Datatype.parse doc.tag
    let shape ← Shape.ofWire doc.shape
    let ns ← numbers doc.name doc.data
    let values ← valuesOfJson doc.name ns d
    Tensor.make doc.name shape values) := by
  unfold toTensor tag
  cases doc.datatype <;> rfl

theorem proper_of_leaves_eq (hproper : doc.data.Proper) {ns : List Number}
    (hns : doc.data.leaves = ns.map .number) : ∀ n ∈ ns, n.Proper :=
  fun n hn => hproper (.number n) (hns ▸ List.mem_map_of_mem hn)

/-- A document is read as a verdict says. -/
theorem Verdict.toTensor_eq (hproper : doc.data.Proper) {r : Except Error Tensor}
    (h : doc.Verdict doc.data.leaves r) : doc.toTensor = r := by
  rw [TensorDocument.toTensor_eq]
  cases h with
  | unknownDatatype unknown =>
    rw [bind_of_error (Datatype.parse_eq_error_iff.2 ⟨unknown, rfl⟩)]
  | refusedShape datatype refused =>
    rw [bind_of_ok (Datatype.parse_eq_ok_iff.2 datatype), bind_of_error refused]
  | nonNumeric datatype gate first =>
    rw [bind_of_ok (Datatype.parse_eq_ok_iff.2 datatype), bind_of_ok gate,
      bind_of_error (numbers_eq_error_iff.2 ⟨_, _, first, rfl⟩)]
  | outOfType datatype gate numeric first =>
    have hns := proper_of_leaves_eq hproper numeric
    rw [bind_of_ok (Datatype.parse_eq_ok_iff.2 datatype), bind_of_ok gate,
      bind_of_ok (numbers_eq_ok_iff.2 numeric),
      bind_of_error ((valuesOfJson_eq_error_iff hns).2 ⟨_, _, first, rfl⟩)]
  | miscounted datatype gate numeric takes count =>
    have hns := proper_of_leaves_eq hproper numeric
    obtain ⟨vs, hvs⟩ := (exists_valuesOfJson_iff doc.name hns).2 takes
    have hlength : vs.length = doc.data.leaves.length := by
      rw [((valuesOfJson_eq_ok_iff hns).1 hvs).2.length_eq, numeric, List.length_map]
    rw [bind_of_ok (Datatype.parse_eq_ok_iff.2 datatype), bind_of_ok gate,
      bind_of_ok (numbers_eq_ok_iff.2 numeric), bind_of_ok hvs, Tensor.make,
      if_neg (hlength ▸ count), hlength]
  | accepted datatype gate numeric takes count reads =>
    have hns := proper_of_leaves_eq hproper numeric
    rw [bind_of_ok (Datatype.parse_eq_ok_iff.2 datatype), bind_of_ok gate,
      bind_of_ok (numbers_eq_ok_iff.2 numeric),
      bind_of_ok ((valuesOfJson_eq_ok_iff hns).2 ⟨rfl, reads⟩), Tensor.make, if_pos]
    rw [reads.length_eq, count, numeric, List.length_map]

/-- Every document has a verdict, which is what it is read as. -/
theorem verdict_toTensor (hproper : doc.data.Proper) :
    doc.Verdict doc.data.leaves doc.toTensor := by
  rw [toTensor_eq]
  cases hd : Datatype.parse doc.tag with
  | error e =>
    obtain ⟨hunknown, rfl⟩ := Datatype.parse_eq_error_iff.1 hd
    exact .unknownDatatype hunknown
  | ok d =>
    have htag := Datatype.parse_eq_ok_iff.1 hd
    rw [bind_of_ok rfl]
    cases hshape : Shape.ofWire doc.shape with
    | error e =>
      obtain ⟨cause, rfl⟩ := Shape.malformed_of_ofWire hshape
      exact .refusedShape htag hshape
    | ok shape =>
      rw [bind_of_ok rfl]
      cases hns : numbers doc.name doc.data with
      | error e =>
        obtain ⟨i, leaf, hfirst, rfl⟩ := numbers_eq_error_iff.1 hns
        exact .nonNumeric htag hshape hfirst
      | ok ns =>
        rw [bind_of_ok rfl]
        have hnumeric := numbers_eq_ok_iff.1 hns
        have hnsproper := proper_of_leaves_eq hproper hnumeric
        cases hvs : valuesOfJson doc.name ns d with
        | error e =>
          obtain ⟨i, n, hfirst, rfl⟩ := (valuesOfJson_eq_error_iff hnsproper).1 hvs
          exact .outOfType htag hshape hnumeric hfirst
        | ok vs =>
          have htakes := (exists_valuesOfJson_iff _ hnsproper).1 ⟨vs, hvs⟩
          obtain ⟨rfl, hreads⟩ := (valuesOfJson_eq_ok_iff hnsproper).1 hvs
          have hlength : vs.length = doc.data.leaves.length := by
            rw [hreads.length_eq, hnumeric, List.length_map]
          rw [bind_of_ok rfl, Tensor.make, hlength]
          split
          · rename_i hcount
            exact .accepted htag hshape hnumeric htakes hcount hreads
          · rename_i hcount
            exact .miscounted htag hshape hnumeric htakes hcount

/-- What a tensor read from a document is. -/
structure Holds (doc : TensorDocument) (leaves : List Value) (t : Tensor) : Prop where
  name : t.name = doc.name
  datatype : t.datatype.tag = doc.tag
  shape : t.shape.toWire = doc.shape
  values : ∃ ns, leaves = ns.map .number ∧ Reads ns t.values

theorem holds_of_toTensor (hproper : doc.data.Proper) {t : Tensor} (h : doc.toTensor = .ok t) :
    doc.Holds doc.data.leaves t := by
  have hverdict := verdict_toTensor hproper
  rw [h] at hverdict
  cases hverdict with
  | accepted datatype gate numeric takes count reads =>
    exact ⟨rfl, datatype, Shape.toWire_of_ofWire gate, _, numeric, reads⟩

/-- What is asked of a document: a known datatype, dimensions that pass the gate, and leaves that
are numbers of the datatype, as many as the dimensions multiply to. -/
def Acceptable (doc : TensorDocument) (leaves : List Value) : Prop :=
  ∃ (d : Datatype) (shape : Shape) (ns : List Number), d.tag = doc.tag ∧
    Shape.ofWire doc.shape = .ok shape ∧ leaves = ns.map .number ∧ (∀ n ∈ ns, d.Takes n) ∧
    leaves.length = shape.count

theorem exists_toTensor_iff (hproper : doc.data.Proper) :
    (∃ t, doc.toTensor = .ok t) ↔ doc.Acceptable doc.data.leaves := by
  constructor
  · rintro ⟨t, ht⟩
    have hverdict := verdict_toTensor hproper
    rw [ht] at hverdict
    cases hverdict with
    | accepted datatype gate numeric takes count reads =>
      exact ⟨_, _, _, datatype, gate, numeric, takes, count.symm⟩
  · rintro ⟨d, shape, ns, htag, gate, numeric, takes, count⟩
    have hns := proper_of_leaves_eq hproper numeric
    obtain ⟨vs, hvs⟩ := (exists_valuesOfJson_iff doc.name hns).2 takes
    obtain ⟨rfl, hreads⟩ := (valuesOfJson_eq_ok_iff hns).1 hvs
    exact ⟨_, (Verdict.accepted htag gate numeric takes count.symm hreads).toTensor_eq hproper⟩

/-- **What a document is read as**: its verdict, which the leaves of its data decide under any
nesting. It is a tensor exactly when the document is acceptable, and then one that holds what the
document says. -/
theorem toTensor_iff_verdict {leaves : List Value} (hleaves : Json.Leaves doc.data leaves)
    (hproper : doc.data.Proper) :
    (∀ r, doc.toTensor = r ↔ doc.Verdict leaves r) ∧
    (∀ data, Json.Leaves data leaves →
      ({ doc with data := data } : TensorDocument).toTensor = doc.toTensor) ∧
    ((∃ t, doc.toTensor = .ok t) ↔ doc.Acceptable leaves) ∧
    ∀ t, doc.toTensor = .ok t → doc.Holds leaves t := by
  have heq := hleaves.eq
  subst heq
  refine ⟨fun r => ⟨?_, fun h => h.toTensor_eq hproper⟩, fun data hdata => ?_,
    exists_toTensor_iff hproper, fun t ht => holds_of_toTensor hproper ht⟩
  · rintro rfl
    exact verdict_toTensor hproper
  · rw [toTensor, toTensor, numbers, numbers, hdata.eq]

/-- Numbers under a ragged nesting; a null that is told before a fraction in front of it; and an
integer out of range that is told before the count. -/
theorem toTensor_iff_verdict_ragged :
    let ragged : TensorDocument := ⟨"p", [3], none, .array [.array [.int 1, .array
      [.double ⟨0x4004000000000000⟩]], .array [], .int (-3)]⟩
    let mixed : TensorDocument := ⟨"q", [7], some "INT32", .array [.double ⟨0x3ff8000000000000⟩,
      .array [.null], .int 2147483648]⟩
    let wide : TensorDocument := ⟨"w", [7], some "INT32", .array [.int 5, .array [.int 2147483648]]⟩
    (Json.Leaves ragged.data [.int 1, .double ⟨0x4004000000000000⟩, .int (-3)] ∧
      ragged.data.Proper ∧ ragged.toTensor = .ok ⟨"p", ⟨[3]⟩, .fp64
        [⟨0x3ff0000000000000⟩, ⟨0x4004000000000000⟩, ⟨0xc008000000000000⟩]⟩) ∧
    (mixed.data.Proper ∧
      mixed.toTensor = .error (Malformed.nonNumericLeaf "q" .null).error) ∧
    wide.data.Proper ∧
      wide.toTensor = .error (.datatypeMismatch "w" (.outOfType (.integer 2147483648) .int32)) := by
  intro ragged mixed wide
  have hragged : ragged.data.Proper := by decide
  have hmixed : mixed.data.Proper := by decide
  have hwide : wide.data.Proper := by decide
  have hleaves : Json.Leaves ragged.data [.int 1, .double ⟨0x4004000000000000⟩, .int (-3)] :=
    Json.leaves_leaves _
  have hnumeric : [.int 1, .double ⟨0x4004000000000000⟩, .int (-3)] =
      [.integer 1, .double ⟨0x4004000000000000⟩, .integer (-3)].map Value.number := rfl
  have hnull : FirstAt (fun v => ∀ n, v ≠ .number n) mixed.data.leaves 1 .null := by
    refine ⟨rfl, ?_, fun j v hj hv hnumber => ?_⟩
    · intro n h
      cases h
    · obtain rfl : j = 0 := by omega
      cases hv
      exact hnumber _ rfl
  have hwide' : wide.data.leaves = [.integer 5, .integer 2147483648].map .number := rfl
  have hrange : FirstAt (fun n => ¬Datatype.int32.Takes n) [.integer 5, .integer 2147483648] 1
      (.integer 2147483648) := by
    refine ⟨rfl, fun h => absurd h.2 (by decide), fun j n hj hn hlost => ?_⟩
    obtain rfl : j = 0 := by omega
    cases hn
    exact hlost ⟨by decide, by decide⟩
  obtain ⟨hread, -⟩ := toTensor_iff_verdict hleaves hragged
  obtain ⟨hread', -⟩ := toTensor_iff_verdict (Json.leaves_leaves _) hmixed
  obtain ⟨hread'', -⟩ := toTensor_iff_verdict (Json.leaves_leaves _) hwide
  have htag : Datatype.int32.tag = "INT32" := rfl
  have hgate : Shape.ofWire [7] = .ok ⟨[7]⟩ := rfl
  refine ⟨⟨hleaves, hragged, ?_⟩, ⟨hmixed, ?_⟩, hwide, ?_⟩
  · exact (hread _).2 (.accepted rfl rfl hnumeric (fun _ _ => trivial) rfl rfl)
  · exact (hread' _).2 (.nonNumeric htag hgate hnull)
  · exact (hread'' _).2 (.outOfType htag hgate hwide' hrange)

end TensorDocument

end Rest

end ModelProbe

import ModelProbe.Proofs.Grpc.Message

/-! Which lists of an output's contents are looked at.

Contents have eight lists, and four of them belong to datatypes. Without raw buffers an output is
refused with a datatype mismatch exactly when one of these four holds values and is not the
declared one, whatever the declared list holds and whatever the shape is (`other_numbers_refused`).
The lists of booleans, of unsigned integers and of byte strings are never looked at, so values that
stand there are lost without a word (`not_elsewhere_refused`). -/
namespace ModelProbe.Grpc

variable {c : Contents} {d : Datatype} {name : String}

/-- A list that belongs to another datatype holds values. -/
def Contents.HasOtherNumbers (c : Contents) (declared : Datatype) : Prop :=
  ∃ other, other ≠ declared ∧ (c.values other).length ≠ 0

/-- Any list but the declared one holds values. -/
def Contents.HasElsewhere (c : Contents) (declared : Datatype) : Prop :=
  c.HasOtherNumbers declared ∨ c.bools ≠ [] ∨ c.uints ≠ [] ∨ c.uints64 ≠ [] ∨ c.bytes ≠ []

/-! ### The check of the four lists -/

/-- What the check finds is a list of another datatype that holds values. -/
theorem foreign?_eq_some {other : Datatype} (h : c.foreign? d = some other) :
    other ≠ d ∧ (c.values other).length ≠ 0 := by
  simpa using List.find?_some h

/-- Every datatype is among those whose lists are checked. -/
theorem foreign?_eq_none_iff : c.foreign? d = none ↔ ¬c.HasOtherNumbers d := by
  rw [Contents.foreign?, List.find?_eq_none]
  constructor
  · rintro h ⟨other, hother, hlength⟩
    have hmem : other ∈ [Datatype.fp32, .fp64, .int32, .int64] := by cases other <;> decide
    exact h other hmem (by simp [hother, hlength])
  · intro h other _ hfound
    exact h ⟨other, by simpa using hfound⟩

theorem typedValues_of_not_other (h : ¬c.HasOtherNumbers d) :
    typedValues name d c = .ok (c.values d) := by
  rw [typedValues, foreign?_eq_none_iff.2 h]

theorem exists_typedValues_eq_error (h : c.HasOtherNumbers d) :
    ∃ other, other ≠ d ∧ (c.values other).length ≠ 0 ∧
      typedValues name d c = .error (.datatypeMismatch name (.otherContents d other)) := by
  cases hfind : c.foreign? d with
  | none => exact absurd h (foreign?_eq_none_iff.1 hfind)
  | some other =>
    obtain ⟨hother, hlength⟩ := foreign?_eq_some hfind
    exact ⟨other, hother, hlength, by rw [typedValues, hfind]⟩

/-! ### Outputs without raw buffers -/

/-- **Numbers of another datatype are refused.** An output the reader gets to, of an answer without
raw buffers, makes the answer fail with a datatype mismatch that names the declared datatype and
another whose list holds values, if there is one. If there is none, the declared list alone decides,
and what it gives is no datatype mismatch. -/
theorem other_numbers_refused {m : ResponseMessage} (hraw : m.rawContents = []) {i : Nat}
    {o : TensorMessage} (h : m.Reached i o) {d : Datatype} {shape : Shape}
    (htag : Datatype.parse o.datatype = .ok d) (hshape : Shape.ofWire o.shape = .ok shape) :
    ((o.contents.getD {}).HasOtherNumbers d →
      ∃ other, other ≠ d ∧ ((o.contents.getD {}).values other).length ≠ 0 ∧
        m.toResponse = .error (.datatypeMismatch o.name (.otherContents d other))) ∧
    (¬(o.contents.getD {}).HasOtherNumbers d →
      outputTensor m.rawContents i o =
        Tensor.make o.name shape ((o.contents.getD {}).values d) ∧
      ∀ name fault, outputTensor m.rawContents i o ≠ .error (.datatypeMismatch name fault)) := by
  have hread : outputTensor m.rawContents i o = (do
      Tensor.make o.name shape (← typedValues o.name d (o.contents.getD {}))) := by
    rw [hraw, outputTensor_typed htag, hshape]
    rfl
  constructor
  · intro hother
    obtain ⟨other, hne, hlength, herror⟩ := exists_typedValues_eq_error hother
    refine ⟨other, hne, hlength, h.toResponse_eq_error ?_⟩
    rw [hread]
    exact bind_of_error herror _
  · intro hnone
    have hmake : outputTensor m.rawContents i o =
        Tensor.make o.name shape ((o.contents.getD {}).values d) := by
      rw [hread]
      exact bind_of_ok (typedValues_of_not_other hnone) _
    refine ⟨hmake, fun name fault herror => ?_⟩
    -- Counting the values gives a tensor or a shape mismatch.
    rw [hmake, Tensor.make] at herror
    split at herror <;> cases herror

/-- The second output declares INT32 and holds values of it, and of FP64 as well. -/
theorem other_numbers_refused_second :
    let first : TensorMessage := ⟨"a", "FP32", [1], some { fp32 := [⟨0x3f800000⟩] }⟩
    let second : TensorMessage :=
      ⟨"b", "INT32", [2, 0], some { ints := [7], fp64 := [⟨0x3ff0000000000000⟩] }⟩
    let m : ResponseMessage := { outputs := [first, second] }
    m.rawContents = [] ∧ m.Reached 1 second ∧ Datatype.parse "INT32" = .ok .int32 ∧
      Shape.ofWire second.shape = .ok ⟨[2, 0]⟩ ∧ (second.contents.getD {}).HasOtherNumbers .int32 ∧
      ∃ other, other ≠ .int32 ∧ ((second.contents.getD {}).values other).length ≠ 0 ∧
        m.toResponse = .error (.datatypeMismatch "b" (.otherContents .int32 other)) := by
  intro first second m
  have hreached : m.Reached 1 second := by
    refine ⟨rfl, fun j o hj ho => ?_⟩
    obtain rfl : j = 0 := by omega
    cases ho
    exact ⟨⟨"a", ⟨[1]⟩, .fp32 [⟨0x3f800000⟩]⟩, rfl⟩
  have hother : (second.contents.getD {}).HasOtherNumbers .int32 := ⟨.fp64, by decide, by decide⟩
  exact ⟨rfl, hreached, rfl, rfl, hother, (other_numbers_refused rfl hreached rfl rfl).1 hother⟩

/-- Not everything that stands elsewhere is refused: an output of one double is accepted with a
boolean beside it. -/
theorem not_elsewhere_refused :
    ¬∀ (m : ResponseMessage) (i : Nat) (o : TensorMessage) (d : Datatype) (shape : Shape),
      m.rawContents = [] → m.Reached i o → Datatype.parse o.datatype = .ok d →
      Shape.ofWire o.shape = .ok shape → (o.contents.getD {}).HasElsewhere d →
      ∃ name fault, m.toResponse = .error (.datatypeMismatch name fault) := by
  intro h
  let o : TensorMessage :=
    ⟨"p", "FP64", [1], some { fp64 := [⟨0x3ff0000000000000⟩], bools := [true] }⟩
  have haccepted : ResponseMessage.toResponse { outputs := [o] } =
      .ok ⟨"", none, none, [⟨"p", ⟨[1]⟩, .fp64 [⟨0x3ff0000000000000⟩]⟩]⟩ := rfl
  have hreached : ResponseMessage.Reached { outputs := [o] } 0 o :=
    ResponseMessage.reached_first rfl
  have helsewhere : (o.contents.getD {}).HasElsewhere .fp64 := .inr (.inl (by decide))
  obtain ⟨name, fault, hfails⟩ := h _ 0 o .fp64 ⟨[1]⟩ rfl hreached rfl rfl helsewhere
  rw [haccepted] at hfails
  cases hfails

end ModelProbe.Grpc

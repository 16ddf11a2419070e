import ModelProbe.Proofs.Grpc.Encoding
import ModelProbe.Proofs.Grpc.Message

/-! A request sent back is its own answer.

Requests and answers have their names, their id and their tensors under the same numbers. So the
bytes of a request can be read as an answer, and this answer holds the request's names, its id and
exactly its tensors, whatever their datatypes and values (`echo`). -/
namespace ModelProbe.Grpc

open Wire (Sized)

/-- An absent version and an empty one are written alike. -/
theorem nonEmpty_getD (version : Option String) :
    nonEmpty (version.getD "") = version.bind nonEmpty := by
  cases version <;> rfl

/-- **The echo.** The bytes of a request whose tensors were built, as many as a machine word can
count, are those of an answer, and that answer has the request's names and id, none for an empty
one, and its tensors in their order, bit for bit. -/
theorem echo {request : InferRequest} (hbuilt : ∀ t ∈ request.inputs, t.Built)
    (hsized : Sized (RequestMessage.ofRequest request).encode) :
    ∃ m, ResponseMessage.decode? (RequestMessage.ofRequest request).encode = some m ∧
      m.toResponse = .ok ⟨request.modelName, request.modelVersion.bind nonEmpty,
        nonEmpty request.id, request.inputs⟩ := by
  refine ⟨_, decode?_request hsized, ?_⟩
  rw [toResponse_of_carries rfl (ofRequest_carries request), Tensor.mapM_received hbuilt]
  show Except.ok (InferResponse.mk _ (nonEmpty (request.modelVersion.getD "")) _ _) = _
  rw [nonEmpty_getD]
  rfl

/-- Negative integers, which take ten bytes, and a NaN, a negative zero and an infinity, under
names outside ASCII. -/
theorem echo_negative :
    let integers : Tensor := ⟨"größe", ⟨[2, 2]⟩, .int32 [-1, 0, 2147483647, -2147483648]⟩
    let wide : Tensor := ⟨"", ⟨[]⟩, .int64 [-9223372036854775808]⟩
    let singles : Tensor := ⟨"x", ⟨[3]⟩, .fp32 [⟨0x7fc00001⟩, ⟨0x80000000⟩, ⟨0xff800000⟩]⟩
    let none_ : Tensor := ⟨"x", ⟨[0, 4]⟩, .fp64 []⟩
    let request : InferRequest := ⟨"m", some "", "", [integers, wide, singles, none_]⟩
    (∀ t ∈ request.inputs, t.Built) ∧ Sized (RequestMessage.ofRequest request).encode ∧
    ∃ m, ResponseMessage.decode? (RequestMessage.ofRequest request).encode = some m ∧
      m.toResponse = .ok ⟨"m", none, none, [integers, wide, singles, none_]⟩ := by
  intro integers wide singles none_ request
  have hbuilt : ∀ t ∈ request.inputs, t.Built := by
    refine List.forall_mem_cons.2 ⟨⟨[2, 2], ⟨[2, 2]⟩, rfl, rfl⟩, ?_⟩
    refine List.forall_mem_cons.2 ⟨⟨[], ⟨[]⟩, rfl, rfl⟩, ?_⟩
    refine List.forall_mem_cons.2 ⟨⟨[3], ⟨[3]⟩, rfl, rfl⟩, ?_⟩
    exact List.forall_mem_singleton.2 ⟨[0, 4], ⟨[0, 4]⟩, rfl, rfl⟩
  have hsized : Sized (RequestMessage.ofRequest request).encode := by
    rw [Sized]
    decide +kernel
  exact ⟨hbuilt, hsized, echo hbuilt hsized⟩

end ModelProbe.Grpc

import ModelProbe.Proofs.Grpc.Message
import ModelProbe.Proofs.Rest.Document

/-! Either protocol carries the same call.

A binary message and a JSON document that carry the same tensors are answers with the same
meaning: decoded, they give the same matrix or fail in the same way, also when a tensor's shape or
the number of its values is refused. And what the two protocols send for one request carries the
request's id and its tensors on both sides (`exchange_agrees`). -/
namespace ModelProbe

open Grpc (RequestMessage ResponseMessage TensorMessage)
open Rest (RequestDocument ResponseDocument TensorDocument)

/-- Decoding looks at the outputs alone. -/
theorem Codec.decode_congr {r r' : InferResponse} (h : r.outputs = r'.outputs) :
    decode r = decode r' := by
  rw [decode, decode, h]

/-- Answers that carry the same tensors are decoded alike. -/
theorem decode_agrees {outputs : List Tensor} (hfinite : ∀ t ∈ outputs, t.values.Finite)
    {m : ResponseMessage} (hraw : m.rawContents = [])
    (hm : List.Forall₂ TensorMessage.Carries m.outputs outputs)
    {doc : ResponseDocument} (hdoc : List.Forall₂ TensorDocument.Carries doc.outputs outputs) :
    m.toResponse.bind Codec.decode = doc.toResponse.bind Codec.decode := by
  rw [Grpc.toResponse_of_carries hraw hm, Rest.toResponse_of_carries hfinite hdoc]
  cases outputs.mapM Tensor.received with
  | error e => rfl
  | ok received => exact Codec.decode_congr rfl

/-- **Either protocol will do.** Of one request with finite values the message and the document
carry the same id and the same tensors. Of answers that carry the same finite values, one in typed
lists and the other in arrays nested in any way, the decoded matrix is the same or the error is;
and tensors that were built reach the decoder unchanged over both. -/
theorem exchange_agrees {request : InferRequest}
    (hrequest : ∀ t ∈ request.inputs, t.values.Finite)
    {outputs : List Tensor} (houtputs : ∀ t ∈ outputs, t.values.Finite)
    {m : ResponseMessage} (hraw : m.rawContents = [])
    (hm : List.Forall₂ TensorMessage.Carries m.outputs outputs)
    {doc : ResponseDocument} (hdoc : List.Forall₂ TensorDocument.Carries doc.outputs outputs) :
    (∃ sent, RequestDocument.ofRequest request = .ok sent ∧
      sent.id = some request.id ∧ (RequestMessage.ofRequest request).id = request.id ∧
      List.Forall₂ TensorDocument.Carries sent.inputs request.inputs ∧
      List.Forall₂ TensorMessage.Carries (RequestMessage.ofRequest request).inputs
        request.inputs) ∧
    m.toResponse.bind Codec.decode = doc.toResponse.bind Codec.decode ∧
    ((∀ t ∈ outputs, t.Built) →
      (∃ r, m.toResponse = .ok r ∧ r.outputs = outputs) ∧
      (∃ r, doc.toResponse = .ok r ∧ r.outputs = outputs)) := by
  refine ⟨?_, decode_agrees houtputs hraw hm hdoc, fun hbuilt => ⟨?_, ?_⟩⟩
  · obtain ⟨sent, hsent, hid, hcarries⟩ := Rest.ofRequest_carries hrequest
    exact ⟨sent, hsent, hid, rfl, hcarries, Grpc.ofRequest_carries request⟩
  · rw [Grpc.toResponse_of_carries hraw hm, Tensor.mapM_received hbuilt]
    exact ⟨_, rfl, rfl⟩
  · rw [Rest.toResponse_of_carries houtputs hdoc, Tensor.mapM_received hbuilt]
    exact ⟨_, rfl, rfl⟩

/-- A matrix of singles, of the decimal `0.1`, a negative zero, the smallest and the greatest,
and a column of integers, which the document nests deeper than its shape. -/
theorem exchange_agrees_nested :
    let table : Tensor := ⟨"p", ⟨[2, 2]⟩, .fp32
      [⟨0x3dcccccd⟩, ⟨0x80000000⟩, ⟨0x00000001⟩, ⟨0x7f7fffff⟩]⟩
    let labels : Tensor := ⟨"label", ⟨[2]⟩, .int64 [-1, 9007199254740993]⟩
    let request : InferRequest := ⟨"m", none, "7", [table]⟩
    let m : ResponseMessage := { outputs := [.ofTensor table, .ofTensor labels] }
    let doc : ResponseDocument := ⟨"m", none, none,
      [⟨"p", [2, 2], some "FP32", .array
        [.array [.double ⟨0x3fb99999a0000000⟩, .double ⟨0x8000000000000000⟩],
          .array [.double ⟨0x36a0000000000000⟩, .double ⟨0x47efffffe0000000⟩]]⟩,
      ⟨"label", [2], some "INT64", .array [.int (-1), .array [.int 9007199254740993]]⟩]⟩
    (∀ t ∈ [table, labels], t.Built) ∧
    (∃ sent, RequestDocument.ofRequest request = .ok sent ∧ sent.id = some "7" ∧
      List.Forall₂ TensorDocument.Carries sent.inputs [table] ∧
      List.Forall₂ TensorMessage.Carries (RequestMessage.ofRequest request).inputs [table]) ∧
    m.toResponse.bind Codec.decode = doc.toResponse.bind Codec.decode ∧
    (∃ r, m.toResponse = .ok r ∧ r.outputs = [table, labels]) ∧
    ∃ r, doc.toResponse = .ok r ∧ r.outputs = [table, labels] := by
  intro table labels request m doc
  have hfinite : ∀ t ∈ [table, labels], t.values.Finite := by decide
  have hbuilt : ∀ t ∈ [table, labels], t.Built :=
    List.forall_mem_cons.2 ⟨⟨[2, 2], ⟨[2, 2]⟩, rfl, rfl⟩,
      List.forall_mem_singleton.2 ⟨[2], ⟨[2]⟩, rfl, rfl⟩⟩
  have hm : List.Forall₂ TensorMessage.Carries m.outputs [table, labels] :=
    .cons (Grpc.ofTensor_carries table) (.cons (Grpc.ofTensor_carries labels) .nil)
  have hdoc : List.Forall₂ TensorDocument.Carries doc.outputs [table, labels] :=
    .cons ⟨rfl, rfl, rfl, _, .cons (.cons (.number _) (.cons (.number _) .nil))
        (.cons (.cons (.number _) (.cons (.number _) .nil)) .nil), by decide⟩
      (.cons ⟨rfl, rfl, rfl, _, .cons (.number _) (.cons (.cons (.number _) .nil) .nil),
        by decide⟩ .nil)
  obtain ⟨⟨sent, hsent, hid, -, hinputs, hmessages⟩, hsame, hexact⟩ :=
    exchange_agrees (show ∀ t ∈ request.inputs, t.values.Finite by decide) hfinite
      (show m.rawContents = [] from rfl) hm hdoc
  exact ⟨hbuilt, ⟨sent, hsent, hid, hinputs, hmessages⟩, hsame, hexact hbuilt⟩

end ModelProbe

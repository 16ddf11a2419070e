import ModelProbe.Client.Basic
import ModelProbe.Proofs.Codec.RoundTrip
import ModelProbe.Proofs.Matrix.Rows

/-! What a client is asked and what it sends.

A world is `Tapped` by keeping a record beside it: the inputs a client is asked about, and every
request that goes out with the reply to it. A client that is `watched` writes the record and
otherwise does what it does without one. It sends nothing for an input that does not encode
(`watched_of_error`), and one request for any other (`watched_of_ok`). -/
namespace ModelProbe

variable {σ : Type}

/-- What a transport gives for a request. -/
abbrev Reply := Except Error InferResponse

structure Tapped (σ : Type) where
  world : σ
  /-- What predictions were asked for, oldest first. -/
  inputs : List ModelInput
  /-- The requests that were sent, oldest first. -/
  exchanges : List (InferRequest × Reply)

/-- Every request that is sent is put down with its reply. -/
def Transport.tapped (t : Transport σ) : Transport (Tapped σ) where
  name := t.name
  endpoint := t.endpoint
  send request w :=
    let (reply, world) := t.send request w.world
    (reply, ⟨world, w.inputs, w.exchanges ++ [(request, reply)]⟩)
  ready w :=
    let (answer, world) := t.ready w.world
    (answer, { w with world })

namespace Client

/-- The same client over the tapped transport. -/
def tapped (c : Client σ) : Client (Tapped σ) :=
  ⟨c.transport.tapped, c.codec, fun w => c.requestId w.world⟩

/-- The tapped client, with every input it is asked about put down. -/
def watched (c : Client σ) : Predictor (Tapped σ) := fun input w =>
  c.tapped.predict input { w with inputs := w.inputs ++ [input] }

variable {c : Client σ} {input : ModelInput}

/-- The request for a tensor. -/
def ask (c : Client σ) (world : σ) (tensor : Tensor) : InferRequest :=
  ⟨c.transport.endpoint.modelName, c.transport.endpoint.modelVersion, c.requestId world, [tensor]⟩

theorem predict_of_error {e : Error} (h : c.codec.encode input = .error e) (world : σ) :
    c.predict input world = (.error e, world) := by
  have hrequest : c.codec.request c.transport.endpoint (c.requestId world) input = .error e := by
    rw [Codec.request, h]
    rfl
  rw [predict, hrequest]

theorem predict_of_ok {tensor : Tensor} (h : c.codec.encode input = .ok tensor) (world : σ) :
    c.predict input world =
      ((c.transport.send (c.ask world tensor) world).1.bind Codec.decode,
        (c.transport.send (c.ask world tensor) world).2) := by
  have hrequest : c.codec.request c.transport.endpoint (c.requestId world) input =
      .ok (c.ask world tensor) := by
    rw [Codec.request, h]
    rfl
  rw [predict, hrequest]

/-- An input that does not encode is answered with the reason, and nothing is sent. -/
theorem watched_of_error {e : Error} (h : c.codec.encode input = .error e) (w : Tapped σ) :
    c.watched input w = (.error e, { w with inputs := w.inputs ++ [input] }) ∧
      c.predict input w.world = (.error e, w.world) := by
  have htapped : c.tapped.codec.encode input = .error e := h
  exact ⟨predict_of_error htapped _, predict_of_error h _⟩

/-- Any other is answered with what the reply to its one request decodes to. -/
theorem watched_of_ok {tensor : Tensor} (h : c.codec.encode input = .ok tensor) (w : Tapped σ) :
    ∃ reply world', c.transport.send (c.ask w.world tensor) w.world = (reply, world') ∧
      c.watched input w = (reply.bind Codec.decode,
        ⟨world', w.inputs ++ [input], w.exchanges ++ [(c.ask w.world tensor, reply)]⟩) ∧
      c.predict input w.world = (reply.bind Codec.decode, world') := by
  have htapped : c.tapped.codec.encode input = .ok tensor := h
  exact ⟨_, _, rfl, predict_of_ok htapped _, predict_of_ok h _⟩

end Client

/-! ### The tensor of a matrix -/

namespace Codec

/-- A matrix row by row, at the codec's precision. -/
structure Lays (c : Codec) (m : Matrix Double) (t : Tensor) : Prop where
  name : t.name = c.inputName
  dims : t.shape.dims = [m.rows, m.cols]
  datatype : t.datatype = c.datatype.getD .fp64
  length : t.values.length = m.rows * m.cols
  entries : ∀ i < m.rows, ∀ j < m.cols, ∃ x y, m.get? i j = some x ∧
    t.values.get? (i * m.cols + j) = some y ∧ y.StandsFor (.fp64 x)

theorem lays_of_encode {c : Codec} {m : Matrix Double} {t : Tensor}
    (h : c.encode (.fp64 m) = .ok t) : c.Lays m t := by
  rw [encode_eq] at h
  obtain ⟨vs, hvs, h⟩ := bind_eq_ok_iff.1 h
  cases hvs
  obtain ⟨ws, hws, h⟩ := bind_eq_ok_iff.1 h
  obtain ⟨hdatatype, hlength, hcast⟩ := cast_eq_ok hws
  unfold Tensor.make at h
  split at h
  · rename_i hcount
    cases h
    rw [count_pair] at hcount
    have hregular : m.Regular := hlength.symm.trans hcount.symm
    refine ⟨rfl, rfl, hdatatype, hcount.symm, fun i hi j hj => ?_⟩
    obtain ⟨x, hx⟩ := hregular.exists_get? hi hj
    rw [Matrix.get?, if_pos hj] at hx
    obtain ⟨y, hy, hstands⟩ := hcast (i * m.cols + j) (.fp64 x) (by simp [Values.get?, hx])
    exact ⟨x, y, by rw [Matrix.get?, if_pos hj, hx], hy, hstands⟩
  · cases h

end Codec

end ModelProbe

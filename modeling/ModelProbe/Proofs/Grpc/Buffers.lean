import ModelProbe.Proofs.Grpc.Message
import ModelProbe.Proofs.Tensor.Counted
import ModelProbe.Proofs.Wire.Fixed

/-! Outputs whose values travel as raw buffers.

`Values.packed` writes values at the width of their datatype, little-endian and without gaps, and a
buffer is read as just the values that are written as it (`rawValues_eq_ok_iff`): every bit pattern
comes through, and a buffer that is no whole number of values is refused. An answer with raw
buffers is accepted exactly when every output finds a buffer at its own position that fills it
(`raw_outputs`), so what stands in further buffers or in typed lists is lost (`not_all_read`). -/
namespace ModelProbe

/-! ### Values as bytes -/

namespace Values

/-- The bit patterns of the values. -/
def bits : Values → List Nat
  | fp32 vs => vs.map fun x => x.bits.toNat
  | fp64 vs => vs.map fun x => x.bits.toNat
  | int32 vs => vs.map fun n => n.toUInt32.toNat
  | int64 vs => vs.map fun n => n.toUInt64.toNat

/-- The values one after another, each at the width of the datatype, little-endian. -/
def packed (vs : Values) : Wire.Bytes :=
  vs.bits.flatMap (Wire.littleEndian vs.datatype.width)

theorem length_bits (vs : Values) : vs.bits.length = vs.length := by
  cases vs <;> exact List.length_map _

theorem length_packed (vs : Values) : vs.packed.length = vs.length * vs.datatype.width := by
  have hall : vs.bits.map (fun n => (Wire.littleEndian vs.datatype.width n).length) =
      List.replicate vs.bits.length vs.datatype.width :=
    List.map_eq_replicate_iff.2 fun n _ => Wire.length_littleEndian _ n
  rw [packed, List.length_flatMap, hall, List.sum_replicate_nat, length_bits]

end Values

theorem Datatype.width_pos (d : Datatype) : 0 < d.width := by
  cases d <;> decide

namespace Grpc

open Wire (Bytes)

variable {d : Datatype} {name : String} {vs : Values} {buffer : Bytes}

/-- Bit patterns fit the width of their datatype. -/
theorem lt_of_mem_bits {n : Nat} (h : n ∈ vs.bits) : n < 256 ^ vs.datatype.width := by
  cases vs with
  | fp32 xs =>
    obtain ⟨x, -, rfl⟩ := List.mem_map.1 h
    exact x.bits.toNat_lt
  | fp64 xs =>
    obtain ⟨x, -, rfl⟩ := List.mem_map.1 h
    exact x.bits.toNat_lt
  | int32 ks =>
    obtain ⟨k, -, rfl⟩ := List.mem_map.1 h
    exact k.toUInt32.toNat_lt
  | int64 ks =>
    obtain ⟨k, -, rfl⟩ := List.mem_map.1 h
    exact k.toUInt64.toNat_lt

/-- A list that is mapped there and back. -/
theorem map_map_eq_self {α β : Type} {f : α → β} {g : β → α} {xs : List α}
    (h : ∀ x ∈ xs, g (f x) = x) : (xs.map f).map g = xs := by
  rw [List.map_map]
  exact (List.map_congr_left h).trans (List.map_id xs)

/-- Values have their bit patterns. -/
theorem valuesOfBits_bits (vs : Values) : valuesOfBits vs.bits vs.datatype = vs := by
  cases vs with
  | fp32 xs =>
    refine congrArg Values.fp32 (map_map_eq_self fun x _ => ?_)
    rw [UInt32.ofNat_toNat]
  | fp64 xs =>
    refine congrArg Values.fp64 (map_map_eq_self fun x _ => ?_)
    rw [UInt64.ofNat_toNat]
  | int32 ks =>
    refine congrArg Values.int32 (map_map_eq_self fun k _ => ?_)
    exact congrArg UInt32.toInt32 UInt32.ofNat_toNat
  | int64 ks =>
    refine congrArg Values.int64 (map_map_eq_self fun k _ => ?_)
    exact congrArg UInt64.toInt64 UInt64.ofNat_toNat

/-- Bit patterns that fit the width are those of their values. -/
theorem bits_valuesOfBits {ns : List Nat} (h : ∀ n ∈ ns, n < 256 ^ d.width) :
    (valuesOfBits ns d).bits = ns := by
  cases d with
  | fp32 => exact map_map_eq_self fun n hn => UInt32.toNat_ofNat_of_lt' (h n hn)
  | fp64 => exact map_map_eq_self fun n hn => UInt64.toNat_ofNat_of_lt' (h n hn)
  | int32 =>
    refine map_map_eq_self fun n hn => ?_
    rw [Int32.toUInt32_ofNat', UInt32.toNat_ofNat_of_lt' (h n hn)]
  | int64 =>
    refine map_map_eq_self fun n hn => ?_
    rw [Int64.toUInt64_ofNat', UInt64.toNat_ofNat_of_lt' (h n hn)]

/-! ### One buffer -/

/-- **A buffer is read as the values that are written as it.** -/
theorem rawValues_eq_ok_iff :
    rawValues name d buffer = .ok vs ↔ vs.datatype = d ∧ vs.packed = buffer := by
  constructor
  · intro h
    have hdatatype := datatype_of_rawValues h
    refine ⟨hdatatype, ?_⟩
    unfold rawValues at h
    split at h
    · rename_i pieces hpieces
      cases h
      obtain ⟨hlength, rfl⟩ := (Wire.pieces?_eq_some_iff d.width_pos).1 hpieces
      have hfits : ∀ n ∈ pieces.map Wire.ofLittleEndian, n < 256 ^ d.width := by
        intro n hn
        obtain ⟨piece, hpiece, rfl⟩ := List.mem_map.1 hn
        rw [← hlength piece hpiece]
        exact Wire.ofLittleEndian_lt piece
      have hback : (pieces.map Wire.ofLittleEndian).map (Wire.littleEndian d.width) = pieces :=
        map_map_eq_self fun piece hpiece => by
          rw [← hlength piece hpiece, Wire.littleEndian_ofLittleEndian]
      rw [Values.packed, hdatatype, bits_valuesOfBits hfits, List.flatMap_def, hback]
    · cases h
  · rintro ⟨rfl, rfl⟩
    obtain ⟨pieces, hpieces, hbits⟩ := Option.map_eq_some_iff.1
      (Wire.pieces?_flatMap_littleEndian vs.datatype.width_pos fun n hn => lt_of_mem_bits hn)
    unfold rawValues
    rw [Values.packed, hpieces]
    dsimp only
    rw [hbits, valuesOfBits_bits]

/-- A buffer that is no whole number of values is refused. -/
theorem rawValues_of_ragged (h : buffer.length % d.width ≠ 0) :
    rawValues name d buffer = .error (.datatypeMismatch name (.partialValue buffer.length d)) := by
  rw [rawValues, (Wire.pieces?_eq_none_iff d.width_pos).2 h]

/-- Any other buffer is read. -/
theorem exists_rawValues (name : String) (h : buffer.length % d.width = 0) :
    ∃ vs, rawValues name d buffer = .ok vs := by
  cases hpieces : Wire.pieces? d.width buffer with
  | none => exact absurd h ((Wire.pieces?_eq_none_iff d.width_pos).1 hpieces)
  | some pieces => exact ⟨_, by rw [rawValues, hpieces]⟩

/-! ### Outputs and their buffers -/

/-- The tensor is what the output declares, with the values that are written as the buffer. -/
structure TensorMessage.FilledBy (o : TensorMessage) (buffer : Bytes) (t : Tensor) : Prop where
  name : t.name = o.name
  datatype : Datatype.parse o.datatype = .ok t.datatype
  shape : Shape.ofWire o.shape = .ok t.shape
  count : t.shape.count = t.values.length
  packed : t.values.packed = buffer

variable {raw : List Bytes} {i : Nat} {o : TensorMessage} {t : Tensor}

/-- An output's own buffer is read once the tag is known. -/
theorem outputTensor_raw (htag : Datatype.parse o.datatype = .ok d)
    (hbuffer : raw[i]? = some buffer) : outputTensor raw i o = (do
      let shape ← Shape.ofWire o.shape
      Tensor.make o.name shape (← rawValues o.name d buffer)) := by
  have hraw : raw ≠ [] := List.ne_nil_of_mem (List.mem_of_getElem? hbuffer)
  rw [outputTensor, htag]
  simp only [if_neg hraw, hbuffer]
  rfl

/-- An output is accepted when its own buffer fills it. -/
theorem outputTensor_eq_ok_iff_filledBy (hbuffer : raw[i]? = some buffer) :
    outputTensor raw i o = .ok t ↔ o.FilledBy buffer t := by
  constructor
  · intro h
    obtain ⟨d, htag, -⟩ := bind_eq_ok_iff.1 h
    rw [outputTensor_raw htag hbuffer] at h
    obtain ⟨shape, hshape, h⟩ := bind_eq_ok_iff.1 h
    obtain ⟨vs, hvalues, h⟩ := bind_eq_ok_iff.1 h
    obtain ⟨hcount, rfl⟩ := Tensor.make_eq_ok_iff.1 h
    obtain ⟨rfl, hpacked⟩ := rawValues_eq_ok_iff.1 hvalues
    exact ⟨rfl, htag, hshape, hcount, hpacked⟩
  · intro h
    rw [outputTensor_raw h.datatype hbuffer, h.shape]
    refine (bind_of_ok (rawValues_eq_ok_iff.2 ⟨rfl, h.packed⟩) _).trans ?_
    rw [← h.name]
    exact Tensor.make_eq_ok_iff.2 ⟨h.count, rfl⟩

/-- With raw buffers an output is accepted when a buffer of its own is there and fills it. -/
theorem outputTensor_raw_eq_ok_iff (hraw : raw ≠ []) :
    outputTensor raw i o = .ok t ↔ ∃ buffer, raw[i]? = some buffer ∧ o.FilledBy buffer t := by
  cases hbuffer : raw[i]? with
  | none =>
    refine ⟨fun h => ?_, fun ⟨_, hsome, _⟩ => nomatch hsome⟩
    obtain ⟨d, -, h⟩ := bind_eq_ok_iff.1 h
    obtain ⟨shape, -, h⟩ := bind_eq_ok_iff.1 h
    simp only [if_neg hraw, hbuffer] at h
    cases h
  | some buffer =>
    simp only [outputTensor_eq_ok_iff_filledBy hbuffer, Option.some.injEq, exists_eq_left']

/-- An output without its typed contents. -/
def TensorMessage.bare (o : TensorMessage) : TensorMessage :=
  { o with contents := none }

/-- A buffer fills an output whatever stands in its lists. -/
theorem TensorMessage.FilledBy.of_bare {o' : TensorMessage} (h : o.FilledBy buffer t)
    (hbare : o'.bare = o.bare) : o'.FilledBy buffer t := by
  obtain ⟨hname, hdatatype, hshape, -⟩ := TensorMessage.mk.inj hbare
  exact ⟨h.name.trans hname.symm, hdatatype ▸ h.datatype, hshape ▸ h.shape, h.count, h.packed⟩

/-! ### Whole answers -/

namespace ResponseMessage

variable {m : ResponseMessage} {r : InferResponse}

/-- An answer with raw buffers is accepted when every output finds a buffer that fills it at its
own position. -/
theorem toResponse_raw_eq_ok_iff (hraw : m.rawContents ≠ []) : m.toResponse = .ok r ↔
    r.modelName = m.modelName ∧ r.modelVersion = nonEmpty m.modelVersion ∧ r.id = nonEmpty m.id ∧
      r.outputs.length = m.outputs.length ∧ ∀ (i : Nat) (o : TensorMessage) (t : Tensor),
        m.outputs[i]? = some o → r.outputs[i]? = some t →
          ∃ buffer, m.rawContents[i]? = some buffer ∧ o.FilledBy buffer t := by
  simp only [toResponse_eq_ok_iff, outputTensor_raw_eq_ok_iff hraw]

/-- The same answer with more in it: further buffers after its own, and any typed contents. -/
structure ExtendedBy (m m' : ResponseMessage) : Prop where
  modelName : m'.modelName = m.modelName
  modelVersion : m'.modelVersion = m.modelVersion
  id : m'.id = m.id
  outputs : m'.outputs.map TensorMessage.bare = m.outputs.map TensorMessage.bare
  buffers : m.rawContents <+: m'.rawContents

/-- What is added to an accepted answer goes unread. -/
theorem ExtendedBy.toResponse_eq_ok {m' : ResponseMessage} (h : m.ExtendedBy m')
    (hraw : m.rawContents ≠ []) (hr : m.toResponse = .ok r) : m'.toResponse = .ok r := by
  obtain ⟨hname, hversion, hid, hlength, hfilled⟩ := (toResponse_raw_eq_ok_iff hraw).1 hr
  obtain ⟨more, hmore⟩ := h.buffers
  have hraw' : m'.rawContents ≠ [] := by
    rw [← hmore]
    exact List.append_ne_nil_of_left_ne_nil hraw more
  have houtputs : m'.outputs.length = m.outputs.length := by
    have hmapped := congrArg List.length h.outputs
    rwa [List.length_map, List.length_map] at hmapped
  refine (toResponse_raw_eq_ok_iff hraw').2 ⟨hname.trans h.modelName.symm,
    h.modelVersion ▸ hversion, h.id ▸ hid, hlength.trans houtputs.symm, fun i o' t ho' ht => ?_⟩
  have hbare := congrArg (fun os : List TensorMessage => os[i]?) h.outputs
  simp only [List.getElem?_map, ho', Option.map_some] at hbare
  obtain ⟨o, ho, hsame⟩ := Option.map_eq_some_iff.1 hbare.symm
  obtain ⟨buffer, hbuffer, hfills⟩ := hfilled i o t ho ht
  refine ⟨buffer, ?_, hfills.of_bare hsame.symm⟩
  rw [← hmore, List.getElem?_append_left (List.getElem?_eq_some_iff.1 hbuffer).1, hbuffer]

/-- Every output of an accepted answer has a buffer. -/
theorem length_outputs_le (hraw : m.rawContents ≠ []) (h : m.toResponse = .ok r) :
    m.outputs.length ≤ m.rawContents.length := by
  obtain ⟨-, -, -, hlength, hfilled⟩ := (toResponse_raw_eq_ok_iff hraw).1 h
  by_contra hlt
  have hi : m.rawContents.length < m.outputs.length := by omega
  obtain ⟨buffer, hbuffer, -⟩ := hfilled m.rawContents.length _ _ (List.getElem?_eq_getElem hi)
    (List.getElem?_eq_getElem (hlength ▸ hi))
  rw [List.getElem?_eq_none (Nat.le_refl _)] at hbuffer
  cases hbuffer

end ResponseMessage

/-- **An output has the buffer at its own position.** An answer with raw buffers is accepted exactly
when every output finds a buffer there that fills it, and then its tensors hold just the values of
these buffers; so there are at least as many buffers as outputs. Whatever else such an answer
carries, in further buffers or in typed lists, changes nothing. -/
theorem raw_outputs {m : ResponseMessage} (hraw : m.rawContents ≠ []) :
    (∀ r, m.toResponse = .ok r ↔
      r.modelName = m.modelName ∧ r.modelVersion = nonEmpty m.modelVersion ∧
        r.id = nonEmpty m.id ∧ r.outputs.length = m.outputs.length ∧
        ∀ (i : Nat) (o : TensorMessage) (t : Tensor), m.outputs[i]? = some o →
          r.outputs[i]? = some t →
            ∃ buffer, m.rawContents[i]? = some buffer ∧ o.FilledBy buffer t) ∧
    (∀ r, m.toResponse = .ok r → m.outputs.length ≤ m.rawContents.length) ∧
    (∀ m' r, m.ExtendedBy m' → m.toResponse = .ok r → m'.toResponse = .ok r) :=
  ⟨fun _ => ResponseMessage.toResponse_raw_eq_ok_iff hraw,
    fun _ => ResponseMessage.length_outputs_le hraw, fun _ _ h => h.toResponse_eq_ok hraw⟩

/-- Two outputs, one of integers below zero, with a third buffer and with typed values that go
unread. -/
theorem raw_outputs_surplus :
    let a : TensorMessage := ⟨"a", "INT32", [2], none⟩
    let b : TensorMessage := ⟨"b", "FP32", [1, 1], none⟩
    let m : ResponseMessage := {
      outputs := [a, b]
      rawContents := [[254, 255, 255, 255, 7, 0, 0, 0], [0, 0, 128, 63]] }
    let m' : ResponseMessage := {
      outputs := [{ a with contents := some { ints64 := [9] } }, b]
      rawContents := [[254, 255, 255, 255, 7, 0, 0, 0], [0, 0, 128, 63], [1, 2, 3]] }
    let r : InferResponse := ⟨"", none, none,
      [⟨"a", ⟨[2]⟩, .int32 [-2, 7]⟩, ⟨"b", ⟨[1, 1]⟩, .fp32 [⟨0x3f800000⟩]⟩]⟩
    m.rawContents ≠ [] ∧ m.toResponse = .ok r ∧ m.ExtendedBy m' ∧ m'.toResponse = .ok r := by
  intro a b m m' r
  have hraw : m.rawContents ≠ [] := List.cons_ne_nil _ _
  have haccepted : m.toResponse = .ok r := by
    refine ((raw_outputs hraw).1 r).2 ⟨rfl, rfl, rfl, rfl, fun i o t ho ht => ?_⟩
    match i with
    | 0 =>
      cases ho
      cases ht
      exact ⟨_, rfl, rfl, rfl, rfl, rfl, by decide⟩
    | 1 =>
      cases ho
      cases ht
      exact ⟨_, rfl, rfl, rfl, rfl, rfl, by decide⟩
    | i + 2 => cases ho
  have hextended : m.ExtendedBy m' := ⟨rfl, rfl, rfl, rfl, [[1, 2, 3]], rfl⟩
  exact ⟨hraw, haccepted, hextended, (raw_outputs hraw).2.2 m' r hextended haccepted⟩

/-- Not all that an accepted answer carries is read: there may be more buffers than outputs, and
typed values beside a buffer. -/
theorem not_all_read :
    (¬∀ (m : ResponseMessage) (r : InferResponse), m.rawContents ≠ [] → m.toResponse = .ok r →
      m.rawContents.length = m.outputs.length) ∧
    ¬∀ (m : ResponseMessage) (r : InferResponse), m.rawContents ≠ [] → m.toResponse = .ok r →
      ∀ o ∈ m.outputs, o.contents.getD {} = {} := by
  let o (contents : Option Contents) : TensorMessage := ⟨"p", "FP64", [1], contents⟩
  let one : Bytes := [0, 0, 0, 0, 0, 0, 240, 63]
  let r : InferResponse := ⟨"", none, none, [⟨"p", ⟨[1]⟩, .fp64 [⟨0x3ff0000000000000⟩]⟩]⟩
  have haccepted : ∀ contents more, ResponseMessage.toResponse
      { outputs := [o contents], rawContents := one :: more } = .ok r := by
    intro contents more
    refine (ResponseMessage.toResponse_raw_eq_ok_iff (List.cons_ne_nil _ _)).2
      ⟨rfl, rfl, rfl, rfl, fun i _ t ho ht => ?_⟩
    match i with
    | 0 =>
      cases ho
      cases ht
      exact ⟨one, rfl, rfl, rfl, rfl, rfl, by decide⟩
    | i + 1 => cases ho
  constructor
  · intro h
    exact absurd (h _ r (List.cons_ne_nil _ _) (haccepted none [one])) (by decide)
  · intro h
    let seven : Contents := { ints64 := [7] }
    exact absurd (h _ r (List.cons_ne_nil _ _) (haccepted seven []) (o seven)
      (List.mem_singleton_self _)) (by decide)

end Grpc

end ModelProbe

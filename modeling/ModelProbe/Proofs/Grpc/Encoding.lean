import ModelProbe.Grpc.Encoding
import ModelProbe.Proofs.Wire.Field

/-! Binary messages are read back.

`Reads` says that bytes turn one message into another, whatever bytes follow; it is proved of
the fields one after another, in the order in which they are written. Contents and tensor messages
come back whole (`merge?_contents`, `merge?_tensor`). A request has the names, the id and the
tensors under the numbers at which an answer has them, so that its bytes are those of an answer as
well (`decode?_request`). -/
namespace ModelProbe.Grpc

open Wire

/-! ### Reading one field after another -/

section

variable {α : Type} {maps : List Nat} {room : Nat} {step : α → Field → Option α} {m m' m'' : α}

/-- Reading the bytes into `m` gives `m'`, with what follows still to be read. -/
def Reads (maps : List Nat) (room : Nat) (step : α → Field → Option α) (m : α) (bytes : Bytes)
    (m' : α) : Prop :=
  ∀ rest, merge? maps room step m (bytes ++ rest) = merge? maps room step m' rest

namespace Reads

theorem nil : Reads maps room step m [] m :=
  fun _ => rfl

theorem append {first second : Bytes} (h : Reads maps room step m first m')
    (h' : Reads maps room step m' second m'') : Reads maps room step m (first ++ second) m'' := by
  intro rest
  rw [List.append_assoc, h, h']

theorem merge?_eq {bytes : Bytes} (h : Reads maps room step m bytes m') :
    merge? maps room step m bytes = some m' := by
  have hall := h []
  rw [List.append_nil] at hall
  rw [hall, merge?, fields?]
  rfl

/-- A field of bytes is one step. -/
theorem field {number : Nat} (hnumber : FieldNumber number) {bytes : Bytes}
    (hsized : Sized (delimited number bytes)) (h : step m ⟨number, .bytes bytes⟩ = some m') :
    Reads maps room step m (delimited number bytes) m' := by
  intro rest
  rw [merge?, merge?, fields?_delimited maps room hnumber hsized.of_delimited]
  cases fields? maps room rest with
  | none => rfl
  | some fields =>
    show (do let m ← step m ⟨number, .bytes bytes⟩; fields.foldlM step m) = _
    rw [h]
    rfl

end Reads

end

section

variable {α β γ : Type} (maps : List Nat) (room : Nat) (step : α → Field → Option α) {number : Nat}

/-- A field that holds a value, or nothing in place of the default. -/
theorem reads_value (put : β → α) (read? : Bytes → Option β) {zero x : β}
    (hnumber : FieldNumber number)
    (hstep : ∀ bytes, step (put zero) ⟨number, .bytes bytes⟩ = (read? bytes).map put)
    (hzero : read? [] = some zero) {bytes : Bytes}
    (hsized : Sized (delimitedUnlessEmpty number bytes)) (h : read? bytes = some x) :
    Reads maps room step (put zero) (delimitedUnlessEmpty number bytes) (put x) := by
  unfold delimitedUnlessEmpty at hsized ⊢
  split
  -- A field left out stands for the value that no bytes are read as, which is the default.
  · rename_i hempty
    rw [hempty, hzero, Option.some.injEq] at h
    rw [h]
    exact .nil
  · rename_i hbytes
    rw [if_neg hbytes] at hsized
    refine .field hnumber hsized ?_
    rw [hstep, h]
    rfl

/-- A field that is repeated, once for each element of a list. -/
theorem reads_repeated (put : List β → α) (write : γ → Bytes) (f : γ → β)
    (hnumber : FieldNumber number) {xs : List γ}
    (hsized : Sized (xs.flatMap fun x => delimited number (write x)))
    (hstep : ∀ x ∈ xs, Sized (write x) → ∀ done,
      step (put done) ⟨number, .bytes (write x)⟩ = some (put (done ++ [f x]))) (done : List β) :
    Reads maps room step (put done) (xs.flatMap fun x => delimited number (write x))
      (put (done ++ xs.map f)) := by
  induction xs generalizing done with
  | nil =>
    rw [List.map_nil, List.append_nil]
    exact .nil
  | cons x xs ih =>
    rw [List.flatMap_cons] at hsized ⊢
    have hx := hstep x (List.mem_cons_self ..) hsized.left.of_delimited done
    have hxs := ih hsized.right (fun y hy => hstep y (List.mem_cons_of_mem x hy)) (done ++ [f x])
    rw [List.append_assoc] at hxs
    exact (Reads.field hnumber hsized.left hx).append hxs

/-- A text, left out when it is empty. -/
theorem reads_text (put : String → α) (hnumber : FieldNumber number)
    (hstep : ∀ bytes, step (put "") ⟨number, .bytes bytes⟩ =
      (Payload.bytes bytes).text?.map put) {s : String}
    (hsized : Sized (delimitedUnlessEmpty number (utf8 s))) :
    Reads maps room step (put "") (delimitedUnlessEmpty number (utf8 s)) (put s) :=
  reads_value maps room step put (fun bytes => (Payload.bytes bytes).text?) hnumber hstep text?_nil
    hsized (text?_utf8 s)

end

/-! ### Packed lists -/

theorem twosComplement_lt (n : Int) : twosComplement n < UInt64.size := by
  have hpos : (0 : Int) < UInt64.size := by decide
  rw [twosComplement, Int.toNat_lt (Int.emod_nonneg n hpos.ne')]
  exact Int.emod_lt_of_pos n hpos

/-- Two's complement at 64 bits, read at 64 bits or fewer. -/
theorem twosComplement_bmod (n : Int) {size : Nat} (h : (size : Int) ∣ UInt64.size) :
    (twosComplement n : Int).bmod size = n.bmod size := by
  have hcast : (twosComplement n : Int) = n % UInt64.size :=
    Int.toNat_of_nonneg (Int.emod_nonneg n (by decide))
  rw [hcast, Int.bmod_def, Int.emod_emod_of_dvd n h, ← Int.bmod_def]

theorem ofNat_twosComplement32 (k : Int32) : Int32.ofNat (twosComplement k.toInt) = k := by
  rw [← Int32.toInt_inj, ← Int32.ofInt_eq_ofNat, Int32.toInt_ofInt,
    twosComplement_bmod k.toInt (by decide), Int32.toInt_bmod_size]

theorem ofNat_twosComplement64 (k : Int64) : Int64.ofNat (twosComplement k.toInt) = k := by
  rw [← Int64.toInt_inj, ← Int64.ofInt_eq_ofNat, Int64.toInt_ofInt,
    twosComplement_bmod k.toInt (by decide), Int64.toInt_bmod_size]

/-- A packed list of integers, each read back by `g` from what `f` writes. -/
theorem varints?_packed {β : Type} {f : β → Nat} {g : Nat → β} (hf : ∀ x, f x < UInt64.size)
    (hg : Function.LeftInverse g f) (xs : List β) :
    (varints? (xs.flatMap fun x => varint (f x))).map (·.map g) = some xs := by
  have hlt : ∀ n ∈ xs.map f, n < UInt64.size := by
    intro n hn
    obtain ⟨x, -, rfl⟩ := List.mem_map.1 hn
    exact hf x
  have hread := varints?_flatMap_varint hlt
  rw [List.flatMap_map] at hread
  rw [hread, Option.map_some, List.map_map, hg.comp_eq_id, List.map_id]

/-- A packed list of values of one width. -/
theorem pieces?_packed {β : Type} {width : Nat} (hwidth : 0 < width) {f : β → Nat} {g : Nat → β}
    (hf : ∀ x, f x < 256 ^ width) (hg : Function.LeftInverse g f) (xs : List β) :
    (pieces? width (xs.flatMap fun x => littleEndian width (f x))).map
      (fun ps => (ps.map ofLittleEndian).map g) = some xs := by
  have hlt : ∀ n ∈ xs.map f, n < 256 ^ width := by
    intro n hn
    obtain ⟨x, -, rfl⟩ := List.mem_map.1 hn
    exact hf x
  have hread := pieces?_flatMap_littleEndian hwidth hlt
  rw [List.flatMap_map] at hread
  obtain ⟨ps, hps, hvalues⟩ := Option.map_eq_some_iff.1 hread
  rw [hps, Option.map_some, hvalues, List.map_map, hg.comp_eq_id, List.map_id]

section

variable {α β : Type} (maps : List Nat) (room : Nat) (step : α → Field → Option α)
  {number : Nat} (put : List β → α) {f : β → Nat} {g : Nat → β}

/-- A packed list of integers. -/
theorem reads_integers (hnumber : FieldNumber number) (hf : ∀ x, f x < UInt64.size)
    (hg : Function.LeftInverse g f)
    (hstep : ∀ bytes, step (put []) ⟨number, .bytes bytes⟩ =
      (varints? bytes).map fun ns => put (ns.map g)) {xs : List β}
    (hsized : Sized (delimitedUnlessEmpty number (xs.flatMap fun x => varint (f x)))) :
    Reads maps room step (put []) (delimitedUnlessEmpty number (xs.flatMap fun x => varint (f x)))
      (put xs) := by
  refine reads_value maps room step put (fun bytes => (varints? bytes).map (·.map g)) hnumber
    ?_ ?_ hsized (varints?_packed hf hg xs)
  · intro bytes
    rw [hstep, Option.map_map]
    rfl
  · rw [varints?]
    rfl

/-- A packed list of values of one width. -/
theorem reads_fixed {width : Nat} (hwidth : 0 < width) (hnumber : FieldNumber number)
    (hf : ∀ x, f x < 256 ^ width) (hg : Function.LeftInverse g f)
    (hstep : ∀ bytes, step (put []) ⟨number, .bytes bytes⟩ =
      ((pieces? width bytes).map (·.map ofLittleEndian)).map fun ns => put (ns.map g))
    {xs : List β}
    (hsized : Sized (delimitedUnlessEmpty number
      (xs.flatMap fun x => littleEndian width (f x)))) :
    Reads maps room step (put [])
      (delimitedUnlessEmpty number (xs.flatMap fun x => littleEndian width (f x))) (put xs) := by
  refine reads_value maps room step put
    (fun bytes => (pieces? width bytes).map fun ps => (ps.map ofLittleEndian).map g) hnumber
    ?_ ?_ hsized (pieces?_packed hwidth hf hg xs)
  · intro bytes
    rw [hstep, Option.map_map, Option.map_map]
    rfl
  · rw [pieces?]
    rfl

end

theorem packedInts_map {β : Type} (f : β → Int) (xs : List β) :
    packedInts (xs.map f) = xs.flatMap fun x => varint (twosComplement (f x)) :=
  List.flatMap_map ..

/-! ### Messages -/

theorem reads_contents (room : Nat) {c : Contents} (hsized : Sized c.encode) :
    Reads [] room contentsField? {} c.encode c := by
  obtain ⟨bools, ints, ints64, uints, uints64, fp32, fp64, bytes⟩ := c
  rw [Contents.encode, packedInts_map, packedInts_map] at hsized ⊢
  have hsized7 := hsized.left
  have hsized6 := hsized7.left
  have hsized5 := hsized6.left
  have hsized4 := hsized5.left
  have hsized3 := hsized4.left
  have hsized2 := hsized3.left
  have hbools := reads_integers [] room contentsField? (fun xs => { bools := xs })
    (g := fun n => decide (n ≠ 0)) (by decide) (fun b => by cases b <;> decide)
    (fun b => by cases b <;> rfl) (fun _ => rfl) hsized2.left
  have hints := reads_integers [] room contentsField? (fun xs => { bools, ints := xs })
    (by decide) (fun k => twosComplement_lt k.toInt) ofNat_twosComplement32 (fun _ => rfl)
    hsized2.right
  have hints64 := reads_integers [] room contentsField? (fun xs => { bools, ints, ints64 := xs })
    (by decide) (fun k => twosComplement_lt k.toInt) ofNat_twosComplement64 (fun _ => rfl)
    hsized3.right
  have huints := reads_integers [] room contentsField?
    (fun xs => { bools, ints, ints64, uints := xs }) (by decide)
    (fun n => Nat.lt_trans n.toNat_lt (by decide)) (fun _ => UInt32.ofNat_toNat) (fun _ => rfl)
    hsized4.right
  have huints64 := reads_integers [] room contentsField?
    (fun xs => { bools, ints, ints64, uints, uints64 := xs }) (by decide) UInt64.toNat_lt
    (fun _ => UInt64.ofNat_toNat) (fun _ => rfl) hsized5.right
  have hfp32 := reads_fixed [] room contentsField?
    (fun xs => { bools, ints, ints64, uints, uints64, fp32 := xs })
    (g := fun n => ⟨UInt32.ofNat n⟩) (by decide) (by decide)
    (fun x : Single => x.bits.toNat_lt) (fun _ => congrArg Single.mk UInt32.ofNat_toNat)
    (fun _ => rfl) hsized6.right
  have hfp64 := reads_fixed [] room contentsField?
    (fun xs => { bools, ints, ints64, uints, uints64, fp32, fp64 := xs })
    (g := fun n => ⟨UInt64.ofNat n⟩) (by decide) (by decide)
    (fun x : Double => x.bits.toNat_lt) (fun _ => congrArg Double.mk UInt64.ofNat_toNat)
    (fun _ => rfl) hsized7.right
  have hbytes := reads_repeated [] room contentsField?
    (fun xs => { bools, ints, ints64, uints, uints64, fp32, fp64, bytes := xs }) id id
    (by decide) hsized.right (fun _ _ _ _ => rfl) []
  rw [List.nil_append, List.map_id] at hbytes
  exact ((((((hbools.append hints).append hints64).append huints).append huints64).append
    hfp32).append hfp64).append hbytes

/-- Contents are read back. -/
theorem merge?_contents (room : Nat) {c : Contents} (hsized : Sized c.encode) :
    merge? [] room contentsField? {} c.encode = some c :=
  (reads_contents room hsized).merge?_eq

theorem reads_tensor (room : Nat) {t : TensorMessage} (hsized : Sized t.encode) :
    Reads [4] room (tensorField? room) {} t.encode t := by
  obtain ⟨name, datatype, shape, contents⟩ := t
  rw [TensorMessage.encode, packedInts_map] at hsized ⊢
  have hsized3 := hsized.left
  have hsized2 := hsized3.left
  have hname := reads_text [4] room (tensorField? room) (fun s => { name := s }) (by decide)
    (fun _ => rfl) hsized2.left
  have hdatatype := reads_text [4] room (tensorField? room) (fun s => { name, datatype := s })
    (by decide) (fun _ => rfl) hsized2.right
  have hshape := reads_integers [4] room (tensorField? room)
    (fun xs => { name, datatype, shape := xs }) (by decide)
    (fun k => twosComplement_lt k.toInt) ofNat_twosComplement64 (fun _ => rfl) hsized3.right
  refine ((hname.append hdatatype).append hshape).append ?_
  cases contents with
  | none => exact .nil
  | some c =>
    have hcontents := hsized.right
    rw [Option.toList_some, List.flatMap_singleton] at hcontents ⊢
    refine .field (by decide) hcontents ?_
    show (do let c ← merge? [] (room - 1) contentsField? {} c.encode; _) = _
    rw [merge?_contents _ hcontents.of_delimited]
    rfl

/-- Tensor messages are read back. -/
theorem merge?_tensor (room : Nat) {t : TensorMessage} (hsized : Sized t.encode) :
    merge? [4] room (tensorField? room) {} t.encode = some t :=
  (reads_tensor room hsized).merge?_eq

/-- The bytes of a request, read as an answer. -/
theorem decode?_request {m : RequestMessage} (hsized : Sized m.encode) :
    ResponseMessage.decode? m.encode =
      some { modelName := m.modelName, modelVersion := m.modelVersion, id := m.id,
             outputs := m.inputs } := by
  obtain ⟨modelName, modelVersion, id, inputs⟩ := m
  rw [RequestMessage.encode] at hsized ⊢
  have hsized3 := hsized.left
  have hsized2 := hsized3.left
  have hname := reads_text [4] maxDepth (responseField? maxDepth) (fun s => { modelName := s })
    (by decide) (fun _ => rfl) hsized2.left
  have hversion := reads_text [4] maxDepth (responseField? maxDepth)
    (fun s => { modelName, modelVersion := s }) (by decide) (fun _ => rfl) hsized2.right
  have hid := reads_text [4] maxDepth (responseField? maxDepth)
    (fun s => { modelName, modelVersion, id := s }) (by decide) (fun _ => rfl) hsized3.right
  have htensors := reads_repeated [4] maxDepth (responseField? maxDepth)
    (fun ts => { modelName, modelVersion, id, outputs := ts }) TensorMessage.encode (fun t => t)
    (by decide) hsized.right ?_ []
  · rw [List.nil_append, List.map_id'] at htensors
    exact (((hname.append hversion).append hid).append htensors).merge?_eq
  · intro t _ ht done
    show (do let t ← merge? [4] (maxDepth - 1) (tensorField? (maxDepth - 1)) {} t.encode; _) = _
    rw [merge?_tensor _ ht]
    rfl

end ModelProbe.Grpc

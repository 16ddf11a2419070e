import ModelProbe.Proofs.Wire.Fixed
import ModelProbe.Wire.Field

/-! Fields are read back.

Bytes that were written under a number are the next field of a message, whether that field is a
map or not (`fields?_delimited`). Numbers are at most `2 ^ 29 - 1`, so that a key has 32 bits, and
no run of bytes is longer than a machine word can say. A text is read back from its bytes
(`text?_utf8`). -/
namespace ModelProbe.Wire

/-- Bytes whose number a machine word can say. -/
def Sized (bytes : Bytes) : Prop :=
  bytes.length < UInt64.size

theorem Sized.left {bytes rest : Bytes} (h : Sized (bytes ++ rest)) : Sized bytes := by
  rw [Sized, List.length_append] at h
  exact Nat.lt_of_le_of_lt (Nat.le_add_right ..) h

theorem Sized.right {bytes rest : Bytes} (h : Sized (bytes ++ rest)) : Sized rest := by
  rw [Sized, List.length_append] at h
  exact Nat.lt_of_le_of_lt (Nat.le_add_left ..) h

theorem Sized.of_delimited {number : Nat} {bytes : Bytes} (h : Sized (delimited number bytes)) :
    Sized bytes :=
  h.right

/-! ### Keys and payloads -/

/-- Numbers that a key of 32 bits has room for. -/
def FieldNumber (number : Nat) : Prop :=
  1 ≤ number ∧ 8 * number + 2 < UInt32.size

instance : DecidablePred FieldNumber :=
  fun _ => inferInstanceAs (Decidable (_ ∧ _))

theorem key?_varint {number : Nat} (hnumber : FieldNumber number) (rest : Bytes) :
    key? (varint (8 * number + 2) ++ rest) = some (number, 2, rest) := by
  have hone := hnumber.1
  have hword : 8 * number + 2 < UInt64.size := Nat.lt_trans hnumber.2 (by decide)
  rw [key?, varint?_varint hword]
  show (if _ then some ((8 * number + 2) / 8, (8 * number + 2) % 8, rest) else none) = _
  rw [if_pos ⟨hnumber.2, by omega⟩, show (8 * number + 2) / 8 = number by omega,
    show (8 * number + 2) % 8 = 2 by omega]

theorem take?_append (bytes rest : Bytes) :
    take? bytes.length (bytes ++ rest) = some (bytes, rest) := by
  rw [take?, if_pos (by simp), List.take_left, List.drop_left]

theorem payload?_bytes {bytes : Bytes} (h : Sized bytes) (rest : Bytes) :
    payload? 2 (varint bytes.length ++ bytes ++ rest) = some (.bytes bytes, rest) := by
  rw [List.append_assoc, payload?, varint?_varint h]
  show (take? bytes.length (bytes ++ rest)).map _ = _
  rw [take?_append]
  rfl

/-- Bytes with their length in front are bytes in a map's place as well. -/
theorem readType_bytes (maps : List Nat) (number : Nat) : readType maps number 2 = 2 := by
  rw [readType, ite_eq_right_iff]
  exact fun _ => rfl

/-! ### Fields -/

theorem field?_delimited (maps : List Nat) (room : Nat) {number : Nat}
    (hnumber : FieldNumber number) {bytes : Bytes} (h : Sized bytes) (rest : Bytes) :
    field? maps room (delimited number bytes ++ rest) = some (⟨number, .bytes bytes⟩, rest) := by
  rw [field?, delimited, List.append_assoc, List.append_assoc, key?_varint hnumber]
  show (if readType maps number 2 = 3 then _ else _) = _
  rw [readType_bytes, if_neg (by decide), ← List.append_assoc, payload?_bytes h]
  rfl

/-- A message is read from its front. -/
theorem fields?_of_field? {maps : List Nat} {room : Nat} {bytes rest : Bytes} {f : Field}
    (h : field? maps room bytes = some (f, rest)) :
    fields? maps room bytes = (fields? maps room rest).map (f :: ·) := by
  cases bytes with
  | nil => cases h
  | cons b tail =>
    rw [fields?]
    split
    · rename_i hnone
      rw [h] at hnone
      cases hnone
    · rename_i hsome
      rw [h] at hsome
      cases hsome
      rfl

theorem fields?_delimited (maps : List Nat) (room : Nat) {number : Nat}
    (hnumber : FieldNumber number) {bytes : Bytes} (h : Sized bytes) (rest : Bytes) :
    fields? maps room (delimited number bytes ++ rest) =
      (fields? maps room rest).map (⟨number, .bytes bytes⟩ :: ·) :=
  fields?_of_field? (field?_delimited maps room hnumber h rest)

/-! ### Text -/

theorem toList_loop (bytes : ByteArray) (i : Nat) (done : Bytes) :
    ByteArray.toList.loop bytes i done = done.reverse ++ bytes.data.toList.drop i := by
  fun_induction ByteArray.toList.loop bytes i done with
  | case1 i done hlt ih =>
    have hlength : i < bytes.data.toList.length := hlt
    have hget : bytes.get! i = bytes.data.toList[i] :=
      getElem!_pos bytes.data i hlt
    rw [ih, List.reverse_cons, List.append_assoc, hget, List.singleton_append,
      List.getElem_cons_drop]
  | case2 i done hge =>
    have hdone : bytes.data.toList.length ≤ i := Nat.not_lt.1 hge
    rw [List.drop_of_length_le hdone, List.append_nil]

theorem toList_eq (bytes : ByteArray) : bytes.toList = bytes.data.toList :=
  toList_loop bytes 0 []

theorem text?_utf8 (s : String) : (Payload.bytes (utf8 s)).text? = some s := by
  rw [Payload.text?, utf8, toList_eq]
  show String.fromUTF8? s.toByteArray = some s
  rw [String.fromUTF8?, dif_pos s.isValidUTF8]
  rfl

theorem text?_nil : (Payload.bytes []).text? = some "" := by
  have hempty : utf8 "" = [] := toList_eq _
  rw [← hempty]
  exact text?_utf8 ""

end ModelProbe.Wire

import ModelProbe.Wire.Fixed

/-! Fields of a binary message.

A message is a sequence of numbered fields, each with a wire type that says where it ends.
Entries of maps are the exception: their length stands in front whatever wire type they
carry. `fields?` takes a message apart; what the numbers mean is up to the message. Groups,
which no message here uses, are passed over together with what they hold, as deep as `room`
allows. -/
namespace ModelProbe.Wire

inductive Payload where
  | varint (n : Nat)
  | fixed64 (n : Nat)
  | bytes (bytes : Bytes)
  | fixed32 (n : Nat)
  | group
deriving DecidableEq

structure Field where
  number : Nat
  payload : Payload
deriving DecidableEq

/-- How deep messages and groups may stand inside one another. -/
def maxDepth : Nat := 100

/-! ### Reading -/

/-- A field's number and wire type. Numbers start at 1 and a key has at most 32 bits. -/
def key? (bytes : Bytes) : Option (Nat × Nat × Bytes) :=
  match varint? bytes with
  | some (key, rest) =>
    if key < UInt32.size ∧ 8 ≤ key then some (key / 8, key % 8, rest) else none
  | none => none

/-- The first `n` bytes, and the rest. -/
def take? (n : Nat) (bytes : Bytes) : Option (Bytes × Bytes) :=
  if n ≤ bytes.length then some (bytes.take n, bytes.drop n) else none

/-- The payload of a wire type other than the two of groups. -/
def payload? (wireType : Nat) (bytes : Bytes) : Option (Payload × Bytes) :=
  match wireType with
  | 0 => (varint? bytes).map fun (n, rest) => (.varint n, rest)
  | 1 => (take? 8 bytes).map fun (b, rest) => (.fixed64 (ofLittleEndian b), rest)
  | 2 =>
    match varint? bytes with
    | some (n, rest) => (take? n rest).map fun (b, rest) => (.bytes b, rest)
    | none => none
  | 5 => (take? 4 bytes).map fun (b, rest) => (.fixed32 (ofLittleEndian b), rest)
  | _ => none

theorem key?_length {bytes rest : Bytes} {number wireType : Nat}
    (h : key? bytes = some (number, wireType, rest)) : rest.length < bytes.length := by
  unfold key? at h
  split at h
  · rename_i hv
    split at h
    · simp only [Option.some.injEq, Prod.mk.injEq] at h
      obtain ⟨_, _, rfl⟩ := h
      exact varint?_length hv
    · simp at h
  · simp at h

theorem take?_length {n : Nat} {bytes taken rest : Bytes} (h : take? n bytes = some (taken, rest)) :
    rest.length ≤ bytes.length := by
  unfold take? at h
  split at h
  · simp only [Option.some.injEq, Prod.mk.injEq] at h
    rw [← h.2, List.length_drop]
    omega
  · simp at h

theorem payload?_length {wireType : Nat} {bytes rest : Bytes} {p : Payload}
    (h : payload? wireType bytes = some (p, rest)) : rest.length ≤ bytes.length := by
  unfold payload? at h
  split at h
  · simp only [Option.map_eq_some_iff, Prod.mk.injEq] at h
    obtain ⟨⟨n, r⟩, hv, _, rfl⟩ := h
    exact Nat.le_of_lt (varint?_length hv)
  · simp only [Option.map_eq_some_iff, Prod.mk.injEq] at h
    obtain ⟨⟨b, r⟩, ht, _, rfl⟩ := h
    exact take?_length ht
  · split at h
    · rename_i hv
      simp only [Option.map_eq_some_iff, Prod.mk.injEq] at h
      obtain ⟨⟨b, r⟩, ht, _, rfl⟩ := h
      exact Nat.le_trans (take?_length ht) (Nat.le_of_lt (varint?_length hv))
    · simp at h
  · simp only [Option.map_eq_some_iff, Prod.mk.injEq] at h
    obtain ⟨⟨b, r⟩, ht, _, rfl⟩ := h
    exact take?_length ht
  · simp at h

/-- One field inside the groups that have been entered, innermost first: the groups entered
after it and what follows it. -/
def groupStep? (room innermost : Nat) (outer : List Nat) (bytes : Bytes) :
    Option (List Nat × Bytes) :=
  match key? bytes with
  | none => none
  | some (number, wireType, rest) =>
    if wireType = 4 then if number = innermost then some (outer, rest) else none
    else if room ≤ outer.length + 1 then none
    else if wireType = 3 then some (number :: innermost :: outer, rest)
    else (payload? wireType rest).map fun (_, rest) => (innermost :: outer, rest)

theorem groupStep?_length {room innermost : Nat} {outer entered : List Nat} {bytes rest : Bytes}
    (h : groupStep? room innermost outer bytes = some (entered, rest)) :
    rest.length < bytes.length := by
  unfold groupStep? at h
  split at h
  · simp at h
  · rename_i hk
    have hlt := key?_length hk
    repeat' split at h
    all_goals try simp at h
    · rwa [← h.2]
    · rwa [← h.2]
    · obtain ⟨⟨p, hp⟩, _⟩ := h
      exact Nat.lt_of_le_of_lt (payload?_length hp) hlt

/-- What follows the groups with these numbers, innermost first, that have been entered. -/
def skipGroups? (room : Nat) (entered : List Nat) (bytes : Bytes) : Option Bytes :=
  match entered with
  | [] => some bytes
  | innermost :: outer =>
    match _h : groupStep? room innermost outer bytes with
    | none => none
    | some (entered, rest) => skipGroups? room entered rest
termination_by bytes.length
decreasing_by exact groupStep?_length _h

theorem skipGroups?_length {room : Nat} {entered : List Nat} {bytes rest : Bytes}
    (h : skipGroups? room entered bytes = some rest) : rest.length ≤ bytes.length := by
  fun_induction skipGroups? room entered bytes with
  | case1 => simp_all
  | case2 => simp at h
  | case3 _ _ _ _ _ hs ih => exact Nat.le_trans (ih h) (Nat.le_of_lt (groupStep?_length hs))

/-- The wire type a field is read by, when `maps` are the numbers of the map fields. -/
def readType (maps : List Nat) (number wireType : Nat) : Nat :=
  if number ∈ maps ∧ wireType < 6 then 2 else wireType

/-- The field at the start of a message. -/
def field? (maps : List Nat) (room : Nat) (bytes : Bytes) : Option (Field × Bytes) :=
  match key? bytes with
  | none => none
  | some (number, wireType, rest) =>
    let wireType := readType maps number wireType
    if wireType = 3 then
      (skipGroups? room [number] rest).map fun rest => (⟨number, .group⟩, rest)
    else (payload? wireType rest).map fun (p, rest) => (⟨number, p⟩, rest)

theorem field?_length {maps : List Nat} {room : Nat} {bytes rest : Bytes} {f : Field}
    (h : field? maps room bytes = some (f, rest)) : rest.length < bytes.length := by
  unfold field? at h
  split at h
  · simp at h
  · rename_i hk
    have hlt := key?_length hk
    dsimp only at h
    split at h
    · simp only [Option.map_eq_some_iff, Prod.mk.injEq] at h
      obtain ⟨r, hs, _, rfl⟩ := h
      exact Nat.lt_of_le_of_lt (skipGroups?_length hs) hlt
    · simp only [Option.map_eq_some_iff, Prod.mk.injEq] at h
      obtain ⟨⟨p, r⟩, hp, _, rfl⟩ := h
      exact Nat.lt_of_le_of_lt (payload?_length hp) hlt

/-- The fields of a message that stands where `room` more levels are allowed. -/
def fields? (maps : List Nat) (room : Nat) (bytes : Bytes) : Option (List Field) :=
  match bytes with
  | [] => some []
  | b :: tail =>
    match _h : field? maps room (b :: tail) with
    | none => none
    | some (f, rest) => (fields? maps room rest).map (f :: ·)
termination_by bytes.length
decreasing_by exact field?_length _h

/-- A payload as text. -/
def Payload.text? : Payload → Option String
  | .bytes b => String.fromUTF8? ⟨b.toArray⟩
  | _ => none

def Payload.bytes? : Payload → Option Bytes
  | .bytes b => some b
  | _ => none

/-- One integer, or a packed list of them. -/
def Payload.varints? : Payload → Option (List Nat)
  | .varint n => some [n]
  | .bytes b => Wire.varints? b
  | _ => none

/-- One value of 4 bytes, or a packed list of them. -/
def Payload.fixed32s? : Payload → Option (List Nat)
  | .fixed32 n => some [n]
  | .bytes b => (pieces? 4 b).map (·.map ofLittleEndian)
  | _ => none

/-- One value of 8 bytes, or a packed list of them. -/
def Payload.fixed64s? : Payload → Option (List Nat)
  | .fixed64 n => some [n]
  | .bytes b => (pieces? 8 b).map (·.map ofLittleEndian)
  | _ => none

/-! ### Writing -/

/-- A field of bytes with their length in front. -/
def delimited (number : Nat) (bytes : Bytes) : Bytes :=
  varint (8 * number + 2) ++ varint bytes.length ++ bytes

/-- The same, left out when there are no bytes. -/
def delimitedUnlessEmpty (number : Nat) (bytes : Bytes) : Bytes :=
  if bytes = [] then [] else delimited number bytes

def utf8 (s : String) : Bytes :=
  s.toUTF8.toList

end ModelProbe.Wire

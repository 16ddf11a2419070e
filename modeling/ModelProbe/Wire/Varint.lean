/-! Variable-length integers.

Seven bits stand in a byte, lowest first, and the high bit says that more follow. A
written integer has no byte more than it needs; a reader takes up to ten bytes and no
value past 64 bits. -/
namespace ModelProbe.Wire

abbrev Bytes := List UInt8

/-- The bytes of a natural number. -/
def varint (n : Nat) : Bytes :=
  if n < 128 then [UInt8.ofNat n]
  else UInt8.ofNat (128 + n % 128) :: varint (n / 128)

/-- Reads an integer of at most `room` bytes, the last of which may only complete 64 bits. -/
def readVarint? : (room : Nat) → Bytes → Option (Nat × Bytes)
  | 0, _ => none
  | _ + 1, [] => none
  | room + 1, b :: rest =>
    if b < 128 then if room = 0 ∧ 2 ≤ b then none else some (b.toNat, rest)
    else (readVarint? room rest).map fun (n, rest) => (b.toNat - 128 + 128 * n, rest)

def varint? (bytes : Bytes) : Option (Nat × Bytes) :=
  readVarint? 10 bytes

theorem readVarint?_length {room n : Nat} {bytes rest : Bytes}
    (h : readVarint? room bytes = some (n, rest)) : rest.length < bytes.length := by
  induction room generalizing bytes n rest with
  | zero => simp [readVarint?] at h
  | succ room ih =>
    cases bytes with
    | nil => simp [readVarint?] at h
    | cons b tail =>
      simp only [readVarint?] at h
      split at h
      · split at h
        · simp at h
        · simp only [Option.some.injEq, Prod.mk.injEq] at h
          simp [h.2]
      · simp only [Option.map_eq_some_iff, Prod.mk.injEq] at h
        obtain ⟨⟨m, r⟩, hr, _, rfl⟩ := h
        have hlt := ih hr
        simp only [List.length_cons]
        omega

theorem varint?_length {n : Nat} {bytes rest : Bytes} (h : varint? bytes = some (n, rest)) :
    rest.length < bytes.length :=
  readVarint?_length h

/-- All integers of a packed list. -/
def varints? (bytes : Bytes) : Option (List Nat) :=
  match bytes with
  | [] => some []
  | b :: tail =>
    match _h : varint? (b :: tail) with
    | none => none
    | some (n, rest) => (varints? rest).map (n :: ·)
termination_by bytes.length
decreasing_by exact varint?_length _h

end ModelProbe.Wire

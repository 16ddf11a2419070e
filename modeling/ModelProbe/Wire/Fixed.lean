import ModelProbe.Wire.Varint

/-! Values of a fixed number of bytes, little-endian. -/
namespace ModelProbe.Wire

/-- The lowest `width` bytes of a natural number, lowest first. -/
def littleEndian : (width n : Nat) → Bytes
  | 0, _ => []
  | width + 1, n => UInt8.ofNat (n % 256) :: littleEndian width (n / 256)

def ofLittleEndian (bytes : Bytes) : Nat :=
  bytes.foldr (fun b n => b.toNat + 256 * n) 0

/-- Cuts bytes into pieces of `width`; none when a piece would be short. -/
def pieces? (width : Nat) (bytes : Bytes) : Option (List Bytes) :=
  match bytes with
  | [] => some []
  | b :: tail =>
    if width = 0 ∨ (b :: tail).length < width then none
    else (pieces? width ((b :: tail).drop width)).map ((b :: tail).take width :: ·)
termination_by bytes.length
decreasing_by
  simp only [List.length_drop, List.length_cons]
  simp only [List.length_cons] at *
  omega

end ModelProbe.Wire

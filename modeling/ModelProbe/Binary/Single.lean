import ModelProbe.Binary.Double

/-! Singles: 32-bit binary floating point numbers, held as their bits.

`Single.widen` is exact and `Single.ofDouble` rounds, so a double survives the way down and
back exactly when it was a single to begin with. -/
namespace ModelProbe

open Binary

structure Single where
  bits : UInt32
deriving DecidableEq

namespace Single

instance : Inhabited Single := ⟨⟨0⟩⟩

def ofMagnitude (negative : Bool) (magnitude : Nat) : Single :=
  ⟨UInt32.ofNat (Format.single.withSign negative magnitude)⟩

def read (x : Single) : Reading :=
  Format.single.read x.bits.toNat

/-- The single nearest to a double. A NaN keeps its sign and the top of its fraction and
becomes quiet. -/
def ofDouble (x : Double) : Single :=
  match x.read with
  | .finite negative m q =>
    ofMagnitude negative (Format.single.nearest (m * power 2 q) (power 2 (-q)))
  | .infinite negative => ofMagnitude negative Format.single.infinity
  | .nan =>
    let bits := x.bits.toNat
    ofMagnitude (Format.double.signBit ≤ bits) (0x7fc00000 + bits / 0x20000000 % 0x400000)

/-- The double with the same value. -/
def widen (x : Single) : Double :=
  match x.read with
  | .finite negative m q => Double.ofScaled negative m q
  | .infinite negative => Double.infinity negative
  | .nan =>
    let bits := x.bits.toNat
    Double.ofMagnitude (Format.single.signBit ≤ bits)
      (0x7ff8000000000000 + bits % 0x400000 * 0x20000000)

end Single

end ModelProbe

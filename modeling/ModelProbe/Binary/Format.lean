/-! Binary floating point formats.

A format is two widths, of the stored fraction and of the exponent. Without its sign a
bit pattern is a natural number, and the patterns ascend with the magnitudes they stand
for. `Format.nearest` is the one rounding of the library: the pattern closest to a
quotient of naturals, a half going to the even pattern, everything past the largest
finite magnitude going to infinity. Every other rounding is it at some quotient. -/
namespace ModelProbe.Binary

/-- `b ^ e`, or 1 when the exponent is negative: `a * b ^ e` is the quotient of
`a * power b e` by `power b (-e)`. -/
def power (b : Nat) (e : Int) : Nat :=
  Nat.pow b e.toNat

/-- The natural nearest to `n / d`; a half goes to the even neighbour. -/
def roundHalfEven (n d : Nat) : Nat :=
  let twice := 2 * (n % d)
  if twice < d then n / d
  else if d < twice then n / d + 1
  else n / d + (n / d) % 2

/-- What a bit pattern stands for: a signed `significand * 2 ^ exponent`, an infinity, or
no number. -/
inductive Reading where
  | finite (negative : Bool) (significand : Nat) (exponent : Int)
  | infinite (negative : Bool)
  | nan
deriving DecidableEq

structure Format where
  fractionBits : Nat
  exponentBits : Nat

namespace Format

/-- 64 bits. -/
def double : Format := ⟨52, 11⟩

/-- 32 bits. -/
def single : Format := ⟨23, 8⟩

variable (f : Format)

/-- The weight of the leading bit, which is not stored, against the last fraction bit. -/
def leadingBit : Nat :=
  Nat.pow 2 f.fractionBits

/-- The weight of the last fraction bit of the smallest magnitudes, as a power of two. -/
def leastExponent : Int :=
  2 - (Nat.pow 2 (f.exponentBits - 1) : Nat) - f.fractionBits

/-- The pattern of infinity; the finite magnitudes lie below it, the NaNs above. -/
def infinity : Nat :=
  (Nat.pow 2 f.exponentBits - 1) * f.leadingBit

/-- The weight of the sign bit. -/
def signBit : Nat :=
  Nat.pow 2 (f.fractionBits + f.exponentBits)

/-- The value of a pattern. A zero exponent field marks the magnitudes without a leading
bit. -/
def read (bits : Nat) : Reading :=
  let negative := bits / f.signBit % 2 == 1
  let magnitude := bits % f.signBit
  if f.infinity < magnitude then .nan
  else if magnitude = f.infinity then .infinite negative
  else
    let field := magnitude / f.leadingBit
    let fraction := magnitude % f.leadingBit
    if field = 0 then .finite negative fraction f.leastExponent
    else .finite negative (f.leadingBit + fraction) (f.leastExponent + (field - 1 : Nat))

/-- The exponent `e` with `2 ^ e ≤ a / b < 2 ^ (e + 1)`, for positive `a` and `b`. -/
def leadingExponent (a b : Nat) : Int :=
  let e : Int := (a.log2 : Int) - b.log2
  if b * power 2 e ≤ a * power 2 (-e) then e else e - 1

/-- The magnitude pattern nearest to `a / b`. A carry out of the significand raises the
exponent field by one, which is the pattern of the next power of two. -/
def nearest (a b : Nat) : Nat :=
  if a = 0 then 0
  else
    let q := max (leadingExponent a b - f.fractionBits) f.leastExponent
    let significand := roundHalfEven (a * power 2 (-q)) (b * power 2 q)
    min f.infinity ((q - f.leastExponent).toNat * f.leadingBit + significand)

/-- A magnitude pattern with its sign. -/
def withSign (negative : Bool) (magnitude : Nat) : Nat :=
  if negative then f.signBit + magnitude else magnitude

end Format

end ModelProbe.Binary

import ModelProbe.Binary.Format

/-! Doubles: 64-bit binary floating point numbers, held as their bits.

Equality of doubles is equality of bits, which tells the two zeros and the NaNs apart.
`Double.agrees` is the arithmetic comparison, where the zeros agree and a NaN agrees with
nothing. An operation rounds the exact result once. -/
namespace ModelProbe

open Binary

structure Double where
  bits : UInt64
deriving DecidableEq

namespace Double

def ofMagnitude (negative : Bool) (magnitude : Nat) : Double :=
  ⟨UInt64.ofNat (Format.double.withSign negative magnitude)⟩

/-- The double nearest to `a / b`, with a sign. -/
def nearest (negative : Bool) (a b : Nat) : Double :=
  ofMagnitude negative (Format.double.nearest a b)

def zero : Double := ⟨0⟩

/-- The NaN that arithmetic gives. -/
def nan : Double := ⟨0x7ff8000000000000⟩

def infinity (negative : Bool) : Double :=
  ofMagnitude negative Format.double.infinity

instance : Inhabited Double := ⟨zero⟩

def read (x : Double) : Reading :=
  Format.double.read x.bits.toNat

/-- The double nearest to `±m * 2 ^ q`. -/
def ofScaled (negative : Bool) (m : Nat) (q : Int) : Double :=
  nearest negative (m * power 2 q) (power 2 (-q))

def ofNat (n : Nat) : Double :=
  nearest false n 1

def ofInt (n : Int) : Double :=
  nearest (n < 0) n.natAbs 1

/-- The double nearest to `±digits * 10 ^ exponent`. Magnitudes far outside the range are
settled without computing the power. -/
def ofDecimal (negative : Bool) (digits : Nat) (exponent : Int) : Double :=
  if digits = 0 then ofMagnitude negative 0
  else if 400 < exponent then infinity negative
  else if exponent < -(400 + (digits.log2 : Int)) then ofMagnitude negative 0
  else nearest negative (digits * power 10 exponent) (power 10 (-exponent))

/-! ### Comparison -/

def isNaN (x : Double) : Bool :=
  x.read == .nan

def isFinite (x : Double) : Bool :=
  match x.read with
  | .finite .. => true
  | _ => false

def isZero (x : Double) : Bool :=
  match x.read with
  | .finite _ m _ => m == 0
  | _ => false

/-- Equality of numbers: the two zeros agree, a NaN agrees with nothing. -/
def agrees (x y : Double) : Bool :=
  !x.isNaN && !y.isNaN && (x == y || (x.isZero && y.isZero))

/-- The place of a double in the total order of all bit patterns: negative NaNs first,
then the numbers ascending with `-0` below `+0`, then the positive NaNs. -/
def rank (x : Double) : Int :=
  let bits := x.bits.toNat
  if Format.double.signBit ≤ bits then -((bits - Format.double.signBit : Nat) : Int) - 1 else bits

/-! ### Arithmetic -/

def negate (x : Double) : Double :=
  ⟨x.bits ^^^ 0x8000000000000000⟩

/-- `±m * 2 ^ q` as a multiple of `2 ^ p`, for `p ≤ q`. -/
def multiple (negative : Bool) (m : Nat) (q p : Int) : Int :=
  let n : Int := (m * power 2 (q - p) : Nat)
  if negative then -n else n

/-- A sum of two numbers that cancel is `+0`; the sum of two negative zeros is `-0`. -/
def add (x y : Double) : Double :=
  match x.read, y.read with
  | .nan, _ | _, .nan => nan
  | .infinite a, .infinite b => if a = b then infinity a else nan
  | .infinite a, .finite .. | .finite .., .infinite a => infinity a
  | .finite a m q, .finite b n r =>
    let p := min q r
    let sum := multiple a m q p + multiple b n r p
    if sum = 0 then ofMagnitude (a && b) 0
    else ofScaled (sum < 0) sum.natAbs p

def sub (x y : Double) : Double :=
  if y.isNaN then nan else x.add y.negate

def mul (x y : Double) : Double :=
  match x.read, y.read with
  | .nan, _ | _, .nan => nan
  | .infinite a, .infinite b => infinity (a != b)
  | .infinite a, .finite b n _ | .finite b n _, .infinite a =>
    if n = 0 then nan else infinity (a != b)
  | .finite a m q, .finite b n r => ofScaled (a != b) (m * n) (q + r)

def div (x y : Double) : Double :=
  match x.read, y.read with
  | .nan, _ | _, .nan => nan
  | .infinite _, .infinite _ => nan
  | .infinite a, .finite b _ _ => infinity (a != b)
  | .finite a _ _, .infinite b => ofMagnitude (a != b) 0
  | .finite a m q, .finite b n r =>
    if n = 0 then if m = 0 then nan else infinity (a != b)
    else nearest (a != b) (m * power 2 (q - r)) (n * power 2 (r - q))

/-- The greatest integer not above a finite double. -/
def floor? (x : Double) : Option Int :=
  match x.read with
  | .finite a m q => some (Int.fdiv (multiple a m (max q 0) 0) (power 2 (-q)))
  | _ => none

/-- The integer nearest to a finite double; a half goes away from zero. -/
def round? (x : Double) : Option Int :=
  match x.read with
  | .finite a m q =>
    let d := power 2 (-q)
    let n := (2 * (m * power 2 q) + d) / (2 * d)
    some (if a then -n else n)
  | _ => none

end Double

end ModelProbe

import ModelProbe.Binary.Double
import ModelProbe.Decimal.Layout

/-! JSON numbers.

A literal is the digits as they stand in the text. `Literal.number?` gives it a value: an
integer when it has neither fraction nor exponent and fits a machine word, else a double.
The double is computed in double arithmetic: the leading digits that fit 64 bits, times or
divided by a power of ten. That is the nearest double for short literals and may be a
neighbour of it for long ones. A literal whose double is infinite has no value. -/
namespace ModelProbe.Json

open Binary (power)

structure Literal where
  negative : Bool
  whole : List Char
  fraction : List Char
  /-- Sign and digits of the exponent. -/
  exponent : Option (Bool × List Char)
  /-- Whether the literal has neither point nor exponent. -/
  integral : Bool
deriving DecidableEq

inductive Number where
  | integer (n : Int)
  | double (x : Double)
deriving DecidableEq

/-- The value of a digit, by its place after `'0'`. -/
def digitValue (c : Char) : Nat :=
  c.toNat - '0'.toNat

def digitsValue (cs : List Char) : Nat :=
  cs.foldl (fun n c => 10 * n + digitValue c) 0

/-- Takes digits into `n` while it fits 64 bits; gives it with the digits left. -/
def absorb (n : Nat) : List Char → Nat × List Char
  | [] => (n, [])
  | c :: cs =>
    let m := 10 * n + digitValue c
    if m < UInt64.size then absorb m cs else (n, c :: cs)

/-- Division by `10 ^ 308` until the exponent is at least `-308` or nothing is left. -/
def lower (x : Double) (e : Int) : Double × Int :=
  if e < -308 then
    if x.isZero then (x, 0) else lower (x.div (.ofNat (power 10 308))) (e + 308)
  else (x, e)
termination_by (-e).toNat
decreasing_by omega

/-- `n * 10 ^ e` in double arithmetic; none when it is infinite. -/
def scaleByTen (n : Nat) (e : Int) : Option Double :=
  let x := Double.ofNat n
  if 308 < e then if n = 0 then some x else none
  else
    let (x, e) := lower x e
    if e < 0 then some (x.div (.ofNat (power 10 (-e))))
    else
      let y := x.mul (.ofNat (power 10 e))
      if y.isFinite then some y else none

/-- The exponent part, none when its digits exceed 31 bits; such an exponent makes any
number but zero infinite or zero. -/
def Literal.scale? (l : Literal) : Option Int :=
  match l.exponent with
  | none => some 0
  | some (negative, digits) =>
    let n := digitsValue digits
    if n < Nat.pow 2 31 then some (if negative then -n else n) else none

/-- Whether the exponent has a minus sign. -/
def Literal.shrinks (l : Literal) : Bool :=
  match l.exponent with
  | some (negative, _) => negative
  | none => false

def Literal.double? (l : Literal) : Option Double :=
  let (n, left) := absorb 0 l.whole
  let (m, skipped) := absorb n l.fraction
  let shift : Int := (left.length : Int) - (l.fraction.length - skipped.length : Nat)
  let magnitude :=
    match l.scale? with
    | some p => scaleByTen m (shift + p)
    | none => if m ≠ 0 ∧ !l.shrinks then none else some .zero
  magnitude.map fun x : Double => if l.negative then x.negate else x

/-- The value of a literal. A negative zero and integers beyond 64 bits are doubles. -/
def Literal.number? (l : Literal) : Option Number :=
  let n := digitsValue l.whole
  if l.integral ∧ !l.negative ∧ n < UInt64.size then some (.integer n)
  else if l.integral ∧ l.negative ∧ 0 < n ∧ n ≤ Nat.pow 2 63 then some (.integer (-n))
  else l.double?.map .double

/-- The integer of a number that is written as one and fits 64 bits with a sign. -/
def Number.int64? : Number → Option Int64
  | .integer n => if n ≤ Int64.maxValue.toInt then some (Int64.ofInt n) else none
  | .double _ => none

def Number.toDouble : Number → Double
  | .integer n => .ofInt n
  | .double x => x

/-- Doubles are positional from `10 ^ -5` to below `10 ^ 16`, with a point always, and have a
signed exponent outside that range. -/
def doubleLayout : Decimal.Layout := ⟨some (-5, 15), true, .toEven⟩

def Number.text : Number → String
  | .integer n => toString n
  | .double x => doubleLayout.write x

end ModelProbe.Json

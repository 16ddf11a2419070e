import ModelProbe.Binary.Double

/-! The shortest decimal that reads back to a double.

A finite double `m * 2 ^ q` is what every real in an interval around it rounds to; the ends
belong to the interval exactly when `m` is even. For 1, 2, … 17 digits the two neighbours of
the value on that decimal grid are tested: the first grid with a neighbour inside the
interval wins, of two such neighbours the nearer one, and a tie goes as asked. -/
namespace ModelProbe.Decimal

open Binary

/-- `digits * 10 ^ exponent`. -/
structure Scientific where
  digits : Nat
  exponent : Int
deriving DecidableEq

/-- Where a value halfway between two candidates goes. -/
inductive Tie where
  | toEven
  | up
deriving DecidableEq

/-- The order of `a * 10 ^ i` and `n * 2 ^ j`. -/
def compareScaled (a : Nat) (i : Int) (n : Nat) (j : Int) : Ordering :=
  compare (a * power 10 i * power 2 (-j)) (n * power 2 j * power 10 (-i))

/-- Whether the decimal lies among the reals that round to `m * 2 ^ q`. Just above a power of
two the gap below is half the gap above. -/
def readsBack (m : Nat) (q : Int) (d : Scientific) : Bool :=
  let narrow := m == Format.double.leadingBit && Format.double.leastExponent < q
  let below := compareScaled d.digits d.exponent (4 * m - if narrow then 1 else 2) (q - 2)
  let above := compareScaled d.digits d.exponent (4 * m + 2) (q - 2)
  let closed := m % 2 == 0
  (below == .gt || (closed && below == .eq)) && (above == .lt || (closed && above == .eq))

/-- The least `k` with `m * 2 ^ q < 10 ^ k`, for positive `m`; the logarithm gives a start
that is at most two steps low. -/
def scale (m : Nat) (q : Int) : Int :=
  let start := ((m.log2 : Int) + q) * 30103 / 100000
  match [start, start + 1, start + 2].find? fun k => compareScaled 1 k m q == .gt with
  | some k => k
  | none => start + 3

/-- The decimal with `n` digits that stands for `m * 2 ^ q`, if one reads back. -/
def candidate (tie : Tie) (m : Nat) (q k : Int) (n : Nat) : Option Scientific :=
  let grid := k - n
  let low := m * power 2 q * power 10 (-grid) / (power 2 (-q) * power 10 grid)
  match readsBack m q ⟨low, grid⟩, readsBack m q ⟨low + 1, grid⟩ with
  | true, true =>
    match compareScaled (2 * low + 1) grid (2 * m) q with
    | .gt => some ⟨low, grid⟩
    | .lt => some ⟨low + 1, grid⟩
    | .eq => some ⟨if tie = .toEven ∧ low % 2 = 0 then low else low + 1, grid⟩
  | true, false => some ⟨low, grid⟩
  | false, true => some ⟨low + 1, grid⟩
  | false, false => none

/-- The same value without trailing zeros. -/
def Scientific.trimmed (d : Scientific) : Scientific :=
  if h : d.digits ≠ 0 ∧ d.digits % 10 = 0 then
    Scientific.trimmed ⟨d.digits / 10, d.exponent + 1⟩
  else d
termination_by d.digits
decreasing_by
  show d.digits / 10 < d.digits
  omega

/-- The shortest decimal that reads back to `m * 2 ^ q`, for positive `m`. Seventeen digits
always suffice; the exact value stands in for the case that cannot arise. -/
def shortest (tie : Tie) (m : Nat) (q : Int) : Scientific :=
  let k := scale m q
  match (List.range 17).findSome? fun n => candidate tie m q k (n + 1) with
  | some d => d.trimmed
  | none => Scientific.trimmed ⟨m * power 2 q * power 5 (-q), -(-q).toNat⟩

end ModelProbe.Decimal

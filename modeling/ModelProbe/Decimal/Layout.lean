import ModelProbe.Decimal.Shortest

/-! How the digits of a double are laid out as text.

A layout is the record of a format's decisions; `Layout.write` applies one to the shortest
digits. `Double.text` is the layout of numbers inside messages: always positional, whole
numbers without a point. -/
namespace ModelProbe.Decimal

structure Layout where
  /-- The exponents of the leading digit written positionally; all of them when absent. -/
  positional : Option (Int × Int)
  /-- Whether a whole number in positional form ends in a point and a zero. -/
  wholePoint : Bool
  tie : Tie

def zeros (n : Nat) : List Char :=
  List.replicate n '0'

/-- Digits with the point after the first `p` of them, filled with zeros on either side. -/
def positional (wholePoint : Bool) (digits : List Char) (p : Int) : List Char :=
  if p ≤ 0 then '0' :: '.' :: (zeros (-p).toNat ++ digits)
  else if (digits.length : Int) ≤ p then
    digits ++ zeros (p.toNat - digits.length) ++ if wholePoint then ['.', '0'] else []
  else digits.take p.toNat ++ '.' :: digits.drop p.toNat

/-- One digit, a point if more follow, and the signed exponent of that digit. -/
def exponential (digits : List Char) (e : Int) : List Char :=
  let mantissa :=
    match digits with
    | d :: more@(_ :: _) => d :: '.' :: more
    | _ => digits
  mantissa ++ 'e' :: (if e < 0 then '-' else '+') :: Nat.toDigits 10 e.natAbs

/-- The text of a positive decimal. -/
def Layout.magnitude (layout : Layout) (d : Scientific) : List Char :=
  let digits := Nat.toDigits 10 d.digits
  let p := digits.length + d.exponent
  match layout.positional with
  | none => Decimal.positional layout.wholePoint digits p
  | some (low, high) =>
    if low ≤ p - 1 ∧ p - 1 ≤ high then Decimal.positional layout.wholePoint digits p
    else exponential digits (p - 1)

def Layout.write (layout : Layout) (x : Double) : String :=
  match x.read with
  | .nan => "NaN"
  | .infinite negative => if negative then "-inf" else "inf"
  | .finite negative m q =>
    let magnitude :=
      if m = 0 then if layout.wholePoint then ['0', '.', '0'] else ['0']
      else layout.magnitude (shortest layout.tie m q)
    String.ofList (if negative then '-' :: magnitude else magnitude)

/-- Numbers inside messages. -/
def inMessage : Layout := ⟨none, false, .up⟩

end ModelProbe.Decimal

/-- The text of a double inside a message. -/
def ModelProbe.Double.text (x : Double) : String :=
  Decimal.inMessage.write x

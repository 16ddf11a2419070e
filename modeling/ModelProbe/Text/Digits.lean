/-! Digits in bases up to sixteen. -/
namespace ModelProbe.Text

/-- The value of a hexadecimal digit. -/
def hexValue? (c : Char) : Option Nat :=
  if c.isDigit then some (c.toNat - '0'.toNat)
  else if 'a' ≤ c ∧ c ≤ 'f' then some (c.toNat - 'a'.toNat + 10)
  else if 'A' ≤ c ∧ c ≤ 'F' then some (c.toNat - 'A'.toNat + 10)
  else none

/-- The number that digits of a base write; no digits write 0. -/
def digitsValue? (base : Nat) (cs : List Char) : Option Nat :=
  cs.foldlM (fun n c =>
    match hexValue? c with
    | some d => if d < base then some (base * n + d) else none
    | none => none) 0

end ModelProbe.Text

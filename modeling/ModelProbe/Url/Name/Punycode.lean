/-! Labels of names in ASCII.

A label keeps its ASCII characters and puts a hyphen and digits behind them. The digits are
numbers in base 36, one for each of the other characters in the order of their code points
and of their places: how many places further it stands than the one before, when all places
are counted through for one code point after another. -/
namespace ModelProbe.Url.Punycode

/-! ### Digits -/

/-- Letters are the digits up to 25, decimal digits the rest. -/
def digit (n : Nat) : Char :=
  if n < 26 then Char.ofNat ('a'.toNat + n) else Char.ofNat ('0'.toNat + (n - 26))

def digitValue? (c : Char) : Option Nat :=
  if c.isLower then some (c.toNat - 'a'.toNat)
  else if c.isDigit then some (c.toNat - '0'.toNat + 26)
  else none

/-- A digit below its threshold ends a number. Digits stand at multiples of 36. -/
def threshold (bias place : Nat) : Nat :=
  if place ≤ bias then 1 else if bias + 26 ≤ place then 26 else place - bias

theorem threshold_pos (bias place : Nat) : 0 < threshold bias place := by
  unfold threshold
  repeat' split
  all_goals omega

def firstBias : Nat := 72

def biasFrom (places number : Nat) : Nat :=
  if number ≤ 455 then places + 36 * number / (number + 38)
  else biasFrom (places + 36) (number / 35)
termination_by number

/-- The bias after a number, now that `count` characters stand. The first number is big. -/
def nextBias (isFirst : Bool) (number count : Nat) : Nat :=
  let number := if isFirst then number / 700 else number / 2
  biasFrom 0 (number + number / count)

/-! ### Writing -/

/-- The digits of a number, the lowest first. -/
def digits (bias place number : Nat) : List Char :=
  let least := threshold bias place
  if number < least then [digit number]
  else
    digit (least + (number - least) % (36 - least)) ::
      digits bias (place + 36) ((number - least) / (36 - least))
termination_by number
decreasing_by
  have hpos := threshold_pos bias place
  exact Nat.lt_of_le_of_lt (Nat.div_le_self ..) (by omega)

/-- Where writing stands: the places passed since the last number, how many characters are
written, the bias for the next number and the digits so far. -/
structure Writing where
  passed : Nat := 0
  count : Nat
  isFirst : Bool := true
  bias : Nat := firstBias
  text : List Char := []

/-- Passes a character `m` of the label while those with code point `n` are written. -/
def Writing.pass (n : Nat) (w : Writing) (m : Nat) : Writing :=
  if m < n then { w with passed := w.passed + 1 }
  else if m = n then
    { passed := 0, count := w.count + 1, isFirst := false,
      bias := nextBias w.isFirst w.passed (w.count + 1),
      text := w.text ++ digits w.bias 36 w.passed }
  else w

/-- Writes the characters with ascending code points, none of which is below `start`. -/
def writeAll (label : List Nat) : (start : Nat) → List Nat → Writing → Writing
  | _, [], w => w
  | start, n :: rest, w =>
    let w := { w with passed := w.passed + (n - start) * (w.count + 1) }
    let w := label.foldl (Writing.pass n) w
    writeAll label (n + 1) rest { w with passed := w.passed + 1 }

def encode (label : List Nat) : List Char :=
  let basic := label.filter (· < 0x80)
  let others := (label.filter (0x80 ≤ ·)).mergeSort.eraseDups
  basic.map Char.ofNat ++ (if basic = [] then [] else ['-']) ++
    (writeAll label 0x80 others { count := basic.length }).text

/-! ### Reading -/

/-- Where reading stands: the label so far, the place behind the last character and its code
point, and of the number being read its value, the weight of its next digit and that one's
place. -/
structure Reading where
  label : List Nat
  place : Nat := 0
  point : Nat := 0x80
  isFirst : Bool := true
  bias : Nat := firstBias
  number : Nat := 0
  weight : Nat := 1
  digitPlace : Nat := 36

/-- Puts a character where the number that has been read says. -/
def Reading.put (r : Reading) (number : Nat) : Option Reading :=
  let count := r.label.length + 1
  let place := r.place + number
  let point := r.point + place / count
  if point.isValidChar then
    some {
      label := r.label.insertIdx (place % count) point
      place := place % count + 1
      point
      isFirst := false
      bias := nextBias r.isFirst number count }
  else none

def Reading.next (r : Reading) (c : Char) : Option Reading := do
  let d ← digitValue? c
  let least := threshold r.bias r.digitPlace
  let number := r.number + d * r.weight
  if d < least then r.put number
  else
    return { r with
      number, weight := r.weight * (36 - least), digitPlace := r.digitPlace + 36 }

/-- The label behind ASCII characters with a hyphen, if there are any, and digits. -/
def decode? (cs : List Char) : Option (List Nat) := do
  let digits := (cs.reverse.takeWhile (· != '-')).reverse
  let basic := (cs.take (cs.length - digits.length)).dropLast
  let r ← digits.foldlM Reading.next { label := basic.map Char.toNat }
  let hasHyphen := digits.length < cs.length
  if digits = [] ∨ hasHyphen ∧ basic = [] ∨ basic.any (0x80 ≤ ·.toNat) ∨ r.digitPlace ≠ 36 then
    none
  else some r.label

end ModelProbe.Url.Punycode

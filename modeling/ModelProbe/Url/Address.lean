import ModelProbe.Text.Digits
import ModelProbe.Text.Pieces

/-! Addresses as hosts of URLs.

An address of version 4 may be written in parts of any base, the last of which fills all
bytes that are left; it comes out as four decimal bytes. An address of version 6 may leave
out one run of zeros and may end in an address of version 4; it comes out with its longest
run of zeros left out. -/
namespace ModelProbe.Url

open Text (digitsValue? pieces splitOnce?)

/-! ### Version 4 -/

structure Ipv4 where
  bits : UInt32
deriving DecidableEq

namespace Ipv4

/-- The labels of a lower-case name, without an empty one at its end. -/
def labels (name : List Char) : List (List Char) :=
  let all := pieces (· == '.') name
  if all.getLast? = some [] then all.dropLast else all

/-- A part: hexadecimal after `0x`, octal after any other zero in front, else decimal. -/
def part? : List Char → Option Nat
  | [] => none
  | '0' :: 'x' :: digits => digitsValue? 16 digits
  | '0' :: digit :: digits => digitsValue? 8 (digit :: digits)
  | digits => digitsValue? 10 digits

/-- Whether a name can only be an address, because it ends in a number. -/
def endsInNumber (name : List Char) : Bool :=
  match (labels name).getLast? with
  | some last => (last ≠ [] && last.all Char.isDigit) || (part? last).isSome
  | none => false

/-- The bits of parts that fill `room` bytes: a byte each, and the last all that is left. -/
def bits? : (room : Nat) → List Nat → Option Nat
  | room + 1, [last] => if last < Nat.pow 256 (room + 1) then some last else none
  | room + 1, byte :: rest =>
    if byte < 256 then (bits? room rest).map (byte * Nat.pow 256 room + ·) else none
  | _, _ => none

def ofName? (name : List Char) : Option Ipv4 :=
  (((labels name).mapM part?).bind (bits? 4)).map fun n => ⟨UInt32.ofNat n⟩

def text (a : Ipv4) : List Char :=
  let n := a.bits.toNat
  let byte (k : Nat) := Nat.toDigits 10 (n / Nat.pow 256 k % 256)
  byte 3 ++ '.' :: byte 2 ++ '.' :: byte 1 ++ '.' :: byte 0

end Ipv4

/-! ### Version 6 -/

structure Ipv6 where
  words : List UInt16
  length_words : words.length = 8
deriving DecidableEq

namespace Ipv6

/-- A word: one to four hexadecimal digits. -/
def word? (digits : List Char) : Option Nat :=
  if digits = [] ∨ 4 < digits.length then none else digitsValue? 16 digits

/-- A byte of an address of version 4 at the end: decimal, without a zero in front. -/
def byte? : List Char → Option Nat
  | [] => none
  | '0' :: _ :: _ => none
  | digits => (digitsValue? 10 digits).bind fun n => if n < 256 then some n else none

/-- What the last part stands for: a word, or two as an address of version 4. -/
def last? (cs : List Char) : Option (List Nat) :=
  if '.' ∈ cs then
    match (pieces (· == '.') cs).mapM byte? with
    | some [a, b, c, d] => some [256 * a + b, 256 * c + d]
    | _ => none
  else (word? cs).map ([·])

/-- The words before a run of zeros that is left out. -/
def before? (cs : List Char) : Option (List Nat) :=
  if cs = [] then some [] else (pieces (· == ':') cs).mapM word?

/-- The words after such a run, or all of them. -/
def after? (cs : List Char) : Option (List Nat) :=
  if cs = [] then some []
  else do
    let all := pieces (· == ':') cs
    return (← all.dropLast.mapM word?) ++ (← last? (all.getLast?.getD []))

def ofWords? (ns : List Nat) : Option Ipv6 :=
  if h : ns.length = 8 then some ⟨ns.map UInt16.ofNat, by simpa using h⟩ else none

/-- Reads what stands between the brackets. A pair of colons leaves out at least one zero. -/
def ofText? (cs : List Char) : Option Ipv6 := do
  match splitOnce? "::".toList cs with
  | none => ofWords? (← after? cs)
  | some (before, after) =>
    let before ← before? before
    let after ← after? after
    let zeros := 8 - before.length - after.length
    if zeros = 0 then none else ofWords? (before ++ List.replicate zeros 0 ++ after)

/-- Where the longest run of zeros starts, the first of equals, and how long it is. -/
def zeroRun : List UInt16 → Nat × Nat
  | [] => (0, 0)
  | w :: rest =>
    let here := ((w :: rest).takeWhile (· == 0)).length
    let (start, length) := zeroRun rest
    if length ≤ here then (0, here) else (start + 1, length)

def wordsText (ws : List UInt16) : List Char :=
  List.intercalate [':'] (ws.map fun w => Nat.toDigits 16 w.toNat)

def text (a : Ipv6) : List Char :=
  let (start, length) := zeroRun a.words
  if length < 2 then wordsText a.words
  else
    wordsText (a.words.take start) ++ "::".toList ++ wordsText (a.words.drop (start + length))

end Ipv6

end ModelProbe.Url

import ModelProbe.Json.Number
import ModelProbe.Text.Digits

/-! The tokens of JSON text.

Scanning is strict: no comments, no bare control characters in strings, no leading zeros.
A string token holds its text with the escapes resolved, or nothing when an escape stands
for half of a surrogate pair without the other half: such a string is well formed but
stands for no text. Every scanner gives back the rest of the text, which is shorter. -/
namespace ModelProbe.Json

open Text (hexValue?)

inductive Token where
  | leftBracket
  | rightBracket
  | leftBrace
  | rightBrace
  | comma
  | colon
  | null
  | bool (b : Bool)
  | number (l : Literal)
  | string (text : Option String)
deriving DecidableEq

/-! ### Strings -/

/-- The 16-bit unit that four hexadecimal digits name. -/
def unit? (a b c d : Char) : Option Nat := do
  return (← hexValue? a) * 4096 + (← hexValue? b) * 256 + (← hexValue? c) * 16 + (← hexValue? d)

/-- The character a one-letter escape stands for. -/
def escaped? : Char → Option Char
  | '"' => some '"'
  | '\\' => some '\\'
  | '/' => some '/'
  | 'b' => some '\x08'
  | 'f' => some '\x0c'
  | 'n' => some '\n'
  | 'r' => some '\r'
  | 't' => some '\t'
  | _ => none

/-- The code points up to the closing quote, surrogates among them, and what follows it. -/
def stringBody : List Char → Option (List Nat × List Char)
  | [] => none
  | '"' :: rest => some ([], rest)
  | '\\' :: 'u' :: a :: b :: c :: d :: rest => do
    let n ← unit? a b c d
    let (points, rest) ← stringBody rest
    return (n :: points, rest)
  | '\\' :: c :: rest => do
    let e ← escaped? c
    let (points, rest) ← stringBody rest
    return (e.toNat :: points, rest)
  | c :: rest =>
    if 0x20 ≤ c.toNat ∧ c ≠ '\\' then do
      let (points, rest) ← stringBody rest
      return (c.toNat :: points, rest)
    else none

def isHighSurrogate (n : Nat) : Bool :=
  0xd800 ≤ n && n < 0xdc00

def isLowSurrogate (n : Nat) : Bool :=
  0xdc00 ≤ n && n < 0xe000

/-- The characters of a list of code points with the surrogate pairs joined; none when half
of a pair stands alone. -/
def joinSurrogates? : List Nat → Option (List Char)
  | [] => some []
  | high :: low :: rest =>
    if isHighSurrogate high then
      if isLowSurrogate low then
        (joinSurrogates? rest).map
          (Char.ofNat (0x10000 + (high - 0xd800) * 0x400 + (low - 0xdc00)) :: ·)
      else none
    else if isLowSurrogate high then none
    else (joinSurrogates? (low :: rest)).map (Char.ofNat high :: ·)
  | [n] => if isHighSurrogate n || isLowSurrogate n then none else some [Char.ofNat n]

theorem stringBody_length {cs rest : List Char} {points : List Nat}
    (h : stringBody cs = some (points, rest)) : rest.length < cs.length := by
  fun_induction stringBody cs generalizing points rest with
  | case1 => simp at h
  | case2 => simp_all
  | case3 a b c d tail ih =>
    simp only [bind, Option.bind_eq_some_iff] at h
    obtain ⟨_, _, ⟨ps, r⟩, hr, h⟩ := h
    have := ih hr
    simp_all
    omega
  | case4 c tail _ ih =>
    simp only [bind, Option.bind_eq_some_iff] at h
    obtain ⟨_, _, ⟨ps, r⟩, hr, h⟩ := h
    have := ih hr
    simp_all
    omega
  | case5 c tail _ _ _ _ ih =>
    simp only [bind, Option.bind_eq_some_iff] at h
    obtain ⟨⟨ps, r⟩, hr, h⟩ := h
    have := ih hr
    simp_all
    omega
  | case6 => simp at h

/-! ### Numbers -/

/-- A run of digits and what follows it. -/
def digits (cs : List Char) : List Char × List Char :=
  (cs.takeWhile Char.isDigit, cs.dropWhile Char.isDigit)

theorem digits_length (cs : List Char) : (digits cs).2.length ≤ cs.length :=
  (List.dropWhile_suffix _).length_le

/-- The digits after a point, at least one. -/
def fractionPart? : List Char → Option (List Char × List Char)
  | '.' :: rest => if (digits rest).1 = [] then none else some (digits rest)
  | cs => some ([], cs)

/-- The sign that may stand before the digits of an exponent. -/
def exponentSign : List Char → Bool × List Char
  | '+' :: rest => (false, rest)
  | '-' :: rest => (true, rest)
  | cs => (false, cs)

def exponentPart? (cs : List Char) : Option (Option (Bool × List Char) × List Char) :=
  match cs with
  | c :: rest =>
    if c = 'e' ∨ c = 'E' then
      let (written, left) := digits (exponentSign rest).2
      if written = [] then none else some (some ((exponentSign rest).1, written), left)
    else some (none, cs)
  | [] => some (none, [])

/-- A number after its sign. A leading zero stands alone. -/
def unsigned? (negative : Bool) (cs : List Char) : Option (Literal × List Char) :=
  let whole := (digits cs).1
  if whole = [] ∨ (whole.head? = some '0' ∧ whole ≠ ['0']) then none
  else
    match fractionPart? (digits cs).2 with
    | none => none
    | some (fraction, rest) =>
      (exponentPart? rest).map fun (exponent, rest) =>
        (⟨negative, whole, fraction, exponent, fraction = [] && exponent.isNone⟩, rest)

theorem fractionPart?_length {cs fraction rest : List Char}
    (h : fractionPart? cs = some (fraction, rest)) : rest.length ≤ cs.length := by
  unfold fractionPart? at h
  split at h
  · rename_i tail
    split at h
    · simp at h
    · have hd := digits_length tail
      simp only [Option.some.injEq] at h
      rw [h] at hd
      exact Nat.le_succ_of_le hd
  · simp_all

theorem exponentSign_length (cs : List Char) : (exponentSign cs).2.length ≤ cs.length := by
  unfold exponentSign
  split <;> simp

theorem exponentPart?_length {cs rest : List Char} {e : Option (Bool × List Char)}
    (h : exponentPart? cs = some (e, rest)) : rest.length ≤ cs.length := by
  unfold exponentPart? at h
  split at h
  · rename_i c tail
    split at h
    · have hs := exponentSign_length tail
      have hd := digits_length (exponentSign tail).2
      simp only at h
      split at h
      · simp at h
      · simp only [Option.some.injEq, Prod.mk.injEq] at h
        rw [h.2] at hd
        exact Nat.le_succ_of_le (Nat.le_trans hd hs)
    · simp_all
  · simp_all

theorem unsigned?_length {negative : Bool} {cs rest : List Char} {l : Literal}
    (h : unsigned? negative cs = some (l, rest)) : rest.length < cs.length := by
  unfold unsigned? at h
  simp only at h
  split at h
  · simp at h
  · rename_i hw
    split at h
    · simp at h
    · rename_i fraction mid hf
      simp only [Option.map_eq_some_iff, Prod.mk.injEq] at h
      obtain ⟨⟨e, r⟩, he, _, hr⟩ := h
      have h₁ := fractionPart?_length hf
      have h₂ := exponentPart?_length he
      have h₃ : (digits cs).1.length + (digits cs).2.length = cs.length := by
        rw [← List.length_append]
        simp [digits, List.takeWhile_append_dropWhile]
      have h₄ : 0 < (digits cs).1.length :=
        List.length_pos_iff.2 fun h => hw (.inl h)
      simp only at hr
      subst hr
      omega

/-! ### Text -/

/-- The token at the start of a text that does not start with white space. -/
def token? : List Char → Option (Token × List Char)
  | '[' :: rest => some (.leftBracket, rest)
  | ']' :: rest => some (.rightBracket, rest)
  | '\x7b' :: rest => some (.leftBrace, rest)
  | '\x7d' :: rest => some (.rightBrace, rest)
  | ',' :: rest => some (.comma, rest)
  | ':' :: rest => some (.colon, rest)
  | 'n' :: 'u' :: 'l' :: 'l' :: rest => some (.null, rest)
  | 't' :: 'r' :: 'u' :: 'e' :: rest => some (.bool true, rest)
  | 'f' :: 'a' :: 'l' :: 's' :: 'e' :: rest => some (.bool false, rest)
  | '"' :: rest =>
    (stringBody rest).map fun (points, rest) =>
      (.string ((joinSurrogates? points).map String.ofList), rest)
  | '-' :: rest => (unsigned? true rest).map fun (l, rest) => (.number l, rest)
  | cs => (unsigned? false cs).map fun (l, rest) => (.number l, rest)

theorem token?_length {cs rest : List Char} {t : Token} (h : token? cs = some (t, rest)) :
    rest.length < cs.length := by
  unfold token? at h
  split at h
  case h_10 tail =>
    simp only [Option.map_eq_some_iff, Prod.mk.injEq] at h
    obtain ⟨⟨points, r⟩, hb, _, rfl⟩ := h
    have := stringBody_length hb
    simp only [List.length_cons]
    omega
  case h_11 tail =>
    simp only [Option.map_eq_some_iff, Prod.mk.injEq] at h
    obtain ⟨⟨l, r⟩, hl, _, rfl⟩ := h
    have := unsigned?_length hl
    simp only [List.length_cons]
    omega
  case h_12 =>
    simp only [Option.map_eq_some_iff, Prod.mk.injEq] at h
    obtain ⟨⟨l, r⟩, hl, _, rfl⟩ := h
    exact unsigned?_length hl
  all_goals
    simp only [Option.some.injEq, Prod.mk.injEq] at h
    obtain ⟨_, rfl⟩ := h
    simp only [List.length_cons]
    omega

def isSpace (c : Char) : Bool :=
  c == ' ' || c == '\t' || c == '\n' || c == '\r'

/-- All tokens of a text, if it holds nothing else but white space. -/
def tokens? (cs : List Char) : Option (List Token) :=
  match cs with
  | [] => some []
  | c :: rest =>
    if isSpace c then tokens? rest
    else
      match _h : token? (c :: rest) with
      | none => none
      | some (t, rest) => (tokens? rest).map (t :: ·)
termination_by cs.length
decreasing_by
  · simp
  · exact token?_length _h

end ModelProbe.Json

import Mathlib.Data.List.TakeWhile
import ModelProbe.Json.Value

/-! The tokens of written text.

Text is scanned as it was written: a quoted string gives its characters again, whatever escapes they
needed, and the digits of an integer are one literal, as far as what follows is no part of it
(`EndsLiteral`). So the text of a value without doubles is scanned as the tokens of its tree, and
then goes on (`Written.tokens?`). `Written` relates such a value to its tree: there is none for a
double. -/
namespace ModelProbe.Json

/-! ### Strings -/

theorem hexValue?_digitChar : ∀ n < 16, Text.hexValue? (Nat.digitChar n) = some n := by
  decide

theorem unit?_hexPair {n : Nat} (h : n < 0x20) :
    unit? '0' '0' (Nat.digitChar (n / 16 % 16)) (Nat.digitChar (n % 16)) = some n := by
  have hzero : Text.hexValue? '0' = some 0 := by decide
  have hhigh := hexValue?_digitChar (n / 16 % 16) (by omega)
  have hlow := hexValue?_digitChar (n % 16) (by omega)
  have hvalue : 0 * 4096 + 0 * 256 + n / 16 % 16 * 16 + n % 16 = n := by omega
  simp only [unit?, hzero, hhigh, hlow, Option.bind_eq_bind, Option.bind_some, hvalue]
  rfl

theorem stringBody_letter {c e : Char} (hu : c ≠ 'u') (he : escaped? c = some e)
    (rest : List Char) : stringBody ('\\' :: c :: rest) =
      (stringBody rest).map fun p => (e.toNat :: p.1, p.2) := by
  rw [stringBody, he]
  · cases stringBody rest <;> rfl
  · exact fun _ _ _ _ _ h _ => hu h

theorem stringBody_coded {n : Nat} (h : n < 0x20) (rest : List Char) :
    stringBody ('\\' :: 'u' :: '0' :: '0' :: (hexPair n ++ rest)) =
      (stringBody rest).map fun p => (n :: p.1, p.2) := by
  show stringBody ('\\' :: 'u' :: '0' :: '0' :: Nat.digitChar (n / 16 % 16) ::
    Nat.digitChar (n % 16) :: rest) = _
  rw [stringBody, unit?_hexPair h]
  cases stringBody rest <;> rfl

theorem stringBody_plain {c : Char} (hquote : c ≠ '"') (hslash : c ≠ '\\') (h : 0x20 ≤ c.toNat)
    (rest : List Char) :
    stringBody (c :: rest) = (stringBody rest).map fun p => (c.toNat :: p.1, p.2) := by
  rw [stringBody, if_pos ⟨h, hslash⟩]
  · cases stringBody rest <;> rfl
  · exact hquote
  · exact fun _ _ _ _ _ h _ => hslash h
  · exact fun _ _ h _ => hslash h

/-- **A character inside quotes is read as itself**, escaped or not. -/
theorem stringBody_escape (c : Char) (rest : List Char) :
    stringBody (escape c ++ rest) =
      (stringBody rest).map fun p => (c.toNat :: p.1, p.2) := by
  unfold escape
  split
  case h_8 hquote hslash _ _ _ _ _ =>
    split
    · rename_i hcontrol
      exact stringBody_coded hcontrol rest
    · rename_i hplain
      exact stringBody_plain hquote hslash (Nat.not_lt.1 hplain) rest
  all_goals exact stringBody_letter (by decide) rfl rest

theorem stringBody_flatMap_escape (cs rest : List Char) :
    stringBody (cs.flatMap escape ++ '"' :: rest) = some (cs.map Char.toNat, rest) := by
  induction cs with
  | nil => rfl
  | cons c cs ih =>
    rw [List.flatMap_cons, List.append_assoc, stringBody_escape, ih]
    rfl

/-- No character is half of a surrogate pair. -/
theorem not_surrogate (c : Char) :
    isHighSurrogate c.toNat = false ∧ isLowSurrogate c.toNat = false := by
  have hvalid : c.toNat < 0xd800 ∨ 0xdfff < c.toNat ∧ c.toNat < 0x110000 := c.valid
  simp only [isHighSurrogate, isLowSurrogate, Bool.and_eq_false_iff, decide_eq_false_iff_not]
  omega

theorem joinSurrogates?_map_toNat (cs : List Char) :
    joinSurrogates? (cs.map Char.toNat) = some cs := by
  induction cs with
  | nil => rfl
  | cons c cs ih =>
    obtain ⟨hhigh, hlow⟩ := not_surrogate c
    cases cs with
    | nil => simp [joinSurrogates?, hhigh, hlow]
    | cons d cs =>
      rw [List.map_cons, List.map_cons, joinSurrogates?, hhigh, hlow, ← List.map_cons, ih]
      simp

/-- **A quoted string is read as that string.** -/
theorem token?_quoted (s : String) (rest : List Char) :
    token? (quoted s ++ rest) = some (.string (some s), rest) := by
  have hbody : stringBody ((s.toList.flatMap escape ++ ['"']) ++ rest) =
      some (s.toList.map Char.toNat, rest) := by
    rw [List.append_assoc]
    exact stringBody_flatMap_escape s.toList rest
  show (stringBody ((s.toList.flatMap escape ++ ['"']) ++ rest)).map _ = _
  rw [hbody, Option.map_some]
  dsimp only
  rw [joinSurrogates?_map_toNat, Option.map_some, String.ofList_toList]

/-! ### Integers -/

/-- The literal an integer is written as. -/
def Literal.ofInt (n : Int) : Literal :=
  ⟨n < 0, Nat.toDigits 10 n.natAbs, [], none, true⟩

/-- Text that no literal goes on with. -/
def EndsLiteral (rest : List Char) : Prop :=
  ∀ c ∈ rest.head?, c.isDigit = false ∧ c ≠ '.' ∧ c ≠ 'e' ∧ c ≠ 'E'

theorem isDigit_of_mem_toDigits {n : Nat} {c : Char} (h : c ∈ Nat.toDigits 10 n) : c.isDigit :=
  Nat.isDigit_of_mem_toDigits (by decide) (by decide) h

theorem exists_toDigits (n : Nat) : ∃ c cs, Nat.toDigits 10 n = c :: cs :=
  List.exists_cons_of_ne_nil Nat.toDigits_ne_nil

/-- Only zero is written with a zero in front. -/
theorem toDigits_of_head {n : Nat} (h : (Nat.toDigits 10 n).head? = some '0') :
    Nat.toDigits 10 n = ['0'] := by
  suffices n = 0 by rw [this, Nat.toDigits_zero]
  induction n using Nat.strongRecOn with
  | ind n ih =>
    by_cases hn : n < 10
    · rw [Nat.toDigits_of_lt_base hn] at h
      exact Nat.digitChar_eq_zero.1 (Option.some.inj h)
    · obtain ⟨c, cs, hcs⟩ := exists_toDigits (n / 10)
      have hfront : (Nat.toDigits 10 (n / 10)).head? = some '0' := by
        rw [Nat.toDigits_of_base_le (by decide) (Nat.not_lt.1 hn), hcs] at h
        rw [hcs]
        exact h
      have hzero := ih (n / 10) (by omega) hfront
      omega

theorem digits_append {ds rest : List Char} (hds : ∀ c ∈ ds, c.isDigit)
    (hrest : ∀ c ∈ rest.head?, c.isDigit = false) : digits (ds ++ rest) = (ds, rest) := by
  have hstop : rest.takeWhile Char.isDigit = [] ∧ rest.dropWhile Char.isDigit = rest := by
    cases rest with
    | nil => exact ⟨rfl, rfl⟩
    | cons c rest => simp [hrest c rfl]
  rw [digits, List.takeWhile_append_of_pos hds, List.dropWhile_append_of_pos hds, hstop.1, hstop.2,
    List.append_nil]

theorem EndsLiteral.fractionPart? {rest : List Char} (h : EndsLiteral rest) :
    Json.fractionPart? rest = some ([], rest) := by
  unfold Json.fractionPart?
  split
  · exact absurd rfl (h '.' rfl).2.1
  · rfl

theorem EndsLiteral.exponentPart? {rest : List Char} (h : EndsLiteral rest) :
    Json.exponentPart? rest = some (none, rest) := by
  unfold Json.exponentPart?
  split
  · rename_i c rest
    obtain ⟨-, -, he, hE⟩ := h c rfl
    exact if_neg (not_or.2 ⟨he, hE⟩)
  · rfl

theorem unsigned?_toDigits (negative : Bool) (n : Nat) {rest : List Char} (h : EndsLiteral rest) :
    unsigned? negative (Nat.toDigits 10 n ++ rest) =
      some (⟨negative, Nat.toDigits 10 n, [], none, true⟩, rest) := by
  have hdigits : digits (Nat.toDigits 10 n ++ rest) = (Nat.toDigits 10 n, rest) :=
    digits_append (fun _ => isDigit_of_mem_toDigits) fun c hc => (h c hc).1
  have hwhole : ¬(Nat.toDigits 10 n = [] ∨
      (Nat.toDigits 10 n).head? = some '0' ∧ Nat.toDigits 10 n ≠ ['0']) := by
    rintro (hnil | ⟨hhead, hmore⟩)
    · exact Nat.toDigits_ne_nil hnil
    · exact hmore (toDigits_of_head hhead)
  unfold unsigned?
  simp only [hdigits]
  rw [if_neg hwhole, h.fractionPart?]
  simp only [h.exponentPart?, Option.map_some]
  rfl

/-- Text that begins with a digit is scanned as a number without a sign. -/
theorem token?_of_isDigit {c : Char} (hc : c.isDigit) (rest : List Char) :
    token? (c :: rest) = (unsigned? false (c :: rest)).map fun p => (.number p.1, p.2) := by
  unfold token?
  split
  case h_12 => rfl
  all_goals
    rename_i h
    cases h
    exact absurd hc (by decide)

theorem toList_text_integer (n : Int) : (Number.integer n).text.toList =
    if n < 0 then '-' :: Nat.toDigits 10 n.natAbs else Nat.toDigits 10 n.natAbs := by
  show (toString n).toList = _
  rw [Int.toString_eq_repr, Int.repr_eq_if]
  by_cases h : 0 ≤ n
  · have habs : n.toNat = n.natAbs := by omega
    rw [if_pos h, if_neg (by omega), Nat.toList_repr, habs]
  · have habs : (-n).toNat = n.natAbs := by omega
    rw [if_neg h, if_pos (by omega), String.toList_append, Nat.toList_repr, habs]
    rfl

/-- **An integer is scanned as its literal.** -/
theorem token?_integer (n : Int) {rest : List Char} (h : EndsLiteral rest) :
    token? ((Number.integer n).text.toList ++ rest) = some (.number (.ofInt n), rest) := by
  rw [toList_text_integer]
  by_cases hn : n < 0
  · rw [if_pos hn]
    show (unsigned? true (Nat.toDigits 10 n.natAbs ++ rest)).map _ = _
    rw [unsigned?_toDigits true n.natAbs h, Option.map_some, Literal.ofInt, decide_eq_true hn]
  · obtain ⟨c, cs, hcs⟩ := exists_toDigits n.natAbs
    have hc : c.isDigit := isDigit_of_mem_toDigits (hcs ▸ List.mem_cons_self ..)
    rw [if_neg hn, hcs, List.cons_append, token?_of_isDigit hc, ← List.cons_append, ← hcs,
      unsigned?_toDigits false n.natAbs h, Option.map_some, Literal.ofInt, decide_eq_false hn]

/-! ### Values -/

mutual

/-- The tokens of a tree, as it is written. -/
def Tree.tokens : Tree → List Token
  | .null => [.null]
  | .bool b => [.bool b]
  | .number l => [.number l]
  | .string s => [.string s]
  | .array items => .leftBracket :: (Tree.itemTokens items ++ [.rightBracket])
  | .object members => .leftBrace :: (Tree.memberTokens members ++ [.rightBrace])

def Tree.itemTokens : List Tree → List Token
  | [] => []
  | [t] => t.tokens
  | t :: rest => t.tokens ++ .comma :: Tree.itemTokens rest

def Tree.memberTokens : List (Option String × Tree) → List Token
  | [] => []
  | [(k, t)] => .string k :: .colon :: t.tokens
  | (k, t) :: rest => .string k :: .colon :: (t.tokens ++ .comma :: Tree.memberTokens rest)

end

mutual

/-- A value without doubles, and the tree of its text. -/
inductive Written : Value → Tree → Prop where
  | null : Written .null .null
  | bool (b : Bool) : Written (.bool b) (.bool b)
  | integer (n : Int) : Written (.number (.integer n)) (.number (.ofInt n))
  | string (s : String) : Written (.string s) (.string (some s))
  | array {items : List Value} {trees : List Tree} (h : WrittenItems items trees) :
      Written (.array items) (.array trees)
  | object {members : List (String × Value)} {trees : List (Option String × Tree)}
      (h : WrittenMembers members trees) : Written (.object members) (.object trees)

inductive WrittenItems : List Value → List Tree → Prop where
  | nil : WrittenItems [] []
  | cons {v : Value} {t : Tree} {items : List Value} {trees : List Tree} (h : Written v t)
      (hrest : WrittenItems items trees) : WrittenItems (v :: items) (t :: trees)

inductive WrittenMembers : List (String × Value) → List (Option String × Tree) → Prop where
  | nil : WrittenMembers [] []
  | cons (k : String) {v : Value} {t : Tree} {members : List (String × Value)}
      {trees : List (Option String × Tree)} (h : Written v t)
      (hrest : WrittenMembers members trees) :
      WrittenMembers ((k, v) :: members) ((some k, t) :: trees)

end

/-- A token at the front of a text does not begin with white space. -/
theorem token?_of_isSpace {c : Char} (hc : isSpace c) (rest : List Char) :
    token? (c :: rest) = none := by
  have hdigit : c.isDigit = false := by
    simp only [isSpace, Bool.or_eq_true, beq_iff_eq] at hc
    rcases hc with ((rfl | rfl) | rfl) | rfl <;> rfl
  have hunsigned : unsigned? false (c :: rest) = none := by
    have hwhole : (digits (c :: rest)).1 = [] := by simp [digits, hdigit]
    unfold unsigned?
    exact if_pos (.inl hwhole)
  unfold token?
  split
  case h_12 => rw [hunsigned, Option.map_none]
  all_goals
    rename_i h
    cases h
    exact absurd hc (by decide)

theorem tokens?_of_token? {cs rest : List Char} {t : Token} {after : List Token}
    (h : token? cs = some (t, rest)) (hafter : tokens? rest = some after) :
    tokens? cs = some (t :: after) := by
  cases cs with
  | nil => cases h
  | cons c cs =>
    have hc : ¬isSpace c := fun hc => by cases (token?_of_isSpace hc cs).symm.trans h
    rw [tokens?, if_neg hc]
    split
    · rename_i hnone
      cases hnone.symm.trans h
    · rename_i hsome
      cases hsome.symm.trans h
      rw [hafter, Option.map_some]

theorem tokens?_cons {c : Char} {t : Token} (h : ∀ rest, token? (c :: rest) = some (t, rest))
    {rest : List Char} {after : List Token} (hafter : tokens? rest = some after) :
    tokens? (c :: rest) = some (t :: after) :=
  tokens?_of_token? (h rest) hafter

theorem endsLiteral_cons {c : Char} (h : c.isDigit = false ∧ c ≠ '.' ∧ c ≠ 'e' ∧ c ≠ 'E')
    (rest : List Char) : EndsLiteral (c :: rest) := by
  intro d hd
  cases hd
  exact h

mutual

/-- **The text of a value is scanned as the tokens of its tree**, and then goes on. -/
theorem Written.tokens? {v : Value} {t : Tree} {rest : List Char} {after : List Token} :
    Written v t → EndsLiteral rest → Json.tokens? rest = some after →
      Json.tokens? (v.chars ++ rest) = some (t.tokens ++ after)
  | .null, _, hafter => tokens?_of_token? rfl hafter
  | .bool true, _, hafter => tokens?_of_token? rfl hafter
  | .bool false, _, hafter => tokens?_of_token? rfl hafter
  | .integer n, hrest, hafter => tokens?_of_token? (token?_integer n hrest) hafter
  | .string s, _, hafter => tokens?_of_token? (token?_quoted s rest) hafter
  | @Written.array items trees h, _, hafter => by
    have htext : (Value.array items).chars ++ rest = '[' :: (itemChars items ++ ']' :: rest) := by
      simp [Value.chars]
    have htokens : (Tree.array trees).tokens ++ after =
        .leftBracket :: (Tree.itemTokens trees ++ .rightBracket :: after) := by simp [Tree.tokens]
    rw [htext, htokens]
    exact tokens?_cons (fun _ => rfl)
      (h.tokens? (endsLiteral_cons (by decide) rest) (tokens?_cons (fun _ => rfl) hafter))
  | @Written.object members trees h, _, hafter => by
    have htext : (Value.object members).chars ++ rest =
        '\x7b' :: (memberChars members ++ '\x7d' :: rest) := by simp [Value.chars]
    have htokens : (Tree.object trees).tokens ++ after =
        .leftBrace :: (Tree.memberTokens trees ++ .rightBrace :: after) := by simp [Tree.tokens]
    rw [htext, htokens]
    exact tokens?_cons (fun _ => rfl)
      (h.tokens? (endsLiteral_cons (by decide) rest) (tokens?_cons (fun _ => rfl) hafter))

theorem WrittenItems.tokens? {items : List Value} {trees : List Tree} {rest : List Char}
    {after : List Token} : WrittenItems items trees → EndsLiteral rest →
      Json.tokens? rest = some after →
      Json.tokens? (itemChars items ++ rest) = some (Tree.itemTokens trees ++ after)
  | .nil, _, hafter => hafter
  | .cons h .nil, hrest, hafter => h.tokens? hrest hafter
  | .cons h (.cons h' hmore), hrest, hafter => by
    have hitems := (WrittenItems.cons h' hmore).tokens? hrest hafter
    rw [itemChars, Tree.itemTokens, List.append_assoc, List.append_assoc]
    · exact h.tokens? (endsLiteral_cons (by decide) _) (tokens?_cons (fun _ => rfl) hitems)
    all_goals exact nofun

theorem WrittenMembers.tokens? {members : List (String × Value)}
    {trees : List (Option String × Tree)} {rest : List Char} {after : List Token} :
    WrittenMembers members trees → EndsLiteral rest → Json.tokens? rest = some after →
      Json.tokens? (memberChars members ++ rest) = some (Tree.memberTokens trees ++ after)
  | .nil, _, hafter => hafter
  | .cons k h .nil, hrest, hafter => by
    rw [memberChars, Tree.memberTokens, List.append_assoc]
    exact tokens?_of_token? (token?_quoted k _)
      (tokens?_cons (fun _ => rfl) (h.tokens? hrest hafter))
  | .cons k h (.cons k' h' hmore), hrest, hafter => by
    have hmembers := (WrittenMembers.cons k' h' hmore).tokens? hrest hafter
    have hvalue := h.tokens? (endsLiteral_cons (c := ',') (by decide) _)
      (tokens?_cons (fun _ => rfl) hmembers)
    have htext := tokens?_of_token? (token?_quoted k _)
      (tokens?_cons (c := ':') (fun _ => rfl) hvalue)
    rw [memberChars, Tree.memberTokens]
    · simpa using htext
    all_goals exact nofun

end

end ModelProbe.Json

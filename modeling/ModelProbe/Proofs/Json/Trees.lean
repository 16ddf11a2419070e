import ModelProbe.Proofs.Json.Tokens

/-! The tree of written text.

The machine over the tokens puts the containers that are open on a stack and takes each off with
what it holds, so the tokens of a tree are read as that tree whatever is open around it
(`advance_tokens`). With the tokens of written text, the text of a value without doubles is read as
its tree (`Written.parse?_text`). -/
namespace ModelProbe.Json

theorem advance_string (s : Option String) (rest : List Token) (containers : List Frame) :
    advance (.string s :: rest) .value containers =
      advance rest (.after (.string s)) containers := by
  -- A string may be a key, which the machine tells by the token after it.
  cases rest with
  | nil => rfl
  | cons next rest => cases next <;> rfl

/-- Where an array may end, what does not end it is read as a value. -/
theorem advance_valueOrEnd {first : Token} (h : first ≠ .rightBracket) (rest : List Token)
    (containers : List Frame) :
    advance (first :: rest) .valueOrEnd containers =
      advance (first :: rest) .value containers := by
  cases first with
  | rightBracket => exact absurd rfl h
  | string s =>
    cases rest with
    | nil => rfl
    | cons next rest => cases next <;> rfl
  | _ => rfl

/-- An array that does not end at once goes on with a value. -/
theorem advance_itemTokens_valueOrEnd (t : Tree) (items : List Tree) (rest : List Token)
    (containers : List Frame) :
    advance (Tree.itemTokens (t :: items) ++ rest) .valueOrEnd containers =
      advance (Tree.itemTokens (t :: items) ++ rest) .value containers := by
  obtain ⟨first, more, htokens, hfirst⟩ : ∃ first more,
      Tree.itemTokens (t :: items) = first :: more ∧ first ≠ .rightBracket := by
    cases items <;> cases t <;> exact ⟨_, _, rfl, nofun⟩
  rw [htokens, List.cons_append, advance_valueOrEnd hfirst]

/-- An object that does not end at once goes on with a key. -/
theorem advance_memberTokens_keyOrEnd (m : Option String × Tree)
    (members : List (Option String × Tree)) (rest : List Token) (containers : List Frame) :
    advance (Tree.memberTokens (m :: members) ++ rest) .keyOrEnd containers =
      advance (Tree.memberTokens (m :: members) ++ rest) (.key []) containers := by
  cases members <;> rfl

mutual

/-- **The tokens of a tree are read as that tree**, whatever is open around it. -/
theorem advance_tokens (rest : List Token) (containers : List Frame) : (t : Tree) →
    advance (t.tokens ++ rest) .value containers = advance rest (.after t) containers
  | .null | .bool _ | .number _ => rfl
  | .string s => advance_string s rest containers
  | .array [] | .object [] => rfl
  | .array (t :: items) => by
    have hopen : advance ((Tree.array (t :: items)).tokens ++ rest) .value containers =
        advance (Tree.itemTokens (t :: items) ++ .rightBracket :: rest) .valueOrEnd
          (.array [] :: containers) := by
      rw [Tree.tokens, List.cons_append, List.append_assoc]
      rfl
    rw [hopen, advance_itemTokens_valueOrEnd,
      advance_itemTokens rest [] containers (t :: items) (List.cons_ne_nil _ _)]
    rfl
  | .object (m :: members) => by
    have hopen : advance ((Tree.object (m :: members)).tokens ++ rest) .value containers =
        advance (Tree.memberTokens (m :: members) ++ .rightBrace :: rest) .keyOrEnd
          containers := by
      rw [Tree.tokens, List.cons_append, List.append_assoc]
      rfl
    rw [hopen, advance_memberTokens_keyOrEnd,
      advance_memberTokens rest [] containers (m :: members) (List.cons_ne_nil _ _)]
    rfl

/-- The items that are done stand in the container, latest first. -/
theorem advance_itemTokens (rest : List Token) (done : List Tree) (containers : List Frame) :
    (items : List Tree) → items ≠ [] →
      advance (Tree.itemTokens items ++ .rightBracket :: rest) .value
          (.array done :: containers) =
        advance rest (.after (.array (done.reverse ++ items))) containers
  | [], h => absurd rfl h
  | [t], _ => by
    rw [Tree.itemTokens, advance_tokens]
    show advance rest (.after (.array (t :: done).reverse)) containers = _
    rw [List.reverse_cons]
  | t :: t' :: items, _ => by
    rw [Tree.itemTokens, List.append_assoc, advance_tokens]
    · show advance (Tree.itemTokens (t' :: items) ++ .rightBracket :: rest) .value
        (.array (t :: done) :: containers) = _
      rw [advance_itemTokens rest _ _ (t' :: items) (List.cons_ne_nil _ _), List.reverse_cons,
        List.append_assoc, List.singleton_append]
    · exact nofun

theorem advance_memberTokens (rest : List Token) (done : List (Option String × Tree))
    (containers : List Frame) : (members : List (Option String × Tree)) → members ≠ [] →
      advance (Tree.memberTokens members ++ .rightBrace :: rest) (.key done) containers =
        advance rest (.after (.object (done.reverse ++ members))) containers
  | [], h => absurd rfl h
  | [(k, t)], _ => by
    show advance (t.tokens ++ .rightBrace :: rest) .value (.object done k :: containers) = _
    rw [advance_tokens]
    show advance rest (.after (.object ((k, t) :: done).reverse)) containers = _
    rw [List.reverse_cons]
  | (k, t) :: m :: members, _ => by
    rw [Tree.memberTokens]
    · show advance (t.tokens ++ .comma :: Tree.memberTokens (m :: members) ++ .rightBrace :: rest)
        .value (.object done k :: containers) = _
      rw [List.append_assoc, advance_tokens]
      show advance (Tree.memberTokens (m :: members) ++ .rightBrace :: rest)
        (.key ((k, t) :: done)) containers = _
      rw [advance_memberTokens rest _ _ (m :: members) (List.cons_ne_nil _ _), List.reverse_cons,
        List.append_assoc, List.singleton_append]
    · exact nofun

end

/-- **The text of a value is read as its tree.** -/
theorem Written.parse?_text {v : Value} {t : Tree} (h : Written v t) :
    Tree.parse? v.text = some t := by
  have hend : EndsLiteral [] := fun _ hc => by cases hc
  have hscan : Json.tokens? (v.chars ++ []) = some (t.tokens ++ []) :=
    h.tokens? hend (by rw [Json.tokens?])
  have hread : Tree.ofTokens? (t.tokens ++ []) = some t := advance_tokens [] [] t
  simp only [List.append_nil] at hscan hread
  rw [Tree.parse?, Value.text, String.toList_ofList, hscan, Option.bind_some, hread]

end ModelProbe.Json

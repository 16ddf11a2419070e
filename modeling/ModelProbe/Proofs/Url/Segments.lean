import Mathlib.Data.List.TakeWhile
import ModelProbe.Url.Basic

/-! Segments of paths.

A plain text stands in a path as one segment: it is escaped as a whole, and the escapes tell the
text (`percentEncode_injective`). Behind a front without a query or a fragment, plain texts are the
last segments of what is read, whatever host and path the front itself holds
(`segments_of_ofText?`). -/
namespace ModelProbe

namespace Text

variable {α : Type} {isMark : α → Bool}

theorem pieces_ne_nil (cs : List α) : pieces isMark cs ≠ [] := by
  cases cs with
  | nil => exact List.cons_ne_nil _ _
  | cons c rest =>
    rw [pieces]
    split
    · exact List.cons_ne_nil _ _
    · split <;> exact List.cons_ne_nil _ _

/-- Without a mark there is one piece. -/
theorem pieces_of_unmarked {cs : List α} (h : ∀ c ∈ cs, isMark c = false) :
    pieces isMark cs = [cs] := by
  induction cs with
  | nil => rfl
  | cons c rest ih =>
    rw [List.forall_mem_cons] at h
    rw [pieces, h.1, ih h.2]
    rfl

/-- At a mark the pieces fall apart into those before and those after it. -/
theorem pieces_append_mark {mark : α} (hmark : isMark mark = true) (front rest : List α) :
    pieces isMark (front ++ mark :: rest) = pieces isMark front ++ pieces isMark rest := by
  induction front with
  | nil =>
    rw [List.nil_append, pieces.eq_def isMark (mark :: rest)]
    exact if_pos hmark
  | cons c front ih =>
    rw [List.cons_append, pieces, ih, pieces]
    split
    · rfl
    · cases hpieces : pieces isMark front with
      | nil => exact absurd hpieces (pieces_ne_nil front)
      | cons piece more => rfl

/-- Pieces put behind a front, each with a mark before it, are found again. -/
theorem pieces_append_flatMap {mark : α} (hmark : isMark mark = true) (front : List α)
    {ps : List (List α)} (h : ∀ p ∈ ps, ∀ c ∈ p, isMark c = false) :
    pieces isMark (front ++ ps.flatMap (mark :: ·)) = pieces isMark front ++ ps := by
  induction ps generalizing front with
  | nil => rw [List.flatMap_nil, List.append_nil, List.append_nil]
  | cons p ps ih =>
    rw [List.forall_mem_cons] at h
    rw [List.flatMap_cons, List.cons_append, pieces_append_mark hmark, ih p h.2,
      pieces_of_unmarked h.1]
    rfl

end Text

namespace Url

/-! ### Escapes -/

variable {escaped : Char → Bool} {cs cs' : List Char}

theorem hexValue?_digit : ∀ n < 16, Text.hexValue? (Nat.digitChar n).toUpper = some n := by
  decide

theorem percentDecode_percentByte (b : UInt8) (rest : List Char) :
    percentDecode (percentByte b ++ rest) = b :: percentDecode rest := by
  have hb : b.toNat < 256 := b.toNat_lt
  have hhigh := hexValue?_digit (b.toNat / 16) (by omega)
  have hlow := hexValue?_digit (b.toNat % 16) (by omega)
  have hbyte : UInt8.ofNat (16 * (b.toNat / 16) + b.toNat % 16) = b := by
    rw [Nat.div_add_mod, UInt8.ofNat_toNat]
  rw [percentByte, List.cons_append, List.cons_append, List.cons_append, List.nil_append,
    percentDecode, hhigh, hlow]
  simp only [hbyte]

theorem percentDecode_flatMap_percentByte (bs : List UInt8) (rest : List Char) :
    percentDecode (bs.flatMap percentByte ++ rest) = bs ++ percentDecode rest := by
  induction bs with
  | nil => rfl
  | cons b bs ih =>
    rw [List.flatMap_cons, List.append_assoc, percentDecode_percentByte, ih, List.cons_append]

theorem percentDecode_cons {c : Char} (hc : c ≠ '%') (rest : List Char) :
    percentDecode (c :: rest) = String.utf8EncodeChar c ++ percentDecode rest := by
  rw [percentDecode]
  rintro a b more hcons -
  exact hc hcons

/-- The escapes of a text without percent signs resolve to its bytes. -/
theorem percentDecode_percentEncode (h : '%' ∉ cs) :
    percentDecode (percentEncode escaped cs) = cs.flatMap String.utf8EncodeChar := by
  induction cs with
  | nil => rfl
  | cons c cs ih =>
    rw [List.mem_cons, not_or] at h
    rw [percentEncode, List.flatMap_cons, ← percentEncode, List.flatMap_cons, ← ih h.2]
    split
    · exact percentDecode_flatMap_percentByte _ _
    · exact percentDecode_cons (Ne.symm h.1) _

theorem unescaped?_percentEncode (h : '%' ∉ cs) :
    unescaped? (percentEncode escaped cs) = some (String.ofList cs) := by
  have hbytes : (⟨(cs.flatMap String.utf8EncodeChar).toArray⟩ : ByteArray) = cs.utf8Encode :=
    ByteArray.ext List.data_toByteArray.symm
  rw [unescaped?, percentDecode_percentEncode h, hbytes, String.fromUTF8?,
    dif_pos ByteArray.isValidUTF8_utf8Encode]
  rfl

/-- **Escapes tell the text**, if it has no percent signs of its own. -/
theorem percentEncode_injective (h : '%' ∉ cs) (h' : '%' ∉ cs')
    (heq : percentEncode escaped cs = percentEncode escaped cs') : cs = cs' := by
  have htext : unescaped? (percentEncode escaped cs) = some (String.ofList cs) :=
    unescaped?_percentEncode h
  rw [heq, unescaped?_percentEncode h', Option.some.injEq] at htext
  exact String.ofList_injective htext.symm

/-! ### Plain segments -/

/-- A path goes on up to a query or a fragment. -/
def isInPath (c : Char) : Bool :=
  c != '?' && c != '#'

/-- A text that stands in a path as one segment: nothing in it falls away, ends the segment or the
path or may be an escape, and it is no dots. -/
structure Plain (cs : List Char) : Prop where
  kept : ∀ c ∈ cs, isDropped c = false
  unmarked : ∀ c ∈ cs, isSlash c = false
  inPath : ∀ c ∈ cs, isInPath c = true
  unescaped : '%' ∉ cs
  notDots : cs ≠ ['.'] ∧ cs ≠ ['.', '.']

instance (cs : List Char) : Decidable (Plain cs) :=
  decidable_of_iff ((cs.all fun c => !isDropped c && !isSlash c && isInPath c) = true ∧
      '%' ∉ cs ∧ cs ≠ ['.'] ∧ cs ≠ ['.', '.'])
    ⟨fun ⟨hall, hpercent, hdots⟩ => by
      simp only [List.all_eq_true, Bool.and_eq_true, Bool.not_eq_true'] at hall
      exact ⟨fun c hc => (hall c hc).1.1, fun c hc => (hall c hc).1.2,
        fun c hc => (hall c hc).2, hpercent, hdots⟩,
    fun h => by
      refine ⟨List.all_eq_true.2 fun c hc => ?_, h.unescaped, h.notDots⟩
      rw [h.kept c hc, h.unmarked c hc, h.inPath c hc]
      rfl⟩

/-- Without percent signs dots are just dots. -/
theorem eq_replicate_of_dots {n : Nat} (h : '%' ∉ cs) (hdots : dots cs = some n) :
    cs = List.replicate n '.' := by
  induction cs generalizing n with
  | nil =>
    cases hdots
    rfl
  | cons c cs ih =>
    rw [List.mem_cons, not_or] at h
    rw [dots.eq_def] at hdots
    split at hdots
    · rename_i heq
      cases heq
    · rename_i rest heq
      cases heq
      obtain ⟨k, hk, rfl⟩ := Option.map_eq_some_iff.1 hdots
      rw [ih h.2 hk, List.replicate_succ]
    · rename_i e rest heq
      cases heq
      exact absurd rfl h.1
    · cases hdots

theorem addPiece_plain (h : Plain cs) (segments : List (List Char)) (atEnd : Bool) :
    addPiece segments cs atEnd = segments ++ [percentEncode escapedInPath cs] := by
  rw [addPiece]
  split
  · rename_i hdots
    exact absurd (eq_replicate_of_dots h.unescaped hdots) h.notDots.1
  · rename_i hdots
    exact absurd (eq_replicate_of_dots h.unescaped hdots) h.notDots.2
  · rfl

/-- Plain pieces stay as they are, behind whatever the pieces before them come to. -/
theorem resolve_append_plain (front : List (List Char)) {ps : List (List Char)} (hne : ps ≠ [])
    (h : ∀ p ∈ ps, Plain p) (segments : List (List Char)) :
    resolve segments (front ++ ps) =
      front.foldl (addPiece · · false) segments ++ ps.map (percentEncode escapedInPath) := by
  induction front generalizing segments with
  | nil =>
    rw [List.nil_append, List.foldl_nil]
    induction ps generalizing segments with
    | nil => exact absurd rfl hne
    | cons p ps ih =>
      rw [List.forall_mem_cons] at h
      cases ps with
      | nil => rw [resolve, addPiece_plain h.1, List.map_singleton]
      | cons q ps =>
        rw [resolve, ih (List.cons_ne_nil _ _) h.2, addPiece_plain h.1, List.append_assoc]
        · rfl
        · exact fun heq => by cases heq
  | cons piece front ih =>
    rw [List.cons_append, resolve, ih, List.foldl_cons]
    exact fun heq => hne (List.append_eq_nil_iff.1 heq).2

/-! ### Reading a path -/

/-- What stands before the query and the fragment, behind the authority. -/
def pathOf (text : String) : List Char :=
  let cs :=
    ((text.toList.filter (!isDropped ·)).drop (Endpoint.scheme.length + 1)).dropWhile isSlash
  (cs.drop (cs.takeWhile (!endsAuthority ·)).length).takeWhile isInPath

theorem segments_eq_segmentsOf {text : String} {u : Url} (h : ofText? text = some u) :
    u.segments = segmentsOf (pathOf text) := by
  simp only [ofText?, Option.bind_eq_bind, Option.bind_eq_some_iff] at h
  obtain ⟨host, -, port, -, h⟩ := h
  cases h
  rfl

/-- The pieces of a path, each with a slash before it. -/
def pathText (ps : List (List Char)) : List Char :=
  ps.flatMap ('/' :: ·)

variable {ps : List (List Char)}

theorem forall_mem_pathText {P : Char → Prop} (hslash : P '/') (h : ∀ p ∈ ps, ∀ c ∈ p, P c) :
    ∀ c ∈ pathText ps, P c := by
  intro c hc
  obtain ⟨p, hp, hc⟩ := List.mem_flatMap.1 hc
  obtain rfl | hc := List.mem_cons.1 hc
  · exact hslash
  · exact h p hp c hc

/-- Nothing of plain pieces falls away. -/
theorem filter_pathText (h : ∀ p ∈ ps, Plain p) :
    (pathText ps).filter (!isDropped ·) = pathText ps := by
  refine List.filter_eq_self.2 (forall_mem_pathText rfl fun p hp c hc => ?_)
  rw [(h p hp).kept c hc]
  rfl

theorem dropWhile_append_pathText {p : Char → Bool} (hslash : p '/' = false) (front : List Char) :
    (front ++ pathText ps).dropWhile p = front.dropWhile p ++ pathText ps := by
  rw [List.dropWhile_append]
  split
  · rename_i hnone
    rw [List.isEmpty_iff.1 hnone, List.nil_append]
    cases ps with
    | nil => rfl
    | cons q ps => exact List.dropWhile_cons_of_neg (by rw [hslash]; exact Bool.false_ne_true)
  · rfl

theorem drop_length_takeWhile (p : Char → Bool) (cs : List Char) :
    cs.drop (cs.takeWhile p).length = cs.dropWhile p := by
  have hcut : cs.takeWhile p ++ cs.drop (cs.takeWhile p).length = cs :=
    List.prefix_iff_eq_append.1 (List.takeWhile_prefix p)
  have hsplit : cs.takeWhile p ++ cs.dropWhile p = cs := List.takeWhile_append_dropWhile
  exact List.append_cancel_left (hcut.trans hsplit.symm)

theorem pathOf_eq (text : String) : pathOf text =
    ((((text.toList.filter (!isDropped ·)).drop (Endpoint.scheme.length + 1)).dropWhile
      isSlash).dropWhile (!endsAuthority ·)).takeWhile isInPath := by
  rw [pathOf, drop_length_takeWhile]

/-- Plain pieces are read in full, behind whatever is left of the front without its host. -/
theorem pathOf_append_pathText {front : List Char} (h : ∀ c ∈ front, isInPath c = true) :
    ∃ back, ∀ ps, (∀ p ∈ ps, Plain p) → ∀ text : String,
      text.toList = "http:".toList ++ (front ++ "/v2".toList ++ pathText ps) →
      pathOf text = back ++ pathText ps := by
  -- The front without the slashes in front of the host; the version of the protocol stops them.
  let rest := (front.filter (!isDropped ·) ++ "/v2".toList).dropWhile isSlash
  refine ⟨rest.dropWhile (!endsAuthority ·), fun ps hps text htext => ?_⟩
  have hbehind : (text.toList.filter (!isDropped ·)).drop (Endpoint.scheme.length + 1) =
      front.filter (!isDropped ·) ++ "/v2".toList ++ pathText ps := by
    rw [htext, List.filter_append, List.filter_append, List.filter_append,
      filter_pathText hps]
    rfl
  have hversion : ∀ c ∈ "/v2".toList, isInPath c = true :=
    List.all_eq_true.1 (by decide)
  have hstop :
      ((front.filter (!isDropped ·) ++ "/v2".toList).dropWhile isSlash).isEmpty = false := by
    rw [List.isEmpty_eq_false_iff, Ne, List.dropWhile_eq_nil_iff]
    intro hslashes
    exact absurd (hslashes 'v' (List.mem_append_right _ (by decide))) (by decide)
  rw [pathOf_eq, hbehind, List.dropWhile_append, hstop, if_neg Bool.false_ne_true,
    dropWhile_append_pathText rfl]
  refine List.takeWhile_eq_self_iff.2 fun c hc => ?_
  obtain hc | hc := List.mem_append.1 hc
  · have hc := List.dropWhile_subset _ (List.dropWhile_subset _ hc)
    obtain hc | hc := List.mem_append.1 hc
    · exact h c (List.mem_filter.1 hc).1
    · exact hversion c hc
  · exact forall_mem_pathText (P := fun c => isInPath c = true) rfl
      (fun p hp => (hps p hp).inPath) c hc

theorem segmentsOf_append_pathText (back : List Char) :
    ∃ segments, ∀ ps ≠ [], (∀ p ∈ ps, Plain p) →
      segmentsOf (back ++ pathText ps) = segments ++ ps.map (percentEncode escapedInPath) := by
  cases back with
  | nil =>
    refine ⟨[], fun ps hne hps => ?_⟩
    cases ps with
    | nil => exact absurd rfl hne
    | cons p ps =>
      have hdrop : (pathText (p :: ps)).drop 1 = p ++ pathText ps := rfl
      have hps' := List.forall_mem_cons.1 hps
      rw [List.nil_append, segmentsOf, hdrop, pathText,
        Text.pieces_append_flatMap rfl _ fun q hq => (hps'.2 q hq).unmarked,
        Text.pieces_of_unmarked hps'.1.unmarked]
      exact resolve_append_plain [] hne hps []
  | cons c back =>
    refine ⟨(Text.pieces isSlash back).foldl (addPiece · · false) [], fun ps hne hps => ?_⟩
    rw [segmentsOf, List.cons_append, List.drop_one, List.tail_cons, pathText,
      Text.pieces_append_flatMap rfl _ fun p hp => (hps p hp).unmarked,
      resolve_append_plain _ hne hps]

/-- **Plain texts at the end of a URL are its last segments**, and whatever stands before them
without a query or a fragment has the same segments each time. -/
theorem segments_of_ofText? {front : List Char} (h : ∀ c ∈ front, isInPath c = true) :
    ∃ segments, ∀ ps ≠ [], (∀ p ∈ ps, Plain p) → ∀ (text : String) (u : Url),
      text.toList = "http:".toList ++ (front ++ "/v2".toList ++ pathText ps) →
      ofText? text = some u → u.segments = segments ++ ps.map (percentEncode escapedInPath) := by
  obtain ⟨back, hback⟩ := pathOf_append_pathText h
  obtain ⟨segments, hsegments⟩ := segmentsOf_append_pathText back
  refine ⟨segments, fun ps hne hps text u htext hu => ?_⟩
  rw [segments_eq_segmentsOf hu, hback ps hps text htext, hsegments ps hne hps]

end Url
end ModelProbe

import Mathlib.Data.List.Forall2

/-! Traversals that may fail.

A traversal succeeds exactly when every step does, and its results stand beside the elements
they come from (`mapM_eq_ok_iff`). It fails exactly when some step fails, and then with the error of
the first that does (`mapM_eq_error_iff`). -/
namespace ModelProbe

variable {α β ε : Type}

/-- A step and what follows it succeed exactly when both do. -/
theorem bind_eq_ok_iff {x : Except ε α} {f : α → Except ε β} {b : β} :
    (x >>= f) = .ok b ↔ ∃ a, x = .ok a ∧ f a = .ok b := by
  cases x with
  | error e => exact ⟨nofun, fun ⟨_, h, _⟩ => nomatch h⟩
  | ok a => exact ⟨fun h => ⟨a, rfl, h⟩, fun ⟨_, ha, h⟩ => by cases ha; exact h⟩

/-- A step and what follows it fail exactly when one of them does. -/
theorem bind_eq_error_iff {x : Except ε α} {f : α → Except ε β} {e : ε} :
    (x >>= f) = .error e ↔ x = .error e ∨ ∃ a, x = .ok a ∧ f a = .error e := by
  cases x with
  | error e' => simp [bind, Except.bind]
  | ok a => simp [bind, Except.bind]

/-- A step that succeeds goes on with its result. -/
theorem bind_of_ok {x : Except ε α} {a : α} (hx : x = .ok a) (f : α → Except ε β) :
    (x >>= f) = f a := by
  rw [hx]
  rfl

/-- A step that fails is the end. -/
theorem bind_of_error {x : Except ε α} {e : ε} (hx : x = .error e) (f : α → Except ε β) :
    (x >>= f) = .error e := by
  rw [hx]
  rfl

/-- What follows a step that succeeded. -/
theorem of_ok_bind {x : Except ε α} {f : α → Except ε β} {a : α} {b : β} (hx : x = .ok a)
    (h : (x >>= f) = .ok b) : f a = .ok b := by
  rwa [bind_of_ok hx] at h

/-- A result that is mapped. -/
theorem map_eq_ok_iff {x : Except ε α} {f : α → β} {b : β} :
    f <$> x = .ok b ↔ ∃ a, x = .ok a ∧ b = f a := by
  cases x with
  | error e => simp [Functor.map, Except.map]
  | ok a => simp [Functor.map, Except.map, eq_comm]

theorem map_eq_error_iff {x : Except ε α} {f : α → β} {e : ε} :
    f <$> x = .error e ↔ x = .error e := by
  cases x <;> simp [Functor.map, Except.map]

theorem mapM_eq_ok_iff {f : α → Except ε β} {xs : List α} {ys : List β} :
    xs.mapM f = .ok ys ↔ List.Forall₂ (fun x y => f x = .ok y) xs ys := by
  induction xs generalizing ys with
  | nil => cases ys <;> simp [pure, Except.pure]
  | cons x xs ih =>
    rw [List.mapM_cons]
    constructor
    · intro h
      cases hx : f x with
      | error e => rw [hx] at h; cases h
      | ok y =>
        cases hxs : xs.mapM f with
        | error e => rw [hx, hxs] at h; cases h
        | ok rest =>
          rw [hx, hxs] at h
          cases h
          exact .cons hx (ih.1 hxs)
    · intro h
      cases h with
      | cons hx hxs =>
        rw [hx, ih.2 hxs]
        rfl

/-- What follows a check that succeeded. -/
theorem of_check_eq_ok {c : Prop} [Decidable c] {e : ε} {x : Except ε α} {a : α}
    (h : (if c then .error e else x) = .ok a) : ¬c ∧ x = .ok a := by
  split at h
  · cases h
  · exact ⟨‹¬c›, h⟩

/-- A step without a result, and what follows it. -/
theorem seq_eq_ok_iff {x : Except ε Unit} {f : Unit → Except ε β} {b : β} :
    (x >>= f) = .ok b ↔ x = .ok () ∧ f () = .ok b := by
  rw [bind_eq_ok_iff]
  exact ⟨fun ⟨(), h⟩ => h, fun h => ⟨(), h⟩⟩

theorem seq_eq_error_iff {x : Except ε Unit} {f : Unit → Except ε β} {e : ε} :
    (x >>= f) = .error e ↔ x = .error e ∨ x = .ok () ∧ f () = .error e := by
  rw [bind_eq_error_iff]
  exact or_congr_right ⟨fun ⟨(), h⟩ => h, fun h => ⟨(), h⟩⟩

/-- A check, and what follows it. -/
theorem unless_eq_ok_iff {c : Prop} [Decidable c] {e : ε} {f : α → Except ε β} {x : Except ε β}
    {b : β} : (if c then throw e >>= f else x) = .ok b ↔ ¬c ∧ x = .ok b := by
  by_cases h : c
  · simp [h, throw, throwThe, MonadExceptOf.throw, bind, Except.bind]
  · simp [h]

/-- A check that comes last. -/
theorem check_eq_ok_iff {c : Prop} [Decidable c] {e : ε} :
    (if c then throw e else pure () : Except ε Unit) = .ok () ↔ ¬c := by
  by_cases h : c
  · simp [h, throw, throwThe, MonadExceptOf.throw]
  · simp [h, pure, Except.pure]

/-- What every step of a fold keeps, the whole fold keeps. -/
theorem foldlM_preserves {f : β → α → Except ε β} {P : β → Prop}
    (hstep : ∀ b x b', P b → f b x = .ok b' → P b') {xs : List α} {b b' : β} (hb : P b)
    (h : xs.foldlM f b = .ok b') : P b' := by
  induction xs generalizing b with
  | nil =>
    cases h
    exact hb
  | cons x xs ih =>
    rw [List.foldlM_cons] at h
    obtain ⟨c, hc, h⟩ := bind_eq_ok_iff.1 h
    exact ih (hstep b x c hb hc) h

/-- A fold over a list in two parts. -/
theorem foldlM_append_eq_ok_iff {f : β → α → Except ε β} {xs ys : List α} {b c : β} :
    (xs ++ ys).foldlM f b = .ok c ↔ ∃ d, xs.foldlM f b = .ok d ∧ ys.foldlM f d = .ok c := by
  rw [List.foldlM_append]
  exact bind_eq_ok_iff

/-- The step of a fold that comes after a part of it, and the rest. -/
theorem step_of_foldlM {f : β → α → Except ε β} {x : α} {xs ys : List α} {b c d : β}
    (hxs : xs.foldlM f b = .ok d) (h : (xs ++ x :: ys).foldlM f b = .ok c) :
    ∃ d', f d x = .ok d' ∧ ys.foldlM f d' = .ok c := by
  rw [List.foldlM_append] at h
  have h := of_ok_bind hxs h
  rw [List.foldlM_cons] at h
  exact bind_eq_ok_iff.1 h

/-- A traversal all of whose steps succeed. -/
theorem mapM_eq_ok_map {f : α → Except ε β} {g : α → β} {xs : List α}
    (h : ∀ x ∈ xs, f x = .ok (g x)) : xs.mapM f = .ok (xs.map g) := by
  rw [mapM_eq_ok_iff, List.forall₂_map_right_iff]
  exact List.forall₂_same.2 h

/-- A traversal whose results are mapped. -/
theorem mapM_map {γ : Type} (f : α → Except ε β) (g : β → γ) (xs : List α) :
    (xs.mapM fun x => (f x).map g) = (xs.mapM f).map (List.map g) := by
  induction xs with
  | nil => rfl
  | cons x xs ih =>
    rw [List.mapM_cons, List.mapM_cons, ih]
    cases f x with
    | error e => rfl
    | ok y => cases xs.mapM f <;> rfl

/-- A traversal whose steps give results that stand in a relation to their elements. -/
theorem exists_mapM_eq_ok {f : α → Except ε β} {R : β → α → Prop} {xs : List α}
    (h : ∀ x ∈ xs, ∃ y, f x = .ok y ∧ R y x) : ∃ ys, xs.mapM f = .ok ys ∧ List.Forall₂ R ys xs := by
  induction xs with
  | nil => exact ⟨[], rfl, .nil⟩
  | cons x xs ih =>
    obtain ⟨y, hy, hR⟩ := h x (List.mem_cons_self ..)
    obtain ⟨ys, hys, hRs⟩ := ih fun x' hx' => h x' (List.mem_cons_of_mem x hx')
    exact ⟨y :: ys, mapM_eq_ok_iff.2 (.cons hy (mapM_eq_ok_iff.1 hys)), .cons hR hRs⟩

/-- Two traversals whose steps agree. -/
theorem mapM_eq_mapM {γ : Type} {f : α → Except ε γ} {g : β → Except ε γ} {xs : List α}
    {ys : List β} (h : List.Forall₂ (fun x y => f x = g y) xs ys) : xs.mapM f = ys.mapM g := by
  induction h with
  | nil => rfl
  | cons hxy _ ih => rw [List.mapM_cons, List.mapM_cons, hxy, ih]

/-- Two traversals whose steps agree, the first of elements with their positions. -/
theorem mapM_zipIdx_eq_mapM {γ : Type} {f : α × Nat → Except ε γ} {g : β → Except ε γ}
    {xs : List α} {ys : List β} (h : List.Forall₂ (fun x y => ∀ i, f (x, i) = g y) xs ys)
    (k : Nat) : (xs.zipIdx k).mapM f = ys.mapM g := by
  induction h generalizing k with
  | nil => rfl
  | cons hxy _ ih => rw [List.zipIdx_cons, List.mapM_cons, List.mapM_cons, hxy, ih]

/-- Two traversals of elements with their positions whose steps agree at every position. -/
theorem mapM_zipIdx_congr {γ : Type} {f : α × Nat → Except ε γ} {g : β × Nat → Except ε γ}
    {xs : List α} {ys : List β} (hlength : xs.length = ys.length)
    (h : ∀ i x y, xs[i]? = some x → ys[i]? = some y → f (x, i) = g (y, i)) :
    xs.zipIdx.mapM f = ys.zipIdx.mapM g := by
  refine mapM_eq_mapM (List.forall₂_iff_get.2 ⟨?_, fun i hi hi' => ?_⟩)
  · rw [List.length_zipIdx, List.length_zipIdx, hlength]
  · rw [List.length_zipIdx] at hi hi'
    simp only [List.get_eq_getElem, List.getElem_zipIdx, Nat.zero_add]
    exact h i _ _ (List.getElem?_eq_getElem hi) (List.getElem?_eq_getElem hi')

/-- A relation between elements with their positions and others, position by position. -/
theorem forall₂_zipIdx_iff {R : α × Nat → β → Prop} {xs : List α} {ys : List β} :
    List.Forall₂ R xs.zipIdx ys ↔
      ys.length = xs.length ∧ ∀ i x y, xs[i]? = some x → ys[i]? = some y → R (x, i) y := by
  constructor
  · intro h
    obtain ⟨hlength, hstep⟩ := List.forall₂_iff_get.1 h
    rw [List.length_zipIdx] at hlength
    refine ⟨hlength.symm, fun i x y hx hy => ?_⟩
    obtain ⟨hi, rfl⟩ := List.getElem?_eq_some_iff.1 hx
    obtain ⟨hi', rfl⟩ := List.getElem?_eq_some_iff.1 hy
    have hi := hstep i (by rwa [List.length_zipIdx]) hi'
    simpa only [List.get_eq_getElem, List.getElem_zipIdx, Nat.zero_add] using hi
  · intro h
    obtain ⟨hlength, hstep⟩ := h
    refine List.forall₂_iff_get.2 ⟨by rw [List.length_zipIdx, hlength], fun i hi hi' => ?_⟩
    rw [List.length_zipIdx] at hi
    simp only [List.get_eq_getElem, List.getElem_zipIdx, Nat.zero_add]
    exact hstep i _ _ (List.getElem?_eq_getElem hi) (List.getElem?_eq_getElem hi')

/-- The results of a traversal of elements with their positions stand beside the elements. -/
theorem forall₂_of_mapM_zipIdx_eq_ok {f : α × Nat → Except ε β} {R : α → β → Prop} {xs : List α}
    {ys : List β} {k : Nat} (h : (xs.zipIdx k).mapM f = .ok ys)
    (hstep : ∀ x i y, f (x, i) = .ok y → R x y) : List.Forall₂ R xs ys := by
  rw [← List.zipIdx_map_fst k xs, List.forall₂_map_left_iff]
  exact (mapM_eq_ok_iff.1 h).imp fun p y hy => hstep p.1 p.2 y hy

/-- A traversal fails in the first step that does. -/
theorem mapM_eq_error_of_first {f : α → Except ε β} {front back : List α} {x : α} {e : ε}
    (hfront : ∀ y ∈ front, ∃ z, f y = .ok z) (hx : f x = .error e) :
    (front ++ x :: back).mapM f = .error e := by
  induction front with
  | nil =>
    rw [List.nil_append, List.mapM_cons, hx]
    rfl
  | cons y front ih =>
    obtain ⟨⟨z, hz⟩, hrest⟩ := List.forall_mem_cons.1 hfront
    rw [List.cons_append, List.mapM_cons, hz, ih hrest]
    rfl

/-- A traversal fails in the step at a position when those before it succeed. -/
theorem mapM_eq_error_of_getElem? {f : α → Except ε β} {xs : List α} {i : Nat} {x : α} {e : ε}
    (hx : xs[i]? = some x) (hbefore : ∀ j y, j < i → xs[j]? = some y → ∃ z, f y = .ok z)
    (he : f x = .error e) : xs.mapM f = .error e := by
  obtain ⟨hi, hget⟩ := List.getElem?_eq_some_iff.1 hx
  have hsplit : xs = xs.take i ++ x :: xs.drop (i + 1) := by
    rw [← hget, List.getElem_cons_drop, List.take_append_drop]
  rw [hsplit]
  refine mapM_eq_error_of_first (fun y hy => ?_) he
  obtain ⟨j, hj⟩ := List.getElem?_of_mem hy
  have hlt : j < i := by
    have hbound := (List.getElem?_eq_some_iff.1 hj).1
    rw [List.length_take] at hbound
    omega
  rw [List.getElem?_take_of_lt hlt] at hj
  exact hbefore j y hlt hj

/-- What every step of a traversal gives, all its results have. -/
theorem forall_mem_of_mapM_eq_some {f : α → Option β} {P : β → Prop}
    (hstep : ∀ x y, f x = some y → P y) {xs : List α} {ys : List β} (h : xs.mapM f = some ys) :
    ∀ y ∈ ys, P y := by
  induction xs generalizing ys with
  | nil =>
    cases h
    exact fun y hy => nomatch hy
  | cons x xs ih =>
    rw [List.mapM_cons] at h
    obtain ⟨y, hy, h⟩ := Option.bind_eq_some_iff.1 h
    obtain ⟨rest, hrest, h⟩ := Option.bind_eq_some_iff.1 h
    cases h
    exact List.forall_mem_cons.2 ⟨hstep x y hy, ih hrest⟩

/-! ### The first of its kind -/

/-- The first element with a property, at its position. -/
structure FirstAt (P : α → Prop) (xs : List α) (i : Nat) (x : α) : Prop where
  here : xs[i]? = some x
  holds : P x
  before : ∀ j y, j < i → xs[j]? = some y → ¬P y

/-- A property that some element has is one that some element has first. -/
theorem exists_firstAt {P : α → Prop} {xs : List α} (h : ∃ x ∈ xs, P x) :
    ∃ i x, FirstAt P xs i x := by
  induction xs with
  | nil =>
    obtain ⟨x, hx, -⟩ := h
    cases hx
  | cons y xs ih =>
    by_cases hy : P y
    · exact ⟨0, y, rfl, hy, fun j _ hj => absurd hj (Nat.not_lt_zero j)⟩
    · have hrest : ∃ x ∈ xs, P x := by
        obtain ⟨x, hx, hP⟩ := h
        rcases List.mem_cons.1 hx with rfl | hx
        · exact absurd hP hy
        · exact ⟨x, hx, hP⟩
      obtain ⟨i, x, hfirst⟩ := ih hrest
      refine ⟨i + 1, x, hfirst.here, hfirst.holds, fun j z hj hz => ?_⟩
      cases j with
      | zero =>
        cases hz
        exact hy
      | succ j => exact hfirst.before j z (Nat.lt_of_succ_lt_succ hj) hz

theorem FirstAt.mem {P : α → Prop} {xs : List α} {i : Nat} {x : α} (h : FirstAt P xs i x) :
    x ∈ xs :=
  List.mem_of_getElem? h.here

theorem FirstAt.unique {P : α → Prop} {xs : List α} {i j : Nat} {x y : α} (h : FirstAt P xs i x)
    (h' : FirstAt P xs j y) : x = y := by
  rcases Nat.lt_trichotomy i j with hlt | rfl | hlt
  · exact absurd h.holds (h'.before i x hlt h.here)
  · exact Option.some.inj (h.here.symm.trans h'.here)
  · exact absurd h'.holds (h.before j y hlt h'.here)

theorem FirstAt.congr {P Q : α → Prop} {xs : List α} {i : Nat} {x : α} (hPQ : ∀ y ∈ xs, P y ↔ Q y)
    (h : FirstAt P xs i x) : FirstAt Q xs i x :=
  ⟨h.here, (hPQ x h.mem).1 h.holds, fun j y hj hy hQ =>
    h.before j y hj hy ((hPQ y (List.mem_of_getElem? hy)).2 hQ)⟩

theorem firstAt_map_iff {P : β → Prop} {f : α → β} {xs : List α} {i : Nat} {y : β} :
    FirstAt P (xs.map f) i y ↔ ∃ x, f x = y ∧ FirstAt (fun x => P (f x)) xs i x := by
  constructor
  · intro h
    have hhere := h.here
    rw [List.getElem?_map] at hhere
    obtain ⟨x, hx, rfl⟩ := Option.map_eq_some_iff.1 hhere
    refine ⟨x, rfl, hx, h.holds, fun j z hj hz => h.before j (f z) hj ?_⟩
    rw [List.getElem?_map, hz, Option.map_some]
  · rintro ⟨x, rfl, h⟩
    refine ⟨by rw [List.getElem?_map, h.here, Option.map_some], h.holds, fun j y hj hy => ?_⟩
    rw [List.getElem?_map] at hy
    obtain ⟨z, hz, rfl⟩ := Option.map_eq_some_iff.1 hy
    exact h.before j z hj hz

/-- Positions beside the elements do not change which is the first. -/
theorem firstAt_zipIdx_iff {P : α → Prop} {xs : List α} {i : Nat} {p : α × Nat} :
    FirstAt (fun q => P q.1) xs.zipIdx i p ↔ p.2 = i ∧ FirstAt P xs i p.1 := by
  have hget : ∀ (j : Nat) (q : α × Nat), xs.zipIdx[j]? = some q ↔ q.2 = j ∧ xs[j]? = some q.1 := by
    rintro j ⟨x, k⟩
    rw [List.getElem?_zipIdx, Nat.zero_add]
    cases xs[j]? <;> simp [and_comm, eq_comm]
  constructor
  · intro h
    obtain ⟨hi, hx⟩ := (hget i p).1 h.here
    exact ⟨hi, hx, h.holds, fun j y hj hy => h.before j (y, j) hj ((hget j _).2 ⟨rfl, hy⟩)⟩
  · rintro ⟨hi, h⟩
    exact ⟨(hget i p).2 ⟨hi, h.here⟩, h.holds, fun j q hj hq =>
      h.before j q.1 hj ((hget j q).1 hq).2⟩

/-- Among numbers in their order each stands at its own position. -/
theorem firstAt_range_iff {P : Nat → Prop} {n i k : Nat} :
    FirstAt P (List.range n) i k ↔ k = i ∧ i < n ∧ P i ∧ ∀ j < i, ¬P j := by
  constructor
  · intro h
    obtain ⟨hi, hk⟩ := List.getElem?_eq_some_iff.1 h.here
    rw [List.getElem_range] at hk
    subst hk
    rw [List.length_range] at hi
    refine ⟨rfl, hi, h.holds, fun j hj => h.before j j hj ?_⟩
    rw [List.getElem?_range (Nat.lt_trans hj hi)]
  · rintro ⟨rfl, hi, hP, hbefore⟩
    refine ⟨List.getElem?_range hi, hP, fun j y hj hy => ?_⟩
    rw [List.getElem?_range (Nat.lt_trans hj hi), Option.some.injEq] at hy
    exact hy ▸ hbefore j hj

/-- A search finds the first. -/
theorem find?_eq_some_iff_firstAt {p : α → Bool} {xs : List α} {x : α} :
    xs.find? p = some x ↔ ∃ i, FirstAt (fun y => p y = true) xs i x := by
  rw [List.find?_eq_some_iff_getElem]
  constructor
  · rintro ⟨hx, i, hi, hget, hbefore⟩
    refine ⟨i, List.getElem?_eq_some_iff.2 ⟨hi, hget⟩, hx, fun j y hj hy => ?_⟩
    obtain ⟨-, rfl⟩ := List.getElem?_eq_some_iff.1 hy
    simpa using hbefore j hj
  · rintro ⟨i, h⟩
    obtain ⟨hi, hget⟩ := List.getElem?_eq_some_iff.1 h.here
    refine ⟨h.holds, i, hi, hget, fun j hj => ?_⟩
    simpa using h.before j _ hj (List.getElem?_eq_getElem (Nat.lt_trans hj hi))

/-- Elements without the property can be left out before the first is looked for. -/
theorem exists_firstAt_filter_iff {P : α → Prop} {q : α → Bool} {xs : List α} {x : α}
    (hq : ∀ y ∈ xs, P y → q y = true) :
    (∃ i, FirstAt P (xs.filter q) i x) ↔ ∃ i, FirstAt P xs i x := by
  classical
  have hfound : ∀ ys : List α,
      (∃ i, FirstAt P ys i x) ↔ ys.find? (fun y => decide (P y)) = some x := by
    intro ys
    rw [find?_eq_some_iff_firstAt]
    simp only [decide_eq_true_eq]
  have hsame : (xs.filter q).filter (fun y => decide (P y)) = xs.filter fun y => decide (P y) := by
    rw [List.filter_filter]
    refine List.filter_congr fun y hy => ?_
    by_cases hP : P y
    · simp [hP, hq y hy hP]
    · simp [hP]
  rw [hfound, hfound, ← List.head?_filter, ← List.head?_filter, hsame]

/-- **A traversal fails with the error of the first step that fails.** -/
theorem mapM_eq_error_iff {f : α → Except ε β} {xs : List α} {e : ε} :
    xs.mapM f = .error e ↔ ∃ i x, FirstAt (fun y => ∀ z, f y ≠ .ok z) xs i x ∧ f x = .error e := by
  constructor
  · intro h
    have hfails : ∃ x ∈ xs, ∀ z, f x ≠ .ok z := by
      by_contra hall
      push Not at hall
      obtain ⟨ys, hys, -⟩ := exists_mapM_eq_ok (R := fun _ _ => True)
        fun x hx => (hall x hx).imp fun y hy => ⟨hy, trivial⟩
      rw [h] at hys
      cases hys
    obtain ⟨i, x, hfirst⟩ := exists_firstAt hfails
    refine ⟨i, x, hfirst, ?_⟩
    cases hx : f x with
    | ok y => exact absurd hx (hfirst.holds y)
    | error e' =>
      have hsame := mapM_eq_error_of_getElem? hfirst.here (fun j y hj hy => ?_) hx
      · rw [h] at hsame
        cases hsame
        rfl
      · simpa using hfirst.before j y hj hy
  · rintro ⟨i, x, hfirst, hx⟩
    refine mapM_eq_error_of_getElem? hfirst.here (fun j y hj hy => ?_) hx
    simpa using hfirst.before j y hj hy

/-- A traversal whose steps fail at the elements with a property names the first of them. -/
theorem mapM_eq_error_iff_firstAt {f : α → Except ε β} {P : α → Prop} {g : α → ε} {xs : List α}
    {e : ε} (hok : ∀ x ∈ xs, ¬P x → ∃ y, f x = .ok y)
    (herror : ∀ x ∈ xs, P x → f x = .error (g x)) :
    xs.mapM f = .error e ↔ ∃ i x, FirstAt P xs i x ∧ e = g x := by
  have hfails : ∀ x ∈ xs, (∀ y, f x ≠ .ok y) ↔ P x := by
    intro x hx
    constructor
    · intro h
      by_contra hP
      obtain ⟨y, hy⟩ := hok x hx hP
      exact h y hy
    · intro hP y hy
      rw [herror x hx hP] at hy
      cases hy
  rw [mapM_eq_error_iff]
  constructor
  · rintro ⟨i, x, hfirst, he⟩
    have hfirst := hfirst.congr hfails
    rw [herror x hfirst.mem hfirst.holds] at he
    cases he
    exact ⟨i, x, hfirst, rfl⟩
  · rintro ⟨i, x, hfirst, rfl⟩
    exact ⟨i, x, hfirst.congr fun y hy => (hfails y hy).symm, herror x hfirst.mem hfirst.holds⟩

/-- A traversal fails in one of its steps. -/
theorem exists_of_mapM_eq_error {f : α → Except ε β} {xs : List α} {e : ε}
    (h : xs.mapM f = .error e) : ∃ x ∈ xs, f x = .error e := by
  obtain ⟨i, x, hfirst, hx⟩ := mapM_eq_error_iff.1 h
  exact ⟨x, hfirst.mem, hx⟩

end ModelProbe

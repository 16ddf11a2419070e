import Mathlib.Data.List.DropRight
import ModelProbe.Endpoint

/-! Base URLs.

A target has a host text: what is left of it without the scheme in front and without the slashes at
its end (`hostText`). Where there is any, the base URL is the scheme and the host text
(`baseUrl_of_hosted`), so it is itself a target with this base URL. A target that is nothing but a
scheme and slashes is accepted as well, and then the slashes that are cut off are those of the
scheme, or there is nothing behind it (`baseUrl_of_not_hosted`). -/
namespace ModelProbe

namespace Text

variable {p : Char → Bool} {cs : List Char}

theorem trimEnd_eq (p : Char → Bool) (cs : List Char) : trimEnd p cs = cs.rdropWhile p :=
  rfl

theorem trimEnd_eq_nil_iff : trimEnd p cs = [] ↔ ∀ c ∈ cs, p c :=
  List.rdropWhile_eq_nil_iff

theorem trimEnd_trimEnd (p : Char → Bool) (cs : List Char) :
    trimEnd p (trimEnd p cs) = trimEnd p cs :=
  List.rdropWhile_idempotent p cs

/-- What is cut off at the end may as well not be there. -/
theorem trimEnd_append_of_all {back : List Char} (h : ∀ c ∈ back, p c) (cs : List Char) :
    trimEnd p (cs ++ back) = trimEnd p cs := by
  rw [trimEnd, List.reverse_append,
    List.dropWhile_append_of_pos fun c hc => h c (List.mem_reverse.1 hc), trimEnd]

/-- Cutting stops in a text of which something is left. -/
theorem trimEnd_append (front : List Char) (h : trimEnd p cs ≠ []) :
    trimEnd p (front ++ cs) = front ++ trimEnd p cs := by
  have hrest : (cs.reverse.dropWhile p).isEmpty = false := by
    rw [List.isEmpty_eq_false_iff]
    exact fun hnone => h (by rw [trimEnd, hnone]; rfl)
  rw [trimEnd, List.reverse_append, List.dropWhile_append, hrest, if_neg (by simp),
    List.reverse_append, List.reverse_reverse, trimEnd]

theorem getLast?_trimEnd {c : Char} (hc : p c = true) (cs : List Char) :
    (trimEnd p cs).getLast? ≠ some c := by
  intro hlast
  have hne : cs.rdropWhile p ≠ [] := by
    intro hnone
    rw [trimEnd_eq, hnone] at hlast
    cases hlast
  refine List.rdropWhile_last_not p cs hne ?_
  rw [trimEnd_eq, List.getLast?_eq_some_getLast hne, Option.some.injEq] at hlast
  rwa [hlast]

end Text

namespace Endpoint

variable {target name : String} {version : Option String} {e : Endpoint}

/-! ### Targets that are accepted -/

/-- What is asked of a target, a name and a version. -/
structure Accepts (target name : String) (version : Option String) : Prop where
  hosts : Text.blank target = false
  plain : foreignScheme? target = none
  named : Text.blank name = false
  versioned : version.any Text.blank = false

theorem make_eq_ok_iff :
    make target name version = .ok e ↔
      Accepts target name version ∧ e = ⟨target, name, version⟩ := by
  have haccepts : Accepts target name version ↔ Text.blank target = false ∧
      foreignScheme? target = none ∧ Text.blank name = false ∧ version.any Text.blank = false :=
    ⟨fun ⟨h₁, h₂, h₃, h₄⟩ => ⟨h₁, h₂, h₃, h₄⟩, fun ⟨h₁, h₂, h₃, h₄⟩ => ⟨h₁, h₂, h₃, h₄⟩⟩
  rw [haccepts, make]
  cases Text.blank target <;> cases foreignScheme? target <;> cases Text.blank name <;>
    cases version.any Text.blank <;>
    simp [bind, Except.bind, pure, Except.pure, throw, throwThe, MonadExceptOf.throw, eq_comm]

/-- With `http` in front no other scheme is found. -/
theorem foreignScheme?_schemeMark (rest : List Char) :
    foreignScheme? (String.ofList (schemeMark ++ rest)) = none := by
  have htext : (String.ofList (schemeMark ++ rest)).toList = schemeMark ++ rest :=
    String.toList_ofList
  have hsplit : Text.splitOnce? "://".toList (schemeMark ++ rest) = some (scheme, rest) := rfl
  rw [foreignScheme?, htext, hsplit]
  exact if_pos rfl

/-- With `http` in front any target is accepted. -/
theorem Accepts.schemeMark (h : Accepts target name version) (rest : List Char) :
    Accepts (String.ofList (schemeMark ++ rest)) name version := by
  refine ⟨?_, foreignScheme?_schemeMark rest, h.named, h.versioned⟩
  rw [Text.blank, String.toList_ofList]
  rfl

/-! ### The host text -/

/-- The target without the scheme in front of it. -/
def withoutScheme (target : String) : List Char :=
  if schemeMark.isPrefixOf target.toList then target.toList.drop schemeMark.length
  else target.toList

/-- The target without the scheme in front and the slashes at the end. -/
def hostText (target : String) : List Char :=
  Text.trimEnd (· == '/') (withoutScheme target)

/-- There is something to the target besides a scheme and slashes. -/
def Hosted (target : String) : Prop :=
  hostText target ≠ []

instance (target : String) : Decidable (Hosted target) :=
  inferInstanceAs (Decidable (_ ≠ _))

theorem withoutScheme_of_toList {rest : List Char} (h : target.toList = schemeMark ++ rest) :
    withoutScheme target = rest := by
  rw [withoutScheme, h, if_pos (List.isPrefixOf_iff_prefix.2 ⟨rest, rfl⟩), List.drop_left]

theorem withoutScheme_of_not_isPrefixOf (h : schemeMark.isPrefixOf target.toList = false) :
    withoutScheme target = target.toList := by
  rw [withoutScheme, h]
  rfl

theorem not_hosted_iff : ¬Hosted target ↔ ∀ c ∈ withoutScheme target, c = '/' := by
  rw [Hosted, not_not, hostText, Text.trimEnd_eq_nil_iff]
  simp

theorem toList_eq_of_isPrefixOf (h : schemeMark.isPrefixOf target.toList = true) :
    target.toList = schemeMark ++ withoutScheme target := by
  rw [withoutScheme, if_pos h]
  exact (List.prefix_iff_eq_append.1 (List.isPrefixOf_iff_prefix.1 h)).symm

/-- **The base URL is the scheme and the host text**, where there is any. -/
theorem baseUrl_of_hosted (h : Hosted e.target) :
    e.baseUrl = String.ofList (schemeMark ++ hostText e.target) := by
  rw [baseUrl]
  split
  · rename_i hmark
    have htarget := toList_eq_of_isPrefixOf hmark
    rw [htarget, Text.trimEnd_append _ h, hostText]
  · rename_i hmark
    rw [hostText, withoutScheme, if_neg hmark]

/-- Without a host text either the scheme loses its slashes or nothing stands behind it. -/
theorem baseUrl_of_not_hosted (h : ¬Hosted e.target) :
    e.baseUrl = if schemeMark.isPrefixOf e.target.toList then "http:" else "http://" := by
  have hslashes : ∀ c ∈ withoutScheme e.target, (c == '/') = true := by
    simpa using not_hosted_iff.1 h
  rw [baseUrl]
  split
  · rename_i hmark
    rw [toList_eq_of_isPrefixOf hmark, Text.trimEnd_append_of_all hslashes]
    rfl
  · rename_i hmark
    rw [withoutScheme, if_neg hmark] at hslashes
    rw [Text.trimEnd_eq_nil_iff.2 hslashes]
    rfl

/-! ### Base URLs as targets -/

/-- A scheme with something behind it that does not end in a slash. -/
def Normal (url : String) : Prop :=
  ∃ rest, url.toList = schemeMark ++ rest ∧ rest ≠ [] ∧ rest.getLast? ≠ some '/'

/-- The target with slashes added at its end. -/
def addSlashes (target : String) (n : Nat) : String :=
  String.ofList (target.toList ++ List.replicate n '/')

/-- The target with the scheme in front. -/
def addScheme (target : String) : String :=
  String.ofList (schemeMark ++ target.toList)

theorem hostText_addScheme (h : schemeMark.isPrefixOf target.toList = false) :
    hostText (addScheme target) = hostText target := by
  have htext : (addScheme target).toList = schemeMark ++ target.toList := String.toList_ofList
  rw [hostText, withoutScheme_of_toList htext, hostText, withoutScheme_of_not_isPrefixOf h]

/-- A scheme that comes about by adding slashes has nothing behind it. -/
theorem hostText_addSlashes {n : Nat} (h : Hosted (addSlashes target n)) :
    hostText (addSlashes target n) = hostText target := by
  have hslashes : ∀ c ∈ List.replicate n '/', (c == '/') = true := by
    intro c hc
    rw [List.eq_of_mem_replicate hc]
    rfl
  have htext : (addSlashes target n).toList = target.toList ++ List.replicate n '/' :=
    String.toList_ofList
  -- It is enough that the slashes are added behind what stands without the scheme.
  suffices hwithout : withoutScheme (addSlashes target n) =
      withoutScheme target ++ List.replicate n '/' by
    rw [hostText, hwithout, Text.trimEnd_append_of_all hslashes, hostText]
  cases hmark : schemeMark.isPrefixOf target.toList with
  | true =>
    refine withoutScheme_of_toList ?_
    rw [htext, toList_eq_of_isPrefixOf hmark, List.append_assoc]
  | false =>
    rw [withoutScheme_of_not_isPrefixOf hmark, ← htext]
    refine withoutScheme_of_not_isPrefixOf (Bool.eq_false_iff.2 fun hmark' => ?_)
    have hsplit := toList_eq_of_isPrefixOf hmark'
    rw [htext] at hsplit
    obtain ⟨rest, -, hrest⟩ | ⟨rest, hrest, -⟩ := List.append_eq_append_iff.1 hsplit
    · refine not_hosted_iff.2 (fun c hc => ?_) h
      refine List.eq_of_mem_replicate (n := n) ?_
      rw [hrest]
      exact List.mem_append_right _ hc
    · rw [List.isPrefixOf_iff_prefix.2 ⟨rest, hrest.symm⟩] at hmark
      cases hmark

theorem normal_baseUrl_iff : Normal e.baseUrl ↔ Hosted e.target := by
  by_cases h : Hosted e.target
  · rw [iff_true_right h, baseUrl_of_hosted h]
    exact ⟨_, String.toList_ofList, h, Text.getLast?_trimEnd rfl _⟩
  · rw [iff_false_right h, baseUrl_of_not_hosted h]
    rintro ⟨rest, hrest, hne, -⟩
    split at hrest
    · cases hrest
    · exact hne (List.append_right_eq_self.1 hrest.symm)

/-- The host text decides where requests go. -/
theorem baseUrl_eq_iff {e' : Endpoint} (h : Hosted e.target) :
    e'.baseUrl = e.baseUrl ↔ hostText e'.target = hostText e.target := by
  constructor
  · intro hbase
    have h' : Hosted e'.target := by
      rw [← normal_baseUrl_iff, hbase, normal_baseUrl_iff]
      exact h
    rw [baseUrl_of_hosted h, baseUrl_of_hosted h'] at hbase
    exact List.append_cancel_left (String.ofList_injective hbase)
  · intro hhost
    have h' : Hosted e'.target := by
      rw [Hosted, hhost]
      exact h
    rw [baseUrl_of_hosted h', baseUrl_of_hosted h, hhost]

/-- A base URL is a target. -/
theorem Accepts.baseUrl (h : Accepts e.target name version) : Accepts e.baseUrl name version := by
  by_cases hhost : Hosted e.target
  · rw [baseUrl_of_hosted hhost]
    exact h.schemeMark _
  · rw [baseUrl_of_not_hosted hhost]
    split
    · exact ⟨rfl, by decide, h.named, h.versioned⟩
    · exact h.schemeMark []

/-- It is that of the base URL only where it is in normal form. -/
theorem baseUrl_of_baseUrl_iff :
    (Endpoint.mk e.baseUrl name version).baseUrl = e.baseUrl ↔ Hosted e.target := by
  by_cases h : Hosted e.target
  · rw [iff_true_right h, baseUrl_eq_iff h, baseUrl_of_hosted h, hostText,
      withoutScheme_of_toList String.toList_ofList, hostText, Text.trimEnd_trimEnd]
  · rw [iff_false_right h, baseUrl_of_not_hosted h]
    -- The name and the version have no part in it.
    split
    · change (Endpoint.mk "http:" "" none).baseUrl ≠ "http:"
      decide
    · change (Endpoint.mk "http://" "" none).baseUrl ≠ "http://"
      decide

/-- **A base URL is in normal form where the target has a host text**, and there alone. It is
always a target itself, with this base URL again if it is in normal form; then slashes at the end of
a target make no difference, nor does the scheme in front, nor anything else that leaves the host
text as it is. -/
theorem normal_baseUrl (h : make target name version = .ok e) :
    (Normal e.baseUrl ↔ Hosted target) ∧
    (∃ again, make e.baseUrl name version = .ok again ∧
      (again.baseUrl = e.baseUrl ↔ Hosted target)) ∧
    (Hosted target → ∀ target' name' version' e', make target' name' version' = .ok e' →
      (e'.baseUrl = e.baseUrl ↔ hostText target' = hostText target)) ∧
    (∀ n e', make (addSlashes target n) name version = .ok e' → Hosted e'.target →
      e'.baseUrl = e.baseUrl) ∧
    (schemeMark.isPrefixOf target.toList = false → Hosted target →
      ∃ e', make (addScheme target) name version = .ok e' ∧ e'.baseUrl = e.baseUrl) := by
  obtain ⟨haccepts, rfl⟩ := make_eq_ok_iff.1 h
  refine ⟨normal_baseUrl_iff, ⟨_, make_eq_ok_iff.2 ⟨haccepts.baseUrl, rfl⟩, ?_⟩, ?_, ?_, ?_⟩
  · exact baseUrl_of_baseUrl_iff
  · intro hhost target' name' version' e' h'
    obtain ⟨-, rfl⟩ := make_eq_ok_iff.1 h'
    exact baseUrl_eq_iff hhost
  · intro n e' h' hhost'
    obtain ⟨-, rfl⟩ := make_eq_ok_iff.1 h'
    have hsame := hostText_addSlashes hhost'
    refine (baseUrl_eq_iff ?_).2 hsame
    rw [Hosted, ← hsame]
    exact hhost'
  · intro hplain hhost
    have hadded : Accepts (addScheme target) name version := haccepts.schemeMark target.toList
    refine ⟨⟨addScheme target, name, version⟩, make_eq_ok_iff.2 ⟨hadded, rfl⟩, ?_⟩
    rw [baseUrl_eq_iff (e := ⟨target, name, version⟩) hhost]
    exact hostText_addScheme hplain

/-- A bare host with slashes inside, at its end and with more of them added. -/
theorem normal_baseUrl_bare_host :
    let e : Endpoint := ⟨"models.local:80//v1//", "m", some "2"⟩
    make "models.local:80//v1//" "m" (some "2") = .ok e ∧
    Normal e.baseUrl ∧
    (∃ again, make "http://models.local:80//v1" "m" (some "2") = .ok again ∧
      again.baseUrl = e.baseUrl) ∧
    (∀ e', make "models.local:80//v1/////" "m" (some "2") = .ok e' → e'.baseUrl = e.baseUrl) ∧
    ∃ e', make "http://models.local:80//v1//" "m" (some "2") = .ok e' ∧
      e'.baseUrl = e.baseUrl := by
  intro e
  have hmake : make "models.local:80//v1//" "m" (some "2") = .ok e := rfl
  have hbase : e.baseUrl = "http://models.local:80//v1" := by decide +kernel
  have hhost : Hosted "models.local:80//v1//" := by decide +kernel
  have hslashes : hostText "models.local:80//v1/////" = hostText "models.local:80//v1//" := by
    decide +kernel
  have hadded : addScheme "models.local:80//v1//" = "http://models.local:80//v1//" := by
    decide +kernel
  obtain ⟨hnormal, ⟨again, hagain, hsame⟩, hothers, -, hscheme⟩ := normal_baseUrl hmake
  rw [hbase] at hagain
  rw [hadded] at hscheme
  exact ⟨hmake, hnormal.2 hhost, ⟨again, hagain, hsame.2 hhost⟩,
    fun e' h' => (hothers hhost _ _ _ e' h').2 hslashes, hscheme (by decide +kernel) hhost⟩

/-- A target that is a scheme alone is accepted, and loses what makes it one; a target that is a
slash keeps no host. -/
theorem not_all_normal :
    (¬∀ (target name : String) (version : Option String) (e : Endpoint),
      make target name version = .ok e → Normal e.baseUrl) ∧
    (¬∀ (target name : String) (version : Option String) (e : Endpoint),
      make target name version = .ok e →
        ∃ again, make e.baseUrl name version = .ok again ∧ again.baseUrl = e.baseUrl) ∧
    (Endpoint.mk "http://" "m" none).baseUrl = "http:" ∧
    (Endpoint.mk "http:" "m" none).baseUrl = "http://http:" ∧
    (Endpoint.mk "/" "m" none).baseUrl = "http://" := by
  refine ⟨fun h => ?_, fun h => ?_, rfl, rfl, rfl⟩
  · obtain ⟨rest, hrest, -⟩ := h "http://" "m" none ⟨"http://", "m", none⟩ rfl
    cases hrest
  · obtain ⟨again, hagain, hsame⟩ := h "http://" "m" none ⟨"http://", "m", none⟩ rfl
    have hmake : make "http:" "m" none = .ok ⟨"http:", "m", none⟩ := rfl
    change make "http:" "m" none = .ok again at hagain
    obtain rfl := Except.ok.inj (hmake.symm.trans hagain)
    exact absurd hsame (by decide)

end Endpoint

end ModelProbe

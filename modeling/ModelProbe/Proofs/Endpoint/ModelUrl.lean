import ModelProbe.Proofs.Endpoint.BaseUrl
import ModelProbe.Proofs.Url.Segments
import ModelProbe.Rest.Transport

/-! Which models share URLs.

A URL is pasted together from a base, a name and a version, so a name can hold what otherwise stands
between a name and a version. That is the only way for two models to share a URL: one of them
imitates the other (`modelUrl_eq_iff`), which no name without a slash does. A request goes further
than its URL, since dots are resolved and queries and escapes are read; names and versions that are
plain texts are segments of its path, in which nothing but the model can differ
(`segments_of_address`). -/
namespace ModelProbe.Endpoint

variable {e e' : Endpoint}

/-- What tells a model from others: its name, and its version if there is one. -/
def identity (e : Endpoint) : String × Option String :=
  (e.modelName, e.modelVersion)

/-! ### The URL as text -/

/-- What stands between a name and a version. -/
def versionMark : List Char := "/versions/".toList

/-- The part of a URL that tells the model. -/
def modelText : String × Option String → List Char
  | (name, none) => name.toList
  | (name, some version) => name.toList ++ versionMark ++ version.toList

theorem toList_modelUrl (e : Endpoint) (action : String) :
    (e.modelUrl action).toList = e.baseUrl.toList ++ "/v2/models/".toList ++
      (modelText e.identity ++ '/' :: action.toList) := by
  obtain ⟨target, name, _ | version⟩ := e <;>
    simp only [modelUrl, identity, modelText, String.toList_append, List.append_assoc] <;> rfl

/-- With one base the model alone decides. -/
theorem modelUrl_eq_iff_modelText (hbase : e.baseUrl = e'.baseUrl) (action : String) :
    e.modelUrl action = e'.modelUrl action ↔ modelText e.identity = modelText e'.identity := by
  rw [← String.toList_inj, toList_modelUrl, toList_modelUrl, hbase]
  exact ⟨fun h => List.append_cancel_right (List.append_cancel_left h), fun h => by rw [h]⟩

/-! ### Imitations -/

/-- The second model says in its name what the first says of its version. -/
inductive Imitates : String × Option String → String × Option String → Prop
  /-- All of it. -/
  | version (name version : String) :
    Imitates (name, some version) (name ++ "/versions/" ++ version, none)
  /-- All up to a mark within the version. -/
  | within (name front version : String) :
    Imitates (name, some (front ++ "/versions/" ++ version))
      (name ++ "/versions/" ++ front, some version)
  /-- The mark, but for the slash it ends in, where the version begins like a mark after its
  first slash. -/
  | overlap (name version : String) :
    Imitates (name, some ("versions/" ++ version)) (name ++ "/versions", some version)

variable {m m' : String × Option String}

theorem Imitates.modelText_eq (h : Imitates m m') : modelText m = modelText m' := by
  cases h <;> simp only [modelText, String.toList_append, List.append_assoc] <;> rfl

/-- A mark overlaps itself in nothing but a slash. -/
theorem overlap_versionMark : ∀ n ≤ versionMark.length,
    versionMark.drop n <+: versionMark → n = 0 ∨ n = 9 ∨ n = 10 := by
  decide

/-- Two places for a mark: the same, overlapping, or one behind the other. -/
theorem versionMark_append_eq {between version version' : List Char}
    (h : versionMark ++ version = between ++ (versionMark ++ version')) :
    (between = [] ∧ version = version') ∨
    (between = "/versions".toList ∧ version = "versions/".toList ++ version') ∨
    ∃ front, between = versionMark ++ front ∧ version = front ++ (versionMark ++ version') := by
  obtain ⟨front, hbetween, hversion⟩ | ⟨shared, hmark, hshared⟩ := List.append_eq_append_iff.1 h
  · exact .inr (.inr ⟨front, hbetween, hversion⟩)
  · -- What both marks share is the end of one and the start of the other.
    have hlength : between.length ≤ versionMark.length := by
      rw [hmark, List.length_append]
      exact Nat.le_add_right _ _
    have hfront : between = versionMark.take between.length := by
      rw [hmark, List.take_left]
    have hdrop : shared = versionMark.drop between.length := by
      rw [hmark, List.drop_left]
    have hstart : versionMark.drop between.length <+: versionMark := by
      have hfirst : versionMark.drop between.length <+: shared ++ version :=
        ⟨version, by rw [← hdrop]⟩
      have hsecond : versionMark <+: shared ++ version := ⟨version', hshared⟩
      refine List.prefix_of_prefix_length_le hfirst hsecond ?_
      rw [List.length_drop]
      exact Nat.sub_le _ _
    obtain hn | hn | hn := overlap_versionMark _ hlength hstart
    · obtain rfl := List.length_eq_zero_iff.1 hn
      exact .inl ⟨rfl, List.append_cancel_left h⟩
    · rw [hn] at hfront
      rw [hfront] at h
      refine .inr (.inl ⟨hfront, ?_⟩)
      have hmark : "/versions".toList ++ '/' :: version =
          "/versions".toList ++ '/' :: ("versions/".toList ++ version') := h
      exact (List.cons.inj (List.append_cancel_left hmark)).2
    · rw [hn] at hfront
      rw [hfront] at h
      exact .inr (.inr ⟨[], hfront, List.append_cancel_left h⟩)

/-- A name that is longer by what stands between the places of two marks. -/
theorem eq_or_imitates {name name' version version' : String} {between : List Char}
    (hname : name'.toList = name.toList ++ between)
    (h : versionMark ++ version.toList = between ++ (versionMark ++ version'.toList)) :
    (name, some version) = (name', some version') ∨
      Imitates (name, some version) (name', some version') := by
  obtain ⟨rfl, hversion⟩ | ⟨rfl, hversion⟩ | ⟨front, rfl, hversion⟩ := versionMark_append_eq h
  · rw [List.append_nil] at hname
    obtain rfl := String.toList_inj.1 hname
    obtain rfl := String.toList_inj.1 hversion
    exact .inl rfl
  · obtain rfl : name' = name ++ "/versions" := by
      rw [← String.toList_inj, hname, String.toList_append]
    obtain rfl : version = "versions/" ++ version' := by
      rw [← String.toList_inj, hversion, String.toList_append]
    exact .inr (.overlap name version')
  · have hfront : (String.ofList front).toList = front := String.toList_ofList
    obtain rfl : name' = name ++ "/versions/" ++ String.ofList front := by
      rw [← String.toList_inj, hname, String.toList_append, String.toList_append, hfront,
        List.append_assoc]
      rfl
    obtain rfl : version = String.ofList front ++ "/versions/" ++ version' := by
      rw [← String.toList_inj, hversion, String.toList_append, String.toList_append, hfront,
        List.append_assoc]
      rfl
    exact .inr (.within name _ version')

/-- Models are told apart unless one imitates the other. -/
theorem modelText_eq_iff : modelText m = modelText m' ↔ m = m' ∨ Imitates m m' ∨ Imitates m' m := by
  constructor
  · intro h
    obtain ⟨name, _ | version⟩ := m <;> obtain ⟨name', _ | version'⟩ := m'
    · obtain rfl := String.toList_inj.1 h
      exact .inl rfl
    · obtain rfl : name = name' ++ "/versions/" ++ version' := by
        rw [← String.toList_inj, String.toList_append, String.toList_append]
        exact h
      exact .inr (.inr (.version name' version'))
    · obtain rfl : name' = name ++ "/versions/" ++ version := by
        rw [← String.toList_inj, String.toList_append, String.toList_append]
        exact h.symm
      exact .inr (.inl (.version name version))
    · simp only [modelText, List.append_assoc] at h
      obtain ⟨between, hname, h⟩ | ⟨between, hname, h⟩ := List.append_eq_append_iff.1 h
      · exact (eq_or_imitates hname h).imp_right .inl
      · exact (eq_or_imitates hname h).imp Eq.symm .inr
  · rintro (rfl | h | h)
    · rfl
    · exact h.modelText_eq
    · exact h.modelText_eq.symm

/-- An imitation has a slash in its name. -/
theorem Imitates.slash_mem (h : Imitates m m') : '/' ∈ m'.1.toList := by
  have hmark : '/' ∈ "/versions/".toList := by decide
  have hmark' : '/' ∈ "/versions".toList := by decide
  cases h <;> simp only [String.toList_append, List.mem_append]
  · exact .inl (.inr hmark)
  · exact .inl (.inr hmark)
  · exact .inr hmark'

/-- No version is safe: a name that imitates it is accepted wherever it is. -/
theorem exists_imitation {target name version : String}
    (h : make target name (some version) = .ok e) :
    ∃ name' e', make target name' none = .ok e' ∧ Imitates e.identity e'.identity := by
  obtain ⟨haccepts, rfl⟩ := make_eq_ok_iff.1 h
  have hnamed : Text.blank (name ++ "/versions/" ++ version) = false := by
    have hname : name.toList.all Text.isBlank = false := haccepts.named
    rw [Text.blank, String.toList_append, String.toList_append, List.all_append, List.all_append,
      hname]
    rfl
  exact ⟨_, _, make_eq_ok_iff.2 ⟨⟨haccepts.hosts, haccepts.plain, hnamed, rfl⟩, rfl⟩,
    .version name version⟩

/-! ### The path of a request -/

/-- The pieces of a path behind the version of the protocol. -/
def pathPieces (e : Endpoint) (action : String) : List (List Char) :=
  match e.identity with
  | (name, none) => ["models".toList, name.toList, action.toList]
  | (name, some version) =>
    ["models".toList, name.toList, "versions".toList, version.toList, action.toList]

theorem toList_modelUrl_eq_pathText (e : Endpoint) (action : String) :
    (e.modelUrl action).toList =
      e.baseUrl.toList ++ "/v2".toList ++ Url.pathText (e.pathPieces action) := by
  rw [toList_modelUrl]
  obtain ⟨target, name, _ | version⟩ := e <;>
    simp only [pathPieces, identity, modelText, Url.pathText, List.flatMap_cons, List.flatMap_nil,
      List.append_nil, List.append_assoc, List.cons_append] <;> rfl

/-- Every base URL begins with the scheme and its colon. -/
theorem exists_toList_baseUrl (e : Endpoint) :
    ∃ front, e.baseUrl.toList = "http:".toList ++ front := by
  by_cases h : Hosted e.target
  · rw [baseUrl_of_hosted h]
    exact ⟨'/' :: '/' :: hostText e.target, String.toList_ofList⟩
  · rw [baseUrl_of_not_hosted h]
    split
    · exact ⟨[], rfl⟩
    · exact ⟨['/', '/'], rfl⟩

/-- The name and the version are plain texts. -/
structure Plain (m : String × Option String) : Prop where
  name : Url.Plain m.1.toList
  version : ∀ v ∈ m.2, Url.Plain v.toList

theorem plain_of_mem_pathPieces (h : Plain e.identity) {action : String}
    (haction : Url.Plain action.toList) : ∀ p ∈ e.pathPieces action, Url.Plain p := by
  have hmodels : Url.Plain "models".toList := by decide
  have hversions : Url.Plain "versions".toList := by decide
  obtain ⟨target, name, _ | version⟩ := e
  · simp only [pathPieces, identity, List.forall_mem_cons]
    exact ⟨hmodels, h.name, haction, fun p hp => absurd hp List.not_mem_nil⟩
  · simp only [pathPieces, identity, List.forall_mem_cons]
    exact ⟨hmodels, h.name, hversions, h.version version rfl, haction,
      fun p hp => absurd hp List.not_mem_nil⟩

/-- Escaped, the pieces still tell the model. -/
theorem identity_eq_of_pathPieces (h : Plain e.identity) (h' : Plain e'.identity) {action : String}
    (heq : (e.pathPieces action).map (Url.percentEncode Url.escapedInPath) =
      (e'.pathPieces action).map (Url.percentEncode Url.escapedInPath)) :
    e.identity = e'.identity := by
  obtain ⟨target, name, _ | version⟩ := e <;> obtain ⟨target', name', _ | version'⟩ := e' <;>
    simp only [pathPieces, identity, List.map_cons, List.map_nil, List.cons.injEq] at heq
  · obtain rfl := String.toList_inj.1
      (Url.percentEncode_injective h.name.unescaped h'.name.unescaped heq.2.1)
    rfl
  · cases heq.2.2.2
  · cases heq.2.2.2
  · obtain rfl := String.toList_inj.1
      (Url.percentEncode_injective h.name.unescaped h'.name.unescaped heq.2.1)
    obtain rfl := String.toList_inj.1 (Url.percentEncode_injective
      (h.version version rfl).unescaped (h'.version version' rfl).unescaped heq.2.2.2.1)
    rfl

/-- **Plain names and versions are segments of the path**, behind the same segments each time. -/
theorem segments_of_address (hbase : ∀ c ∈ e.baseUrl.toList, Url.isInPath c) :
    ∃ segments, ∀ e' : Endpoint, e'.baseUrl = e.baseUrl → Plain e'.identity →
      ∀ action : String, Url.Plain action.toList → ∀ u, Rest.address e' action = .ok u →
      u.segments =
        segments ++ (e'.pathPieces action).map (Url.percentEncode Url.escapedInPath) := by
  obtain ⟨front, hfront⟩ := exists_toList_baseUrl e
  have hclean : ∀ c ∈ front, Url.isInPath c := by
    intro c hc
    refine hbase c ?_
    rw [hfront]
    exact List.mem_append_right _ hc
  obtain ⟨segments, hsegments⟩ := Url.segments_of_ofText? hclean
  refine ⟨segments, fun e' hsame hplain action haction u hu => ?_⟩
  have htext : (e'.modelUrl action).toList =
      "http:".toList ++ (front ++ "/v2".toList ++ Url.pathText (e'.pathPieces action)) := by
    rw [toList_modelUrl_eq_pathText, hsame, hfront]
    simp only [List.append_assoc]
  have hne : e'.pathPieces action ≠ [] := by
    rw [pathPieces]
    split <;> exact List.cons_ne_nil _ _
  rw [Rest.address] at hu
  split at hu
  · cases hu
  · rename_i url hurl
    have hpath := hsegments _ hne (plain_of_mem_pathPieces hplain haction) _ url htext hurl
    -- What is sent has the path that was read.
    have hsent : url.sent.segments = url.segments := by
      rw [Url.sent]
      split <;> rfl
    split at hu
    · cases hu
      rw [hsent, hpath]
    · cases hu

/-- **Models share a URL only by imitation**, for which one of them needs a slash in its name; and
where both names and versions are plain texts, no request for one gets to the path of the other. -/
theorem modelUrl_tells_model (hbase : e.baseUrl = e'.baseUrl) :
    (∀ action, e.modelUrl action = e'.modelUrl action ↔
      e.identity = e'.identity ∨ Imitates e.identity e'.identity ∨
        Imitates e'.identity e.identity) ∧
    ('/' ∉ e.modelName.toList → '/' ∉ e'.modelName.toList → e.identity ≠ e'.identity →
      ∀ action, e.modelUrl action ≠ e'.modelUrl action) ∧
    ((∀ c ∈ e.baseUrl.toList, Url.isInPath c) →
      Plain e.identity → Plain e'.identity → e.identity ≠ e'.identity →
      ∀ action, Url.Plain action.toList → ∀ u u', Rest.address e action = .ok u →
        Rest.address e' action = .ok u' → u.segments ≠ u'.segments) := by
  have hiff : ∀ action, e.modelUrl action = e'.modelUrl action ↔
      e.identity = e'.identity ∨ Imitates e.identity e'.identity ∨
        Imitates e'.identity e.identity := fun action =>
    (modelUrl_eq_iff_modelText hbase action).trans modelText_eq_iff
  refine ⟨hiff, fun h h' hne action heq => ?_,
    fun hclean h h' hne action haction u u' hu hu' heq => ?_⟩
  · obtain hsame | himitates | himitates := (hiff action).1 heq
    · exact hne hsame
    · exact h' himitates.slash_mem
    · exact h himitates.slash_mem
  · obtain ⟨segments, hsegments⟩ := segments_of_address hclean
    rw [hsegments e rfl h action haction u hu,
      hsegments e' hbase.symm h' action haction u' hu'] at heq
    exact hne (identity_eq_of_pathPieces h h' (List.append_cancel_left heq))

theorem exists_address (h : (Rest.address e "infer").isOk = true) :
    ∃ u, Rest.address e "infer" = .ok u := by
  cases hu : Rest.address e "infer" with
  | error error =>
    rw [hu] at h
    cases h
  | ok u => exact ⟨u, rfl⟩

/-- A version against none, under a name with a blank and a letter outside ASCII. -/
theorem modelUrl_tells_model_version :
    let e : Endpoint := ⟨"[::1]:8080/", "größe 1", some "2"⟩
    let e' : Endpoint := ⟨"http://[::1]:8080", "größe 1", none⟩
    e.baseUrl = e'.baseUrl ∧
    (∀ action, e.modelUrl action ≠ e'.modelUrl action) ∧
    ∃ u u', Rest.address e "infer" = .ok u ∧ Rest.address e' "infer" = .ok u' ∧
      u.segments ≠ u'.segments := by
  intro e e'
  have hbase : e.baseUrl = e'.baseUrl := by decide +kernel
  have hne : e.identity ≠ e'.identity := by decide
  have hclean : ∀ c ∈ e.baseUrl.toList, Url.isInPath c :=
    List.all_eq_true.1 (by decide +kernel)
  have hname : Url.Plain "größe 1".toList := by decide
  have hversion : Url.Plain "2".toList := by decide
  have haction : Url.Plain "infer".toList := by decide
  have hplain : Plain e.identity := ⟨hname, fun v hv => by cases hv; exact hversion⟩
  have hplain' : Plain e'.identity := ⟨hname, fun v hv => by cases hv⟩
  obtain ⟨u, hu⟩ := exists_address (e := e) (by decide +kernel)
  obtain ⟨u', hu'⟩ := exists_address (e := e') (by decide +kernel)
  obtain ⟨-, hurl, hpath⟩ := modelUrl_tells_model hbase
  refine ⟨hbase, hurl (by decide) (by decide) hne, u, u', hu, hu', ?_⟩
  exact hpath hclean hplain hplain' hne "infer" haction u u' hu hu'

/-- A name can hold a mark and a version; and without any slash two dots for a version lead to the
path of the model without one. -/
theorem not_all_models_apart :
    (¬∀ (target name name' : String) (version version' : Option String) (e e' : Endpoint),
      make target name version = .ok e → make target name' version' = .ok e' →
      e.identity ≠ e'.identity → e.modelUrl "infer" ≠ e'.modelUrl "infer") ∧
    (¬∀ (target name name' : String) (version version' : Option String) (e e' : Endpoint),
      make target name version = .ok e → make target name' version' = .ok e' →
      '/' ∉ name.toList → '/' ∉ name'.toList → e.identity ≠ e'.identity →
      ∀ u u', Rest.address e "infer" = .ok u → Rest.address e' "infer" = .ok u' → u ≠ u') := by
  refine ⟨fun h => ?_, fun h => ?_⟩
  · refine h "localhost:8081" "m" "m/versions/1" (some "1") none
      ⟨"localhost:8081", "m", some "1"⟩ ⟨"localhost:8081", "m/versions/1", none⟩ rfl rfl
      (by decide) ?_
    decide +kernel
  · let e : Endpoint := ⟨"[::1]:8081", "m", some ".."⟩
    let e' : Endpoint := ⟨"[::1]:8081", "m", none⟩
    obtain ⟨u, hu⟩ := exists_address (e := e) (by decide +kernel)
    obtain ⟨u', hu'⟩ := exists_address (e := e') (by decide +kernel)
    have hsame : (Rest.address e "infer").toOption = (Rest.address e' "infer").toOption := by
      decide +kernel
    rw [hu, hu'] at hsame
    refine h "[::1]:8081" "m" "m" (some "..") none e e' rfl rfl (by decide) (by decide) (by decide)
      u u' hu hu' ?_
    exact Option.some.inj hsame

end ModelProbe.Endpoint

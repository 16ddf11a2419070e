import ModelProbe.Explain.Explainer
import ModelProbe.Proofs.Explain.Program

/-! The law of explanations.

However often an explainer has run, and whatever it met, it holds what it was made with and is at
rest: `Later` are the explainers that runs lead to. A point that does not fit changes nothing. Any
other starts the explainer, which keeps what it was made with but not its rest, is answered as
`Judged` says, and finishes the explainer, which leaves it done or failed. The result follows from
what the explainer was made with, the point and the answers of the predictor (`explain_law`). -/
namespace ModelProbe.Explain.Explainer

open Program (Dialogue Judged)

variable {P α σ τ : Type}

/-- The explainers that a number of runs lead to, each of any point, against any model and in any
world. -/
inductive Later (x : Explainer P α σ) : Explainer P α σ → Prop where
  | now : Later x x
  | explain {y : Explainer P α σ} (h : Later x y) (point : Table) (world : σ) :
      Later x (y.explain point world).2.1
  | explainWith {y : Explainer P α σ} (h : Later x y) (point : Table) (model : Predictor σ)
      (world : σ) : Later x (y.explainWith point model world).2.1

/-- The predictor's answers while a point is explained, in order; a point that is turned away
asks for none. -/
def Answered (x : Explainer P α σ) (point : Table) (predict : Predictor σ) (world : σ)
    (answers : List Answer) : Prop :=
  ∀ frame, x.prepare point = .ok frame → ∃ own world',
    Dialogue predict (x.engine.explain x.params frame) 0 world answers own world'

/-- What an explainer was made with. -/
structure Made (engine : Engine P α) (params : P) (framing : Framing) (model : Predictor σ)
    (x : Explainer P α σ) : Prop where
  engine : x.engine = engine
  params : x.params = params
  framing : x.framing = framing
  model : x.model = model

/-- What an explainer was made with, and that it is at rest. -/
structure Holds (engine : Engine P α) (params : P) (framing : Framing) (model : Predictor σ)
    (x : Explainer P α σ) : Prop extends Made engine params framing model x where
  resting : x.state ≠ .explaining

/-! ### One run -/

@[simp]
theorem engine_start (x : Explainer P α σ) : x.start.engine = x.engine :=
  rfl

@[simp]
theorem params_start (x : Explainer P α σ) : x.start.params = x.params :=
  rfl

/-- A point that is turned away leaves everything as it was. -/
theorem explainWith_of_error {x : Explainer P α σ} {point : Table} {e : Error}
    (h : x.prepare point = .error e) (predict : Predictor σ) (world : σ) :
    x.explainWith point predict world = (.error e, x, world) := by
  rw [explainWith, h]

/-- A point that fits is explained as its dialogue says, between a start and a finish. -/
theorem explainWith_of_ok {x : Explainer P α σ} {point : Table} {frame : Frame}
    (h : x.prepare point = .ok frame) {predict : Predictor σ} {world world' : σ}
    {answers : List Answer} {own : Except Error α}
    (hdialogue : Dialogue predict (x.engine.explain x.params frame) 0 world answers own world') :
    ∃ result, x.explainWith point predict world =
        (result, x.start.finish result, world') ∧ Judged answers own result := by
  obtain ⟨result, hrun, hjudged⟩ := Program.run_judged hdialogue
  refine ⟨result, ?_, hjudged⟩
  rw [explainWith, h]
  simp only [engine_start, params_start, hrun]

theorem after_ne_explaining (result : Except Error α) : after result ≠ .explaining := by
  cases result <;> exact nofun

section

variable {engine : Engine P α} {params : P} {framing : Framing} {model : Predictor σ}
  {x x₀ : Explainer P α σ}

/-- A start keeps what the explainer was made with, though not its rest. -/
theorem Made.start (h : Made engine params framing model x) :
    Made engine params framing model x.start :=
  ⟨h.engine, h.params, h.framing, h.model⟩

/-- A finish brings the explainer to rest, whatever it was in the middle of. -/
theorem Made.finish (h : Made engine params framing model x) (result : Except Error α) :
    Holds engine params framing model (x.finish result) :=
  ⟨⟨h.engine, h.params, h.framing, h.model⟩, after_ne_explaining result⟩

/-- A run keeps what the explainer holds. -/
theorem Holds.explainWith (h : Holds engine params framing model x) (point : Table)
    (predict : Predictor σ) (world : σ) :
    Holds engine params framing model (x.explainWith point predict world).2.1 := by
  cases hpoint : x.prepare point with
  | error e =>
    rw [explainWith_of_error hpoint]
    exact h
  | ok frame =>
    obtain ⟨_, _, _, hdialogue⟩ :=
      Program.exists_dialogue predict (x.engine.explain x.params frame) 0 world
    obtain ⟨result, hrun, -⟩ := explainWith_of_ok hpoint hdialogue
    rw [hrun]
    exact h.toMade.start.finish result

/-! ### Many runs -/

theorem holds_of_make (h : make engine params framing model = .ok x₀) :
    Holds engine params framing model x₀ := by
  unfold make at h
  cases hparams : engine.validate params with
  | error e => rw [hparams] at h; cases h
  | ok _ =>
    cases hframing : framing.validate with
    | error e => rw [hparams, hframing] at h; cases h
    | ok _ =>
      rw [hparams, hframing] at h
      cases h
      exact ⟨⟨rfl, rfl, rfl, rfl⟩, nofun⟩

theorem Later.holds (h : x₀.Later x) (h₀ : Holds engine params framing model x₀) :
    Holds engine params framing model x := by
  induction h with
  | now => exact h₀
  | explain _ point world ih => exact ih.explainWith point _ world
  | explainWith _ point predict world ih => exact ih.explainWith point predict world

/-- What a point is turned away for does not depend on the model or the state. -/
theorem prepare_eq {x : Explainer P α σ} {y : Explainer P α τ} (hengine : x.engine = y.engine)
    (hparams : x.params = y.params) (hframing : x.framing = y.framing) (point : Table) :
    x.prepare point = y.prepare point := by
  rw [prepare, prepare, hengine, hparams, hframing]

/-- Two explainers made with the same give the same result on the same answers. -/
theorem result_eq {model' : Predictor τ} {y : Explainer P α τ}
    (hx : Holds engine params framing model x) (hy : Holds engine params framing model' y)
    {point : Table} {predict : Predictor σ} {world : σ} {predict' : Predictor τ} {world' : τ}
    {answers : List Answer} (hax : x.Answered point predict world answers)
    (hay : y.Answered point predict' world' answers) :
    (x.explainWith point predict world).1 = (y.explainWith point predict' world').1 := by
  have hengine := hx.engine.trans hy.engine.symm
  have hparams := hx.params.trans hy.params.symm
  have hprepare := prepare_eq hengine hparams (hx.framing.trans hy.framing.symm) point
  cases hpoint : x.prepare point with
  | error e =>
    rw [explainWith_of_error hpoint, explainWith_of_error (hprepare.symm.trans hpoint)]
  | ok frame =>
    obtain ⟨own, _, hdialogue⟩ := hax frame hpoint
    obtain ⟨own', _, hdialogue'⟩ := hay frame (hprepare.symm.trans hpoint)
    obtain ⟨result, hrun, hjudged⟩ := explainWith_of_ok hpoint hdialogue
    obtain ⟨result', hrun', hjudged'⟩ := explainWith_of_ok (hprepare.symm.trans hpoint) hdialogue'
    rw [hrun, hrun']
    rw [← hengine, ← hparams] at hdialogue'
    rw [← hdialogue.own_eq hdialogue'] at hjudged'
    exact hjudged.unique hjudged'

/-- **The law of explanations.** Of an explainer that was made and has run any number of times:
it is never left explaining. A point that does not fit gives its error, and neither the explainer
nor the world changes. On any other point the run is a dialogue of the engine's program with the
predictor, and its result is the first failed call, by its number in this run, or else what the
engine ends with; the explainer is done when that is a result and failed when it is not, and else
unchanged. An explainer made with the same engine, parameters and framing gives the same result
when its predictor gives the same answers, whatever both went through before. And to explain is
to explain against the model the explainer was made with. -/
theorem explain_law (hmade : make engine params framing model = .ok x₀) (hx : x₀.Later x)
    (point : Table) (predict : Predictor σ) (world : σ) :
    x.state ≠ .explaining ∧
    (∀ e, x.prepare point = .error e →
      x.explainWith point predict world = (.error e, x, world)) ∧
    (∀ frame, x.prepare point = .ok frame → ∃ answers own result x' world',
      Dialogue predict (engine.explain params frame) 0 world answers own world' ∧
      x.explainWith point predict world = (result, x', world') ∧
      Judged answers own result ∧
      (∀ a, result = .ok a → x' = { x with state := .done }) ∧
      (∀ e, result = .error e → x' = { x with state := .failed })) ∧
    (∀ {τ : Type} {model' : Predictor τ} {y₀ y : Explainer P α τ},
      make engine params framing model' = .ok y₀ → y₀.Later y →
      ∀ predict' world' answers, x.Answered point predict world answers →
        y.Answered point predict' world' answers →
        (x.explainWith point predict world).1 = (y.explainWith point predict' world').1) ∧
    x.explain point world = x.explainWith point model world := by
  have hholds := hx.holds (holds_of_make hmade)
  refine ⟨hholds.resting, fun e he => explainWith_of_error he predict world,
    fun frame hframe => ?_, fun hmade' hy predict' world' answers => ?_, ?_⟩
  · obtain ⟨answers, own, world', hdialogue⟩ :=
      Program.exists_dialogue predict (x.engine.explain x.params frame) 0 world
    obtain ⟨result, hrun, hjudged⟩ := explainWith_of_ok hframe hdialogue
    rw [hholds.engine, hholds.params] at hdialogue
    refine ⟨answers, own, result, _, world', hdialogue, hrun, hjudged, fun a ha => ?_,
      fun e he => ?_⟩
    · rw [ha]
      rfl
    · rw [he]
      rfl
  · exact result_eq hholds (hy.holds (holds_of_make hmade'))
  · rw [explain, hholds.model]

/-- An engine that hides a failed call: its run fails with that call, and the run after it, in
which no call fails, gives the engine's own result. -/
theorem explain_law_hidden_failure :
    let engine : Engine Unit Nat := ⟨fun _ => .ok (), fun _ => ⟨2, .exactly 1⟩,
      fun _ frame => .forecast frame fun _ => .forecast frame fun _ => .finish (.ok 7)⟩
    let refusal : ModelProbe.Error := .unsupported .joinTooLarge
    let model : Predictor Nat := fun _ calls =>
      (if calls = 1 then .error refusal else .ok ⟨0, 0, []⟩, calls + 1)
    let point : Table := ⟨[⟨"t", [.number (.ofNat 60), .number .zero]⟩,
      ⟨"v", [.number (.ofNat 1), .number (.ofNat 2)]⟩], 2⟩
    let x : Explainer Unit Nat Nat := ⟨engine, (), ⟨"t", none⟩, model, .configured⟩
    let y := (x.explain point 0).2.1
    make engine () ⟨"t", none⟩ model = .ok x ∧ x.Later y ∧
    x.explain point 0 = (.error (.prediction 2 refusal), { x with state := .failed }, 2) ∧
    y.explain point 2 = (.ok 7, { x with state := .done }, 4) := by
  intro engine refusal model point x y
  have hmade : make engine () ⟨"t", none⟩ model = .ok x := rfl
  have hy : x.Later y := Later.now.explain point 0
  have hpoint : (x.prepare point).isOk = true := by decide +kernel
  cases hframe : x.prepare point with
  | error e =>
    rw [hframe] at hpoint
    cases hpoint
  | ok frame =>
    have hfirst : x.explain point 0 =
        (.error (.prediction 2 refusal), { x with state := .failed }, 2) := by
      obtain ⟨-, -, hfits, -, hexplain⟩ := explain_law hmade .now point model 0
      obtain ⟨answers, own, result, x', world', hdialogue, hrun, hjudged, -, hfailed⟩ :=
        hfits frame hframe
      cases hdialogue with
      | forecast h1 hrest =>
        cases hrest with
        | forecast h2 hrest =>
          cases hrest
          cases h1
          cases h2
          have hresult := hjudged.failed [.ok ⟨0, 0, []⟩] refusal [] rfl
            (List.forall_mem_singleton.2 rfl)
          rw [hexplain, hrun, hfailed _ hresult, hresult]
          rfl
    have hstate : y = { x with state := .failed } := by
      show (x.explain point 0).2.1 = _
      rw [hfirst]
    have hsecond : y.explain point 2 = (.ok 7, { x with state := .done }, 4) := by
      obtain ⟨-, -, hfits, -, hexplain⟩ := explain_law hmade hy point model 2
      rw [hstate] at hfits hexplain ⊢
      obtain ⟨answers, own, result, x', world', hdialogue, hrun, hjudged, hdone, -⟩ :=
        hfits frame hframe
      cases hdialogue with
      | forecast h1 hrest =>
        cases hrest with
        | forecast h2 hrest =>
          cases hrest
          cases h1
          cases h2
          have hresult := hjudged.succeeded
            (List.forall_mem_cons.2 ⟨rfl, List.forall_mem_singleton.2 rfl⟩)
          rw [hexplain, hrun, hdone _ hresult, hresult]
    exact ⟨hmade, hy, hfirst, hsecond⟩

end

end ModelProbe.Explain.Explainer

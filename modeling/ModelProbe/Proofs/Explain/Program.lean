import ModelProbe.Explain.Engine

/-! What a run comes to.

A `Dialogue` is a program with a predictor: call after call, each with the predictor's answer, up
to the result the program ends with by itself. Every program has one with every predictor, and
the program's part in it follows from the answers alone. `Judged` says what the answers and the
program's own result come to: the first failed call, whatever the program made of it, or else that
result. A run is judged so (`run_judged`). -/
namespace ModelProbe.Explain

/-- What a predictor gives for one call. -/
abbrev Answer :=
  Except ModelProbe.Error (Matrix Double)

namespace Program

variable {α σ τ : Type}

/-- A program that has made some calls makes the rest of them: the world before and after, the
answers in order, and the result the program ends with. A failure is told to the program with the
number of its call. -/
inductive Dialogue (predict : Predictor σ) :
    Program α → (made : Nat) → σ → List Answer → Except Error α → σ → Prop where
  | finish (own : Except Error α) (made : Nat) (world : σ) :
      Dialogue predict (.finish own) made world [] own world
  | forecast {window : Frame} {next : Except Error (Matrix Double) → Program α} {made : Nat}
      {world world' world'' : σ} {answer : Answer} {answers : List Answer} {own : Except Error α} :
      predict window.toInput world = (answer, world') →
      Dialogue predict (next (answer.mapError (.prediction (made + 1)))) (made + 1) world' answers
        own world'' →
      Dialogue predict (.forecast window next) made world (answer :: answers) own world''

/-- The result of a run with these answers, when the program ends with `own`. -/
structure Judged (answers : List Answer) (own result : Except Error α) : Prop where
  failed : ∀ before e later, answers = before ++ .error e :: later →
    (∀ a ∈ before, a.isOk = true) → result = .error (.prediction (before.length + 1) e)
  succeeded : (∀ a ∈ answers, a.isOk = true) → result = own

/-! ### Dialogues -/

theorem exists_dialogue (predict : Predictor σ) (program : Program α) (made : Nat) (world : σ) :
    ∃ answers own world', Dialogue predict program made world answers own world' := by
  induction program generalizing made world with
  | finish own => exact ⟨[], own, world, .finish own made world⟩
  | forecast window next ih =>
    obtain ⟨answers, own, world', h⟩ :=
      ih ((predict window.toInput world).1.mapError (.prediction (made + 1))) (made + 1)
        (predict window.toInput world).2
    exact ⟨_ :: answers, own, world', .forecast rfl h⟩

/-- With the same answers a program ends with the same result, in whatever world they were
given. -/
theorem Dialogue.own_eq {p : Predictor σ} {q : Predictor τ} {program : Program α} {made : Nat}
    {world world' : σ} {answers : List Answer} {own own' : Except Error α} {v v' : τ}
    (h : Dialogue p program made world answers own world')
    (h' : Dialogue q program made v answers own' v') : own = own' := by
  induction h generalizing v with
  | finish own made world =>
    cases h'
    rfl
  | forecast _ _ ih =>
    cases h' with
    | forecast _ hrest => exact ih hrest

/-! ### Answers -/

/-- All answers are there, or there is a first that is not. -/
theorem all_ok_or_first (answers : List Answer) :
    (∀ a ∈ answers, a.isOk = true) ∨ ∃ before e later,
      answers = before ++ .error e :: later ∧ ∀ a ∈ before, a.isOk = true := by
  induction answers with
  | nil => exact .inl fun a ha => absurd ha List.not_mem_nil
  | cons a answers ih =>
    cases a with
    | error e =>
      exact .inr ⟨[], e, answers, rfl, fun a ha => absurd ha List.not_mem_nil⟩
    | ok m =>
      rcases ih with hall | ⟨before, e, later, heq, hbefore⟩
      · exact .inl (List.forall_mem_cons.2 ⟨rfl, hall⟩)
      · exact .inr ⟨.ok m :: before, e, later, by rw [heq]; rfl,
          List.forall_mem_cons.2 ⟨rfl, hbefore⟩⟩

theorem Judged.unique {answers : List Answer} {own result result' : Except Error α}
    (h : Judged answers own result) (h' : Judged answers own result') : result = result' := by
  rcases all_ok_or_first answers with hall | ⟨before, e, later, heq, hbefore⟩
  · rw [h.succeeded hall, h'.succeeded hall]
  · rw [h.failed before e later heq hbefore, h'.failed before e later heq hbefore]

/-! ### Runs -/

/-- The count after some answers. -/
def Calls.answered (calls : Calls) (answers : List Answer) : Calls :=
  answers.foldl (fun calls a => (calls.answer a).2) calls

theorem Calls.answer_fst (calls : Calls) (a : Answer) :
    (calls.answer a).1 = a.mapError (.prediction (calls.made + 1)) := by
  cases a <;> rfl

theorem Calls.made_answer (calls : Calls) (a : Answer) :
    (calls.answer a).2.made = calls.made + 1 := by
  cases a <;> rfl

/-- Answers that are there are counted. -/
theorem Calls.answered_of_ok (calls : Calls) {answers : List Answer}
    (h : ∀ a ∈ answers, a.isOk = true) :
    calls.answered answers = ⟨calls.made + answers.length, calls.firstFailure⟩ := by
  induction answers generalizing calls with
  | nil => rfl
  | cons a answers ih =>
    obtain ⟨ha, hrest⟩ := List.forall_mem_cons.1 h
    cases a with
    | error e => cases ha
    | ok m =>
      show Calls.answered { calls with made := calls.made + 1 } answers = _
      rw [ih _ hrest, List.length_cons, Nat.add_right_comm, Nat.add_assoc]

/-- A failure that was noted stays the first. -/
theorem Calls.firstFailure_answered {calls : Calls} {failure : Nat × ModelProbe.Error}
    (h : calls.firstFailure = some failure) (answers : List Answer) :
    (calls.answered answers).firstFailure = some failure := by
  induction answers generalizing calls with
  | nil => exact h
  | cons a answers ih =>
    refine ih ?_
    cases a with
    | ok m => exact h
    | error e =>
      show calls.firstFailure.or _ = _
      rw [h, Option.some_or]

/-- The first failed call is noted with its number. -/
theorem Calls.firstFailure_of_first {before later : List Answer} {e : ModelProbe.Error}
    (h : ∀ a ∈ before, a.isOk = true) :
    (Calls.answered {} (before ++ .error e :: later)).firstFailure =
      some (before.length + 1, e) := by
  rw [answered, List.foldl_append]
  show (answered (Calls.answered {} before) (.error e :: later)).firstFailure = _
  rw [answered_of_ok {} h, Nat.zero_add]
  show (answered ⟨before.length + 1, some (before.length + 1, e)⟩ later).firstFailure = _
  exact firstFailure_answered rfl later

theorem drive_of_dialogue {predict : Predictor σ} {program : Program α} {made : Nat}
    {world world' : σ} {answers : List Answer} {own : Except Error α}
    (h : Dialogue predict program made world answers own world') (calls : Calls)
    (hmade : calls.made = made) :
    drive predict program calls world = (own, calls.answered answers, world') := by
  -- The dialogue and the run count calls alike, so the program is told the same of a failure.
  induction h generalizing calls with
  | finish own made world => rfl
  | @forecast window next made world world' world'' answer answers own hanswer _ ih =>
    have hrest := ih (calls.answer answer).2 ((calls.made_answer answer).trans (by rw [hmade]))
    rw [← hmade, ← calls.answer_fst] at hrest
    rw [drive, hanswer]
    exact hrest

/-- A run ends in the world its dialogue leaves, with the result the answers ask for. -/
theorem run_judged {predict : Predictor σ} {program : Program α} {world world' : σ}
    {answers : List Answer} {own : Except Error α}
    (h : Dialogue predict program 0 world answers own world') :
    ∃ result, run predict program world = (result, world') ∧ Judged answers own result := by
  have hdrive := drive_of_dialogue h {} rfl
  cases hfirst : (Calls.answered {} answers).firstFailure with
  | none =>
    refine ⟨own, by rw [run, hdrive]; simp only [hfirst], fun before e later heq hbefore => ?_,
      fun _ => rfl⟩
    rw [heq, Calls.firstFailure_of_first hbefore] at hfirst
    cases hfirst
  | some failure =>
    refine ⟨.error (.prediction failure.1 failure.2), by rw [run, hdrive]; simp only [hfirst],
      fun before e later heq hbefore => ?_, fun hall => ?_⟩
    · rw [heq, Calls.firstFailure_of_first hbefore, Option.some.injEq] at hfirst
      rw [← hfirst]
    · rw [Calls.answered_of_ok {} hall] at hfirst
      cases hfirst

end Program

end ModelProbe.Explain

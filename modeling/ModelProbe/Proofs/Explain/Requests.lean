import ModelProbe.Proofs.Client.Traffic
import ModelProbe.Proofs.Explain.Explainer
import ModelProbe.Proofs.Explain.RoundTrip

/-! The requests of an explanation.

An explainer that asks a client passes it the windows of its program, one after another
(`Program.windows`), whatever the answers. A watched run is the run itself with a record kept
(`Program.Dialogue.unwatched`), and the record shows what was asked and what was sent: the values
of every window in order, and one request for every window that encodes (`Traffic`), be it before
or after a call that failed. -/
namespace ModelProbe.Explain

open Program (Dialogue Judged)

variable {P α σ : Type} {c : Client σ}

/-- The windows a program asks about when it is given these answers. -/
def Program.windows : Program α → (made : Nat) → List Answer → List Frame
  | .forecast window next, made, answer :: answers =>
    window :: windows (next (answer.mapError (.prediction (made + 1)))) (made + 1) answers
  | _, _, _ => []

/-- A request about a window: its values row by row, as the one tensor. A frame's values have a
row for each of its timestamps and a column for each of its columns. -/
structure Asks (c : Client σ) (window : Frame) (request : InferRequest) : Prop where
  modelName : request.modelName = c.transport.endpoint.modelName
  modelVersion : request.modelVersion = c.transport.endpoint.modelVersion
  tensor : ∃ tensor, request.inputs = [tensor] ∧ c.codec.Lays window.values tensor ∧
    (window.Reachable → tensor.shape.dims = [window.rows, window.columns.length])

/-- Whether the client sends anything for a window. -/
def encodes (c : Client σ) (window : Frame) : Bool :=
  (c.codec.encode window.toInput).isOk

/-- What was sent for calls, each a window with the answer to it: nothing where the window does not
encode, and else one request, whose reply was decoded to the answer. -/
structure Traffic (c : Client σ) (calls : List (Frame × Answer))
    (exchanges : List (InferRequest × Reply)) : Prop where
  unsent : ∀ call ∈ calls, ∀ e, c.codec.encode call.1.toInput = .error e → call.2 = .error e
  sent : List.Forall₂ (fun call exchange =>
      Asks c call.1 exchange.1 ∧ call.2 = exchange.2.bind Codec.decode)
    (calls.filter fun call => encodes c call.1) exchanges

/-! ### One call -/

variable {window : Frame} {calls : List (Frame × Answer)}
  {exchanges : List (InferRequest × Reply)}

theorem Traffic.nil : Traffic c [] [] :=
  ⟨nofun, .nil⟩

theorem Traffic.cons_unsent {e : ModelProbe.Error} (he : c.codec.encode window.toInput = .error e)
    (h : Traffic c calls exchanges) : Traffic c ((window, .error e) :: calls) exchanges := by
  refine ⟨List.forall_mem_cons.2 ⟨fun e' he' => ?_, h.unsent⟩, ?_⟩
  · cases he.symm.trans he'
    rfl
  · rw [List.filter_cons_of_neg (by simp [encodes, he, Except.isOk, Except.toBool])]
    exact h.sent

theorem Traffic.cons_sent {tensor : Tensor} (ht : c.codec.encode window.toInput = .ok tensor)
    {request : InferRequest} (hask : Asks c window request) (reply : Reply)
    (h : Traffic c calls exchanges) :
    Traffic c ((window, reply.bind Codec.decode) :: calls) ((request, reply) :: exchanges) := by
  refine ⟨List.forall_mem_cons.2 ⟨fun e he => ?_, h.unsent⟩, ?_⟩
  · cases ht.symm.trans he
  · rw [List.filter_cons_of_pos (by simp [encodes, ht, Except.isOk, Except.toBool])]
    exact .cons ⟨hask, rfl⟩ h.sent

theorem asks_of_encode {tensor : Tensor} (ht : c.codec.encode window.toInput = .ok tensor)
    (world : σ) : Asks c window (c.ask world tensor) := by
  have hlays : c.codec.Lays window.values tensor := Codec.lays_of_encode ht
  refine ⟨rfl, rfl, tensor, rfl, hlays, fun hwindow => ?_⟩
  obtain ⟨-, hrows, hcols⟩ := hwindow.regular.sized
  rw [hlays.dims, hrows, hcols]
  rfl

/-- **A call to a watched client** is the call itself, and puts down its input and its one request,
if it sends one. -/
theorem watched_call {w w' : Tapped σ} {answer : Answer}
    (h : c.watched window.toInput w = (answer, w')) :
    c.predict window.toInput w.world = (answer, w'.world) ∧
      w'.inputs = w.inputs ++ [window.toInput] ∧
      ∃ exchanges, w'.exchanges = w.exchanges ++ exchanges ∧
        ∀ calls later, Traffic c calls later →
          Traffic c ((window, answer) :: calls) (exchanges ++ later) := by
  cases ht : c.codec.encode window.toInput with
  | error e =>
    obtain ⟨hwatched, hpredict⟩ := Client.watched_of_error ht w
    cases hwatched.symm.trans h
    exact ⟨hpredict, rfl, [], (List.append_nil _).symm, fun _ _ => Traffic.cons_unsent ht⟩
  | ok tensor =>
    obtain ⟨reply, world', -, hwatched, hpredict⟩ := Client.watched_of_ok ht w
    cases hwatched.symm.trans h
    exact ⟨hpredict, rfl, [(c.ask w.world tensor, reply)], rfl,
      fun _ _ => Traffic.cons_sent ht (asks_of_encode ht w.world) reply⟩

/-! ### Many calls -/

/-- **A watched program** makes the calls it makes unwatched, and leaves a record of them. -/
theorem Program.Dialogue.unwatched {program : Program α} {made : Nat} {w w' : Tapped σ}
    {answers : List Answer} {own : Except Error α}
    (h : Dialogue c.watched program made w answers own w') :
    Dialogue c.predict program made w.world answers own w'.world ∧
      (program.windows made answers).length = answers.length ∧
      w'.inputs = w.inputs ++ (program.windows made answers).map Frame.toInput ∧
      ∃ exchanges, w'.exchanges = w.exchanges ++ exchanges ∧
        Traffic c ((program.windows made answers).zip answers) exchanges := by
  induction h with
  | finish own made w =>
    exact ⟨.finish own made w.world, rfl, (List.append_nil _).symm, [], (List.append_nil _).symm,
      .nil⟩
  | @forecast window next made w w₁ w₂ answer answers own hcall _ ih =>
    obtain ⟨hpredict, hinputs, first, hfirst, hcons⟩ := watched_call hcall
    obtain ⟨hrest, hlength, hinputs', later, hlater, htraffic⟩ := ih
    refine ⟨.forecast hpredict hrest, congrArg (· + 1) hlength, ?_, first ++ later, ?_,
      hcons _ _ htraffic⟩
    · rw [hinputs', hinputs, List.append_assoc]
      rfl
    · rw [hlater, hfirst, List.append_assoc]

namespace Explainer

/-- The explainer, asking the watched client instead. -/
def watching (y : Explainer P α σ) (c : Client σ) : Explainer P α (Tapped σ) :=
  ⟨y.engine, y.params, y.framing, c.watched, y.state⟩

/-- **The requests of an explanation.** -/
theorem explain_requests {y : Explainer P α σ} (hmodel : y.model = c.predict) {point : Table}
    {frame : Frame} (hpoint : y.prepare point = .ok frame) (w : Tapped σ) :
    let program := y.engine.explain y.params frame
    ∃ answers own result w' exchanges,
      Dialogue c.watched program 0 w answers own w' ∧
      (y.watching c).explain point w = (result, { y.watching c with state := after result }, w') ∧
      y.explain point w.world = (result, { y with state := after result }, w'.world) ∧
      Judged answers own result ∧
      (program.windows 0 answers).length = answers.length ∧
      w'.inputs = w.inputs ++ (program.windows 0 answers).map (fun window => .fp64 window.values) ∧
      w'.exchanges = w.exchanges ++ exchanges ∧
      Traffic c ((program.windows 0 answers).zip answers) exchanges := by
  intro program
  obtain ⟨answers, own, w', hdialogue⟩ := Program.exists_dialogue c.watched program 0 w
  obtain ⟨hplain, hlength, hinputs, exchanges, hexchanges, htraffic⟩ := hdialogue.unwatched
  have hwatching : (y.watching c).prepare point = .ok frame :=
    (prepare_eq rfl rfl rfl point).trans hpoint
  obtain ⟨result, hrun, hjudged⟩ := explainWith_of_ok hwatching hdialogue
  obtain ⟨result', hrun', hjudged'⟩ := explainWith_of_ok hpoint hplain
  cases hjudged.unique hjudged'
  have hexplain : y.explain point w.world = y.explainWith point c.predict w.world :=
    congrArg (y.explainWith point · w.world) hmodel
  exact ⟨answers, own, result, w', exchanges, hdialogue, hrun, hexplain.trans hrun', hjudged,
    hlength, hinputs, hexchanges, htraffic⟩

/-- A program that goes on after a call that sends nothing and ends well. Its second call fails for
a value that no single equals, so the two requests are those of the first call and the third, and
the failure is that of call 2. -/
theorem explain_requests_unencodable :
    let c : Client Nat := ⟨⟨"echo", ⟨"localhost", "m", none⟩,
      fun request n => (.ok ⟨"m", none, none, request.inputs⟩, n + 1), fun n => (.ok true, n)⟩,
      ⟨"x", some .fp32⟩, fun _ => "id"⟩
    let frame := Frame.series [60, 61] [3, 1]
    let tenths : Frame := { frame with values := ⟨2, 1, [⟨0x3fb999999999999a⟩, .zero]⟩ }
    let engine : Engine Unit Nat := ⟨fun _ => .ok (), fun _ => ⟨2, .exactly 1⟩, fun _ frame =>
      .forecast frame fun _ => .forecast tenths fun _ => .forecast frame fun _ => .finish (.ok 7)⟩
    let y : Explainer Unit Nat Nat := ⟨engine, (), ⟨"at", none⟩, c.predict, .configured⟩
    y.prepare (Frame.readings [60, 61] [3, 1]) = .ok frame ∧ ∃ e w',
      ((y.watching c).explain (Frame.readings [60, 61] [3, 1]) ⟨0, [], []⟩).1 =
        .error (.prediction 2 e) ∧
      ((y.watching c).explain (Frame.readings [60, 61] [3, 1]) ⟨0, [], []⟩).2.2 = w' ∧
      w'.inputs = [frame.toInput, tenths.toInput, frame.toInput] ∧ w'.exchanges.length = 2 := by
  intro c frame tenths engine y
  have hframe : Frame.ofTable (Frame.readings [60, 61] [3, 1]) "at" none = .ok frame := by
    refine Frame.ofTable_eq_ok_iff_steps.2 ⟨_, frame.timestamps, _, rfl,
      Time.toOption_eq_some (by decide +kernel), rfl, ?_⟩
    have horder : Frame.sortedRows frame.timestamps = [0, 1] :=
      Frame.sortedRows_of_pairwise (by decide +kernel)
    simp only [Frame.sorted, horder]
    rfl
  have hpoint : y.prepare (Frame.readings [60, 61] [3, 1]) = .ok frame := hframe
  obtain ⟨answers, own, result, w', exchanges, hdialogue, hrun, -, hjudged, -, hinputs, hexchanges,
    htraffic⟩ := explain_requests rfl hpoint ⟨0, [], []⟩
  have hsends : encodes c frame = true := by decide +kernel
  have hunsent : encodes c tenths = false := by decide +kernel
  cases hdialogue with
  | @forecast _ _ _ _ _ _ a₁ _ _ h₁ hrest =>
    cases hrest with
    | @forecast _ _ _ _ _ _ a₂ _ _ h₂ hrest =>
      cases hrest with
      | @forecast _ _ _ _ _ _ a₃ _ _ h₃ hrest =>
        cases hrest
        have htraffic : Traffic c [(frame, a₁), (tenths, a₂), (frame, a₃)] exchanges := htraffic
        have hfirst : a₁.isOk = true := by
          have hanswer : (c.watched frame.toInput ⟨0, [], []⟩).1.isOk = true := by decide +kernel
          rwa [h₁] at hanswer
        have hcount := htraffic.sent.length_eq
        simp only [List.filter, hsends, hunsent] at hcount
        cases he : c.codec.encode tenths.toInput with
        | ok tensor =>
          rw [encodes, he] at hunsent
          cases hunsent
        | error e =>
          have hsecond : a₂ = .error e := htraffic.unsent (tenths, a₂) (by simp) e he
          have hresult := hjudged.failed [a₁] e [a₃] (by rw [hsecond]; rfl)
            (List.forall_mem_singleton.2 hfirst)
          refine ⟨hpoint, e, w', ?_, ?_, hinputs, ?_⟩
          · rw [hrun, hresult]
            rfl
          · rw [hrun]
          · rw [hexchanges]
            exact hcount.symm

end Explainer

end ModelProbe.Explain

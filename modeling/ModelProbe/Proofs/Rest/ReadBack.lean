import ModelProbe.Proofs.Json.Records
import ModelProbe.Proofs.Rest.Document

/-! Response documents written again.

One response has many texts: its records are objects with their fields in any order and with other
keys between, or arrays of their fields, and what is none is null or left out. All these spellings
are read as that response (`ResponseDocument.Spells.parse?_text`), and the text that is written is
one of them. So a response that was read, whatever form its text had, is read back from its own text
(`ResponseDocument.reserialized`). Its data must hold no double: the digits of doubles are read in
double arithmetic, which may give a neighbour of the double that was written. -/
namespace ModelProbe.Rest

open Json (Tree Slot Value HasFields Written WrittenItems)

/-! ### Fields -/

/-- What may stand in place of an optional text. -/
inductive OptionalText : Option String → Option Value → Prop where
  | given (s : String) : OptionalText (some s) (some (.string s))
  | null : OptionalText none (some .null)
  | absent : OptionalText none none

/-- What may stand in place of a text that is empty unless it is given. -/
inductive DefaultText : String → Option Value → Prop where
  | given (s : String) : DefaultText s (some (.string s))
  | absent : DefaultText "" none

/-- The dimensions of a tensor as an array. -/
def shapeValue (dims : List Int64) : Value :=
  .array (dims.map fun d => .int d.toInt)

theorem whole_member (key : String) (v : Option String) :
    ∀ m ∈ member key v, m.2.whole = true := by
  cases v with
  | none => exact List.forall_mem_nil _
  | some s => exact List.forall_mem_singleton.2 rfl

theorem keys_member (key : String) (v : Option String) :
    ((member key v).map Prod.fst).Sublist [key] := by
  cases v with
  | none => exact List.nil_sublist _
  | some s => exact .refl _

/-- No name stands twice among some of them. -/
theorem count_le_one_of_sublist {names keys : List String} (hnames : names.Nodup)
    (h : keys.Sublist names) : ∀ name ∈ names, keys.count name ≤ 1 :=
  fun name _ => List.nodup_iff_count_le_one.1 (h.nodup hnames) name

theorem optionalText_string (s : Option String) : OptionalText s (s.map .string) := by
  cases s with
  | none => exact .absent
  | some s => exact .given s

section Slots

variable {slot : Slot}

theorem required_string {s : String} (h : slot.Holds (some (.string s))) :
    slot.required Tree.string? = some s := by
  cases h with
  | given h =>
    cases h
    rfl

theorem OptionalText.read {s : Option String} {field : Option Value} (h : OptionalText s field)
    (hslot : slot.Holds field) : slot.optional Tree.string? = some s := by
  cases h with
  | given s =>
    cases hslot with
    | given h =>
      cases h
      rfl
  | null =>
    cases hslot with
    | given h =>
      cases h
      rfl
  | absent =>
    cases hslot
    rfl

theorem DefaultText.read {s : String} {field : Option Value} (h : DefaultText s field)
    (hslot : slot.Holds field) : slot.default "" Tree.string? = some s := by
  cases h with
  | given s =>
    cases hslot with
    | given h =>
      cases h
      rfl
  | absent =>
    cases hslot
    rfl

theorem int64?_ofInt (d : Int64) : Tree.int64? (.number (.ofInt d.toInt)) = some d := by
  have hlow := d.le_toInt
  have hhigh := d.toInt_lt
  have hread : (Json.Literal.ofInt d.toInt).number? = some (.integer d.toInt) :=
    Json.Literal.number?_ofInt ⟨hlow, by omega⟩
  show (Json.Literal.ofInt d.toInt).number?.bind Json.Number.int64? = some d
  rw [hread, Option.bind_some, Json.Number.int64?_integer]

theorem mapM_int64? {dims : List Int64} {trees : List Tree}
    (h : WrittenItems (dims.map fun d => .int d.toInt) trees) :
    trees.mapM Tree.int64? = some dims := by
  induction dims generalizing trees with
  | nil =>
    cases h
    rfl
  | cons d dims ih =>
    cases h with
    | cons hfirst hrest =>
      cases hfirst
      rw [List.mapM_cons, int64?_ofInt, ih hrest]
      rfl

theorem required_shape {dims : List Int64} (h : slot.Holds (some (shapeValue dims))) :
    slot.required (Tree.list? Tree.int64?) = some dims := by
  cases h with
  | given h =>
    cases h with
    | array hitems => exact mapM_int64? hitems

theorem required_data {room : Nat} {data : Value} (hdata : data.Settled room)
    (h : slot.Holds (some data)) : slot.required (valueWithin? room) = some data := by
  cases h with
  | given h =>
    obtain ⟨hvalue, hdepth⟩ := hdata.gives _ h
    exact (if_pos hdepth).trans hvalue

end Slots

/-! ### Tensors -/

namespace TensorDocument

/-- The value is the document, with its fields in one of the forms they may have. -/
def Spells (doc : TensorDocument) (v : Value) : Prop :=
  ∃ datatype, OptionalText doc.datatype datatype ∧
    HasFields ["name", "shape", "datatype", "data"] v
      [some (.string doc.name), some (shapeValue doc.shape), datatype, some doc.data]

theorem spells_toJson (doc : TensorDocument) : doc.Spells doc.toJson := by
  obtain ⟨name, shape, datatype, data⟩ := doc
  have hkeys : (["name", "shape"] ++ (member "datatype" datatype).map Prod.fst ++ ["data"]).Sublist
      (["name", "shape"] ++ ["datatype"] ++ ["data"]) :=
    ((keys_member "datatype" datatype).append_left _).append_right _
  have honce := count_le_one_of_sublist (by decide) hkeys
  refine ⟨_, optionalText_string datatype, ?_⟩
  cases datatype <;> exact .object honce

theorem whole_toJson {doc : TensorDocument} (h : doc.data.whole = true) :
    doc.toJson.whole = true := by
  have hshape : (shapeValue doc.shape).whole = true :=
    Json.itemsWhole_iff.2 (List.forall_mem_map.2 fun _ _ => rfl)
  refine Json.membersWhole_iff.2 (List.forall_mem_append.2 ⟨List.forall_mem_append.2 ⟨?_, ?_⟩, ?_⟩)
  · exact List.forall_mem_cons.2 ⟨rfl, List.forall_mem_singleton.2 hshape⟩
  · exact whole_member "datatype" doc.datatype
  · exact List.forall_mem_singleton.2 h

theorem Spells.ofTree? {doc : TensorDocument} {v : Value} {t : Tree} {room : Nat}
    (h : doc.Spells v) (hdata : doc.data.Settled (room - 1)) (hwritten : Written v t) :
    TensorDocument.ofTree? room t = some doc := by
  obtain ⟨datatype, hdatatype, hfields⟩ := h
  obtain ⟨slots, hslots, hholds⟩ := hfields.slots? hwritten
  -- One slot for each name, in the order of the names.
  obtain _ | ⟨hname, _ | ⟨hshape, _ | ⟨htag, _ | ⟨hvalue, ⟨⟩⟩⟩⟩⟩ := hholds
  rw [TensorDocument.ofTree?, hslots]
  simp only [required_string hname, required_shape hshape, hdatatype.read htag,
    required_data hdata hvalue]
  rfl

theorem mapM_ofTree? {room : Nat} {docs : List TensorDocument} {items : List Value}
    {trees : List Tree} (h : List.Forall₂ Spells docs items)
    (hdata : ∀ doc ∈ docs, doc.data.Settled (room - 1)) (hwritten : WrittenItems items trees) :
    trees.mapM (TensorDocument.ofTree? room) = some docs := by
  induction h generalizing trees with
  | nil =>
    cases hwritten
    rfl
  | cons hfirst _ ih =>
    obtain ⟨hdoc, hdocs⟩ := List.forall_mem_cons.1 hdata
    cases hwritten with
    | cons htree htrees =>
      rw [List.mapM_cons, hfirst.ofTree? hdoc htree, ih hdocs htrees]
      rfl

theorem required_list (room : Nat) {docs : List TensorDocument} {items : List Value} {slot : Slot}
    (h : List.Forall₂ Spells docs items) (hdata : ∀ doc ∈ docs, doc.data.Settled (room - 1))
    (hslot : slot.Holds (some (.array items))) :
    slot.required (Tree.list? (TensorDocument.ofTree? room)) = some docs := by
  cases hslot with
  | given hwritten =>
    cases hwritten with
    | array htrees => exact mapM_ofTree? h hdata htrees

end TensorDocument

/-! ### Responses -/

namespace ResponseDocument

variable {doc : ResponseDocument}

/-- The value is the document, with its fields and those of its tensors in one of the forms they may
have. -/
def Spells (doc : ResponseDocument) (v : Value) : Prop :=
  ∃ modelName modelVersion id outputs, DefaultText doc.modelName modelName ∧
    OptionalText doc.modelVersion modelVersion ∧ OptionalText doc.id id ∧
    List.Forall₂ TensorDocument.Spells doc.outputs outputs ∧
    HasFields ["model_name", "model_version", "id", "outputs"] v
      [modelName, modelVersion, id, some (.array outputs)]

theorem spells_toJson (doc : ResponseDocument) : doc.Spells doc.toJson := by
  have houtputs : List.Forall₂ TensorDocument.Spells doc.outputs
      (doc.outputs.map TensorDocument.toJson) :=
    List.forall₂_map_right_iff.2 (List.forall₂_same.2 fun output _ => output.spells_toJson)
  obtain ⟨modelName, modelVersion, id, outputs⟩ := doc
  have hkeys : (["model_name"] ++ ((member "model_version" modelVersion).map Prod.fst ++
      (member "id" id).map Prod.fst ++ ["outputs"])).Sublist
        (["model_name"] ++ (["model_version"] ++ ["id"] ++ ["outputs"])) :=
    ((((keys_member "model_version" modelVersion).append (keys_member "id" id))).append_right
      _).append_left _
  have honce := count_le_one_of_sublist (by decide) hkeys
  refine ⟨_, _, _, _, .given modelName, optionalText_string modelVersion, optionalText_string id,
    houtputs, ?_⟩
  cases modelVersion <;> cases id <;> exact .object honce

theorem whole_toJson (h : ∀ output ∈ doc.outputs, output.data.whole = true) :
    doc.toJson.whole = true := by
  have houtputs : (Value.array (doc.outputs.map TensorDocument.toJson)).whole = true :=
    Json.itemsWhole_iff.2 (List.forall_mem_map.2 fun output houtput =>
      TensorDocument.whole_toJson (h output houtput))
  refine Json.membersWhole_iff.2 (List.forall_mem_cons.2 ⟨rfl, List.forall_mem_append.2
    ⟨List.forall_mem_append.2 ⟨?_, ?_⟩, ?_⟩⟩)
  · exact whole_member "model_version" doc.modelVersion
  · exact whole_member "id" doc.id
  · exact List.forall_mem_singleton.2 houtputs

/-- **Every spelling of a response is read as that response.** -/
theorem Spells.parse?_text {v : Value} (h : doc.Spells v) (hwhole : v.whole = true)
    (hdata : ∀ output ∈ doc.outputs, output.data.Settled (maxDepth - 3)) :
    parse? v.text = some doc := by
  obtain ⟨modelName, modelVersion, id, outputs, hname, hversion, hid, houtputs, hfields⟩ := h
  obtain ⟨t, hwritten⟩ := Json.exists_written v hwhole
  obtain ⟨slots, hslots, hholds⟩ := hfields.slots? hwritten
  obtain _ | ⟨hnameHeld, _ | ⟨hversionHeld, _ | ⟨hidHeld, _ | ⟨houtputsHeld, ⟨⟩⟩⟩⟩⟩ := hholds
  have hread := TensorDocument.required_list (maxDepth - 2) houtputs hdata houtputsHeld
  rw [parse?, hwritten.parse?_text, Option.bind_some, ofTree?, hslots]
  simp only [hname.read hnameHeld, hversion.read hversionHeld, hid.read hidHeld, hread]
  rfl

/-- What was read without doubles is settled. -/
theorem settled_of_parse? {text : String} (h : parse? text = some doc) {output : TensorDocument}
    (houtput : output ∈ doc.outputs) (hwhole : output.data.whole = true) :
    output.data.Settled (maxDepth - 3) := by
  obtain ⟨data, hdata⟩ := exists_data_of_parse? h output houtput
  obtain ⟨hdepth, hvalue⟩ := Option.ite_none_right_eq_some.1 hdata
  exact (Json.settled_of_value? hvalue hwhole).mono hdepth

/-- **Responses written again.** The responses without doubles that can be read are those whose data
are settled and no deeper than the reader allows. Each of them, whatever text it was read from, is
read from its own text again and is then written as that text, and it is read from every other
spelling too. -/
theorem reserialized (hwhole : ∀ output ∈ doc.outputs, output.data.whole = true) :
    ((∃ text, parse? text = some doc) ↔
      ∀ output ∈ doc.outputs, output.data.Settled (maxDepth - 3)) ∧
    ∀ text, parse? text = some doc →
      parse? doc.toJson.text = some doc ∧
      (parse? doc.toJson.text).map (fun again => again.toJson.text) = some doc.toJson.text ∧
      ∀ v, doc.Spells v → v.whole = true → parse? v.text = some doc := by
  have hsettled : ∀ text, parse? text = some doc →
      ∀ output ∈ doc.outputs, output.data.Settled (maxDepth - 3) :=
    fun text h output houtput => settled_of_parse? h houtput (hwhole output houtput)
  have hown (hdata : ∀ output ∈ doc.outputs, output.data.Settled (maxDepth - 3)) :
      parse? doc.toJson.text = some doc :=
    doc.spells_toJson.parse?_text (whole_toJson hwhole) hdata
  refine ⟨⟨fun ⟨text, h⟩ => hsettled text h, fun hdata => ⟨_, hown hdata⟩⟩, fun text h => ?_⟩
  have hread := hown (hsettled text h)
  exact ⟨hread, by rw [hread, Option.map_some], fun v hspells hv =>
    hspells.parse?_text hv (hsettled text h)⟩

/-- A response as an array of its fields, with null for a version, an identifier in escapes and two
tensors: one an object with an unknown key and with data in which a key stands twice, one an
array. -/
def arrayForm : String :=
  "[\"m\",null,\"\\ud83d\\ude00\\t\",[\x7b\"x\":1.5,\"data\":\x7b\"b\":0.5,\"b\":-7\x7d," ++
    "\"shape\":[2],\"name\":\"y\"\x7d,[\"z\",[],null,[true]]]]"

/-- The text that response is written as. -/
def objectForm : String :=
  "\x7b\"model_name\":\"m\",\"id\":\"😀\\t\",\"outputs\":[\x7b\"name\":\"y\",\"shape\":[2]," ++
    "\"data\":\x7b\"b\":-7\x7d\x7d,\x7b\"name\":\"z\",\"shape\":[],\"data\":[true]\x7d]\x7d"

theorem reserialized_arrayForm : ∃ doc, parse? arrayForm = some doc ∧
    (∀ output ∈ doc.outputs, output.data.whole = true) ∧ doc.toJson.text = objectForm ∧
    (∀ output ∈ doc.outputs, output.data.Settled (maxDepth - 3)) ∧
    parse? objectForm = some doc ∧
    (parse? objectForm).map (fun again => again.toJson.text) = some objectForm ∧
    ∀ v, doc.Spells v → v.whole = true → parse? v.text = some doc := by
  have hread : (parse? arrayForm).map (fun doc =>
      (doc.outputs.all fun output => output.data.whole, doc.toJson.text)) =
        some (true, objectForm) := by decide +kernel
  obtain ⟨doc, hdoc, heq⟩ := Option.map_eq_some_iff.1 hread
  obtain ⟨hwhole, htext⟩ := Prod.mk.inj heq
  have hwhole : ∀ output ∈ doc.outputs, output.data.whole = true := List.all_eq_true.1 hwhole
  obtain ⟨hreadable, hforms⟩ := reserialized hwhole
  obtain ⟨hown, hagain, hspellings⟩ := hforms arrayForm hdoc
  rw [htext] at hown hagain
  exact ⟨doc, hdoc, hwhole, htext, hreadable.1 ⟨arrayForm, hdoc⟩, hown, hagain, hspellings⟩

end ResponseDocument

end ModelProbe.Rest

import Verdict.Proofs.Expr.Json
import Verdict.Proofs.Value.Plain
import Verdict.Registry.Config
import Verdict.Selection.Query
import Verdict.Validation.Constraint

/-
  Records as documents and back. Lists and maps are read item by item, in their order
  (`readList_array`, `readMap_object`), and the members of a written record fill its draft one
  after the other. So a record is read as it was written, but for its operator, whose leaves are
  read as text, and for reals that are not finite: `Query.read_toJson`, `Candidate.read_toJson`,
  `Constraint.read_toJson`, and `Config.read_toJson`, where nothing is lost. Only a leaf that is no
  text of an expression has a record refused.
-/
namespace Verdict

namespace Json

universe u

variable {α β δ : Type u}

/-! ## Lists and maps -/

theorem readAll_sources {read : Source → Except Fault α} {toJson : β → Json} {g : β → α}
    {bs : List β} (h : ∀ b ∈ bs, read (toJson b).source = .ok (g b)) :
    readAll read (sources (bs.map toJson)) = .ok (bs.map g) := by
  induction bs with
  | nil => rfl
  | cons b bs ih =>
    obtain ⟨hb, hbs⟩ := List.forall_mem_cons.1 h
    rw [List.map_cons, sources, readAll, hb, ih hbs, List.map_cons]

/-- Items that are each read as what they were are read as the list that they were. -/
theorem readList_array {read : Source → Except Fault α} {toJson : α → Json} {as : List α}
    (h : ∀ a ∈ as, read (toJson a).source = .ok a) :
    readList read (Json.array (as.map toJson)).source = .ok as :=
  (readAll_sources (g := id) h).trans (congrArg Except.ok (List.map_id as))

theorem readMap_object {read : Source → Except Fault α} {toJson : β → Json} {g : β → α}
    {es : List (String × β)} (h : ∀ e ∈ es, read (toJson e.2).source = .ok (g e.2)) :
    readMap read (Json.object (es.map fun e => (e.1, toJson e.2))).source =
      .ok (es.map fun e => (e.1, g e.2)) := by
  have hnames : (memberSources (es.map fun e => (e.1, toJson e.2))).map Prod.fst =
      es.map Prod.fst := by simp [memberSources_eq_map]
  have hitems : (memberSources (es.map fun e => (e.1, toJson e.2))).map Prod.snd =
      sources ((es.map Prod.snd).map toJson) := by simp [memberSources_eq_map, sources_eq_map]
  have hread : readAll read (sources ((es.map Prod.snd).map toJson)) =
      .ok ((es.map Prod.snd).map g) := by
    refine readAll_sources fun b hb => ?_
    obtain ⟨e, he, rfl⟩ := List.mem_map.1 hb
    exact h e he
  rw [source, readMap, hnames, hitems, hread, List.map_map]
  simp [List.zip_map', Function.comp_def]

theorem readMap_object_self {read : Source → Except Fault α} {toJson : α → Json}
    {es : List (String × α)} (h : ∀ e ∈ es, read (toJson e.2).source = .ok e.2) :
    readMap read (Json.object (es.map fun e => (e.1, toJson e.2))).source = .ok es :=
  (readMap_object (g := id) h).trans (congrArg Except.ok (List.map_id es))

/-! ## Members -/

/-- The members of a written record are put into the draft one after the other. -/
theorem readRecord_object (fields : List String) (put : δ → String → Source → Except Fault δ)
    (d : δ) (ms : List (String × Json)) :
    readRecord fields put d (Json.object ms).source =
      ms.foldlM (fun d m => put d m.1 m.2.source) d := by
  rw [source, readRecord]
  induction ms generalizing d with
  | nil => rfl
  | cons m ms ih =>
    rw [memberSources, putAll, isBroken_source, if_neg Bool.false_ne_true, List.foldlM_cons]
    cases put d m.1 m.2.source with
    | error fault => rfl
    | ok d => exact ih d

end Json

/-! ## Expressions in records -/

namespace Expr

theorem read_source (j : Json) : (read j.source).toOption = (ofJson j).toOption := by
  rw [read, Json.document?_source]
  dsimp only
  cases ofJson j with
  | ok e => rfl
  | error why => cases why <;> rfl

theorem read_source_eq_ok_iff (j : Json) (e : Expr) : read j.source = .ok e ↔ ofJson j = .ok e := by
  rw [← toOption_eq_some_iff, read_source, toOption_eq_some_iff]

theorem read_toJson_eq_ok_iff (e f : Expr) :
    read e.toJson.source = .ok f ↔ e.normal? = some f := by
  rw [read_source_eq_ok_iff, ofJson_toJson_eq_ok_iff_normal?]

theorem map_read_toJson_eq_ok_iff {α : Type} (f : Expr → α) (e : Expr) (a : α) :
    (read e.toJson.source).map f = .ok a ↔ ∃ e', e.normal? = some e' ∧ f e' = a := by
  simp only [← read_toJson_eq_ok_iff]
  cases read e.toJson.source <;> simp [Except.map]

/-- A record that is made from an expression is refused when a leaf of the expression is. -/
theorem map_read_toJson_eq_error_iff {α : Type} (f : Expr → α) (e : Expr) :
    (∃ fault, (read e.toJson.source).map f = .error fault) ↔
      ∃ s ∈ e.leaves, ∃ error, parse s = .error error := by
  rw [← normal?_eq_none_iff, ← toOption_ofJson_toJson, ← read_source, toOption_eq_none_iff]
  cases read e.toJson.source <;> simp [Except.map]

end Expr

/-! ## Queries -/

namespace Query

/-- A query is read from what stands for its parts. -/
theorem read_object (attr : String) (j w : Json) :
    read (Json.object [("attribute", .text attr), ("operator", j), ("value", w)]).source =
      (Expr.read j.source).map fun e => ⟨attr, e, Value.ofJson w⟩ := by
  have hattr : Json.readString (Json.text attr).source = .ok attr := rfl
  have hvalue : Value.read w.source = .ok (Value.ofJson w) :=
    Value.read_of_document? (Json.document?_source w)
  rw [read, Json.readRecord_object]
  simp only [List.foldlM_cons, List.foldlM_nil, Draft.put, Json.fill, hattr, hvalue]
  cases Expr.read j.source with
  | error fault => rfl
  | ok e => rfl

theorem read_toJson (q : Query) :
    read q.toJson.source =
      (Expr.read q.operator.toJson.source).map fun e => ⟨q.attr, e, q.value.finitePart⟩ := by
  rw [toJson, read_object, Value.ofJson_toJson]

theorem read_toJson_eq_ok_iff (q q' : Query) :
    read q.toJson.source = .ok q' ↔
      q'.attr = q.attr ∧ q.operator.normal? = some q'.operator ∧
        q'.value = q.value.finitePart := by
  rw [read_toJson, Expr.map_read_toJson_eq_ok_iff]
  constructor
  · rintro ⟨e, he, rfl⟩
    exact ⟨rfl, he, rfl⟩
  · rintro ⟨hattr, hoperator, hvalue⟩
    exact ⟨q'.operator, hoperator, by rw [← hattr, ← hvalue]⟩

theorem read_toJson_eq_error_iff (q : Query) :
    (∃ fault, read q.toJson.source = .error fault) ↔
      ∃ s ∈ q.operator.leaves, ∃ error, Expr.parse s = .error error := by
  rw [read_toJson, Expr.map_read_toJson_eq_error_iff]

/-- A query whose leaves stand for themselves and whose value is finite is read as it is. -/
theorem read_toJson_self {q : Query} (hoperator : q.operator.Settled)
    (hvalue : q.value.isFinite = true) : read q.toJson.source = .ok q :=
  (read_toJson_eq_ok_iff q q).2 ⟨rfl, (Expr.normal?_eq_self_iff q.operator).2 hoperator,
    (Value.finitePart_of_isFinite q.value hvalue).symm⟩

end Query

/-! ## Constraints -/

namespace Constraint

/-- A constraint is read from what stands for its parts. -/
theorem read_object (typeKey : String) (j w : Json) :
    read (Json.object [("type_key", .text typeKey), ("operator", j), ("bound", w)]).source =
      (Expr.read j.source).map fun e => ⟨typeKey, e, Value.ofJson w⟩ := by
  have hkey : Json.readString (Json.text typeKey).source = .ok typeKey := rfl
  have hbound : Value.read w.source = .ok (Value.ofJson w) :=
    Value.read_of_document? (Json.document?_source w)
  rw [read, Json.readRecord_object]
  simp only [List.foldlM_cons, List.foldlM_nil, Draft.put, Json.fill, hkey, hbound]
  cases Expr.read j.source with
  | error fault => rfl
  | ok e => rfl

theorem read_toJson (c : Constraint) :
    read c.toJson.source =
      (Expr.read c.operator.toJson.source).map fun e => ⟨c.typeKey, e, c.bound.finitePart⟩ := by
  rw [toJson, read_object, Value.ofJson_toJson]

theorem read_toJson_eq_ok_iff (c c' : Constraint) :
    read c.toJson.source = .ok c' ↔
      c'.typeKey = c.typeKey ∧ c.operator.normal? = some c'.operator ∧
        c'.bound = c.bound.finitePart := by
  rw [read_toJson, Expr.map_read_toJson_eq_ok_iff]
  constructor
  · rintro ⟨e, he, rfl⟩
    exact ⟨rfl, he, rfl⟩
  · rintro ⟨hkey, hoperator, hbound⟩
    exact ⟨c'.operator, hoperator, by rw [← hkey, ← hbound]⟩

theorem read_toJson_eq_error_iff (c : Constraint) :
    (∃ fault, read c.toJson.source = .error fault) ↔
      ∃ s ∈ c.operator.leaves, ∃ error, Expr.parse s = .error error := by
  rw [read_toJson, Expr.map_read_toJson_eq_error_iff]

end Constraint

/-! ## Candidates -/

namespace Candidate

theorem read_toJson (c : Candidate) :
    read c.toJson.source = .ok ⟨c.id, c.metadata.map Value.finitePart⟩ := by
  have hid : Json.readString (Json.text c.id).source = .ok c.id := rfl
  have hmetadata : Json.readMap Value.read
      (Json.object (c.metadata.entries.map fun e => (e.1, e.2.toJson))).source =
        .ok (c.metadata.entries.map fun e => (e.1, e.2.finitePart)) :=
    Json.readMap_object fun e _ => Value.read_toJson e.2
  rw [read, toJson, Json.readRecord_object]
  simp only [List.foldlM_cons, List.foldlM_nil, Draft.put, Json.fill, hid, hmetadata]
  show Except.ok (⟨c.id, .ofList (c.metadata.map Value.finitePart).entries⟩ : Candidate) = _
  rw [OrderedMap.ofList_entries]

/-- A candidate whose values are finite is read as it is. -/
theorem read_toJson_self {c : Candidate}
    (h : ∀ e ∈ c.metadata.entries, e.2.isFinite = true) : read c.toJson.source = .ok c := by
  have hmetadata : c.metadata.map Value.finitePart = c.metadata :=
    OrderedMap.map_eq_self fun e he => Value.finitePart_of_isFinite e.2 (h e he)
  rw [read_toJson, hmetadata]

end Candidate

/-! ## Configurations -/

namespace Config

theorem read_toJson (c : Config) : read c.toJson.source = .ok c := by
  have haliases : Json.readMap Json.readString
      (Json.object (c.aliases.entries.map fun e => (e.1, .text e.2))).source =
        .ok c.aliases.entries := Json.readMap_object_self fun _ _ => rfl
  have hdisabled : Json.readList Json.readString (Json.ofTexts c.disabled).source =
      .ok c.disabled := Json.readList_array fun _ _ => rfl
  rw [read, toJson, Json.readRecord_object]
  simp only [List.foldlM_cons, List.foldlM_nil, Draft.put, Json.fill, haliases, hdisabled]
  show Except.ok (⟨.ofList c.aliases.entries, c.disabled⟩ : Config) = _
  rw [OrderedMap.ofList_entries]

/-- A configuration holds texts only, so its document is never nested too deep. -/
theorem depth_toJson (c : Config) : c.toJson.depth = 2 := by
  have haliases : ∀ es : List (String × String),
      Json.depthMembers (es.map fun e => (e.1, .text e.2)) = 0 := by
    intro es
    induction es with
    | nil => rfl
    | cons e es ih => rw [List.map_cons, Json.depthMembers, ih, Json.depth, Nat.max_self]
  have hdisabled : ∀ ss : List String, Json.depthItems (ss.map .text) = 0 := by
    intro ss
    induction ss with
    | nil => rfl
    | cons s ss ih => rw [List.map_cons, Json.depthItems, ih, Json.depth, Nat.max_self]
  simp [toJson, Json.ofTexts, Json.depth, Json.depthMembers, haliases, hdisabled]

end Config

end Verdict

import Verdict.Command.Request
import Verdict.Proofs.Json.Record

/-
  Selecting through files. What a command writes into a file as a compact text is what it finds
  there (`load_of_holds`), so the records of files are those of `Query.read_toJson` and its like.
  Where nothing is lost on the way, selecting the candidates of a file by the queries of another
  is selecting them in memory, with the same names in the same order or the same failure
  (`Written.filter_of_registry`). `written_exact` has the records and the selection.
-/
namespace Verdict

/-- The file at a path holds the compact text of a document. -/
def Files.Holds (files : Files) (path : String) (j : Json) : Prop :=
  files.read path = .ok (Json.compact j).toUTF8

theorem Files.readText_of_holds {files : Files} {path : String} {j : Json}
    (h : files.Holds path j) : files.readText path = .ok (Json.compact j) := by
  have htext : String.fromUTF8? (Json.compact j).toUTF8 = some (Json.compact j) :=
    dif_pos (Json.compact j).isValidUTF8
  unfold Files.readText
  rw [h]
  dsimp only
  rw [htext]

/-- Files that hold documents. -/
def Files.ofDocuments (documents : List (String × Json)) : Files where
  read path :=
    match documents.lookup path with
    | some j => .ok (Json.compact j).toUTF8
    | none => .error notFound
  sink _ := .taken

theorem Files.holds_ofDocuments {documents : List (String × Json)} {path : String} {j : Json}
    (h : documents.lookup path = some j) : (ofDocuments documents).Holds path j := by
  unfold Holds ofDocuments
  dsimp only
  rw [h]

namespace Command

variable {files : Files}

/-- What is read of a file is what the reader finds in the document that the file holds. -/
theorem load_of_holds {α : Type} {path : String} {j : Json} (h : files.Holds path j)
    (hdepth : j.depth ≤ Json.maxDepth) {read : Json.Source → Except Json.Fault α} {a : α}
    (hread : read j.source = .ok a) : load files path read = .ok a := by
  unfold load
  rw [Files.readText_of_holds h]
  dsimp only
  rw [Json.decode_compact read hdepth, hread]

theorem loadConfig_of_holds {path : String} {c : Config} (h : files.Holds path c.toJson) :
    loadConfig files (some path) = .ok c := by
  have hdepth : c.toJson.depth ≤ Json.maxDepth := by
    rw [c.depth_toJson]
    decide
  exact load_of_holds h hdepth c.read_toJson

theorem loadRegistry_of_loadConfig {config : Option String} {c : Config}
    (h : loadConfig files config = .ok c) :
    loadRegistry files config = (Registry.ofConfig c).mapError .configuration := by
  unfold loadRegistry
  rw [h]

theorem loadRegistry_of_holds {path : String} {c : Config} (h : files.Holds path c.toJson) :
    loadRegistry files (some path) = (Registry.ofConfig c).mapError .configuration :=
  loadRegistry_of_loadConfig (loadConfig_of_holds h)

theorem loadSelection_eq_ok_iff (queries candidates : String) (qs : List Query)
    (cs : List Candidate) :
    loadSelection files queries candidates = .ok (qs, cs) ↔
      load files queries (Json.readList Query.read) = .ok qs ∧
        load files candidates (Json.readList Candidate.read) = .ok cs := by
  unfold loadSelection
  cases load files queries (Json.readList Query.read) with
  | error f => simp
  | ok qs => cases load files candidates (Json.readList Candidate.read) <;> simp

/-- The files hold a configuration, queries and candidates, from which nothing is lost when they
are read back. -/
structure Written (files : Files) (config queries candidates : String) (c : Config)
    (qs : List Query) (cs : List Candidate) : Prop where
  config_holds : files.Holds config c.toJson
  queries_hold : files.Holds queries (.array (qs.map Query.toJson))
  candidates_hold : files.Holds candidates (.array (cs.map Candidate.toJson))
  leaves_are_names : ∀ q ∈ qs, ∀ s ∈ q.operator.leaves, Expr.IsName s
  values_are_finite : ∀ q ∈ qs, q.value.isFinite = true
  metadata_is_finite : ∀ candidate ∈ cs, ∀ e ∈ candidate.metadata.entries, e.2.isFinite = true
  queries_depth : (Json.array (qs.map Query.toJson)).depth ≤ 127
  candidates_depth : (Json.array (cs.map Candidate.toJson)).depth ≤ 127

section Written

variable {config queries candidates : String} {c : Config} {qs : List Query}
  {cs : List Candidate}

theorem Written.loadSelection_eq (h : Written files config queries candidates c qs cs) :
    loadSelection files queries candidates = .ok (qs, cs) := by
  have hqueries : load files queries (Json.readList Query.read) = .ok qs :=
    load_of_holds h.queries_hold h.queries_depth (Json.readList_array fun q hq =>
      Query.read_toJson_self (h.leaves_are_names q hq) (h.values_are_finite q hq))
  have hcandidates : load files candidates (Json.readList Candidate.read) = .ok cs :=
    load_of_holds h.candidates_hold h.candidates_depth (Json.readList_array fun candidate hmem =>
      Candidate.read_toJson_self (h.metadata_is_finite candidate hmem))
  exact (loadSelection_eq_ok_iff _ _ _ _).2 ⟨hqueries, hcandidates⟩

theorem Written.filter_of_refused (h : Written files config queries candidates c qs cs)
    {error : RegistryError} (hc : Registry.ofConfig c = .error error) :
    filter files (some config) queries candidates = .error (.configuration error) := by
  unfold filter
  rw [loadRegistry_of_holds h.config_holds, hc]
  rfl

/-- Selecting through files is selecting in the configured registry. -/
theorem Written.filter_of_registry (h : Written files config queries candidates c qs cs)
    {r : Registry} (hc : Registry.ofConfig c = .ok r) :
    filter files (some config) queries candidates =
      ((Selector.select r qs cs).mapError (.queries queries)).map fun selected =>
        selected.map Candidate.id := by
  have hregistry : loadRegistry files (some config) = .ok r := by
    rw [loadRegistry_of_holds h.config_holds, hc]
    rfl
  unfold filter Selector.select
  rw [hregistry]
  dsimp only
  rw [h.loadSelection_eq]
  dsimp only
  cases Selector.compile r qs with
  | error error => rfl
  | ok s => rfl

theorem Written.filter_of_select_ok (h : Written files config queries candidates c qs cs)
    {r : Registry} (hc : Registry.ofConfig c = .ok r) {selected : List Candidate}
    (hselect : Selector.select r qs cs = .ok selected) :
    filter files (some config) queries candidates = .ok (selected.map Candidate.id) := by
  rw [h.filter_of_registry hc, hselect]
  rfl

theorem Written.filter_of_select_error (h : Written files config queries candidates c qs cs)
    {r : Registry} (hc : Registry.ofConfig c = .ok r) {error : RegistryError}
    (hselect : Selector.select r qs cs = .error error) :
    filter files (some config) queries candidates = .error (.queries queries error) := by
  rw [h.filter_of_registry hc, hselect]
  rfl

theorem Written.filter_eq_ok_iff (h : Written files config queries candidates c qs cs)
    (ids : List String) :
    filter files (some config) queries candidates = .ok ids ↔
      ∃ r selected, Registry.ofConfig c = .ok r ∧ Selector.select r qs cs = .ok selected ∧
        selected.map Candidate.id = ids := by
  cases hc : Registry.ofConfig c with
  | error error => simp [h.filter_of_refused hc]
  | ok r =>
    cases hselect : Selector.select r qs cs with
    | error error => simp [h.filter_of_select_error hc hselect, hselect]
    | ok selected => simp [h.filter_of_select_ok hc hselect, hselect]

theorem Written.filter_eq_error_iff (h : Written files config queries candidates c qs cs) :
    (∃ failure, filter files (some config) queries candidates = .error failure) ↔
      (∃ error, Registry.ofConfig c = .error error) ∨
      ∃ r error, Registry.ofConfig c = .ok r ∧ Selector.select r qs cs = .error error := by
  cases hc : Registry.ofConfig c with
  | error error => simp [h.filter_of_refused hc]
  | ok r =>
    cases hselect : Selector.select r qs cs with
    | error error => simp [h.filter_of_select_error hc hselect, hselect]
    | ok selected => simp [h.filter_of_select_ok hc hselect, hselect]

end Written

/-- Records through their documents, and the selection of candidates through files. A query or a
constraint comes back with the same names, its operator with every leaf read as text and its value
without reals that are not finite, and is refused only when a leaf is no text of an expression; a
candidate comes back with its attributes in their order, and a configuration as it is. The
compact texts of documents say what the documents say, so candidates are selected through files
as they are in memory. -/
theorem written_exact :
    (∀ q : Query,
      (∀ q', Query.read q.toJson.source = .ok q' ↔
        q'.attr = q.attr ∧ q.operator.normal? = some q'.operator ∧
          q'.value = q.value.finitePart) ∧
      ((∃ fault, Query.read q.toJson.source = .error fault) ↔
        ∃ s ∈ q.operator.leaves, ∃ error, Expr.parse s = .error error)) ∧
    (∀ c : Constraint,
      (∀ c', Constraint.read c.toJson.source = .ok c' ↔
        c'.typeKey = c.typeKey ∧ c.operator.normal? = some c'.operator ∧
          c'.bound = c.bound.finitePart) ∧
      ((∃ fault, Constraint.read c.toJson.source = .error fault) ↔
        ∃ s ∈ c.operator.leaves, ∃ error, Expr.parse s = .error error)) ∧
    (∀ c : Candidate, ∃ c', Candidate.read c.toJson.source = .ok c' ∧ c'.id = c.id ∧
      c'.metadata.entries = c.metadata.entries.map fun e => (e.1, e.2.finitePart)) ∧
    (∀ c : Config, Config.read c.toJson.source = .ok c) ∧
    (∀ {α : Type} (read : Json.Source → Except Json.Fault α) (j : Json), j.depth ≤ 127 →
      Json.decode read (Json.compact j) = read j.source) ∧
    (∀ files config queries candidates c qs cs,
      Written files config queries candidates c qs cs →
      (∀ ids, filter files (some config) queries candidates = .ok ids ↔
        ∃ r selected, Registry.ofConfig c = .ok r ∧ Selector.select r qs cs = .ok selected ∧
          selected.map Candidate.id = ids) ∧
      ((∃ failure, filter files (some config) queries candidates = .error failure) ↔
        (∃ error, Registry.ofConfig c = .error error) ∨
        ∃ r error, Registry.ofConfig c = .ok r ∧ Selector.select r qs cs = .error error)) :=
  ⟨fun q => ⟨q.read_toJson_eq_ok_iff, q.read_toJson_eq_error_iff⟩,
    fun c => ⟨c.read_toJson_eq_ok_iff, c.read_toJson_eq_error_iff⟩,
    fun c => ⟨_, c.read_toJson, rfl, rfl⟩, Config.read_toJson,
    fun read _ hdepth => Json.decode_compact read hdepth,
    fun _ _ _ _ _ _ _ h => ⟨h.filter_eq_ok_iff, h.filter_eq_error_iff⟩⟩

/-- A sign for an operator, and no disjunctions. -/
def signs : Config where
  aliases := .ofList [("<", "lt")]
  disabled := ["or"]

def urgent : Query := ⟨"priority", .named "<", .integer 10⟩

def notDelayed : Query := ⟨"delay", .not (.named "gt"), .real .zero⟩

def ranked : Candidate := ⟨"svc-a", .ofList [("priority", .integer 7), ("zone", .text "eu")]⟩

def unranked : Candidate := ⟨"svc-b", .ofList [("priority", .text "high")]⟩

def urgentFiles : Files :=
  .ofDocuments [("config.json", signs.toJson),
    ("queries.json", .array ([urgent, notDelayed].map Query.toJson)),
    ("candidates.json", .array ([unranked, ranked].map Candidate.toJson))]

/-- The sign selects through files, and the text of a query is read as the query. -/
theorem filter_urgent :
    Written urgentFiles "config.json" "queries.json" "candidates.json" signs [urgent, notDelayed]
      [unranked, ranked] ∧
    filter urgentFiles (some "config.json") "queries.json" "candidates.json" = .ok ["svc-a"] ∧
    urgent.toJson.depth ≤ 127 ∧
    Json.decode Query.read (Json.compact urgent.toJson) = .ok urgent := by
  obtain ⟨hqueries, -, -, -, htexts, hfilter⟩ := written_exact
  have hwritten : Written urgentFiles "config.json" "queries.json" "candidates.json" signs
      [urgent, notDelayed] [unranked, ranked] :=
    { config_holds := Files.holds_ofDocuments rfl
      queries_hold := Files.holds_ofDocuments rfl
      candidates_hold := Files.holds_ofDocuments rfl
      leaves_are_names := by decide
      values_are_finite := by decide
      metadata_is_finite := by decide
      queries_depth := by decide
      candidates_depth := by decide }
  refine ⟨hwritten, ?_, by decide, ?_⟩
  · exact ((hfilter _ _ _ _ _ _ _ hwritten).1 _).2 ⟨_, _, rfl, rfl, rfl⟩
  · rw [htexts Query.read urgent.toJson (by decide)]
    exact ((hqueries urgent).1 urgent).2 ⟨rfl, rfl, rfl⟩

end Command

end Verdict

import Verdict.Command.Presentation
import Verdict.Proofs.Command.Validation

/-
  Reports in a table. A report without a message has no member for it, and a table has the columns
  of its first object, so a single report decides whether the messages of all are shown
  (`Table.ofReports`). Every report has its row, in order, with its kind, its type key, whether it
  is valid, and its value. `messages_shown_iff` says when every message is shown too: when the first
  report has one, or by coincidence; `violation_not_shown` is a violation that no cell tells.
-/
namespace Verdict

namespace Value

mutual
/-- The plain document of a value has no members that could be sorted. -/
theorem sorted_toJson : (v : Value) → v.toJson.sorted = v.toJson
  | integer _ | text _ | boolean _ | absent => rfl
  | real (.finite _) | real .nan | real (.infinite _) => rfl
  | sequence items => by rw [toJson, Json.sorted, sortedItems_toItems items]

theorem sortedItems_toItems : (vs : List Value) → Json.sortedItems (toItems vs) = toItems vs
  | [] => rfl
  | v :: vs => by rw [toItems, Json.sortedItems, sorted_toJson v, sortedItems_toItems vs]
end

end Value

theorem Json.sortedItems_eq_map (js : List Json) : sortedItems js = js.map sorted := by
  induction js with
  | nil => rfl
  | cons j js ih => rw [sortedItems, ih, List.map_cons]

theorem Table.rows?_map {α : Type} {header : List String} {document : α → Json}
    {row : α → List String} (h : ∀ a, row? header (document a) = some (row a)) (as : List α) :
    rows? header (as.map document) = some (as.map row) := by
  induction as with
  | nil => rfl
  | cons a as ih => rw [List.map_cons, rows?, h a, ih, List.map_cons]

namespace PropertyReport

/-! ## Documents and rows -/

/-- The members of the document of a report by name. -/
def members (report : PropertyReport) : List (String × Json) :=
  ("kind", .text report.kind.name) ::
    (report.message.toList.map fun message => ("message", Json.text message)) ++
    [("type_key", .text report.typeKey), ("valid", .boolean report.valid),
      ("value", report.value.toJson)]

/-- The columns of a table of reports, with messages or without. -/
def columns (messages : Bool) : List String :=
  "kind" :: (if messages then ["message"] else []) ++ ["type_key", "valid", "value"]

/-- The cells of a report in a table with messages or without. -/
def row (messages : Bool) (report : PropertyReport) : List String :=
  report.kind.name :: (if messages then [report.message.getD ""] else []) ++
    [report.typeKey, Table.cell (.boolean report.valid), Table.cell report.value.toJson]

theorem sorted_toJson (report : PropertyReport) : report.toJson.sorted = .object report.members := by
  obtain ⟨typeKey, value, valid, message⟩ := report
  have hvalue := value.sorted_toJson
  cases message <;>
    simp only [toJson, List.cons_append, List.nil_append, Json.sorted, Json.sortedMembers,
      Json.insertMember, String.reduceLT, String.reduceEq, if_true, if_false, hvalue] <;>
    rfl

theorem map_fst_members (report : PropertyReport) :
    report.members.map Prod.fst = columns report.message.isSome := by
  obtain ⟨typeKey, value, valid, message⟩ := report
  cases message <;> rfl

theorem row?_members (messages : Bool) (report : PropertyReport) :
    Table.row? (columns messages) (.object report.members) = some (report.row messages) := by
  obtain ⟨typeKey, value, valid, message⟩ := report
  cases messages <;> cases message <;> rfl

/-- Without a place of its own a message is shown only if another cell has the same text. -/
theorem mem_row_iff {report : PropertyReport} {message : String}
    (h : report.message = some message) (messages : Bool) :
    message ∈ report.row messages ↔ messages = true ∨ message ∈ report.row false := by
  cases messages with
  | false => simp
  | true => simp [row, h]

end PropertyReport

open PropertyReport (columns)
open Validators (aboveZero light reserved)

namespace Table

/-! ## Tables of reports -/

/-- The table of a report and more after it: the first one decides about the messages. -/
def ofReports (first : PropertyReport) (rest : List PropertyReport) : Table where
  header := columns first.message.isSome
  rows := (first :: rest).map (PropertyReport.row first.message.isSome)

theorem ofItems?_reports (first : PropertyReport) (rest : List PropertyReport) :
    ofItems? ((first :: rest).map fun report => report.toJson.sorted) =
      some (ofReports first rest) := by
  have hdocuments : ((first :: rest).map fun report => report.toJson.sorted) =
      (first :: rest).map fun report => .object report.members :=
    List.map_congr_left fun report _ => report.sorted_toJson
  have hrows := rows?_map (PropertyReport.row?_members first.message.isSome) (first :: rest)
  rw [← first.map_fst_members, List.map_cons] at hrows
  rw [hdocuments, List.map_cons, ofItems?, hrows, first.map_fst_members]
  rfl

/-- The reports are shown: every report has its row, in its place among the reports, and the
message of a report is a cell of its row. -/
structure Shows (t : Table) (reports : List PropertyReport) : Prop where
  rows_length : t.rows.length = reports.length
  message_mem : ∀ (i : Nat) (report : PropertyReport) (row : List String) (message : String),
    reports[i]? = some report → t.rows[i]? = some row → report.message = some message →
      message ∈ row

theorem ofReports_shows_iff (first : PropertyReport) (rest : List PropertyReport) :
    (ofReports first rest).Shows (first :: rest) ↔ first.message.isSome = true ∨
      ∀ report ∈ first :: rest, ∀ message, report.message = some message →
        message ∈ report.row false := by
  constructor
  · intro hshows
    by_cases hfirst : first.message.isSome = true
    · exact Or.inl hfirst
    refine Or.inr fun report hreport message hmessage => ?_
    obtain ⟨i, hi⟩ := List.getElem?_of_mem hreport
    have hrow : (ofReports first rest).rows[i]? = some (report.row first.message.isSome) := by
      rw [ofReports, List.getElem?_map, hi, Option.map_some]
    have hmem := hshows.message_mem i report _ message hi hrow hmessage
    exact ((PropertyReport.mem_row_iff hmessage _).1 hmem).resolve_left hfirst
  · intro hshown
    refine ⟨List.length_map .., fun i report row message hreport hrow hmessage => ?_⟩
    rw [ofReports, List.getElem?_map, hreport] at hrow
    rw [← Option.some.inj hrow, PropertyReport.mem_row_iff hmessage]
    exact hshown.imp_right fun h =>
      h report (List.mem_of_getElem? hreport) message hmessage

end Table

namespace Answer

theorem sorted_document_reports (table : Bool) (request : Request) (rs : List PropertyReport) :
    ((reports rs).document table request).sorted =
      .array (rs.map fun report => report.toJson.sorted) := by
  have hdocument : (reports rs).document table request = .array (rs.map PropertyReport.toJson) := by
    cases request <;> rfl
  rw [hdocument, Json.sorted, Json.sortedItems_eq_map, List.map_map]
  rfl

theorem render_table_reports (request : Request) (first : PropertyReport)
    (rest : List PropertyReport) :
    (reports (first :: rest)).render .table request = (Table.ofReports first rest).render := by
  unfold render
  rw [sorted_document_reports]
  show (((Table.ofItems? ((first :: rest).map fun report => report.toJson.sorted)).map
    Table.render).getD _) = _
  rw [Table.ofItems?_reports]
  rfl

end Answer

namespace Command

/-- The table of any reports. There is a row for each of them, in order, with the kind, the type
key, whether the property is valid, and the value; what the first report is decides whether there
is a message in every row or in none. All messages are shown exactly when the first report has
one, or each of them happens to be the text of another cell of its row. -/
theorem messages_shown_iff (request : Request) (first : PropertyReport)
    (rest : List PropertyReport) :
    ∃ t : Table,
      Table.ofItems? ((first :: rest).map fun report => report.toJson.sorted) = some t ∧
      (Answer.reports (first :: rest)).render .table request = t.render ∧
      t.header = columns first.message.isSome ∧
      t.rows = (first :: rest).map (PropertyReport.row first.message.isSome) ∧
      (t.Shows (first :: rest) ↔ first.message.isSome = true ∨
        ∀ report ∈ first :: rest, ∀ message, report.message = some message →
          message ∈ report.row false) :=
  ⟨Table.ofReports first rest, Table.ofItems?_reports first rest,
    Answer.render_table_reports request first rest, rfl, rfl,
    Table.ofReports_shows_iff first rest⟩

/-- The weight comes first, which is accepted, and then a port that is not. -/
def weightFiles : Files :=
  .ofDocuments [("constraints.json", .array ([aboveZero, light, reserved].map Constraint.toJson)),
    ("properties.json", .array [propertyDocument "weight" (.ofNat 3),
      propertyDocument "port" (.ofNat 8080)])]

def weightReports : List PropertyReport :=
  [⟨"weight", .integer 3, true, none⟩,
    ⟨"port", .integer 8080, false, some "Value 8080 violates constraint lt 1024"⟩]

/-- The port is refused, and no cell of the table tells which constraint it violates. -/
theorem violation_not_shown :
    validate weightFiles none "constraints.json" "properties.json" false = .ok weightReports ∧
    ∃ t : Table, Table.ofItems? (weightReports.map fun report => report.toJson.sorted) = some t ∧
      t = ⟨["kind", "type_key", "valid", "value"],
        [["Integer", "weight", "true", "3"], ["Integer", "port", "false", "8080"]]⟩ ∧
      ¬ t.Shows weightReports := by
  have hregistry : loadRegistry weightFiles none = .ok Registry.standard := rfl
  have hload : loadValidation weightFiles "constraints.json" "properties.json" =
      .ok ([aboveZero, light, reserved], [⟨"weight", .integer 3⟩, ⟨"port", .integer 8080⟩]) :=
    loadValidation_eq_ok (load_of_holds (Files.holds_ofDocuments rfl) (by decide) rfl)
      (load_of_holds (Files.holds_ofDocuments rfl) (by decide) rfl)
  obtain ⟨vs, hvs, hreports⟩ : ∃ vs,
      Validators.ofConstraints Registry.standard [aboveZero, light, reserved] = .ok vs ∧
      reports vs false [⟨"weight", .integer 3⟩, ⟨"port", .integer 8080⟩] = weightReports :=
    ⟨_, rfl, rfl⟩
  refine ⟨?_, Table.ofReports _ _, Table.ofItems?_reports _ _, rfl, fun hshows => ?_⟩
  · rw [validate_eq_reports hregistry hload hvs, hreports]
  · have hmem := hshows.message_mem 1 _ _ _ rfl rfl rfl
    revert hmem
    decide

end Command

end Verdict

import Verdict.Command.Request
import Verdict.Command.Style
import Verdict.Command.Table

/-
  How answers are presented: as a compact or an indented document or as a table, on standard
  output or in a file, and in words where the form is meant for people. The members of every
  document are sorted by name.
-/
namespace Verdict

/-- The forms of an answer. -/
inductive Format
  | json
  | pretty
  | table
deriving DecidableEq

namespace Format

def name : Format → String
  | json => "json"
  | pretty => "pretty"
  | table => "table"

def ofName? (s : String) : Option Format := [json, pretty, table].find? fun f => f.name == s

end Format

/-- A document in a form; one that is no table is indented instead. -/
def Json.render (j : Json) : Format → String
  | .json => j.compact
  | .pretty => j.pretty
  | .table => (j.table?).getD j.pretty

namespace Answer

/-- The document of an answer. Tables have a row for everything that is found. -/
def document (table : Bool) : Request → Answer → Json
  | .eval operator left right, .verdict b =>
    let report := Json.object [("operator", .text operator), ("left", .text left),
      ("right", .text right), ("result", .boolean b)]
    if table then .array [report] else report
  | _, .verdict b => .boolean b
  | _, .selection ids =>
    if table then .array (ids.map fun id => .object [("id", .text id)]) else .ofTexts ids
  | _, .reports rs => .array (rs.map PropertyReport.toJson)
  | _, .listing os => .array (os.map OperatorInfo.toJson)

/-- The text of an answer in a form. -/
def render (format : Format) (request : Request) (a : Answer) : String :=
  (a.document (format == .table) request).sorted.render format

/-- A report in words. The message is told when something is wrong, or when all is to be told. -/
def reportLine (color verbose : Bool) (r : PropertyReport) : String :=
  let status := if r.valid then Style.paint color .positive "ok"
    else Style.paint color .negative "invalid"
  let account := status ++ " " ++ r.typeKey ++ " = " ++ r.value.display
  match r.message with
  | some m => if verbose || !r.valid then account ++ ": " ++ m else account
  | none => account

/-- Every line with its line feed. -/
def unlines (ls : List String) : String := String.join (ls.map fun l => l ++ "\n")

/-- The lines of an answer on standard output. -/
def lines (color verbose : Bool) (format : Format) (request : Request) (a : Answer) :
    List String :=
  match format, a with
  | .pretty, .verdict b => [Style.verdict color b]
  | .pretty, .reports rs => rs.map (reportLine color verbose)
  | _, _ => [a.render format request]

/-- The content of an answer in a file. -/
def fileText (format : Format) (request : Request) (a : Answer) : String :=
  match format, a with
  | .pretty, .verdict b => if b then "true" else "false"
  | _, _ => a.render format request

end Answer

end Verdict

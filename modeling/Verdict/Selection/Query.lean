import Verdict.Registry.Resolve
import Verdict.Expr.Json
import Verdict.Value.Json
import Verdict.Value.Display

/-
  Queries on metadata, and the candidates that carry it. A query puts an attribute of a candidate
  on the left of an operator and a given value on the right; an attribute that is not given is
  absent. Both are read from records and written as records in plain form.
-/
namespace Verdict

/-- A condition on one attribute. -/
structure Query where
  attr : String
  operator : Expr
  value : Value

/-- Something with named attributes. -/
structure Candidate where
  id : String := ""
  metadata : OrderedMap Value := .empty
deriving DecidableEq

namespace Candidate

/-- A candidate with one attribute more, or with another value for it. -/
def put (c : Candidate) (name : String) (v : Value) : Candidate :=
  { c with metadata := c.metadata.insert name v }

/-- The value of an attribute. -/
def get (c : Candidate) (name : String) : Value := (c.metadata.get? name).getD .absent

/-- The document of a candidate. -/
def toJson (c : Candidate) : Json :=
  .object [("id", .text c.id),
    ("metadata", .object (c.metadata.entries.map fun e => (e.1, e.2.toJson)))]

/-- A candidate of which some fields are read. -/
structure Draft where
  id : Option String := none
  metadata : Option (List (String × Value)) := none

def Draft.put (d : Draft) (field : String) (s : Json.Source) : Except Json.Fault Draft :=
  if field = "id" then (Json.fill d.id Json.readString s).map fun a => { d with id := a }
  else if field = "metadata" then
    (Json.fill d.metadata (Json.readMap Value.read) s).map fun a => { d with metadata := a }
  else .ok d

def Draft.finish (d : Draft) : Except Json.Fault Candidate :=
  (Json.required d.id).map fun id => { id, metadata := .ofList (d.metadata.getD []) }

/-- A candidate in a text. Metadata may be missing, and other members are passed over. -/
def read (s : Json.Source) : Except Json.Fault Candidate :=
  (Json.readRecord ["id", "metadata"] Draft.put {} s).bind Draft.finish

end Candidate

namespace Query

/-- A query with its operator in text form. -/
def ofText (attr operator : String) (value : Value) : Query :=
  ⟨attr, .ofText operator, value⟩

/-- The verdict of a predicate on an attribute of a candidate and the value of the query. -/
def check (q : Query) (p : Predicate) (c : Candidate) : Bool :=
  p.evaluate (c.get q.attr) q.value

/-- The verdict of the query's operator in a registry. -/
def holds (q : Query) (r : Registry) (c : Candidate) : Except RegistryError Bool :=
  (r.resolve q.operator).map fun p => q.check p c

/-- The query as it is shown. -/
def display (q : Query) : String :=
  q.attr ++ " " ++ q.operator.display ++ " " ++ q.value.display

/-- The document of a query. -/
def toJson (q : Query) : Json :=
  .object [("attribute", .text q.attr), ("operator", q.operator.toJson),
    ("value", q.value.toJson)]

/-- A query of which some fields are read. -/
structure Draft where
  attr : Option String := none
  operator : Option Expr := none
  value : Option Value := none

def Draft.put (d : Draft) (field : String) (s : Json.Source) : Except Json.Fault Draft :=
  if field = "attribute" then
    (Json.fill d.attr Json.readString s).map fun a => { d with attr := a }
  else if field = "operator" then
    (Json.fill d.operator Expr.read s).map fun a => { d with operator := a }
  else if field = "value" then
    (Json.fill d.value Value.read s).map fun a => { d with value := a }
  else .ok d

def Draft.finish (d : Draft) : Except Json.Fault Query :=
  match d.attr, d.operator, d.value with
  | some attr, some operator, some value => .ok ⟨attr, operator, value⟩
  | _, _, _ => .error .mismatch

/-- A query in a text. Other members are passed over. -/
def read (s : Json.Source) : Except Json.Fault Query :=
  (Json.readRecord ["attribute", "operator", "value"] Draft.put {} s).bind Draft.finish

end Query

end Verdict

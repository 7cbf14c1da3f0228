import Verdict.Command.Input
import Verdict.Selection.Selector
import Verdict.Validation.Validator

/-
  What commands compute from files: a verdict on two operands, the candidates that queries select,
  reports on properties under constraints, or the operators of a registry. None of it depends on
  how the answer is presented. `reports_length` says that every property has its report.
-/
namespace Verdict

/-- What is reported of one property. -/
structure PropertyReport where
  typeKey : String
  value : Value
  valid : Bool
  message : Option String
deriving DecidableEq

namespace PropertyReport

def kind (r : PropertyReport) : Kind := r.value.kind

/-- The report of a check. A property without a validator is valid unless checking is strict. -/
def ofCheck (strict : Bool) (p : Property) (outcome : Except ValidationError Unit) :
    PropertyReport :=
  match outcome with
  | .ok () => ⟨p.typeKey, p.value, true, none⟩
  | .error e => ⟨p.typeKey, p.value, e.isUnknownValidator && !strict, some e.message⟩

/-- The document of a report; a message that is not there is left out. -/
def toJson (r : PropertyReport) : Json :=
  .object ([("type_key", .text r.typeKey), ("value", r.value.toJson),
    ("kind", .text r.kind.name), ("valid", .boolean r.valid)] ++
    match r.message with
    | some m => [("message", .text m)]
    | none => [])

end PropertyReport

/-- What a command is asked to do. -/
inductive Request
  | eval (operator left right : String)
  | filter (queries candidates : String)
  | validate (constraints properties : String) (strict : Bool)
  | operators
deriving DecidableEq

/-- What a command has found. -/
inductive Answer
  | verdict (b : Bool)
  | selection (ids : List String)
  | reports (rs : List PropertyReport)
  | listing (os : List OperatorInfo)
deriving DecidableEq

namespace Command

/-- The verdict of an operator on two operands. -/
def eval (files : Files) (config : Option String) (operator left right : String) :
    Except Failure Bool :=
  match loadRegistry files config with
  | .error f => .error f
  | .ok r =>
    match r.resolveText operator with
    | .error e => .error (.operator operator e)
    | .ok p => .ok (p.evaluate (operand left) (operand right))

/-- The queries and candidates of two files. -/
def loadSelection (files : Files) (queries candidates : String) :
    Except Failure (List Query × List Candidate) :=
  match load files queries (Json.readList Query.read) with
  | .error f => .error f
  | .ok qs =>
    match load files candidates (Json.readList Candidate.read) with
    | .error f => .error f
    | .ok cs => .ok (qs, cs)

/-- The names of the candidates that queries select, in the order of the file. -/
def filter (files : Files) (config : Option String) (queries candidates : String) :
    Except Failure (List String) :=
  match loadRegistry files config with
  | .error f => .error f
  | .ok r =>
    match loadSelection files queries candidates with
    | .error f => .error f
    | .ok (qs, cs) =>
      match Selector.compile r qs with
      | .error e => .error (.queries queries e)
      | .ok s => .ok ((s.filter cs).map Candidate.id)

/-- The constraints and properties of two files. -/
def loadValidation (files : Files) (constraints properties : String) :
    Except Failure (List Constraint × List Property) :=
  match load files constraints (Json.readList Constraint.read) with
  | .error f => .error f
  | .ok cs =>
    match load files properties (Json.readList Property.read) with
    | .error f => .error f
    | .ok ps => .ok (cs, ps)

/-- The reports on properties, in their order. -/
def reports (vs : Validators) (strict : Bool) (ps : List Property) : List PropertyReport :=
  ps.map fun p => .ofCheck strict p (vs.validate p.typeKey p.value)

theorem reports_length (vs : Validators) (strict : Bool) (ps : List Property) :
    (reports vs strict ps).length = ps.length := List.length_map ..

/-- The reports on the properties of a file under the constraints of another. -/
def validate (files : Files) (config : Option String) (constraints properties : String)
    (strict : Bool) : Except Failure (List PropertyReport) :=
  match loadRegistry files config with
  | .error f => .error f
  | .ok r =>
    match loadValidation files constraints properties with
    | .error f => .error f
    | .ok (cs, ps) =>
      match Validators.ofConstraints r cs with
      | .error e => .error (.constraints constraints e)
      | .ok vs => .ok (reports vs strict ps)

/-- The operators of a configured registry. -/
def operators (files : Files) (config : Option String) : Except Failure (List OperatorInfo) :=
  (loadRegistry files config).map Registry.listing

/-- What a request finds. -/
def answer (files : Files) (config : Option String) : Request → Except Failure Answer
  | .eval operator left right => (eval files config operator left right).map .verdict
  | .filter queries candidates => (filter files config queries candidates).map .selection
  | .validate constraints properties strict =>
    (validate files config constraints properties strict).map .reports
  | .operators => (operators files config).map .listing

end Command

end Verdict

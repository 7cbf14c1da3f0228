import Verdict.Expr.Text
import Verdict.Json.Record
import Verdict.OrderedMap

/-
  Operator expressions as documents: a text holds names with colons, an object has one member,
  the combinator with its operand or its operands in an array. A name is written as it is and
  read as text, so only names that are their own text keep their form; the name of a member is
  taken as it is.
-/
namespace Verdict

namespace Expr

mutual
/-- The document of an expression: a single operand stands alone, others in an array. -/
def toJson : Expr → Json
  | named identifier => .text identifier
  | apply operator [e] => .object [(operator, toJson e)]
  | apply operator [] => .object [(operator, .array [])]
  | apply operator (e :: es) => .object [(operator, .array (toJson e :: toJsonAll es))]

def toJsonAll : List Expr → List Json
  | [] => []
  | e :: es => toJson e :: toJsonAll es
end

/-- Why a document is no expression: its shape is another one, or its own text or members are
not those of an expression. -/
inductive Malformed
  | shape
  | invalid (error : RegistryError)
deriving DecidableEq

/-- The expression of an object whose members have these operands, if they have any. Of members
of one name the last one counts, and there has to be one name. -/
def ofMembers : Option (List (String × List Expr)) → Except Malformed Expr
  | none => .error .shape
  | some members =>
    match (OrderedMap.ofList members).entries with
    | [(operator, operands)] => .ok (apply operator operands)
    | entries => .error (.invalid (.keyCount entries.length))

/-- The expression of a text in a document. -/
def ofDocumentText (s : String) : Except Malformed Expr :=
  match parse s with
  | .ok e => .ok e
  | .error error => .error (.invalid error)

mutual
/-- The expression of a document. The operands of all members are read before the members are
counted. -/
def ofJson : Json → Except Malformed Expr
  | .text s => ofDocumentText s
  | .object members => ofMembers (operandsOfMembers members)
  | .null | .boolean _ | .number _ | .array _ => .error .shape

/-- The operands of each member: the items of an array, or else a single one. -/
def operandsOfMembers : List (String × Json) → Option (List (String × List Expr))
  | [] => some []
  | (k, .array items) :: ms =>
    match ofItems items, operandsOfMembers ms with
    | some es, some rest => some ((k, es) :: rest)
    | _, _ => none
  | (k, j) :: ms =>
    match ofJson j, operandsOfMembers ms with
    | .ok e, some rest => some ((k, [e]) :: rest)
    | _, _ => none

def ofItems : List Json → Option (List Expr)
  | [] => some []
  | j :: js =>
    match ofJson j, ofItems js with
    | .ok e, some es => some (e :: es)
    | _, _ => none
end

theorem ofJson_text (s : String) : ofJson (.text s) = ofDocumentText s := by simp [ofJson]

/-- The expression at a place where a text holds one. -/
def read (s : Json.Source) : Except Json.Fault Expr :=
  match s.document? with
  | none => .error .malformed
  | some j =>
    match ofJson j with
    | .ok e => .ok e
    | .error .shape => .error .mismatch
    | .error (.invalid error) => .error (.rejected error.message)

end Expr

end Verdict

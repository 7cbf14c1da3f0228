import Verdict.Selection.Query

/-
  Constraints on the properties of a type key, and the properties that are checked. The value of a
  property stands on the left of the operator, the bound on the right.
-/
namespace Verdict

/-- A condition on all properties of a type key. -/
structure Constraint where
  typeKey : String
  operator : Expr
  bound : Value

/-- A value to be checked under a type key. -/
structure Property where
  typeKey : String
  value : Value

namespace Constraint

/-- The words that name a constraint. -/
def label (operator : Expr) (bound : Value) : String := operator.display ++ " " ++ bound.display

/-- The document of a constraint. -/
def toJson (c : Constraint) : Json :=
  .object [("type_key", .text c.typeKey), ("operator", c.operator.toJson),
    ("bound", c.bound.toJson)]

/-- A constraint of which some fields are read. -/
structure Draft where
  typeKey : Option String := none
  operator : Option Expr := none
  bound : Option Value := none

def Draft.put (d : Draft) (field : String) (s : Json.Source) : Except Json.Fault Draft :=
  if field = "type_key" then
    (Json.fill d.typeKey Json.readString s).map fun a => { d with typeKey := a }
  else if field = "operator" then
    (Json.fill d.operator Expr.read s).map fun a => { d with operator := a }
  else if field = "bound" then
    (Json.fill d.bound Value.read s).map fun a => { d with bound := a }
  else .ok d

def Draft.finish (d : Draft) : Except Json.Fault Constraint :=
  match d.typeKey, d.operator, d.bound with
  | some typeKey, some operator, some bound => .ok ⟨typeKey, operator, bound⟩
  | _, _, _ => .error .mismatch

/-- A constraint in a text. Other members are passed over. -/
def read (s : Json.Source) : Except Json.Fault Constraint :=
  (Json.readRecord ["type_key", "operator", "bound"] Draft.put {} s).bind Draft.finish

end Constraint

namespace Property

/-- A property of which some fields are read. -/
structure Draft where
  typeKey : Option String := none
  value : Option Value := none

def Draft.put (d : Draft) (field : String) (s : Json.Source) : Except Json.Fault Draft :=
  if field = "type_key" then
    (Json.fill d.typeKey Json.readString s).map fun a => { d with typeKey := a }
  else if field = "value" then
    (Json.fill d.value Value.read s).map fun a => { d with value := a }
  else .ok d

def Draft.finish (d : Draft) : Except Json.Fault Property :=
  match d.typeKey, d.value with
  | some typeKey, some value => .ok ⟨typeKey, value⟩
  | _, _ => .error .mismatch

/-- A property in a text. Other members are passed over. -/
def read (s : Json.Source) : Except Json.Fault Property :=
  (Json.readRecord ["type_key", "value"] Draft.put {} s).bind Draft.finish

end Property

end Verdict

import Verdict.Registry.Basic
import Verdict.Expr.Text

/-
  Resolving operator expressions in a registry. A name is looked up, its operands are counted
  before any of them is resolved, and their predicates are combined; so the error is that of the
  first faulty name from the outside in and from left to right. `resolve_named` and
  `resolve_apply` are the two cases.
-/
namespace Verdict

namespace Registry

/-- What a name is bound to; the error gives the name as it is written. -/
def binding (r : Registry) (name : String) : Except RegistryError Binding :=
  match (r.canonical? name).bind r.operators.get? with
  | some o => .ok o.binding
  | none => .error (.unknownOperator name)

/-- The binding of a name that is applied to so many operands. -/
def bindingFor (r : Registry) (name : String) (operands : Nat) : Except RegistryError Binding :=
  match r.binding name with
  | .error e => .error e
  | .ok b =>
    if operands = b.arity then .ok b else .error (.arityMismatch name b.arity operands)

/-- The predicate of a binding for operands that are as many as its arity. -/
def combine (name : String) (b : Binding) (ps : List Predicate) :
    Except RegistryError Predicate :=
  match b.combine? ps with
  | some p => .ok p
  | none => .error (.arityMismatch name b.arity ps.length)

/-- The predicate of a name that takes no operands. -/
def resolveName (r : Registry) (name : String) : Except RegistryError Predicate :=
  match r.bindingFor name 0 with
  | .error e => .error e
  | .ok b => combine name b []

mutual
/-- The predicate of an expression. -/
def resolve (r : Registry) : Expr → Except RegistryError Predicate
  | .named identifier => r.resolveName identifier
  | .apply operator operands =>
    match r.bindingFor operator operands.length with
    | .error e => .error e
    | .ok b =>
      match resolveAll r operands with
      | .error e => .error e
      | .ok ps => combine operator b ps

def resolveAll (r : Registry) : List Expr → Except RegistryError (List Predicate)
  | [] => .ok []
  | e :: es =>
    match resolve r e with
    | .error e => .error e
    | .ok p =>
      match resolveAll r es with
      | .error e => .error e
      | .ok ps => .ok (p :: ps)
end

/-- The predicate of an expression in text form. -/
def resolveText (r : Registry) (text : String) : Except RegistryError Predicate :=
  match Expr.parse text with
  | .error e => .error e
  | .ok e => r.resolve e

/-- The verdict of an operator in text form on a pair of operands. -/
def evaluate (r : Registry) (operator : String) (left right : Value) :
    Except RegistryError Bool :=
  (r.resolveText operator).map fun p => p.evaluate left right

theorem resolve_named (r : Registry) (identifier : String) :
    r.resolve (.named identifier) = r.resolveName identifier := by simp [resolve]

theorem resolve_apply (r : Registry) (operator : String) (operands : List Expr) :
    r.resolve (.apply operator operands) =
      (r.bindingFor operator operands.length).bind fun b =>
        (r.resolveAll operands).bind fun ps => combine operator b ps := by
  rw [resolve]
  cases r.bindingFor operator operands.length with
  | error e => rfl
  | ok b => cases h : r.resolveAll operands <;> simp [Except.bind]

theorem resolve_apply_nil (r : Registry) (operator : String) :
    r.resolve (.apply operator []) = r.resolve (.named operator) := by
  rw [resolve_apply, resolve_named]
  unfold resolveName
  rw [List.length_nil]
  cases r.bindingFor operator 0 with
  | error e => rfl
  | ok b => simp [Except.bind, resolveAll]

end Registry

end Verdict

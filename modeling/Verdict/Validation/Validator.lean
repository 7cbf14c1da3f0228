import Verdict.Validation.Constraint
import Verdict.Journal

/-
  Validators: the constraints of a type key with their operators resolved, and the validators of
  all type keys. A value is accepted when every clause holds, else the first clause that fails is
  reported.
-/
namespace Verdict

/-- Why a value is not accepted. -/
inductive ValidationError
  | unknownValidator (typeKey : String)
  | constraintViolated (label : String) (value : Value)
deriving DecidableEq

namespace ValidationError

def message : ValidationError → String
  | unknownValidator typeKey => "No validator registered for type key: " ++ typeKey
  | constraintViolated label value =>
    "Value " ++ value.display ++ " violates constraint " ++ label

/-- There is no validator for the type key. -/
def isUnknownValidator : ValidationError → Bool
  | unknownValidator _ => true
  | constraintViolated _ _ => false

end ValidationError

/-- A resolved constraint. -/
structure Clause where
  label : String
  predicate : Predicate
  bound : Value

/-- Clauses that all have to hold. -/
structure Validator where
  clauses : List Clause := []

namespace Clause

/-- The clause of an operator and a bound. -/
def compile (r : Registry) (operator : Expr) (bound : Value) : Except RegistryError Clause :=
  (r.resolve operator).map fun p => ⟨Constraint.label operator bound, p, bound⟩

/-- The clause holds for a value. -/
def holds (c : Clause) (v : Value) : Bool := c.predicate.evaluate v c.bound

end Clause

namespace Validator

instance : Inhabited Validator := ⟨{}⟩

def size (v : Validator) : Nat := v.clauses.length

def isEmpty (v : Validator) : Bool := v.clauses.isEmpty

/-- The validator with a clause more. -/
def withClause (v : Validator) (r : Registry) (operator : Expr) (bound : Value) :
    Except RegistryError Validator :=
  (Clause.compile r operator bound).map fun c => ⟨v.clauses ++ [c]⟩

/-- Check a value: the first clause that fails is reported. -/
def check (v : Validator) (value : Value) : Except ValidationError Unit :=
  match v.clauses.find? fun c => !c.holds value with
  | some c => .error (.constraintViolated c.label value)
  | none => .ok ()

end Validator

/-- The checks of all type keys. -/
structure Validators where
  checks : OrderedMap (Value → Except ValidationError Unit) := .empty

namespace Validators

instance : Inhabited Validators := ⟨{}⟩

/-- Give a type key a check, in place of an earlier one. -/
def register (vs : Validators) (typeKey : String) (check : Value → Except ValidationError Unit) :
    Validators :=
  ⟨vs.checks.insert typeKey check⟩

def typeKeys (vs : Validators) : List String := vs.checks.keys

def contains (vs : Validators) (typeKey : String) : Bool := vs.checks.contains typeKey

/-- Check a value under a type key. -/
def validate (vs : Validators) (typeKey : String) (value : Value) : Except ValidationError Unit :=
  match vs.checks.get? typeKey with
  | some check => check value
  | none => .error (.unknownValidator typeKey)

/-- Constraints by type key, in the order in which the keys first appear; the first constraint
that does not resolve gives the error. -/
def group (r : Registry) (m : OrderedMap Validator) :
    List Constraint → Except RegistryError (OrderedMap Validator)
  | [] => .ok m
  | c :: cs =>
    match ((m.get? c.typeKey).getD {}).withClause r c.operator c.bound with
    | .error e => .error e
    | .ok v => group r (m.insert c.typeKey v) cs

/-- The checks of grouped validators. -/
def ofGroups (m : OrderedMap Validator) : Validators := ⟨m.map Validator.check⟩

/-- The validators of constraints. -/
def ofConstraints (r : Registry) (cs : List Constraint) : Except RegistryError Validators :=
  (group r .empty cs).map ofGroups

end Validators

/-- What building validators leaves. -/
def Journal.ofConstraints (r : Registry) (cs : List Constraint) : List Event :=
  match Validators.group r .empty cs with
  | .ok m => m.entries.map fun e => .validator e.1 e.2.size
  | .error e => Journal.lookup (.error e : Except RegistryError Validators)

end Verdict

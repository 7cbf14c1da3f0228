/-
  Why an operator cannot be registered, named or resolved. The wording of every case stands in
  `RegistryError.message`.
-/
namespace Verdict

/-- A failure of a registry, or of an operator expression on its way to one. -/
inductive RegistryError
  | unknownOperator (operator : String)
  | arityMismatch (operator : String) (expected found : Nat)
  | duplicateOperator (operator : String)
  | unknownAliasTarget (name target : String)
  | emptyIdentifier (expression : String)
  | keyCount (count : Nat)
deriving DecidableEq

namespace RegistryError

/-- The message of an expression that cannot be read. -/
def invalidExpression (expression reason : String) : String :=
  "Invalid operator expression '" ++ expression ++ "': " ++ reason

def message : RegistryError → String
  | unknownOperator operator => "Unknown operator: " ++ operator
  | arityMismatch operator expected found =>
    "Operator " ++ operator ++ " expects " ++ toString expected ++
      " operand expression(s), found " ++ toString found
  | duplicateOperator operator => "Operator already registered: " ++ operator
  | unknownAliasTarget name target =>
    "Alias " ++ name ++ " refers to unknown operator " ++ target
  | emptyIdentifier expression =>
    invalidExpression expression "empty operator identifier"
  | keyCount count =>
    invalidExpression ("\x7b" ++ toString count ++ " keys\x7d")
      "expected an object with exactly one combinator key"

/-- The error says that a name is not registered. -/
def isUnknownOperator : RegistryError → Bool
  | unknownOperator _ => true
  | _ => false

end RegistryError

end Verdict

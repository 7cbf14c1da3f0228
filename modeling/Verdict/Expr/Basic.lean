/-
  Operator expressions: a name, or a combinator's name applied to expressions. They say which
  predicate is wanted before any registry is asked for it. `names` lists them in the order in which
  a registry looks them up.
-/
namespace Verdict

/-- What is wanted of a registry. -/
inductive Expr
  | named (identifier : String)
  | apply (operator : String) (operands : List Expr)

namespace Expr

instance : Inhabited Expr := ⟨.named ""⟩

/-- The outermost name. -/
def operator : Expr → String
  | named identifier => identifier
  | apply operator _ => operator

def operands : Expr → List Expr
  | named _ => []
  | apply _ operands => operands

/-- The negation of an expression. -/
def not (e : Expr) : Expr := apply "not" [e]

/-- Both expressions. -/
def and (e f : Expr) : Expr := apply "and" [e, f]

/-- Either expression. -/
def or (e f : Expr) : Expr := apply "or" [e, f]

mutual
def decEq : (e f : Expr) → Decidable (e = f)
  | named a, named b => decidable_of_iff (a = b) (by simp)
  | apply a es, apply b fs =>
    have := decEqAll es fs
    decidable_of_iff (a = b ∧ es = fs) (by simp)
  | named _, apply _ _ => isFalse (by simp)
  | apply _ _, named _ => isFalse (by simp)

def decEqAll : (es fs : List Expr) → Decidable (es = fs)
  | [], [] => isTrue rfl
  | e :: es, f :: fs =>
    have := decEq e f
    have := decEqAll es fs
    decidable_of_iff (e = f ∧ es = fs) (by simp)
  | [], _ :: _ => isFalse (by simp)
  | _ :: _, [] => isFalse (by simp)
end

instance : DecidableEq Expr := decEq

/-! ## Names -/

mutual
/-- The names of an expression, an operator before those of its operands. -/
def names : Expr → List String
  | named identifier => [identifier]
  | apply operator operands => operator :: namesAll operands

def namesAll : List Expr → List String
  | [] => []
  | e :: es => names e ++ namesAll es
end

theorem names_named (name : String) : (named name).names = [name] := by simp [names]

theorem names_apply (name : String) (es : List Expr) :
    (apply name es).names = name :: namesAll es := by simp [names]

theorem namesAll_cons (e : Expr) (es : List Expr) :
    namesAll (e :: es) = e.names ++ namesAll es := by simp [namesAll]

end Expr

end Verdict
